import DemoQuery.Proofs.Clause.Reading

/-!
# Writing filters

Filters can be written from clauses. A value stands between quotes of either kind, escaped, so that
whatever it contains is read back as it was and ends neither its quotes nor its clause.
-/

namespace DemoQuery

open Text Grammar

/-! ### Well-formed clauses -/

/-- A list has values, none of them empty. A range has a bound, and digits in each bound that it
has. -/
def Parameter.WellFormed : Parameter → Prop
  | .list values       => values ≠ [] ∧ "" ∉ values
  | .range lower upper => (lower ≠ none ∨ upper ≠ none) ∧
      ∀ digits ∈ lower.toList ++ upper.toList, digits ≠ "" ∧ IsRun Char.isDigit digits.toList

instance : DecidablePred Parameter.WellFormed
  | .list values       => inferInstanceAs (Decidable (values ≠ [] ∧ "" ∉ values))
  | .range lower upper => inferInstanceAs (Decidable (_ ∧ ∀ digits ∈ lower.toList ++ upper.toList,
      digits ≠ "" ∧ IsRun Char.isDigit digits.toList))

/-- A key of key characters, of which there may be none, with a parameter that asks for
something. -/
structure Clause.WellFormed (c : Clause) : Prop where
  key       : IsRun isKeyChar c.key.toList
  parameter : c.parameter.WellFormed

instance : DecidablePred Clause.WellFormed := fun c =>
  decidable_of_iff (IsRun isKeyChar c.key.toList ∧ c.parameter.WellFormed)
    ⟨fun ⟨hkey, hp⟩ => ⟨hkey, hp⟩, fun ⟨hkey, hp⟩ => ⟨hkey, hp⟩⟩

/-! ### The writer -/

/-- The quotes that a value can stand between. -/
inductive Quote where
  | double
  | single
  deriving DecidableEq, Repr

/-- The character of a quote. -/
def Quote.char : Quote → Char
  | .double => '"'
  | .single => '\''

/-- A value between two quotes. -/
def Quote.write (quote : Quote) (value : String) : List Char :=
  quote.char :: escape value.toList ++ [quote.char]

/-- What is free in writing a parameter: the quotes of each value, and whether the parentheses of a
single value are left out. -/
structure Clause.Style where
  quote : Nat → Quote
  bare  : Bool

/-- Values in quotes with commas between them. -/
def writeValues (quote : Nat → Quote) (values : List String) : List Char :=
  [','].intercalate (values.mapIdx fun i value => (quote i).write value)

/-- The text of a parameter. -/
def Parameter.write (style : Clause.Style) : Parameter → List Char
  | .list values       =>
    if style.bare ∧ values.length = 1 then writeValues style.quote values
    else '(' :: writeValues style.quote values ++ [')']
  | .range lower upper => (lower.getD "").toList ++ '.' :: '.' :: (upper.getD "").toList

/-- The text of a clause. -/
def Clause.write (style : Clause.Style) (c : Clause) : List Char :=
  keyText c.negated c.key.toList ++ c.parameter.write style

/-- The text of a filter: the texts of its clauses, each in a style of its own, with commas between
them. -/
def Clause.writeAll (style : Nat → Clause.Style) (clauses : List Clause) : String :=
  .ofList ([','].intercalate (clauses.mapIdx fun i c => c.write (style i)))

/-! ### What is written is derived -/

variable {q : Char} {quote : Quote} {quotes : Nat → Quote} {style : Clause.Style}
  {cs : List Char} {v : String} {vs : List String} {p : Parameter} {c : Clause} {l : List Clause}

lemma Quote.char_eq (quote : Quote) : quote.char = '"' ∨ quote.char = '\'' := by
  cases quote with
  | double => exact .inl rfl
  | single => exact .inr rfl

/-- An escaped text can stand between two quotes, with itself as the value. -/
lemma quoted_escape (hq : q = '"' ∨ q = '\'') : Quoted q (escape cs) cs := by
  induction cs with
  | nil => exact .nil
  | cons c cs ih =>
    by_cases hc : isEscaped c
    · rw [escape, if_pos hc]
      exact .escaped (isEscaped_iff.1 hc) ih
    · rw [escape, if_neg hc]
      refine .plain ?_ ?_ ih
      · rintro rfl
        exact hc (isEscaped_iff.2 (.inr hq))
      · rintro rfl
        exact hc (isEscaped_iff.2 (.inl rfl))

lemma quotedValue_write (quote : Quote) (v : String) : QuotedValue (quote.write v) v := by
  have h : Quoted quote.char (escape v.toList) v.toList := quoted_escape quote.char_eq
  have hvalue := QuotedValue.mk quote.char_eq h
  rwa [String.ofList_toList] at hvalue

lemma writeValues_cons {w : String} : writeValues quotes (v :: w :: vs) =
    (quotes 0).write v ++ ',' :: writeValues (fun i => quotes (i + 1)) (w :: vs) := by
  simp [writeValues]

lemma values_writeValues (quotes : Nat → Quote) (hne : vs ≠ []) :
    Values QuotedValue (writeValues quotes vs) vs := by
  induction vs generalizing quotes with
  | nil => exact absurd rfl hne
  | cons v vs ih =>
    have hv := quotedValue_write (quotes 0) v
    cases vs with
    | nil =>
      simp only [writeValues, List.mapIdx_cons, List.mapIdx_nil, List.intercalate_singleton]
      exact .last hv
    | cons w vs =>
      rw [writeValues_cons]
      have hvs := ih (fun i => quotes (i + 1)) (List.cons_ne_nil w vs)
      simpa using Values.more hv isRun_nil isRun_nil hvs

lemma keeps_of_wellFormed (h : p.WellFormed) : Keeps p p := by
  cases p with
  | list vs =>
    have hfilter : vs.filter (· ≠ "") = vs := by
      rw [List.filter_eq_self]
      intro v hv
      exact decide_eq_true (by rintro rfl; exact h.2 hv)
    have hkeeps : Keeps (.list vs) (.list (vs.filter (· ≠ ""))) := .list (by rw [hfilter]; exact h.1)
    rwa [hfilter] at hkeeps
  | range lower upper => exact .range

lemma bound?_getD {bound : Option String} (h : ∀ digits ∈ bound, digits ≠ "") :
    bound? (bound.getD "").toList = bound := by
  cases bound with
  | none => rfl
  | some digits =>
    rw [Option.getD_some, bound?_of_ne_nil (by simpa using h digits rfl), String.ofList_toList]

lemma isRun_getD {bound : Option String} (h : ∀ digits ∈ bound, IsRun Char.isDigit digits.toList) :
    IsRun Char.isDigit (bound.getD "").toList := by
  cases bound with
  | none => exact isRun_nil
  | some digits => exact h digits rfl

lemma derives_write_range {lower upper : Option String}
    (h : (Parameter.range lower upper).WellFormed) :
    Derives .range ((Parameter.range lower upper).write style) (.range lower upper) := by
  obtain ⟨hsome, hbounds⟩ := h
  have hl : ∀ digits ∈ lower, digits ≠ "" ∧ IsRun Char.isDigit digits.toList := fun digits hd =>
    hbounds digits (List.mem_append_left _ (Option.mem_toList.2 hd))
  have hu : ∀ digits ∈ upper, digits ≠ "" ∧ IsRun Char.isDigit digits.toList := fun digits hd =>
    hbounds digits (List.mem_append_right _ (Option.mem_toList.2 hd))
  have hlower := bound?_getD fun digits hd => (hl digits hd).1
  have hupper := bound?_getD fun digits hd => (hu digits hd).1
  have hderives := derives_range (isRun_getD fun digits hd => (hl digits hd).2)
    (isRun_getD fun digits hd => (hu digits hd).2) (by
      rwa [ne_eq, ne_eq, ← bound?_eq_none_iff, ← bound?_eq_none_iff, hlower, hupper])
  rw [hlower, hupper] at hderives
  exact hderives

lemma derives_write (h : p.WellFormed) : ∃ form, Derives form (p.write style) p := by
  cases p with
  | list vs =>
    rw [Parameter.write]
    split
    · next hbare =>
      obtain ⟨v, rfl⟩ := List.length_eq_one_iff.1 hbare.2
      refine ⟨.quotedValue, ?_⟩
      simp only [writeValues, List.mapIdx_cons, List.mapIdx_nil, List.intercalate_singleton]
      exact .quotedValue (quotedValue_write (style.quote 0) v)
    · have hvs : Values QuotedValue (writeValues style.quote vs) vs := values_writeValues _ h.1
      exact ⟨.quotedTuple, by simpa using Derives.quotedTuple isRun_nil hvs isRun_nil .absent⟩
  | range lower upper => exact ⟨.range, derives_write_range h⟩

lemma isClause_write (h : c.WellFormed) : IsClause (c.write style) c := by
  obtain ⟨form, hp⟩ := derives_write h.parameter
  have hc : IsClause (keyText c.negated c.key.toList ++ [] ++ c.parameter.write style)
      ⟨.ofList c.key.toList, c.negated, c.parameter⟩ :=
    .mk h.key isRun_nil hp (keeps_of_wellFormed h.parameter)
  rwa [List.append_nil, String.ofList_toList] at hc

lemma clauses_write (styles : Nat → Clause.Style) (h : ∀ c ∈ l, c.WellFormed) :
    Clauses ([','].intercalate (l.mapIdx fun i c => c.write (styles i))) l := by
  induction l generalizing styles with
  | nil => exact .nil
  | cons c l ih =>
    have hc : IsClause (c.write (styles 0)) c := isClause_write (h c List.mem_cons_self)
    cases l with
    | nil => simpa using Clauses.last hc isRun_nil
    | cons d l =>
      have hl := ih (fun i => styles (i + 1)) fun e he => h e (List.mem_cons_of_mem c he)
      simpa using Clauses.more hc isRun_nil isRun_nil hl

/-- What is written is read back: in whatever style well-formed clauses are written, the text has
exactly these clauses. -/
theorem Clause.parse_writeAll (styles : Nat → Clause.Style) {clauses : List Clause}
    (h : ∀ c ∈ clauses, c.WellFormed) :
    Clause.parse (Clause.writeAll styles clauses) = .ok clauses := by
  rw [Clause.parse, Clause.writeAll, String.toList_ofList]
  exact readClauses_eq_ok_iff.2 (.mk isRun_nil (clauses_write styles h))

/-- Values made of quotes, commas, colons and parentheses are read back, one between double quotes
and one between single ones, and the clause behind them is not theirs. -/
theorem Clause.parse_writeAll_hostile_values :
    Clause.parse "!name:(\"\\\"),x:\\'\",'\\'),!:(\\\\'),:'\n!'" =
      .ok [⟨"name", true, .list ["\"),x:'", "'),!:(\\"]⟩, ⟨"", false, .list ["\n!"]⟩] := by
  have h := Clause.parse_writeAll
    (fun i => ⟨fun j => if i + j = 0 then .double else .single, true⟩)
    (show ∀ c ∈ ([⟨"name", true, .list ["\"),x:'", "'),!:(\\"]⟩,
      ⟨"", false, .list ["\n!"]⟩] : List Clause), c.WellFormed by decide)
  exact h

end DemoQuery
