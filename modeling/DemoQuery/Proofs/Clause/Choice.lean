import DemoQuery.Proofs.Clause.Forms

/-!
# Choosing a form

How a text starts tells the only form of parameter that can be read from it, so a parameter is read
in whatever form derives it and the order in which the forms are tried does not matter.
-/

namespace DemoQuery

open Text Grammar

variable {form : Form} {cs text behind rest ws ds : List Char} {p : Parameter}

/-! ### How a text starts -/

/-- Whether a text starts with a quote. -/
def startsQuoted (cs : List Char) : Bool :=
  cs.head? == some '"' || cs.head? == some '\''

/-- The only form that a text can be read as, by how it starts. -/
def Form.of (cs : List Char) : Form :=
  if cs.head? = some '(' then
    if startsQuoted (skipBlanks cs.tail) then .quotedTuple else .plainTuple
  else if startsQuoted cs then .quotedValue
  else if (cs.dropWhile Char.isDigit).head? = some '.' then .range
  else .plainValue

lemma stopsAt_of_startsQuoted (h : startsQuoted cs) : StopsAt isBlank cs := by
  cases cs with
  | nil => exact stopsAt_nil
  | cons c cs =>
    rw [stopsAt_cons]
    rcases (by simpa [startsQuoted] using h : c = '"' ∨ c = '\'') with rfl | rfl <;> decide

lemma startsQuoted_of_quotedValue {v : String} (h : QuotedValue text v) :
    startsQuoted (text ++ rest) := by
  cases h with
  | mk hq _ => rcases hq with rfl | rfl <;> rfl

lemma startsQuoted_of_values {vs : List String} (h : Values QuotedValue cs vs) :
    startsQuoted (cs ++ rest) := by
  obtain ⟨text, v, ds, hv, rfl⟩ := h.exists_first
  rw [List.append_assoc]
  exact startsQuoted_of_quotedValue hv

lemma startsQuoted_of_isKeyChar {c : Char} (h : isKeyChar c) : startsQuoted (c :: cs) = false := by
  have h₁ : c ≠ '"' := by rintro rfl; exact absurd h (by decide)
  have h₂ : c ≠ '\'' := by rintro rfl; exact absurd h (by decide)
  simp [startsQuoted, h₁, h₂]

lemma exists_isKeyChar_of_values {vs : List String} (h : Values PlainValue cs vs) :
    ∃ c ds, cs = c :: ds ∧ isKeyChar c := by
  obtain ⟨text, v, ds, ⟨hne, hrun⟩, rfl⟩ := h.exists_first
  obtain ⟨c, cs', rfl⟩ := List.exists_cons_of_ne_nil hne
  exact ⟨c, _, rfl, hrun c (by simp)⟩

lemma Form.of_tuple (hw : IsRun isBlank ws) (hcs : StopsAt isBlank cs) :
    Form.of ('(' :: (ws ++ cs)) = if startsQuoted cs then .quotedTuple else .plainTuple := by
  simp only [of, List.head?_cons, List.tail_cons, skipBlanks_append hw hcs, if_true]

/-- A character that opens neither a tuple nor a value in quotes. -/
def IsBare (c : Char) : Prop :=
  c ≠ '(' ∧ c ≠ '"' ∧ c ≠ '\''

lemma Form.of_bare (h : ∀ c ∈ cs.head?, IsBare c) :
    Form.of cs = if (cs.dropWhile Char.isDigit).head? = some '.' then .range else .plainValue := by
  cases cs with
  | nil => rfl
  | cons c cs =>
    obtain ⟨h₁, h₂, h₃⟩ := h c (by simp)
    simp [of, startsQuoted, h₁, h₂, h₃]

lemma isBare_of_isKeyChar {c : Char} (h : isKeyChar c) : IsBare c := by
  refine ⟨?_, ?_, ?_⟩ <;> rintro rfl <;> exact absurd h (by decide)

lemma isBare_of_isBlank {c : Char} (h : isBlank c) : IsBare c := by
  refine ⟨?_, ?_, ?_⟩ <;> rintro rfl <;> exact absurd h (by decide)

/-- The first character behind a parameter is a blank or a comma. -/
lemma Grammar.Ends.head? {c : Char} (h : Ends behind rest) (hc : c ∈ behind.head?) :
    isBlank c ∨ c = ',' := by
  cases h with
  | filter hw => exact .inl (hw c (List.mem_of_mem_head? hc))
  | @comma ws _ hw =>
    cases ws with
    | nil => exact .inr (by simpa using hc.symm)
    | cons w ws =>
      obtain rfl : w = c := by simpa using hc
      exact .inl (hw w (by simp))

lemma Form.of_range (hds : IsRun Char.isDigit ds) : Form.of (ds ++ '.' :: cs) = .range := by
  have hbare : ∀ c ∈ (ds ++ '.' :: cs).head?, IsBare c := by
    intro c hc
    cases ds with
    | nil =>
      obtain rfl : '.' = c := by simpa using hc
      refine ⟨?_, ?_, ?_⟩ <;> decide
    | cons d ds =>
      obtain rfl : d = c := by simpa using hc
      exact isBare_of_isKeyChar (isKeyChar_of_isDigit (hds d (by simp)))
  have hdot : StopsAt Char.isDigit ('.' :: cs) := stopsAt_cons.2 (by decide)
  rw [of_bare hbare, dropWhile_run_append hds hdot]
  rfl

/-- Behind the digits that it starts with, a value without quotes goes on with no dot. -/
lemma head?_dropWhile_ne_dot (h : IsRun isKeyChar text) (he : Ends behind rest) :
    ((text ++ behind).dropWhile Char.isDigit).head? ≠ some '.' := by
  intro hdot
  rw [List.dropWhile_append] at hdot
  split at hdot
  · rw [dropWhile_of_stopsAt he.stopsAt.isDigit] at hdot
    rcases he.head? hdot with hb | hcomma
    · exact absurd hb (by decide)
    · exact absurd hcomma (by decide)
  · next hne =>
    obtain ⟨d, ds, hd⟩ := List.exists_cons_of_ne_nil (mt List.isEmpty_iff.2 hne)
    have hmem : d ∈ text :=
      (List.dropWhile_suffix Char.isDigit).subset (hd ▸ List.mem_cons_self)
    rw [hd] at hdot
    obtain rfl : d = '.' := by simpa using hdot
    exact absurd (h '.' hmem) (by decide)

lemma Form.of_plainValue (h : IsRun isKeyChar text) (he : Ends behind rest) :
    Form.of (text ++ behind) = .plainValue := by
  have hbare : ∀ c ∈ (text ++ behind).head?, IsBare c := by
    intro c hc
    cases text with
    | nil =>
      rcases he.head? hc with hb | rfl
      · exact isBare_of_isBlank hb
      · refine ⟨?_, ?_, ?_⟩ <;> decide
    | cons d ds =>
      obtain rfl : d = c := by simpa using hc
      exact isBare_of_isKeyChar (h d (by simp))
  rw [of_bare hbare, if_neg (head?_dropWhile_ne_dot h he)]

lemma Form.of_of_derives (h : Derives form text p) (he : Ends behind rest) :
    Form.of (text ++ behind) = form := by
  cases h with
  | quotedTuple hw hs hw' ht =>
    simp only [List.append_assoc, List.cons_append]
    rw [of_tuple hw (stopsAt_of_startsQuoted (startsQuoted_of_values hs)),
      if_pos (startsQuoted_of_values hs)]
  | plainTuple hw hs hw' =>
    obtain ⟨c, ds, rfl, hc⟩ := exists_isKeyChar_of_values hs
    simp only [List.append_assoc, List.cons_append]
    rw [of_tuple hw (stopsAt_cons.2 (isBlank_of_isKeyChar hc)), startsQuoted_of_isKeyChar hc]
    rfl
  | rangeBetween _ hds _ _ =>
    rw [List.append_assoc]
    exact of_range hds
  | rangeFrom _ hds =>
    rw [List.append_assoc]
    exact of_range hds
  | rangeTo _ _ => exact of_range isRun_nil
  | plainValue h => exact of_plainValue h he
  | quotedValue h =>
    cases h with
    | mk hq _ => rcases hq with rfl | rfl <;> rfl

/-! ### At most one form -/

/-- At most one form can be read from a text. -/
theorem Form.eq_of_read? {x : Parameter × List Char} (h : form.read? cs = some x) :
    form = Form.of cs := by
  obtain ⟨text, behind, hderives, hend, rfl⟩ := read?_eq_some_iff.1 h
  exact (of_of_derives hderives hend).symm

/-- A form that can be read is found among any forms that it is one of, in whatever order they are
tried. -/
theorem Form.findSome?_read?_eq_some {forms : List Form} {x : Parameter × List Char}
    (hmem : form ∈ forms) (h : form.read? cs = some x) :
    forms.findSome? (·.read? cs) = some x := by
  induction forms with
  | nil => cases hmem
  | cons f fs ih =>
    rw [List.findSome?_cons]
    cases hf : f.read? cs with
    | some y =>
      obtain rfl := (eq_of_read? hf).trans (eq_of_read? h).symm
      exact hf.symm.trans h
    | none =>
      refine ih ((List.mem_cons.1 hmem).resolve_left ?_)
      rintro rfl
      rw [h] at hf
      cases hf

lemma Form.mem_all : form ∈ Form.all := by
  cases form <;> decide

/-- A parameter is read exactly if some form derives it up to an end of its clause. -/
theorem readParameter?_eq_some_iff : readParameter? cs = some (p, rest) ↔
    ∃ form text behind, Derives form text p ∧ Ends behind rest ∧ cs = text ++ behind := by
  constructor
  · intro h
    obtain ⟨form, -, hread⟩ := List.exists_of_findSome?_eq_some h
    exact ⟨form, Form.read?_eq_some_iff.1 hread⟩
  · rintro ⟨form, hform⟩
    exact Form.findSome?_read?_eq_some Form.mem_all (Form.read?_eq_some_iff.2 hform)

end DemoQuery
