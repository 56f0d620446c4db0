import DemoQuery.Proofs.Clause.Writing
import DemoQuery.Proofs.Query.Meaning
import DemoQuery.Proofs.Query.Refusals

/-!
# Whole numbers in filters

A filter asks for a whole number by its decimal form, sign included, or for the numbers between two
bounds by the digits of these. Digits may be written in any number, so a bound can be one that no
whole number of 64 bits reaches; the first such bound is what the filter is refused for.
-/

namespace DemoQuery

open Text Grammar

variable {k : Key} {f : NumberField} {r : Record} {q : Query} {p : Parameter} {e : FilterError}
  {form : Form} {cs : List Char} {s : String} {n : Int} {lower upper : Option String}

/-! ### Decimal forms in filters -/

/-- The decimal form of a number can stand in a filter without quotes. -/
lemma isRun_isKeyChar_ofInteger (n : Int) : IsRun isKeyChar (ofInteger n).toList := by
  cases n with
  | ofNat n =>
    rw [toList_ofInteger_ofNat]
    exact isRun_isKeyChar_of_isDigit (isRun_toDigits n)
  | negSucc n =>
    rw [toList_ofInteger_negSucc]
    exact List.forall_mem_cons.2 ⟨by decide, isRun_isKeyChar_of_isDigit (isRun_toDigits (n + 1))⟩

/-- Digits without a sign denote no number below zero, so only the upper limit of 64 bits binds
them. -/
lemma Text.isInteger_iff_of_isDigits (h : IsDigits s.toList) :
    IsInteger s ↔ placeValue s.toList ≤ 9223372036854775807 := by
  simp only [IsInteger, numeral_iff_of_isDigits h, exists_eq_left, FitsWord]
  omega

/-! ### A filter of one clause -/

lemma Key.isRun_name (hk : k ∈ all) : IsRun isKeyChar k.name.toList := by
  have hall : ∀ k ∈ all, IsRun isKeyChar k.name.toList := by decide +kernel
  exact hall k hk

/-- A key, a blank and the text of a parameter are read as that parameter of that key. -/
lemma Clause.parse_key (hk : k ∈ Key.all) (h : Derives form cs p) (hp : p.WellFormed) :
    Clause.parse (k.name ++ ": " ++ .ofList cs) = .ok [⟨k.name, false, p⟩] := by
  have hclause : IsClause (keyText false k.name.toList ++ [' '] ++ cs)
      ⟨.ofList k.name.toList, false, p⟩ :=
    .mk (Key.isRun_name hk) (by decide) h (keeps_of_wellFormed hp)
  have hfilter := IsFilter.mk isRun_nil (.last hclause isRun_nil)
  rw [String.ofList_toList] at hfilter
  rw [Clause.parse, readClauses_eq_ok_iff]
  simpa [keyText] using hfilter

/-- Such a filter is the query of its clause, or refused as the clause is. -/
lemma Query.parse_key (hk : k ∈ Key.all) (h : Derives form cs p) (hp : p.WellFormed) :
    Query.parse (k.name ++ ": " ++ .ofList cs) =
      (⟨k.name, false, p⟩ : Clause).requirement.map Requirement.query := by
  rw [Query.parse, Clause.parse_key hk h hp, ← ofClauses_singleton]
  rfl

/-! ### What is asked of a number -/

lemma Clause.requirement_equal (hk : k ∈ Key.all) (hf : k.field = .number f)
    (hs : Numeral s.toList n) (hn : FitsWord n) :
    (⟨k.name, false, .list [s]⟩ : Clause).requirement =
      .ok ⟨k, false, k.needs, .compare f .equal n⟩ := by
  have hread : readInteger? s = some n := readInteger?_eq_some_iff.2 ⟨hs, hn⟩
  refine requirement_eq_ok_iff.2 ⟨k, _, Key.find?_name hk, ?_, ?_, rfl⟩
  · exact Parameter.validate_eq_ok_iff.2 ⟨by simp, by simpa using hs.ne_empty.symm⟩
  · simp [Key.expr, hf, Key.number, hread, Expr.any, Expr.negateIf, bind, Except.bind, pure,
      Except.pure]

/-- The decimal form of a number is a comparison with that number. -/
lemma Query.parse_ofInteger (hk : k ∈ Key.all) (hf : k.field = .number f) (hn : FitsWord n) :
    Query.parse (k.name ++ ": " ++ ofInteger n) =
      .ok (⟨k, false, k.needs, .compare f .equal n⟩ : Requirement).query := by
  have hnumeral := numeral_ofInteger n
  have hparse := parse_key hk (.plainValue (isRun_isKeyChar_ofInteger n))
    (by rw [String.ofList_toList]; exact ⟨by simp, by simpa using hnumeral.ne_empty.symm⟩)
  rw [String.ofList_toList] at hparse
  rw [hparse, Clause.requirement_equal hk hf hnumeral hn]
  rfl

lemma Query.matches_equal_iff :
    (⟨k, false, k.needs, .compare f .equal n⟩ : Requirement).query.matches r ↔ f.read r = n := by
  simp [Requirement.query, Query.matches, Requirement.holds, Expr.holds, Comparison.holds]

/-- A clause that asks something of a number is refused only for values that are no numbers. -/
lemma Clause.requirement_eq_error_iff_of_number {negated : Bool} (hk : k ∈ Key.all)
    (hf : k.field = .number f) (hp : p.Asks) :
    (⟨k.name, negated, p⟩ : Clause).requirement = .error e ↔
      p.values.mapM k.number = .error e := by
  have hvalid : p.validate k.name = .ok () := Parameter.validate_eq_ok_iff.2 hp
  simp [requirement_eq_error_iff_of_mem hk, hvalid, hp, Key.expr_eq_error_iff, hf]

lemma Clause.exists_requirement_iff_of_number {negated : Bool} (hk : k ∈ Key.all)
    (hf : k.field = .number f) (hp : p.Asks) :
    (∃ q, (⟨k.name, negated, p⟩ : Clause).requirement = .ok q) ↔ ∀ v ∈ p.values, IsInteger v := by
  simp only [exists_ok_iff, ne_eq, requirement_eq_error_iff_of_number hk hf hp]
  simp only [← ne_eq, ← exists_ok_iff, exists_mapM_eq_ok_iff, Key.exists_number_eq_ok_iff]

/-! ### Ranges of digits -/

/-- The text of a range with the bounds that are given. -/
def rangeText (lower upper : Option String) : String :=
  lower.getD "" ++ ".." ++ upper.getD ""

lemma ofList_write_range {style : Clause.Style} :
    .ofList ((Parameter.range lower upper).write style) = rangeText lower upper := by
  simp [Parameter.write, rangeText, String.ext_iff]

/-- A range has a bound, and its bounds are written in digits. -/
structure IsDigitRange (lower upper : Option String) : Prop where
  bounded : lower ≠ none ∨ upper ≠ none
  digits  : ∀ s ∈ lower.toList ++ upper.toList, IsDigits s.toList

namespace IsDigitRange

lemma wellFormed (h : IsDigitRange lower upper) : (Parameter.range lower upper).WellFormed := by
  refine ⟨h.bounded, fun s hs => ⟨?_, (h.digits s hs).2⟩⟩
  rintro rfl
  exact (h.digits "" hs).1 rfl

lemma asks (h : IsDigitRange lower upper) : (Parameter.range lower upper).Asks :=
  h.bounded

lemma parse_eq (h : IsDigitRange lower upper) (hk : k ∈ Key.all) :
    Query.parse (k.name ++ ": " ++ rangeText lower upper) =
      (⟨k.name, false, .range lower upper⟩ : Clause).requirement.map Requirement.query := by
  -- the text of a range is the same in every style
  have hderives : Derives .range ((Parameter.range lower upper).write ⟨fun _ => .double, true⟩)
      (.range lower upper) := derives_write_range h.wellFormed
  have hparse := Query.parse_key hk hderives h.wellFormed
  rwa [ofList_write_range] at hparse

/-- A record satisfies a range of digits if the number that the key reads lies between the numbers
that the digits stand for. -/
lemma satisfies_iff (h : IsDigitRange lower upper) (hk : k ∈ Key.all) (hf : k.field = .number f) :
    r.Satisfies k.name (.range lower upper) ↔
      (∀ a ∈ lower, placeValue a.toList ≤ f.read r) ∧
        ∀ b ∈ upper, f.read r ≤ placeValue b.toList := by
  rw [Record.satisfies_range_iff (Key.find?_name hk) hf]
  refine and_congr (forall₂_congr fun a ha => ?_) (forall₂_congr fun b hb => ?_)
  · have hdigits := h.digits a (List.mem_append_left _ (Option.mem_toList.2 ha))
    simp only [numeral_iff_of_isDigits hdigits, exists_eq_left]
  · have hdigits := h.digits b (List.mem_append_right _ (Option.mem_toList.2 hb))
    simp only [numeral_iff_of_isDigits hdigits, exists_eq_left]

lemma isInteger_iff (h : IsDigitRange lower upper) (hs : s ∈ lower.toList ++ upper.toList) :
    IsInteger s ↔ placeValue s.toList ≤ 9223372036854775807 :=
  isInteger_iff_of_isDigits (h.digits s hs)

lemma exists_parse_iff (h : IsDigitRange lower upper) (hk : k ∈ Key.all)
    (hf : k.field = .number f) :
    (∃ q, Query.parse (k.name ++ ": " ++ rangeText lower upper) = .ok q) ↔
      ∀ s ∈ lower.toList ++ upper.toList, placeValue s.toList ≤ 9223372036854775807 := by
  calc (∃ q, Query.parse (k.name ++ ": " ++ rangeText lower upper) = .ok q)
      ↔ ∃ p, (⟨k.name, false, .range lower upper⟩ : Clause).requirement = .ok p := by
        rw [h.parse_eq hk]
        simp
    _ ↔ ∀ s ∈ lower.toList ++ upper.toList, IsInteger s :=
        Clause.exists_requirement_iff_of_number hk hf h.asks
    _ ↔ _ := forall₂_congr fun s hs => h.isInteger_iff hs

lemma matches_iff (h : IsDigitRange lower upper) (hk : k ∈ Key.all) (hf : k.field = .number f)
    (hq : Query.parse (k.name ++ ": " ++ rangeText lower upper) = .ok q) :
    q.matches r ↔ (∀ a ∈ lower, placeValue a.toList ≤ f.read r) ∧
      ∀ b ∈ upper, f.read r ≤ placeValue b.toList := by
  rw [h.parse_eq hk, map_eq_ok_iff] at hq
  obtain ⟨p, hp, rfl⟩ := hq
  have hholds : p.holds r ↔ Clause.Holds r ⟨k.name, false, .range lower upper⟩ :=
    Clause.holds_requirement_iff hp
  simpa [Requirement.query, Query.matches, hholds, Clause.Holds] using h.satisfies_iff hk hf

lemma parse_eq_error_iff (h : IsDigitRange lower upper) (hk : k ∈ Key.all)
    (hf : k.field = .number f) :
    Query.parse (k.name ++ ": " ++ rangeText lower upper) = .error e ↔
      ∃ before s after, lower.toList ++ upper.toList = before ++ s :: after ∧
        (∀ b ∈ before, placeValue b.toList ≤ 9223372036854775807) ∧
        9223372036854775807 < placeValue s.toList ∧ e = .invalidValue k.name s := by
  rw [h.parse_eq hk, map_eq_error_iff,
    Clause.requirement_eq_error_iff_of_number hk hf h.asks, Parameter.values,
    Key.mapM_number_eq_error_iff]
  refine exists_congr fun before => exists_congr fun s => exists_congr fun after =>
    and_congr_right fun heq => ?_
  have hmem : ∀ v ∈ before ++ [s], v ∈ lower.toList ++ upper.toList := by
    rw [heq]
    intro v hv
    simp only [List.mem_append, List.mem_cons, List.not_mem_nil, or_false] at hv ⊢
    tauto
  rw [forall₂_congr fun b hb => h.isInteger_iff (hmem b (List.mem_append_left _ hb)),
    h.isInteger_iff (hmem s (by simp)), not_le]

end IsDigitRange

/-- Whole numbers are read exactly. The decimal form of a number of 64 bits asks for that number and
nothing else. A range of digits makes a query exactly if each of its bounds stands for a number of
64 bits, and then matches the records with a number between the bounds. Else it is refused for the
first bound that stands for more, given as it is written. -/
theorem Query.parse_integers {k : Key} {f : NumberField} (hk : k ∈ Key.all)
    (hf : k.field = .number f) :
    (∀ n, FitsWord n → ∃ q, Query.parse (k.name ++ ": " ++ ofInteger n) = .ok q ∧
      q.requirements = [⟨k, false, k.needs, .compare f .equal n⟩] ∧ q.needs = k.needs ∧
      ∀ r, q.matches r ↔ f.read r = n) ∧
    ∀ lower upper, IsDigitRange lower upper →
      ((∃ q, Query.parse (k.name ++ ": " ++ rangeText lower upper) = .ok q) ↔
        ∀ s ∈ lower.toList ++ upper.toList, placeValue s.toList ≤ 9223372036854775807) ∧
      (∀ q, Query.parse (k.name ++ ": " ++ rangeText lower upper) = .ok q → ∀ r,
        q.matches r ↔ (∀ a ∈ lower, placeValue a.toList ≤ f.read r) ∧
          ∀ b ∈ upper, f.read r ≤ placeValue b.toList) ∧
      ∀ e, Query.parse (k.name ++ ": " ++ rangeText lower upper) = .error e ↔
        ∃ before s after, lower.toList ++ upper.toList = before ++ s :: after ∧
          (∀ b ∈ before, placeValue b.toList ≤ 9223372036854775807) ∧
          9223372036854775807 < placeValue s.toList ∧ e = .invalidValue k.name s := by
  refine ⟨fun n hn => ?_, fun lower upper h => ⟨h.exists_parse_iff hk hf,
    fun q hq r => h.matches_iff hk hf hq, fun e => h.parse_eq_error_iff hk hf⟩⟩
  exact ⟨_, Query.parse_ofInteger hk hf hn, rfl, rfl, fun r => matches_equal_iff⟩

/-- The least number there is, bounds with leading zeros up to the greatest number, and two bounds
of which both are too large. -/
theorem Query.parse_integers_extremes :
    (∃ q, Query.parse "moddate: -9223372036854775808" = .ok q ∧
      ∀ r, q.matches r ↔ NumberField.modified.read r = -9223372036854775808) ∧
    (∃ q, Query.parse "moddate: 007..0009223372036854775807" = .ok q ∧
      ∀ r, q.matches r ↔ 7 ≤ NumberField.modified.read r ∧
        NumberField.modified.read r ≤ 9223372036854775807) ∧
    Query.parse "moddate: 009223372036854775808..9999999999999999999" =
      .error (.invalidValue "moddate" "009223372036854775808") := by
  obtain ⟨hnumber, hrange⟩ := @parse_integers
    ⟨"moddate", .number .modified, { fileData := true }⟩ .modified (by decide) rfl
  refine ⟨?_, ?_, ?_⟩
  · obtain ⟨q, hq, -, -, hmatches⟩ := hnumber (-9223372036854775808) (by decide)
    exact ⟨q, hq, hmatches⟩
  · obtain ⟨hok, hmatches, -⟩ :=
      hrange (some "007") (some "0009223372036854775807") ⟨by decide, by decide⟩
    obtain ⟨q, hq⟩ := hok.2 (by decide +kernel)
    refine ⟨q, hq, fun r => ?_⟩
    have hlower : (placeValue "007".toList : Int) = 7 := by decide +kernel
    have hupper : (placeValue "0009223372036854775807".toList : Int) = 9223372036854775807 := by
      decide +kernel
    have hr := hmatches q hq r
    simp only [Option.mem_def, Option.some.injEq, forall_eq'] at hr
    rwa [hlower, hupper] at hr
  · obtain ⟨-, -, herror⟩ :=
      hrange (some "009223372036854775808") (some "9999999999999999999") ⟨by decide, by decide⟩
    exact (herror _).2 ⟨[], _, [_], rfl, by simp, by decide +kernel, rfl⟩

end DemoQuery
