import DemoQuery.Proofs.Text.Digits
import DemoQuery.Text.Showing
import Mathlib.Data.Nat.Digits.Defs

/-!
# Decimal numerals

What a decimal numeral denotes, said by place value and apart from the way it is read. Reading
accepts exactly the numerals whose number fits in 64 bits, and answers with that number.
-/

namespace DemoQuery.Text

/-- The number that decimal digits stand for: the last counts ones, the one before it tens. -/
def placeValue (ds : List Char) : Nat :=
  Nat.ofDigits 10 (ds.reverse.map fun d => d.toNat - '0'.toNat)

/-- A text that is one or more decimal digits. -/
def IsDigits (ds : List Char) : Prop :=
  ds ≠ [] ∧ ∀ d ∈ ds, d.isDigit

instance : DecidablePred IsDigits := fun ds =>
  decidable_of_iff (ds ≠ [] ∧ ds.all Char.isDigit) (and_congr_right fun _ => List.all_eq_true)

/-- The numerals and what they denote: digits, with or without a sign in front. -/
inductive Numeral : List Char → Int → Prop
  | unsigned {ds : List Char} (h : IsDigits ds) : Numeral ds (placeValue ds)
  | plus {ds : List Char} (h : IsDigits ds) : Numeral ('+' :: ds) (placeValue ds)
  | minus {ds : List Char} (h : IsDigits ds) : Numeral ('-' :: ds) (-placeValue ds)

/-- Reading digits from the left gives the same number as their places do. -/
lemma ofDigitChars_eq_placeValue (ds : List Char) : Nat.ofDigitChars 10 ds 0 = placeValue ds := by
  induction ds with
  | nil => rfl
  | cons d ds ih =>
    rw [Nat.ofDigitChars_cons, Nat.ofDigitChars_eq_ofDigitChars_zero, ih]
    simp only [placeValue, List.reverse_cons, List.map_append, Nat.ofDigits_append,
      List.length_map, List.length_reverse, List.map_cons, List.map_nil, Nat.ofDigits_singleton,
      Nat.mul_zero, Nat.zero_add]
    exact Nat.add_comm _ _

lemma readDigits?_eq_some_iff {ds : List Char} {n : Nat} :
    readDigits? ds = some n ↔ IsDigits ds ∧ n = placeValue ds := by
  simp only [readDigits?, IsDigits, List.all_eq_true, ofDigitChars_eq_placeValue]
  split
  · next h =>
    rw [Option.some.injEq]
    exact ⟨fun hn => ⟨h, hn.symm⟩, fun hn => hn.2.symm⟩
  · next h => simp only [reduceCtorEq, h, false_and]

lemma isDigit_head {d : Char} {ds : List Char} (h : IsDigits (d :: ds)) : d.isDigit :=
  h.2 d (by simp)

lemma readSigned?_eq_some_iff {cs : List Char} {n : Int} :
    readSigned? cs = some n ↔ Numeral cs n := by
  constructor
  · intro h
    unfold readSigned? at h
    split at h
    all_goals
      obtain ⟨m, hm, rfl⟩ := Option.map_eq_some_iff.1 h
      obtain ⟨hds, rfl⟩ := readDigits?_eq_some_iff.1 hm
    · exact .minus hds
    · exact .plus hds
    · exact .unsigned hds
  · intro h
    cases h with
    | plus hds => simp [readSigned?, readDigits?_eq_some_iff.2 ⟨hds, rfl⟩]
    | minus hds => simp [readSigned?, readDigits?_eq_some_iff.2 ⟨hds, rfl⟩]
    | unsigned hds =>
      -- digits start with no sign, so the third reading is the one that applies
      unfold readSigned?
      split
      · exact absurd (isDigit_head hds) (by decide)
      · exact absurd (isDigit_head hds) (by decide)
      · simp [readDigits?_eq_some_iff.2 ⟨hds, rfl⟩]

/-- What is read as a whole number is exactly what a numeral denotes in 64 bits. -/
lemma readInteger?_eq_some_iff {s : String} {n : Int} :
    readInteger? s = some n ↔ Numeral s.toList n ∧ FitsWord n := by
  simp [readInteger?, Option.filter_eq_some_iff, readSigned?_eq_some_iff]

/-- A text denotes one number at most. -/
lemma Numeral.unique {cs : List Char} {m n : Int} (hm : Numeral cs m) (hn : Numeral cs n) :
    m = n := by
  have h := (readSigned?_eq_some_iff.2 hm).symm.trans (readSigned?_eq_some_iff.2 hn)
  exact Option.some.inj h

lemma numeral_iff_of_isDigits {cs : List Char} {n : Int} (h : IsDigits cs) :
    Numeral cs n ↔ n = placeValue cs :=
  ⟨fun hn => hn.unique (.unsigned h), fun hn => hn ▸ .unsigned h⟩

/-- Digits do not start with another character. -/
lemma IsDigits.append_ne_cons {c : Char} {ds rs ss : List Char} (h : IsDigits ds)
    (hc : c.isDigit = false) : ds ++ rs ≠ c :: ss := by
  cases ds with
  | nil => exact absurd rfl h.1
  | cons d ds =>
    intro heq
    obtain rfl := (List.cons.inj heq).1
    rw [isDigit_head h] at hc
    exact absurd hc (by decide)

/-- A numeral and what stands behind it can be told from each other, unless that starts with a
digit. -/
lemma Numeral.append_inj {cs ds rs ss : List Char} {m n : Int} (hm : Numeral cs m)
    (hn : Numeral ds n) (hr : StopsAt Char.isDigit rs) (hs : StopsAt Char.isDigit ss)
    (h : cs ++ rs = ds ++ ss) : cs = ds ∧ rs = ss := by
  cases hm with
  | unsigned hcs =>
    cases hn with
    | unsigned hds => exact run_append_inj hcs.2 hds.2 hr hs h
    | plus hds => exact absurd h (hcs.append_ne_cons (by decide))
    | minus hds => exact absurd h (hcs.append_ne_cons (by decide))
  | plus hcs =>
    cases hn with
    | unsigned hds => exact absurd h.symm (hds.append_ne_cons (by decide))
    | plus hds =>
      obtain ⟨rfl, hrest⟩ := run_append_inj hcs.2 hds.2 hr hs (List.cons.inj h).2
      exact ⟨rfl, hrest⟩
    | minus hds => exact absurd (List.cons.inj h).1 (by decide)
  | minus hcs =>
    cases hn with
    | unsigned hds => exact absurd h.symm (hds.append_ne_cons (by decide))
    | plus hds => exact absurd (List.cons.inj h).1 (by decide)
    | minus hds =>
      obtain ⟨rfl, hrest⟩ := run_append_inj hcs.2 hds.2 hr hs (List.cons.inj h).2
      exact ⟨rfl, hrest⟩

/-- A numeral has digits and signs only. -/
lemma Numeral.notMem {c : Char} {cs : List Char} {n : Int} (h : Numeral cs n)
    (hc : c.isDigit = false) (hplus : c ≠ '+') (hminus : c ≠ '-') : c ∉ cs := by
  have hdigits : ∀ {ds}, IsDigits ds → c ∉ ds := by
    intro ds hds hmem
    rw [hds.2 c hmem] at hc
    exact absurd hc (by decide)
  cases h with
  | unsigned h => exact hdigits h
  | plus h => simp [hplus, hdigits h]
  | minus h => simp [hminus, hdigits h]

lemma Numeral.newline_notMem {cs : List Char} {n : Int} (h : Numeral cs n) : '\n' ∉ cs :=
  h.notMem (by decide) (by decide) (by decide)

lemma Numeral.ne_empty {s : String} {n : Int} (h : Numeral s.toList n) : s ≠ "" := by
  rintro rfl
  exact absurd h (by rw [← readSigned?_eq_some_iff]; simp [readSigned?, readDigits?])

/-! ### Decimal forms -/

lemma isDigits_toDigits (n : Nat) : IsDigits (Nat.toDigits 10 n) :=
  ⟨Nat.toDigits_ne_nil, isRun_toDigits n⟩

lemma placeValue_toDigits (n : Nat) : placeValue (Nat.toDigits 10 n) = n := by
  rw [← ofDigitChars_eq_placeValue, Nat.ofDigitChars_toDigits (by decide) (by decide)]

/-- The decimal form of a number denotes it. -/
lemma numeral_ofInteger (n : Int) : Numeral (ofInteger n).toList n := by
  cases n with
  | ofNat n =>
    rw [toList_ofInteger_ofNat]
    have h := Numeral.unsigned (isDigits_toDigits n)
    rwa [placeValue_toDigits] at h
  | negSucc n =>
    rw [toList_ofInteger_negSucc]
    have h := Numeral.minus (isDigits_toDigits (n + 1))
    rwa [placeValue_toDigits] at h

/-! ### Numbers padded with zeros -/

lemma toList_padZeros (width n : Nat) : (padZeros width n).toList =
    List.replicate (width - n.repr.length) '0' ++ Nat.toDigits 10 n := by
  simp [padZeros, Nat.repr]

lemma isDigits_padZeros (width n : Nat) : IsDigits (padZeros width n).toList := by
  obtain ⟨hne, hdigits⟩ := isDigits_toDigits n
  rw [toList_padZeros]
  refine ⟨List.append_ne_nil_of_right_ne_nil _ hne, fun d hd => ?_⟩
  rcases List.mem_append.1 hd with hd | hd
  · rw [List.eq_of_mem_replicate hd]
    decide
  · exact hdigits d hd

/-- Zeros in front of a number change nothing of what it denotes. -/
lemma placeValue_padZeros (width n : Nat) : placeValue (padZeros width n).toList = n := by
  have hzeros : ∀ k, placeValue (List.replicate k '0' ++ Nat.toDigits 10 n) = n := by
    intro k
    induction k with
    | zero => exact placeValue_toDigits n
    | succ k ih =>
      rw [← ofDigitChars_eq_placeValue] at ih ⊢
      rw [List.replicate_succ, List.cons_append, Nat.ofDigitChars_cons]
      exact ih
  rw [toList_padZeros]
  exact hzeros _

end DemoQuery.Text
