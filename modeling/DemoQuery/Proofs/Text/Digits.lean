import DemoQuery.Proofs.Text.Run
import DemoQuery.Text.Reading

/-!
# Written numbers

The digits of a number say which number it is, in any base that has digits. A decimal number also
says where it ends, unless it stands before another digit.
-/

namespace DemoQuery.Text

variable {b m n : Nat} {rs ss : List Char}

/-! ### Digits -/

lemma digitChar_inj (hm : m < 16) (hn : n < 16) (h : Nat.digitChar m = Nat.digitChar n) :
    m = n := by
  have hall : ∀ m < 16, ∀ n < 16, Nat.digitChar m = Nat.digitChar n → m = n := by decide
  exact hall m hm n hn h

lemma toDigits_inj (hb : 1 < b) (hb16 : b ≤ 16) (h : b.toDigits m = b.toDigits n) : m = n := by
  induction m using Nat.strongRecOn generalizing n with
  | ind m ih =>
    rcases lt_or_ge m b with hm | hm <;> rcases lt_or_ge n b with hn | hn
    · rw [Nat.toDigits_of_lt_base hm, Nat.toDigits_of_lt_base hn, List.singleton_inj] at h
      exact digitChar_inj (by omega) (by omega) h
    · rw [Nat.toDigits_of_lt_base hm, Nat.toDigits_of_base_le hb hn] at h
      have hnil : b.toDigits (n / b) = [] := by simpa using (congrArg List.dropLast h).symm
      exact absurd hnil Nat.toDigits_ne_nil
    · rw [Nat.toDigits_of_base_le hb hm, Nat.toDigits_of_lt_base hn] at h
      have hnil : b.toDigits (m / b) = [] := by simpa using congrArg List.dropLast h
      exact absurd hnil Nat.toDigits_ne_nil
    · rw [Nat.toDigits_of_base_le hb hm, Nat.toDigits_of_base_le hb hn] at h
      obtain ⟨hdiv, hmod⟩ := List.append_inj' h rfl
      have hq : m / b = n / b := ih (m / b) (Nat.div_lt_self (by omega) hb) hdiv
      have hr : m % b = n % b := by
        have hmb := Nat.mod_lt m (by omega : 0 < b)
        have hnb := Nat.mod_lt n (by omega : 0 < b)
        exact digitChar_inj (by omega) (by omega) (List.singleton_inj.1 hmod)
      rw [← Nat.div_add_mod m b, ← Nat.div_add_mod n b, hq, hr]

/-- Every digit of a number is the digit of a number below the base. -/
lemma exists_digitChar_of_mem_toDigits {c : Char} (hb : 1 < b) (hc : c ∈ b.toDigits n) :
    ∃ k < b, Nat.digitChar k = c := by
  induction n using Nat.strongRecOn with
  | ind n ih =>
    rcases lt_or_ge n b with hn | hn
    · rw [Nat.toDigits_of_lt_base hn, List.mem_singleton] at hc
      exact ⟨n, hn, hc.symm⟩
    · rw [Nat.toDigits_of_base_le hb hn, List.mem_append, List.mem_singleton] at hc
      rcases hc with hc | hc
      · exact ih (n / b) (Nat.div_lt_self (by omega) hb) hc
      · exact ⟨n % b, Nat.mod_lt n (by omega), hc.symm⟩

/-- No zero stands in front of other digits. -/
lemma toDigits_of_head?_eq (h : (Nat.toDigits 10 n).head? = some '0') :
    Nat.toDigits 10 n = ['0'] := by
  induction n using Nat.strongRecOn with
  | ind n ih =>
    rcases lt_or_ge n 10 with hn | hn
    · rw [Nat.toDigits_of_lt_base hn] at h ⊢
      rw [Option.some.inj h]
    · rw [Nat.toDigits_of_base_le (by decide) hn, List.head?_append,
        List.head?_eq_some_head Nat.toDigits_ne_nil, Option.some_or,
        ← List.head?_eq_some_head Nat.toDigits_ne_nil] at h
      have hzero : Nat.toDigits 10 (n / 10) = Nat.toDigits 10 0 :=
        ih (n / 10) (Nat.div_lt_self (by omega) (by decide)) h
      have := toDigits_inj (by decide) (by decide) hzero
      omega

lemma isRun_toDigits (n : Nat) : IsRun Char.isDigit (Nat.toDigits 10 n) := fun _ =>
  Nat.isDigit_of_mem_toDigits (by decide) (by decide)

/-- The code of an ASCII character is read from its two hexadecimal digits, with zeros in front. -/
lemma readBase?_of_lt (h : n < 128) :
    readBase? 16 ['0', '0', Nat.digitChar (n / 16), Nat.digitChar (n % 16)] = some n := by
  have hall : ∀ n < 128, readBase? 16
      ['0', '0', Nat.digitChar (n / 16), Nat.digitChar (n % 16)] = some n := by
    decide
  exact hall n h

/-! ### Integers -/

lemma toList_ofInteger_ofNat (n : Nat) : (ofInteger (.ofNat n)).toList = Nat.toDigits 10 n := by
  simp [ofInteger, Int.repr, Nat.repr]

lemma toList_ofInteger_negSucc (n : Nat) :
    (ofInteger (.negSucc n)).toList = '-' :: Nat.toDigits 10 (n + 1) := by
  simp [ofInteger, Int.repr, Nat.repr]

/-- Digits do not start with a sign. -/
lemma toDigits_append_ne_minus : Nat.toDigits 10 n ++ rs ≠ '-' :: ss := by
  intro h
  cases hd : Nat.toDigits 10 n with
  | nil => exact Nat.toDigits_ne_nil hd
  | cons d ds =>
    have hdigit : d.isDigit := isRun_toDigits n d (by simp [hd])
    rw [hd, List.cons_append] at h
    obtain rfl := (List.cons.inj h).1
    exact absurd hdigit (by decide)

lemma toDigits_append_inj (hr : StopsAt Char.isDigit rs) (hs : StopsAt Char.isDigit ss)
    (h : Nat.toDigits 10 m ++ rs = Nat.toDigits 10 n ++ ss) : m = n ∧ rs = ss := by
  obtain ⟨hdigits, hrest⟩ := run_append_inj (isRun_toDigits m) (isRun_toDigits n) hr hs h
  exact ⟨toDigits_inj (by decide) (by decide) hdigits, hrest⟩

/-- A written integer and what stands behind it can be told from each other, unless that starts
with a digit. -/
lemma ofInteger_append_inj {m n : Int} (hr : StopsAt Char.isDigit rs)
    (hs : StopsAt Char.isDigit ss)
    (h : (ofInteger m).toList ++ rs = (ofInteger n).toList ++ ss) : m = n ∧ rs = ss := by
  cases m with
  | ofNat m =>
    rw [toList_ofInteger_ofNat] at h
    cases n with
    | ofNat n =>
      rw [toList_ofInteger_ofNat] at h
      obtain ⟨rfl, hrest⟩ := toDigits_append_inj hr hs h
      exact ⟨rfl, hrest⟩
    | negSucc n =>
      rw [toList_ofInteger_negSucc] at h
      exact absurd h toDigits_append_ne_minus
  | negSucc m =>
    rw [toList_ofInteger_negSucc] at h
    cases n with
    | ofNat n =>
      rw [toList_ofInteger_ofNat] at h
      exact absurd h.symm toDigits_append_ne_minus
    | negSucc n =>
      rw [toList_ofInteger_negSucc] at h
      obtain ⟨hmn, hrest⟩ := toDigits_append_inj hr hs (List.cons.inj h).2
      exact ⟨by rw [Nat.succ.inj hmn], hrest⟩

/-! ### No control characters -/

lemma isVisible_digitChar {k : Nat} (h : k < 16) : isVisible (Nat.digitChar k) := by
  have hall : ∀ k < 16, isVisible (Nat.digitChar k) := by decide
  exact hall k h

lemma isVisible_toDigits (hb : 1 < b) (hb16 : b ≤ 16) (n : Nat) :
    IsRun isVisible (b.toDigits n) := by
  intro c hc
  obtain ⟨k, hk, rfl⟩ := exists_digitChar_of_mem_toDigits hb hc
  exact isVisible_digitChar (by omega)

lemma isVisible_ofInteger (n : Int) : IsRun isVisible (ofInteger n).toList := by
  cases n with
  | ofNat n =>
    rw [toList_ofInteger_ofNat]
    exact isVisible_toDigits (by decide) (by decide) n
  | negSucc n =>
    rw [toList_ofInteger_negSucc]
    exact (isVisible_toDigits (by decide) (by decide) (n + 1)).cons (by decide)

lemma newline_notMem_toDigits (n : Nat) : '\n' ∉ Nat.toDigits 10 n :=
  (isRun_toDigits n).notMem (by decide)

lemma newline_notMem_ofInteger (n : Int) : '\n' ∉ (ofInteger n).toList :=
  (isVisible_ofInteger n).notMem (by decide)

end DemoQuery.Text
