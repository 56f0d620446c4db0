import DemoQuery.ByteSize
import Mathlib.Data.Nat.Basic
import Mathlib.Tactic.Lemma
import Mathlib.Tactic.SplitIfs

/-!
# Rounding sizes

Rounding to multiples of a unit misses a number by half a unit at most and keeps the order of
numbers. It does not carry a number over a multiple of the unit. Of a size, 53 bits are significant;
cutting it down to these keeps the order of sizes too, as each power of two is a multiple of the
unit on either side of it.
-/

namespace DemoQuery

variable {d k m n t : Nat}

/-! ### Quotients -/

/-- A quotient is rounded down if its remainder is less than half of the divisor, and up if it is
more; half of the divisor is left to the parity of the quotient. -/
lemma roundDiv_cases (n : Nat) (hd : 0 < d) :
    ∃ q r, n = q * d + r ∧ r < d ∧
      ((2 * r < d ∨ 2 * r = d ∧ q % 2 = 0) ∧ roundDiv n d = q ∨
        (d < 2 * r ∨ 2 * r = d ∧ q % 2 = 1) ∧ roundDiv n d = q + 1) := by
  have hmod := Nat.mod_lt n hd
  refine ⟨n / d, n % d, (Nat.div_add_mod' n d).symm, hmod, ?_⟩
  rw [roundDiv]
  split_ifs with h
  · exact .inl ⟨h, rfl⟩
  · refine .inr ⟨?_, rfl⟩
    omega

lemma roundDiv_le (hd : 0 < d) (h : n ≤ k * d) : roundDiv n d ≤ k := by
  obtain ⟨q, r, rfl, -, ⟨-, hround⟩ | ⟨hr, hround⟩⟩ := roundDiv_cases n hd
  · rw [hround]
    apply Nat.le_of_mul_le_mul_right _ hd
    omega
  · rw [hround]
    apply Nat.lt_of_mul_lt_mul_right (a := d)
    omega

lemma le_roundDiv (hd : 0 < d) (h : k * d ≤ n) : k ≤ roundDiv n d := by
  obtain ⟨q, r, rfl, hrd, hround⟩ := roundDiv_cases n hd
  have hkq : k < q + 1 := by
    apply Nat.lt_of_mul_lt_mul_right (a := d)
    rw [Nat.add_mul, Nat.one_mul]
    omega
  omega

lemma roundDiv_mul (hd : 0 < d) (k : Nat) : roundDiv (k * d) d = k :=
  Nat.le_antisymm (roundDiv_le hd le_rfl) (le_roundDiv hd le_rfl)

/-- Rounding keeps the order: of two numbers with the same quotient, the greater one has the greater
remainder. -/
lemma roundDiv_mono (hd : 0 < d) (h : m ≤ n) : roundDiv m d ≤ roundDiv n d := by
  obtain ⟨q, r, rfl, hrd, hm⟩ := roundDiv_cases m hd
  obtain ⟨q', r', rfl, hrd', hn⟩ := roundDiv_cases n hd
  have hq : q < q' + 1 := by
    apply Nat.lt_of_mul_lt_mul_right (a := d)
    rw [Nat.add_mul, Nat.one_mul]
    omega
  by_cases heq : q = q'
  · subst heq
    omega
  · omega

/-- A quotient is missed by one half at most. -/
lemma two_mul_roundDiv_mul (n : Nat) (hd : 0 < d) :
    2 * n ≤ 2 * (roundDiv n d * d) + d ∧ 2 * (roundDiv n d * d) ≤ 2 * n + d := by
  obtain ⟨q, r, rfl, hrd, ⟨hr, hround⟩ | ⟨hr, hround⟩⟩ := roundDiv_cases n hd
  · rw [hround]
    omega
  · rw [hround, Nat.add_mul, Nat.one_mul]
    omega

/-- Half way behind an odd number, a quotient is rounded up. -/
lemma lt_roundDiv_iff (hd : 0 < d) (hk : k % 2 = 1) :
    k < roundDiv n d ↔ (2 * k + 1) * d ≤ 2 * n := by
  obtain ⟨q, r, rfl, hrd, hround⟩ := roundDiv_cases n hd
  have hexpand : (2 * k + 1) * d = 2 * (k * d) + d := by
    rw [Nat.add_mul, Nat.one_mul, Nat.mul_assoc]
  rw [hexpand]
  rcases Nat.lt_trichotomy k q with hlt | rfl | hgt
  · have hmul := Nat.mul_le_mul_right d hlt
    rw [Nat.succ_mul] at hmul
    omega
  · omega
  · have hmul := Nat.mul_le_mul_right d hgt
    rw [Nat.succ_mul] at hmul
    omega

/-! ### Multiples of a unit -/

lemma roundDiv_mul_le (hd : 0 < d) (hdvd : d ∣ t) (h : n ≤ t) : roundDiv n d * d ≤ t := by
  obtain ⟨k, rfl⟩ := hdvd
  rw [Nat.mul_comm d k] at h ⊢
  exact Nat.mul_le_mul_right d (roundDiv_le hd h)

lemma le_roundDiv_mul (hd : 0 < d) (hdvd : d ∣ t) (h : t ≤ n) : t ≤ roundDiv n d * d := by
  obtain ⟨k, rfl⟩ := hdvd
  rw [Nat.mul_comm d k] at h ⊢
  exact Nat.mul_le_mul_right d (le_roundDiv hd h)

/-! ### Significant bits -/

/-- The unit to which the significant bits of a size go down. -/
def significantUnit (n : Nat) : Nat :=
  Nat.pow 2 (n.log2 + 1 - significantBits)

lemma toSignificant_eq (n : Nat) :
    toSignificant n = roundDiv n (significantUnit n) * significantUnit n := rfl

lemma significantUnit_pos (n : Nat) : 0 < significantUnit n :=
  Nat.two_pow_pos _

/-- The unit divides the power of two that a size reaches, and those above. -/
lemma significantUnit_dvd (h : n.log2 ≤ k) : significantUnit n ∣ Nat.pow 2 k := by
  apply Nat.pow_dvd_pow
  rw [significantBits]
  omega

lemma toSignificant_of_lt (h : n < 9007199254740992) : toSignificant n = n := by
  have hlog : n.log2 < 53 := by
    by_cases hn : n = 0
    · subst hn
      decide
    · exact (Nat.log2_lt hn).2 h
  have hunit : significantUnit n = 1 := by
    rw [significantUnit, significantBits, Nat.sub_eq_zero_of_le hlog]
  rw [toSignificant_eq, hunit, Nat.mul_one]
  simpa only [Nat.mul_one] using roundDiv_mul Nat.one_pos n

/-- Sizes that share the power of two that they reach have one unit. Else a power of two lies between
them, over which neither is carried. -/
lemma toSignificant_mono (h : m ≤ n) : toSignificant m ≤ toSignificant n := by
  rw [toSignificant_eq, toSignificant_eq]
  by_cases hlog : m.log2 = n.log2
  · have hunit : significantUnit m = significantUnit n := by
      rw [significantUnit, significantUnit, hlog]
    rw [hunit]
    exact Nat.mul_le_mul_right _ (roundDiv_mono (significantUnit_pos n) h)
  · by_cases hzero : m = 0
    · subst hzero
      exact Nat.zero_le _
    · have hn : n ≠ 0 := by omega
      have hle : m.log2 ≤ n.log2 := by
        apply (Nat.le_log2 hn).2
        exact Nat.le_trans (Nat.log2_self_le hzero) h
      have hlt : m.log2 + 1 ≤ n.log2 := by omega
      have hbelow : m ≤ Nat.pow 2 n.log2 := by
        apply Nat.le_of_lt
        exact Nat.lt_of_lt_of_le Nat.lt_log2_self (Nat.pow_le_pow_right (by decide) hlt)
      have habove : Nat.pow 2 n.log2 ≤ n := Nat.log2_self_le hn
      calc roundDiv m (significantUnit m) * significantUnit m
          ≤ Nat.pow 2 n.log2 :=
            roundDiv_mul_le (significantUnit_pos m) (significantUnit_dvd hle) hbelow
        _ ≤ roundDiv n (significantUnit n) * significantUnit n :=
            le_roundDiv_mul (significantUnit_pos n) (significantUnit_dvd le_rfl) habove

end DemoQuery
