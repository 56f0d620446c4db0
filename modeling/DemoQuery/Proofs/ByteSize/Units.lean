import DemoQuery.Proofs.ByteSize.Shown
import Mathlib.Algebra.Order.Group.Abs
import Mathlib.Tactic.NormNum

/-!
# Units of sizes

The largest unit that a size reaches, and the number of its tenths that are shown. What is shown
grows with the size, from each unit to the next too, and below 53 bits it misses the size by one
twentieth of the unit at most. The number is at least 1. Up to the last unit it is less than 1024,
but for the sizes at the end of each unit that are rounded to the next one.
-/

namespace DemoQuery

open Text

variable {m n : Nat}

/-! ### The unit that is reached -/

lemma SizeUnit.bytes_pos (unit : SizeUnit) : 0 < unit.bytes := by
  cases unit <;> decide

lemma SizeUnit.le_bytes (unit : SizeUnit) : 1024 ≤ unit.bytes := by
  cases unit <;> decide

/-- Each unit but the first is reached from its own number of bytes on, up to that of the next. -/
lemma SizeUnit.reached_cases (n : Nat) :
    reached n = .kibi ∧ n < 1048576 ∨ reached n = .mebi ∧ 1048576 ≤ n ∧ n < 1073741824 ∨
      reached n = .gibi ∧ 1073741824 ≤ n ∧ n < 1099511627776 ∨
        reached n = .tebi ∧ 1099511627776 ≤ n := by
  rw [reached]
  split_ifs with hkibi hmebi hgibi
  · exact .inl ⟨rfl, hkibi⟩
  · exact .inr (.inl ⟨rfl, Nat.le_of_not_lt hkibi, hmebi⟩)
  · exact .inr (.inr (.inl ⟨rfl, Nat.le_of_not_lt hmebi, hgibi⟩))
  · exact .inr (.inr (.inr ⟨rfl, Nat.le_of_not_lt hgibi⟩))

lemma SizeUnit.bytes_reached_le (h : 1024 ≤ n) : (reached n).bytes ≤ n := by
  rcases reached_cases n with ⟨hu, hn⟩ | ⟨hu, hn⟩ | ⟨hu, hn⟩ | ⟨hu, hn⟩
  all_goals
    simp only [hu, bytes]
    omega

lemma SizeUnit.lt_of_reached_ne (h : reached n ≠ .tebi) :
    n < 1024 * (reached n).bytes ∧ n < SizeUnit.tebi.bytes := by
  rcases reached_cases n with ⟨hu, hn⟩ | ⟨hu, hn⟩ | ⟨hu, hn⟩ | ⟨hu, hn⟩
  · simp only [hu, bytes]; omega
  · simp only [hu, bytes]; omega
  · simp only [hu, bytes]; omega
  · exact absurd hu h

/-- Of two sizes the smaller reaches the same unit as the greater, or it stays below that unit, which
is a multiple of its own. -/
lemma SizeUnit.reached_eq_or_lt (h : m ≤ n) :
    reached m = reached n ∨ m < (reached n).bytes ∧ (reached m).bytes ∣ (reached n).bytes := by
  rcases reached_cases n with ⟨hu, hn⟩ | ⟨hu, hn⟩ | ⟨hu, hn⟩ | ⟨hu, hn⟩
  all_goals
    rcases reached_cases m with ⟨hv, hm⟩ | ⟨hv, hm⟩ | ⟨hv, hm⟩ | ⟨hv, hm⟩ <;>
      simp only [hu, hv, bytes, reduceCtorEq, false_or, true_or] <;> omega

lemma SizeUnit.forall_ne_tebi {p : SizeUnit → Prop} :
    (∀ unit, unit ≠ .tebi → p unit) ↔ p .kibi ∧ p .mebi ∧ p .gibi := by
  constructor
  · intro h
    exact ⟨h .kibi (by decide), h .mebi (by decide), h .gibi (by decide)⟩
  · rintro ⟨hkibi, hmebi, hgibi⟩ unit hne
    cases unit with
    | kibi => exact hkibi
    | mebi => exact hmebi
    | gibi => exact hgibi
    | tebi => exact absurd rfl hne

/-! ### Tenths of the unit -/

/-- The tenths of its unit that are shown of a size. -/
def shownTenths (n : Nat) : Nat :=
  roundDiv (n * 10) (SizeUnit.reached n).bytes

lemma ofBytes_eq (h : 1024 ≤ n) : ShownSize.ofBytes n =
    .scaled (shownTenths (toSignificant n)) (SizeUnit.reached (toSignificant n)) := by
  rw [ShownSize.ofBytes, if_neg (by omega), Int.toNat_natCast]
  rfl

/-- A size that reaches a unit shows at least ten tenths of it. -/
lemma ten_le_shownTenths (h : 1024 ≤ n) : 10 ≤ shownTenths n := by
  have hunit := SizeUnit.bytes_reached_le h
  apply le_roundDiv (SizeUnit.bytes_pos _)
  omega

/-- What is shown grows with the size. At the change of the unit, the smaller size is not rounded
over the new unit, and the greater one is not rounded below it. -/
lemma shownTenths_mul_mono (hm : 1024 ≤ m) (h : m ≤ n) :
    shownTenths m * (SizeUnit.reached m).bytes ≤ shownTenths n * (SizeUnit.reached n).bytes := by
  rcases SizeUnit.reached_eq_or_lt h with heq | ⟨hlt, hdvd⟩
  · rw [shownTenths, shownTenths, heq]
    apply Nat.mul_le_mul_right
    apply roundDiv_mono (SizeUnit.bytes_pos _)
    exact Nat.mul_le_mul_right 10 h
  · have hreached := SizeUnit.bytes_reached_le (hm.trans h)
    calc shownTenths m * (SizeUnit.reached m).bytes
        ≤ (SizeUnit.reached n).bytes * 10 := by
          apply roundDiv_mul_le (SizeUnit.bytes_pos _) (Dvd.dvd.mul_right hdvd 10)
          omega
      _ ≤ shownTenths n * (SizeUnit.reached n).bytes := by
          apply le_roundDiv_mul (SizeUnit.bytes_pos _) (Nat.dvd_mul_right _ 10)
          omega

/-- Sizes that reach tebibytes do so in their significant bits, and others are all significant. -/
lemma toSignificant_cases (n : Nat) :
    toSignificant n = n ∨
      SizeUnit.tebi.bytes ≤ toSignificant n ∧ SizeUnit.tebi.bytes ≤ n := by
  by_cases h : n < 9007199254740992
  · exact .inl (toSignificant_of_lt h)
  · right
    have hmono : toSignificant SizeUnit.tebi.bytes ≤ toSignificant n := by
      apply toSignificant_mono
      simp only [SizeUnit.bytes]
      omega
    rw [toSignificant_of_lt (by decide)] at hmono
    refine ⟨hmono, ?_⟩
    simp only [SizeUnit.bytes]
    omega

lemma le_toSignificant (h : 1024 ≤ n) : 1024 ≤ toSignificant n := by
  rcases toSignificant_cases n with heq | ⟨hle, -⟩
  · rwa [heq]
  · exact (SizeUnit.le_bytes .tebi).trans hle

/-! ### The number in front of the unit -/

lemma shownIn_sizeText (h : 1024 ≤ n) :
    ShownIn (sizeText n) (shownTenths (toSignificant n) / 10)
      (SizeUnit.reached (toSignificant n)) := by
  rw [sizeText, ofBytes_eq h]
  exact shownIn_text_scaled _ _

/-- The number that is shown is less than 1024 up to half a tenth below: there it is rounded to an
even number of tenths, which is that of 1024. -/
lemma shownTenths_lt_iff : shownTenths n < 10240 ↔ 20 * n < 20479 * (SizeUnit.reached n).bytes := by
  have hround := lt_roundDiv_iff (n := n * 10) (SizeUnit.bytes_pos (SizeUnit.reached n))
    (show 10239 % 2 = 1 by decide)
  rw [← not_iff_not, not_lt, not_lt, shownTenths]
  omega

/-- Half a tenth below 1024 and above, a size shows 1024 of a unit that is not the largest. -/
lemma shownTenths_lt_iff_forall (h : 1024 ≤ n) :
    (SizeUnit.reached (toSignificant n) = .tebi ∨ shownTenths (toSignificant n) < 10240) ↔
      ∀ unit, unit ≠ SizeUnit.tebi → n < 1024 * unit.bytes → 20 * n < 20479 * unit.bytes := by
  rw [SizeUnit.forall_ne_tebi, shownTenths_lt_iff]
  rcases toSignificant_cases n with heq | ⟨hsig, hle⟩
  · rw [heq]
    rcases SizeUnit.reached_cases n with ⟨hu, hn⟩ | ⟨hu, hn⟩ | ⟨hu, hn⟩ | ⟨hu, hn⟩
    all_goals
      simp only [hu, SizeUnit.bytes, reduceCtorEq, false_or, true_or, true_iff]
      omega
  · have htebi : SizeUnit.reached (toSignificant n) = .tebi := by
      by_contra hne
      have hlt := (SizeUnit.lt_of_reached_ne hne).2
      omega
    simp only [htebi, SizeUnit.bytes, true_or, true_iff] at hle ⊢
    omega

lemma shownTenths_le (h : SizeUnit.reached n ≠ .tebi) : shownTenths n ≤ 10240 := by
  have hlt := (SizeUnit.lt_of_reached_ne h).1
  apply roundDiv_le (SizeUnit.bytes_pos _)
  omega

/-- The last sizes of each unit but the largest, from 1023.95 of the unit on, are shown as 1024 of
the unit. Of all others that have a unit, the number is less than 1024 unless the unit is the
largest, and it is never less than 1. -/
theorem sizeText_number_lt_iff (n : Int) (hn : 1024 ≤ n) :
    (∃ x unit, ShownIn (sizeText n) x unit) ∧
      ∀ x unit, ShownIn (sizeText n) x unit →
        1 ≤ x ∧ (unit = .tebi ∨ x ≤ 1024) ∧
        ((unit = .tebi ∨ x < 1024) ↔
          ∀ u : SizeUnit, u ≠ .tebi → n < 1024 * u.bytes → 20 * n < 20479 * u.bytes) := by
  obtain ⟨n, rfl⟩ := Int.eq_ofNat_of_zero_le (by omega : 0 ≤ n)
  have hn : 1024 ≤ n := by exact_mod_cast hn
  have hshown := shownIn_sizeText hn
  refine ⟨⟨_, _, hshown⟩, ?_⟩
  intro x unit h
  obtain ⟨rfl, rfl⟩ := h.unique hshown
  have hten := ten_le_shownTenths (le_toSignificant hn)
  have hlt : (shownTenths (toSignificant n) : ℚ) / 10 < 1024 ↔
      shownTenths (toSignificant n) < 10240 := by
    rw [div_lt_iff₀ (by norm_num)]
    norm_num
  refine ⟨?_, ?_, ?_⟩
  · have hcast : (10 : ℚ) ≤ shownTenths (toSignificant n) := by exact_mod_cast hten
    linarith
  · by_cases htebi : SizeUnit.reached (toSignificant n) = .tebi
    · exact .inl htebi
    · right
      have hcast : (shownTenths (toSignificant n) : ℚ) ≤ 10240 := by
        exact_mod_cast shownTenths_le htebi
      linarith
  · rw [hlt, shownTenths_lt_iff_forall hn]
    exact_mod_cast Iff.rfl

/-- One byte too few for 1023.95 of a unit is rounded down, and the next byte is rounded up. -/
theorem sizeText_number_lt_iff_last_kibibyte :
    (∀ x unit, ShownIn (sizeText 1048524) x unit → unit = .tebi ∨ x < 1024) ∧
      ∀ x unit, ShownIn (sizeText 1048525) x unit → ¬ (unit = .tebi ∨ x < 1024) := by
  constructor
  · intro x unit h
    apply ((sizeText_number_lt_iff 1048524 (by decide)).2 x unit h).2.2.2
    exact SizeUnit.forall_ne_tebi.2 (by decide)
  · intro x unit h hlt
    have hends := ((sizeText_number_lt_iff 1048525 (by decide)).2 x unit h).2.2.1 hlt
    exact absurd (hends .kibi (by decide)) (by decide)

/-- Not every number in front of a unit with a larger one is less than 1024. -/
theorem sizeText_number_reaches_next_unit :
    ¬ ∀ n : Int, 1024 ≤ n → ∀ x unit, ShownIn (sizeText n) x unit →
      1 ≤ x ∧ (unit ≠ .tebi → x < 1024) := by
  intro h
  have htext : sizeText 1048575 =
      .ofList ("1024".toList ++ '.' :: '0' :: ' ' :: SizeUnit.kibi.name.toList) := by
    decide +kernel
  have hshown : ShownIn (sizeText 1048575)
      (placeValue "1024".toList + placeValue ['0'] / 10) .kibi := by
    rw [htext]
    exact .mk (by decide) (by decide) SizeUnit.kibi.denotes
  have hlt := (h 1048575 (by decide) _ _ hshown).2 (by decide)
  have hvalue : placeValue "1024".toList = 1024 ∧ placeValue ['0'] = 0 := by decide
  rw [hvalue.1, hvalue.2] at hlt
  norm_num at hlt

/-! ### The number of bytes -/

/-- The number of bytes that is shown, in tenths. -/
lemma showsBytes_sizeText (h : 1024 ≤ n) :
    ShowsBytes (sizeText n) ((shownTenths (toSignificant n) *
      (SizeUnit.reached (toSignificant n)).bytes : Nat) / 10) := by
  have hshown := ShowsBytes.scaled (shownIn_sizeText h) (SizeUnit.denotes _)
  rwa [div_mul_eq_mul_div, ← Nat.cast_mul] at hshown

lemma showsBytes_sizeText_of_lt {b : Int} (h : b < 1024) : ShowsBytes (sizeText b) b := by
  rw [sizeText, ShownSize.ofBytes, if_pos h]
  exact showsBytes_text_bytes b

lemma existsUnique_showsBytes (b : Int) : ∃! q, ShowsBytes (sizeText b) q := by
  by_cases hb : b < 1024
  · have hshown := showsBytes_sizeText_of_lt hb
    exact ⟨b, hshown, fun q hq => hq.unique hshown⟩
  · obtain ⟨n, rfl⟩ := Int.eq_ofNat_of_zero_le (by omega : 0 ≤ b)
    have hshown := showsBytes_sizeText (by omega : 1024 ≤ n)
    exact ⟨_, hshown, fun q hq => hq.unique hshown⟩

/-- No size that has a unit shows less than 1024 bytes. -/
lemma le_showsBytes {q : ℚ} (h : 1024 ≤ n) (hq : ShowsBytes (sizeText n) q) : 1024 ≤ q := by
  obtain rfl := hq.unique (showsBytes_sizeText h)
  have hunit : 10 * 1024 ≤
      shownTenths (toSignificant n) * (SizeUnit.reached (toSignificant n)).bytes :=
    Nat.mul_le_mul (ten_le_shownTenths (le_toSignificant h)) (SizeUnit.le_bytes _)
  rw [le_div_iff₀ (by norm_num), mul_comm]
  exact_mod_cast hunit

lemma showsBytes_mono {q r : ℚ} (hm : 1024 ≤ m) (h : m ≤ n) (hq : ShowsBytes (sizeText m) q)
    (hr : ShowsBytes (sizeText n) r) : q ≤ r := by
  obtain rfl := hq.unique (showsBytes_sizeText hm)
  obtain rfl := hr.unique (showsBytes_sizeText (hm.trans h))
  apply div_le_div_of_nonneg_right _ (by norm_num)
  exact_mod_cast shownTenths_mul_mono (le_toSignificant hm) (toSignificant_mono h)

/-- Below 53 bits the tenths are those of the size itself. -/
lemma abs_shown_sub_le (h : n < 9007199254740992) :
    |(shownTenths (toSignificant n) / 10 * (SizeUnit.reached (toSignificant n)).bytes - n : ℚ)| ≤
      (SizeUnit.reached (toSignificant n)).bytes / 20 := by
  rw [toSignificant_of_lt h]
  obtain ⟨hlow, hhigh⟩ := two_mul_roundDiv_mul (n * 10) (SizeUnit.bytes_pos (SizeUnit.reached n))
  have hlow' : (2 * (n * 10) : ℚ) ≤
      2 * (shownTenths n * (SizeUnit.reached n).bytes) + (SizeUnit.reached n).bytes := by
    exact_mod_cast hlow
  have hhigh' : (2 * (shownTenths n * (SizeUnit.reached n).bytes) : ℚ) ≤
      2 * (n * 10) + (SizeUnit.reached n).bytes := by
    exact_mod_cast hhigh
  rw [abs_le]
  constructor <;> linarith

/-- What the text of a size denotes is one number of bytes. It grows with the size, also where the
unit changes. Below 1024 bytes it is the size itself, and from there up to 53 bits it misses the
size by one twentieth of the unit at most. -/
theorem sizeText_mono_and_near :
    (∀ b, ∃! q, ShowsBytes (sizeText b) q) ∧
      (∀ a b q r, a ≤ b → ShowsBytes (sizeText a) q → ShowsBytes (sizeText b) r → q ≤ r) ∧
      (∀ b : Int, b < 1024 → ShowsBytes (sizeText b) b) ∧
      ∀ b : Int, 1024 ≤ b → b < 9007199254740992 → ∃ x unit, ShownIn (sizeText b) x unit ∧
        ShowsBytes (sizeText b) (x * unit.bytes) ∧ |x * unit.bytes - b| ≤ unit.bytes / 20 := by
  refine ⟨existsUnique_showsBytes, ?_, fun b => showsBytes_sizeText_of_lt, ?_⟩
  · intro a b q r hab hq hr
    by_cases ha : a < 1024
    · obtain rfl := hq.unique (showsBytes_sizeText_of_lt ha)
      by_cases hb : b < 1024
      · obtain rfl := hr.unique (showsBytes_sizeText_of_lt hb)
        exact_mod_cast hab
      · obtain ⟨n, rfl⟩ := Int.eq_ofNat_of_zero_le (by omega : 0 ≤ b)
        have hle := le_showsBytes (by omega : 1024 ≤ n) hr
        have ha' : (a : ℚ) ≤ 1024 := by exact_mod_cast ha.le
        exact ha'.trans hle
    · obtain ⟨m, rfl⟩ := Int.eq_ofNat_of_zero_le (by omega : 0 ≤ a)
      obtain ⟨n, rfl⟩ := Int.eq_ofNat_of_zero_le (by omega : 0 ≤ b)
      exact showsBytes_mono (by omega : 1024 ≤ m) (by omega : m ≤ n) hq hr
  · intro b hb hlt
    obtain ⟨n, rfl⟩ := Int.eq_ofNat_of_zero_le (by omega : 0 ≤ b)
    have hshown := shownIn_sizeText (by omega : 1024 ≤ n)
    refine ⟨_, _, hshown, .scaled hshown (SizeUnit.denotes _), ?_⟩
    exact_mod_cast abs_shown_sub_le (by omega : n < 9007199254740992)

/-- The last size in kibibytes and the first in mebibytes, two sizes of more than 53 bits, a size
below zero and one half way between two tenths. -/
theorem sizeText_mono_and_near_unit_change :
    (∀ q r, ShowsBytes (sizeText 1048575) q → ShowsBytes (sizeText 1048576) r → q ≤ r) ∧
      (∀ q r, ShowsBytes (sizeText 9007199254740993) q →
        ShowsBytes (sizeText 9223372036854775807) r → q ≤ r) ∧
      ShowsBytes (sizeText (-1025)) (-1025 : Int) ∧
      ∃ x unit, ShownIn (sizeText 1280) x unit ∧ ShowsBytes (sizeText 1280) (x * unit.bytes) ∧
        |x * unit.bytes - (1280 : Int)| ≤ unit.bytes / 20 := by
  obtain ⟨-, hmono, hbytes, hnear⟩ := sizeText_mono_and_near
  refine ⟨?_, ?_, ?_, ?_⟩
  · intro q r
    exact hmono 1048575 1048576 q r (by decide)
  · intro q r
    exact hmono 9007199254740993 9223372036854775807 q r (by decide)
  · exact hbytes (-1025) (by decide)
  · exact hnear 1280 (by decide) (by decide)

end DemoQuery
