import DemoQuery.Calendar
import Mathlib.Algebra.Order.BigOperators.Group.Finset
import Mathlib.Tactic.Lemma

/-!
# Day numbers

The days from the first of January 1970 to a date, counted with nothing but the lengths of the
months: whole years forwards or backwards, then whole months, then days. The date that is computed
for a day number is a date of the calendar, and its day number is that number.
-/

namespace DemoQuery

variable {d : Date}

/-! ### The calendar -/

/-- The number of days of a year: those of its months. -/
def daysOfYear (year : Int) : Nat :=
  ∑ m ∈ Finset.range 12, daysOfMonth year.natAbs (m + 1)

/-- The days of a year in front of a month. -/
def daysToMonth (year : Int) (month : Nat) : Nat :=
  ∑ m ∈ Finset.range (month - 1), daysOfMonth year.natAbs (m + 1)

/-- The days from the start of 1970 to the start of a year: those of the years in between, forwards
from 1970 or backwards from 1969. -/
def daysToYear (year : Int) : Int :=
  (∑ k ∈ Finset.range (year - 1970).toNat, (daysOfYear (1970 + k) : Int)) -
    ∑ k ∈ Finset.range (1970 - year).toNat, (daysOfYear (1969 - k) : Int)

/-- The days from the first of January 1970 to a date. -/
def Date.days (d : Date) : Int :=
  daysToYear d.year + daysToMonth d.year d.month + d.day - 1

/-- A date of the calendar: its month is one of twelve, and its day is one of the month. -/
structure Date.IsValid (d : Date) : Prop where
  month_pos : 1 ≤ d.month
  month_le  : d.month ≤ 12
  day_pos   : 1 ≤ d.day
  day_le    : d.day ≤ daysOfMonth d.year.natAbs d.month

/-! ### Years -/

/-- The leap days of a year. -/
def leapDays (year : Int) : Nat :=
  if isLeapYear year.natAbs then 1 else 0

/-- Every fourth year has a leap day; of the hundredth years only every fourth has. -/
lemma leapDays_eq (year : Int) :
    (leapDays year : Int) = (year / 4 - (year - 1) / 4) - (year / 100 - (year - 1) / 100) +
      (year / 400 - (year - 1) / 400) := by
  have hleap : isLeapYear year.natAbs ↔ year % 4 = 0 ∧ (year % 100 ≠ 0 ∨ year % 400 = 0) := by
    simp only [isLeapYear, Bool.and_eq_true, Bool.or_eq_true, beq_iff_eq, bne_iff_ne]
    omega
  rw [leapDays]
  split
  · next h =>
    have hyear := hleap.1 h
    omega
  · next h =>
    have hyear := mt hleap.2 h
    omega

lemma daysOfMonth_two (year : Int) : daysOfMonth year.natAbs 2 = 28 + leapDays year := by
  rw [leapDays, daysOfMonth, if_pos rfl]
  split <;> rfl

/-- No month but the second depends on the year. -/
lemma daysOfMonth_congr {a b month : Nat} (h : month ≠ 2) :
    daysOfMonth a month = daysOfMonth b month := by
  rw [daysOfMonth, daysOfMonth, if_neg h, if_neg h]

/-! ### Months and years -/

lemma daysToMonth_succ (year : Int) {month : Nat} (h : 1 ≤ month) :
    daysToMonth year (month + 1) = daysToMonth year month + daysOfMonth year.natAbs month := by
  obtain ⟨m, rfl⟩ := Nat.exists_eq_add_of_le' h
  exact Finset.sum_range_succ _ m

/-- From March on the lengths of the months are the steps between their first days. -/
lemma firstDayOfMonth_succ (year : Nat) {m : Nat} (h : m < 10) :
    firstDayOfMonth (m + 1) = firstDayOfMonth m + daysOfMonth year (m + 3) := by
  have hall : ∀ m < 10, firstDayOfMonth (m + 1) = firstDayOfMonth m + daysOfMonth 0 (m + 3) := by
    decide
  rw [hall m h, daysOfMonth_congr (by omega)]

lemma daysToMonth_march (year : Int) {m : Nat} (h : m ≤ 10) :
    daysToMonth year (m + 3) = 59 + leapDays year + firstDayOfMonth m := by
  induction m with
  | zero =>
    have hfirst : daysToMonth year 1 = 0 := Finset.sum_empty
    have hjanuary : daysOfMonth year.natAbs 1 = 31 := rfl
    have hmarch : firstDayOfMonth 0 = 0 := rfl
    rw [daysToMonth_succ year (by decide), daysToMonth_succ year (by decide), hfirst, hjanuary,
      daysOfMonth_two, hmarch]
    omega
  | succ m ih =>
    rw [Nat.succ_add_eq_add_succ, daysToMonth_succ year (by omega), ih (by omega),
      firstDayOfMonth_succ year.natAbs (by omega)]
    omega

lemma daysOfYear_eq (year : Int) : daysOfYear year = 365 + leapDays year := by
  have hyear : daysOfYear year = daysToMonth year (10 + 3) := rfl
  have hlast : firstDayOfMonth 10 = 306 := rfl
  rw [hyear, daysToMonth_march year le_rfl, hlast]
  omega

lemma daysToYear_forwards (k : Nat) :
    daysToYear (1970 + k) = ∑ i ∈ Finset.range k, (daysOfYear (1970 + i) : Int) := by
  have hyears : (1970 + (k : Int) - 1970).toNat = k := by omega
  have hnone : (1970 - (1970 + (k : Int))).toNat = 0 := by omega
  rw [daysToYear, hyears, hnone, Finset.sum_range_zero, Int.sub_zero]

lemma daysToYear_backwards (k : Nat) :
    daysToYear (1970 - k) = -∑ i ∈ Finset.range k, (daysOfYear (1969 - i) : Int) := by
  have hyears : (1970 - (1970 - (k : Int))).toNat = k := by omega
  have hnone : (1970 - (k : Int) - 1970).toNat = 0 := by omega
  rw [daysToYear, hyears, hnone, Finset.sum_range_zero, Int.zero_sub]

lemma daysToYear_succ (year : Int) : daysToYear (year + 1) = daysToYear year + daysOfYear year := by
  by_cases h : 1970 ≤ year
  · obtain ⟨k, rfl⟩ := Int.le.dest h
    have hnext := daysToYear_forwards (k + 1)
    rw [Finset.sum_range_succ, ← daysToYear_forwards] at hnext
    exact hnext
  · obtain ⟨k, hk⟩ := Int.le.dest (by omega : year ≤ 1969)
    obtain rfl : year = 1969 - (k : Int) := by omega
    have hlast := daysToYear_backwards (k + 1)
    rw [Finset.sum_range_succ, Int.neg_add, ← daysToYear_backwards] at hlast
    have hyear : (1970 : Int) - (k + 1 : Nat) = 1969 - k := by omega
    have hnext : (1969 : Int) - k + 1 = 1970 - k := by omega
    rw [hyear] at hlast
    rw [hnext, hlast]
    omega

/-- The days to a year are 365 for each year, and the leap days in between. -/
lemma daysToYear_eq (year : Int) : daysToYear year =
    365 * (year - 1970) + ((year - 1) / 4 - (year - 1) / 100 + (year - 1) / 400 - 477) := by
  refine Int.inductionOn' year 1970 rfl (fun y _ ih => ?_) (fun y _ ih => ?_)
  · rw [daysToYear_succ, ih, daysOfYear_eq]
    have hleap := leapDays_eq y
    omega
  · have hstep := daysToYear_succ (y - 1)
    have hleap := leapDays_eq (y - 1)
    rw [Int.sub_add_cancel, daysOfYear_eq, ih] at hstep
    omega

/-! ### Years from March -/

/-- The day number of the first of March of a year. -/
def marchDay (year : Int) : Int :=
  365 * year + year / 4 - year / 100 + year / 400 - daysTo1970

lemma Date.days_from_march (year : Int) {m : Nat} (h : m < 10) (day : Nat) :
    Date.days ⟨year, m + 3, day⟩ = marchDay year + firstDayOfMonth m + day - 1 := by
  have hleap := leapDays_eq year
  simp only [days, daysToYear_eq, daysToMonth_march year h.le, marchDay, daysTo1970]
  omega

lemma Date.days_to_march (year : Int) {m : Nat} (h : m < 2) (day : Nat) :
    Date.days ⟨year + 1, m + 1, day⟩ = marchDay year + firstDayOfMonth (m + 10) + day - 1 := by
  have hmonth : daysToMonth (year + 1) (m + 1) + 306 = firstDayOfMonth (m + 10) := by
    obtain rfl | rfl : m = 0 ∨ m = 1 := by omega
    · rfl
    · rfl
  simp only [days, daysToYear_eq, marchDay, daysTo1970]
  omega

lemma marchDay_cycle (cycle : Int) {year : Nat} (h : year < 400) :
    marchDay (400 * cycle + year) = daysPerCycle * cycle + firstDayOfYear year - daysTo1970 := by
  rw [marchDay, firstDayOfYear, daysPerCycle]
  omega

/-- `IsDayOf day year k`: a day of a cycle is the day `k` of one of its years. The year is told by
its century, the four years of the century in which it lies, and its place among them. -/
inductive IsDayOf : Nat → Nat → Nat → Prop
  | mk {c q r k : Nat} (hc : c < 4) (hq : q < 25) (hr : r < 4) (hk : k ≤ 365)
      (hlast : k = 365 → r = 3 ∧ (q = 24 → c = 3)) :
      IsDayOf (36524 * c + 1461 * q + 365 * r + k) (100 * c + 4 * q + r) k

lemma exists_isDayOf {day : Nat} (h : day < daysPerCycle) : ∃ year k, IsDayOf day year k := by
  rw [daysPerCycle] at h
  -- the last century has a day more, and so has the last of four years
  obtain ⟨c, e, hc, rfl, he⟩ :
      ∃ c e, c < 4 ∧ day = 36524 * c + e ∧ (e < 36524 ∨ e = 36524 ∧ c = 3) :=
    ⟨min (day / 36524) 3, day - 36524 * min (day / 36524) 3, by omega, by omega, by omega⟩
  obtain ⟨q, f, hq, rfl, hf⟩ : ∃ q f, q < 25 ∧ e = 1461 * q + f ∧ f < 1461 :=
    ⟨e / 1461, e % 1461, by omega, by omega, by omega⟩
  obtain ⟨r, k, hr, rfl, hk⟩ : ∃ r k, r < 4 ∧ f = 365 * r + k ∧ (k < 365 ∨ k = 365 ∧ r = 3) :=
    ⟨min (f / 365) 3, f - 365 * min (f / 365) 3, by omega, by omega, by omega⟩
  have hday := IsDayOf.mk hc hq hr (k := k) (by omega) (by omega)
  exact ⟨_, k, by simpa only [Nat.add_assoc] using hday⟩

/-- The quotients in the year of a day: 1460 is a day short of four years, and 36524 is a
century. -/
lemma IsDayOf.yearOfCycle_eq {day year k : Nat} (h : IsDayOf day year k) :
    yearOfCycle day = year := by
  cases h with
  | @mk c q r k hc hq hr hk hlast =>
    by_cases hend : 1461 * q + 365 * r + k = 36524
    · -- the last day of the cycle
      obtain ⟨rfl, rfl, rfl, rfl⟩ : c = 3 ∧ q = 24 ∧ r = 3 ∧ k = 365 := by omega
      decide
    · have hcycle : (36524 * c + 1461 * q + 365 * r + k) / 146096 = 0 :=
        Nat.div_eq_of_lt (by omega)
      have hcentury : (36524 * c + 1461 * q + 365 * r + k) / 36524 = c :=
        Nat.div_eq_of_lt_le (by omega) (by omega)
      have hfour : (36524 * c + 1461 * q + 365 * r + k) / 1460 =
          25 * c + q + (24 * c + q + 365 * r + k) / 1460 := by
        rw [← Nat.mul_add_div (by decide)]
        congr 1
        omega
      have hcarry : (24 * c + q + 365 * r + k) / 1460 = 0 ∧ k < 365 ∨
          (24 * c + q + 365 * r + k) / 1460 = 1 ∧ 0 < k := by
        omega
      rw [yearOfCycle, hcycle, hcentury, hfour]
      apply Nat.div_eq_of_lt_le
      · omega
      · omega

lemma IsDayOf.firstDayOfYear_add {day year k : Nat} (h : IsDayOf day year k) :
    year < 400 ∧ firstDayOfYear year + k = day ∧ k < 365 + leapDays (year + 1) := by
  cases h with
  | @mk c q r k hc hq hr hk hlast =>
    have hleap := leapDays_eq ((100 * c + 4 * q + r : Nat) + 1)
    rw [firstDayOfYear]
    refine ⟨by omega, by omega, ?_⟩
    push_cast at hleap ⊢
    omega

lemma monthOfYear_spec {day : Nat} (h : day < 366) :
    monthOfYear day < 12 ∧ firstDayOfMonth (monthOfYear day) ≤ day ∧
      day < firstDayOfMonth (monthOfYear day + 1) := by
  rw [monthOfYear, firstDayOfMonth, firstDayOfMonth]
  omega

/-! ### The date of a day number -/

/-- `IsMarchDate n d`: the day `n` is a day of a month of a year from March, and the date `d` has
this day, and the month and the year counted from January. -/
inductive IsMarchDate : Int → Date → Prop
  | from_march {y : Int} {m k : Nat} (hm : m < 10) (hlow : firstDayOfMonth m ≤ k)
      (hhigh : k < firstDayOfMonth (m + 1)) :
      IsMarchDate (marchDay y + k) ⟨y, m + 3, k - firstDayOfMonth m + 1⟩
  | to_march {y : Int} {m k : Nat} (hm : m < 2) (hlow : firstDayOfMonth (m + 10) ≤ k)
      (hhigh : k < firstDayOfMonth (m + 11)) (hlast : k < 365 + leapDays (y + 1)) :
      IsMarchDate (marchDay y + k) ⟨y + 1, m + 1, k - firstDayOfMonth (m + 10) + 1⟩

lemma isMarchDate_ofDays (n : Int) : IsMarchDate n (Date.ofDays n) := by
  have hlt : ((n + daysTo1970) % daysPerCycle).toNat < daysPerCycle := by
    rw [daysPerCycle]
    omega
  obtain ⟨year, k, hday⟩ := exists_isDayOf hlt
  obtain ⟨hyear, hfirst, hk⟩ := hday.firstDayOfYear_add
  have hk366 : k < 366 := by
    rw [leapDays] at hk
    split at hk <;> omega
  obtain ⟨hm, hlow, hhigh⟩ := monthOfYear_spec hk366
  have hn : n = marchDay (400 * ((n + daysTo1970) / daysPerCycle) + year) + k := by
    rw [marchDay_cycle _ hyear]
    rw [daysPerCycle] at *
    omega
  have hleap : leapDays (400 * ((n + daysTo1970) / daysPerCycle) + year + 1) =
      leapDays (year + 1) := by
    have hone := leapDays_eq (year + 1)
    have hother := leapDays_eq (400 * ((n + daysTo1970) / daysPerCycle) + year + 1)
    omega
  rw [Date.ofDays, hday.yearOfCycle_eq, Nat.sub_eq_of_eq_add (Nat.add_comm _ k ▸ hfirst.symm)]
  by_cases hten : monthOfYear k < 10
  · have hdate := IsMarchDate.from_march (y := 400 * ((n + daysTo1970) / daysPerCycle) + year)
      hten hlow hhigh
    rw [← hn] at hdate
    simpa [hten] using hdate
  · obtain ⟨m, hm'⟩ : ∃ m, monthOfYear k = m + 10 := ⟨monthOfYear k - 10, by omega⟩
    rw [hm'] at hlow hhigh hm
    have hdate := IsMarchDate.to_march (y := 400 * ((n + daysTo1970) / daysPerCycle) + year)
      (by omega) hlow hhigh (hleap ▸ hk)
    rw [← hn] at hdate
    simpa [hm'] using hdate

/-- The date of a day number has that day number. -/
lemma Date.days_ofDays (n : Int) : (ofDays n).days = n := by
  have h := isMarchDate_ofDays n
  generalize ofDays n = d at h
  cases h with
  | from_march hm hlow _ =>
    rw [days_from_march _ hm]
    omega
  | to_march hm hlow _ _ =>
    rw [days_to_march _ hm]
    omega

/-- The date of a day number is a date of the calendar. -/
lemma Date.isValid_ofDays (n : Int) : (ofDays n).IsValid := by
  have h := isMarchDate_ofDays n
  generalize ofDays n = d at h
  cases h with
  | @from_march y m k hm hlow hhigh =>
    rw [firstDayOfMonth_succ y.natAbs hm] at hhigh
    constructor <;> dsimp only <;> omega
  | @to_march y m k hm hlow hhigh hlast =>
    have hday : k < firstDayOfMonth (m + 10) + daysOfMonth (y + 1).natAbs (m + 1) := by
      obtain rfl | rfl : m = 0 ∨ m = 1 := by omega
      · exact hhigh
      · have hfebruary : firstDayOfMonth (1 + 10) = 337 := rfl
        rw [daysOfMonth_two, hfebruary]
        omega
    constructor <;> dsimp only <;> omega

/-! ### Order of days -/

lemma daysToYear_mono {y z : Int} (h : y ≤ z) : daysToYear y ≤ daysToYear z := by
  rw [daysToYear_eq, daysToYear_eq]
  omega

lemma daysToMonth_mono (year : Int) {m k : Nat} (h : m ≤ k) :
    daysToMonth year m ≤ daysToMonth year k :=
  Finset.sum_le_sum_of_subset (Finset.range_mono (Nat.sub_le_sub_right h 1))

/-- The day number of a date lies in its year. -/
lemma Date.IsValid.days_mem (h : d.IsValid) :
    daysToYear d.year ≤ d.days ∧ d.days < daysToYear (d.year + 1) := by
  have hmonth := daysToMonth_succ d.year h.month_pos
  have hyear : daysOfYear d.year = daysToMonth d.year 13 := rfl
  have hlast : daysToMonth d.year (d.month + 1) ≤ daysToMonth d.year 13 :=
    daysToMonth_mono d.year (Nat.add_le_add_right h.month_le 1)
  have hday := h.day_pos
  have hday' := h.day_le
  rw [daysToYear_succ, Date.days]
  omega

/-- A date lies in certain years exactly if its day number does. -/
lemma Date.IsValid.year_mem_iff (h : d.IsValid) (first last : Int) :
    first ≤ d.year ∧ d.year ≤ last ↔
      daysToYear first ≤ d.days ∧ d.days < daysToYear (last + 1) := by
  obtain ⟨hlow, hhigh⟩ := h.days_mem
  constructor
  · rintro ⟨hfirst, hlast⟩
    have hle := daysToYear_mono hfirst
    have hlt := daysToYear_mono (Int.add_le_add_right hlast 1)
    omega
  · rintro ⟨hfirst, hlast⟩
    constructor
    · by_contra hlt
      have hle := daysToYear_mono (by omega : d.year + 1 ≤ first)
      omega
    · by_contra hlt
      have hle := daysToYear_mono (by omega : last + 1 ≤ d.year)
      omega

end DemoQuery
