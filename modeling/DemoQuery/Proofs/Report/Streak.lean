import DemoQuery.Proofs.Query.Integers
import DemoQuery.Proofs.Report.Table
import DemoQuery.Record.Reader

/-!
# Demos without killstreaks

A demo without killstreaks has the best streak -1, for which a filter can ask and which a table
shows as a dash. Of the demos with killstreaks exactly those whose highest peak is -1 cannot be told
from it, for a peak may be any number of 64 bits.
-/

namespace DemoQuery

open Text

variable {r : Record}

/-- Whether the highest peak of a killstreak is -1. -/
def Record.PeaksAtMinusOne (r : Record) : Prop :=
  (∃ s ∈ r.killstreaks, s.peak = -1) ∧ ∀ s ∈ r.killstreaks, s.peak ≤ -1

lemma Record.bestStreak_eq_minus_one_iff :
    r.bestStreak = -1 ↔ r.killstreaks = [] ∨ r.PeaksAtMinusOne := by
  rw [bestStreak_eq_iff]
  constructor
  · rintro (⟨s, hs, hmax, hpeak⟩ | ⟨hr, -⟩)
    · rw [hpeak] at hmax
      exact .inr ⟨⟨s, hs, hpeak⟩, hmax⟩
    · exact .inl hr
  · rintro (hr | ⟨⟨s, hs, hpeak⟩, hmax⟩)
    · exact .inr ⟨hr, rfl⟩
    · rw [← hpeak] at hmax
      exact .inl ⟨s, hs, hmax, hpeak⟩

/-! ### Asking for the best streak -/

/-- The filter for the best streak -1 compares it with -1. -/
lemma Query.parse_bestStreak_minus_one :
    ∃ q, Query.parse "beststreak: -1" = .ok q ∧ ∀ r, q.matches r ↔ r.bestStreak = -1 := by
  have hk : ⟨"beststreak", .number .bestStreak, {}⟩ ∈ Key.all := by decide
  have htext : "beststreak" ++ ": " ++ ofInteger (-1) = "beststreak: -1" := by decide
  have hparse := Query.parse_ofInteger (n := -1) hk rfl (by decide)
  rw [htext] at hparse
  exact ⟨_, hparse, fun r => Query.matches_equal_iff⟩

/-! ### The column of the best streak -/

namespace Report

/-- The column of the best streak in a row: six characters behind the name and a blank. -/
def streakColumn (row : List Char) : List Char :=
  (row.drop 37).take 6

/-- A column with a dash in it. -/
def dashColumn : List Char :=
  ['-', ' ', ' ', ' ', ' ', ' ']

lemma length_padRight (width : Nat) (s : String) :
    (padRight width s).toList.length = max width s.length := by
  rw [toList_padRight, List.length_append, List.length_replicate, String.length_toList]
  omega

lemma length_truncate_le (s : String) : (truncate s 36).length ≤ 36 := by
  rw [truncate]
  split
  · have hdots : "...".length = 3 := by decide
    rw [String.length_append, String.length_ofList, List.length_take, hdots]
    omega
  · omega

/-- Names are cut or padded to one length, so the column stands at the same place in every row. -/
lemma streakColumn_rowOfRecord (r : Record) :
    streakColumn (rowOfRecord r).toList = (padRight 6 (streakText r)).toList.take 6 := by
  have hname : (padRight 36 (truncate r.name 36)).toList.length = 36 := by
    rw [length_padRight]
    exact max_eq_left (length_truncate_le r.name)
  have hwidth : 6 ≤ (padRight 6 (streakText r)).toList.length := by
    rw [length_padRight]
    exact le_max_left _ _
  have hblank : " ".toList = [' '] := by decide
  simp only [streakColumn, rowOfRecord, recordRow, String.toList_append, List.append_assoc, hblank]
  rw [List.drop_append, hname, List.drop_eq_nil_of_le (by omega), List.nil_append,
    List.singleton_append, List.drop_succ_cons, List.drop_zero,
    List.take_append_of_le_length hwidth]

lemma exists_toDigits_eq_cons (n : Nat) : ∃ d ds, Nat.toDigits 10 n = d :: ds ∧ d.isDigit := by
  obtain ⟨d, ds, hd⟩ := List.exists_cons_of_ne_nil (Nat.toDigits_ne_nil (n := n) (b := 10))
  exact ⟨d, ds, hd, isRun_toDigits n d (by simp [hd])⟩

/-- No number is shown as a dash: none starts with one unless a digit follows. -/
lemma take_ofInteger_ne_dash (n : Int) :
    (padRight 6 (ofInteger n)).toList.take 6 ≠ dashColumn := by
  intro h
  rw [toList_padRight] at h
  cases n with
  | ofNat n =>
    obtain ⟨d, ds, hd, hdigit⟩ := exists_toDigits_eq_cons n
    rw [toList_ofInteger_ofNat, hd] at h
    obtain rfl := (List.cons.inj h).1
    exact absurd hdigit (by decide)
  | negSucc n =>
    obtain ⟨d, ds, hd, hdigit⟩ := exists_toDigits_eq_cons (n + 1)
    rw [toList_ofInteger_negSucc, hd] at h
    obtain rfl := (List.cons.inj (List.cons.inj h).2).1
    exact absurd hdigit (by decide)

lemma streakColumn_eq_dash_iff :
    streakColumn (rowOfRecord r).toList = dashColumn ↔ r.bestStreak = -1 := by
  rw [streakColumn_rowOfRecord, streakText]
  split
  · next h => exact iff_of_true (by decide) h
  · next h => exact iff_of_false (take_ofInteger_ne_dash _) h

end Report

/-! ### With and without killstreaks -/

/-- The filter for the best streak -1 and the dash in a table both pick the demos without
killstreaks and, besides these, the demos whose highest peak is -1. -/
theorem Record.streakless_or_peaksAtMinusOne_iff (r : Record) :
    (∃ q, Query.parse "beststreak: -1" = .ok q ∧
      (q.matches r ↔ r.killstreaks = [] ∨ r.PeaksAtMinusOne)) ∧
    (Report.streakColumn (Report.rowOfRecord r).toList = Report.dashColumn ↔
      r.killstreaks = [] ∨ r.PeaksAtMinusOne) := by
  obtain ⟨q, hparse, hmatches⟩ := Query.parse_bestStreak_minus_one
  refine ⟨⟨q, hparse, ?_⟩, ?_⟩
  · rw [hmatches, bestStreak_eq_minus_one_iff]
  · rw [Report.streakColumn_eq_dash_iff, bestStreak_eq_minus_one_iff]

/-- A demo with a killstreak of peak -1 is loaded, asked for and shown as one without. -/
theorem Record.streakless_peak_of_minus_one :
    Record.parseAll? "[\x7b\"name\":\"a\",\"killstreaks\":[\x7b\"peak\":-1,\"tick\":0\x7d]\x7d]" =
      some [⟨"a", [⟨-1, 0⟩], [], none, none⟩] ∧
    (∃ q, Query.parse "beststreak: -1" = .ok q ∧
      q.matches ⟨"a", [⟨-1, 0⟩], [], none, none⟩) ∧
    Report.streakColumn (Report.rowOfRecord ⟨"a", [⟨-1, 0⟩], [], none, none⟩).toList =
      Report.dashColumn := by
  obtain ⟨q, hparse, hmatches⟩ := Query.parse_bestStreak_minus_one
  refine ⟨by decide +kernel, ⟨q, hparse, ?_⟩, ?_⟩
  · rw [hmatches]
    decide
  · rw [Report.streakColumn_eq_dash_iff]
    decide

end DemoQuery
