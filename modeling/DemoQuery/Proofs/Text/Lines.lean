import DemoQuery.Proofs.Text.Run
import Mathlib.Algebra.GroupWithZero.Nat

/-!
# Lines

A text of lines, each with a line feed behind it. If no line has a line feed of its own, the text
says which lines it is made of, and has as many line feeds as lines.
-/

namespace DemoQuery.Text

variable {l m rs ss : List Char} {ls ms : List (List Char)}

/-- The text of some lines. -/
def ofLines (ls : List (List Char)) : List Char :=
  ls.flatMap (· ++ ['\n'])

@[simp] lemma ofLines_nil : ofLines [] = [] := rfl

@[simp] lemma ofLines_cons : ofLines (l :: ls) = l ++ '\n' :: ofLines ls := by
  simp [ofLines]

/-- A line without a line feed ends at the first one. -/
lemma line_append_inj (hl : '\n' ∉ l) (hm : '\n' ∉ m) (h : l ++ '\n' :: rs = m ++ '\n' :: ss) :
    l = m ∧ rs = ss := by
  have hrun : ∀ {l : List Char}, '\n' ∉ l → IsRun (· ≠ '\n') l := fun hl c hc =>
    decide_eq_true (ne_of_mem_of_not_mem hc hl)
  have hstop : ∀ ts, StopsAt (· ≠ '\n') ('\n' :: ts) := fun ts => stopsAt_cons.2 (by decide)
  obtain ⟨hline, hrest⟩ := run_append_inj (hrun hl) (hrun hm) (hstop rs) (hstop ss) h
  exact ⟨hline, (List.cons.inj hrest).2⟩

lemma ofLines_inj (hls : ∀ l ∈ ls, '\n' ∉ l) (hms : ∀ m ∈ ms, '\n' ∉ m)
    (h : ofLines ls = ofLines ms) : ls = ms := by
  induction ls generalizing ms with
  | nil =>
    cases ms with
    | nil => rfl
    | cons m ms => simp at h
  | cons l ls ih =>
    obtain ⟨hl, hls'⟩ := List.forall_mem_cons.1 hls
    cases ms with
    | nil => simp at h
    | cons m ms =>
      obtain ⟨hm, hms'⟩ := List.forall_mem_cons.1 hms
      rw [ofLines_cons, ofLines_cons] at h
      obtain ⟨rfl, hrest⟩ := line_append_inj hl hm h
      rw [ih hls' hms' hrest]

/-- A text has a line feed for each of its lines, and those that its lines have themselves. -/
lemma count_newline_ofLines_eq (ls : List (List Char)) :
    (ofLines ls).count '\n' = ls.length + (ls.map (·.count '\n')).sum := by
  induction ls with
  | nil => rfl
  | cons l ls ih =>
    rw [ofLines_cons, List.count_append, List.count_cons_self, ih, List.length_cons,
      List.map_cons, List.sum_cons]
    omega

lemma sum_count_newline_eq_zero_iff {α : Type} {as : List α} {f : α → List Char} :
    (as.map fun a => (f a).count '\n').sum = 0 ↔ ∀ a ∈ as, '\n' ∉ f a := by
  simp [List.sum_eq_zero_iff_forall_eq_nat, List.count_eq_zero]

lemma count_newline_ofLines (hls : ∀ l ∈ ls, '\n' ∉ l) : (ofLines ls).count '\n' = ls.length := by
  rw [count_newline_ofLines_eq, sum_count_newline_eq_zero_iff.2 hls, Nat.add_zero]

end DemoQuery.Text
