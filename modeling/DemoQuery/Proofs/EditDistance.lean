import DemoQuery.Key
import Mathlib.Data.Nat.Basic
import Mathlib.Tactic.Lemma

/-!
# The least number of edits

Edits of texts and sequences of them, said without the rows by which the distance is computed. The
distance of two texts is the length of the shortest sequence of edits from the one to the other. So
it is the same in both directions, and an edit of a text changes its distance to any other text by
one at most.
-/

namespace DemoQuery

variable {α : Type}

/-! ### Edits -/

/-- One character of a text is inserted, deleted or replaced. -/
inductive Edit : List α → List α → Prop
  | insert (front back : List α) (a : α) : Edit (front ++ back) (front ++ a :: back)
  | delete (front back : List α) (a : α) : Edit (front ++ a :: back) (front ++ back)
  | replace (front back : List α) (a b : α) : Edit (front ++ a :: back) (front ++ b :: back)

/-- `Edits n s t`: a sequence of `n` edits turns `s` into `t`. -/
inductive Edits : Nat → List α → List α → Prop
  | refl (s : List α) : Edits 0 s s
  | cons {n : Nat} {s t u : List α} (h : Edit s t) (hs : Edits n t u) : Edits (n + 1) s u

lemma Edit.symm {s t : List α} (h : Edit s t) : Edit t s := by
  cases h with
  | insert front back a => exact .delete front back a
  | delete front back a => exact .insert front back a
  | replace front back a b => exact .replace front back b a

/-- The same edit can be made behind any character. -/
lemma Edit.behind {s t : List α} (h : Edit s t) (c : α) : Edit (c :: s) (c :: t) := by
  cases h with
  | insert front back a => exact .insert (c :: front) back a
  | delete front back a => exact .delete (c :: front) back a
  | replace front back a b => exact .replace (c :: front) back a b

lemma Edits.behind {n : Nat} {s t : List α} (h : Edits n s t) (c : α) :
    Edits n (c :: s) (c :: t) := by
  induction h with
  | refl s => exact .refl (c :: s)
  | cons h _ ih => exact .cons (h.behind c) ih

lemma Edits.concat {n : Nat} {s t u : List α} (hs : Edits n s t) (h : Edit t u) :
    Edits (n + 1) s u := by
  induction hs with
  | refl s => exact .cons h (.refl u)
  | cons h' _ ih => exact .cons h' (ih h)

/-- Edits can be taken back one by one, the last one first. -/
lemma Edits.symm {n : Nat} {s t : List α} (h : Edits n s t) : Edits n t s := by
  induction h with
  | refl s => exact .refl s
  | cons h _ ih => exact ih.concat h.symm

lemma Edit.length_le {s t : List α} (h : Edit s t) : t.length ≤ s.length + 1 := by
  cases h <;> simp <;> omega

/-! ### The rows of distances -/

section Distance

variable [DecidableEq α]

/-- A row starts with the distance to the longest tail and goes on as the row of the next one. -/
lemma distanceRow_cons (s t : List α) (b : α) :
    distanceRow s (b :: t) = editDistance s (b :: t) :: distanceRow s t := by
  induction s with
  | nil => simp [editDistance, distanceRow, List.range_succ]
  | cons a s ih =>
    rw [editDistance, distanceRow, ih]
    rfl

@[simp] lemma editDistance_nil_left (t : List α) : editDistance [] t = t.length := by
  simp [editDistance, distanceRow, List.range_succ]

@[simp] lemma editDistance_cons_nil (a : α) (s : List α) :
    editDistance (a :: s) [] = editDistance s [] + 1 := by
  have hrow : distanceRow s [] = [editDistance s []] := by
    induction s with
    | nil => rfl
    | cons c s ih => rw [editDistance, distanceRow, ih]; rfl
  rw [editDistance, distanceRow, hrow]
  rfl

/-- The heads are kept or replaced, or one of them is deleted or inserted. -/
lemma editDistance_cons_cons (a b : α) (s t : List α) :
    editDistance (a :: s) (b :: t) =
      min (editDistance s t + if a = b then 0 else 1)
        (min (editDistance s (b :: t) + 1) (editDistance (a :: s) t + 1)) := by
  rw [editDistance, distanceRow, distanceRow_cons]
  rfl

lemma editDistance_self (s : List α) : editDistance s s = 0 := by
  induction s with
  | nil => rfl
  | cons a s ih => simp [editDistance_cons_cons, ih]

/-! ### The distance is reached -/

/-- As many edits as the distance says are enough. -/
lemma edits_editDistance (s t : List α) : Edits (editDistance s t) s t := by
  induction s generalizing t with
  | nil =>
    rw [editDistance_nil_left]
    induction t with
    | nil => exact .refl []
    | cons b t ih => exact .cons (.insert [] [] b) (ih.behind b)
  | cons a s ihs =>
    induction t with
    | nil =>
      rw [editDistance_cons_nil]
      exact .cons (.delete [] s a) (ihs [])
    | cons b t iht =>
      have hcases :
          editDistance (a :: s) (b :: t) = editDistance s t + (if a = b then 0 else 1) ∨
            editDistance (a :: s) (b :: t) = editDistance s (b :: t) + 1 ∨
            editDistance (a :: s) (b :: t) = editDistance (a :: s) t + 1 := by
        rw [editDistance_cons_cons]
        omega
      rcases hcases with hkeep | hdelete | hinsert
      · rw [hkeep]
        by_cases hab : a = b
        · subst hab
          rw [if_pos rfl]
          exact (ihs t).behind a
        · rw [if_neg hab]
          exact .cons (.replace [] s a b) ((ihs t).behind b)
      · rw [hdelete]
        exact .cons (.delete [] s a) (ihs (b :: t))
      · rw [hinsert]
        exact .cons (.insert [] (a :: s) b) (iht.behind b)

/-! ### The distance is the least -/

lemma editDistance_cons_right_le (s t : List α) (b : α) :
    editDistance s (b :: t) ≤ editDistance s t + 1 := by
  cases s with
  | nil => simp
  | cons a s => rw [editDistance_cons_cons]; omega

lemma editDistance_delete_le (a : α) (s u : List α) :
    editDistance (a :: s) u ≤ editDistance s u + 1 := by
  cases u with
  | nil => simp
  | cons b u => rw [editDistance_cons_cons]; omega

lemma editDistance_insert_le (a : α) (s u : List α) :
    editDistance s u ≤ editDistance (a :: s) u + 1 := by
  induction u with
  | nil => rw [editDistance_cons_nil]; omega
  | cons b u ih =>
    have hright := editDistance_cons_right_le s u b
    rw [editDistance_cons_cons]
    omega

lemma editDistance_replace_le (a b : α) (s u : List α) :
    editDistance (a :: s) u ≤ editDistance (b :: s) u + 1 := by
  induction u with
  | nil => simp
  | cons c u ih =>
    rw [editDistance_cons_cons, editDistance_cons_cons]
    split <;> split <;> omega

/-- What a step costs at most, it costs at most behind a character. -/
lemma editDistance_behind_le {s t : List α}
    (h : ∀ u, editDistance s u ≤ editDistance t u + 1) (c : α) (u : List α) :
    editDistance (c :: s) u ≤ editDistance (c :: t) u + 1 := by
  induction u with
  | nil =>
    have hnil := h []
    rw [editDistance_cons_nil, editDistance_cons_nil]
    omega
  | cons b u ih =>
    have hkeep := h u
    have hdelete := h (b :: u)
    rw [editDistance_cons_cons, editDistance_cons_cons]
    omega

lemma editDistance_front_le {s t : List α}
    (h : ∀ u, editDistance s u ≤ editDistance t u + 1) (front u : List α) :
    editDistance (front ++ s) u ≤ editDistance (front ++ t) u + 1 := by
  induction front generalizing u with
  | nil => exact h u
  | cons c front ih => exact editDistance_behind_le ih c u

/-- An edit changes the distance to any text by one at most. -/
lemma Edit.editDistance_le {s t : List α} (h : Edit s t) (u : List α) :
    editDistance s u ≤ editDistance t u + 1 := by
  cases h with
  | insert front back a => exact editDistance_front_le (editDistance_insert_le a back) front u
  | delete front back a => exact editDistance_front_le (editDistance_delete_le a back) front u
  | replace front back a b =>
    exact editDistance_front_le (editDistance_replace_le a b back) front u

/-- No fewer edits than the distance says are enough. -/
lemma Edits.editDistance_le {n : Nat} {s t : List α} (h : Edits n s t) :
    editDistance s t ≤ n := by
  induction h with
  | refl s => rw [editDistance_self]
  | @cons n s t u h _ ih =>
    have hstep := h.editDistance_le u
    omega

lemma editDistance_comm (s t : List α) : editDistance s t = editDistance t s := by
  apply Nat.le_antisymm
  · exact (edits_editDistance t s).symm.editDistance_le
  · exact (edits_editDistance s t).symm.editDistance_le

end Distance

end DemoQuery
