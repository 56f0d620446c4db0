import DemoQuery.Disk
import Mathlib.Data.List.TakeWhile
import Mathlib.Tactic.Lemma

/-!
# The directory of a path

A path is the path of its directory with a last step behind it, but for steps that stay where they
are. Both start from the same place.
-/

namespace DemoQuery

variable {path step : String} {front : List String}

/-! ### Steps -/

/-- No part of a text that has been split at a character has the character. -/
lemma notMem_of_mem_splitOn {x : Char} {xs cs : List Char} (h : cs ∈ xs.splitOn x) : x ∉ cs := by
  induction xs generalizing cs with
  | nil =>
    rw [List.splitOn_nil, List.mem_singleton] at h
    simp [h]
  | cons a as ih =>
    rw [List.splitOn_cons_eq_if_modifyHead] at h
    obtain ⟨first, others, hsplit⟩ := List.exists_cons_of_ne_nil (List.splitOn_ne_nil x as)
    split at h
    · rcases List.mem_cons.1 h with rfl | h
      · simp
      · exact ih h
    · next ha =>
      rw [hsplit, List.modifyHead_cons] at h
      rcases List.mem_cons.1 h with rfl | h
      · rw [List.mem_cons, not_or]
        exact ⟨fun hx => ha (by simp [hx]), ih (by simp [hsplit])⟩
      · exact ih (by simp [hsplit, h])

namespace Path

lemma notMem_of_mem_steps (h : step ∈ steps path) : '/' ∉ step.toList := by
  obtain ⟨cs, hcs, rfl⟩ := List.mem_map.1 h
  rw [String.toList_ofList]
  exact notMem_of_mem_splitOn hcs

lemma toList_slash : "/".toList = ['/'] := by decide

/-- Steps between slashes are the steps of the path. -/
lemma steps_intercalate (hne : front ≠ []) (h : ∀ step ∈ front, '/' ∉ step.toList) :
    steps ("/".intercalate front) = front := by
  rw [steps, String.toList_intercalate, toList_slash, List.splitOn_intercalate]
  · simp
  · intro cs hcs
    obtain ⟨step, hstep, rfl⟩ := List.mem_map.1 hcs
    exact h step hstep
  · simpa using hne

/-- Every step stays where it is. -/
def Stays (taken : List String) : Prop :=
  ∀ step ∈ taken, isStay step

/-- The ways in which a path ends: it stays where it starts, or it has a last step that does not
stay, behind the steps of its directory. -/
inductive Ends (path : String) : Prop
  | stays (h : Stays (steps path)) (hdirectory : directory path = "")
  | step (front stays : List String) (last : String) (behind : List String)
      (hsteps : steps path = front ++ (stays ++ last :: behind))
      (hfront : ∀ last ∈ front.getLast?, isStay last = false) (hstays : Stays stays)
      (hlast : isStay last = false) (hbehind : Stays behind)
      (hdirectory : directory path = "/".intercalate front)

lemma stays_takeWhile_reverse (taken : List String) :
    Stays (taken.takeWhile isStay).reverse := fun _ hstep =>
  List.mem_takeWhile_imp (List.mem_reverse.1 hstep)

/-- A list of steps ends with steps that stay, behind one that does not if there is one. -/
lemma eq_reverse_append (taken : List String) :
    taken.reverse = (taken.dropWhile isStay).reverse ++ (taken.takeWhile isStay).reverse := by
  rw [← List.reverse_append, List.takeWhile_append_dropWhile]

lemma ends (path : String) : Ends path := by
  have hsteps := eq_reverse_append (steps path).reverse
  rw [List.reverse_reverse] at hsteps
  have hbehind := stays_takeWhile_reverse (steps path).reverse
  have hdirectory : directory path = "/".intercalate
      ((((steps path).reverse.dropWhile isStay).tail).dropWhile isStay).reverse := rfl
  cases hrest : (steps path).reverse.dropWhile isStay with
  | nil =>
    rw [hrest] at hsteps hdirectory
    refine .stays ?_ (by rw [hdirectory]; rfl)
    rw [hsteps]
    simpa using hbehind
  | cons last around =>
    have hlast : isStay last = false := by
      have hhead := List.head?_dropWhile_not isStay (steps path).reverse
      simpa [hrest] using hhead
    rw [hrest, List.reverse_cons, eq_reverse_append around] at hsteps
    rw [hrest, List.tail_cons] at hdirectory
    refine .step (around.dropWhile isStay).reverse (around.takeWhile isStay).reverse last
      ((steps path).reverse.takeWhile isStay).reverse (by simpa using hsteps) ?_
      (stays_takeWhile_reverse around) hlast hbehind hdirectory
    intro step hstep
    rw [List.getLast?_reverse] at hstep
    have hhead := List.head?_dropWhile_not isStay around
    rw [Option.mem_def.1 hstep] at hhead
    simpa using hhead

end Path

/-! ### Starts -/

/-- The place at which steps start, and those from there. -/
def Place.startOf : List String → Place × List String
  | "" :: step :: steps => (["/"], step :: steps)
  | steps               => ([], steps)

lemma Place.start_eq (path : String) : start path = startOf (Path.steps path) := rfl

lemma Place.isFixed_startOf (steps : List String) : (startOf steps).1.isFixed := by
  unfold startOf
  split <;> rfl

lemma Place.startOf_subset (taken : List String) : (startOf taken).2 ⊆ taken := by
  unfold startOf
  split
  · exact List.subset_cons_self _ _
  · exact List.Subset.refl _

/-- More steps behind others do not change where these start. -/
lemma Place.startOf_append (hne : front ≠ []) (hblank : front ≠ [""]) (behind : List String) :
    startOf (front ++ behind) = ((startOf front).1, (startOf front).2 ++ behind) := by
  match front with
  | [step] =>
    have hstep : step ≠ "" := by simpa using hblank
    rw [List.singleton_append, startOf.eq_2 _ (by simp [hstep]), startOf.eq_2 _ (by simp)]
    rfl
  | first :: second :: front =>
    by_cases hfirst : first = ""
    · subst hfirst
      rfl
    · rw [List.cons_append, startOf.eq_2 _ (by simp [hfirst]), startOf.eq_2 _ (by simp [hfirst])]
      rfl

end DemoQuery
