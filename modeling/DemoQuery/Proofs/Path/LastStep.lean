import DemoQuery.Proofs.Path
import Mathlib.Data.List.Induction

/-!
# The last step of a path

The last step of a path is what stands behind its last slash once the slashes at its end have been
dropped, and with them the single dots that stand behind a slash. Unless it leads back it is the
file name of the path. A name that is joined to the path of a directory is the last step of the
joined path, and leads from the directory to the name.
-/

namespace DemoQuery

namespace Path

variable {path step name directory : String} {front behind : List String} {cs : List Char}

/-! ### Steps and texts -/

lemma intercalate_steps (path : String) : "/".intercalate (steps path) = path := by
  rw [← String.toList_inj, String.toList_intercalate, toList_slash, steps, List.map_map]
  simp

lemma steps_ne_nil (path : String) : steps path ≠ [] := by
  rw [steps, ne_eq, List.map_eq_nil_iff]
  exact List.splitOn_ne_nil '/' path.toList

lemma exists_steps_eq_concat (path : String) : ∃ front last, steps path = front ++ [last] :=
  ⟨_, _, (List.dropLast_concat_getLast (steps_ne_nil path)).symm⟩

/-- A text between slashes stands behind other texts, each with a slash behind it, and in front of
others, each with a slash in front of it. -/
lemma toList_intercalate_append_cons (front : List String) (step : String) (behind : List String) :
    ("/".intercalate (front ++ step :: behind)).toList =
      front.flatMap (·.toList ++ ['/']) ++ step.toList ++ behind.flatMap ('/' :: ·.toList) := by
  rw [String.toList_intercalate, toList_slash]
  induction front with
  | nil =>
    induction behind generalizing step with
    | nil => simp
    | cons next behind ih =>
      have hnext := ih next
      simp only [List.nil_append, List.map_cons, List.flatMap_nil] at hnext ⊢
      rw [List.intercalate_cons_cons, hnext]
      simp
  | cons first front ih =>
    rw [List.cons_append, List.map_cons, List.intercalate_cons_of_ne_nil (by simp), ih]
    simp

/-- The steps of a path say how its text is put together, and the text says which steps they are. -/
lemma steps_eq_append_cons_iff :
    steps path = front ++ step :: behind ↔ (∀ s ∈ front ++ step :: behind, '/' ∉ s.toList) ∧
      path.toList =
        front.flatMap (·.toList ++ ['/']) ++ step.toList ++ behind.flatMap ('/' :: ·.toList) := by
  constructor
  · intro h
    rw [← h]
    refine ⟨fun s hs => notMem_of_mem_steps hs, ?_⟩
    rw [← toList_intercalate_append_cons, ← h, intercalate_steps]
  · rintro ⟨hslash, hpath⟩
    rw [← toList_intercalate_append_cons, String.toList_inj] at hpath
    rw [hpath, steps_intercalate (by simp) hslash]

lemma flatMap_steps (path : String) :
    (steps path).flatMap (·.toList ++ ['/']) = path.toList ++ ['/'] := by
  obtain ⟨front, last, hsteps⟩ := exists_steps_eq_concat path
  rw [(steps_eq_append_cons_iff.1 hsteps).2, hsteps]
  simp

/-- A path that is empty or ends in a slash has an empty last step. -/
lemma exists_steps_eq_concat_empty (h : ∀ c ∈ path.toList.getLast?, c = '/') :
    ∃ front, steps path = front ++ [""] := by
  obtain ⟨front, last, hsteps⟩ := exists_steps_eq_concat path
  obtain ⟨hslash, hpath⟩ := steps_eq_append_cons_iff.1 hsteps
  have hlast : last.toList = [] := by
    -- otherwise the slash would be the last character of a step
    by_contra hne
    obtain ⟨init, c, hc⟩ : ∃ init c, last.toList = init ++ [c] :=
      ⟨_, _, (List.dropLast_concat_getLast hne).symm⟩
    obtain rfl : c = '/' := h c (by simp [hpath, hc])
    exact hslash last (by simp) (by simp [hc])
  exact ⟨front, by rw [hsteps, String.toList_eq_nil_iff.1 hlast]⟩

/-! ### The last step -/

/-- What can be dropped at the end of a path: slashes, and slashes with a single dot behind them. -/
inductive Trailing : List Char → Prop
  | nil : Trailing []
  | slash {cs : List Char} (h : Trailing cs) : Trailing ('/' :: cs)
  | dot {cs : List Char} (h : Trailing cs) : Trailing ('/' :: '.' :: cs)

/-- `LastStep path step`: without what can be dropped at its end, `path` ends in `step`, which
stands behind a slash or behind nothing. It is neither empty nor a single dot, so that there is
nothing more to drop. -/
inductive LastStep (path step : String) : Prop
  | mk {front trailing : List Char} (hpath : path.toList = front ++ step.toList ++ trailing)
      (hfront : ∀ c ∈ front.getLast?, c = '/') (hslash : '/' ∉ step.toList) (hempty : step ≠ "")
      (hdot : step ≠ ".") (htrailing : Trailing trailing) : LastStep path step

lemma isStay_iff : isStay step ↔ step = "" ∨ step = "." := by
  simp [isStay]

lemma isStay_eq_false_iff : isStay step = false ↔ step ≠ "" ∧ step ≠ "." := by
  simp [isStay]

lemma trailing_iff :
    Trailing cs ↔ ∃ behind, Stays behind ∧ cs = behind.flatMap ('/' :: ·.toList) := by
  constructor
  · intro h
    induction h with
    | nil => exact ⟨[], by simp [Stays], rfl⟩
    | slash _ ih =>
      obtain ⟨behind, hbehind, rfl⟩ := ih
      exact ⟨"" :: behind, List.forall_mem_cons.2 ⟨by decide, hbehind⟩, by simp⟩
    | dot _ ih =>
      obtain ⟨behind, hbehind, rfl⟩ := ih
      exact ⟨"." :: behind, List.forall_mem_cons.2 ⟨by decide, hbehind⟩, by simp⟩
  · rintro ⟨behind, hbehind, rfl⟩
    induction behind with
    | nil => exact .nil
    | cons step behind ih =>
      obtain ⟨hstep, hrest⟩ := List.forall_mem_cons.1 hbehind
      rcases isStay_iff.1 hstep with rfl | rfl
      · exact .slash (ih hrest)
      · exact .dot (ih hrest)

lemma Stays.notMem (h : Stays behind) : ∀ s ∈ behind, '/' ∉ s.toList := by
  intro s hs
  rcases isStay_iff.1 (h s hs) with rfl | rfl <;> decide

/-- The last step is the last of the steps of a path that does not stay. -/
lemma lastStep_iff : LastStep path step ↔ isStay step = false ∧
    ∃ front behind, steps path = front ++ step :: behind ∧ Stays behind := by
  constructor
  · intro h
    cases h with
    | @mk text trailing hpath hfront hslash hempty hdot htrailing =>
      obtain ⟨front, hsteps⟩ : ∃ front, steps (.ofList text) = front ++ [""] :=
        exists_steps_eq_concat_empty (by simpa using hfront)
      obtain ⟨hfront, htext⟩ := steps_eq_append_cons_iff.1 hsteps
      obtain ⟨behind, hbehind, rfl⟩ := trailing_iff.1 htrailing
      refine ⟨isStay_eq_false_iff.2 ⟨hempty, hdot⟩, front, behind, ?_, hbehind⟩
      refine steps_eq_append_cons_iff.2 ⟨?_, ?_⟩
      · rw [List.forall_mem_append, List.forall_mem_cons]
        exact ⟨(List.forall_mem_append.1 hfront).1, hslash, hbehind.notMem⟩
      · rw [hpath]
        simpa using htext
  · rintro ⟨hstay, front, behind, hsteps, hbehind⟩
    obtain ⟨hslash, hpath⟩ := steps_eq_append_cons_iff.1 hsteps
    obtain ⟨hempty, hdot⟩ := isStay_eq_false_iff.1 hstay
    refine .mk hpath (fun c hc => ?_) (hslash step (by simp)) hempty hdot
      (trailing_iff.2 ⟨behind, hbehind, rfl⟩)
    cases front using List.reverseRecOn with
    | nil => simp at hc
    | append_singleton front last => simpa [eq_comm] using hc

/-- From the end of a path, the last step is the first that does not stay. -/
lemma lastStep_iff_dropWhile : LastStep path step ↔
    ∃ around, (steps path).reverse.dropWhile isStay = step :: around := by
  rw [lastStep_iff]
  constructor
  · rintro ⟨hstay, front, behind, hsteps, hbehind⟩
    rw [hsteps, List.reverse_append, List.reverse_cons, List.append_assoc,
      List.dropWhile_append_of_pos fun s hs => hbehind s (List.mem_reverse.1 hs)]
    exact ⟨front.reverse, by simp [hstay]⟩
  · rintro ⟨around, hdrop⟩
    have hlast := List.head?_dropWhile_not isStay (steps path).reverse
    have hsteps := eq_reverse_append (steps path).reverse
    rw [hdrop] at hlast hsteps
    exact ⟨hlast, around.reverse, _, by simpa using hsteps, stays_takeWhile_reverse _⟩

/-- A path has one last step at most. -/
lemma LastStep.unique {step' : String} (h : LastStep path step) (h' : LastStep path step') :
    step = step' := by
  obtain ⟨around, hdrop⟩ := lastStep_iff_dropWhile.1 h
  obtain ⟨around', hdrop'⟩ := lastStep_iff_dropWhile.1 h'
  exact (List.cons.inj (hdrop.symm.trans hdrop')).1

/-- The file name of a path is its last step, unless that leads back. -/
lemma fileName?_eq_some_iff : fileName? path = some step ↔ LastStep path step ∧ step ≠ ".." := by
  rw [lastStep_iff_dropWhile, fileName?]
  cases (steps path).reverse.dropWhile isStay with
  | nil => simp
  | cons last around =>
    by_cases hback : last = ".."
    · simp only [hback, if_true, reduceCtorEq, List.cons.injEq, exists_and_left, false_iff, not_and]
      rintro ⟨rfl, -⟩
      simp
    · simp only [hback, if_false, Option.some.injEq, List.cons.injEq, exists_and_left,
        exists_eq', and_true]
      exact ⟨fun h => ⟨h, h ▸ hback⟩, And.left⟩

/-! ### Joined paths -/

/-- A name that is joined to the path of a directory is one more step. It takes the place of the
empty step behind a slash that the path ends in. -/
lemma exists_steps_join (hname : '/' ∉ name.toList) :
    ∃ front, steps (join directory name) = front ++ [name] ∧
      (steps directory = front ∧ directory ≠ "" ∨ steps directory = front ++ [""]) := by
  rw [join]
  split
  · next hopen =>
    obtain ⟨front, hsteps⟩ : ∃ front, steps directory = front ++ [""] := by
      refine exists_steps_eq_concat_empty fun c hc => ?_
      rcases hopen with rfl | hlast
      · simp at hc
      · exact Option.some.inj (hc.symm.trans hlast)
    obtain ⟨hslash, hdirectory⟩ := steps_eq_append_cons_iff.1 hsteps
    refine ⟨front, steps_eq_append_cons_iff.2 ⟨?_, ?_⟩, .inr hsteps⟩
    · rw [List.forall_mem_append, List.forall_mem_singleton]
      exact ⟨(List.forall_mem_append.1 hslash).1, hname⟩
    · rw [String.toList_append, hdirectory]
      simp
  · next hopen =>
    refine ⟨steps directory, steps_eq_append_cons_iff.2 ⟨?_, ?_⟩,
      .inl ⟨rfl, fun h => hopen (.inl h)⟩⟩
    · rw [List.forall_mem_append, List.forall_mem_singleton]
      exact ⟨fun s hs => notMem_of_mem_steps hs, hname⟩
    · rw [flatMap_steps]
      simp

end Path

end DemoQuery
