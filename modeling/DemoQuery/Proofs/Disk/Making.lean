import DemoQuery.Proofs.Disk.Walking

/-!
# Making directories

What making the directories on the way of some steps does to a disk: it adds directories and leaves
everything else as it is. Either the steps lead to the last of the directories then, or something
that is none is in their way for good.
-/

namespace DemoQuery

variable {disk disk' disk'' : Disk} {here there place : Place} {node : Node} {made : Bool}
variable {steps more : List String}

/-! ### More directories -/

/-- `disk.Grows disk'`: there are more directories on `disk'`, and everything else is the same. -/
structure Disk.Grows (disk disk' : Disk) : Prop where
  clock : disk'.clock = disk.clock
  keeps : ∀ {place : Place} {node : Node}, disk.at? place = some node → disk'.at? place = some node
  adds  : ∀ {place : Place} {node : Node}, disk.at? place = none → disk'.at? place = some node →
    node.isDirectory

lemma Disk.Grows.refl (disk : Disk) : disk.Grows disk :=
  ⟨rfl, id, fun hnone hsome => by rw [hnone] at hsome; cases hsome⟩

lemma Disk.Grows.trans (h : disk.Grows disk') (h' : disk'.Grows disk'') : disk.Grows disk'' where
  clock := h'.clock.trans h.clock
  keeps hat := h'.keeps (h.keeps hat)
  adds {place node} hnone hsome := by
    cases hat : disk'.at? place with
    | none => exact h'.adds hat hsome
    | some node' =>
      obtain rfl := Option.some.inj ((h'.keeps hat).symm.trans hsome)
      exact h.adds hnone hat

lemma Disk.Grows.isDirectoryAt (h : disk.Grows disk') (hplace : disk.isDirectoryAt place) :
    disk'.isDirectoryAt place := by
  rw [Disk.isDirectoryAt] at hplace ⊢
  cases hat : disk.at? place with
  | none => simp [hat] at hplace
  | some node =>
    rw [hat] at hplace
    rwa [h.keeps hat]

lemma Disk.Grows.walks (h : disk.Grows disk') (hwalks : disk.Walks here steps there) :
    disk'.Walks here steps there :=
  hwalks.mono fun _ => h.isDirectoryAt

/-- What the file at a place holds, if there is one. -/
def Disk.contentsAt (disk : Disk) (place : Place) : Option Contents :=
  match disk.at? place with
  | some (.file file) => some file.contents
  | _                 => none

lemma Disk.contentsAt_put_of_ne {other : Place} (h : other ≠ place) :
    (disk.put place node).contentsAt other = disk.contentsAt other := by
  rw [contentsAt, at?_put_of_ne h]
  rfl

lemma Disk.Grows.contentsAt (h : disk.Grows disk') (place : Place) :
    disk'.contentsAt place = disk.contentsAt place := by
  unfold Disk.contentsAt
  cases hat : disk.at? place with
  | some node => rw [h.keeps hat]
  | none =>
    cases hat' : disk'.at? place with
    | none => rfl
    | some node =>
      cases node with
      | directory data => rfl
      | file file => cases h.adds hat hat'

lemma Disk.grows_put {data : FileData} (h : disk.at? place = none) :
    disk.Grows (disk.put place (.directory data)) := by
  have hne : ∀ {other node}, disk.at? other = some node → other ≠ place := by
    rintro other node hother rfl
    rw [h] at hother
    cases hother
  refine ⟨rfl, fun hother => ?_, fun {other node} hother hsome => ?_⟩
  · rwa [at?_put_of_ne (hne hother)]
  · by_cases hplace : other = place
    · subst hplace
      have hfixed : other.isFixed = false := by
        by_contra hfixed
        rw [at?_of_isFixed (by simpa using hfixed)] at h
        cases h
      rw [at?_put_self hfixed] at hsome
      obtain rfl := Option.some.inj hsome
      rfl
    · rw [at?_put_of_ne hplace, hother] at hsome
      cases hsome

/-! ### Making steps -/

/-- `disk.Makes here steps disk' made`: making the directories on the way of the steps from `here`
turns `disk` into `disk'`, and `made` says whether all of them are there then. -/
inductive Disk.Makes : Disk → Place → List String → Disk → Bool → Prop
  | done {disk : Disk} {here : Place} : Makes disk here [] disk true
  | stay {disk disk' : Disk} {here : Place} {step : String} {steps : List String} {made : Bool}
      (hstep : Path.isStay step) (hrest : Makes disk here steps disk' made) :
      Makes disk here (step :: steps) disk' made
  | back {disk disk' : Disk} {here : Place} {steps : List String} {made : Bool}
      (hrest : Makes disk here.back steps disk' made) : Makes disk here (".." :: steps) disk' made
  | enter {disk disk' : Disk} {here : Place} {step : String} {steps : List String} {made : Bool}
      (hstep : Path.IsName step) (hthere : disk.isDirectoryAt (here ++ [step]))
      (hrest : Makes disk (here ++ [step]) steps disk' made) :
      Makes disk here (step :: steps) disk' made
  | make {disk disk' : Disk} {here : Place} {step : String} {steps : List String} {made : Bool}
      (hstep : Path.IsName step) (hthere : disk.at? (here ++ [step]) = none)
      (hshort : Path.isShortStep step)
      (hrest : Makes (disk.put (here ++ [step]) disk.newDirectory) (here ++ [step]) steps disk'
        made) : Makes disk here (step :: steps) disk' made
  | blocked {disk : Disk} {here : Place} {step : String} {steps : List String}
      (hstep : Path.IsName step) (hthere : disk.isDirectoryAt (here ++ [step]) = false) :
      Makes disk here (step :: steps) disk false

lemma Disk.makes_makeSteps (disk : Disk) (here : Place) (steps : List String) :
    disk.Makes here steps (disk.makeSteps here steps).1 (disk.makeSteps here steps).2 := by
  induction steps generalizing disk here with
  | nil => exact .done
  | cons step steps ih =>
    rw [makeSteps]
    split
    · next hstay => exact .stay hstay (ih disk here)
    · next hstay =>
      split
      · next hback =>
        subst hback
        exact .back (ih disk here.back)
      · next hback =>
        have hstep : Path.IsName step := ⟨by simpa using hstay, hback⟩
        dsimp only
        split
        · next node hat =>
          have hthere : disk.isDirectoryAt (here ++ [step]) = node.isDirectory := by
            rw [isDirectoryAt, hat]
            rfl
          split
          · next hnode => exact .enter hstep (hthere.trans hnode) (ih disk (here ++ [step]))
          · next hnode => exact .blocked hstep (hthere.trans (by simpa using hnode))
        · next hat =>
          split
          · next hshort => exact .make hstep hat hshort (ih _ (here ++ [step]))
          · exact .blocked hstep (by rw [isDirectoryAt, hat]; rfl)

lemma Disk.Makes.grows (h : disk.Makes here steps disk' made) : disk.Grows disk' := by
  induction h with
  | done => exact .refl _
  | stay _ _ ih => exact ih
  | back _ ih => exact ih
  | enter _ _ _ ih => exact ih
  | make _ hthere _ _ ih => exact (grows_put hthere).trans ih
  | blocked _ _ => exact .refl _

lemma Disk.isDirectoryAt_eq_false (h : disk.at? place = none) :
    disk.isDirectoryAt place = false := by
  rw [isDirectoryAt, h]
  rfl

/-- The place of a directory that can be made. -/
lemma Disk.WellFormed.put_directory (h : disk.WellFormed) (hhere : disk.isDirectoryAt here)
    {step : String} (hthere : disk.at? (here ++ [step]) = none) (hshort : Path.isShortStep step) :
    (disk.put (here ++ [step]) disk.newDirectory).WellFormed := by
  refine h.put (isDirectoryAt_eq_false hthere) (by rwa [List.dropLast_concat]) fun name hname => ?_
  rcases List.mem_append.1 hname with hname | hname
  · exact h.short (isSome_of_isDirectoryAt hhere) name hname
  · exact List.mem_singleton.1 hname ▸ hshort

/-- A directory is at the place where one has been put. -/
lemma Disk.isDirectoryAt_put_directory (h : disk.at? place = none) :
    (disk.put place disk.newDirectory).isDirectoryAt place := by
  have hfixed := not_isFixed (isDirectoryAt_eq_false h)
  rw [isDirectoryAt, at?_put_self hfixed]
  rfl

lemma Disk.Makes.wellFormed (h : disk.Makes here steps disk' made) (hdisk : disk.WellFormed)
    (hhere : disk.isDirectoryAt here) : disk'.WellFormed := by
  induction h with
  | done => exact hdisk
  | stay _ _ ih => exact ih hdisk hhere
  | back _ ih => exact ih hdisk (hdisk.back hhere)
  | enter _ hthere _ ih => exact ih hdisk hthere
  | make _ hthere hshort _ ih =>
    exact ih (hdisk.put_directory hhere hthere hshort) (isDirectoryAt_put_directory hthere)
  | blocked _ _ => exact hdisk

/-- Where a directory could not be made, no longer steps lead anywhere. -/
lemma Disk.Makes.not_walks (h : disk.Makes here steps disk' made) (hmade : made = false)
    (hmore : more ≠ []) : ¬ disk'.Walks here (steps ++ more) there := by
  intro hwalks
  induction h with
  | done => cases hmade
  | stay hstep _ ih => exact ih hmade (hwalks.of_stay hstep)
  | back _ ih => exact ih hmade hwalks.of_back
  | enter hstep _ _ ih => exact ih hmade (hwalks.of_name hstep)
  | make hstep _ _ _ ih => exact ih hmade (hwalks.of_name hstep)
  | blocked hstep hthere =>
    have hinner := (hwalks.of_name hstep).isDirectoryAt (by simp [hmore])
    exact absurd hinner (by simp [hthere])

/-- Steps that do not go back make nothing behind the place that they name. -/
lemma Disk.Makes.at?_eq (h : disk.Makes here steps disk' made) (hback : ".." ∉ steps)
    (hlong : (here ++ Path.names steps).length < place.length) :
    disk'.at? place = disk.at? place := by
  induction h with
  | done => rfl
  | stay hstep _ ih =>
    rw [List.mem_cons, not_or] at hback
    rw [Path.names_cons_stay hstep] at hlong
    exact ih hback.2 hlong
  | back _ _ => exact absurd List.mem_cons_self hback
  | enter hstep _ _ ih =>
    rw [List.mem_cons, not_or] at hback
    rw [Path.names_cons_name hstep.not_stay] at hlong
    exact ih hback.2 (by simpa using hlong)
  | make hstep _ _ _ ih =>
    rw [List.mem_cons, not_or] at hback
    rw [Path.names_cons_name hstep.not_stay] at hlong
    rw [ih hback.2 (by simpa using hlong), at?_put_of_ne]
    rintro rfl
    simp at hlong
  | blocked _ _ => rfl

end DemoQuery
