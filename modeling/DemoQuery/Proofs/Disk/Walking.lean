import DemoQuery.Disk
import Mathlib.Data.List.Induction
import Mathlib.Tactic.Lemma

/-!
# Walking on a disk

Where steps lead on a disk, given apart from the search for it. On a disk where everything lies in
a directory, steps that do not go back lead to every directory that they name, and what is added to
a disk hides nothing that could be reached before.
-/

namespace DemoQuery

variable {disk disk' : Disk} {here there place other : Place} {node : Node} {step : String}
variable {steps more : List String}

/-! ### Fixed places -/

lemma Disk.at?_of_isFixed (h : place.isFixed) : disk.at? place = some disk.newDirectory :=
  if_pos h

lemma Disk.isDirectoryAt_of_isFixed (h : place.isFixed) : disk.isDirectoryAt place := by
  rw [isDirectoryAt, at?_of_isFixed h]
  rfl

lemma Disk.not_isFixed (h : disk.isDirectoryAt place = false) : place.isFixed = false := by
  by_contra hfixed
  rw [isDirectoryAt_of_isFixed (by simpa using hfixed)] at h
  cases h

/-- The directory around a fixed place is one. -/
lemma Place.isFixed_dropLast (h : place.isFixed) : Place.isFixed place.dropLast := by
  rw [isFixed, Bool.or_eq_true, beq_iff_eq] at h
  rcases h with rfl | h
  · decide
  · rw [isFixed, Bool.or_eq_true]
    refine .inr (List.all_eq_true.2 fun step hstep => ?_)
    exact List.all_eq_true.1 h step (List.dropLast_subset place hstep)

/-- Going back leads to the directory around, or from a fixed place to a fixed place. -/
lemma Place.back_eq (place : Place) :
    place.back = place.dropLast ∨ Place.isFixed place.back := by
  unfold back
  split
  · next h => exact .inr (by rw [isFixed, h, Bool.true_or])
  · split
    · next h =>
      rw [isFixed, Bool.or_eq_true, List.all_append, h]
      exact .inr (.inr rfl)
    · exact .inl rfl

/-! ### Places on a changed disk -/

lemma Disk.at?_put_of_ne (h : other ≠ place) :
    (disk.put place node).at? other = disk.at? other := by
  have hbeq : (other == place) = false := by simpa using h
  simp only [at?, put, List.lookup_cons, hbeq]
  rfl

lemma Disk.at?_put_self (h : place.isFixed = false) :
    (disk.put place node).at? place = some node := by
  simp [at?, put, h]

/-- Nothing that is put where no directory is hides a directory. -/
lemma Disk.isDirectoryAt_put (hplace : disk.isDirectoryAt place = false)
    (h : disk.isDirectoryAt other) : (disk.put place node).isDirectoryAt other := by
  have hne : other ≠ place := by
    rintro rfl
    exact absurd h (by simp [hplace])
  rwa [isDirectoryAt, at?_put_of_ne hne]

/-! ### Well-formed disks -/

/-- Everything on a disk lies in a directory and has a name that is short enough. -/
structure Disk.WellFormed (disk : Disk) : Prop where
  parent : ∀ {place : Place}, (disk.at? place).isSome → disk.isDirectoryAt place.dropLast
  short  : ∀ {place : Place}, (disk.at? place).isSome → ∀ step ∈ place, Path.isShortStep step

lemma Disk.isSome_of_isDirectoryAt (h : disk.isDirectoryAt place) : (disk.at? place).isSome := by
  rw [isDirectoryAt] at h
  cases hat : disk.at? place <;> simp_all

lemma Disk.WellFormed.parent_of_isDirectoryAt (h : disk.WellFormed)
    (hplace : disk.isDirectoryAt place) : disk.isDirectoryAt place.dropLast :=
  h.parent (isSome_of_isDirectoryAt hplace)

/-- Every place on the way to a directory is one. -/
lemma Disk.WellFormed.isDirectoryAt_of_append (h : disk.WellFormed)
    (hplace : disk.isDirectoryAt (here ++ other)) : disk.isDirectoryAt here := by
  induction other using List.reverseRecOn with
  | nil => simpa using hplace
  | append_singleton other step ih =>
    have hparent := h.parent_of_isDirectoryAt hplace
    rw [← List.append_assoc, List.dropLast_concat] at hparent
    exact ih hparent

lemma Disk.WellFormed.back (h : disk.WellFormed) (hhere : disk.isDirectoryAt here) :
    disk.isDirectoryAt here.back := by
  rcases here.back_eq with hback | hfixed
  · rw [hback]
    exact h.parent_of_isDirectoryAt hhere
  · exact isDirectoryAt_of_isFixed hfixed

/-- A disk stays well-formed if something new is put into a directory. -/
lemma Disk.WellFormed.put (h : disk.WellFormed) (hplace : disk.isDirectoryAt place = false)
    (hparent : disk.isDirectoryAt place.dropLast)
    (hshort : ∀ step ∈ place, Path.isShortStep step) : (disk.put place node).WellFormed where
  parent {other} hother := by
    by_cases hne : other = place
    · subst hne
      exact isDirectoryAt_put hplace hparent
    · rw [at?_put_of_ne hne] at hother
      exact isDirectoryAt_put hplace (h.parent hother)
  short {other} hother := by
    by_cases hne : other = place
    · subst hne
      exact hshort
    · rw [at?_put_of_ne hne] at hother
      exact h.short hother

lemma Disk.wellFormed_empty (clock : Int) : WellFormed { clock } where
  parent {place} h := by
    have hfixed : place.isFixed := by
      by_contra hfixed
      simp [at?, hfixed] at h
    exact isDirectoryAt_of_isFixed (Place.isFixed_dropLast hfixed)
  short {place} h := by
    have hfixed : place.isFixed := by
      by_contra hfixed
      simp [at?, hfixed] at h
    rw [Place.isFixed, Bool.or_eq_true, beq_iff_eq, List.all_eq_true] at hfixed
    intro step hstep
    rcases hfixed with rfl | hfixed
    · rw [List.mem_singleton.1 hstep]
      decide
    · rw [beq_iff_eq.1 (hfixed step hstep)]
      decide

/-! ### Walks -/

/-- A step that leads to a name. -/
structure Path.IsName (step : String) : Prop where
  not_stay : isStay step = false
  ne_back  : step ≠ ".."

/-- `disk.Walks here steps there`: from the place `here` the steps lead to `there`. -/
inductive Disk.Walks (disk : Disk) : Place → List String → Place → Prop
  | done {here : Place} : Walks disk here [] here
  | stay {here there : Place} {step : String} {steps : List String}
      (hhere : disk.isDirectoryAt here) (hstep : Path.isStay step)
      (hrest : Walks disk here steps there) : Walks disk here (step :: steps) there
  | back {here there : Place} {steps : List String} (hhere : disk.isDirectoryAt here)
      (hrest : Walks disk here.back steps there) : Walks disk here (".." :: steps) there
  | enter {here there : Place} {step : String} {steps : List String}
      (hhere : disk.isDirectoryAt here) (hstep : Path.IsName step)
      (hrest : Walks disk (here ++ [step]) steps there) : Walks disk here (step :: steps) there

lemma Disk.Walks.walk? (h : disk.Walks here steps there) : disk.walk? here steps = some there := by
  induction h with
  | done => rfl
  | stay hhere hstep _ ih => rw [Disk.walk?, if_pos hhere, if_pos hstep, ih]
  | back hhere _ ih => rw [Disk.walk?, if_pos hhere, if_neg (by decide), if_pos rfl, ih]
  | enter hhere hstep _ ih =>
    rw [Disk.walk?, if_pos hhere, if_neg (by simp [hstep.not_stay]), if_neg hstep.ne_back, ih]

lemma Disk.walk?_eq_some_iff :
    disk.walk? here steps = some there ↔ disk.Walks here steps there := by
  refine ⟨fun h => ?_, Walks.walk?⟩
  induction steps generalizing here with
  | nil =>
    obtain rfl := Option.some.inj h
    exact .done
  | cons step steps ih =>
    rw [walk?] at h
    split at h
    · next hhere =>
      split at h
      · next hstay => exact .stay hhere hstay (ih h)
      · next hstay =>
        split at h
        · next hback =>
          subst hback
          exact .back hhere (ih h)
        · next hback => exact .enter hhere ⟨by simpa using hstay, hback⟩ (ih h)
    · cases h

lemma Disk.walk?_append :
    disk.walk? here (steps ++ more) = (disk.walk? here steps).bind (disk.walk? · more) := by
  induction steps generalizing here with
  | nil => rfl
  | cons step steps ih =>
    rw [List.cons_append, walk?, walk?]
    split
    · simp only [ih]
      split
      · rfl
      · split <;> rfl
    · rfl

/-- Steps behind others lead on from where those lead. -/
lemma Disk.walks_append_iff : disk.Walks here (steps ++ more) there ↔
    ∃ place, disk.Walks here steps place ∧ disk.Walks place more there := by
  simp only [← walk?_eq_some_iff, walk?_append, Option.bind_eq_some_iff]

/-- A path that is not too long leads where its steps do from its start. -/
lemma Disk.place?_eq_some_iff_walks {path : String} (hstart : Place.start path = (here, steps)) :
    disk.place? path = some there ↔
      (path ≠ "" ∧ Path.isShort path) ∧ disk.Walks here steps there := by
  rw [place?, hstart]
  split
  · next hpath =>
    simp only [reduceCtorEq, false_iff, not_and]
    intro hpath'
    rcases hpath with hpath | hpath
    · exact absurd hpath hpath'.1
    · exact absurd hpath'.2 hpath
  · next hpath =>
    rw [not_or, not_not] at hpath
    simp only [walk?_eq_some_iff, hpath, ne_eq, not_false_eq_true, and_self, true_and]

/-- The rest of a walk whose first step stays. -/
lemma Disk.Walks.of_stay (h : disk.Walks here (step :: steps) there) (hstep : Path.isStay step) :
    disk.Walks here steps there := by
  cases h with
  | stay _ _ hrest => exact hrest
  | back _ _ => exact absurd hstep (by decide)
  | enter _ hname _ => exact absurd hstep (by simp [hname.not_stay])

lemma Disk.Walks.of_back (h : disk.Walks here (".." :: steps) there) :
    disk.Walks here.back steps there := by
  cases h with
  | stay _ hstep _ => exact absurd hstep (by decide)
  | back _ hrest => exact hrest
  | enter _ hname _ => exact absurd rfl hname.ne_back

lemma Disk.Walks.of_name (h : disk.Walks here (step :: steps) there) (hstep : Path.IsName step) :
    disk.Walks (here ++ [step]) steps there := by
  cases h with
  | stay _ hstay _ => exact absurd hstay (by simp [hstep.not_stay])
  | back _ _ => exact absurd rfl hstep.ne_back
  | enter _ _ hrest => exact hrest

/-- Steps lead where they led if there are no fewer directories. -/
lemma Disk.Walks.mono (h : disk.Walks here steps there)
    (hmore : ∀ place, disk.isDirectoryAt place → disk'.isDirectoryAt place) :
    disk'.Walks here steps there := by
  induction h with
  | done => exact .done
  | stay hhere hstep _ ih => exact .stay (hmore _ hhere) hstep ih
  | back hhere _ ih => exact .back (hmore _ hhere) ih
  | enter hhere hstep _ ih => exact .enter (hmore _ hhere) hstep ih

lemma Disk.Walks.isDirectoryAt (h : disk.Walks here steps there) (hne : steps ≠ []) :
    disk.isDirectoryAt here := by
  cases h with
  | done => exact absurd rfl hne
  | stay hhere _ _ => exact hhere
  | back hhere _ => exact hhere
  | enter hhere _ _ => exact hhere

/-- Steps lead to something in a directory, whether it is there or not. -/
lemma Disk.Walks.parent (h : disk.Walks here steps there) (hdisk : disk.WellFormed)
    (hhere : disk.isDirectoryAt here.dropLast) : disk.isDirectoryAt there.dropLast := by
  induction h with
  | done => exact hhere
  | stay _ _ _ ih => exact ih hhere
  | back hhere' _ ih => exact ih (hdisk.parent_of_isDirectoryAt (hdisk.back hhere'))
  | enter hhere' _ _ ih => exact ih (by rwa [List.dropLast_concat])

/-! ### Steps without a way back -/

/-- The names among some steps. -/
def Path.names (steps : List String) : Place :=
  steps.filter (!isStay ·)

lemma Path.names_cons_stay (h : isStay step) : names (step :: steps) = names steps := by
  simp [names, h]

lemma Path.names_cons_name (h : isStay step = false) :
    names (step :: steps) = step :: names steps := by
  simp [names, h]

lemma Path.names_append : names (steps ++ more) = names steps ++ names more :=
  List.filter_append ..

/-- Steps that do not go back lead to the place that they name. -/
lemma Disk.Walks.eq_names (h : disk.Walks here steps there) (hback : ".." ∉ steps) :
    there = here ++ Path.names steps := by
  induction h with
  | done => simp [Path.names]
  | stay _ hstep _ ih =>
    rw [List.mem_cons, not_or] at hback
    rw [Path.names_cons_stay hstep, ih hback.2]
  | back _ _ _ => exact absurd List.mem_cons_self hback
  | enter _ hstep _ ih =>
    rw [List.mem_cons, not_or] at hback
    rw [Path.names_cons_name hstep.not_stay, ih hback.2, List.append_assoc, List.singleton_append]

/-- Steps that do not go back lead to every directory that they name. -/
lemma Disk.WellFormed.walks (h : disk.WellFormed) (hback : ".." ∉ steps)
    (hthere : disk.isDirectoryAt (here ++ Path.names steps)) :
    disk.Walks here steps (here ++ Path.names steps) := by
  induction steps generalizing here with
  | nil =>
    simp only [Path.names, List.filter_nil, List.append_nil]
    exact .done
  | cons step steps ih =>
    rw [List.mem_cons, not_or] at hback
    have hhere := h.isDirectoryAt_of_append hthere
    by_cases hstay : Path.isStay step
    · rw [Path.names_cons_stay hstay] at hthere ⊢
      exact .stay hhere hstay (ih hback.2 hthere)
    · rw [Bool.not_eq_true] at hstay
      have hnames : here ++ Path.names (step :: steps) = (here ++ [step]) ++ Path.names steps := by
        rw [Path.names_cons_name hstay, List.append_assoc, List.singleton_append]
      rw [hnames] at hthere ⊢
      exact .enter hhere ⟨hstay, fun hstep => hback.1 hstep.symm⟩ (ih hback.2 hthere)

end DemoQuery
