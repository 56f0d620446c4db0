import DemoQuery.Proofs.Disk.Making
import DemoQuery.Proofs.Path
import Mathlib.Data.Option.Basic

/-!
# Writing a file

What writing a file does to a disk. If it succeeds the path leads to the file, and no other file has
changed. If it fails no file has changed, but directories may have been made on the way; then the
path leads nowhere or to a directory, and to one that it has not led to before only by going back.
-/

namespace DemoQuery

variable {disk disk' : Disk} {place : Place} {path : String} {file : File}
variable {failure : Disk.WriteFailure} {made : Bool}

/-! ### A path and its directory -/

/-- Where a path goes behind its directory: `steps` lead to the directory and `more` further on. -/
structure Path.Splits (path : String) (here : Place) (steps more : List String) : Prop where
  start     : Place.start path = (here, steps ++ more)
  further   : steps = [] ∨ names more ≠ []
  directory : ∀ disk : Disk, disk.makeDirectories (directory path) =
    if isShort (Path.directory path) then disk.makeSteps here steps else (disk, false)

lemma Path.exists_splits (path : String) : ∃ here steps more, Splits path here steps more := by
  cases ends path with
  | stays hstays hdirectory =>
    refine ⟨_, [], _, rfl, .inl rfl, fun disk => ?_⟩
    rw [hdirectory]
    rfl
  | step front stays last behind hsteps hfront hstays hlast hbehind hdirectory =>
    have hnames : names (stays ++ last :: behind) ≠ [] := by
      simp [names, hlast]
    by_cases hne : front = []
    · subst hne
      refine ⟨_, [], _, rfl, .inl rfl, fun disk => ?_⟩
      rw [hdirectory]
      rfl
    · have hblank : front ≠ [""] := by
        rintro rfl
        exact absurd (hfront "" rfl) (by decide)
      have hslash : ∀ step ∈ front, '/' ∉ step.toList := fun step hstep =>
        notMem_of_mem_steps (hsteps ▸ List.mem_append_left _ hstep)
      refine ⟨(Place.startOf front).1, (Place.startOf front).2, stays ++ last :: behind, ?_,
        .inr hnames, fun disk => ?_⟩
      · rw [Place.start_eq, hsteps, Place.startOf_append hne hblank]
      · rw [hdirectory, Disk.makeDirectories, Place.start_eq, steps_intercalate hne hslash]

lemma Path.Splits.isFixed {here : Place} {steps more : List String}
    (h : Splits path here steps more) : here.isFixed := by
  have hfixed := Place.isFixed_startOf (Path.steps path)
  rwa [← Place.start_eq, h.start] at hfixed

/-- A path goes back where its steps from the start do. -/
lemma Path.Splits.back_mem {here : Place} {steps more : List String}
    (h : Splits path here steps more) (hback : ".." ∈ steps ++ more) : ".." ∈ Path.steps path := by
  have hsteps : steps ++ more = (Place.startOf (Path.steps path)).2 := by
    rw [← Place.start_eq, h.start]
  exact Place.startOf_subset _ (hsteps ▸ hback)

lemma Disk.place?_eq_some_iff {here : Place} {steps more : List String}
    (h : Path.Splits path here steps more) :
    disk.place? path = some place ↔
      (path ≠ "" ∧ Path.isShort path) ∧ disk.Walks here (steps ++ more) place :=
  place?_eq_some_iff_walks h.start

/-- A path leads where it led if there are more directories. -/
lemma Disk.Grows.place? (h : disk.Grows disk') (hplace : disk.place? path = some place) :
    disk'.place? path = some place := by
  obtain ⟨here, steps, more, hsplits⟩ := Path.exists_splits path
  rw [place?_eq_some_iff hsplits] at hplace ⊢
  exact ⟨hplace.1, h.walks hplace.2⟩

lemma Disk.Grows.find? (h : disk.Grows disk') (hpath : disk.has path) :
    disk'.find? path = disk.find? path := by
  obtain ⟨node, hnode⟩ := Option.isSome_iff_exists.1 hpath
  obtain ⟨place, hplace, hat⟩ := Option.bind_eq_some_iff.1 hnode
  rw [hnode, Disk.find?, h.place? hplace, Option.bind_some, h.keeps hat]

/-! ### Making the directories of a path -/

/-- The directories of a path are made as far as possible, unless the path is too long. -/
lemma Disk.makes_or_eq {here : Place} {steps more : List String}
    (h : Path.Splits path here steps more)
    (hmake : disk.makeDirectories (Path.directory path) = (disk', made)) :
    disk.Makes here steps disk' made ∨ disk' = disk ∧ made = false := by
  rw [h.directory] at hmake
  split at hmake
  · have hmakes := disk.makes_makeSteps here steps
    rw [hmake] at hmakes
    exact .inl hmakes
  · obtain ⟨rfl, rfl⟩ := Prod.mk.inj hmake
    exact .inr ⟨rfl, rfl⟩

lemma Disk.grows_makeDirectories
    (hmake : disk.makeDirectories (Path.directory path) = (disk', made)) : disk.Grows disk' := by
  obtain ⟨here, steps, more, hsplits⟩ := Path.exists_splits path
  rcases makes_or_eq hsplits hmake with hmakes | ⟨rfl, -⟩
  · exact hmakes.grows
  · exact .refl _

lemma Disk.WellFormed.makeDirectories (h : disk.WellFormed)
    (hmake : disk.makeDirectories (Path.directory path) = (disk', made)) : disk'.WellFormed := by
  obtain ⟨here, steps, more, hsplits⟩ := Path.exists_splits path
  rcases makes_or_eq hsplits hmake with hmakes | ⟨rfl, -⟩
  · exact hmakes.wellFormed h (isDirectoryAt_of_isFixed hsplits.isFixed)
  · exact h

/-! ### Writing -/

/-- What writing a file comes to: its directories cannot be made, it has no place, or it is put in
its place. -/
inductive Disk.Writes (disk : Disk) (path : String) (file : File) :
    Disk → Option WriteFailure → Prop
  | directories {disk' : Disk}
      (hmake : disk.makeDirectories (Path.directory path) = (disk', false)) :
      Writes disk path file disk' (some .directories)
  | noPlace {disk' : Disk} (hmake : disk.makeDirectories (Path.directory path) = (disk', true))
      (hplace : disk'.filePlace? path = none) : Writes disk path file disk' (some .file)
  | put {disk' : Disk} {place : Place}
      (hmake : disk.makeDirectories (Path.directory path) = (disk', true))
      (hplace : disk'.filePlace? path = some place) :
      Writes disk path file (disk'.put place (.file file)) none

lemma Disk.writes_write (disk : Disk) (path : String) (file : File) :
    disk.Writes path file (disk.write path file).1 (disk.write path file).2 := by
  rw [write]
  split
  · next disk' hmake => exact .directories hmake
  · next disk' hmake =>
    split
    · next place hplace => exact .put hmake hplace
    · next hplace => exact .noPlace hmake hplace

lemma Disk.filePlace?_eq_some_iff : disk.filePlace? path = some place ↔
    disk.place? path = some place ∧ (∀ step ∈ place, Path.isShortStep step) ∧
      disk.isDirectoryAt place = false := by
  have hfits (place : Place) :
      guard (place.all Path.isShortStep && !disk.isDirectoryAt place) = some () ↔
        (∀ step ∈ place, Path.isShortStep step) ∧ disk.isDirectoryAt place = false := by
    rw [Option.guard_eq_some', Bool.and_eq_true, List.all_eq_true, Bool.not_eq_true']
  rw [filePlace?, Option.bind_eq_bind, Option.bind_eq_some_iff]
  constructor
  · rintro ⟨place', hplace, h⟩
    obtain ⟨⟨⟩, hguard, h⟩ := Option.bind_eq_some_iff.1 h
    obtain rfl := Option.some.inj h
    exact ⟨hplace, (hfits _).1 hguard⟩
  · rintro ⟨hplace, h⟩
    exact ⟨place, hplace, Option.bind_eq_some_iff.2 ⟨(), (hfits place).2 h, rfl⟩⟩

/-- A place that a path leads to lies in a directory. -/
lemma Disk.WellFormed.parent_of_place? (h : disk.WellFormed)
    (hplace : disk.place? path = some place) : disk.isDirectoryAt place.dropLast := by
  obtain ⟨here, steps, more, hsplits⟩ := Path.exists_splits path
  obtain ⟨-, hwalks⟩ := (place?_eq_some_iff hsplits).1 hplace
  exact hwalks.parent h (h.parent_of_isDirectoryAt (isDirectoryAt_of_isFixed hsplits.isFixed))

lemma Disk.WellFormed.write (h : disk.WellFormed) (path : String) (file : File) :
    (disk.write path file).1.WellFormed := by
  have hwrites := disk.writes_write path file
  generalize disk.write path file = result at hwrites
  obtain ⟨disk', failure⟩ := result
  cases hwrites with
  | directories hmake => exact h.makeDirectories hmake
  | noPlace hmake _ => exact h.makeDirectories hmake
  | put hmake hplace =>
    have hdisk' := h.makeDirectories hmake
    obtain ⟨hplace, hshort, hdirectory⟩ := filePlace?_eq_some_iff.1 hplace
    exact hdisk'.put hdirectory (hdisk'.parent_of_place? hplace) hshort

lemma Disk.WellFormed.of_write {result : Option WriteFailure} (h : disk.WellFormed)
    (hwrite : disk.write path file = (disk', result)) : disk'.WellFormed := by
  have hwritten := h.write path file
  rwa [hwrite] at hwritten

/-- A path leads to the file that has been written there, and no other file has changed. -/
lemma Disk.exists_place_of_write (hwrite : disk.write path file = (disk', none)) :
    ∃ place, disk'.place? path = some place ∧ disk'.at? place = some (.file file) ∧
      ∀ other, other ≠ place → disk'.contentsAt other = disk.contentsAt other := by
  have hwrites := disk.writes_write path file
  rw [hwrite] at hwrites
  cases hwrites with
  | @put grown place hmake hplace =>
    obtain ⟨hplace, hshort, hdirectory⟩ := filePlace?_eq_some_iff.1 hplace
    have hgrows := grows_makeDirectories hmake
    obtain ⟨here, steps, more, hsplits⟩ := Path.exists_splits path
    have hwalks := (place?_eq_some_iff hsplits).1 hplace
    refine ⟨place, (place?_eq_some_iff hsplits).2 ⟨hwalks.1, hwalks.2.mono fun _ =>
      isDirectoryAt_put hdirectory⟩, at?_put_self (not_isFixed hdirectory), fun other hother => ?_⟩
    exact (contentsAt_put_of_ne hother).trans (hgrows.contentsAt other)

lemma Disk.find?_of_written (hwrite : disk.write path file = (disk', none)) :
    disk'.find? path = some (.file file) := by
  obtain ⟨place, hplace, hat, -⟩ := exists_place_of_write hwrite
  rw [find?, hplace, Option.bind_some, hat]

lemma Disk.grows_of_write (hwrite : disk.write path file = (disk', some failure)) :
    disk.Grows disk' := by
  have hwrites := disk.writes_write path file
  rw [hwrite] at hwrites
  cases hwrites with
  | directories hmake => exact grows_makeDirectories hmake
  | noPlace hmake _ => exact grows_makeDirectories hmake

/-- Where directories on the way of a path could not be made, the path leads nowhere. -/
lemma Disk.place?_of_makes {here : Place} {steps more : List String}
    (hsplits : Path.Splits path here steps more) (hmakes : disk.Makes here steps disk' false) :
    disk'.place? path = none := by
  have hmore : more ≠ [] := by
    rcases hsplits.further with rfl | hnames
    · cases hmakes
    · rintro rfl
      exact hnames rfl
  rw [Option.eq_none_iff_forall_ne_some]
  intro place hplace
  exact hmakes.not_walks rfl hmore ((place?_eq_some_iff hsplits).1 hplace).2

/-- A directory that a path leads to once its directories have been made was there before, unless
the path goes back. -/
lemma Disk.has_of_makes {here : Place} {steps more : List String}
    (hsplits : Path.Splits path here steps more) (hdisk : disk.WellFormed)
    (hmakes : disk.Makes here steps disk' made) (hplace : disk'.place? path = some place)
    (hdirectory : disk'.isDirectoryAt place) (hback : ".." ∉ Path.steps path) : disk.has path := by
  obtain ⟨hpath, hwalks⟩ := (place?_eq_some_iff hsplits).1 hplace
  have hnone : ".." ∉ steps ++ more := fun hmem => hback (hsplits.back_mem hmem)
  have hsame : disk'.at? place = disk.at? place := by
    rcases hsplits.further with rfl | hnames
    · cases hmakes
      rfl
    · refine hmakes.at?_eq (fun hmem => hnone (List.mem_append_left _ hmem)) ?_
      have hlength := List.length_pos_iff.2 hnames
      rw [hwalks.eq_names hnone, Path.names_append, List.length_append, List.length_append,
        List.length_append]
      omega
  have hbefore : disk.isDirectoryAt place := by rwa [isDirectoryAt, ← hsame]
  have hreach : disk.place? path = some place := by
    refine (place?_eq_some_iff hsplits).2 ⟨hpath, ?_⟩
    rw [hwalks.eq_names hnone] at hbefore ⊢
    exact hdisk.walks hnone hbefore
  rw [has, find?, hreach, Option.bind_some]
  exact isSome_of_isDirectoryAt hbefore

/-- Where no file can be at a path, the path leads nowhere or to a directory. -/
lemma Disk.WellFormed.find?_of_filePlace? (h : disk.WellFormed)
    (hnone : disk.filePlace? path = none) :
    disk.find? path = none ∨
      ∃ place data, disk.place? path = some place ∧ disk.at? place = some (.directory data) := by
  cases hplace : disk.place? path with
  | none => exact .inl (by rw [find?, hplace]; rfl)
  | some place =>
    cases hat : disk.at? place with
    | none => exact .inl (by rw [find?, hplace, Option.bind_some, hat])
    | some node =>
      cases node with
      | directory data => exact .inr ⟨place, data, rfl, hat⟩
      | file file =>
        have hthere : (disk.at? place).isSome := by rw [hat]; rfl
        have hfile := filePlace?_eq_some_iff.2
          ⟨hplace, h.short hthere, by rw [isDirectoryAt, hat]; rfl⟩
        cases hnone.symm.trans hfile

/-- Where writing fails, nothing has changed, or the path leads nowhere, or it leads to a directory:
one that was there before, unless the path goes back. -/
lemma Disk.find?_of_write (hdisk : disk.WellFormed)
    (hwrite : disk.write path file = (disk', some failure)) :
    disk' = disk ∨ disk'.find? path = none ∨
      (∃ data, disk'.find? path = some (.directory data)) ∧
        (".." ∈ Path.steps path ∨ disk.has path) := by
  obtain ⟨here, steps, more, hsplits⟩ := Path.exists_splits path
  have hwrites := disk.writes_write path file
  rw [hwrite] at hwrites
  cases hwrites with
  | directories hmake =>
    rcases makes_or_eq hsplits hmake with hmakes | ⟨rfl, -⟩
    · exact .inr (.inl (by rw [find?, place?_of_makes hsplits hmakes]; rfl))
    · exact .inl rfl
  | noPlace hmake hnone =>
    rcases makes_or_eq hsplits hmake with hmakes | ⟨-, hmade⟩
    · rcases (hdisk.makeDirectories hmake).find?_of_filePlace? hnone with
        hnowhere | ⟨place, data, hplace, hat⟩
      · exact .inr (.inl hnowhere)
      · have hdirectory : disk'.isDirectoryAt place := by rw [isDirectoryAt, hat]; rfl
        refine .inr (.inr ⟨⟨data, by rw [find?, hplace, Option.bind_some, hat]⟩, ?_⟩)
        by_cases hback : ".." ∈ Path.steps path
        · exact .inl hback
        · exact .inr (has_of_makes hsplits hdisk hmakes hplace hdirectory hback)
    · cases hmade

/-! ### Sandboxes -/

/-- The disks that have come about by writing files and making directories on the way of paths, one
after the other. -/
inductive Disk.IsSandbox : Disk → Prop
  | empty (clock : Int) : IsSandbox { clock }
  | directories {disk : Disk} (h : IsSandbox disk) (path : String) :
      IsSandbox (disk.makeDirectories (Path.directory path)).1
  | write {disk : Disk} (h : IsSandbox disk) (path : String) (file : File) :
      IsSandbox (disk.write path file).1

lemma Disk.IsSandbox.wellFormed (h : disk.IsSandbox) : disk.WellFormed := by
  induction h with
  | empty clock => exact wellFormed_empty clock
  | directories _ path ih => exact ih.makeDirectories (Prod.eta _).symm
  | write _ path file ih => exact ih.write path file

end DemoQuery
