import DemoQuery.Proofs.Disk.Walking
import DemoQuery.Proofs.Path.LastStep
import DemoQuery.Selection

/-!
# Where the file of a demo is looked up

The file of a demo is looked up in the directory of the demos and nowhere else, whatever the name of
the demo is. Of the name only the last step is taken, and it is not taken if it leads back, so that
the path which is looked up leads from the directory to one of its entries.
-/

namespace DemoQuery

variable {disk : Disk} {here place : Place} {directory name step : String} {front : List String}

/-! ### Entries of directories -/

/-- The place of the directory at a path, which is the working directory if the path is empty. -/
def Disk.directoryPlace? (disk : Disk) (directory : String) : Option Place :=
  if directory = "" then some [] else disk.place? directory

lemma Disk.walks_name_iff (h : Path.IsName step) :
    disk.Walks here [step] place ↔ disk.isDirectoryAt here ∧ place = here ++ [step] := by
  constructor
  · intro hwalks
    refine ⟨hwalks.isDirectoryAt (List.cons_ne_nil step []), ?_⟩
    cases hwalks.of_name h
    rfl
  · rintro ⟨hhere, rfl⟩
    exact .enter hhere h .done

lemma Disk.walks_stay_iff (h : Path.isStay step) :
    disk.Walks here [step] place ↔ disk.isDirectoryAt here ∧ place = here := by
  constructor
  · intro hwalks
    refine ⟨hwalks.isDirectoryAt (List.cons_ne_nil step []), ?_⟩
    cases hwalks.of_stay h
    rfl
  · rintro ⟨hhere, rfl⟩
    exact .stay hhere h .done

/-- Where steps start does not depend on the last of several. -/
lemma Place.exists_startOf_concat (hne : front ≠ []) :
    ∃ here taken, ∀ step, startOf (front ++ [step]) = (here, taken ++ [step]) := by
  by_cases hblank : front = [""]
  · subst hblank
    exact ⟨["/"], [], fun _ => rfl⟩
  · exact ⟨_, _, fun step => startOf_append hne hblank [step]⟩

/-- A joined path starts where the path of the directory does and has the name as its last step. -/
lemma Path.exists_start_join (hname : '/' ∉ name.toList) (hdirectory : directory ≠ "") :
    ∃ here taken, Place.start (join directory name) = (here, taken ++ [name]) ∧
      (Place.start directory = (here, taken) ∨ Place.start directory = (here, taken ++ [""])) := by
  have hsteps : steps directory ≠ [""] := fun h =>
    hdirectory (by simpa [h] using intercalate_steps directory)
  obtain ⟨front, hjoin, ⟨rfl, -⟩ | hopen⟩ := exists_steps_join hname
  · rw [Place.start_eq, Place.start_eq, hjoin,
      Place.startOf_append (steps_ne_nil directory) hsteps [name]]
    exact ⟨_, _, rfl, .inl rfl⟩
  · have hne : front ≠ [] := by
      rintro rfl
      exact hsteps hopen
    obtain ⟨here, taken, hstart⟩ := Place.exists_startOf_concat hne
    rw [Place.start_eq, Place.start_eq, hjoin, hopen]
    exact ⟨here, taken, hstart name, .inr (hstart "")⟩

lemma Path.isShort_of_join (h : isShort (join directory name)) : isShort directory := by
  have hle : directory.utf8ByteSize ≤ (join directory name).utf8ByteSize := by
    rw [join]
    split <;> simp only [String.utf8ByteSize_append] <;> omega
  simp only [isShort, decide_eq_true_eq] at h ⊢
  exact hle.trans h

lemma Path.join_ne_empty (hname : name ≠ "") : join directory name ≠ "" := by
  rw [join]
  split <;> simp [hname]

/-- A name that is joined to the path of a directory leads to the entry of this name. -/
lemma Disk.place?_join_eq_some_iff (hname : Path.IsName name) (hslash : '/' ∉ name.toList) :
    disk.place? (Path.join directory name) = some place ↔
      Path.isShort (Path.join directory name) ∧ ∃ here, disk.directoryPlace? directory = some here ∧
        disk.isDirectoryAt here ∧ place = here ++ [name] := by
  have hempty : name ≠ "" := (Path.isStay_eq_false_iff.1 hname.not_stay).1
  have hjoin : Path.join directory name ≠ "" := Path.join_ne_empty hempty
  by_cases hdirectory : directory = ""
  · subst hdirectory
    have hsteps : Path.steps (Path.join "" name) = [] ++ name :: [] :=
      Path.steps_eq_append_cons_iff.2 ⟨by simpa using hslash, by simp [Path.join]⟩
    have hstart : Place.start (Path.join "" name) = ([], [name]) := by
      rw [Place.start_eq, hsteps]
      exact Place.startOf.eq_2 _ (by simp)
    rw [place?_eq_some_iff_walks hstart, walks_name_iff hname]
    simp [directoryPlace?, hjoin]
  · obtain ⟨start, taken, hstart, hdirectoryStart⟩ := Path.exists_start_join hslash hdirectory
    have hplace : Path.isShort directory → ∀ here, disk.isDirectoryAt here →
        (disk.place? directory = some here ↔ disk.Walks start taken here) := by
      intro hshort here hhere
      rcases hdirectoryStart with h | h
      · simp [place?_eq_some_iff_walks h, hdirectory, hshort]
      · have hstay : Path.isStay "" := by decide
        simp only [place?_eq_some_iff_walks h, hdirectory, hshort, walks_append_iff,
          walks_stay_iff hstay, ne_eq, not_false_eq_true, and_self, true_and]
        constructor
        · rintro ⟨mid, hmid, -, rfl⟩
          exact hmid
        · exact fun hwalks => ⟨here, hwalks, hhere, rfl⟩
    rw [place?_eq_some_iff_walks hstart, walks_append_iff, directoryPlace?, if_neg hdirectory]
    simp only [walks_name_iff hname]
    constructor
    · rintro ⟨⟨-, hshort⟩, here, hwalks, hhere, hplace'⟩
      exact ⟨hshort, here, (hplace (Path.isShort_of_join hshort) here hhere).2 hwalks, hhere,
        hplace'⟩
    · rintro ⟨hshort, here, hwalks, hhere, hplace'⟩
      exact ⟨⟨hjoin, hshort⟩, here, (hplace (Path.isShort_of_join hshort) here hhere).1 hwalks,
        hhere, hplace'⟩

/-! ### Files of demos -/

/-- For the file of a demo nothing is looked up if there is no directory of demos, or if the name of
the demo has no last step or one that leads back. Otherwise what is looked up is the path of the
directory joined with the last step, which leads to an entry of the directory. -/
theorem statDemo_stays_inside (directory name : String) :
    (∀ stat, statDemo stat none name = ⟨0, 0⟩) ∧
    (((∀ step, Path.LastStep name step → step = "..") ∧
        demoPath? (some directory) name = none ∧
        ∀ stat, statDemo stat (some directory) name = ⟨0, 0⟩) ∨
      ∃ step, (∀ step', Path.LastStep name step' ↔ step' = step) ∧
        (step ≠ "" ∧ step ≠ "." ∧ step ≠ ".." ∧ '/' ∉ step.toList) ∧
        demoPath? (some directory) name = some (Path.join directory step) ∧
        (∀ stat, statDemo stat (some directory) name =
          (stat (Path.join directory step)).getD ⟨0, 0⟩) ∧
        ∀ (disk : Disk) (place : Place), disk.place? (Path.join directory step) = some place ↔
          Path.isShort (Path.join directory step) ∧
            ∃ here, disk.directoryPlace? directory = some here ∧ disk.isDirectoryAt here ∧
              place = here ++ [step]) := by
  refine ⟨fun stat => rfl, ?_⟩
  cases hname : Path.fileName? name with
  | none =>
    have hpath : demoPath? (some directory) name = none := by
      simp only [demoPath?, hname]
    refine .inl ⟨fun step hstep => ?_, hpath, fun stat => by rw [statDemo, hpath]; rfl⟩
    by_contra hback
    rw [Path.fileName?_eq_some_iff.2 ⟨hstep, hback⟩] at hname
    cases hname
  | some step =>
    have hpath : demoPath? (some directory) name = some (Path.join directory step) := by
      simp only [demoPath?, hname]
    obtain ⟨hlast, hback⟩ := Path.fileName?_eq_some_iff.1 hname
    obtain ⟨-, -, hslash, hempty, hdot, -⟩ := id hlast
    have hisName : Path.IsName step := ⟨Path.isStay_eq_false_iff.2 ⟨hempty, hdot⟩, hback⟩
    have hunique : ∀ step', Path.LastStep name step' ↔ step' = step := fun step' =>
      ⟨fun h => h.unique hlast, fun h => h ▸ hlast⟩
    exact .inr ⟨step, hunique, ⟨hempty, hdot, hback, hslash⟩, hpath,
      fun stat => by rw [statDemo, hpath]; rfl,
      fun disk place => Disk.place?_join_eq_some_iff hisName hslash⟩

end DemoQuery
