import DemoQuery.Proofs.Selection.Supplied

/-!
# What selection looks up and what it changes

Of all files, selection looks up only those of the records that lack file data and meet every
requirement that needs nothing, and these only if the query needs file data. It changes a record
only by filling in what is needed and absent.
-/

namespace DemoQuery

variable {q : Query} {stat stat' : Stat} {directory : Option String} {records : List Record}
  {r s : Record} {n : Needs} {name : String}

/-! ### Files that are looked up -/

/-- `q.LooksUp directory records path`: file data is needed, and `path` is where the file of a
record lies that has no file data but meets every requirement that needs nothing. -/
inductive Query.LooksUp (q : Query) (directory : Option String) (records : List Record) :
    String → Prop
  | mk {r : Record} {path : String} (hneeds : q.needs.fileData) (hr : r ∈ records)
      (habsent : r.fileData = none) (hcheap : ∀ p ∈ q.requirements, p.needs = {} → p.holds r)
      (hpath : demoPath? directory r.name = some path) : LooksUp q directory records path

/-- The data of a demo's file depends on nothing but what is at its path. -/
lemma statDemo_congr (h : ∀ path, demoPath? directory name = some path → stat path = stat' path) :
    statDemo stat directory name = statDemo stat' directory name := by
  rw [statDemo, statDemo]
  cases hpath : demoPath? directory name with
  | none => rfl
  | some path => rw [Option.bind_some, Option.bind_some, h path hpath]

/-- What is supplied depends on a file only if file data is needed and absent. -/
lemma Record.supply_congr (h : n.fileData → r.fileData = none →
      ∀ path, demoPath? directory r.name = some path → stat path = stat' path) :
    r.supply n stat directory = r.supply n stat' directory := by
  rw [supply, supply]
  cases hn : n.fileData with
  | false => rfl
  | true =>
    cases hr : r.fileData with
    | some d => rfl
    | none => rw [statDemo_congr (h hn hr)]

/-- A record that fails a requirement that needs nothing is dropped, whatever its file is like. -/
lemma Query.select?_of_not_cheap (h : ¬ ∀ p ∈ q.requirements, p.needs = {} → p.holds r) :
    q.select? stat directory r = none := by
  have hcheap : ¬ (q.requirements.filter (·.isCheap)).all (·.holds r) := by
    simp only [List.all_eq_true, List.mem_filter, Requirement.isCheap, Needs.isEmpty_iff]
    exact fun hall => h fun p hp hneeds => hall p ⟨hp, hneeds⟩
  exact if_neg hcheap

lemma Query.WellFormed.select?_congr (h : q.WellFormed) (hr : r ∈ records)
    (hstat : ∀ path, q.LooksUp directory records path → stat path = stat' path) :
    q.select? stat directory r = q.select? stat' directory r := by
  by_cases hcheap : ∀ p ∈ q.requirements, p.needs = {} → p.holds r
  · have hsupply : r.supply q.needs stat directory = r.supply q.needs stat' directory :=
      Record.supply_congr fun hneeds habsent path hpath =>
        hstat path (.mk hneeds hr habsent hcheap hpath)
    rw [h.select?_eq, h.select?_eq, hsupply]
  · rw [select?_of_not_cheap hcheap, select?_of_not_cheap hcheap]

/-! ### What is filled in -/

/-- `r.FilledIn n s`: the record `s` is `r`, and where `r` lacks a part `s` has it exactly if it is
needed. -/
structure Record.FilledIn (n : Needs) (r s : Record) : Prop where
  name             : s.name = r.name
  killstreaks      : s.killstreaks = r.killstreaks
  bookmarks        : s.bookmarks = r.bookmarks
  header_present   : ∀ h, r.header = some h → s.header = some h
  header_absent    : r.header = none → (s.header.isSome ↔ n.header)
  fileData_present : ∀ d, r.fileData = some d → s.fileData = some d
  fileData_absent  : r.fileData = none → (s.fileData.isSome ↔ n.fileData)

lemma Record.filledIn_supply (r : Record) (n : Needs) (stat : Stat) (directory : Option String) :
    FilledIn n r (r.supply n stat directory) where
  name := rfl
  killstreaks := rfl
  bookmarks := rfl
  header_present h hr := by cases hn : n.header <;> simp [supply, hn, hr]
  header_absent hr := by cases hn : n.header <;> simp [supply, hn, hr]
  fileData_present d hr := by cases hn : n.fileData <;> simp [supply, hn, hr]
  fileData_absent hr := by cases hn : n.fileData <;> simp [supply, hn, hr]

lemma Query.WellFormed.filledIn_of_select? (h : q.WellFormed)
    (hs : q.select? stat directory r = some s) : r.FilledIn q.needs s := by
  rw [h.select?_eq, Option.ite_none_right_eq_some, Option.some.injEq] at hs
  obtain ⟨-, rfl⟩ := hs
  exact r.filledIn_supply q.needs stat directory

/-! ### All records -/

lemma Query.WellFormed.select_congr_stat (h : q.WellFormed)
    (hstat : ∀ path, q.LooksUp directory records path → stat path = stat' path) :
    q.select stat directory records = q.select stat' directory records :=
  List.filterMap_congr fun _ hr => h.select?_congr hr hstat

/-- The selected records, in their order, and what has become of them. -/
lemma Query.WellFormed.forall₂_select (h : q.WellFormed) (stat : Stat) (directory : Option String)
    (records : List Record) :
    List.Forall₂ (Record.FilledIn q.needs)
      (records.filter fun r => (q.select? stat directory r).isSome)
      (q.select stat directory records) := by
  rw [select]
  induction records with
  | nil => exact .nil
  | cons r records ih =>
    rw [List.filter_cons, List.filterMap_cons]
    cases hs : q.select? stat directory r with
    | none => exact ih
    | some s => exact .cons (h.filledIn_of_select? hs) ih

/-- Selection depends on no file but those that it looks up: if the others change, the same is
selected. The selected records are as they were, but for the absent parts that the query needs. -/
theorem Query.select_lazy_and_framed (h : q.IsCompiled) (directory : Option String)
    (records : List Record) :
    (∀ stat stat' : Stat, (∀ path, q.LooksUp directory records path → stat path = stat' path) →
      q.select stat directory records = q.select stat' directory records) ∧
    ∀ stat : Stat, List.Forall₂ (Record.FilledIn q.needs)
      (records.filter fun r => (q.select? stat directory r).isSome)
      (q.select stat directory records) :=
  ⟨fun _ _ => h.wellFormed.select_congr_stat,
    fun stat => h.wellFormed.forall₂_select stat directory records⟩

/-- Of three demos the first has the wrong name and the last brings its file data along, so only the
file of the second is looked up, and files for the others would change nothing. -/
theorem Query.select_lazy_and_framed_one_file :
    ∃ q, Query.parse "name: b, !filesize: 9.." = .ok q ∧
      q.select (fun _ => some ⟨7, 5⟩) (some "d")
          [⟨"a", [], [], none, none⟩, ⟨"x/b", [], [], none, none⟩,
            ⟨"b2", [], [], none, some ⟨3, 4⟩⟩] =
        [⟨"x/b", [], [], none, some ⟨7, 5⟩⟩, ⟨"b2", [], [], none, some ⟨3, 4⟩⟩] ∧
      List.Forall₂ (Record.FilledIn q.needs)
        [⟨"x/b", [], [], none, none⟩, ⟨"b2", [], [], none, some ⟨3, 4⟩⟩]
        [⟨"x/b", [], [], none, some ⟨7, 5⟩⟩, ⟨"b2", [], [], none, some ⟨3, 4⟩⟩] := by
  have hone : (Query.parse "name: b, !filesize: 9..").toOption.map (fun q =>
      (q.requirements.any fun p => p.needs = {} && !p.holds ⟨"a", [], [], none, none⟩,
        [⟨"a", [], [], none, none⟩, ⟨"x/b", [], [], none, none⟩,
          ⟨"b2", [], [], none, some ⟨3, 4⟩⟩].filter fun r => (q.select?
            (fun path => if path = "d/b" then some ⟨7, 5⟩ else none) (some "d") r).isSome,
        q.select (fun path => if path = "d/b" then some ⟨7, 5⟩ else none) (some "d")
          [⟨"a", [], [], none, none⟩, ⟨"x/b", [], [], none, none⟩,
            ⟨"b2", [], [], none, some ⟨3, 4⟩⟩])) =
      some (true, [⟨"x/b", [], [], none, none⟩, ⟨"b2", [], [], none, some ⟨3, 4⟩⟩],
        [⟨"x/b", [], [], none, some ⟨7, 5⟩⟩, ⟨"b2", [], [], none, some ⟨3, 4⟩⟩]) := by
    decide +kernel
  obtain ⟨q, h, hq⟩ := exists_ok_of_toOption_map hone
  obtain ⟨hfails, hq⟩ := Prod.mk.inj hq
  obtain ⟨hkept, hselect⟩ := Prod.mk.inj hq
  obtain ⟨hlazy, hframed⟩ := select_lazy_and_framed (.parse h) (some "d")
    [⟨"a", [], [], none, none⟩, ⟨"x/b", [], [], none, none⟩,
      ⟨"b2", [], [], none, some ⟨3, 4⟩⟩]
  refine ⟨q, h, (hlazy _ _ ?_).trans hselect, ?_⟩
  · rintro path ⟨hneeds, hr, habsent, hcheap, hpath⟩
    simp only [List.mem_cons, List.not_mem_nil, or_false] at hr
    rcases hr with rfl | rfl | rfl
    · obtain ⟨p, hp, hfail⟩ := List.any_eq_true.1 hfails
      simp only [Bool.and_eq_true, decide_eq_true_eq] at hfail
      simp [hcheap p hp hfail.1] at hfail
    · obtain rfl : "d/b" = path := Option.some.inj hpath
      rfl
    · cases habsent
  · rw [← hkept, ← hselect]
    exact hframed _

end DemoQuery
