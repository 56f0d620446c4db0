import DemoQuery.Proofs.Selection.Supplied

/-!
# Selecting without files

Where no file is found, selection supplies defaults: a header without texts, and a size and a time
of zero. Fields read a record without these parts as if it had just these defaults, so selection
picks the records that match as they are, and only fills them in.
-/

namespace DemoQuery

variable {q : Query} {stat : Stat} {directory : Option String} {r : Record} {n : Needs}

/-- A record with defaults for the parts that are needed and absent. -/
def Record.withDefaults (r : Record) (n : Needs) : Record :=
  { r with
    header   := r.header <|> if n.header then some ⟨"", "", ""⟩ else none
    fileData := r.fileData <|> if n.fileData then some ⟨0, 0⟩ else none }

/-- No file is found for a record. -/
def Record.HasNoFile (r : Record) (stat : Stat) (directory : Option String) : Prop :=
  ∀ path ∈ demoPath? directory r.name, stat path = none

lemma Record.hasNoFile_none (r : Record) (stat : Stat) : r.HasNoFile stat none := by
  intro path hpath
  cases hpath

/-! ### Supplied defaults -/

lemma Record.HasNoFile.statDemo_eq (h : r.HasNoFile stat directory) :
    statDemo stat directory r.name = ⟨0, 0⟩ := by
  rw [statDemo]
  cases hpath : demoPath? directory r.name with
  | none => rfl
  | some path => rw [Option.bind_some, h path hpath]; rfl

/-- Where there is no file to be found, defaults are supplied. -/
lemma Record.supply_eq_withDefaults (h : r.fileData = none → r.HasNoFile stat directory) :
    r.supply n stat directory = r.withDefaults n := by
  rw [Record.supply_eq_withNeeded, withNeeded, withDefaults]
  cases hr : r.fileData with
  | some d => rfl
  | none => rw [(h hr).statDemo_eq]

/-! ### Reading defaults -/

/-- Every field reads a record as if the defaults were there already. -/
lemma Field.agrees_withDefaults (f : Field) (r : Record) (n : Needs) :
    f.Agrees (r.withDefaults n) r := by
  have hheader : (r.withDefaults n).header.getD {} = r.header.getD {} := by
    cases hr : r.header <;> cases hn : n.header <;> simp [Record.withDefaults, hr, hn]
  have hfileData : (r.withDefaults n).fileData.getD {} = r.fileData.getD {} := by
    cases hr : r.fileData <;> cases hn : n.fileData <;> simp [Record.withDefaults, hr, hn]
  cases f with
  | text t =>
    cases t with
    | name => rfl
    | bookmarkLabels => rfl
    | mapName => exact congrArg Header.mapName hheader
    | hostname => exact congrArg Header.hostname hheader
    | clientId => exact congrArg Header.clientId hheader
  | number m =>
    cases m with
    | killstreakCount => rfl
    | bookmarkCount => rfl
    | bestStreak => rfl
    | modified => exact congrArg FileData.modified hfileData
    | size => exact congrArg FileData.size hfileData

lemma Query.WellFormed.matches_withDefaults (h : q.WellFormed) (r : Record) (n : Needs) :
    q.matches (r.withDefaults n) = q.matches r := by
  rw [Bool.eq_iff_iff, Query.matches, Query.matches, List.all_eq_true, List.all_eq_true]
  refine forall₂_congr fun p hp => ?_
  have hagrees := p.key.field.agrees_withDefaults r n
  rw [Requirement.holds, Requirement.holds, (h.requirement p hp).isOn.holds_congr hagrees]

/-! ### Selection -/

/-- A record without a file is selected if it matches as it is, with defaults filled in. -/
lemma Query.WellFormed.select?_eq_withDefaults (h : q.WellFormed)
    (hr : r.fileData = none → r.HasNoFile stat directory) :
    q.select? stat directory r = if q.matches r then some (r.withDefaults q.needs) else none := by
  rw [h.select?_eq, Record.supply_eq_withDefaults hr, h.matches_withDefaults]

/-- Without a directory of demos, or if no file is found for any record without file data, selection
picks exactly the records that match as they are, each in its place, and fills in defaults for what
the query needs and the record lacks. -/
theorem Query.select_eq_map_filter (h : q.IsCompiled) (stat : Stat) (directory : Option String)
    (records : List Record)
    (hfiles : directory = none ∨
      ∀ r ∈ records, r.fileData = none → r.HasNoFile stat directory) :
    (∀ r ∈ records, (q.select? stat directory r).isSome = q.matches r) ∧
      q.select stat directory records = (q.filter records).map (·.withDefaults q.needs) := by
  have hselect : ∀ r ∈ records, q.select? stat directory r =
      if q.matches r then some (r.withDefaults q.needs) else none := by
    intro r hr
    apply h.wellFormed.select?_eq_withDefaults
    rcases hfiles with rfl | hfiles
    · exact fun _ => r.hasNoFile_none stat
    · exact hfiles r hr
  constructor
  · intro r hr
    rw [hselect r hr]
    cases q.matches r <;> rfl
  · rw [select, Query.filter, List.filterMap_congr hselect, ← List.filterMap_eq_filter,
      List.map_filterMap]
    refine List.filterMap_congr fun r _ => ?_
    cases hm : q.matches r <;> simp [Option.guard, hm]

/-- The directory has a file for the demo whose file data is known already, and none for the others.
Of these the first has no header for the map to stand in, and the second one that has it. -/
theorem Query.select_eq_map_filter_other_file :
    ∃ q, Query.parse "!map: koth, !filesize: 1..3" = .ok q ∧
      q.select (fun path => if path = "d/c" then some ⟨2, 9⟩ else none) (some "d")
          [⟨"a", [], [], none, none⟩, ⟨"b", [], [], some ⟨"koth", "", ""⟩, none⟩,
            ⟨"c", [], [], none, some ⟨5, 7⟩⟩] =
        [⟨"a", [], [], some ⟨"", "", ""⟩, some ⟨0, 0⟩⟩,
          ⟨"c", [], [], some ⟨"", "", ""⟩, some ⟨5, 7⟩⟩] := by
  have hf : (Query.parse "!map: koth, !filesize: 1..3").toOption.map (fun q =>
      (q.filter [⟨"a", [], [], none, none⟩, ⟨"b", [], [], some ⟨"koth", "", ""⟩, none⟩,
        ⟨"c", [], [], none, some ⟨5, 7⟩⟩]).map (·.withDefaults q.needs)) =
      some [⟨"a", [], [], some ⟨"", "", ""⟩, some ⟨0, 0⟩⟩,
        ⟨"c", [], [], some ⟨"", "", ""⟩, some ⟨5, 7⟩⟩] := by
    decide +kernel
  obtain ⟨q, h, hq⟩ := exists_ok_of_toOption_map hf
  refine ⟨q, h, (select_eq_map_filter (.parse h) _ _ _ (.inr ?_)).2.trans hq⟩
  simp only [List.forall_mem_cons, List.not_mem_nil, false_implies, implies_true, and_true,
    Record.HasNoFile]
  refine ⟨fun _ => ?_, fun _ => ?_, fun hc => ?_⟩
  · decide +kernel
  · decide +kernel
  · cases hc

end DemoQuery
