import DemoQuery.Proofs.Query.Requirements
import DemoQuery.Selection

/-!
# Selecting is matching supplied records

Selection checks some requirements on a record before anything is supplied to it and supplies
nothing to a record that fails one of them. The outcome is that of supplying every record first
and checking every requirement then: what is supplied early or not at all is never read.
-/

namespace DemoQuery

variable {q : Query} {stat : Stat} {directory : Option String} {r : Record} {needs : Needs}

/-! ### Supplied records -/

/-- A record with the parts that it lacks and that are needed: an empty header, and the file data
that is found for its name. -/
def Record.withNeeded (r : Record) (n : Needs) (found : String → FileData) : Record :=
  { r with
    header   := r.header <|> if n.header then some ⟨"", "", ""⟩ else none
    fileData := r.fileData <|> if n.fileData then some (found r.name) else none }

/-- What is supplied to a record is what it lacks and needs, with the data of its file. -/
lemma Record.supply_eq_withNeeded (r : Record) (n : Needs) (stat : Stat)
    (directory : Option String) :
    r.supply n stat directory = r.withNeeded n (statDemo stat directory) := by
  have hheader : (r.supply n stat directory).header =
      (r.withNeeded n (statDemo stat directory)).header := by
    cases hr : r.header <;> cases hn : n.header <;> simp [supply, withNeeded, hr, hn]
  have hfileData : (r.supply n stat directory).fileData =
      (r.withNeeded n (statDemo stat directory)).fileData := by
    cases hr : r.fileData <;> cases hn : n.fileData <;> simp [supply, withNeeded, hr, hn]
  exact congrArg₂ (Record.mk r.name r.killstreaks r.bookmarks) hheader hfileData

/-! ### Requirements on supplied records -/

@[simp] lemma Record.supply_empty : r.supply {} stat directory = r := rfl

/-- A requirement that needs nothing holds of a record before data is supplied as it does after. -/
lemma Requirement.WellFormed.holds_supply {p : Requirement} (h : p.WellFormed)
    (hp : p.isCheap) : p.holds (r.supply needs stat directory) = p.holds r := by
  have hneeds : p.needs = {} := (Needs.isEmpty_iff _).1 hp
  refine h.holds_congr ⟨rfl, rfl, rfl, fun hh => ?_, fun hd => ?_⟩
  · rw [hneeds] at hh; cases hh
  · rw [hneeds] at hd; cases hd

/-- A query of which every requirement needs nothing needs nothing. -/
lemma Query.WellFormed.needs_eq_empty (h : q.WellFormed)
    (hcheap : ∀ p ∈ q.requirements, p.isCheap) : q.needs = {} := by
  have hneeds : ∀ p ∈ q.requirements, p.needs = {} := fun p hp =>
    (Needs.isEmpty_iff _).1 (hcheap p hp)
  have hheader : q.needs.header = false := by
    rw [h.needs_header, List.any_eq_false]
    intro p hp
    simp [hneeds p hp]
  have hfileData : q.needs.fileData = false := by
    rw [h.needs_fileData, List.any_eq_false]
    intro p hp
    simp [hneeds p hp]
  exact Needs.ext hheader hfileData

/-- Supplying only for the sake of costly requirements supplies all that the query needs. -/
lemma Query.WellFormed.supply_unless_cheap (h : q.WellFormed) :
    (if (q.requirements.filter (!·.isCheap)).isEmpty then r
      else r.supply q.needs stat directory) = r.supply q.needs stat directory := by
  split
  · next hempty =>
    rw [h.needs_eq_empty, Record.supply_empty]
    simpa [List.isEmpty_iff, List.filter_eq_nil_iff] using hempty
  · rfl

/-- Matching a supplied record is meeting the cheap requirements before and the others after. -/
lemma Query.WellFormed.matches_supply (h : q.WellFormed) :
    q.matches (r.supply needs stat directory) =
      ((q.requirements.filter (·.isCheap)).all (·.holds r) &&
        (q.requirements.filter (!·.isCheap)).all (·.holds (r.supply needs stat directory))) := by
  rw [Bool.eq_iff_iff, Bool.and_eq_true]
  simp only [Query.matches, List.all_eq_true, List.mem_filter]
  constructor
  · intro hall
    exact ⟨fun p hp => h.requirement p hp.1 |>.holds_supply hp.2 ▸ hall p hp.1,
      fun p hp => hall p hp.1⟩
  · rintro ⟨hcheap, hcostly⟩ p hp
    by_cases hc : p.isCheap
    · rw [(h.requirement p hp).holds_supply hc]
      exact hcheap p ⟨hp, hc⟩
    · exact hcostly p ⟨hp, by simpa using hc⟩

/-- One record is selected, with what is supplied to it, exactly if it then matches. -/
lemma Query.WellFormed.select?_eq (h : q.WellFormed) :
    q.select? stat directory r =
      if q.matches (r.supply q.needs stat directory) then
        some (r.supply q.needs stat directory) else none := by
  dsimp only [select?]
  rw [h.supply_unless_cheap, h.matches_supply]
  cases (q.requirements.filter (·.isCheap)).all (·.holds r) with
  | false => rfl
  | true => rfl

/-- Selection gives, in their order, the records that match the query once they have what it
needs. -/
theorem Query.select_eq_filter_supply (h : q.IsCompiled) (stat : Stat)
    (directory : Option String) (records : List Record) :
    q.select stat directory records =
      (records.map (·.withNeeded q.needs (statDemo stat directory))).filter q.matches := by
  rw [select]
  induction records with
  | nil => rfl
  | cons r records ih =>
    rw [List.filterMap_cons, List.map_cons, List.filter_cons, ih, h.wellFormed.select?_eq,
      Record.supply_eq_withNeeded]
    by_cases hm : q.matches (r.withNeeded q.needs (statDemo stat directory)) <;> simp [hm]

/-- Only the second demo has the right name, and its file is long enough. -/
theorem Query.select_eq_filter_supply_second_demo :
    ∃ q, Query.parse "name: b, !filesize: ..6" = .ok q ∧
      q.select (fun path => if path = "d/b" then some ⟨7, 5⟩ else none) (some "d")
          [⟨"a", [], [], none, none⟩, ⟨"x/b", [], [], none, none⟩] =
        [⟨"x/b", [], [], none, some ⟨7, 5⟩⟩] := by
  have hs : (Query.parse "name: b, !filesize: ..6").toOption.map (fun q =>
      ([⟨"a", [], [], none, none⟩, ⟨"x/b", [], [], none, none⟩].map fun r : Record =>
        r.withNeeded q.needs (statDemo (fun path => if path = "d/b" then some ⟨7, 5⟩ else none)
          (some "d"))).filter q.matches) =
      some [⟨"x/b", [], [], none, some ⟨7, 5⟩⟩] := by
    decide +kernel
  obtain ⟨q, h, hq⟩ := exists_ok_of_toOption_map hs
  exact ⟨q, h, (select_eq_filter_supply (.parse h) _ _ _).trans hq⟩

end DemoQuery
