import DemoQuery.Proofs.Report.Query
import DemoQuery.Proofs.Report.Table
import DemoQuery.Proofs.Text.Colour
import DemoQuery.Report.Keys

/-!
# Tables with and without colours

A table in colours is the same table with terminal sequences put in. Explanations of queries and
lists of keys have no escape character of their own, so taking the sequences out gives the plain
table. The names of records are shown as they are, but only the heading of their table is painted.
-/

namespace DemoQuery.Report

open Text

variable {q : Query} {k : Key} {keys : List Key} {rs : List Record}

/-! ### Queries and keys -/

lemma paints_queryTable (colours : Bool) (q : Query) :
    Paints (queryTable colours q).toList (queryTable false q).toList := by
  have hline : ∀ p : Requirement × Nat,
      Paints (requirementLine colours p.1 p.2 ++ "\n").toList
        (requirementLine false p.1 p.2 ++ "\n").toList := by
    intro p
    simp only [requirementLine, String.toList_append]
    exact (((((Paints.refl _).append (.refl _)).append (Style.cyan.paints_paint colours _)).append
      (.refl _)).append (.refl _)).append (.refl _)
  unfold queryTable
  split
  · exact .refl _
  · simp only [String.toList_append]
    exact ((paints_join hline _).append (Style.dimmed.paints_paint colours _)).append (.refl _)

lemma paints_keyTable (colours : Bool) (keys : List Key) :
    Paints (keyTable colours keys).toList (keyTable false keys).toList := by
  simp only [keyTable, String.toList_append]
  exact ((Style.dimmed.paints_paint colours _).append (.refl _)).append (.refl _)

lemma escape_notMem_ofLines {ls : List (List Char)} (h : ∀ l ∈ ls, IsRun isVisible l) :
    '\x1b' ∉ ofLines ls := by
  intro hmem
  obtain ⟨l, hl, hc⟩ := List.mem_flatMap.1 hmem
  rcases List.mem_append.1 hc with hc | hc
  · exact (h l hl).notMem (by decide) hc
  · exact absurd hc (by decide)

lemma escape_notMem_queryTable (h : q.IsCompiled) : '\x1b' ∉ (queryTable false q).toList := by
  rw [toList_queryTable]
  exact escape_notMem_ofLines (isVisible_tableLines h)

lemma isVisible_padRight {t : String} (width : Nat) (h : IsRun isVisible t.toList) :
    IsRun isVisible (padRight width t).toList := by
  rw [toList_padRight]
  exact h.append (isRun_replicate (by decide) _)

lemma isVisible_rowOfKey (h : k ∈ Key.all) : IsRun isVisible (rowOfKey k).toList := by
  have hname := isVisible_padRight 18 (Key.isVisible_name h)
  have htype : IsRun isVisible (padRight 5 k.field.typeName).toList := by
    refine isVisible_padRight 5 ?_
    unfold Field.typeName
    split <;> decide
  have hfield := isVisible_padRight 22 k.field.isVisible_label
  have hneeds : IsRun isVisible (", ".intercalate k.needs.names).toList := by
    rcases k.needs with ⟨_ | _, _ | _⟩ <;> decide
  have hblank : IsRun isVisible " ".toList := by decide
  simp only [rowOfKey, keyRow, String.toList_append]
  exact (((((hname.append hblank).append htype).append hblank).append hfield).append
    hblank).append hneeds

lemma toList_keyTable (keys : List Key) : (keyTable false keys).toList =
    ofLines (keyHeading.toList :: keys.map fun k => (rowOfKey k).toList) := by
  simp [keyTable, ofLines, List.flatMap_map, String.toList_join]

lemma escape_notMem_keyTable (h : ∀ k ∈ keys, k ∈ Key.all) :
    '\x1b' ∉ (keyTable false keys).toList := by
  rw [toList_keyTable]
  refine escape_notMem_ofLines (List.forall_mem_cons.2 ⟨by decide, ?_⟩)
  exact List.forall_mem_map.2 fun k hk => isVisible_rowOfKey (h k hk)

/-! ### Records -/

/-- `SameBehindHeading cs ds`: the texts `cs` and `ds` are the same but for their first lines. -/
def SameBehindHeading (cs ds : List Char) : Prop :=
  ∃ heading heading' rest, '\n' ∉ heading ∧ '\n' ∉ heading' ∧ cs = heading ++ '\n' :: rest ∧
    ds = heading' ++ '\n' :: rest

lemma isVisible_recordHeading : IsRun isVisible recordHeading.toList := by
  decide

/-- Behind the heading, the table of records is the same in colours. -/
lemma exists_recordTable_eq (rs : List Record) : ∃ heading rest, IsRun isVisible heading ∧
    ∀ colours, ∃ painted, Paints painted heading ∧ '\n' ∉ painted ∧
      (recordTable colours rs).toList = painted ++ '\n' :: rest := by
  by_cases hrs : rs.isEmpty
  · refine ⟨"No matching demos.".toList, [], by decide, fun colours => ?_⟩
    refine ⟨_, .refl _, by decide, ?_⟩
    rw [recordTable, if_pos hrs]
    rfl
  · refine ⟨recordHeading.toList, (String.join (rs.map fun r => rowOfRecord r ++ "\n")).toList,
      isVisible_recordHeading, fun colours => ?_⟩
    refine ⟨_, Style.dimmed.paints_paint colours recordHeading, ?_, ?_⟩
    · cases colours <;> decide
    · rw [recordTable, if_neg hrs]
      simp

/-- Colours are put into a table and taken out of it again. What a query searches for and which
keys are listed makes no difference, and of the records only the heading is painted. -/
theorem strip_tables :
    (∀ ⦃q : Query⦄, q.IsCompiled →
      strip (queryTable true q).toList = (queryTable false q).toList ∧
        '\x1b' ∉ (queryTable false q).toList) ∧
      (∀ ⦃keys : List Key⦄, (∀ k ∈ keys, k ∈ Key.all) →
        strip (keyTable true keys).toList = (keyTable false keys).toList) ∧
      ∀ rs : List Record,
        SameBehindHeading (recordTable true rs).toList (recordTable false rs).toList ∧
          strip (recordTable true rs).toList = strip (recordTable false rs).toList := by
  refine ⟨fun q hq => ?_, fun keys hkeys => ?_, fun rs => ?_⟩
  · have hescape := escape_notMem_queryTable hq
    exact ⟨(paints_queryTable true q).strip_eq hescape, hescape⟩
  · exact (paints_keyTable true keys).strip_eq (escape_notMem_keyTable hkeys)
  · obtain ⟨heading, rest, hvisible, htable⟩ := exists_recordTable_eq rs
    obtain ⟨coloured, hcoloured, hnewline, heq⟩ := htable true
    obtain ⟨plain, hplain, hnewline', heq'⟩ := htable false
    have hescape : '\x1b' ∉ heading := hvisible.notMem (by decide)
    refine ⟨⟨coloured, plain, rest, hnewline, hnewline', heq, heq'⟩, ?_⟩
    rw [heq, heq', hcoloured.strip_append hescape, hplain.strip_append hescape]

/-- A needle with a terminal sequence of its own, keys in any order, and a name in red. -/
theorem strip_tables_hostile_needle :
    (∃ q, Query.ofClauses [⟨"name", true, .list ["\x1b[36m", "\x1b"]⟩] = .ok q ∧
        strip (queryTable true q).toList = (queryTable false q).toList ∧
        '\x1b' ∉ (queryTable false q).toList) ∧
      strip (keyTable true (Key.all.reverse ++ Key.all)).toList =
        (keyTable false (Key.all.reverse ++ Key.all)).toList ∧
      SameBehindHeading (recordTable true [{ name := "\x1b[31mred.dem" }]).toList
        (recordTable false [{ name := "\x1b[31mred.dem" }]).toList ∧
      strip (recordTable true [{ name := "\x1b[31mred.dem" }]).toList =
        strip (recordTable false [{ name := "\x1b[31mred.dem" }]).toList := by
  obtain ⟨hqueries, hkeys, hrecords⟩ := strip_tables
  obtain ⟨q, hq⟩ : ∃ q, Query.ofClauses [⟨"name", true, .list ["\x1b[36m", "\x1b"]⟩] = .ok q :=
    ⟨_, rfl⟩
  refine ⟨⟨q, hq, hqueries (.ofClauses hq)⟩, hkeys fun k hk => ?_, hrecords _⟩
  simpa using hk

end DemoQuery.Report
