import DemoQuery.Proofs.Calendar.Shown
import DemoQuery.Proofs.Failure
import DemoQuery.Proofs.Text.Lines
import DemoQuery.Report.Records

/-!
# Tables of records

A table of records has a line for its heading and a line for each record, as long as no name as it
is shown has a line feed of its own. Nothing else in a row can have one, and each that a shown name
has adds a line.
-/

namespace DemoQuery.Report

open Text

variable {r : Record} {rs : List Record} {cells : List (List Char)} {l : List Char}

/-! ### Rows -/

/-- `InColumns cells l`: the line `l` is made of the cells, with blanks between them. -/
inductive InColumns : List (List Char) → List Char → Prop
  | last (cell : List Char) : InColumns [cell] cell
  | cons {cells : List (List Char)} {l gap : List Char} (cell : List Char) (hne : gap ≠ [])
      (hgap : ∀ c ∈ gap, c = ' ') (h : InColumns cells l) :
      InColumns (cell :: cells) (cell ++ (gap ++ l))

/-- A name as it is shown in a row. -/
def shownName (r : Record) : String :=
  truncate r.name 36

/-- The cells of the row of a record. -/
def cellsOf (r : Record) : List (List Char) :=
  [(shownName r).toList, (streakText r).toList, r.bookmarks.length.repr.toList,
    (r.fileData.elim "-" fun data => sizeText data.size).toList,
    (r.fileData.elim "-" fun data => timestampText data.modified).toList]

lemma toList_padRight (width : Nat) (s : String) :
    (padRight width s).toList = s.toList ++ List.replicate (width - s.length) ' ' := by
  simp [padRight]

lemma InColumns.padRight {s : String} (width : Nat) (h : InColumns cells l) :
    InColumns (s.toList :: cells) ((padRight width s).toList ++ ' ' :: l) := by
  have hgap : ∀ c ∈ List.replicate (width - s.length) ' ' ++ [' '], c = ' ' := by
    rw [← List.replicate_succ']
    exact fun c hc => List.eq_of_mem_replicate hc
  have hcons := h.cons s.toList (by simp) hgap
  simpa [toList_padRight] using hcons

lemma inColumns_recordRow (name streak bookmarks size modified : String) :
    InColumns [name.toList, streak.toList, bookmarks.toList, size.toList, modified.toList]
      (recordRow name streak bookmarks size modified).toList := by
  have h := ((((InColumns.last modified.toList).padRight (s := size) 10).padRight
    (s := bookmarks) 9).padRight (s := streak) 6).padRight (s := name) 36
  simpa [recordRow] using h

lemma inColumns_rowOfRecord (r : Record) : InColumns (cellsOf r) (rowOfRecord r).toList :=
  inColumns_recordRow (shownName r) (streakText r) r.bookmarks.length.repr
    (r.fileData.elim "-" fun data => sizeText data.size)
    (r.fileData.elim "-" fun data => timestampText data.modified)

/-- The titles of the columns. -/
def titles : List (List Char) :=
  ["Name".toList, "Streak".toList, "Bookmarks".toList, "Size".toList, "Modified".toList]

lemma inColumns_recordHeading : InColumns titles recordHeading.toList :=
  inColumns_recordRow "Name" "Streak" "Bookmarks" "Size" "Modified"

/-- A line of cells has the line feeds of its cells and no others. -/
lemma InColumns.count_newline (h : InColumns cells l) :
    l.count '\n' = (cells.map (·.count '\n')).sum := by
  induction h with
  | last cell => simp
  | @cons cells l gap cell _ hgap _ ih =>
    have hblank : gap.count '\n' = 0 := List.count_eq_zero.2 fun hmem =>
      absurd (hgap _ hmem) (by decide)
    rw [List.count_append, List.count_append, hblank, ih, List.map_cons, List.sum_cons,
      Nat.zero_add]

/-! ### Cells without line feeds -/

lemma newline_notMem_streakText (r : Record) : '\n' ∉ (streakText r).toList := by
  rw [streakText]
  split
  · decide
  · exact newline_notMem_ofInteger _

lemma newline_notMem_sizeText (n : Int) : '\n' ∉ (sizeText n).toList := by
  rw [sizeText]
  cases ShownSize.ofBytes n with
  | bytes n => simp [ShownSize.text, newline_notMem_ofInteger]
  | scaled tenths unit =>
    have hunit : '\n' ∉ unit.name.toList := by cases unit <;> decide
    simp [ShownSize.text, newline_notMem_toDigits, hunit]

lemma newline_notMem_timestampText (s : Int) : '\n' ∉ (timestampText s).toList := by
  rw [timestampText]
  split
  · exact (showsMoment_text _).newline_notMem
  · exact newline_notMem_ofInteger s

/-- What is not known of a file is shown as a dash. -/
lemma newline_notMem_elim {f : FileData → String} (h : ∀ data, '\n' ∉ (f data).toList)
    (data : Option FileData) : '\n' ∉ (data.elim "-" f).toList := by
  cases data with
  | none => exact (by decide : '\n' ∉ "-".toList)
  | some data => exact h data

/-- Of the cells of a row only the name can have line feeds. -/
lemma count_newline_rowOfRecord (r : Record) :
    (rowOfRecord r).toList.count '\n' = (shownName r).toList.count '\n' := by
  have hsize := newline_notMem_elim (fun data => newline_notMem_sizeText data.size) r.fileData
  have hmodified :=
    newline_notMem_elim (fun data => newline_notMem_timestampText data.modified) r.fileData
  have hbookmarks : '\n' ∉ r.bookmarks.length.repr.toList := by
    simp [newline_notMem_toDigits]
  rw [(inColumns_rowOfRecord r).count_newline]
  simp only [cellsOf, List.map_cons, List.map_nil, List.sum_cons, List.sum_nil,
    List.count_eq_zero.2 (newline_notMem_streakText r), List.count_eq_zero.2 hbookmarks,
    List.count_eq_zero.2 hsize, List.count_eq_zero.2 hmodified]
  rfl

lemma newline_notMem_recordHeading : '\n' ∉ recordHeading.toList := by
  decide

/-! ### Lines -/

/-- `HasLineEach rs cs`: the text `cs` is a line for the heading and a line for each record, in
order, which shows the cells of the record. -/
def HasLineEach (rs : List Record) (cs : List Char) : Prop :=
  ∃ heading rows, cs = ofLines (heading :: rows) ∧ (∀ l ∈ heading :: rows, '\n' ∉ l) ∧
    InColumns titles heading ∧ List.Forall₂ (fun r row => InColumns (cellsOf r) row) rs rows

lemma toList_recordTable (hne : rs ≠ []) : (recordTable false rs).toList =
    ofLines (recordHeading.toList :: rs.map fun r => (rowOfRecord r).toList) := by
  rw [recordTable, if_neg (by simpa using hne)]
  simp [ofLines, List.flatMap_map, String.toList_join]

/-- Besides the line feeds behind its lines a table has those of the names as they are shown. -/
lemma count_newline_recordTable (hne : rs ≠ []) : (recordTable false rs).toList.count '\n' =
    rs.length + 1 + (rs.map fun r => (shownName r).toList.count '\n').sum := by
  have hrows : ((rs.map fun r => (rowOfRecord r).toList).map (·.count '\n')) =
      rs.map fun r => (shownName r).toList.count '\n' := by
    simp only [List.map_map, Function.comp_def, count_newline_rowOfRecord]
  rw [toList_recordTable hne, count_newline_ofLines_eq, List.map_cons, hrows, List.sum_cons,
    List.count_eq_zero.2 newline_notMem_recordHeading, List.length_cons, List.length_map,
    Nat.zero_add]

lemma HasLineEach.count_newline {cs : List Char} (h : HasLineEach rs cs) :
    cs.count '\n' = rs.length + 1 := by
  obtain ⟨heading, rows, rfl, hlines, -, hrows⟩ := h
  rw [count_newline_ofLines hlines, List.length_cons, hrows.length_eq]

lemma hasLineEach_recordTable (hne : rs ≠ []) (h : ∀ r ∈ rs, '\n' ∉ (shownName r).toList) :
    HasLineEach rs (recordTable false rs).toList := by
  refine ⟨_, _, toList_recordTable hne, List.forall_mem_cons.2 ⟨newline_notMem_recordHeading, ?_⟩,
    inColumns_recordHeading, forall₂_map inColumns_rowOfRecord rs⟩
  refine List.forall_mem_map.2 fun r hr => ?_
  rw [← List.count_eq_zero, count_newline_rowOfRecord, List.count_eq_zero]
  exact h r hr

/-- A table has one line for its heading and one for each record exactly if no name as it is shown
has a line feed; each that a shown name has is one more. -/
theorem recordTable_hasLineEach_iff (hne : rs ≠ []) :
    (HasLineEach rs (recordTable false rs).toList ↔ ∀ r ∈ rs, '\n' ∉ (shownName r).toList) ∧
    (recordTable false rs).toList.count '\n' =
      rs.length + 1 + (rs.map fun r => (shownName r).toList.count '\n').sum := by
  have hcount := count_newline_recordTable hne
  refine ⟨⟨fun h => ?_, hasLineEach_recordTable hne⟩, hcount⟩
  rw [h.count_newline] at hcount
  exact sum_count_newline_eq_zero_iff.1 (by omega)

/-- A line feed behind the first characters of a long name is not shown and adds no line. -/
theorem recordTable_hasLineEach_cut_name :
    HasLineEach [⟨"a_demo_with_a_name_of_more_than_36_\n_characters", [], [], none, none⟩]
      (recordTable false
        [⟨"a_demo_with_a_name_of_more_than_36_\n_characters", [], [], none, none⟩]).toList :=
  (recordTable_hasLineEach_iff (by decide)).1.2 (by decide)

/-- A line feed in a name that is shown adds a line. -/
theorem recordTable_line_feed_in_name :
    ¬ ∀ rs, rs ≠ [] → HasLineEach rs (recordTable false rs).toList := by
  intro h
  have hlines := (h [⟨"a\nb", [], [], none, none⟩] (by decide)).count_newline
  rw [count_newline_recordTable (by decide)] at hlines
  exact absurd hlines (by decide)

end DemoQuery.Report
