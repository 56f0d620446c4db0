import DemoQuery.Proofs.Failure
import DemoQuery.Proofs.Json.Printing
import DemoQuery.Proofs.Record.Structure
import DemoQuery.Record
import DemoQuery.Run

/-!
# Records survive being written and read

A file in which records are written down is loaded as these records, whichever of its forms each
structure has and however the text is laid out.
-/

namespace DemoQuery

open Json Text

variable {j : Json}

/-! ### The forms of a record -/

/-- The forms of a killstreak. -/
def Killstreak.IsForm (k : Killstreak) : Json → Prop :=
  IsStructure (required [("peak", .integer k.peak), ("tick", .integer k.tick)])

/-- The forms of a bookmark. -/
def Bookmark.IsForm (b : Bookmark) : Json → Prop :=
  IsStructure (required [("label", .text b.label), ("tick", .integer b.tick)])

/-- The forms of a header. Empty texts may be left out. -/
def Header.IsForm (h : Header) : Json → Prop :=
  IsStructure [
    ("map_name", Given (h.mapName = "") (· = .text h.mapName)),
    ("hostname", Given (h.hostname = "") (· = .text h.hostname)),
    ("clientid", Given (h.clientId = "") (· = .text h.clientId))]

/-- The forms of the data of a file. -/
def FileData.IsForm (data : FileData) : Json → Prop :=
  IsStructure (required [("filesize", .integer data.size), ("modtime", .integer data.modified)])

/-- The forms of a record. Empty lists may be left out; a header or file data that is not known may
be left out or null. -/
def Record.IsForm (r : Record) : Json → Prop :=
  IsStructure [
    ("name", Given False (· = .text r.name)),
    ("killstreaks", Given (r.killstreaks = []) (IsList Killstreak.IsForm r.killstreaks)),
    ("bookmarks", Given (r.bookmarks = []) (IsList Bookmark.IsForm r.bookmarks)),
    ("header", Given (r.header = none) (IsOption Header.IsForm r.header)),
    ("filedata", Given (r.fileData = none) (IsOption FileData.IsForm r.fileData))]

/-- The whole numbers of a record fit in 64 bits. -/
structure Record.Fits (r : Record) : Prop where
  killstreaks : ∀ k ∈ r.killstreaks, FitsWord k.peak ∧ FitsWord k.tick
  bookmarks   : ∀ b ∈ r.bookmarks, FitsWord b.tick
  fileData    : ∀ data ∈ r.fileData, FitsWord data.size ∧ FitsWord data.modified

/-! ### Every form is read -/

lemma Killstreak.ofJson?_of_isForm {k : Killstreak} (h : k.IsForm j)
    (hfits : FitsWord k.peak ∧ FitsWord k.tick) : ofJson? j = some k := by
  have hfields : j.fields? ["peak", "tick"] =
      some [some (.integer k.peak), some (.integer k.tick)] :=
    h.fields?_required (by simp)
  rw [ofJson?, hfields]
  simp [asInteger?_of_fitsWord hfits.1, asInteger?_of_fitsWord hfits.2]

lemma Bookmark.ofJson?_of_isForm {b : Bookmark} (h : b.IsForm j) (hfits : FitsWord b.tick) :
    ofJson? j = some b := by
  have hfields : j.fields? ["label", "tick"] =
      some [some (.text b.label), some (.integer b.tick)] :=
    h.fields?_required (by simp)
  rw [ofJson?, hfields]
  simp [asText?, text, asInteger?_of_fitsWord hfits]

lemma FileData.ofJson?_of_isForm {data : FileData} (h : data.IsForm j)
    (hfits : FitsWord data.size ∧ FitsWord data.modified) : ofJson? j = some data := by
  have hfields : j.fields? ["filesize", "modtime"] =
      some [some (.integer data.size), some (.integer data.modified)] :=
    h.fields?_required (by simp)
  rw [ofJson?, hfields]
  simp [asInteger?_of_fitsWord hfits.1, asInteger?_of_fitsWord hfits.2]

lemma asText?_of_eq_text {s : String} : ∀ j, j = .text s → asText? j = some s := by
  rintro _ rfl
  rfl

lemma Header.ofJson?_of_isForm {h : Header} (hform : h.IsForm j) : ofJson? j = some h := by
  obtain ⟨values, hfields, hvalues⟩ :
      ∃ values, j.fields? ["map_name", "hostname", "clientid"] = some values ∧ _ :=
    hform.fields? (by simp)
  obtain _ | ⟨hmap, _ | ⟨hhost, _ | ⟨hclient, ⟨⟩⟩⟩⟩ := hvalues
  rw [ofJson?, hfields]
  simp [orDefault_of_given hmap asText?_of_eq_text, orDefault_of_given hhost asText?_of_eq_text,
    orDefault_of_given hclient asText?_of_eq_text]

lemma Record.ofJson?_of_isForm {r : Record} (h : r.IsForm j) (hfits : r.Fits) :
    ofJson? j = some r := by
  obtain ⟨values, hfields, hvalues⟩ : ∃ values,
      j.fields? ["name", "killstreaks", "bookmarks", "header", "filedata"] = some values ∧ _ :=
    h.fields? (by simp)
  obtain _ | ⟨hname, _ | ⟨hkillstreaks, _ | ⟨hbookmarks, hvalues⟩⟩⟩ := hvalues
  obtain _ | ⟨hheader, _ | ⟨hfileData, ⟨⟩⟩⟩ := hvalues
  obtain ⟨_, rfl, rfl⟩ := hname.exists_eq
  have hkillstreaks' := orDefault_of_given hkillstreaks fun _ hlist =>
    asList?_of_isList hlist fun k hk _ hform =>
      Killstreak.ofJson?_of_isForm hform (hfits.killstreaks k hk)
  have hbookmarks' := orDefault_of_given hbookmarks fun _ hlist =>
    asList?_of_isList hlist fun b hb _ hform =>
      Bookmark.ofJson?_of_isForm hform (hfits.bookmarks b hb)
  have hheader' := orDefault_of_given hheader fun _ hoption =>
    asOption?_of_isOption hoption rfl fun _ _ _ hform => Header.ofJson?_of_isForm hform
  have hfileData' := orDefault_of_given hfileData fun _ hoption =>
    asOption?_of_isOption hoption rfl fun data hdata _ hform =>
      FileData.ofJson?_of_isForm hform (hfits.fileData data hdata)
  rw [ofJson?, hfields]
  simp [asText?, text, hkillstreaks', hbookmarks', hheader', hfileData']

lemma Record.load_eq_ok {disk : Disk} {path text : String} {rs : List Record} {js : List Json}
    (hfits : ∀ r ∈ rs, r.Fits) (hread : disk.read path = .ok text)
    (htext : Writes text.toList (.array js)) (hforms : List.Forall₂ IsForm rs js) :
    load disk path = .ok rs := by
  have hlist : asList? ofJson? (.array js) = some rs :=
    asList?_of_isList (.array hforms) fun r hr _ hform => ofJson?_of_isForm hform (hfits r hr)
  have hparse : parseAll? text = some rs := by
    rw [parseAll?, htext.parse?, Option.bind_some, hlist]
  simp only [load, hread, hparse]

/-! ### Serialized records -/

lemma Killstreak.isForm_toJson (k : Killstreak) : k.IsForm k.toJson :=
  isStructure_required _

lemma Bookmark.isForm_toJson (b : Bookmark) : b.IsForm b.toJson :=
  isStructure_required _

lemma Header.isForm_toJson (h : Header) : h.IsForm h.toJson :=
  isStructure_record _
    (.cons (Given.value rfl) (.cons (Given.value rfl) (.cons (Given.value rfl) .nil))) rfl

lemma FileData.isForm_toJson (data : FileData) : data.IsForm data.toJson :=
  isStructure_required _

namespace Json

lemma isList_map {α : Type} {P : α → Json → Prop} {f : α → Json} (h : ∀ a, P a (f a))
    (as : List α) : IsList P as (.array (as.map f)) :=
  .array (forall₂_map h as)

lemma given_map {α : Type} {P : α → Json → Prop} {f : α → Json} (h : ∀ a, P a (f a))
    (o : Option α) : Given (o = none) (IsOption P o) (o.map f) := by
  cases o with
  | none => exact .leftOut rfl
  | some a => exact .value (.value (h a))

end Json

lemma Record.isForm_toJson (r : Record) : r.IsForm r.toJson := by
  refine isStructure_record [some (.text r.name),
    some (.array (r.killstreaks.map (·.toJson))), some (.array (r.bookmarks.map (·.toJson))),
    r.header.map (·.toJson), r.fileData.map (·.toJson)] ?_ ?_
  · exact .cons (Given.value rfl)
      (.cons (Given.value (isList_map Killstreak.isForm_toJson r.killstreaks))
        (.cons (Given.value (isList_map Bookmark.isForm_toJson r.bookmarks))
          (.cons (given_map Header.isForm_toJson r.header)
            (.cons (given_map FileData.isForm_toJson r.fileData) .nil))))
  · cases r.header <;> cases r.fileData <;> rfl

/-! ### Serialized records are texts of the grammar -/

lemma Killstreak.wellFormed_toJson (k : Killstreak) : k.toJson.WellFormed :=
  wellFormed_record (by simp [WellFormed.integer])

lemma Bookmark.wellFormed_toJson (b : Bookmark) : b.toJson.WellFormed :=
  wellFormed_record (by simp [WellFormed.integer, wellFormed_text])

lemma Header.wellFormed_toJson (h : Header) : h.toJson.WellFormed :=
  wellFormed_record (by simp [wellFormed_text])

lemma FileData.wellFormed_toJson (data : FileData) : data.toJson.WellFormed :=
  wellFormed_record (by simp [WellFormed.integer])

lemma Record.wellFormed_toJson (r : Record) : r.toJson.WellFormed := by
  have hkillstreaks : (array (r.killstreaks.map (·.toJson))).WellFormed :=
    .array (List.forall_mem_map.2 fun k _ => k.wellFormed_toJson)
  have hbookmarks : (array (r.bookmarks.map (·.toJson))).WellFormed :=
    .array (List.forall_mem_map.2 fun b _ => b.wellFormed_toJson)
  refine wellFormed_record ?_
  cases r.header <;> cases r.fileData <;>
    simp [wellFormed_text, hkillstreaks, hbookmarks, Header.wellFormed_toJson,
      FileData.wellFormed_toJson]

/-- Records come back from a file that writes them down: from their serialized forms as they are
printed, and from any text of any of their forms, of which the serialized ones are some. -/
theorem Record.load_of_written {rs : List Record} (hfits : ∀ r ∈ rs, r.Fits) :
    List.Forall₂ IsForm rs (rs.map toJson) ∧
    (∀ disk path, disk.read path = .ok (pretty (.array (rs.map toJson))) →
      load disk path = .ok rs) ∧
    ∀ disk path text js, disk.read path = .ok text → Writes text.toList (.array js) →
      List.Forall₂ IsForm rs js → load disk path = .ok rs := by
  have hforms : List.Forall₂ IsForm rs (rs.map toJson) :=
    forall₂_map isForm_toJson rs
  have hwrites : Writes (pretty (.array (rs.map toJson))).toList (.array (rs.map toJson)) :=
    writes_prettyAt (.array (List.forall_mem_map.2 fun r _ => r.wellFormed_toJson)) 0
  exact ⟨hforms, fun disk path hread => load_eq_ok hfits hread hwrites hforms,
    fun disk path text js hread htext hjs => load_eq_ok hfits hread htext hjs⟩

/-- One record is an array without its last three fields, with a killstreak that is an array too;
the other is an object out of order, with an unknown member, a null and a header that is an
array. -/
theorem Record.load_of_written_mixed_forms :
    load ⟨[(["r.json"], .file ⟨.text (pretty (.array [
        .array [.text "a\"\n", .array [.array [.integer 5, .integer (-1)]]],
        .record [("seen", .array []), ("filedata", .null), ("header", .array [.text "cp"]),
          ("name", .text "")]])), 0⟩)], 0⟩ "r.json" =
      .ok [⟨"a\"\n", [⟨5, -1⟩], [], none, none⟩, ⟨"", [], [], some ⟨"cp", "", ""⟩, none⟩] := by
  have hfits : ∀ r ∈ [Record.mk "a\"\n" [⟨5, -1⟩] [] none none,
      ⟨"", [], [], some ⟨"cp", "", ""⟩, none⟩], r.Fits := by
    refine List.forall_mem_cons.2 ⟨?_, List.forall_mem_singleton.2 ?_⟩
    all_goals exact ⟨by decide, by decide, by simp⟩
  have hkillstreak : Killstreak.IsForm ⟨5, -1⟩ (.array [.integer 5, .integer (-1)]) :=
    @IsStructure.array _ [_, _] 0 (.cons (Given.value rfl) (.cons (Given.value rfl) .nil))
  have hpositional : IsForm ⟨"a\"\n", [⟨5, -1⟩], [], none, none⟩
      (.array [.text "a\"\n", .array [.array [.integer 5, .integer (-1)]]]) :=
    @IsStructure.array _ [_, _] 3 (.cons (Given.value rfl)
      (.cons (Given.value (.array (.cons hkillstreak .nil)))
        (.cons (Given.leftOut rfl) (.cons (Given.leftOut rfl) (.cons (Given.leftOut rfl) .nil)))))
  have hheader : Header.IsForm ⟨"cp", "", ""⟩ (.array [.text "cp"]) :=
    @IsStructure.array _ [_] 2
      (.cons (Given.value rfl) (.cons (Given.leftOut rfl) (.cons (Given.leftOut rfl) .nil)))
  let members : List (String × Json) :=
    [("name", .text ""), ("header", .array [.text "cp"]), ("filedata", .null), ("seen", .array [])]
  have hnamed : IsForm ⟨"", [], [], some ⟨"cp", "", ""⟩, none⟩
      (.record [("seen", .array []), ("filedata", .null), ("header", .array [.text "cp"]),
        ("name", .text "")]) :=
    @IsStructure.object _ [_, none, none, _, _] [("seen", .array [])] _
      (.cons (Given.value rfl) (.cons (Given.leftOut rfl) (.cons (Given.leftOut rfl)
        (.cons (Given.value (.value hheader)) (.cons (Given.value .null) .nil)))))
      (by simp) (List.reverse_perm members)
  have htext : (array [
      .array [.text "a\"\n", .array [.array [.integer 5, .integer (-1)]]],
      .record [("seen", .array []), ("filedata", .null), ("header", .array [.text "cp"]),
        ("name", .text "")]]).WellFormed := by
    have hinteger : ∀ n, (integer n).WellFormed := .integer
    have harray : ∀ items, (∀ i ∈ items, i.WellFormed) → (array items).WellFormed :=
      fun _ => .array
    refine harray _ (List.forall_mem_cons.2 ⟨harray _ ?_, List.forall_mem_singleton.2
      (wellFormed_record ?_)⟩)
    all_goals simp [wellFormed_text, hinteger, harray, WellFormed.null]
  exact (load_of_written hfits).2.2 _ _ _ _ rfl (writes_prettyAt htext 0)
    (.cons hpositional (.cons hnamed .nil))

end DemoQuery
