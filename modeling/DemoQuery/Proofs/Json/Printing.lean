import DemoQuery.Json
import DemoQuery.Proofs.Json.Reading

/-!
# Printed JSON is read back

A printed value is a text of the grammar that writes down the value: the characters of a text are
escaped so that its literal ends where the text does, and items and members stand on lines of their
own with commas between them.
-/

namespace DemoQuery.Json

open Text

variable {j : Json} {level : Nat}

/-- The numbers of a value that are no whole numbers are written as numbers are. -/
inductive WellFormed : Json → Prop
  | null : WellFormed .null
  | bool (b : Bool) : WellFormed (.bool b)
  | integer (n : Int) : WellFormed (.integer n)
  | decimal {literal : String} (h : IsNumber literal.toList (.decimal literal)) :
      WellFormed (.decimal literal)
  | string (s : JsonString) : WellFormed (.string s)
  | array {items : List Json} (h : ∀ i ∈ items, WellFormed i) : WellFormed (.array items)
  | object {members : List (JsonString × Json)} (h : ∀ m ∈ members, WellFormed m.2) :
      WellFormed (.object members)

lemma wellFormed_text (s : String) : (text s).WellFormed :=
  .string (some s)

lemma wellFormed_texts (ss : List String) : (texts ss).WellFormed :=
  .array (List.forall_mem_map.2 fun s _ => wellFormed_text s)

lemma wellFormed_record {members : List (String × Json)} (h : ∀ m ∈ members, m.2.WellFormed) :
    (record members).WellFormed :=
  .object (List.forall_mem_map.2 h)

/-! ### String literals -/

lemma unescape?_of_shortEscape? {c letter : Char} (h : shortEscape? c = some letter) :
    unescape? letter = some c := by
  unfold shortEscape? at h
  split at h <;> cases h <;> rfl

lemma Spells.append {cs ds : List Char} {ps qs : List Piece} (hc : Spells cs ps)
    (hd : Spells ds qs) : Spells (cs ++ ds) (ps ++ qs) := by
  induction hc with
  | nil => exact hd
  | char hcontrol hquote hbackslash _ ih => exact .char hcontrol hquote hbackslash ih
  | short hletter _ ih => exact .short hletter ih
  | unit hunit _ ih => exact .unit hunit ih

lemma ofUnit_toNat {c : Char} (h : c.toNat < 128) : Piece.ofUnit c.toNat = .char c := by
  have hhalf : (isHighHalf c.toNat || isLowHalf c.toNat) = false := by
    simp [isHighHalf, isLowHalf]
    omega
  rw [Piece.ofUnit, hhalf, Char.ofNat_toNat]
  rfl

lemma spells_escapeChar (c : Char) : Spells (escapeChar c) [.char c] := by
  unfold escapeChar
  split
  · next letter h => exact .short (unescape?_of_shortEscape? h) .nil
  · next h =>
    split
    · next hcontrol =>
      have hlt : c.toNat < 128 := lt_trans (Char.lt_def.1 hcontrol) (by decide)
      have hunit := Spells.unit (readBase?_of_lt hlt) .nil
      rwa [ofUnit_toNat hlt] at hunit
    · next hcontrol =>
      refine .char hcontrol ?_ ?_ .nil
      all_goals
        rintro rfl
        cases h

lemma spells_flatMap_escapeChar (cs : List Char) :
    Spells (cs.flatMap escapeChar) (cs.map .char) := by
  induction cs with
  | nil => exact .nil
  | cons c cs ih => exact (spells_escapeChar c).append ih

lemma joins_map_char (cs : List Char) : Joins (cs.map .char) cs := by
  induction cs with
  | nil => exact .nil
  | cons c cs ih => exact .char c ih

lemma isLiteral_quote (s : String) : IsLiteral (quote s).toList (some s) := by
  have h := IsLiteral.text (spells_flatMap_escapeChar s.toList) (joins_map_char s.toList)
  rw [quote, String.toList_ofList]
  rwa [String.ofList_toList] at h

/-- Half of a surrogate pair is no text. -/
lemma isLiteral_quoteString (s : JsonString) : IsLiteral (quoteString s).toList s := by
  cases s with
  | some s => exact isLiteral_quote s
  | none =>
    have hunit : readBase? 16 ['d', '8', '0', '0'] = some 0xd800 := by decide
    have hspells : Spells ['\\', 'u', 'd', '8', '0', '0'] [.half 0xd800] := .unit hunit .nil
    refine .noText hspells ?_
    rintro _ ⟨⟩

/-! ### Numbers -/

lemma isWhole_toDigits (n : Nat) : IsWhole (Nat.toDigits 10 n) where
  digits  := isDigits_toDigits n
  no_zero := toDigits_of_head?_eq

/-- A whole number is written as numbers are. -/
lemma isNumber_ofInteger (n : Int) : IsNumber (ofInteger n).toList (.integer n) := by
  cases n with
  | ofNat n =>
    rw [toList_ofInteger_ofNat]
    have h := IsNumber.natural (isWhole_toDigits n)
    rwa [placeValue_toDigits] at h
  | negSucc n =>
    rw [toList_ofInteger_negSucc]
    have h := IsNumber.negative (isWhole_toDigits (n + 1)) (by simp [placeValue_toDigits])
    rwa [placeValue_toDigits] at h

/-! ### Lines -/

/-- What stands in front of a line of a level. -/
def lineStart (level : Nat) : List Char :=
  '\n' :: (indentation level).toList

lemma isRun_lineStart (level : Nat) : IsRun isBlank (lineStart level) := by
  rw [lineStart, indentation, String.toList_ofList]
  exact .cons (by decide) (isRun_replicate (by decide) _)

/-- A line feed in front of lines with commas and line feeds between them starts each line. -/
lemma toList_lines {lines : List String} (hne : lines ≠ []) :
    '\n' :: (",\n".intercalate (lines.map (indentation level ++ ·))).toList =
      [','].intercalate (lines.map fun line => lineStart level ++ line.toList) := by
  rw [String.toList_intercalate]
  induction lines with
  | nil => exact absurd rfl hne
  | cons line lines ih =>
    cases lines with
    | nil => simp [lineStart]
    | cons line' lines =>
      have hrest := ih (by simp)
      simp only [List.map_cons, List.intercalate_cons_cons] at hrest ⊢
      rw [← hrest]
      simp [lineStart]

/-- Between the brackets stand the lines with commas between them, and blanks. -/
lemma exists_toList_block (level : Nat) (opening closing : String) (lines : List String) :
    ∃ after, IsRun isBlank after ∧ (block level opening closing lines).toList = opening.toList ++
      ([','].intercalate (lines.map fun line => lineStart (level + 1) ++ line.toList) ++
        after ++ closing.toList) := by
  by_cases hne : lines = []
  · subst hne
    exact ⟨[], isRun_nil, by simp [block]⟩
  · refine ⟨lineStart level, isRun_lineStart level, ?_⟩
    rw [← toList_lines hne]
    simp [block, lineStart]

/-- The line of a member. -/
def memberLine (level : Nat) (m : JsonString × Json) : String :=
  quoteString m.1 ++ ": " ++ prettyAt level m.2

lemma prettyItems_eq_map (level : Nat) (items : List Json) :
    prettyItems level items = items.map (prettyAt level) := by
  induction items with
  | nil => rw [prettyItems, List.map_nil]
  | cons item items ih => rw [prettyItems, ih, List.map_cons]

lemma prettyMembers_eq_map (level : Nat) (members : List (JsonString × Json)) :
    prettyMembers level members = members.map (memberLine level) := by
  induction members with
  | nil => rw [prettyMembers, List.map_nil]
  | cons m members ih => rw [prettyMembers, ih, List.map_cons, memberLine]

/-! ### Values -/

/-- An item as it is printed on a line of its own. -/
def itemAt (level : Nat) (item : Json) : Item where
  text  := lineStart level ++ (prettyAt level item).toList
  value := item

/-- A member as it is printed on a line of its own. -/
def memberAt (level : Nat) (m : JsonString × Json) : Member where
  nameText  := lineStart level ++ (quoteString m.1).toList
  name      := m.1
  valueText := ' ' :: (prettyAt level m.2).toList
  value     := m.2

lemma Writes.behind {before cs : List Char} (h : Writes cs j) (hbefore : IsRun isBlank before) :
    Writes (before ++ cs) j := by
  have hall := Writes.blanks hbefore h isRun_nil
  rwa [List.append_nil] at hall

/-- A value is printed as a text of the grammar that writes it down, at any level. -/
lemma writes_prettyAt (h : j.WellFormed) (level : Nat) : Writes (prettyAt level j).toList j := by
  induction h generalizing level with
  | null =>
    rw [prettyAt]
    exact .null
  | bool b =>
    cases b
    · rw [prettyAt]
      exact .false
    · rw [prettyAt]
      exact .true
  | integer n =>
    rw [prettyAt]
    exact .number (isNumber_ofInteger n)
  | decimal h =>
    rw [prettyAt]
    exact .number h
  | string s =>
    rw [prettyAt]
    exact .string (isLiteral_quoteString s)
  | @array items _ ih =>
    obtain ⟨after, hafter, htext⟩ :=
      exists_toList_block level "[" "]" (items.map (prettyAt (level + 1)))
    have hitem : ∀ i ∈ items.map (itemAt (level + 1)), Writes i.text i.value := by
      rintro _ hmem
      obtain ⟨i, hi, rfl⟩ := List.mem_map.1 hmem
      exact (ih i hi (level + 1)).behind (isRun_lineStart _)
    have h := Writes.array hitem hafter
    rw [prettyAt, prettyItems_eq_map, htext]
    simpa [itemAt, Function.comp_def] using h
  | @object members _ ih =>
    obtain ⟨after, hafter, htext⟩ :=
      exists_toList_block level "\x7b" "\x7d" (members.map (memberLine (level + 1)))
    have hname : ∀ m ∈ members.map (memberAt (level + 1)), IsName m.nameText m.name := by
      rintro _ hmem
      obtain ⟨m, -, rfl⟩ := List.mem_map.1 hmem
      have h := IsName.mk (isRun_lineStart (level + 1)) (isLiteral_quoteString m.1) isRun_nil
      rwa [List.append_nil] at h
    have hvalue : ∀ m ∈ members.map (memberAt (level + 1)), Writes m.valueText m.value := by
      rintro _ hmem
      obtain ⟨m, hm, rfl⟩ := List.mem_map.1 hmem
      have hblank : IsRun isBlank [' '] := by decide
      exact (ih m hm (level + 1)).behind hblank
    have h := Writes.object hname hvalue hafter
    rw [prettyAt, prettyMembers_eq_map, htext]
    simpa [memberAt, memberLine, Member.text, Function.comp_def] using h

/-- A printed value is read back. -/
lemma parse?_pretty (h : j.WellFormed) : parse? (pretty j) = some j :=
  (writes_prettyAt h 0).parse?

end DemoQuery.Json
