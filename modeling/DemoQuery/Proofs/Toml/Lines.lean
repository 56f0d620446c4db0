import DemoQuery.Proofs.Toml.Quoted
import DemoQuery.Toml.Reader
import Mathlib.Data.List.Forall2

/-!
# Written lines are read back

A line with a pair of a key and a value, a line with a header and an empty line are read as what
they say, with the lines behind them left over.
-/

namespace DemoQuery.Toml

open Text

variable {key value rest : List Char} {v : Toml}

/-! ### Repetition -/

lemma readMany?_done {α : Type} {piece? : List Char → Option (Option α × List Char)}
    {cs : List Char} (h : piece? cs = some (none, rest)) :
    readMany? piece? cs = some ([], rest) := by
  rw [readMany?, h]

lemma readMany?_item {α : Type} {piece? : List Char → Option (Option α × List Char)}
    {cs : List Char} {item : α} (h : piece? cs = some (some item, rest))
    (hlength : rest.length < cs.length) :
    readMany? piece? cs =
      (readMany? piece? rest).map fun (items, rest) => (item :: items, rest) := by
  rw [readMany?, h]
  simp [hlength]

/-! ### Keys -/

/-- A key that is written without quotes. -/
structure IsBareKey (key : List Char) : Prop where
  ne_nil : key ≠ []
  isRun  : IsRun isBare key

instance : Decidable (IsBareKey key) :=
  decidable_of_iff (key ≠ [] ∧ IsRun isBare key) ⟨fun h => ⟨h.1, h.2⟩, fun h => ⟨h.1, h.2⟩⟩

lemma not_isSpace_of_isBare {c : Char} (h : isBare c) : isSpace c = false := by
  by_contra hspace
  rw [Bool.not_eq_false, isSpace, Bool.or_eq_true, beq_iff_eq, beq_iff_eq] at hspace
  rcases hspace with rfl | rfl <;> exact absurd h (by decide)

lemma IsBareKey.dropWhile_isSpace (hkey : IsBareKey key) (rest : List Char) :
    (key ++ rest).dropWhile isSpace = key ++ rest := by
  obtain ⟨c, cs, rfl⟩ := List.exists_cons_of_ne_nil hkey.ne_nil
  have hc : isBare c := hkey.isRun c (by simp)
  rw [List.cons_append, List.dropWhile_cons_of_neg (by simp [not_isSpace_of_isBare hc])]

/-- A bare key starts with none of the marks that start something else. -/
lemma IsBareKey.append_ne_cons (hkey : IsBareKey key) {c : Char} (hc : isBare c = false)
    (rest : List Char) {ds : List Char} : key ++ rest ≠ c :: ds := by
  intro h
  obtain ⟨d, cs, rfl⟩ := List.exists_cons_of_ne_nil hkey.ne_nil
  have hd : isBare d := hkey.isRun d (by simp)
  obtain rfl := (List.cons.inj h).1
  exact absurd hd (by simp [hc])

lemma IsBareKey.keyPart? (hkey : IsBareKey key) (hrest : StopsAt isBare rest) :
    keyPart? (key ++ rest) = some (.ofList key, rest) := by
  have hne := hkey.ne_nil
  rw [Toml.keyPart?, hkey.dropWhile_isSpace]
  split
  · next h => exact absurd h (hkey.append_ne_cons (by decide) rest)
  · next h => exact absurd h (hkey.append_ne_cons (by decide) rest)
  · rw [takeWhile_run_append hkey.isRun hrest, dropWhile_run_append hkey.isRun hrest]
    split
    · contradiction
    · rfl

/-- A bare key is read up to the mark behind it. -/
lemma IsBareKey.key? (hkey : IsBareKey key) (hrest : StopsAt isBare rest)
    (hdot : ∀ ds, rest.dropWhile isSpace ≠ '.' :: ds) :
    key? (key ++ rest) = some ([.ofList key], rest.dropWhile isSpace) := by
  have hpart : furtherKeyPart? rest = some (none, rest.dropWhile isSpace) := by
    rw [furtherKeyPart?]
    split
    · next h => exact absurd h (hdot _)
    · rfl
  rw [Toml.key?, hkey.keyPart? hrest]
  simp [readMany?_done hpart, tooManyKeyParts]

/-! ### Values -/

/-- A text on one line that is read as the value `v`, which is no array and no table. -/
structure IsScalar (value : List Char) (v : Toml) : Prop where
  start : ∃ c cs, value = c :: cs ∧ isSpace c = false ∧ c ≠ '[' ∧ c ≠ '{'
  read  : ∀ rest, scalar? (value ++ '\n' :: rest) = some (v, '\n' :: rest)

lemma isScalar_quote (s : String) : IsScalar (quote s).toList (.string s) where
  start := ⟨'"', s.toList.flatMap escapeChar ++ ['"'], by simp [quote], by decide, by decide,
    by decide⟩
  read rest := by
    have hstring : string? ((quote s).toList ++ '\n' :: rest) = some (s, '\n' :: rest) :=
      string?_quote s (stopsAt_cons.2 (by decide))
    rw [scalar?.eq_3, hstring]
    · simp [quote]
    · simp [quote]

lemma isScalar_booleanWord (b : Bool) : IsScalar (booleanWord b).toList (.boolean b) := by
  cases b with
  | false => exact ⟨⟨'f', _, rfl, by decide, by decide, by decide⟩, fun _ => rfl⟩
  | true => exact ⟨⟨'t', _, rfl, by decide, by decide, by decide⟩, fun _ => rfl⟩

/-- A digit in front of a line end is a number and no date. -/
lemma isScalar_one : IsScalar ['1'] (.integer 1) where
  start := ⟨'1', [], rfl, by decide, by decide, by decide⟩
  read rest := by
    rfl

lemma IsScalar.value? (h : IsScalar value v) (depth : Nat) (rest : List Char) :
    value? depth (value ++ '\n' :: rest) = some (v, '\n' :: rest) := by
  obtain ⟨c, cs, rfl, -, hbracket, hbrace⟩ := h.start
  rw [← h.read rest]
  cases depth with
  | zero => rfl
  | succ depth =>
    rw [List.cons_append, Toml.value?.eq_3]
    · simp [hbracket]
    · simp [hbrace]

/-! ### Lines -/

lemma endOfLine?_newline : endOfLine? ('\n' :: rest) = some rest := rfl

lemma line?_nil : line? [] = some (none, []) := rfl

lemma line?_newline : line? ('\n' :: rest) = some (some [], rest) := rfl

/-- What starts with a bare key is no line end and no comment. -/
lemma IsBareKey.endOfLine? (hkey : IsBareKey key) (rest : List Char) :
    endOfLine? (key ++ rest) = none := by
  obtain ⟨c, cs, hcs⟩ := List.exists_cons_of_ne_nil hkey.ne_nil
  have hcomment : skipComment (key ++ rest) = key ++ rest := by
    unfold skipComment
    split
    · next h => exact absurd h (hkey.append_ne_cons (by decide) rest)
    · rfl
  rw [Toml.endOfLine?, hkey.dropWhile_isSpace, hcomment]
  split
  · next h => simp [hcs] at h
  · unfold newline?
    split
    · next h => exact absurd h (hkey.append_ne_cons (by decide) rest)
    · next h => exact absurd h (hkey.append_ne_cons (by decide) rest)
    · rfl

lemma IsBareKey.pair? (hkey : IsBareKey key) (hvalue : IsScalar value v) (depth : Nat)
    (rest : List Char) :
    pair? (value? depth) (key ++ ' ' :: '=' :: ' ' :: (value ++ '\n' :: rest)) =
      some (([.ofList key], v), '\n' :: rest) := by
  have hread := hvalue.value? depth rest
  obtain ⟨c, cs, rfl, hspace, -⟩ := hvalue.start
  rw [List.cons_append] at hread ⊢
  have hmark : Toml.key? (key ++ ' ' :: '=' :: ' ' :: c :: (cs ++ '\n' :: rest)) =
      some ([.ofList key], '=' :: ' ' :: c :: (cs ++ '\n' :: rest)) :=
    hkey.key? (stopsAt_cons.2 (by decide)) (by intro ds h; cases h)
  have hbehind : (' ' :: c :: (cs ++ '\n' :: rest)).dropWhile isSpace =
      c :: (cs ++ '\n' :: rest) := by
    rw [List.dropWhile_cons_of_pos (by decide), List.dropWhile_cons_of_neg (by simp [hspace])]
  simp [Toml.pair?, hmark, mark?, hbehind, hread]

/-- A line with a pair of a bare key and a scalar is read as this pair. -/
lemma line?_pair (hkey : IsBareKey key) (hvalue : IsScalar value v) (rest : List Char) :
    line? (key ++ ' ' :: '=' :: ' ' :: (value ++ '\n' :: rest)) =
      some (some [.pair [.ofList key] v], rest) := by
  rw [line?, hkey.dropWhile_isSpace]
  split
  · next h => simp [hkey.ne_nil] at h
  · rw [hkey.endOfLine?, statement?.eq_3]
    · simp [hkey.pair? hvalue, endOfLine?_newline]
    · intro ds
      exact hkey.append_ne_cons (by decide) _
    · intro ds
      exact hkey.append_ne_cons (by decide) _

/-- A line with a header of a bare key is read as this header. -/
lemma line?_header (hkey : IsBareKey key) (rest : List Char) :
    line? ('[' :: (key ++ ']' :: '\n' :: rest)) = some (some [.header [.ofList key]], rest) := by
  have hmark : key? (key ++ ']' :: '\n' :: rest) = some ([.ofList key], ']' :: '\n' :: rest) :=
    hkey.key? (stopsAt_cons.2 (by decide)) (by intro ds h; cases h)
  have hend : endOfLine? ('[' :: (key ++ ']' :: '\n' :: rest)) = none := rfl
  rw [line?, List.dropWhile_cons_of_neg (by decide)]
  simp only [hend]
  rw [statement?.eq_2 _ fun ds => hkey.append_ne_cons (by decide) _]
  simp [hmark, mark?, endOfLine?_newline]

/-! ### Documents -/

/-- A line, with the end of it, that is read as some statements. -/
structure IsLine (line : String) (statements : List Statement) : Prop where
  ne_nil : line.toList ≠ []
  read   : ∀ rest, line? (line.toList ++ rest) = some (some statements, rest)

lemma isLine_blank : IsLine "\n" [] :=
  ⟨by decide, fun _ => line?_newline⟩

lemma isLine_pair {key value : String} (hkey : IsBareKey key.toList)
    (hvalue : IsScalar value.toList v) : IsLine (pairLine key value) [.pair [key] v] where
  ne_nil := by simp [pairLine]
  read rest := by
    have hline : (pairLine key value).toList ++ rest =
        key.toList ++ ' ' :: '=' :: ' ' :: (value.toList ++ '\n' :: rest) := by
      simp [pairLine]
    rw [hline, line?_pair hkey hvalue, String.ofList_toList]

lemma isLine_header {key : String} (hkey : IsBareKey key.toList) :
    IsLine (headerLine key) [.header [key]] where
  ne_nil := by simp [headerLine]
  read rest := by
    have hline : (headerLine key).toList ++ rest =
        '[' :: (key.toList ++ ']' :: '\n' :: rest) := by
      simp [headerLine]
    rw [hline, line?_header hkey, String.ofList_toList]

/-- Lines one behind the other are read as their statements. -/
lemma readMany?_lines {lines : List String} {statements : List (List Statement)}
    (h : List.Forall₂ IsLine lines statements) :
    readMany? line? (String.join lines).toList = some (statements, []) := by
  induction h with
  | nil => exact readMany?_done line?_nil
  | @cons line here lines statements hline _ ih =>
    have hlength := List.length_pos_iff.2 hline.ne_nil
    rw [String.join_cons, String.toList_append, readMany?_item (hline.read _) (by simp; omega), ih]
    rfl

lemma statements?_lines {lines : List String} {statements : List (List Statement)}
    (h : List.Forall₂ IsLine lines statements) :
    statements? (String.join lines).toList = some statements.flatten := by
  rw [statements?, readMany?_lines h]
  rfl

end DemoQuery.Toml
