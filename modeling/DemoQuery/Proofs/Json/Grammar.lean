import DemoQuery.Json.Reader
import DemoQuery.Proofs.Json.Literal

/-!
# The grammar of JSON

Which texts write down which value, whatever blanks stand between the parts and however characters
are escaped. A text of the grammar is read as its value: it is cut into the tokens of the value, and
these begin and complete the value wherever one may stand.
-/

namespace DemoQuery.Json

open Text

variable {cs ds rest : List Char} {ts us : List Token} {j : Json}

/-! ### The grammar -/

/-- An item of an array, with the text that it is written as. -/
structure Item where
  text  : List Char
  value : Json

/-- A member of an object, with the texts that its name and its value are written as. -/
structure Member where
  nameText  : List Char
  name      : JsonString
  valueText : List Char
  value     : Json

/-- The text of a member. -/
def Member.text (m : Member) : List Char :=
  m.nameText ++ ':' :: m.valueText

/-- A string literal among blanks. -/
inductive IsName : List Char → JsonString → Prop
  | mk {before cs after : List Char} {s : JsonString} (hbefore : IsRun isBlank before)
      (h : IsLiteral cs s) (hafter : IsRun isBlank after) : IsName (before ++ cs ++ after) s

/-- `Writes cs j`: the characters `cs` are a JSON text, and it writes down `j`. -/
inductive Writes : List Char → Json → Prop
  | blanks {before cs after : List Char} {j : Json} (hbefore : IsRun isBlank before)
      (h : Writes cs j) (hafter : IsRun isBlank after) : Writes (before ++ cs ++ after) j
  | null : Writes ['n', 'u', 'l', 'l'] .null
  | true : Writes ['t', 'r', 'u', 'e'] (.bool true)
  | false : Writes ['f', 'a', 'l', 's', 'e'] (.bool false)
  | number {cs : List Char} {j : Json} (h : IsNumber cs j) : Writes cs j
  | string {cs : List Char} {s : JsonString} (h : IsLiteral cs s) : Writes cs (.string s)
  | array {items : List Item} {after : List Char} (h : ∀ i ∈ items, Writes i.text i.value)
      (hafter : IsRun isBlank after) :
      Writes ('[' :: ([','].intercalate (items.map (·.text)) ++ after ++ [']']))
        (.array (items.map (·.value)))
  | object {members : List Member} {after : List Char}
      (hname : ∀ m ∈ members, IsName m.nameText m.name)
      (h : ∀ m ∈ members, Writes m.valueText m.value) (hafter : IsRun isBlank after) :
      Writes ('{' :: ([','].intercalate (members.map (·.text)) ++ after ++ ['}']))
        (.object (members.map fun m => (m.name, m.value)))

lemma sizeOf_lt_of_mem {m : JsonString × Json} {members : List (JsonString × Json)}
    (h : m ∈ members) : sizeOf m.2 < sizeOf members := by
  have hlist := List.sizeOf_lt_of_mem h
  have hpair : sizeOf m.2 < sizeOf m := by
    cases m
    simp only [Prod.mk.sizeOf_spec]
    omega
  omega

/-- The tokens of a value. -/
def tokens : Json → List Token
  | .string s       => [.string s]
  | .array items    => .openArray :: ([.comma].intercalate (items.map tokens) ++ [.closeArray])
  | .object members =>
    .openObject ::
      ([.comma].intercalate (members.map fun m => .string m.1 :: .colon :: m.2.tokens) ++
        [.closeObject])
  | j               => [.literal j]
termination_by j => j
decreasing_by
  · have := List.sizeOf_lt_of_mem ‹_›
    simp only [array.sizeOf_spec]
    omega
  · have := sizeOf_lt_of_mem ‹_›
    simp only [object.sizeOf_spec]
    omega

/-! ### Cutting a text into tokens -/

lemma not_isNumberChar_of_isBlank {c : Char} (h : isBlank c) : isNumberChar c = false := by
  simp only [isBlank, Bool.or_eq_true, beq_iff_eq] at h
  rcases h with ((rfl | rfl) | rfl) | rfl <;> decide

lemma tokens?_blanks_append {ws : List Char} (h : IsRun isBlank ws) (cs : List Char) :
    tokens? (ws ++ cs) = tokens? cs := by
  rw [tokens?, tokens?, List.dropWhile_append_of_pos h]

/-- A token that stands at the front of a text is the first of its tokens. -/
lemma tokens?_eq_map {t : Token} (h : token? cs = some (t, rest)) (hblank : StopsAt isBlank cs) :
    tokens? cs = (tokens? rest).map (t :: ·) := by
  rw [tokens?]
  split
  · next hnil =>
    rw [dropWhile_of_stopsAt hblank] at hnil
    subst hnil
    cases h
  · next c cs' hcons =>
    rw [dropWhile_of_stopsAt hblank] at hcons
    subst hcons
    split
    · next hnone => rw [hnone] at h; cases h
    · next t' rest' hsome =>
      rw [hsome] at h
      cases h
      rfl

/-- `Cuts cs ts`: the characters `cs` are cut into the tokens `ts`, whatever stands behind them that
does not go on with a number. -/
def Cuts (cs : List Char) (ts : List Token) : Prop :=
  ∀ rest, StopsAt isNumberChar rest → tokens? (cs ++ rest) = (tokens? rest).map (ts ++ ·)

lemma Cuts.of_token? {t : Token} (hblank : ∀ rest, StopsAt isBlank (cs ++ rest))
    (h : ∀ rest, StopsAt isNumberChar rest → token? (cs ++ rest) = some (t, rest)) :
    Cuts cs [t] := fun rest hrest =>
  tokens?_eq_map (h rest hrest) (hblank rest)

lemma Cuts.append (hc : Cuts cs ts) (hd : Cuts ds us)
    (hstop : ∀ rest, StopsAt isNumberChar rest → StopsAt isNumberChar (ds ++ rest)) :
    Cuts (cs ++ ds) (ts ++ us) := by
  intro rest hrest
  rw [List.append_assoc, hc _ (hstop rest hrest), hd rest hrest, Option.map_map]
  congr 1
  funext vs
  exact (List.append_assoc ts us vs).symm

/-- A token of one character is cut off whatever stands behind it. -/
lemma Cuts.cons {c : Char} {t : Token} (hblank : isBlank c = false)
    (h : ∀ rest, token? (c :: rest) = some (t, rest)) (hd : Cuts ds us) :
    Cuts (c :: ds) (t :: us) := by
  intro rest hrest
  rw [List.cons_append, tokens?_eq_map (h _) (stopsAt_cons.2 hblank), hd rest hrest,
    Option.map_map]
  rfl

lemma cuts_blanks {ws : List Char} (h : IsRun isBlank ws) : Cuts ws [] := by
  intro rest _
  rw [tokens?_blanks_append h]
  exact Option.map_id'.symm

lemma cuts_nil : Cuts [] [] :=
  cuts_blanks isRun_nil

lemma stopsAt_blanks_append {ws : List Char} (h : IsRun isBlank ws)
    (hrest : StopsAt isNumberChar rest) : StopsAt isNumberChar (ws ++ rest) := by
  cases ws with
  | nil => exact hrest
  | cons c ws => exact stopsAt_cons.2 (not_isNumberChar_of_isBlank (h c (by simp)))

/-- Blanks around a text add no token. -/
lemma Cuts.blanks {before after : List Char} (hbefore : IsRun isBlank before) (h : Cuts cs ts)
    (hafter : IsRun isBlank after) : Cuts (before ++ cs ++ after) ts := by
  have hfront : Cuts (before ++ cs) ts := by
    intro rest hrest
    rw [List.append_assoc, tokens?_blanks_append hbefore, h rest hrest]
  have hboth := hfront.append (cuts_blanks hafter) fun _ => stopsAt_blanks_append hafter
  rwa [List.append_nil] at hboth

/-- Texts with commas between them are cut into their tokens with commas between them. -/
lemma cuts_intercalate {α : Type} {text : α → List Char} {toks : α → List Token} {as : List α}
    (h : ∀ a ∈ as, Cuts (text a) (toks a)) :
    Cuts ([','].intercalate (as.map text)) ([.comma].intercalate (as.map toks)) := by
  induction as with
  | nil => exact cuts_nil
  | cons a as ih =>
    obtain ⟨ha, has⟩ := List.forall_mem_cons.1 h
    cases as with
    | nil => simpa using ha
    | cons b as =>
      have hbehind := (ih has).cons (c := ',') (by decide) fun _ => rfl
      have hboth := ha.append hbehind fun _ _ => stopsAt_cons.2 (by decide)
      simpa using hboth

lemma cuts_literal {s : JsonString} (h : IsLiteral cs s) : Cuts cs [.string s] := by
  refine .of_token? (fun rest => ?_) fun rest _ => h.token? rest
  cases h <;> exact stopsAt_cons.2 (by decide)

lemma cuts_name {s : JsonString} (h : IsName cs s) : Cuts cs [.string s] := by
  cases h with
  | mk hbefore h hafter => exact (cuts_literal h).blanks hbefore hafter

lemma cuts_number (h : IsNumber cs j) : Cuts cs [.literal j] := by
  refine .of_token? (fun rest => ?_) fun rest hrest => h.token? hrest
  obtain ⟨c, cs', rfl, hc⟩ := h.exists_cons
  refine stopsAt_cons.2 ?_
  by_contra hblank
  have hnumber := not_isNumberChar_of_isBlank (Bool.of_not_eq_false hblank)
  rcases hc with hc | rfl
  · simp [isNumberChar, hc] at hnumber
  · exact hblank (by decide)

/-- The tokens of a member. -/
def memberTokens (m : JsonString × Json) : List Token :=
  .string m.1 :: .colon :: m.2.tokens

lemma tokens_array (items : List Json) : (array items).tokens =
    .openArray :: ([.comma].intercalate (items.map tokens) ++ [.closeArray]) := by
  rw [tokens]

lemma tokens_object (members : List (JsonString × Json)) : (object members).tokens =
    .openObject :: ([.comma].intercalate (members.map memberTokens) ++ [.closeObject]) := by
  rw [tokens]
  rfl

/-- The text of a value is cut into the tokens of the value. -/
lemma Writes.cuts (h : Writes cs j) : Cuts cs j.tokens := by
  induction h with
  | blanks hbefore _ hafter ih => exact ih.blanks hbefore hafter
  | null =>
    rw [tokens.eq_def]
    exact .of_token? (fun _ => stopsAt_cons.2 (by decide)) fun _ _ => rfl
  | true =>
    rw [tokens.eq_def]
    exact .of_token? (fun _ => stopsAt_cons.2 (by decide)) fun _ _ => rfl
  | false =>
    rw [tokens.eq_def]
    exact .of_token? (fun _ => stopsAt_cons.2 (by decide)) fun _ _ => rfl
  | number h =>
    have hliteral : ∀ {cs j}, IsNumber cs j → j.tokens = [.literal j] := by
      intro cs j h
      cases h <;> simp [tokens]
    rw [hliteral h]
    exact cuts_number h
  | string h =>
    rw [tokens]
    exact cuts_literal h
  | @array items after _ hafter ih =>
    have hitems := (cuts_intercalate ih).append (cuts_blanks hafter) fun _ =>
      stopsAt_blanks_append hafter
    have hclosed := hitems.append (cuts_nil.cons (c := ']') (by decide) fun _ => rfl) fun _ _ =>
      stopsAt_cons.2 (by decide)
    have hall := hclosed.cons (c := '[') (by decide) fun _ => rfl
    simpa [tokens_array, Function.comp_def] using hall
  | @object members after hname _ hafter ih =>
    have hmember : ∀ m ∈ members, Cuts m.text (memberTokens (m.name, m.value)) := by
      intro m hm
      have hvalue := (ih m hm).cons (c := ':') (by decide) fun _ => rfl
      exact (cuts_name (hname m hm)).append hvalue fun _ _ => stopsAt_cons.2 (by decide)
    have hmembers := (cuts_intercalate hmember).append (cuts_blanks hafter) fun _ =>
      stopsAt_blanks_append hafter
    have hclosed := hmembers.append (cuts_nil.cons (c := '}') (by decide) fun _ => rfl) fun _ _ =>
      stopsAt_cons.2 (by decide)
    have hall := hclosed.cons (c := '{') (by decide) fun _ => rfl
    simpa [tokens_object, Function.comp_def] using hall

lemma Writes.tokens? (h : Writes cs j) : tokens? cs = some j.tokens := by
  have hcut := h.cuts [] stopsAt_nil
  have hnil : Json.tokens? [] = some [] := by
    rw [Json.tokens?]
    rfl
  rw [List.append_nil, hnil] at hcut
  simpa using hcut

end DemoQuery.Json
