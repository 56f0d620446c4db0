import DemoQuery.Proofs.Clause.Values

/-!
# Spans between quotes

A text between quotes is made of items: characters by themselves, and backslashes each with the
character that it takes along. The reader of quoted texts and the resolver of escaped ones take
texts apart independently, each from the left. On what stands between quotes they find the same
items, which are its only ones, and the first quote outside an item ends the span.
-/

namespace DemoQuery

open Text

/-! ### Items -/

namespace Grammar

/-- What a text between quotes is made of. -/
inductive Item where
  /-- A character by itself. -/
  | plain (c : Char)
  /-- A backslash and the character behind it. -/
  | pair (c : Char)
  /-- A backslash with nothing behind it. -/
  | lone
  deriving DecidableEq, Repr

/-- How an item is written. -/
def Item.text : Item → List Char
  | plain c => [c]
  | pair c  => ['\\', c]
  | lone    => ['\\']

/-- What an item resolves to. -/
def Item.value : Item → List Char
  | plain c => [c]
  | pair c  => if isEscaped c then [c] else ['\\', c]
  | lone    => ['\\']

/-- Whether an item can stand between two quotes `q`: any pair can, and any character but the quote
and the backslash. -/
def Item.Fits (q : Char) : Item → Prop
  | plain c => c ≠ q ∧ c ≠ '\\'
  | pair _  => True
  | lone    => False

/-- The text of some items. -/
def written (is : List Item) : List Char :=
  is.flatMap Item.text

/-- `Spans cs q is rest`: the text `cs` starts with the items `is` between two quotes `q`, behind
which `rest` is left. -/
structure Spans (cs : List Char) (q : Char) (is : List Item) (rest : List Char) : Prop where
  quote : q = '"' ∨ q = '\''
  fits  : ∀ i ∈ is, i.Fits q
  eq    : cs = q :: (written is ++ q :: rest)

end Grammar

open Grammar

variable {q q' c : Char} {cs text rest rest' : List Char} {is is' : List Item}

@[simp] lemma Grammar.written_nil : written [] = [] := rfl

@[simp] lemma Grammar.written_cons {i : Item} : written (i :: is) = i.text ++ written is := by
  simp [written]

@[simp] lemma Grammar.written_append : written (is ++ is') = written is ++ written is' := by
  simp [written]

/-! ### Taking texts apart -/

/-- The items up to the next quote `q`, as the reader forms them, and what follows the quote. -/
def itemsUntil (q : Char) : List Char → Option (List Item × List Char)
  | []              => none
  | '\\' :: c :: cs => (itemsUntil q cs).map fun (is, rest) => (.pair c :: is, rest)
  | c :: cs         =>
    if c = q then some ([], cs)
    else (itemsUntil q cs).map fun (is, rest) => (.plain c :: is, rest)

/-- The items of a text, as the resolver forms them. -/
def itemsOf : List Char → List Item
  | []              => []
  | ['\\']          => [.lone]
  | '\\' :: c :: cs => .pair c :: itemsOf cs
  | c :: cs         => .plain c :: itemsOf cs

/-- The reader of a quoted text reads the items that it forms. -/
lemma untilQuote_eq_map (q : Char) (cs : List Char) :
    untilQuote q cs = (itemsUntil q cs).map fun (is, rest) => (written is, rest) := by
  fun_induction itemsUntil q cs with
  | case1 => rfl
  | case2 c cs ih =>
    rw [untilQuote, ih, Option.map_map, Option.map_map]
    rfl
  | case3 cs hpair =>
    rw [untilQuote]
    · simp
    · exact hpair
  | case4 c cs hpair hc ih =>
    rw [untilQuote, if_neg hc, ih, Option.map_map, Option.map_map]
    · rfl
    · exact hpair

/-- The resolver resolves the items that it forms, each by itself. -/
lemma unescape_eq_flatMap (cs : List Char) : unescape cs = (itemsOf cs).flatMap Item.value := by
  fun_induction itemsOf cs with
  | case1 => rfl
  | case2 => rfl
  | case3 c cs ih =>
    rw [unescape, ih, List.flatMap_cons, Item.value]
    split <;> rfl
  | case4 c cs hlone hpair ih =>
    have hc : c ≠ '\\' := by
      intro hc
      cases cs with
      | nil => exact hlone hc rfl
      | cons d ds => exact hpair d ds hc rfl
    rw [unescape_cons hc, ih]
    rfl

lemma itemsUntil_quote (hq : q = '"' ∨ q = '\'') : itemsUntil q (q :: cs) = some ([], cs) := by
  have hne := quote_ne_backslash hq
  rw [itemsUntil]
  · exact if_pos rfl
  · exact fun _ _ h => absurd h hne

/-- Items are formed one after the other, so no quote in one of them ends the span. -/
lemma itemsUntil_written_append (h : ∀ i ∈ is, i.Fits q) :
    itemsUntil q (written is ++ cs) =
      (itemsUntil q cs).map fun (is', rest) => (is ++ is', rest) := by
  induction is with
  | nil => simp
  | cons i is ih =>
    obtain ⟨hi, his⟩ := List.forall_mem_cons.1 h
    rw [written_cons, List.append_assoc]
    cases i with
    | plain c =>
      rw [Item.text, List.singleton_append, itemsUntil, if_neg hi.1, ih his, Option.map_map]
      · rfl
      · exact fun _ _ hc => absurd hc hi.2
    | pair c =>
      rw [Item.text, List.cons_append, List.singleton_append, itemsUntil, ih his, Option.map_map]
      rfl
    | lone => exact absurd hi id

/-- The items up to a quote fit, and they are found exactly where they stand before it. -/
lemma itemsUntil_eq_some_iff (hq : q = '"' ∨ q = '\'') :
    itemsUntil q cs = some (is, rest) ↔ (∀ i ∈ is, i.Fits q) ∧ cs = written is ++ q :: rest := by
  constructor
  · intro h
    fun_induction itemsUntil q cs generalizing is with
    | case1 => cases h
    | case2 c cs ih =>
      obtain ⟨⟨is', r⟩, hr, heq⟩ := Option.map_eq_some_iff.1 h
      obtain ⟨rfl, rfl⟩ := Prod.mk.inj heq
      obtain ⟨hfits, rfl⟩ := ih hr
      exact ⟨List.forall_mem_cons.2 ⟨trivial, hfits⟩, rfl⟩
    | case3 cs =>
      obtain ⟨rfl, rfl⟩ := Prod.mk.inj (Option.some.inj h)
      exact ⟨by simp, rfl⟩
    | case4 c cs hpair hc ih =>
      obtain ⟨⟨is', r⟩, hr, heq⟩ := Option.map_eq_some_iff.1 h
      obtain ⟨rfl, rfl⟩ := Prod.mk.inj heq
      obtain ⟨hfits, rfl⟩ := ih hr
      refine ⟨List.forall_mem_cons.2 ⟨⟨hc, fun hslash => ?_⟩, hfits⟩, rfl⟩
      -- a backslash would take the next character along, which the quote is at the latest
      obtain ⟨d, ds, hd⟩ := List.exists_cons_of_ne_nil
        (List.append_ne_nil_of_right_ne_nil (written is') (List.cons_ne_nil q r))
      exact hpair d ds hslash hd
  · rintro ⟨hfits, rfl⟩
    rw [itemsUntil_written_append hfits, itemsUntil_quote hq, Option.map_some]
    simp

/-- The resolver finds the items that stand between quotes. -/
lemma itemsOf_written (h : ∀ i ∈ is, i.Fits q) : itemsOf (written is) = is := by
  induction is with
  | nil => rfl
  | cons i is ih =>
    obtain ⟨hi, his⟩ := List.forall_mem_cons.1 h
    rw [written_cons]
    cases i with
    | plain c =>
      rw [Item.text, List.singleton_append, itemsOf, ih his]
      · exact fun hc _ => absurd hc hi.2
      · exact fun _ _ hc => absurd hc hi.2
    | pair c => rw [Item.text, List.cons_append, List.singleton_append, itemsOf, ih his]
    | lone => exact absurd hi id

lemma paired_written (h : ∀ i ∈ is, i.Fits q) : Paired (written is) := by
  induction is with
  | nil => exact .nil
  | cons i is ih =>
    obtain ⟨hi, his⟩ := List.forall_mem_cons.1 h
    rw [written_cons]
    cases i with
    | plain c => exact .plain hi.2 (ih his)
    | pair c => exact .pair (ih his)
    | lone => exact absurd hi id

/-! ### Reading spans -/

lemma exists_quote_of_readQuotedText? (h : readQuotedText? cs = some (text, rest)) :
    ∃ q cs', (q = '"' ∨ q = '\'') ∧ cs = q :: cs' := by
  unfold readQuotedText? at h
  split at h
  · exact ⟨_, _, .inl rfl, rfl⟩
  · exact ⟨_, _, .inr rfl, rfl⟩
  · cases h

lemma readQuotedText?_eq_some_iff : readQuotedText? cs = some (text, rest) ↔
    ∃ q is, Spans cs q is rest ∧ text = written is := by
  constructor
  · intro h
    obtain ⟨q, cs', hq, rfl⟩ := exists_quote_of_readQuotedText? h
    rw [readQuotedText?_quote hq, untilQuote_eq_map] at h
    obtain ⟨⟨is, r⟩, hr, heq⟩ := Option.map_eq_some_iff.1 h
    obtain ⟨rfl, rfl⟩ := Prod.mk.inj heq
    obtain ⟨hfits, rfl⟩ := (itemsUntil_eq_some_iff hq).1 hr
    exact ⟨q, is, ⟨hq, hfits, rfl⟩, rfl⟩
  · rintro ⟨q, is, ⟨hq, hfits, rfl⟩, rfl⟩
    rw [readQuotedText?_quote hq, untilQuote_eq_map, (itemsUntil_eq_some_iff hq).2 ⟨hfits, rfl⟩]
    rfl

/-- A text starts with one span at most. -/
lemma Grammar.Spans.unique (h : Spans cs q is rest) (h' : Spans cs q' is' rest') :
    q = q' ∧ is = is' ∧ rest = rest' := by
  obtain ⟨hq, hfits, rfl⟩ := h
  obtain ⟨-, hfits', heq⟩ := h'
  obtain ⟨rfl, heq'⟩ := List.cons.inj heq
  have hitems := (itemsUntil_eq_some_iff hq).2 ⟨hfits', heq'⟩
  rw [(itemsUntil_eq_some_iff hq).2 ⟨hfits, rfl⟩] at hitems
  obtain ⟨rfl, rfl⟩ := Prod.mk.inj (Option.some.inj hitems)
  exact ⟨rfl, rfl, rfl⟩

/-- A pair behind items of a span belongs to the span, also if it is a pair of a quote. -/
lemma Grammar.Spans.pair_prefix (h : Spans (q :: (written is ++ '\\' :: c :: cs)) q is' rest)
    (hfits : ∀ i ∈ is, i.Fits q) : is ++ [.pair c] <+: is' := by
  have hitems := (itemsUntil_eq_some_iff h.quote).2 ⟨h.fits, (List.cons.inj h.eq).2⟩
  have hpair : ∀ i ∈ is ++ [.pair c], i.Fits q := by
    intro i hi
    rcases List.mem_append.1 hi with hi | hi
    · exact hfits i hi
    · rw [List.mem_singleton.1 hi]
      trivial
  have hcs : written is ++ '\\' :: c :: cs = written (is ++ [.pair c]) ++ cs := by
    simp [Item.text]
  rw [hcs, itemsUntil_written_append hpair] at hitems
  obtain ⟨⟨is'', r⟩, -, heq⟩ := Option.map_eq_some_iff.1 hitems
  obtain ⟨rfl, -⟩ := Prod.mk.inj heq
  exact List.prefix_append _ _

/-- A quoted text is read exactly where a span starts, as the text of its items, and a text starts
with one span at most. The reader and the resolver form the same items of it, so it ends in no
backslash without a character behind it, and no quote behind a backslash ends it. -/
theorem readQuotedText?_reads_spans :
    (∀ cs text rest, readQuotedText? cs = some (text, rest) ↔
      ∃ q is, Spans cs q is rest ∧ text = written is) ∧
    (∀ cs q q' is is' rest rest', Spans cs q is rest → Spans cs q' is' rest' →
      q = q' ∧ is = is' ∧ rest = rest') ∧
    (∀ q cs, untilQuote q cs = (itemsUntil q cs).map fun (is, rest) => (written is, rest)) ∧
    (∀ cs, unescape cs = (itemsOf cs).flatMap Item.value) ∧
    (∀ cs q is rest, Spans cs q is rest →
      itemsUntil q cs.tail = some (is, rest) ∧ itemsOf (written is) = is ∧
        Paired (written is) ∧ Item.lone ∉ is) ∧
    ∀ q is c cs is' rest, (∀ i ∈ is, i.Fits q) →
      Spans (q :: (written is ++ '\\' :: c :: cs)) q is' rest → is ++ [.pair c] <+: is' := by
  refine ⟨fun _ _ _ => readQuotedText?_eq_some_iff, fun _ _ _ _ _ _ _ => Spans.unique,
    untilQuote_eq_map, unescape_eq_flatMap, ?_, fun _ _ _ _ _ _ hfits h => h.pair_prefix hfits⟩
  rintro _ q is rest ⟨hq, hfits, rfl⟩
  refine ⟨?_, itemsOf_written hfits, paired_written hfits, fun hlone => hfits _ hlone⟩
  exact (itemsUntil_eq_some_iff hq).2 ⟨hfits, rfl⟩

/-- A backslash of a pair in front of a pair of a quote, and one in front of the closing quote. -/
theorem readQuotedText?_reads_spans_backslashes :
    readQuotedText? "\"a\\\\\\\"'\\\\\" b\"".toList =
      some ("a\\\\\\\"'\\\\".toList, " b\"".toList) ∧
    itemsUntil '"' "a\\\\\\\"'\\\\\" b\"".toList =
      some ([.plain 'a', .pair '\\', .pair '"', .plain '\'', .pair '\\'], " b\"".toList) ∧
    itemsOf "a\\\\\\\"'\\\\".toList =
      [.plain 'a', .pair '\\', .pair '"', .plain '\'', .pair '\\'] ∧
    ∀ q is rest, Spans "\"a\\\\\\\"'\\\\\" b\"".toList q is rest →
      is = [.plain 'a', .pair '\\', .pair '"', .plain '\'', .pair '\\'] ∧ rest = " b\"".toList := by
  obtain ⟨hread, hunique, -, -, hitems, -⟩ := readQuotedText?_reads_spans
  have hspan : Spans "\"a\\\\\\\"'\\\\\" b\"".toList '"'
      [.plain 'a', .pair '\\', .pair '"', .plain '\'', .pair '\\'] " b\"".toList :=
    ⟨.inl rfl, by simp [Item.Fits], by decide⟩
  obtain ⟨huntil, hof, -⟩ := hitems _ _ _ _ hspan
  exact ⟨(hread _ _ _).2 ⟨_, _, hspan, by decide⟩, huntil, hof,
    fun q is rest h => (hunique _ _ _ _ _ _ _ h hspan).2⟩

end DemoQuery
