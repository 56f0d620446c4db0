import DemoQuery.Proofs.Clause.Grammar
import DemoQuery.Proofs.Text.Escaped

/-!
# Reading values

The readers of values against the grammar. A value in quotes ends at the first quote
that no backslash takes along, so it is read whatever follows it. A value without quotes is read
up to the first character that is no key character.
-/

namespace DemoQuery

open Text Grammar

variable {q : Char} {cs text rest ws : List Char} {v : String} {vs : List String}

/-! ### Values in quotes -/

lemma quote_ne_backslash (hq : q = '"' ∨ q = '\'') : q ≠ '\\' := by
  rcases hq with rfl | rfl <;> decide

lemma readQuotedText?_quote (hq : q = '"' ∨ q = '\'') :
    readQuotedText? (q :: cs) = untilQuote q cs := by
  rcases hq with rfl | rfl <;> rfl

lemma untilQuote_quote (hq : q = '"' ∨ q = '\'') : untilQuote q (q :: cs) = some ([], cs) := by
  have hne := quote_ne_backslash hq
  unfold untilQuote
  split
  · next h => cases h
  · next h => exact absurd (List.cons.inj h).1 hne
  · next h =>
    obtain ⟨rfl, rfl⟩ := List.cons.inj h
    simp

lemma untilQuote_cons {c : Char} (hq : c ≠ q) (hc : c ≠ '\\') :
    untilQuote q (c :: cs) =
      (untilQuote q cs).map fun (text, rest) => (c :: text, rest) := by
  rw [untilQuote]
  · simp [hq]
  · exact fun _ _ h => absurd h hc

/-- What is found up to a quote can stand between quotes, with the value that it resolves to. -/
lemma quoted_of_untilQuote (h : untilQuote q cs = some (text, rest)) :
    Quoted q text (unescape text) ∧ cs = text ++ q :: rest := by
  fun_induction untilQuote q cs generalizing text with
  | case1 => simp at h
  | case2 c cs ih =>
    obtain ⟨⟨t, r⟩, ht, hr⟩ := Option.map_eq_some_iff.1 h
    obtain ⟨rfl, rfl⟩ := Prod.mk.inj hr
    obtain ⟨hquoted, rfl⟩ := ih ht
    refine ⟨?_, rfl⟩
    by_cases hc : isEscaped c
    · rw [unescape_pair hc]
      exact .escaped (isEscaped_iff.1 hc) hquoted
    · rw [unescape, if_neg hc]
      exact .pair (fun hc' => hc (isEscaped_iff.2 hc')) hquoted
  | case3 cs =>
    obtain ⟨rfl, rfl⟩ := Prod.mk.inj (Option.some.inj h)
    exact ⟨.nil, rfl⟩
  | case4 c cs hpair hc ih =>
    obtain ⟨⟨t, r⟩, ht, hr⟩ := Option.map_eq_some_iff.1 h
    obtain ⟨rfl, rfl⟩ := Prod.mk.inj hr
    obtain ⟨hquoted, rfl⟩ := ih ht
    have hslash : c ≠ '\\' := by
      -- a backslash would take the next character along, which the quote is at the latest
      intro hslash
      cases t with
      | nil => exact hpair _ _ hslash rfl
      | cons d t => exact hpair _ _ hslash rfl
    rw [unescape_cons hslash]
    exact ⟨.plain hc hslash hquoted, rfl⟩

/-- A text that can stand between quotes is found up to the closing one, whatever follows. -/
lemma untilQuote_of_quoted {vs : List Char} (hq : q = '"' ∨ q = '\'') (h : Quoted q text vs) :
    untilQuote q (text ++ q :: rest) = some (text, rest) := by
  induction h with
  | nil => exact untilQuote_quote hq
  | plain hcq hc _ ih => rw [List.cons_append, untilQuote_cons hcq hc, ih]; rfl
  | escaped _ _ ih => rw [List.cons_append, List.cons_append, untilQuote, ih]; rfl
  | pair _ _ ih => rw [List.cons_append, List.cons_append, untilQuote, ih]; rfl

/-- What stands between quotes resolves to its value. -/
lemma unescape_of_quoted {vs : List Char} (h : Quoted q text vs) : unescape text = vs := by
  induction h with
  | nil => rfl
  | plain _ hc _ ih => rw [unescape_cons hc, ih]
  | escaped hc _ ih => rw [unescape_pair (isEscaped_iff.2 hc), ih]
  | pair hc _ ih => rw [unescape, if_neg (fun h => hc (isEscaped_iff.1 h)), ih]

lemma quotedValue_of_readQuoted? (h : readQuoted? cs = some (v, rest)) :
    ∃ text, QuotedValue text v ∧ cs = text ++ rest := by
  obtain ⟨⟨t, r⟩, ht, hr⟩ := Option.map_eq_some_iff.1 h
  obtain ⟨rfl, rfl⟩ := Prod.mk.inj hr
  unfold readQuotedText? at ht
  split at ht
  · next cs =>
    obtain ⟨hquoted, rfl⟩ := quoted_of_untilQuote ht
    exact ⟨'"' :: t ++ ['"'], .mk (.inl rfl) hquoted, by simp⟩
  · next cs =>
    obtain ⟨hquoted, rfl⟩ := quoted_of_untilQuote ht
    exact ⟨'\'' :: t ++ ['\''], .mk (.inr rfl) hquoted, by simp⟩
  · simp at ht

lemma readQuoted?_of_quotedValue (h : QuotedValue text v) :
    readQuoted? (text ++ rest) = some (v, rest) := by
  cases h with
  | @mk q cs vs hq h =>
    have huntil : untilQuote q (cs ++ q :: rest) = some (cs, rest) := untilQuote_of_quoted hq h
    have hread : readQuotedText? (q :: (cs ++ q :: rest)) = some (cs, rest) :=
      (readQuotedText?_quote hq).trans huntil
    simp [readQuoted?, hread, unescape_of_quoted h]

/-! ### Values without quotes -/

lemma plainValue_of_readPlain? (h : readPlain? cs = some (v, rest)) :
    ∃ text, PlainValue text v ∧ cs = text ++ rest := by
  rw [readPlain?] at h
  split at h
  · simp at h
  · next hne =>
    obtain ⟨rfl, rfl⟩ := Prod.mk.inj (Option.some.inj h)
    exact ⟨cs.takeWhile isKeyChar, .mk hne isRun_takeWhile,
      List.takeWhile_append_dropWhile.symm⟩

lemma readPlain?_of_plainValue (h : PlainValue text v) (hr : StopsAt isKeyChar rest) :
    readPlain? (text ++ rest) = some (v, rest) := by
  cases h with
  | mk hne h =>
    rw [readPlain?]
    rw [takeWhile_run_append h hr, dropWhile_run_append h hr]
    cases text with
    | nil => exact absurd rfl hne
    | cons c cs => rfl

end DemoQuery
