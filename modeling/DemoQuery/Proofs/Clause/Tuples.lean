import DemoQuery.Proofs.Clause.Values

/-!
# Reading tuples

The reader of tuples against the grammar, for both kinds of tuples at once: from what a kind reads
as one value it follows what it reads as a tuple.
-/

namespace DemoQuery

open Text Grammar

variable {kind : TupleKind} {value : List Char → String → Prop}
  {cs text behind rest ws ws' ts : List Char} {v : String} {vs : List String} {more : Bool}

/-! ### Key characters and blanks -/

lemma isBlank_of_isKeyChar {c : Char} (h : isKeyChar c) : isBlank c = false := by
  rw [← Bool.not_eq_true, isBlank_iff]
  rw [isKeyChar_iff] at h
  omega

lemma isKeyChar_of_isBlank {c : Char} (h : isBlank c) : isKeyChar c = false := by
  by_contra hk
  rw [isBlank_of_isKeyChar (Bool.of_not_eq_false hk)] at h
  cases h

/-- Blanks are followed by no key character if they are followed by none at once. -/
lemma stopsAt_blanks_append (hw : IsRun isBlank ws) (hr : StopsAt isKeyChar rest) :
    StopsAt isKeyChar (ws ++ rest) := by
  cases ws with
  | nil => exact hr
  | cons w ws => exact stopsAt_cons.2 (isKeyChar_of_isBlank (hw w (by simp)))

/-! ### One value -/

/-- A kind of tuple reads the texts of `value`, with their values, and nothing else. -/
structure TupleKind.Reads (kind : TupleKind) (value : List Char → String → Prop) : Prop where
  sound    : ∀ {cs v rest}, kind.value cs = some (v, rest) → ∃ text, value text v ∧ cs = text ++ rest
  complete : ∀ {text v rest}, value text v → StopsAt isKeyChar rest →
    kind.value (text ++ rest) = some (v, rest)
  start    : ∀ {text v}, value text v → ∃ c cs, text = c :: cs ∧ isBlank c = false ∧ c ≠ ')'

lemma TupleKind.quoted_reads : TupleKind.quoted.Reads QuotedValue where
  sound := quotedValue_of_readQuoted?
  complete h _ := readQuoted?_of_quotedValue h
  start h := by
    cases h with
    | @mk q cs vs hq _ => rcases hq with rfl | rfl <;> exact ⟨_, _, rfl, by decide, by decide⟩

lemma TupleKind.plain_reads : TupleKind.plain.Reads PlainValue where
  sound := plainValue_of_readPlain?
  complete := readPlain?_of_plainValue
  start h := by
    cases h with
    | mk hne h =>
      obtain ⟨c, cs, rfl⟩ := List.exists_cons_of_ne_nil hne
      have hc := h c (by simp)
      exact ⟨c, cs, rfl, isBlank_of_isKeyChar hc, by rintro rfl; exact absurd hc (by decide)⟩

/-! ### Behind a value -/

/-- What follows a value of a tuple: the end of the tuple, a comma and the end where the kind has
them, or a comma and more values. -/
inductive TupleKind.Next (kind : TupleKind) : List Char → Bool → List Char → Prop
  | close {ws rest : List Char} (hw : IsRun isBlank ws) :
      Next kind (ws ++ ')' :: rest) false rest
  | comma {ws ws' rest : List Char} (ht : kind.trailingComma) (hw : IsRun isBlank ws)
      (hw' : IsRun isBlank ws') : Next kind (ws ++ ',' :: ws' ++ ')' :: rest) false rest
  | more {ws ws' rest : List Char} (hw : IsRun isBlank ws) (hw' : IsRun isBlank ws') :
      Next kind (ws ++ ',' :: ws' ++ rest) true rest

lemma TupleKind.next_of_next? (h : kind.next? cs = some (more, rest)) :
    kind.Next cs more rest := by
  obtain ⟨ws, hw, hcs⟩ := exists_blanks cs
  rw [hcs]
  rw [next?] at h
  split at h
  · next r hr =>
    obtain ⟨rfl, rfl⟩ := Prod.mk.inj (Option.some.inj h)
    rw [hr]
    exact .close hw
  · next r hr =>
    obtain ⟨ws', hw', hrest⟩ := exists_blanks r
    rw [hr, hrest, ← List.cons_append, ← List.append_assoc]
    split at h
    · next r' ht hr' =>
      obtain ⟨rfl, rfl⟩ := Prod.mk.inj (Option.some.inj h)
      rw [hr']
      exact .comma ht hw hw'
    · obtain ⟨rfl, rfl⟩ := Prod.mk.inj (Option.some.inj h)
      exact .more hw hw'
  · simp at h

lemma TupleKind.next?_close (hw : IsRun isBlank ws) :
    kind.next? (ws ++ ')' :: rest) = some (false, rest) := by
  have hskip : skipBlanks (ws ++ ')' :: rest) = ')' :: rest :=
    skipBlanks_append hw (stopsAt_cons.2 (by decide))
  simp only [next?, hskip]

lemma stopsAt_comma : StopsAt isKeyChar (',' :: cs) :=
  stopsAt_cons.2 (by decide)

lemma skipBlanks_comma (hw : IsRun isBlank ws) : skipBlanks (ws ++ ',' :: cs) = ',' :: cs :=
  skipBlanks_append hw (stopsAt_cons.2 (by decide))

lemma TupleKind.next?_comma (ht : kind.trailingComma) (hw : IsRun isBlank ws)
    (hw' : IsRun isBlank ws') :
    kind.next? (ws ++ ',' :: (ws' ++ ')' :: rest)) = some (false, rest) := by
  have hskip : skipBlanks (ws' ++ ')' :: rest) = ')' :: rest :=
    skipBlanks_append hw' (stopsAt_cons.2 (by decide))
  simp only [next?, skipBlanks_comma hw, hskip, ht]

lemma TupleKind.next?_more {c : Char} (hw : IsRun isBlank ws) (hw' : IsRun isBlank ws')
    (hb : isBlank c = false) (hc : c ≠ ')') :
    kind.next? (ws ++ ',' :: (ws' ++ c :: cs)) = some (true, c :: cs) := by
  have hskip : skipBlanks (ws' ++ c :: cs) = c :: cs :=
    skipBlanks_append hw' (stopsAt_cons.2 hb)
  simp only [next?, skipBlanks_comma hw, hskip]
  split
  · next h => exact absurd (List.cons.inj h).1 hc
  · rfl

/-! ### All values -/

lemma TupleKind.values_last (hv : kind.value (skipBlanks cs) = some (v, behind))
    (hn : kind.next? behind = some (false, rest)) : kind.values cs = some ([v], rest) := by
  rw [values]
  split
  · next hnone => rw [hv] at hnone; cases hnone
  · next hsome =>
    obtain ⟨rfl, rfl⟩ := Prod.mk.inj (Option.some.inj (hv.symm.trans hsome))
    split
    · next hnone => rw [hn] at hnone; cases hnone
    · next hlast =>
      obtain ⟨-, rfl⟩ := Prod.mk.inj (Option.some.inj (hn.symm.trans hlast))
      rfl
    · next hmore => rw [hn] at hmore; cases hmore

lemma TupleKind.values_more {rest' : List Char}
    (hv : kind.value (skipBlanks cs) = some (v, behind))
    (hn : kind.next? behind = some (true, rest')) :
    kind.values cs = (kind.values rest').map fun (vs, rest) => (v :: vs, rest) := by
  rw [values]
  split
  · next hnone => rw [hv] at hnone; cases hnone
  · next hsome =>
    obtain ⟨rfl, rfl⟩ := Prod.mk.inj (Option.some.inj (hv.symm.trans hsome))
    split
    · next hnone => rw [hn] at hnone; cases hnone
    · next hlast => rw [hn] at hlast; cases hlast
    · next hmore =>
      obtain ⟨-, rfl⟩ := Prod.mk.inj (Option.some.inj (hn.symm.trans hmore))
      rfl

/-- What may stand between the last value of a tuple and its end. -/
inductive TupleKind.Tail (kind : TupleKind) : List Char → Prop
  | nothing : Tail kind []
  | comma {ws : List Char} (ht : kind.trailingComma) (hw : IsRun isBlank ws) :
      Tail kind (',' :: ws)

lemma TupleKind.Reads.sound_values (h : kind.Reads value)
    (hvs : kind.values cs = some (vs, rest)) :
    ∃ ws body ws' ts, IsRun isBlank ws ∧ Values value body vs ∧ IsRun isBlank ws' ∧
      kind.Tail ts ∧ cs = ws ++ body ++ ws' ++ ts ++ ')' :: rest := by
  fun_induction TupleKind.values kind cs generalizing vs with
  | case1 => simp at hvs
  | case2 => simp at hvs
  | case3 cs v behind hv r hn =>
    obtain ⟨rfl, rfl⟩ := Prod.mk.inj (Option.some.inj hvs)
    obtain ⟨ws, hw, hcs⟩ := exists_blanks cs
    obtain ⟨text, htext, hskip⟩ := h.sound hv
    rw [hcs, hskip]
    cases next_of_next? hn with
    | @close ws' r hw' =>
      exact ⟨ws, text, ws', [], hw, .last htext, hw', .nothing, by simp⟩
    | @comma ws' ws'' r ht hw' hw'' =>
      exact ⟨ws, text, ws', ',' :: ws'', hw, .last htext, hw', .comma ht hw'', by simp⟩
  | case4 cs v behind hv r hn ih =>
    obtain ⟨⟨vs', r'⟩, hr, heq⟩ := Option.map_eq_some_iff.1 hvs
    obtain ⟨rfl, rfl⟩ := Prod.mk.inj heq
    obtain ⟨ws, hw, hcs⟩ := exists_blanks cs
    obtain ⟨text, htext, hskip⟩ := h.sound hv
    obtain ⟨ws₁, body, ws', ts, hw₁, hbody, hw', hts, rfl⟩ := ih hr
    rw [hcs, hskip]
    cases next_of_next? hn with
    | @more ws₂ ws₃ _ hw₂ hw₃ =>
      -- both readers skip blanks behind a comma, which the grammar has as one run
      exact ⟨ws, _, ws', ts, hw, .more htext hw₂ (hw₃.append hw₁) hbody, hw', hts, by simp⟩

/-- Behind the last value, the end of the tuple is found. -/
lemma TupleKind.Tail.next? (h : kind.Tail ts) (hw : IsRun isBlank ws) :
    kind.next? (ws ++ (ts ++ ')' :: rest)) = some (false, rest) := by
  cases h with
  | nothing => exact next?_close hw
  | comma ht hw' => exact next?_comma ht hw hw'

lemma TupleKind.Tail.stopsAt (h : kind.Tail ts) : StopsAt isKeyChar (ts ++ ')' :: rest) := by
  cases h with
  | nothing => exact stopsAt_cons.2 (by decide)
  | comma _ _ => exact stopsAt_cons.2 (by decide)

/-- Values start with a value. -/
lemma Grammar.Values.exists_first (h : Values value cs vs) :
    ∃ text v ds, value text v ∧ cs = text ++ ds := by
  cases h with
  | last hv => exact ⟨_, _, [], hv, (List.append_nil _).symm⟩
  | @more text ws ws' ds v _ hv _ _ _ =>
    exact ⟨text, v, ws ++ (',' :: ws' ++ ds), hv, by rw [List.append_assoc, List.append_assoc]⟩

lemma TupleKind.Reads.start_values (h : kind.Reads value) (hvs : Values value cs vs) :
    ∃ c ds, cs = c :: ds ∧ isBlank c = false ∧ c ≠ ')' := by
  obtain ⟨text, v, ds, hv, rfl⟩ := hvs.exists_first
  obtain ⟨c, ds', rfl, hb, hc⟩ := h.start hv
  exact ⟨c, _, rfl, hb, hc⟩

/-- A value is read behind blanks if no key character follows it. -/
lemma TupleKind.Reads.complete_value (h : kind.Reads value) (hv : value text v)
    (hw : IsRun isBlank ws) (hr : StopsAt isKeyChar rest) :
    kind.value (skipBlanks (ws ++ (text ++ rest))) = some (v, rest) := by
  obtain ⟨c, ds, rfl, hb, -⟩ := h.start hv
  have hskip : skipBlanks (ws ++ (c :: ds ++ rest)) = c :: ds ++ rest :=
    skipBlanks_append hw (stopsAt_cons.2 hb)
  rw [hskip]
  exact h.complete hv hr

lemma TupleKind.Reads.complete_values (h : kind.Reads value) (hvs : Values value cs vs)
    (hw : IsRun isBlank ws) (hw' : IsRun isBlank ws') (hts : kind.Tail ts) :
    kind.values (ws ++ (cs ++ (ws' ++ (ts ++ ')' :: rest)))) = some (vs, rest) := by
  induction hvs generalizing ws with
  | last hv =>
    refine values_last (h.complete_value hv hw ?_) (hts.next? hw')
    exact stopsAt_blanks_append hw' hts.stopsAt
  | @more cs ws₁ ws₂ ds v vs hv hw₁ hw₂ hs ih =>
    obtain ⟨c, ds', rfl, hb, hc⟩ := h.start_values hs
    have hrest : kind.values (c :: (ds' ++ (ws' ++ (ts ++ ')' :: rest)))) = some (vs, rest) :=
      ih isRun_nil
    simp only [List.append_assoc, List.cons_append]
    rw [values_more (h.complete_value hv hw (stopsAt_blanks_append hw₁ stopsAt_comma))
      (next?_more hw₁ hw₂ hb hc), hrest]
    rfl

end DemoQuery
