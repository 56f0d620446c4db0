import DemoQuery.Proofs.Clause.Tuples

/-!
# Reading parameters

The reader of each form of parameter against the grammar, and the reader of what ends a clause
behind a parameter.
-/

namespace DemoQuery

open Text Grammar

variable {form : Form} {cs text behind rest ws ts ds es : List Char} {p : Parameter}

/-! ### Ends of clauses -/

lemma endOfClause?_eq_some_iff : endOfClause? cs = some rest ↔ Ends cs rest := by
  constructor
  · intro h
    obtain ⟨ws, hw, hcs⟩ := exists_blanks cs
    rw [hcs]
    rw [endOfClause?] at h
    split at h
    · next hnil =>
      obtain rfl := Option.some.inj h
      rw [hnil, List.append_nil]
      exact .filter hw
    · next hcomma =>
      obtain rfl := Option.some.inj h
      rw [hcomma]
      exact .comma hw
    · simp at h
  · intro h
    cases h with
    | filter hw =>
      have hskip : skipBlanks cs = [] := by simpa using skipBlanks_append hw stopsAt_nil
      simp only [endOfClause?, hskip]
    | comma hw => simp only [endOfClause?, skipBlanks_comma hw]

/-- Behind a parameter stands no key character. -/
lemma Grammar.Ends.stopsAt (h : Ends behind rest) : StopsAt isKeyChar behind := by
  cases h with
  | filter hw => simpa using stopsAt_blanks_append hw stopsAt_nil
  | comma hw => exact stopsAt_blanks_append hw stopsAt_comma

lemma isKeyChar_of_isDigit {c : Char} (h : c.isDigit) : isKeyChar c := by
  simp [isKeyChar, Char.isAlphanum, h]

lemma Text.StopsAt.isDigit (h : StopsAt isKeyChar cs) : StopsAt Char.isDigit cs := by
  intro c hc
  by_contra hd
  have hkey := isKeyChar_of_isDigit (Bool.of_not_eq_false hd)
  rw [h c hc] at hkey
  cases hkey

/-! ### Tuples -/

lemma TupleKind.quoted_tail_iff : TupleKind.quoted.Tail ts ↔ TrailingComma ts := by
  constructor
  · rintro (_ | ⟨-, hw⟩)
    · exact .absent
    · exact .present hw
  · rintro (_ | hw)
    · exact .nothing
    · exact .comma rfl hw

lemma TupleKind.plain_tail_iff : TupleKind.plain.Tail ts ↔ ts = [] := by
  constructor
  · rintro (_ | ⟨ht, -⟩)
    · rfl
    · cases ht
  · rintro rfl
    exact .nothing

/-! ### Ranges -/

lemma bound?_eq_none_iff : bound? ds = none ↔ ds = [] := by
  cases ds <;> simp [bound?]

lemma bound?_of_ne_nil (h : ds ≠ []) : bound? ds = some (.ofList ds) := by
  cases ds with
  | nil => exact absurd rfl h
  | cons d ds => rfl

lemma derives_range (hds : IsRun Char.isDigit ds) (hes : IsRun Char.isDigit es)
    (hne : ds ≠ [] ∨ es ≠ []) :
    Derives .range (ds ++ '.' :: '.' :: es) (.range (bound? ds) (bound? es)) := by
  cases ds with
  | nil =>
    cases es with
    | nil => simp at hne
    | cons e es => exact .rangeTo (List.cons_ne_nil e es) hes
  | cons d ds =>
    cases es with
    | nil => exact .rangeFrom (List.cons_ne_nil d ds) hds
    | cons e es => exact .rangeBetween (List.cons_ne_nil d ds) hds (List.cons_ne_nil e es) hes

lemma derives_of_readRange? (h : readRange? cs = some (p, rest)) :
    ∃ text, Derives .range text p ∧ cs = text ++ rest := by
  rw [readRange?] at h
  split at h
  · next behind hdots =>
    split at h
    · simp at h
    · next hsome =>
      obtain ⟨rfl, rfl⟩ := Prod.mk.inj (Option.some.inj h)
      refine ⟨_, derives_range isRun_takeWhile isRun_takeWhile ?_, ?_⟩
      · by_contra hne
        rw [not_or, not_not, not_not] at hne
        exact hsome (bound?_eq_none_iff.2 hne.1) (bound?_eq_none_iff.2 hne.2)
      · rw [List.append_assoc, List.cons_append, List.cons_append,
          List.takeWhile_append_dropWhile, ← hdots, List.takeWhile_append_dropWhile]
  · simp at h

/-- The digits, two dots and digits of a range are read up to the first character that is no
digit. -/
lemma readRange?_append (hds : IsRun Char.isDigit ds) (hes : IsRun Char.isDigit es)
    (hne : ds ≠ [] ∨ es ≠ []) (hr : StopsAt Char.isDigit rest) :
    readRange? (ds ++ '.' :: '.' :: (es ++ rest)) =
      some (.range (bound? ds) (bound? es), rest) := by
  have hdot : StopsAt Char.isDigit ('.' :: '.' :: (es ++ rest)) := stopsAt_cons.2 (by decide)
  simp only [readRange?, dropWhile_run_append hds hdot, takeWhile_run_append hds hdot,
    takeWhile_run_append hes hr, dropWhile_run_append hes hr]
  split
  · next hlower hupper =>
    rcases hne with hne | hne
    · exact absurd (bound?_eq_none_iff.1 hlower) hne
    · exact absurd (bound?_eq_none_iff.1 hupper) hne
  · rfl

lemma readRange?_of_derives (h : Derives .range text p) (hr : StopsAt Char.isDigit rest) :
    readRange? (text ++ rest) = some (p, rest) := by
  cases h with
  | @rangeBetween ds es hd hds he hes =>
    rw [← bound?_of_ne_nil hd, ← bound?_of_ne_nil he, List.append_assoc]
    exact readRange?_append hds hes (.inl hd) hr
  | @rangeFrom ds hd hds =>
    rw [← bound?_of_ne_nil hd, List.append_assoc]
    exact readRange?_append hds isRun_nil (.inl hd) hr
  | @rangeTo es he hes =>
    rw [← bound?_of_ne_nil he]
    exact readRange?_append isRun_nil hes (.inr he) hr

/-! ### Every form -/

lemma Form.derives_of_text? (h : form.text? cs = some (p, rest)) :
    ∃ text, Derives form text p ∧ cs = text ++ rest := by
  unfold text? at h
  split at h
  · obtain ⟨⟨vs, r⟩, hvs, heq⟩ := Option.map_eq_some_iff.1 h
    obtain ⟨rfl, rfl⟩ := Prod.mk.inj heq
    obtain ⟨ws, body, ws', ts, hw, hbody, hw', hts, rfl⟩ :=
      TupleKind.quoted_reads.sound_values hvs
    have htail := TupleKind.quoted_tail_iff.1 hts
    exact ⟨_, .quotedTuple hw hbody hw' htail, by simp⟩
  · simp at h
  · obtain ⟨⟨vs, r⟩, hvs, heq⟩ := Option.map_eq_some_iff.1 h
    obtain ⟨rfl, rfl⟩ := Prod.mk.inj heq
    obtain ⟨ws, body, ws', ts, hw, hbody, hw', hts, rfl⟩ :=
      TupleKind.plain_reads.sound_values hvs
    obtain rfl := TupleKind.plain_tail_iff.1 hts
    exact ⟨_, .plainTuple hw hbody hw', by simp⟩
  · simp at h
  · exact derives_of_readRange? h
  · obtain ⟨rfl, rfl⟩ := Prod.mk.inj (Option.some.inj h)
    exact ⟨_, .plainValue isRun_takeWhile, List.takeWhile_append_dropWhile.symm⟩
  · obtain ⟨⟨v, r⟩, hv, heq⟩ := Option.map_eq_some_iff.1 h
    obtain ⟨rfl, rfl⟩ := Prod.mk.inj heq
    obtain ⟨text, htext, rfl⟩ := quotedValue_of_readQuoted? hv
    exact ⟨text, .quotedValue htext, rfl⟩

lemma Form.text?_of_derives (h : Derives form text p) (hr : StopsAt isKeyChar rest) :
    form.text? (text ++ rest) = some (p, rest) := by
  cases form with
  | quotedTuple =>
    cases h with
    | quotedTuple hw hs hw' ht =>
      have htail := TupleKind.quoted_tail_iff.2 ht
      simp only [text?, List.append_assoc, List.cons_append, List.nil_append]
      rw [TupleKind.quoted_reads.complete_values hs hw hw' htail]
      rfl
  | plainTuple =>
    cases h with
    | @plainTuple ws cs ws' vs hw hs hw' =>
      have hvs : TupleKind.plain.values (ws ++ (cs ++ (ws' ++ ')' :: rest))) = some (vs, rest) :=
        TupleKind.plain_reads.complete_values hs hw hw' (TupleKind.plain_tail_iff.2 rfl)
      simp only [text?, List.append_assoc, List.cons_append, List.nil_append, hvs, Option.map_some]
  | range => exact readRange?_of_derives h hr.isDigit
  | plainValue =>
    cases h with
    | plainValue h => simp only [text?, takeWhile_run_append h hr, dropWhile_run_append h hr]
  | quotedValue =>
    cases h with
    | quotedValue h => simp only [text?, readQuoted?_of_quotedValue h, Option.map_some]

/-- A form is read exactly from the texts that it derives, each up to an end of its clause. -/
theorem Form.read?_eq_some_iff : form.read? cs = some (p, rest) ↔
    ∃ text behind, Derives form text p ∧ Ends behind rest ∧ cs = text ++ behind := by
  constructor
  · intro h
    obtain ⟨⟨p', behind⟩, htext, hend⟩ := Option.bind_eq_some_iff.1 h
    obtain ⟨rest', hrest, heq⟩ := Option.map_eq_some_iff.1 hend
    obtain ⟨rfl, rfl⟩ := Prod.mk.inj heq
    obtain ⟨text, hderives, rfl⟩ := derives_of_text? htext
    exact ⟨text, behind, hderives, endOfClause?_eq_some_iff.1 hrest, rfl⟩
  · rintro ⟨text, behind, hderives, hend, rfl⟩
    rw [read?, text?_of_derives hderives hend.stopsAt]
    simp only [Option.bind_some, endOfClause?_eq_some_iff.2 hend, Option.map_some]

end DemoQuery
