import DemoQuery.Proofs.Clause.Places
import DemoQuery.Proofs.Clause.Values

/-!
# Parameters at a cursor

Each form of parameter is read at a cursor as it is read from a list of characters. The cursor
moves on while the form is tried, also if the form does not fit in the end.
-/

namespace DemoQuery.Cursor

open Text

variable {α β γ δ : Type} {s : String} {f : α → β} {g : γ → δ} {x : Scan (Option α)}
  {r : Option (β × List Char)} {q c : Char} {cs left done text : List Char}

/-! ### Agreement with the readers of lists -/

/-- `Agrees s f x cs r`: in front of the end `cs` of a text, `x` finds what `r` has, but for `f`,
and leaves the cursor in front of what `r` leaves. If `r` is nothing, neither does `x` find
anything, and it may leave the cursor in front of any end of `cs`. -/
def Agrees (s : String) (f : α → β) (x : Scan (Option α)) (cs : List Char)
    (r : Option (β × List Char)) : Prop :=
  ∃ o left, x (place s cs) = .some (o, place s left) ∧ left <:+ cs ∧ r = o.map fun a => (f a, left)

lemma agrees_none (hx : x (place s cs) = .some (none, place s left)) (hleft : left <:+ cs) :
    Agrees s f x cs none :=
  ⟨none, left, hx, hleft, rfl⟩

lemma agrees_some (a : α) {b : β} (hx : x (place s cs) = .some (some a, place s left))
    (hleft : left <:+ cs) (ha : f a = b) : Agrees s f x cs (some (b, left)) :=
  ⟨some a, left, hx, hleft, ha ▸ rfl⟩

lemma Agrees.exists_of_none (h : Agrees s f x cs none) :
    ∃ left, x (place s cs) = .some (none, place s left) ∧ left <:+ cs := by
  obtain ⟨o, left, hx, hleft, ho⟩ := h
  cases o with
  | none => exact ⟨left, hx, hleft⟩
  | some a => cases ho

lemma Agrees.exists_of_some {b : β} (h : Agrees s f x cs (some (b, left))) :
    ∃ a, f a = b ∧ x (place s cs) = .some (some a, place s left) ∧ left <:+ cs := by
  obtain ⟨o, left', hx, hleft, ho⟩ := h
  cases o with
  | none => cases ho
  | some a =>
    obtain ⟨rfl, rfl⟩ := Prod.mk.inj (Option.some.inj ho)
    exact ⟨a, rfl, hx, hleft⟩

/-- What is tried from a later place on, after steps that always succeed. -/
lemma Agrees.of_eq {y : Scan (Option α)} {cs' : List Char} (h : Agrees s f y cs' r)
    (hx : x (place s cs) = y (place s cs')) (hcs : cs' <:+ cs) : Agrees s f x cs r := by
  obtain ⟨o, left, hy, hleft, ho⟩ := h
  exact ⟨o, left, hx.trans hy, hleft.trans hcs, ho⟩

/-- A step that always succeeds may come first. -/
lemma Agrees.after {y : Scan γ} {k : γ → Scan (Option α)} {c : γ} (h : Agrees s f (k c) left r)
    (hy : y (place s cs) = .some (c, place s left)) (hleft : left <:+ cs) :
    Agrees s f (y >>= k) cs r :=
  h.of_eq (by simp [hy]) hleft

/-- What is tried after something else is tried only where that has been found. -/
lemma Agrees.bind {k : Option α → Scan (Option γ)} {t : β × List Char → Option (δ × List Char)}
    (h : Agrees s f x cs r) (hnone : k none = pure none)
    (hk : ∀ a left, left <:+ cs → Agrees s g (k (some a)) left (t (f a, left))) :
    Agrees s g (x >>= k) cs (r.bind t) := by
  obtain ⟨o, left, hx, hleft, rfl⟩ := h
  cases o with
  | none => exact agrees_none (by simp [hx, hnone]) hleft
  | some a => exact (hk a left hleft).of_eq (by simp [hx]) hleft

/-! ### Quoted texts -/

lemma readUntilQuote_nil (start : Nat) :
    readUntilQuote s start q (place s []) = .some (none, place s []) :=
  loop_of_inl (by simp [nextChar_place List.nil_suffix])

lemma readUntilQuote_lone (start : Nat) (h : ['\\'] <:+ s.toList) :
    readUntilQuote s start q (place s ['\\']) = .some (none, place s []) :=
  loop_of_inl (by simp [nextChar_place h, nextChar_place List.nil_suffix])

lemma readUntilQuote_pair (start : Nat) (h : '\\' :: c :: cs <:+ s.toList) :
    readUntilQuote s start q (place s ('\\' :: c :: cs)) =
      readUntilQuote s start q (place s cs) :=
  loop_of_inr (by simp [nextChar_place h, nextChar_place ((List.suffix_cons '\\' _).trans h)])

lemma readUntilQuote_quote (hq : q ≠ '\\') (h : text ++ q :: cs <:+ s.toList) :
    readUntilQuote s (place s (text ++ q :: cs)) q (place s (q :: cs)) =
      .some (some (.ofList text), place s cs) := by
  have hnext := nextChar_place ((List.suffix_append text _).trans h)
  exact loop_of_inl (by simp [hnext, hq, sinceBefore_place h])

lemma readUntilQuote_cons (start : Nat) (hslash : c ≠ '\\') (hq : c ≠ q)
    (h : c :: cs <:+ s.toList) :
    readUntilQuote s start q (place s (c :: cs)) = readUntilQuote s start q (place s cs) :=
  loop_of_inr (by simp [nextChar_place h, hslash, hq])

lemma readUntilQuote_agrees (hq : q = '"' ∨ q = '\'') (h : done ++ cs <:+ s.toList) :
    Agrees s String.toList (readUntilQuote s (place s (done ++ cs)) q) cs
      ((untilQuote q cs).map fun (text, rest) => (done ++ text, rest)) := by
  have hcs : cs <:+ s.toList := (List.suffix_append done cs).trans h
  -- `done` is what the cursor has moved over since the opening quote
  fun_induction untilQuote q cs generalizing done with
  | case1 => exact agrees_none (readUntilQuote_nil _) List.suffix_rfl
  | case2 c cs ih =>
    have hdone : done ++ '\\' :: c :: cs = done ++ ['\\', c] ++ cs := by simp
    have hle : cs <:+ '\\' :: c :: cs := List.suffix_append ['\\', c] cs
    have hind := (ih (hdone ▸ h) (hle.trans hcs)).of_eq (readUntilQuote_pair _ hcs) hle
    rw [← hdone] at hind
    simpa [Function.comp_def] using hind
  | case3 cs =>
    exact agrees_some (.ofList done) (readUntilQuote_quote (quote_ne_backslash hq) h)
      (List.suffix_cons q cs) (by simp)
  | case4 c cs hpair hc ih =>
    by_cases hslash : c = '\\'
    · -- behind a backslash at the end of the text stands no quote
      subst hslash
      cases cs with
      | nil => exact agrees_none (readUntilQuote_lone _ hcs) (List.suffix_cons ..)
      | cons d ds => exact absurd rfl (hpair d ds rfl)
    · have hdone : done ++ c :: cs = done ++ [c] ++ cs := by simp
      have hle : cs <:+ c :: cs := List.suffix_cons c cs
      have hind :=
        (ih (hdone ▸ h) (hle.trans hcs)).of_eq (readUntilQuote_cons _ hslash hc hcs) hle
      rw [← hdone] at hind
      simpa [Function.comp_def] using hind

lemma readQuoted_agrees (h : cs <:+ s.toList) :
    Agrees s String.toList (readQuoted s) cs (readQuotedText? cs) := by
  cases cs with
  | nil => exact agrees_none (by simp [readQuoted, peek_place h]) List.suffix_rfl
  | cons q cs =>
    by_cases hq : q = '"' ∨ q = '\''
    · rw [readQuotedText?_quote hq]
      have hcs : [] ++ cs <:+ s.toList := (List.suffix_cons q cs).trans h
      have hagrees := (readUntilQuote_agrees hq hcs).of_eq (x := readQuoted s)
        (by simp [readQuoted, peek_place h, hq, nextChar_place h]) (List.suffix_cons q cs)
      simpa using hagrees
    · have hread : readQuotedText? (q :: cs) = none := by
        rw [readQuotedText?] <;> simp_all
      rw [hread]
      exact agrees_none (by simp [readQuoted, peek_place h, hq]) List.suffix_rfl

/-! ### Values -/

lemma readQuotedValue_agrees (h : cs <:+ s.toList) :
    Agrees s RawValue.decode (readQuotedValue s) cs (readQuoted? cs) := by
  have hagrees := readQuoted_agrees h
  rw [readQuoted?]
  cases hread : readQuotedText? cs with
  | none =>
    rw [hread] at hagrees
    obtain ⟨left, hx, hleft⟩ := hagrees.exists_of_none
    exact agrees_none (by simp [readQuotedValue, hx]) hleft
  | some r =>
    rw [hread] at hagrees
    obtain ⟨text, htext, hx, hleft⟩ := hagrees.exists_of_some
    refine agrees_some ⟨text, true⟩ (by simp [readQuotedValue, hx]) hleft ?_
    simp [RawValue.decode, htext]

lemma readPlainValue_agrees (h : cs <:+ s.toList) :
    Agrees s RawValue.decode (readPlainValue s) cs (readPlain? cs) := by
  have hle : cs.dropWhile isKeyChar <:+ cs := List.dropWhile_suffix _
  rw [readPlain?]
  split
  · next hnil =>
    exact agrees_none (by simp [readPlainValue, readWhile_place isKeyChar h, hnil]) hle
  · next text hne =>
    have htext : String.ofList (cs.takeWhile isKeyChar) ≠ "" := by simpa using hne
    exact agrees_some ⟨.ofList (cs.takeWhile isKeyChar), false⟩
      (by simp [readPlainValue, readWhile_place isKeyChar h, htext]) hle rfl

/-! ### Ends of clauses -/

lemma suffix_of_endOfClause? {rest : List Char} (h : endOfClause? cs = some rest) :
    rest <:+ cs := by
  rw [endOfClause?] at h
  have hle := skipBlanks_suffix cs
  split at h
  · next hnil => cases h; exact List.nil_suffix
  · next r hr =>
    cases h
    rw [hr] at hle
    exact (List.suffix_cons _ _).trans hle
  · cases h

lemma readEnd_place (h : cs <:+ s.toList) :
    readEnd s (place s cs) =
      .some ((endOfClause? cs).isSome, place s ((endOfClause? cs).getD (skipBlanks cs))) := by
  have hskip := skipBlanks_place h
  have hle : skipBlanks cs <:+ s.toList := (skipBlanks_suffix cs).trans h
  rw [endOfClause?]
  split
  · next hnil =>
    rw [hnil] at hskip
    simp [readEnd, hskip, atEnd_place List.nil_suffix]
  · next rest hrest =>
    rw [hrest] at hskip hle
    simp [readEnd, hskip, atEnd_place hle, eat_cons hle]
  · next hnil hcomma =>
    have hempty : (skipBlanks cs).isEmpty = false := by simpa using hnil
    simp [readEnd, hskip, atEnd_place hle, hempty, eat_of_ne hle hcomma]

lemma ended_agrees (raw : RawParameter) (h : cs <:+ s.toList) :
    Agrees s RawParameter.decode (ended s raw) cs
      ((endOfClause? cs).map fun rest => (raw.decode, rest)) := by
  cases hend : endOfClause? cs with
  | none =>
    exact agrees_none (by simp [ended, readEnd_place h, hend]) (skipBlanks_suffix cs)
  | some rest =>
    exact agrees_some raw (by simp [ended, readEnd_place h, hend]) (suffix_of_endOfClause? hend) rfl

/-! ### Tuples -/

variable {value : Scan (Option RawValue)}

/-- In front of a further value the cursor may still have blanks before it. -/
lemma readMore_place (kind : TupleKind) (h : cs <:+ s.toList) : ∃ o left,
    readMore s kind.trailingComma (place s cs) = .some (o, place s left) ∧ left <:+ cs ∧
      kind.next? cs = o.map fun more => (more, if more then skipBlanks left else left) := by
  have hskip := skipBlanks_place h
  have hle := skipBlanks_suffix cs
  have hs := hle.trans h
  rw [TupleKind.next?]
  split
  · next rest hrest =>
    rw [hrest] at hskip hle hs
    refine ⟨some false, rest, ?_, (List.suffix_cons _ _).trans hle, rfl⟩
    simp [readMore, hskip, eat_cons hs]
  · next rest hrest =>
    rw [hrest] at hskip hle hs
    have hparen : eat s ')' (place s (',' :: rest)) = some (false, place s (',' :: rest)) :=
      eat_of_ne hs (by simp)
    have hle' : rest <:+ cs := (List.suffix_cons _ _).trans hle
    cases htrailing : kind.trailingComma with
    | false =>
      refine ⟨some true, rest, ?_, hle', rfl⟩
      simp [readMore, hskip, hparen, eat_cons hs]
    | true =>
      have hskip' := skipBlanks_place (hle'.trans h)
      have hle'' := (skipBlanks_suffix rest).trans hle'
      split
      · next rest' _ hrest' =>
        rw [hrest'] at hskip' hle''
        refine ⟨some false, rest', ?_, (List.suffix_cons _ _).trans hle'', rfl⟩
        simp [readMore, hskip, hparen, eat_cons hs, hskip', eat_cons (hle''.trans h)]
      · next hother =>
        have hparen' := eat_of_ne (hle''.trans h) fun rest' hrest' => hother rest' rfl hrest'
        refine ⟨some true, skipBlanks rest, ?_, hle'', by simp [skipBlanks_skipBlanks]⟩
        simp [readMore, hskip, hparen, eat_cons hs, hskip', hparen']
  · next hparen hcomma =>
    refine ⟨none, skipBlanks cs, ?_, hle, rfl⟩
    simp [readMore, hskip, eat_of_ne hs hparen, eat_of_ne hs hcomma]

lemma readValues_skipBlanks (comma : Bool) (vs : List RawValue) (h : cs <:+ s.toList) :
    readValues s value comma vs (place s cs) =
      readValues s value comma vs (place s (skipBlanks cs)) := by
  have hskip := skipBlanks_place ((skipBlanks_suffix cs).trans h)
  rw [skipBlanks_skipBlanks] at hskip
  refine loop_congr ?_
  rw [bind_apply, bind_apply, skipBlanks_place h, hskip]

/-- Behind a value, the cursor reads on, is done or gives up. -/
lemma exists_readMore (kind : TupleKind) {v : String} {behind : List Char} (vs : List RawValue)
    (h : cs <:+ s.toList)
    (hv : Agrees s RawValue.decode value (skipBlanks cs) (some (v, behind))) :
    ∃ raw o left, raw.decode = v ∧ left <:+ cs ∧
      kind.next? behind = o.map (fun more => (more, if more then skipBlanks left else left)) ∧
      readValues s value kind.trailingComma vs (place s cs) =
        match o with
        | none       => .some (none, place s left)
        | some false => .some (some (vs ++ [raw]), place s left)
        | some true  => readValues s value kind.trailingComma (vs ++ [raw]) (place s left) := by
  obtain ⟨raw, rfl, hx, hbehind⟩ := hv.exists_of_some
  have hle := hbehind.trans (skipBlanks_suffix cs)
  obtain ⟨o, left, hmore, hleft, hnext⟩ := readMore_place kind (hle.trans h)
  refine ⟨raw, o, left, rfl, hleft.trans hle, hnext, ?_⟩
  match o with
  | none => exact loop_of_inl (by simp [skipBlanks_place h, hx, hmore])
  | some false => exact loop_of_inl (by simp [skipBlanks_place h, hx, hmore])
  | some true => exact loop_of_inr (by simp [skipBlanks_place h, hx, hmore])

lemma readValues_agrees (kind : TupleKind) (vs : List RawValue) (h : cs <:+ s.toList)
    (hvalue : ∀ cs, cs <:+ s.toList → Agrees s RawValue.decode value cs (kind.value cs)) :
    Agrees s (List.map RawValue.decode) (readValues s value kind.trailingComma vs) cs
      ((kind.values cs).map fun (vs', rest) => (vs.map RawValue.decode ++ vs', rest)) := by
  have hfirst := hvalue _ ((skipBlanks_suffix cs).trans h)
  fun_induction TupleKind.values kind cs generalizing vs with
  | case1 cs hv =>
    rw [hv] at hfirst
    obtain ⟨left, hx, hleft⟩ := hfirst.exists_of_none
    exact agrees_none (loop_of_inl (by simp [skipBlanks_place h, hx]))
      (hleft.trans (skipBlanks_suffix cs))
  | case2 cs v behind hv hn =>
    obtain ⟨raw, o, left, rfl, hle, hnext, hread⟩ := exists_readMore kind vs h (hv ▸ hfirst)
    rw [hn] at hnext
    obtain rfl := Option.map_eq_none_iff.1 hnext.symm
    exact agrees_none hread hle
  | case3 cs v behind hv rest hn =>
    obtain ⟨raw, o, left, rfl, hle, hnext, hread⟩ := exists_readMore kind vs h (hv ▸ hfirst)
    rw [hn] at hnext
    obtain ⟨more, rfl, heq⟩ := Option.map_eq_some_iff.1 hnext.symm
    obtain ⟨rfl, rfl⟩ := Prod.mk.inj heq
    exact agrees_some (vs ++ [raw]) hread hle (by simp)
  | case4 cs v behind hv rest hn ih =>
    obtain ⟨raw, o, left, rfl, hle, hnext, hread⟩ := exists_readMore kind vs h (hv ▸ hfirst)
    rw [hn] at hnext
    obtain ⟨more, rfl, heq⟩ := Option.map_eq_some_iff.1 hnext.symm
    obtain ⟨rfl, rfl⟩ := Prod.mk.inj heq
    -- the next round starts in front of blanks that the reader of lists may have skipped already
    have hrest : skipBlanks left <:+ cs := (skipBlanks_suffix left).trans hle
    have hind := ih (vs ++ [raw]) (hrest.trans h)
      (hvalue _ ((skipBlanks_suffix _).trans (hrest.trans h)))
    have hagrees := hind.of_eq (hread.trans (readValues_skipBlanks _ _ (hle.trans h))) hrest
    simpa [Function.comp_def] using hagrees

/-! ### Forms of parameters -/

lemma readTuple_agrees (kind : TupleKind) {form : Form} (h : cs <:+ s.toList)
    (hvalue : ∀ cs, cs <:+ s.toList → Agrees s RawValue.decode value cs (kind.value cs))
    (hopen : ∀ cs, form.text? ('(' :: cs) =
      (kind.values cs).map fun (vs, rest) => (.list vs, rest))
    (hother : ∀ cs, (∀ rest, cs ≠ '(' :: rest) → form.text? cs = none) :
    Agrees s RawParameter.decode (readTuple s value kind.trailingComma) cs (form.read? cs) := by
  rcases eat_cases '(' h with ⟨cs, rfl, heat⟩ | ⟨hne, heat⟩
  · have hcs := (List.suffix_cons '(' cs).trans h
    have hread : form.read? ('(' :: cs) =
        ((kind.values cs).map fun (vs, rest) => ([].map RawValue.decode ++ vs, rest)).bind
          fun r => (endOfClause? r.2).map fun rest => (.list r.1, rest) := by
      rw [Form.read?, hopen, Option.bind_map, Option.bind_map]
      rfl
    rw [hread]
    refine Agrees.after ?_ heat (List.suffix_cons '(' cs)
    rw [if_pos rfl]
    refine (readValues_agrees kind [] hcs hvalue).bind rfl fun vs left hleft => ?_
    exact ended_agrees (.list vs) (hleft.trans hcs)
  · rw [Form.read?, hother cs hne, Option.bind_none]
    exact agrees_none (by simp [readTuple, heat]) List.suffix_rfl

lemma bound?_eq_none_iff {digits : List Char} : bound? digits = none ↔ digits = [] := by
  cases digits <;> simp [bound?]

lemma readRange_agrees (h : cs <:+ s.toList) :
    Agrees s RawParameter.decode (readRange s) cs (Form.range.read? cs) := by
  have hdigits := readWhile_place Char.isDigit h
  have hle : cs.dropWhile Char.isDigit <:+ cs := List.dropWhile_suffix _
  rw [Form.read?, Form.text?, readRange?]
  split
  · next behind hbehind =>
    rw [hbehind] at hdigits hle
    have hdot := eat_cons (hle.trans h)
    have hdot' := eat_cons ((List.suffix_cons '.' _).trans (hle.trans h))
    have hle' : behind <:+ cs := (List.suffix_append ['.', '.'] behind).trans hle
    have hdigits' := readWhile_place Char.isDigit (hle'.trans h)
    have hle'' : behind.dropWhile Char.isDigit <:+ cs := (List.dropWhile_suffix _).trans hle'
    split
    · next hlower hupper =>
      rw [bound?_eq_none_iff] at hlower hupper
      exact agrees_none (by simp [readRange, hdigits, hdot, hdot', hdigits', hlower, hupper]) hle''
    · next hbound =>
      have hne : ¬(String.ofList (cs.takeWhile Char.isDigit) = "" ∧
          String.ofList (behind.takeWhile Char.isDigit) = "") := by
        simpa [bound?_eq_none_iff] using hbound
      have hended := ended_agrees (.range (bound? (cs.takeWhile Char.isDigit))
        (bound? (behind.takeWhile Char.isDigit))) (hle''.trans h)
      refine hended.of_eq ?_ hle''
      simp only [readRange, bind_apply, hdigits, hdot, hdot', hdigits', Part.bind_some,
        ↓reduceIte, if_neg hne, String.toList_ofList]
  · next hdots =>
    rcases eat_cases '.' (hle.trans h) with ⟨behind, hbehind, hdot⟩ | ⟨-, hdot⟩
    · have hle' : behind <:+ cs := (List.suffix_cons '.' behind).trans (hbehind ▸ hle)
      have hdot' := eat_of_ne (hle'.trans h) fun rest hrest => hdots rest (hrest ▸ hbehind)
      exact agrees_none (by simp [readRange, hdigits, hdot, hdot']) hle'
    · exact agrees_none (by simp [readRange, hdigits, hdot]) hle

lemma readForm_agrees (form : Form) (h : cs <:+ s.toList) :
    Agrees s RawParameter.decode (readForm s form) cs (form.read? cs) := by
  have hword := readWhile_place isKeyChar h
  cases form with
  | quotedTuple =>
    refine readTuple_agrees .quoted h (fun cs hcs => readQuotedValue_agrees hcs)
      (fun _ => rfl) fun cs hcs => ?_
    rw [Form.text?]
    exact fun cs heq => hcs cs heq
  | plainTuple =>
    refine readTuple_agrees .plain h (fun cs hcs => readPlainValue_agrees hcs)
      (fun _ => rfl) fun cs hcs => ?_
    rw [Form.text?]
    exact fun cs heq => hcs cs heq
  | range => exact readRange_agrees h
  | plainValue =>
    have hle : cs.dropWhile isKeyChar <:+ cs := List.dropWhile_suffix _
    refine Agrees.after ?_ hword hle
    exact ended_agrees _ (hle.trans h)
  | quotedValue =>
    rw [Form.read?, Form.text?, Option.bind_map]
    refine (readQuotedValue_agrees h).bind rfl fun v left hleft => ?_
    exact ended_agrees (.list [v]) (hleft.trans h)

end DemoQuery.Cursor
