import DemoQuery.Proofs.Clause.Agreement

/-!
# Reading at a cursor

What is read at a cursor is what the readers of lists of characters read from the characters behind
it, and the cursor is left where they leave off. A cursor has a result for every text, then, so it
takes out no part that there is not, and it ends because they do. It is back where it was if there
is no key or no parameter, and further on behind a clause.
-/

namespace DemoQuery.Cursor

open Text

variable {α β γ : Type} {s : String} {f : α → β} {x : Scan (Option α)}
  {r : Option (β × List Char)} {cs left rest : List Char} {p : Parameter} {negated : Bool}
  {key : String} {c : Clause} {e : FilterError} {l : List Clause}

/-! ### Parameters -/

lemma readFirst_agrees (forms : List Form) (h : cs <:+ s.toList) :
    Agrees s RawParameter.decode (readFirst s (place s cs) forms) cs
      (forms.findSome? (·.read? cs)) := by
  induction forms with
  | nil => exact agrees_none rfl List.suffix_rfl
  | cons form forms ih =>
    have hform := readForm_agrees form h
    cases hread : form.read? cs with
    | none =>
      rw [hread] at hform
      obtain ⟨left, hx, -⟩ := hform.exists_of_none
      rw [List.findSome?_cons_of_isNone (by simp [hread])]
      refine ih.of_eq ?_ List.suffix_rfl
      simp [readFirst, hx]
    | some r =>
      rw [hread] at hform
      obtain ⟨raw, hraw, hx, hleft⟩ := hform.exists_of_some
      rw [List.findSome?_cons_of_isSome (by simp [hread]), hread]
      exact agrees_some raw (by simp [readFirst, hx]) hleft hraw

/-- Where no form fits, the cursor is back. -/
lemma eq_start_of_readFirst {forms : List Form} {start p' : Nat}
    (hx : (none, p') ∈ readFirst s start forms start) : p' = start := by
  induction forms with
  | nil => exact (Prod.mk.inj (Part.mem_some_iff.1 hx)).2
  | cons form forms ih =>
    rw [readFirst, bind_apply] at hx
    obtain ⟨⟨o, left⟩, -, hx⟩ := Part.mem_bind_iff.1 hx
    cases o with
    | none =>
      simp only [bind_apply, set_apply, Part.bind_some] at hx
      exact ih hx
    | some raw => cases Part.mem_some_iff.1 hx

lemma readParameter_of_none (h : cs <:+ s.toList) (hread : readParameter? cs = none) :
    readParameter s (place s cs) =
      .some (.error (.expectedParameter (excerpt cs)), place s cs) := by
  have hfirst := readFirst_agrees Form.all h
  rw [← readParameter?, hread] at hfirst
  obtain ⟨left, hx, -⟩ := hfirst.exists_of_none
  rw [eq_start_of_readFirst (Part.eq_some_iff.1 hx)] at hx
  simp [readParameter, hx, rest_place h]

lemma readParameter_of_some (h : cs <:+ s.toList) (hread : readParameter? cs = some (p, rest)) :
    ∃ raw, raw.decode = p ∧ readParameter s (place s cs) = .some (.ok raw, place s rest) ∧
      rest <:+ cs := by
  have hfirst := readFirst_agrees Form.all h
  rw [← readParameter?, hread] at hfirst
  obtain ⟨raw, hraw, hx, hle⟩ := hfirst.exists_of_some
  exact ⟨raw, hraw, by simp [readParameter, hx], hle⟩

/-! ### Keys -/

/-- What stands behind the exclamation mark of a key, if it has one. -/
def unmarked (cs : List Char) : List Char :=
  if cs.head? == some '!' then cs.tail else cs

lemma unmarked_suffix (cs : List Char) : unmarked cs <:+ cs := by
  rw [unmarked]
  split
  · exact List.tail_suffix cs
  · exact List.suffix_rfl

lemma eat_mark (h : cs <:+ s.toList) :
    eat s '!' (place s cs) = .some (cs.head? == some '!', place s (unmarked cs)) := by
  rcases eat_cases '!' h with ⟨rest, rfl, heat⟩ | ⟨hne, heat⟩
  · exact heat
  · have hhead : (cs.head? == some '!') = false := by
      rw [beq_eq_false_iff_ne, Ne, List.head?_eq_some_iff]
      exact not_exists.2 hne
    rw [unmarked, hhead]
    exact heat

lemma readKey_of_none (h : cs <:+ s.toList) (hread : readKey? cs = none) :
    readKey s (place s cs) = .some (.error (.expectedKey (excerpt cs)), place s cs) := by
  have hname := (unmarked_suffix cs).trans h
  have hbehind := (List.dropWhile_suffix isKeyChar).trans hname
  have hcolon : ∀ rest, (unmarked cs).dropWhile isKeyChar ≠ ':' :: rest := by
    intro rest hrest
    rw [readKey?, ← unmarked] at hread
    simp [hrest] at hread
  simp [readKey, eat_mark h, readWhile_place isKeyChar hname, eat_of_ne hbehind hcolon,
    rest_place h]

lemma readKey_of_some (h : cs <:+ s.toList) (hread : readKey? cs = some (negated, key, rest)) :
    readKey s (place s cs) = .some (.ok (negated, key), place s (skipBlanks rest)) ∧
      rest <:+ cs := by
  have hname := unmarked_suffix cs
  have hbehind := (List.dropWhile_suffix isKeyChar).trans hname
  have hword := readWhile_place isKeyChar (hname.trans h)
  rw [readKey?, ← unmarked] at hread
  split at hread
  · next hcolon =>
    cases hread
    rw [hcolon] at hbehind hword
    have hrest := (List.suffix_cons ':' _).trans hbehind
    refine ⟨?_, hrest⟩
    simp [readKey, eat_mark h, hword, eat_cons (hbehind.trans h), skipBlanks_place (hrest.trans h)]
  · cases hread

/-! ### Clauses -/

lemma readClause_of_error (h : cs <:+ s.toList) (hread : DemoQuery.readClause cs = .error e) :
    ∃ left, left <:+ cs ∧ readClause s (place s cs) = .some (.error e, place s left) := by
  rw [DemoQuery.readClause] at hread
  split at hread
  · next hkey =>
    cases hread
    exact ⟨cs, List.suffix_rfl, by simp [readClause, readKey_of_none h hkey]⟩
  · next negated key behind hkey =>
    obtain ⟨hreadKey, hbehind⟩ := readKey_of_some h hkey
    have hle := (skipBlanks_suffix behind).trans hbehind
    split at hread
    · next hparameter =>
      cases hread
      refine ⟨skipBlanks behind, hle, ?_⟩
      simp [readClause, hreadKey, readParameter_of_none (hle.trans h) hparameter]
    · next parameter rest hparameter =>
      obtain ⟨raw, rfl, hreadParameter, hrest⟩ := readParameter_of_some (hle.trans h) hparameter
      split at hread
      · next hempty =>
        cases hread
        exact ⟨rest, hrest.trans hle, by simp [readClause, hreadKey, hreadParameter, hempty]⟩
      · cases hread

lemma readClause_of_ok (h : cs <:+ s.toList) (hread : DemoQuery.readClause cs = .ok (c, rest)) :
    readClause s (place s cs) = .some (.ok c, place s rest) ∧ rest <:+ cs := by
  rw [DemoQuery.readClause] at hread
  split at hread
  · cases hread
  · next negated key behind hkey =>
    obtain ⟨hreadKey, hbehind⟩ := readKey_of_some h hkey
    have hle := (skipBlanks_suffix behind).trans hbehind
    split at hread
    · cases hread
    · next parameter rest' hparameter =>
      obtain ⟨raw, rfl, hreadParameter, hrest⟩ := readParameter_of_some (hle.trans h) hparameter
      split at hread
      · cases hread
      · next hsome =>
        cases hread
        exact ⟨by simp [readClause, hreadKey, hreadParameter, hsome], hrest.trans hle⟩

/-- The cursor reads the clauses of its text. -/
lemma readClauses_place (h : cs <:+ s.toList) : ∃ left, left <:+ cs ∧
    readClauses s l (place s cs) =
      .some ((DemoQuery.readClauses cs).map (l ++ ·), place s left) := by
  have hskip := skipBlanks_place h
  have hle := skipBlanks_suffix cs
  fun_induction DemoQuery.readClauses cs generalizing l with
  | case1 cs hs =>
    rw [hs] at hskip
    exact ⟨[], List.nil_suffix,
      loop_of_inl (by simp [hskip, atEnd_place List.nil_suffix, Except.map])⟩
  | case2 cs d ds hs e hc =>
    rw [hs] at hskip hle
    obtain ⟨left, hleft, hread⟩ := readClause_of_error (hle.trans h) hc
    exact ⟨left, hleft.trans hle,
      loop_of_inl (by simp [hskip, atEnd_place (hle.trans h), hread, Except.map])⟩
  | case3 cs d ds hs c rest hc ih =>
    rw [hs] at hskip hle
    obtain ⟨hread, hrest⟩ := readClause_of_ok (hle.trans h) hc
    have hrest' := hrest.trans hle
    obtain ⟨left, hleft, hreads⟩ := ih (l := l ++ [c]) (hrest'.trans h)
      (skipBlanks_place (hrest'.trans h)) (skipBlanks_suffix rest)
    have hround : readClauses s l (place s cs) = readClauses s (l ++ [c]) (place s rest) :=
      loop_of_inr (by simp [hskip, atEnd_place (hle.trans h), hread])
    refine ⟨left, hleft.trans hrest', ?_⟩
    rw [hround, hreads]
    cases DemoQuery.readClauses rest <;> simp [Except.map]

/-! ### Any steps -/

lemma exists_discard {y : Scan γ} {a : γ} (hy : y (place s cs) = some (a, place s left))
    (hleft : left <:+ cs) :
    ∃ left, left <:+ cs ∧ (discard y : Scan Unit) (place s cs) = .some ((), place s left) :=
  ⟨left, hleft, by simp [hy]⟩

lemma Agrees.exists_discard (h : Agrees s f x cs r) :
    ∃ left, left <:+ cs ∧ (discard x : Scan Unit) (place s cs) = .some ((), place s left) := by
  obtain ⟨o, left, hx, hleft, -⟩ := h
  exact Cursor.exists_discard hx hleft

/-- Wherever the cursor is at a place, each thing can be done, and leaves it at a place that is not
in front of the first. -/
lemma exists_run (operation : Operation) (h : cs <:+ s.toList) :
    ∃ left, left <:+ cs ∧ operation.run s (place s cs) = .some ((), place s left) := by
  cases operation with
  | rest => exact exists_discard (rest_place h) List.suffix_rfl
  | atEnd => exact exists_discard (atEnd_place h) List.suffix_rfl
  | peek => exact exists_discard (peek_place h) List.suffix_rfl
  | nextChar => exact exists_discard (nextChar_place h) (List.tail_suffix cs)
  | eat expected =>
    rcases eat_cases expected h with ⟨rest, rfl, heat⟩ | ⟨-, heat⟩
    · exact exists_discard heat (List.suffix_cons expected rest)
    · exact exists_discard heat List.suffix_rfl
  | skipBlanks => exact ⟨_, skipBlanks_suffix cs, skipBlanks_place h⟩
  | readIdentifier => exact exists_discard (readWhile_place isKeyChar h) (List.dropWhile_suffix _)
  | readDigits => exact exists_discard (readWhile_place Char.isDigit h) (List.dropWhile_suffix _)
  | readQuoted => exact (readQuoted_agrees h).exists_discard
  | readEnd =>
    refine exists_discard (readEnd_place h) ?_
    cases hend : endOfClause? cs with
    | none => exact skipBlanks_suffix cs
    | some rest => exact suffix_of_endOfClause? hend
  | readKey =>
    cases hread : readKey? cs with
    | none => exact exists_discard (readKey_of_none h hread) List.suffix_rfl
    | some key =>
      obtain ⟨hkey, hrest⟩ := readKey_of_some h hread
      exact exists_discard hkey ((skipBlanks_suffix _).trans hrest)
  | readForm form => exact (readForm_agrees form h).exists_discard
  | readParameter =>
    cases hread : readParameter? cs with
    | none => exact exists_discard (readParameter_of_none h hread) List.suffix_rfl
    | some parameter =>
      obtain ⟨raw, -, hparameter, hrest⟩ := readParameter_of_some h hread
      exact exists_discard hparameter hrest

lemma exists_runAll (operations : List Operation) (h : cs <:+ s.toList) :
    ∃ left, left <:+ cs ∧ runAll s operations (place s cs) = .some ((), place s left) := by
  induction operations generalizing cs with
  | nil => exact ⟨cs, List.suffix_rfl, rfl⟩
  | cons operation operations ih =>
    obtain ⟨left, hleft, hrun⟩ := exists_run operation h
    obtain ⟨left', hleft', hruns⟩ := ih (hleft.trans h)
    refine ⟨left', hleft'.trans hleft, ?_⟩
    rw [runAll, List.forM_cons, bind_apply, hrun, Part.bind_some]
    exact hruns

/-! ### The cursor of a filter -/

/-- Where no key is read the cursor is back, and behind one it is further on. -/
lemma readKey_moves (h : cs <:+ s.toList) :
    (∃ e, readKey s (place s cs) = .some (.error e, place s cs)) ∨
      ∃ key p, readKey s (place s cs) = .some (.ok key, p) ∧ place s cs < p := by
  cases hread : readKey? cs with
  | none => exact .inl ⟨_, readKey_of_none h hread⟩
  | some key =>
    obtain ⟨negated, key, rest⟩ := key
    obtain ⟨hkey, hrest⟩ := readKey_of_some h hread
    refine .inr ⟨_, _, hkey, ?_⟩
    exact (place_lt hrest (length_readKey_lt hread) h).trans_le
      (place_le (skipBlanks_suffix rest) (hrest.trans h))

/-- Where no parameter is read the cursor is back, and behind one it is not before it. -/
lemma readParameter_moves (h : cs <:+ s.toList) :
    (∃ e, readParameter s (place s cs) = .some (.error e, place s cs)) ∨
      ∃ raw p, readParameter s (place s cs) = .some (.ok raw, p) ∧ place s cs ≤ p := by
  cases hread : readParameter? cs with
  | none => exact .inl ⟨_, readParameter_of_none h hread⟩
  | some parameter =>
    obtain ⟨raw, -, hparameter, hrest⟩ := readParameter_of_some h hread
    exact .inr ⟨raw, _, hparameter, place_le hrest h⟩

/-- Behind a clause the cursor is further on. -/
lemma readClause_moves (h : cs <:+ s.toList) :
    (∃ e p, readClause s (place s cs) = .some (.error e, p)) ∨
      ∃ c p, readClause s (place s cs) = .some (.ok c, p) ∧ place s cs < p := by
  cases hread : DemoQuery.readClause cs with
  | error e =>
    obtain ⟨left, -, hclause⟩ := readClause_of_error h hread
    exact .inl ⟨e, _, hclause⟩
  | ok r =>
    obtain ⟨hclause, hrest⟩ := readClause_of_ok h hread
    exact .inr ⟨r.1, _, hclause, place_lt hrest (length_readClause_lt hread) h⟩

/-- Whatever is done one after the other from the start of a text on has a result, and leaves the
cursor at a place of the text. There, a key that is not read leaves the cursor where it is and one
that is read moves it forward; a parameter that is not read leaves it where it is and one that is
read does not move it back; so a clause moves it forward. All clauses are read to the end, then,
as they are from the characters of the text. Every part that is taken out on the way is there, as
there would be no result without it. -/
theorem runAll_stays_at_places (s : String) :
    (∀ start stop, (slice? s start stop).isSome ↔
      start ≤ stop ∧ IsPlace s start ∧ IsPlace s stop) ∧
    (∀ operations, ∃ p, runAll s operations 0 = .some ((), p) ∧
      p ≤ s.utf8ByteSize ∧ IsPlace s p ∧
      ((∃ e, readKey s p = .some (.error e, p)) ∨
        ∃ key p', readKey s p = .some (.ok key, p') ∧ p < p') ∧
      ((∃ e, readParameter s p = .some (.error e, p)) ∨
        ∃ raw p', readParameter s p = .some (.ok raw, p') ∧ p ≤ p') ∧
      ((∃ e p', readClause s p = .some (.error e, p')) ∨
        ∃ c p', readClause s p = .some (.ok c, p') ∧ p < p')) ∧
    ∃ p, readClauses s [] 0 = some (Clause.parse s, p) ∧ IsPlace s p := by
  refine ⟨fun _ _ => slice?_isSome_iff, fun operations => ?_, ?_⟩
  · obtain ⟨left, hleft, hrun⟩ := exists_runAll operations (List.suffix_refl s.toList)
    rw [place_toList] at hrun
    exact ⟨_, hrun, Nat.sub_le .., isPlace_place hleft, readKey_moves hleft,
      readParameter_moves hleft, readClause_moves hleft⟩
  · obtain ⟨left, hleft, hread⟩ := readClauses_place (l := []) (List.suffix_refl s.toList)
    rw [place_toList] at hread
    refine ⟨_, ?_, isPlace_place hleft⟩
    rw [hread, Clause.parse]
    cases DemoQuery.readClauses s.toList <;> rfl

/-- Characters of two and three bytes, in a value and in one that has no end. -/
theorem runAll_stays_at_places_open_quote :
    (∃ p, runAll "name: \"é☃\", map: (\"é" [.readKey, .nextChar, .nextChar, .readQuoted] 0 =
      .some ((), p) ∧ IsPlace "name: \"é☃\", map: (\"é" p) ∧
    ∃ p, readClauses "name: \"é☃\", map: (\"é" [] 0 =
      .some (.error (.expectedParameter "(\"é"), p) ∧ IsPlace "name: \"é☃\", map: (\"é" p := by
  obtain ⟨-, hruns, p, hread, hp⟩ := runAll_stays_at_places "name: \"é☃\", map: (\"é"
  obtain ⟨p', hrun, -, hp', -⟩ := hruns [.readKey, .nextChar, .nextChar, .readQuoted]
  have hparse : Clause.parse "name: \"é☃\", map: (\"é" = .error (.expectedParameter "(\"é") := by
    decide +kernel
  rw [hparse] at hread
  exact ⟨⟨p', hrun, hp'⟩, p, hread, hp⟩

end DemoQuery.Cursor
