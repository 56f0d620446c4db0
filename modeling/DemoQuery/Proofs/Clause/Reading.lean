import DemoQuery.Proofs.Clause.Choice
import DemoQuery.Proofs.Failure

/-!
# Reading clauses and filters

The reader of filters accepts exactly the texts that the grammar derives, with the clauses that
they are derived with.
-/

namespace DemoQuery

open Text Grammar

variable {form : Form} {cs text behind rest ws : List Char} {p p' : Parameter} {c : Clause}
  {l : List Clause} {negated : Bool} {key : String} {name : List Char}

/-! ### Keys -/

lemma exists_cons_keyText (h : IsRun isKeyChar name) :
    ∃ d ds, keyText negated name = d :: ds ∧ isBlank d = false := by
  cases negated with
  | true => exact ⟨'!', _, rfl, by decide⟩
  | false =>
    cases name with
    | nil => exact ⟨':', [], rfl, by decide⟩
    | cons d ds => exact ⟨d, ds ++ [':'], rfl, isBlank_of_isKeyChar (h d (by simp))⟩

/-- A name with its colon starts with no exclamation mark. -/
lemma head?_name_ne (h : IsRun isKeyChar name) : (name ++ ':' :: rest).head? ≠ some '!' := by
  cases name with
  | nil => simp
  | cons d ds =>
    rw [List.cons_append, List.head?_cons, ne_eq, Option.some_inj]
    rintro rfl
    exact absurd (h '!' (by simp)) (by decide)

lemma exists_name_of_readKey? (h : readKey? cs = some (negated, key, rest)) :
    ∃ name, IsRun isKeyChar name ∧ key = .ofList name ∧ cs = keyText negated name ++ rest := by
  have hmark : cs = (if cs.head? == some '!' then ['!'] else []) ++
      (if cs.head? == some '!' then cs.tail else cs) := by
    split
    · next hhead => exact (List.cons_head?_tail (by simpa using hhead)).symm
    · rfl
  unfold readKey? at h
  dsimp only at h
  split at h
  · next hcolon =>
    obtain ⟨rfl, rfl, rfl⟩ := by simpa only [Option.some.injEq, Prod.mk.injEq] using h
    refine ⟨_, isRun_takeWhile, rfl, ?_⟩
    rw [keyText, List.append_assoc, List.append_assoc, List.singleton_append, ← hcolon,
      List.takeWhile_append_dropWhile]
    exact hmark
  · simp at h

lemma readKey?_keyText (h : IsRun isKeyChar name) :
    readKey? (keyText negated name ++ rest) = some (negated, .ofList name, rest) := by
  have hcolon : StopsAt isKeyChar (':' :: rest) := stopsAt_cons.2 (by decide)
  have htake := takeWhile_run_append h hcolon
  have hdrop := dropWhile_run_append h hcolon
  cases negated with
  | true => simp [readKey?, keyText, htake, hdrop]
  | false =>
    have hmark : ((name ++ ':' :: rest).head? == some '!') = false :=
      beq_eq_false_iff_ne.2 (head?_name_ne h)
    have hcs : keyText false name ++ rest = name ++ ':' :: rest := by simp [keyText]
    simp only [readKey?, hcs, hmark, Bool.false_eq_true, if_false, htake, hdrop]

/-! ### Values that count -/

lemma dropEmpty?_eq_some_iff : p.dropEmpty? = some p' ↔ Keeps p p' := by
  constructor
  · intro h
    cases p with
    | list vs =>
      simp only [Parameter.dropEmpty?] at h
      split at h
      · cases h
      · next v vs' hvs =>
        obtain rfl := Option.some.inj h
        rw [← hvs]
        exact .list (by rw [hvs]; exact List.cons_ne_nil v vs')
    | range lower upper =>
      obtain rfl := Option.some.inj h
      exact .range
  · intro h
    cases h with
    | @list vs hne =>
      obtain ⟨v, vs', hvs⟩ := List.exists_cons_of_ne_nil hne
      simp only [Parameter.dropEmpty?, hvs]
    | range => rfl

/-- A non-empty run of key characters starts with no blank. -/
lemma stopsAt_isBlank_of_isRun (h : IsRun isKeyChar cs) (hne : cs ≠ []) :
    StopsAt isBlank (cs ++ rest) := by
  obtain ⟨d, ds, rfl⟩ := List.exists_cons_of_ne_nil hne
  exact stopsAt_cons.2 (isBlank_of_isKeyChar (h d (by simp)))

lemma isRun_isKeyChar_of_isDigit (h : IsRun Char.isDigit cs) : IsRun isKeyChar cs :=
  fun c hc => isKeyChar_of_isDigit (h c hc)

/-- A parameter of which something is kept starts with no blank. -/
lemma Grammar.Derives.stopsAt_isBlank (h : Derives form text p) (hk : Keeps p p') :
    StopsAt isBlank (text ++ rest) := by
  cases h with
  | quotedTuple _ _ _ _ => exact stopsAt_cons.2 (by decide)
  | plainTuple _ _ _ => exact stopsAt_cons.2 (by decide)
  | rangeBetween hd hds _ _ =>
    rw [List.append_assoc]
    exact stopsAt_isBlank_of_isRun (isRun_isKeyChar_of_isDigit hds) hd
  | rangeFrom hd hds =>
    rw [List.append_assoc]
    exact stopsAt_isBlank_of_isRun (isRun_isKeyChar_of_isDigit hds) hd
  | rangeTo _ _ => exact stopsAt_cons.2 (by decide)
  | plainValue h =>
    -- it may be empty, but then nothing of it is kept
    refine stopsAt_isBlank_of_isRun h ?_
    rintro rfl
    cases hk with
    | list hne => exact hne (by decide)
  | quotedValue h => exact stopsAt_of_startsQuoted (startsQuoted_of_quotedValue h)

/-! ### Clauses -/

lemma readClause_eq_ok_iff : readClause cs = .ok (c, rest) ↔
    ∃ text behind, IsClause text c ∧ Ends behind rest ∧ cs = text ++ behind := by
  constructor
  · intro h
    rw [readClause] at h
    split at h
    · simp at h
    · next negated key behind hkey =>
      split at h
      · simp at h
      · next p rest' hp =>
        split at h
        · simp at h
        · next p' hk =>
          obtain ⟨rfl, rfl⟩ := Prod.mk.inj (Except.ok.inj h)
          obtain ⟨name, hn, rfl, rfl⟩ := exists_name_of_readKey? hkey
          obtain ⟨ws, hw, hbehind⟩ := exists_blanks behind
          obtain ⟨form, text, behind', hderives, hend, hskip⟩ := readParameter?_eq_some_iff.1 hp
          refine ⟨_, behind', .mk hn hw hderives (dropEmpty?_eq_some_iff.1 hk), hend, ?_⟩
          rw [hbehind, hskip]
          simp only [List.append_assoc]
  · rintro ⟨text, behind, htext, hend, rfl⟩
    cases htext with
    | @mk negated name ws text form p p' hn hw hp hk =>
      have hskip : skipBlanks (ws ++ (text ++ behind)) = text ++ behind :=
        skipBlanks_append hw (hp.stopsAt_isBlank hk)
      have hread := readParameter?_eq_some_iff.2 ⟨form, text, behind, hp, hend, rfl⟩
      simp only [readClause, List.append_assoc, readKey?_keyText hn, hskip, hread,
        dropEmpty?_eq_some_iff.2 hk]

/-- A clause starts with no blank. -/
lemma Grammar.IsClause.exists_cons (h : IsClause text c) :
    ∃ d ds, text = d :: ds ∧ isBlank d = false := by
  cases h with
  | mk hn _ _ _ =>
    obtain ⟨d, ds, hd, hb⟩ := exists_cons_keyText hn
    exact ⟨d, _, by rw [hd]; rfl, hb⟩

lemma Grammar.IsClause.stopsAt_isBlank (h : IsClause text c) : StopsAt isBlank (text ++ rest) := by
  obtain ⟨d, ds, rfl, hd⟩ := h.exists_cons
  exact stopsAt_cons.2 hd

/-- A text starts with one clause at most. -/
lemma Grammar.IsClause.unique {text' behind' rest' : List Char} {c' : Clause}
    (h : IsClause text c) (h' : IsClause text' c') (hend : Ends behind rest)
    (hend' : Ends behind' rest') (heq : text ++ behind = text' ++ behind') :
    c = c' ∧ rest = rest' := by
  have hread := readClause_eq_ok_iff.2 ⟨text, behind, h, hend, rfl⟩
  rw [readClause_eq_ok_iff.2 ⟨text', behind', h', hend', heq⟩] at hread
  obtain ⟨rfl, rfl⟩ := Prod.mk.inj (Except.ok.inj hread)
  exact ⟨rfl, rfl⟩

/-! ### Filters -/

lemma readClauses_of_skipBlanks_nil (hskip : skipBlanks cs = []) : readClauses cs = .ok [] := by
  rw [readClauses]
  split
  · rfl
  · next hcons => rw [hskip] at hcons; cases hcons

/-- What is left behind the blanks is read clause by clause. -/
lemma readClauses_of_skipBlanks_cons {d : Char} {ds : List Char} (hskip : skipBlanks cs = d :: ds) :
    readClauses cs = readClause (d :: ds) >>= fun (c, rest) => (readClauses rest).map (c :: ·) := by
  rw [readClauses]
  split
  · next hnil => rw [hskip] at hnil; cases hnil
  · next hcons =>
    obtain ⟨rfl, rfl⟩ := List.cons.inj (hskip.symm.trans hcons)
    split
    · next herror => rw [herror]; rfl
    · next hok => rw [hok]; rfl

lemma readClauses_blanks (hw : IsRun isBlank ws) : readClauses ws = .ok [] :=
  readClauses_of_skipBlanks_nil (by simpa using skipBlanks_append hw stopsAt_nil)

lemma readClauses_blanks_append (hw : IsRun isBlank ws) :
    readClauses (ws ++ cs) = readClauses cs := by
  have hskip : skipBlanks (ws ++ cs) = skipBlanks cs := List.dropWhile_append_of_pos hw
  cases h : skipBlanks cs with
  | nil =>
    rw [readClauses_of_skipBlanks_nil h, readClauses_of_skipBlanks_nil (hskip.trans h)]
  | cons d ds =>
    rw [readClauses_of_skipBlanks_cons h, readClauses_of_skipBlanks_cons (hskip.trans h)]

/-- A clause is read in front of the others. -/
lemma readClauses_clause (hw : IsRun isBlank ws) (h : IsClause text c) (hend : Ends behind rest) :
    readClauses (ws ++ (text ++ behind)) = (readClauses rest).map (c :: ·) := by
  obtain ⟨d, ds, rfl, hb⟩ := h.exists_cons
  have hskip : skipBlanks (ws ++ (d :: ds ++ behind)) = d :: (ds ++ behind) :=
    skipBlanks_append hw (stopsAt_cons.2 hb)
  have hread : readClause (d :: (ds ++ behind)) = .ok (c, rest) :=
    readClause_eq_ok_iff.2 ⟨d :: ds, behind, h, hend, rfl⟩
  rw [readClauses_of_skipBlanks_cons hskip, hread]
  rfl

lemma isFilter_of_readClauses (h : readClauses cs = .ok l) : IsFilter cs l := by
  fun_induction readClauses cs generalizing l with
  | case1 cs hs =>
    obtain rfl := Except.ok.inj h
    obtain ⟨ws, hw, hcs⟩ := exists_blanks cs
    rw [hcs, hs]
    exact .mk hw .nil
  | case2 => cases h
  | case3 cs d ds hs c rest hc ih =>
    obtain ⟨l', hl, rfl⟩ := (map_eq_ok_iff ..).1 h
    obtain ⟨ws, hw, hcs⟩ := exists_blanks cs
    obtain ⟨text, behind, htext, hend, htb⟩ := readClause_eq_ok_iff.1 hc
    rw [hcs, hs, htb]
    cases hend with
    | filter hw' =>
      -- nothing is left, of which there are no clauses
      obtain rfl := Except.ok.inj ((readClauses_blanks isRun_nil).symm.trans hl)
      exact .mk hw (.last htext hw')
    | comma hw₁ =>
      obtain ⟨hw₂, hs'⟩ := ih hl
      exact .mk hw (by simpa using Clauses.more htext hw₁ hw₂ hs')

lemma readClauses_of_clauses (h : Clauses cs l) (hw : IsRun isBlank ws) :
    readClauses (ws ++ cs) = .ok l := by
  -- the blanks behind a comma stand in front of the next clause, so the induction is for any
  induction h generalizing ws with
  | nil =>
    rw [List.append_nil]
    exact readClauses_blanks hw
  | last h hw' =>
    rw [readClauses_clause hw h (.filter hw'), readClauses_blanks isRun_nil]
    rfl
  | more h hw₁ hw₂ _ ih =>
    simp only [List.append_assoc, List.cons_append]
    rw [readClauses_clause hw h (.comma hw₁), ih hw₂]
    rfl

lemma readClauses_eq_ok_iff : readClauses cs = .ok l ↔ IsFilter cs l := by
  constructor
  · exact isFilter_of_readClauses
  · rintro ⟨hw, hs⟩
    exact readClauses_of_clauses hs hw

/-- A filter is read exactly if the grammar derives it, as the clauses that it is derived with. -/
theorem Clause.parse_eq_ok_iff_isFilter (filter : String) (l : List Clause) :
    Clause.parse filter = .ok l ↔ IsFilter filter.toList l :=
  readClauses_eq_ok_iff

end DemoQuery
