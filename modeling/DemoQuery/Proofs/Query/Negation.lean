import DemoQuery.Proofs.Clause.Complete
import DemoQuery.Proofs.Query.Meaning
import DemoQuery.Proofs.Query.Refusals

/-!
# Negated clauses

An exclamation mark in front of a clause makes its requirement the opposite and changes nothing
else: neither how the filter is read, nor what is wrong with it, nor any other requirement. For a
range the opposite is not the negated expression but another range, so that it is the opposite is
a matter of what the two mean.
-/

namespace DemoQuery

open Text Grammar

variable {name : List Char} {before after l : List Clause} {c : Clause}

/-! ### Reading with and without the mark -/

/-- What is read behind a key does not depend on its mark. -/
lemma exists_readClause_keyText (hn : IsRun isKeyChar name) (cs : List Char) :
    ∃ x : Except FilterError (Parameter × List Char), ∀ negated,
      readClause (keyText negated name ++ cs) =
        x.map fun (p, rest) => (⟨.ofList name, negated, p⟩, rest) := by
  cases hp : readParameter? (skipBlanks cs) with
  | none =>
    refine ⟨.error (.expectedParameter (excerpt (skipBlanks cs))), fun negated => ?_⟩
    simp only [readClause, readKey?_keyText hn, hp]
    rfl
  | some x =>
    obtain ⟨p, rest⟩ := x
    cases hk : p.dropEmpty? with
    | none =>
      refine ⟨.error (.emptyParameter (.ofList name)), fun negated => ?_⟩
      simp only [readClause, readKey?_keyText hn, hp, hk]
      rfl
    | some p' =>
      refine ⟨.ok (p', rest), fun negated => ?_⟩
      simp only [readClause, readKey?_keyText hn, hp, hk]
      rfl

lemma exists_readClauses_keyText (hn : IsRun isKeyChar name) (cs : List Char) :
    ∃ x : Except FilterError (Parameter × List Clause), ∀ negated,
      readClauses (keyText negated name ++ cs) =
        x.map fun (p, l) => ⟨.ofList name, negated, p⟩ :: l := by
  obtain ⟨x, hx⟩ := exists_readClause_keyText hn cs
  refine ⟨x >>= fun (p, rest) => (readClauses rest).map fun l => (p, l), fun negated => ?_⟩
  obtain ⟨d, ds, hd, hb⟩ : ∃ d ds, keyText negated name = d :: ds ∧ isBlank d = false :=
    exists_cons_keyText hn
  have hskip : skipBlanks (keyText negated name ++ cs) = keyText negated name ++ cs := by
    rw [hd]
    exact dropWhile_of_stopsAt (stopsAt_cons.2 hb)
  rw [hd, List.cons_append] at hskip
  rw [hd, List.cons_append, readClauses_of_skipBlanks_cons hskip, ← List.cons_append, ← hd, hx]
  cases x with
  | error e => rfl
  | ok x =>
    show (readClauses x.2).map _ = ((readClauses x.2).map _).map _
    cases readClauses x.2 <;> rfl

/-! ### Opposite requirements -/

/-- Requirements of one key, the second negated, of which a record meets exactly one. -/
structure Requirement.Opposite (x y : Requirement) : Prop where
  key     : x.key = y.key
  needs   : x.needs = y.needs
  plain   : x.negated = false
  negated : y.negated = true
  holds   : ∀ r, y.holds r ↔ ¬ x.holds r

/-- `q.OppositeAt place name q'`: the two queries differ only in one requirement, the one behind
`place` others, which is for the key `name` and is the opposite in `q'` of what it is in `q`. -/
structure Query.OppositeAt (place : Nat) (name : String) (q q' : Query) : Prop where
  needs        : q.needs = q'.needs
  requirements : ∃ xs x y ys, q.requirements = xs ++ x :: ys ∧ q'.requirements = xs ++ y :: ys ∧
    xs.length = place ∧ x.key.name = name ∧ x.Opposite y

/-- What is wrong with a clause does not depend on its mark. -/
lemma Clause.Refused.negate {e : FilterError} (h : c.Refused e) (negated : Bool) :
    Refused ⟨c.key, negated, c.parameter⟩ e := by
  cases h with
  | unknownKey hk => exact .unknownKey (c := ⟨c.key, negated, c.parameter⟩) hk
  | noValue hk hp => exact .noValue hk hp
  | noBound hk => exact .noBound hk
  | rangeOfTexts hk hf hp => exact .rangeOfTexts hk hf hp
  | notInteger hk hf hp hvalues hbefore hv => exact .notInteger hk hf hp hvalues hbefore hv

lemma Clause.requirement_opposite (key : String) (p : Parameter) :
    (∃ e, ∀ negated, (⟨key, negated, p⟩ : Clause).requirement = .error e) ∨
      ∃ x y, (⟨key, false, p⟩ : Clause).requirement = .ok x ∧
        (⟨key, true, p⟩ : Clause).requirement = .ok y ∧ x.key.name = key ∧ x.Opposite y := by
  cases hx : (⟨key, false, p⟩ : Clause).requirement with
  | error e =>
    refine .inl ⟨e, fun negated => ?_⟩
    exact requirement_eq_error_iff.2 ((requirement_eq_error_iff.1 hx).negate negated)
  | ok x =>
    cases hy : (⟨key, true, p⟩ : Clause).requirement with
    | error e =>
      have hx' := requirement_eq_error_iff.2 ((requirement_eq_error_iff.1 hy).negate false)
      rw [hx] at hx'
      cases hx'
    | ok y =>
      have hholds : ∀ r, y.holds r ↔ ¬ x.holds r := fun r => by
        rw [holds_requirement_iff hx, holds_requirement_iff hy]
        exact Iff.rfl
      obtain ⟨k, _, hk, -, -, rfl⟩ := requirement_eq_ok_iff.1 hx
      obtain ⟨k', _, hk', -, -, rfl⟩ := requirement_eq_ok_iff.1 hy
      obtain rfl : k = k' := Option.some.inj (hk.symm.trans hk')
      exact .inr ⟨_, _, rfl, rfl, Key.name_of_find? hk, rfl, rfl, rfl, rfl, hholds⟩

/-! ### Opposite queries -/

lemma Query.ofClauses_append_cons :
    ofClauses (before ++ c :: after) =
      before.mapM Clause.requirement >>= fun xs => c.requirement >>= fun x =>
        after.mapM Clause.requirement >>= fun ys => .ok ((xs ++ x :: ys).foldl push {}) := by
  rw [ofClauses_eq_map, List.mapM_append, List.mapM_cons]
  cases before.mapM Clause.requirement with
  | error e => rfl
  | ok xs =>
    cases c.requirement with
    | error e => rfl
    | ok x => cases after.mapM Clause.requirement <;> rfl

lemma Query.needs_foldl_push_congr {q q' : Query} (h : q.needs = q'.needs) (ps : List Requirement) :
    (ps.foldl push q).needs = (ps.foldl push q').needs := by
  induction ps generalizing q q' with
  | nil => exact h
  | cons p ps ih => exact ih (congrArg (· ∪ p.needs) h)

lemma Query.oppositeAt_foldl_push {xs ys : List Requirement} {x y : Requirement}
    (h : x.Opposite y) :
    OppositeAt xs.length x.key.name ((xs ++ x :: ys).foldl push {})
      ((xs ++ y :: ys).foldl push {}) where
  needs := by
    rw [List.foldl_append, List.foldl_append]
    exact needs_foldl_push_congr (congrArg ((xs.foldl push {}).needs ∪ ·) h.needs) ys
  requirements := ⟨xs, x, y, ys, by rw [requirements_foldl_push]; rfl,
    by rw [requirements_foldl_push]; rfl, rfl, rfl, h⟩

lemma Query.ofClauses_opposite (before : List Clause) (key : String) (p : Parameter)
    (after : List Clause) :
    (∃ e, ∀ negated, ofClauses (before ++ ⟨key, negated, p⟩ :: after) = .error e) ∨
      ∃ q q', ofClauses (before ++ ⟨key, false, p⟩ :: after) = .ok q ∧
        ofClauses (before ++ ⟨key, true, p⟩ :: after) = .ok q' ∧
        q.OppositeAt before.length key q' := by
  simp only [ofClauses_append_cons]
  cases hbefore : before.mapM Clause.requirement with
  | error e => exact .inl ⟨e, fun _ => rfl⟩
  | ok xs =>
    have hlength : before.length = xs.length := (mapM_eq_ok_iff.1 hbefore).length_eq
    rcases Clause.requirement_opposite key p with ⟨e, he⟩ | ⟨x, y, hx, hy, rfl, hxy⟩
    · exact .inl ⟨e, fun negated => by rw [he]; rfl⟩
    · cases after.mapM Clause.requirement with
      | error e =>
        refine .inl ⟨e, fun negated => ?_⟩
        cases negated with
        | false => rw [hx]; rfl
        | true => rw [hy]; rfl
      | ok ys =>
        rw [hx, hy, hlength]
        exact .inr ⟨_, _, rfl, rfl, oppositeAt_foldl_push hxy⟩

/-- An exclamation mark in front of a clause, which stands at the start of a filter or behind
complete clauses: either way the same is wrong with the filter, or the two queries differ in the
requirement of this clause alone, of which the one is the opposite of the other. -/
theorem Query.parse_exclamation {a b : String} {rest : List Char} (ha : Clause.parse a = .ok l)
    (hend : IsRun isBlank a.toList ∨ lastNonBlank? a.toList = some ',')
    (hn : IsRun isKeyChar name) (hb : b.toList = name ++ ':' :: rest) :
    (∃ e, parse (a ++ b) = .error e ∧ parse (a ++ "!" ++ b) = .error e) ∨
      ∃ q q', parse (a ++ b) = .ok q ∧ parse (a ++ "!" ++ b) = .ok q' ∧
        q.OppositeAt l.length (.ofList name) q' := by
  have hlast : ∀ d ∈ lastNonBlank? a.toList, d = ',' := by
    rcases hend with hblank | hcomma
    · simp [lastNonBlank?_blanks hblank]
    · simp [hcomma, eq_comm]
  have hcomplete : Complete a.toList l := complete_of_readClauses ha hlast
  obtain ⟨x, hx⟩ := exists_readClauses_keyText hn rest
  have hplain : Clause.parse (a ++ b) =
      (x.map fun (p, l) => ⟨.ofList name, false, p⟩ :: l).map (l ++ ·) := by
    rw [Clause.parse, String.toList_append, readClauses_complete_append hcomplete, ← hx]
    simp [keyText, hb]
  have hnegated : Clause.parse (a ++ "!" ++ b) =
      (x.map fun (p, l) => ⟨.ofList name, true, p⟩ :: l).map (l ++ ·) := by
    rw [Clause.parse, String.toList_append, String.toList_append, List.append_assoc,
      readClauses_complete_append hcomplete, ← hx]
    simp [keyText, hb]
  cases x with
  | error e => exact .inl ⟨e, by rw [parse, hplain]; rfl, by rw [parse, hnegated]; rfl⟩
  | ok x =>
    obtain ⟨p, after⟩ := x
    rw [parse, parse, hplain, hnegated]
    rcases ofClauses_opposite l (.ofList name) p after with ⟨e, he⟩ | ⟨q, q', hq, hq', h⟩
    · exact .inl ⟨e, he false, he true⟩
    · exact .inr ⟨q, q', hq, hq', h⟩

/-- A reversed range, behind one clause and in front of another: with the mark every record meets
it, as none does without. -/
theorem Query.parse_exclamation_reversed_range :
    ∃ q q', parse "map: cp , beststreak: 9..3, !name: (x)" = .ok q ∧
      parse "map: cp , !beststreak: 9..3, !name: (x)" = .ok q' ∧
      q.OppositeAt 1 "beststreak" q' := by
  have ha : Clause.parse "map: cp , " = .ok [⟨"map", false, .list ["cp"]⟩] := by decide +kernel
  have hend : lastNonBlank? "map: cp , ".toList = some ',' := by decide +kernel
  have hn : IsRun isKeyChar "beststreak".toList := by decide
  have hb : "beststreak: 9..3, !name: (x)".toList =
      "beststreak".toList ++ ':' :: " 9..3, !name: (x)".toList := by decide
  have hok : (parse "map: cp , beststreak: 9..3, !name: (x)").isOk := by decide +kernel
  rcases parse_exclamation ha (.inr hend) hn hb with ⟨e, he, -⟩ | h
  · obtain ⟨q, hq⟩ := exists_ok_of_isOk hok
    cases hq.symm.trans he
  · exact h

end DemoQuery
