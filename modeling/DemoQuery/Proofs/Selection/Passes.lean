import DemoQuery.Proofs.Query.Agreement
import DemoQuery.Proofs.Query.Conjunction
import DemoQuery.Proofs.Selection.Supplied

/-!
# Selecting in passes

Selecting with the conjunction of two queries is selecting with one and then, from what it selects,
with the other. What is supplied is only what is absent, so a record comes out of a second pass with
the same query as it went in, even if the files have changed in between.
-/

namespace DemoQuery

variable {p q : Query} {r s : Record} {m n : Needs} {stat stat' : Stat}
  {directory directory' : Option String}

/-! ### Supplying twice -/

lemma Record.supply_supply :
    (r.supply m stat directory).supply n stat directory = r.supply (m ∪ n) stat directory := by
  rcases m with ⟨_ | _, _ | _⟩ <;> rcases n with ⟨_ | _, _ | _⟩ <;> rfl

/-- What has been supplied is not looked up again. -/
lemma Record.supply_supply_self :
    (r.supply n stat directory).supply n stat' directory' = r.supply n stat directory := by
  rcases n with ⟨_ | _, _ | _⟩ <;> rfl

/-- Supplying more does not change what was needed before. -/
lemma Record.agreeOn_supply_union (r : Record) (m n : Needs) (stat : Stat)
    (directory : Option String) :
    AgreeOn m (r.supply m stat directory) (r.supply (m ∪ n) stat directory) := by
  refine ⟨rfl, rfl, rfl, fun hh => ?_, fun hd => ?_⟩
  · simp only [supply, Needs.header_union, hh, Bool.true_or, if_true]
  · simp only [supply, Needs.fileData_union, hd, Bool.true_or, if_true]

/-! ### One record -/

lemma Query.WellFormed.select?_eq_some_iff (h : q.WellFormed) :
    q.select? stat directory r = some s ↔
      q.matches (r.supply q.needs stat directory) ∧ r.supply q.needs stat directory = s := by
  rw [h.select?_eq, Option.ite_none_right_eq_some, Option.some.injEq]

/-- A record is selected by both of two queries exactly if the second selects what the first makes
of it. -/
lemma Query.WellFormed.select?_and (hp : p.WellFormed) (hq : q.WellFormed)
    (hpq : (p.and q).WellFormed) :
    (p.and q).select? stat directory r =
      (p.select? stat directory r).bind (q.select? stat directory) := by
  have hmatches := hp.matches_congr
    (Record.agreeOn_supply_union r p.needs q.needs stat directory)
  rw [hpq.select?_eq, hp.select?_eq, matches_and, needs_and, ← hmatches]
  cases p.matches (r.supply p.needs stat directory) with
  | false => rfl
  | true =>
    rw [if_pos rfl, Option.bind_some, hq.select?_eq, Record.supply_supply, Bool.true_and]

lemma Query.WellFormed.select?_of_select? (h : q.WellFormed)
    (hs : q.select? stat directory r = some s) : q.select? stat' directory' s = some s := by
  obtain ⟨hm, rfl⟩ := h.select?_eq_some_iff.1 hs
  rw [h.select?_eq_some_iff, Record.supply_supply_self]
  exact ⟨hm, rfl⟩

/-! ### All records -/

/-- Selecting with the query of both of two lists of clauses is selecting with the query of the
first and then with that of the second. Selecting again with the same query changes nothing,
wherever the demos are looked up the second time and whatever is found there. -/
theorem Query.select_select :
    (∀ (cs ds : List Clause) (p q pq : Query),
        ofClauses cs = .ok p → ofClauses ds = .ok q → ofClauses (cs ++ ds) = .ok pq →
        ∀ stat directory records, pq.select stat directory records =
          q.select stat directory (p.select stat directory records)) ∧
      ∀ q : Query, q.IsCompiled → ∀ stat stat' directory directory' records,
        q.select stat' directory' (q.select stat directory records) =
          q.select stat directory records := by
  constructor
  · intro cs ds p q pq hp hq hpq stat directory records
    obtain rfl := Except.ok.inj ((ofClauses_append hp hq).symm.trans hpq)
    rw [select, select, select, List.filterMap_filterMap]
    refine List.filterMap_congr fun r _ => ?_
    exact (wellFormed_of_ofClauses hp).select?_and (wellFormed_of_ofClauses hq)
      (wellFormed_of_ofClauses hpq)
  · intro q h stat stat' directory directory' records
    rw [select, select, List.filterMap_filterMap]
    refine List.filterMap_congr fun r _ => ?_
    cases hs : q.select? stat directory r with
    | none => rfl
    | some s => exact h.wellFormed.select?_of_select? hs

/-- The first pass drops a demo by its name, the second supplies a header to the demo that is left
and looks up its file. A third finds the file grown and keeps to what it was. -/
theorem Query.select_select_grown_file :
    ∃ p q pq, ofClauses [⟨"name", false, .list ["b"]⟩] = .ok p ∧
      ofClauses [⟨"map", true, .list ["cp_"]⟩, ⟨"filesize", false, .range none (some "7")⟩] =
        .ok q ∧
      ofClauses [⟨"name", false, .list ["b"]⟩, ⟨"map", true, .list ["cp_"]⟩,
        ⟨"filesize", false, .range none (some "7")⟩] = .ok pq ∧
      q.select (fun _ => some ⟨7, 5⟩) (some "d")
          (p.select (fun _ => some ⟨7, 5⟩) (some "d")
            [⟨"a", [], [], none, none⟩, ⟨"b", [], [], none, none⟩]) =
        [⟨"b", [], [], some {}, some ⟨7, 5⟩⟩] ∧
      pq.select (fun _ => some ⟨9, 6⟩) (some "e") [⟨"b", [], [], some {}, some ⟨7, 5⟩⟩] =
        [⟨"b", [], [], some {}, some ⟨7, 5⟩⟩] := by
  obtain ⟨p, hp⟩ : ∃ p, ofClauses [⟨"name", false, .list ["b"]⟩] = .ok p :=
    exists_ok_of_isOk (by decide +kernel)
  obtain ⟨q, hq⟩ : ∃ q, ofClauses [⟨"map", true, .list ["cp_"]⟩,
      ⟨"filesize", false, .range none (some "7")⟩] = .ok q :=
    exists_ok_of_isOk (by decide +kernel)
  have hpq : (ofClauses [⟨"name", false, .list ["b"]⟩, ⟨"map", true, .list ["cp_"]⟩,
      ⟨"filesize", false, .range none (some "7")⟩]).toOption.map (fun pq =>
        pq.select (fun _ => some ⟨7, 5⟩) (some "d")
          [⟨"a", [], [], none, none⟩, ⟨"b", [], [], none, none⟩]) =
      some [⟨"b", [], [], some {}, some ⟨7, 5⟩⟩] := by
    decide +kernel
  obtain ⟨pq, hpq, hs⟩ := exists_ok_of_toOption_map hpq
  refine ⟨p, q, pq, hp, hq, hpq, ?_, ?_⟩
  · exact (select_select.1 _ _ p q pq hp hq hpq _ _ _).symm.trans hs
  · rw [← hs]
    exact select_select.2 pq (.ofClauses hpq) _ _ _ _ _

end DemoQuery
