import DemoQuery.Proofs.Query.Requirements

/-!
# Conjunctions of queries

The query of the clauses of two lists, one behind the other, has the requirements of both lists in
this order and needs what either needs. A record matches it if it matches both.
-/

namespace DemoQuery

variable {p q : Query} {cs ds : List Clause} {r : Record}

/-- The requirements of both queries, and the needs of either. -/
def Query.and (p q : Query) : Query :=
  ⟨p.requirements ++ q.requirements, p.needs ∪ q.needs⟩

lemma Needs.union_assoc (a b c : Needs) : a ∪ b ∪ c = a ∪ (b ∪ c) :=
  Needs.ext (Bool.or_assoc ..) (Bool.or_assoc ..)

lemma Needs.union_empty (a : Needs) : a ∪ {} = a :=
  Needs.ext (Bool.or_false _) (Bool.or_false _)

@[simp] lemma Query.needs_and : (p.and q).needs = p.needs ∪ q.needs := rfl

@[simp] lemma Query.and_empty : p.and {} = p :=
  congrArg₂ Query.mk (List.append_nil _) (Needs.union_empty _)

lemma Query.push_and (p q : Query) (x : Requirement) : (p.and q).push x = p.and (q.push x) :=
  congrArg₂ Query.mk (List.append_assoc ..) (Needs.union_assoc ..)

lemma Query.foldl_push_and (xs : List Requirement) :
    xs.foldl push (p.and q) = p.and (xs.foldl push q) := by
  induction xs generalizing q with
  | nil => rfl
  | cons x xs ih => rw [List.foldl_cons, List.foldl_cons, push_and, ih]

@[simp] lemma Query.matches_and : (p.and q).matches r = (p.matches r && q.matches r) :=
  List.all_append

/-- Clauses behind those of a query add the query of their own. -/
lemma Query.ofClauses_append (hp : ofClauses cs = .ok p) (hq : ofClauses ds = .ok q) :
    ofClauses (cs ++ ds) = .ok (p.and q) := by
  obtain ⟨xs, hxs, rfl⟩ := foldlM_push_eq_ok_iff.1 hp
  obtain ⟨ys, hys, rfl⟩ := foldlM_push_eq_ok_iff.1 hq
  refine foldlM_push_eq_ok_iff.2 ⟨xs ++ ys, List.rel_append hxs hys, ?_⟩
  rw [List.foldl_append, ← foldl_push_and, and_empty]

end DemoQuery
