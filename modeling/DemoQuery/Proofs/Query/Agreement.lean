import DemoQuery.Proofs.Query.Requirements

/-!
# Needs are enough

A query says what it needs of a record beyond its name and its events. Records that agree on that
much are the same to the query, and each of its requirements keeps to its own needs in the same
way. Nothing that was not asked for is ever read.
-/

namespace DemoQuery

variable {r s : Record} {m n : Needs} {p : Requirement} {q : Query} {c : Clause} {cs : List Clause}

/-! ### Agreement -/

lemma Record.AgreeOn.weaken (h : AgreeOn n r s) (header : m.header → n.header)
    (fileData : m.fileData → n.fileData) : AgreeOn m r s where
  name := h.name
  killstreaks := h.killstreaks
  bookmarks := h.bookmarks
  header hm := h.header (header hm)
  fileData hm := h.fileData (fileData hm)

/-- Agreement on what a query needs is agreement on what each of its requirements needs. -/
lemma Query.WellFormed.agreeOn_of_mem (h : q.WellFormed) (hp : p ∈ q.requirements)
    (ha : Record.AgreeOn q.needs r s) : Record.AgreeOn p.needs r s := by
  refine ha.weaken (fun hh => ?_) (fun hd => ?_)
  · rw [h.needs_header]
    exact List.any_eq_true.2 ⟨p, hp, hh⟩
  · rw [h.needs_fileData]
    exact List.any_eq_true.2 ⟨p, hp, hd⟩

lemma Query.WellFormed.matches_congr (h : q.WellFormed) (ha : Record.AgreeOn q.needs r s) :
    q.matches r = q.matches s := by
  rw [Bool.eq_iff_iff, Query.matches, Query.matches, List.all_eq_true, List.all_eq_true]
  refine forall₂_congr fun p hp => ?_
  rw [(h.requirement p hp).holds_congr (h.agreeOn_of_mem hp ha)]

/-! ### The needs of several requirements -/

/-- What any of several needs. -/
def Needs.unions (ns : List Needs) : Needs :=
  ns.foldr (· ∪ ·) {}

@[simp] lemma Needs.header_unions (ns : List Needs) : (unions ns).header = ns.any (·.header) := by
  induction ns with
  | nil => rfl
  | cons n ns ih => rw [List.any_cons, ← ih]; rfl

@[simp] lemma Needs.fileData_unions (ns : List Needs) :
    (unions ns).fileData = ns.any (·.fileData) := by
  induction ns with
  | nil => rfl
  | cons n ns ih => rw [List.any_cons, ← ih]; rfl

lemma Needs.unions_congr {ns ms : List Needs} (h : ∀ n, n ∈ ns ↔ n ∈ ms) :
    unions ns = unions ms := by
  ext
  · rw [header_unions, header_unions, Bool.eq_iff_iff]
    simp only [List.any_eq_true, h]
  · rw [fileData_unions, fileData_unions, Bool.eq_iff_iff]
    simp only [List.any_eq_true, h]

lemma Query.WellFormed.needs_eq_unions (h : q.WellFormed) :
    q.needs = Needs.unions (q.requirements.map (·.needs)) := by
  ext
  · rw [h.needs_header, Needs.header_unions, List.any_map]
    rfl
  · rw [h.needs_fileData, Needs.fileData_unions, List.any_map]
    rfl

/-! ### The requirement of a clause -/

/-- `c.Requires p`: `p` has the key that the clause `c` names, with what this key needs, and demands
what the parameter of the clause asks for, negated if the clause is. -/
structure Clause.Requires (c : Clause) (p : Requirement) : Prop where
  key     : Key.find? c.key = some p.key
  negated : p.negated = c.negated
  needs   : p.needs = p.key.needs
  demands : p.key.Demands c.negated c.parameter p.expr

lemma Clause.requires_of_requirement (h : c.requirement = .ok p) : c.Requires p := by
  obtain ⟨k, e, hk, -, he, rfl⟩ := requirement_eq_ok_iff.1 h
  exact ⟨hk, rfl, rfl, Key.demands_of_expr he⟩

lemma Query.requires_of_ofClauses (h : ofClauses cs = .ok q) :
    List.Forall₂ Clause.Requires cs q.requirements :=
  (requirements_of_ofClauses h).imp fun _ _ => Clause.requires_of_requirement

/-- What a query needs is enough: it does not tell apart records that agree on it, nor does a
requirement tell apart those that agree on its own needs. A query needs what its requirements do,
one for each clause in their order, each with the needs of its key. -/
theorem Query.needs_suffice (h : q.IsCompiled) :
    (∀ r s, Record.AgreeOn q.needs r s → q.matches r = q.matches s) ∧
      (∀ p ∈ q.requirements, ∀ r s, Record.AgreeOn p.needs r s → p.holds r = p.holds s) ∧
      q.needs = Needs.unions (q.requirements.map (·.needs)) ∧
      (∀ p ∈ q.requirements, p.key ∈ Key.all ∧ p.needs = p.key.needs) ∧
      (∀ cs, ofClauses cs = .ok q → List.Forall₂ Clause.Requires cs q.requirements) ∧
      ∀ filter, parse filter = .ok q →
        ∃ cs, Clause.parse filter = .ok cs ∧ List.Forall₂ Clause.Requires cs q.requirements := by
  have hq := h.wellFormed
  refine ⟨fun r s => hq.matches_congr, fun p hp r s => (hq.requirement p hp).holds_congr,
    hq.needs_eq_unions, fun p hp => ?_, fun cs => requires_of_ofClauses, fun filter hfilter => ?_⟩
  · obtain ⟨hmem, hneeds, -⟩ := hq.requirement p hp
    exact ⟨hmem, hneeds.trans (Key.needs_eq_field_needs hmem).symm⟩
  · obtain ⟨cs, hcs, hof⟩ := bind_eq_ok_iff.1 hfilter
    exact ⟨cs, hcs, requires_of_ofClauses hof⟩

/-- A filter on the map and the name needs the header alone, so whatever is known of the file does
not matter to it. -/
theorem Query.needs_suffice_any_file :
    ∃ q, parse "map: koth, !name: b" = .ok q ∧ q.needs = { header := true } ∧
      ∀ d, q.matches ⟨"a.dem", [], [], some { mapName := "koth_rc8" }, d⟩ =
        q.matches ⟨"a.dem", [], [], some { mapName := "koth_rc8" }, none⟩ := by
  have hm : (parse "map: koth, !name: b").toOption.map (·.needs) = some { header := true } := by
    decide +kernel
  obtain ⟨q, h, hneeds⟩ := exists_ok_of_toOption_map hm
  refine ⟨q, h, hneeds, fun d => (needs_suffice (.parse h)).1 _ _ ?_⟩
  refine ⟨rfl, rfl, rfl, fun _ => rfl, fun hd => ?_⟩
  rw [hneeds] at hd
  cases hd

end DemoQuery
