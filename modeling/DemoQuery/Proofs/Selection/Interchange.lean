import DemoQuery.Proofs.Query.Agreement
import DemoQuery.Proofs.Query.Meaning
import DemoQuery.Proofs.Selection.Supplied

/-!
# Order and repetition

Of a list of clauses only the set of its elements matters, and of a list of values too. Everything
that can be observed of a query is said of clauses and values one by one: whether there is one, what
it needs, which records match it. What it selects follows from what it needs and matches.
-/

namespace DemoQuery

variable {r : Record} {k : Key} {c d : Clause} {cs ds : List Clause} {p p' : Parameter}

/-! ### Parameters and clauses that differ in order and repetition -/

/-- Parameters that have the same values, or are the same range. -/
inductive Parameter.Alike : Parameter → Parameter → Prop
  | list {vs ws : List String} (h : ∀ v, v ∈ vs ↔ v ∈ ws) : Alike (.list vs) (.list ws)
  | range {lower upper : Option String} : Alike (.range lower upper) (.range lower upper)

/-- Clauses that differ at most in how often and in what order they list their values. -/
structure Clause.Alike (c d : Clause) : Prop where
  key       : c.key = d.key
  negated   : c.negated = d.negated
  parameter : c.parameter.Alike d.parameter

lemma Parameter.Alike.refl : (p : Parameter) → p.Alike p
  | .list _    => .list fun _ => Iff.rfl
  | .range _ _ => .range

lemma Parameter.Alike.symm (h : p.Alike p') : p'.Alike p := by
  cases h with
  | list h => exact .list fun v => (h v).symm
  | range => exact .range

lemma Clause.Alike.symm (h : c.Alike d) : d.Alike c :=
  ⟨h.key.symm, h.negated.symm, h.parameter.symm⟩

lemma Parameter.Alike.validate_eq {key : String} (h : p.Alike p') :
    p.validate key = p'.validate key := by
  cases h with
  | @list vs ws h =>
    have hnil : vs = [] ↔ ws = [] := by simp only [List.eq_nil_iff_forall_not_mem, h]
    simp only [validate, hnil, h]
  | range => rfl

lemma Key.exists_expr_list_iff {negated : Bool} {vs : List String} :
    (∃ e, k.expr negated (.list vs) = .ok e) ↔
      ∀ n, k.field = .number n → ∀ v ∈ vs, ∃ i, k.number v = .ok i := by
  cases hf : k.field with
  | text t => simp [expr, hf]
  | number n =>
    simp only [expr, hf, bind_eq_ok_iff, Field.number.injEq, forall_eq', ← exists_mapM_eq_ok_iff]
    constructor
    · rintro ⟨_, ns, hns, -⟩
      exact ⟨ns, hns⟩
    · rintro ⟨ns, hns⟩
      exact ⟨_, ns, hns, rfl⟩

lemma Parameter.Alike.exists_expr {negated : Bool} {e : Expr} (h : p.Alike p')
    (he : k.expr negated p = .ok e) : ∃ e', k.expr negated p' = .ok e' := by
  cases h with
  | list h =>
    rw [Key.exists_expr_list_iff]
    simp only [← h]
    exact Key.exists_expr_list_iff.1 ⟨e, he⟩
  | range => exact ⟨e, he⟩

/-- Of clauses that are alike, both make sense or neither does. -/
lemma Clause.Alike.exists_requirement (h : c.Alike d) (hc : ∃ x, c.requirement = .ok x) :
    ∃ y, d.requirement = .ok y := by
  obtain ⟨x, hx⟩ := hc
  obtain ⟨k, e, hk, hv, he, -⟩ := requirement_eq_ok_iff.1 hx
  obtain ⟨e', he'⟩ := h.parameter.exists_expr he
  rw [h.key] at hk
  rw [h.parameter.validate_eq] at hv
  rw [h.negated] at he'
  exact ⟨_, requirement_eq_ok_iff.2 ⟨k, e', hk, hv, he', rfl⟩⟩

lemma Record.Satisfies.of_alike {name : String} (h : r.Satisfies name p) (hp : p.Alike p') :
    r.Satisfies name p' := by
  cases hp with
  | list hvs =>
    cases h with
    | contains ht hv h => exact .contains ht ((hvs _).1 hv) h
    | equals hn hv h => exact .equals hn ((hvs _).1 hv) h
  | range => exact h

/-- Clauses that are alike say the same of a record. -/
lemma Clause.Alike.holds_iff (h : c.Alike d) : c.Holds r ↔ d.Holds r := by
  have hsat : r.Satisfies d.key c.parameter ↔ r.Satisfies d.key d.parameter :=
    ⟨(·.of_alike h.parameter), (·.of_alike h.parameter.symm)⟩
  rw [Holds, Holds, h.negated, h.key, hsat]

/-! ### What clauses need -/

/-- What the key of a clause needs, if there is such a key. -/
def Clause.needs (c : Clause) : Needs :=
  ((Key.find? c.key).map (·.needs)).getD {}

lemma Clause.Requires.needs_eq {x : Requirement} (h : c.Requires x) : c.needs = x.needs := by
  rw [Clause.needs, h.key, h.needs]
  rfl

lemma Query.needs_of_ofClauses {q : Query} (h : ofClauses cs = .ok q) :
    q.needs = Needs.unions (cs.map (·.needs)) := by
  have hmap : cs.map (·.needs) = q.requirements.map (·.needs) := by
    rw [← List.forall₂_eq_eq_eq, List.forall₂_map_left_iff, List.forall₂_map_right_iff]
    exact (requires_of_ofClauses h).imp fun _ _ hx => hx.needs_eq
  rw [hmap]
  exact (wellFormed_of_ofClauses h).needs_eq_unions

/-! ### Lists of clauses -/

/-- Each of some clauses is like one of some others. -/
def Clause.Covered (cs ds : List Clause) : Prop :=
  ∀ c ∈ cs, ∃ d ∈ ds, c.Alike d

lemma Clause.covered_of_mem (h : ∀ c ∈ cs, c ∈ ds) : Covered cs ds := fun c hc =>
  ⟨c, h c hc, rfl, rfl, .refl _⟩

lemma Clause.Covered.exists_ofClauses (h : Covered cs ds) (hds : ∃ q, Query.ofClauses ds = .ok q) :
    ∃ q, Query.ofClauses cs = .ok q := by
  rw [Query.exists_ofClauses_iff] at hds ⊢
  intro c hc
  obtain ⟨d, hd, hcd⟩ := h c hc
  exact hcd.symm.exists_requirement (hds d hd)

lemma Clause.Covered.holds (h : Covered cs ds) (hds : ∀ d ∈ ds, d.Holds r) :
    ∀ c ∈ cs, c.Holds r := by
  intro c hc
  obtain ⟨d, hd, hcd⟩ := h c hc
  exact hcd.holds_iff.2 (hds d hd)

lemma Clause.Covered.mem_needs {n : Needs} (h : Covered cs ds) (hn : n ∈ cs.map (·.needs)) :
    n ∈ ds.map (·.needs) := by
  obtain ⟨c, hc, rfl⟩ := List.mem_map.1 hn
  obtain ⟨d, hd, hcd⟩ := h c hc
  refine List.mem_map.2 ⟨d, hd, ?_⟩
  rw [Clause.needs, Clause.needs, hcd.key]

/-! ### Lists that can stand for each other -/

/-- Two lists of clauses can stand for each other: if one makes a query so does the other, and the
two queries need, match and select the same. -/
structure Clause.Interchangeable (cs ds : List Clause) : Prop where
  compiles : (∃ p, Query.ofClauses cs = .ok p) ↔ ∃ q, Query.ofClauses ds = .ok q
  same     : ∀ p q, Query.ofClauses cs = .ok p → Query.ofClauses ds = .ok q →
    p.needs = q.needs ∧ (∀ r, p.matches r = q.matches r) ∧
      ∀ stat directory records, p.select stat directory records = q.select stat directory records

/-- Queries that need and match the same select the same. -/
lemma Query.WellFormed.select_congr {p q : Query} (hp : p.WellFormed) (hq : q.WellFormed)
    (needs : p.needs = q.needs) (matching : ∀ r, p.matches r = q.matches r) (stat : Stat)
    (directory : Option String) (records : List Record) :
    p.select stat directory records = q.select stat directory records := by
  rw [select, select]
  refine List.filterMap_congr fun r _ => ?_
  rw [hp.select?_eq, hq.select?_eq, needs, matching]

lemma Clause.interchangeable_of_covered (h : Covered cs ds) (h' : Covered ds cs) :
    Interchangeable cs ds where
  compiles := ⟨h'.exists_ofClauses, h.exists_ofClauses⟩
  same p q hp hq := by
    have hneeds : p.needs = q.needs := by
      rw [Query.needs_of_ofClauses hp, Query.needs_of_ofClauses hq]
      exact Needs.unions_congr fun n => ⟨h.mem_needs, h'.mem_needs⟩
    have hmatches : ∀ r, p.matches r = q.matches r := by
      intro r
      rw [Bool.eq_iff_iff, Query.matches, Query.matches,
        all_holds_requirement_iff (Query.requirements_of_ofClauses hp),
        all_holds_requirement_iff (Query.requirements_of_ofClauses hq)]
      exact ⟨h'.holds, h.holds⟩
    exact ⟨hneeds, hmatches, (Query.wellFormed_of_ofClauses hp).select_congr
      (Query.wellFormed_of_ofClauses hq) hneeds hmatches⟩

/-- Only the set of clauses matters, and in each clause only the set of values: in whatever order
and however often they are listed, the query is there or not, needs, matches and selects the same. -/
theorem Clause.interchangeable (cs ds : List Clause) :
    ((∀ c, c ∈ cs ↔ c ∈ ds) → Interchangeable cs ds) ∧
      (List.Forall₂ Clause.Alike cs ds → Interchangeable cs ds) := by
  constructor
  · intro h
    exact interchangeable_of_covered (covered_of_mem fun c => (h c).1)
      (covered_of_mem fun c => (h c).2)
  · intro h
    refine interchangeable_of_covered (exists_mem_of_forall₂ h) (exists_mem_of_forall₂ ?_)
    exact (List.Forall₂.imp (fun _ _ => Clause.Alike.symm) h).flip

/-- Two clauses with their values listed twice and in the other order, and the same clauses with
the second of them in front and again behind. -/
theorem Clause.interchangeable_listed_twice :
    ∃ p q, Query.ofClauses [⟨"map", false, .list ["cp", "koth"]⟩,
        ⟨"bookmarks", true, .list ["0"]⟩] = .ok p ∧
      Query.ofClauses [⟨"map", false, .list ["koth", "cp", "koth"]⟩,
        ⟨"bookmarks", true, .list ["0", "0"]⟩] = .ok q ∧
      (∀ stat directory records,
        p.select stat directory records = q.select stat directory records) ∧
      ∃ q, Query.ofClauses [⟨"bookmarks", true, .list ["0"]⟩,
        ⟨"map", false, .list ["cp", "koth"]⟩, ⟨"bookmarks", true, .list ["0"]⟩] = .ok q := by
  obtain ⟨p, hp⟩ : ∃ p, Query.ofClauses [⟨"map", false, .list ["cp", "koth"]⟩,
      ⟨"bookmarks", true, .list ["0"]⟩] = .ok p :=
    exists_ok_of_isOk (by decide +kernel)
  have hvalues := (interchangeable [⟨"map", false, .list ["cp", "koth"]⟩,
      ⟨"bookmarks", true, .list ["0"]⟩] [⟨"map", false, .list ["koth", "cp", "koth"]⟩,
      ⟨"bookmarks", true, .list ["0", "0"]⟩]).2
    (.cons ⟨rfl, rfl, .list fun v => by simp only [List.mem_cons]; tauto⟩
      (.cons ⟨rfl, rfl, .list fun v => by simp only [List.mem_cons]; tauto⟩ .nil))
  obtain ⟨q, hq⟩ := hvalues.compiles.1 ⟨p, hp⟩
  refine ⟨p, q, hp, hq, (hvalues.same p q hp hq).2.2, ?_⟩
  refine ((interchangeable _ _).1 fun c => ?_).compiles.1 ⟨p, hp⟩
  simp only [List.mem_cons]
  tauto

end DemoQuery
