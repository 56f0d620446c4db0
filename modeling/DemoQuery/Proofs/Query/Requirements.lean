import DemoQuery.Proofs.Failure
import DemoQuery.Query

/-!
# Requirements

What a query consists of when clauses have been turned into it: one requirement for each clause,
each on the field of its key alone, and the needs of all of them together. The first part says it
of one requirement, the second of the whole query.
-/

namespace DemoQuery

variable {r s : Record} {f : Field} {c : Clause} {k : Key} {q : Query} {cs : List Clause}

attribute [ext] Needs

/-! ### Conditions on one field -/

/-- Every condition in an expression is on the field `f`. -/
inductive Expr.IsOn (f : Field) : Expr → Prop
  | contains {t : TextField} {needle : String} (h : f = .text t) : IsOn f (.contains t needle)
  | compare {n : NumberField} {op : Comparison} {value : Int} (h : f = .number n) :
      IsOn f (.compare n op value)
  | and {es : List Expr} (h : ∀ e ∈ es, IsOn f e) : IsOn f (.and es)
  | or {es : List Expr} (h : ∀ e ∈ es, IsOn f e) : IsOn f (.or es)
  | not {e : Expr} (h : IsOn f e) : IsOn f (.not e)

/-- Two records hold the same in a field. -/
def Field.Agrees (r s : Record) : Field → Prop
  | .text t   => t.read r = t.read s
  | .number n => n.read r = n.read s

/-- Two records have the same name and events, and the same of what else is needed. -/
structure Record.AgreeOn (n : Needs) (r s : Record) : Prop where
  name        : r.name = s.name
  killstreaks : r.killstreaks = s.killstreaks
  bookmarks   : r.bookmarks = s.bookmarks
  header      : n.header → r.header = s.header
  fileData    : n.fileData → r.fileData = s.fileData

/-- Records agree on a field if they agree on what it needs. -/
lemma Record.AgreeOn.agrees (h : AgreeOn f.needs r s) : f.Agrees r s := by
  cases f with
  | text t => exact TextField.read_congr h.name h.bookmarks h.header
  | number n => exact NumberField.read_congr h.killstreaks h.bookmarks h.fileData

/-- An expression on one field does not tell apart records that agree on it. -/
lemma Expr.IsOn.holds_congr {e : Expr} (h : e.IsOn f) (hf : f.Agrees r s) :
    e.holds r = e.holds s := by
  induction h with
  | contains h =>
    subst h
    simp only [holds, show _ = _ from hf]
  | compare h =>
    subst h
    simp only [holds, show _ = _ from hf]
  | @and es _ ih =>
    rw [holds_and, holds_and, Bool.eq_iff_iff, List.all_eq_true, List.all_eq_true]
    exact forall₂_congr fun e he => by rw [ih e he]
  | @or es _ ih =>
    rw [holds_or, holds_or, Bool.eq_iff_iff, List.any_eq_true, List.any_eq_true]
    exact exists_congr fun e => and_congr_right fun he => by rw [ih e he]
  | not _ ih => rw [holds_not, holds_not, ih]

lemma Expr.isOn_all {es : List Expr} (h : ∀ e ∈ es, e.IsOn f) : (Expr.all es).IsOn f := by
  unfold Expr.all
  split
  · next e => exact h e (by simp)
  · exact .and h

lemma Expr.isOn_any {es : List Expr} (h : ∀ e ∈ es, e.IsOn f) : (Expr.any es).IsOn f := by
  unfold Expr.any
  split
  · next e => exact h e (by simp)
  · exact .or h

lemma Expr.isOn_negateIf {e : Expr} (negated : Bool) (h : e.IsOn f) :
    (e.negateIf negated).IsOn f := by
  cases negated with
  | false => exact h
  | true => exact .not h

lemma isOn_rangeExpr (n : NumberField) (negated : Bool) (lower upper : Option Int) :
    (rangeExpr n negated lower upper).IsOn (.number n) := by
  cases negated with
  | false =>
    apply Expr.isOn_all
    cases lower <;> cases upper <;> simp [Expr.IsOn.compare]
  | true =>
    apply Expr.isOn_any
    cases lower <;> cases upper <;> simp [Expr.IsOn.compare]

/-! ### What a key demands -/

/-- The forms of what a key demands: one of some texts, one of some numbers, or a range. -/
inductive Key.Demands (k : Key) (negated : Bool) : Parameter → Expr → Prop
  | texts {t : TextField} {vs : List String} (hf : k.field = .text t) :
      Demands k negated (.list vs) (.negateIf negated (.any (vs.map (.contains t))))
  | numbers {n : NumberField} {vs : List String} {ns : List Int} (hf : k.field = .number n)
      (h : List.Forall₂ (fun v i => Text.readInteger? v = some i) vs ns) :
      Demands k negated (.list vs) (.negateIf negated (.any (ns.map (.compare n .equal))))
  | range {n : NumberField} {lower upper : Option String} {a b : Option Int}
      (hf : k.field = .number n)
      (hl : Option.Rel (fun v i => Text.readInteger? v = some i) lower a)
      (hu : Option.Rel (fun v i => Text.readInteger? v = some i) upper b) :
      Demands k negated (.range lower upper) (rangeExpr n negated a b)

lemma Key.number_eq_ok_iff {v : String} {i : Int} :
    k.number v = .ok i ↔ Text.readInteger? v = some i := by
  rw [number]
  cases Text.readInteger? v <;> simp

lemma Key.demands_of_expr {negated : Bool} {p : Parameter} {e : Expr}
    (h : k.expr negated p = .ok e) : k.Demands negated p e := by
  unfold Key.expr at h
  split at h
  · next vs t hf =>
    obtain rfl := Except.ok.inj h
    exact .texts hf
  · next vs n hf =>
    obtain ⟨ns, hns, h⟩ := bind_eq_ok_iff.1 h
    obtain rfl := Except.ok.inj h
    simp only [mapM_eq_ok_iff, number_eq_ok_iff] at hns
    exact .numbers hf hns
  · next lower upper n hf =>
    obtain ⟨a, ha, h⟩ := bind_eq_ok_iff.1 h
    obtain ⟨b, hb, h⟩ := bind_eq_ok_iff.1 h
    obtain rfl := Except.ok.inj h
    simp only [optionMapM_eq_ok_iff, number_eq_ok_iff] at ha hb
    exact .range hf ha hb
  · simp at h

/-- What a key demands is on its field. -/
lemma Key.Demands.isOn {negated : Bool} {p : Parameter} {e : Expr}
    (h : k.Demands negated p e) : e.IsOn k.field := by
  cases h with
  | texts hf =>
    refine Expr.isOn_negateIf negated (Expr.isOn_any fun e he => ?_)
    obtain ⟨v, -, rfl⟩ := List.mem_map.1 he
    exact .contains hf
  | numbers hf _ =>
    refine Expr.isOn_negateIf negated (Expr.isOn_any fun e he => ?_)
    obtain ⟨i, -, rfl⟩ := List.mem_map.1 he
    exact .compare hf
  | range hf _ _ => exact hf ▸ isOn_rangeExpr _ negated _ _

/-! ### One requirement -/

/-- Everything that turning a clause into a requirement takes and gives. -/
lemma Clause.requirement_eq_ok_iff {p : Requirement} :
    c.requirement = .ok p ↔ ∃ k e, Key.find? c.key = some k ∧
      c.parameter.validate k.name = .ok () ∧ k.expr c.negated c.parameter = .ok e ∧
      p = ⟨k, c.negated, k.needs, e⟩ := by
  rw [requirement]
  cases hk : Key.find? c.key with
  | none => simp
  | some k =>
    simp only [bind_eq_ok_iff, Option.some.injEq, exists_and_left, exists_eq_left',
      Except.ok.injEq]
    constructor
    · rintro ⟨⟨⟩, hp, e, he, rfl⟩
      exact ⟨hp, e, he, rfl⟩
    · rintro ⟨hp, e, he, rfl⟩
      exact ⟨⟨⟩, hp, e, he, rfl⟩

/-- A requirement on the field of its key, with the needs of the key. -/
structure Requirement.WellFormed (p : Requirement) : Prop where
  key_mem  : p.key ∈ Key.all
  needs_eq : p.needs = p.key.field.needs
  isOn     : p.expr.IsOn p.key.field

lemma Clause.wellFormed_of_requirement {p : Requirement} (h : c.requirement = .ok p) :
    p.WellFormed := by
  obtain ⟨k, e, hk, -, he, rfl⟩ := requirement_eq_ok_iff.1 h
  have hmem := Key.mem_all_of_find? hk
  exact ⟨hmem, Key.needs_eq_field_needs hmem, (Key.demands_of_expr he).isOn⟩

lemma Clause.wellFormed_of_requirements {ps : List Requirement}
    (h : List.Forall₂ (fun c p => c.requirement = .ok p) cs ps) : ∀ p ∈ ps, p.WellFormed := by
  induction h with
  | nil => simp
  | cons hp _ ih => exact List.forall_mem_cons.2 ⟨wellFormed_of_requirement hp, ih⟩

/-- A requirement does not tell apart records that agree on what it needs. -/
lemma Requirement.WellFormed.holds_congr {p : Requirement} (h : p.WellFormed)
    (ha : Record.AgreeOn p.needs r s) : p.holds r = p.holds s := by
  rw [h.needs_eq] at ha
  exact h.isOn.holds_congr ha.agrees

/-! ### The whole query -/

/-- Clauses are turned into requirements from left to right, and these added to a query in the same
order. -/
lemma Query.foldlM_push (q₀ : Query) :
    cs.foldlM (fun q c => c.requirement.map q.push) q₀ =
      (cs.mapM Clause.requirement).map (·.foldl push q₀) := by
  induction cs generalizing q₀ with
  | nil => rfl
  | cons c cs ih =>
    rw [List.foldlM_cons, List.mapM_cons]
    cases c.requirement with
    | error e => rfl
    | ok p =>
      calc cs.foldlM (fun q c => c.requirement.map q.push) (q₀.push p)
          = (cs.mapM Clause.requirement).map (·.foldl push (q₀.push p)) := ih _
        _ = _ := by cases cs.mapM Clause.requirement <;> rfl

/-- Clauses are added to a query one requirement after the other. -/
lemma Query.foldlM_push_eq_ok_iff {q₀ : Query} :
    cs.foldlM (fun q c => c.requirement.map q.push) q₀ = .ok q ↔
      ∃ ps, List.Forall₂ (fun c p => c.requirement = .ok p) cs ps ∧ ps.foldl push q₀ = q := by
  simp only [foldlM_push, map_eq_ok_iff, mapM_eq_ok_iff]

lemma Query.ofClauses_eq_map :
    ofClauses cs = (cs.mapM Clause.requirement).map (·.foldl push {}) :=
  foldlM_push {}

lemma Query.exists_ofClauses_iff :
    (∃ q, ofClauses cs = .ok q) ↔ ∀ c ∈ cs, ∃ p, c.requirement = .ok p := by
  rw [← exists_mapM_eq_ok_iff, ofClauses_eq_map]
  simp

/-- Clauses are refused as the first of them is that makes no sense. -/
lemma Query.ofClauses_eq_error_iff {e : FilterError} :
    ofClauses cs = .error e ↔ ∃ before c after, cs = before ++ c :: after ∧
      (∀ b ∈ before, ∃ p, b.requirement = .ok p) ∧ c.requirement = .error e := by
  rw [ofClauses_eq_map, map_eq_error_iff, mapM_eq_error_iff]

lemma Query.requirements_foldl_push (ps : List Requirement) (q₀ : Query) :
    (ps.foldl push q₀).requirements = q₀.requirements ++ ps := by
  induction ps generalizing q₀ with
  | nil => simp
  | cons p ps ih => simp [ih, push]

/-- A query has the requirements of its clauses, in their order. -/
lemma Query.requirements_of_ofClauses (h : ofClauses cs = .ok q) :
    List.Forall₂ (fun c p => c.requirement = .ok p) cs q.requirements := by
  obtain ⟨ps, hps, rfl⟩ := foldlM_push_eq_ok_iff.1 h
  rwa [requirements_foldl_push]

/-- Well-formed requirements, and what one of them needs the query needs. -/
structure Query.WellFormed (q : Query) : Prop where
  requirement    : ∀ p ∈ q.requirements, p.WellFormed
  needs_header   : q.needs.header = q.requirements.any (·.needs.header)
  needs_fileData : q.needs.fileData = q.requirements.any (·.needs.fileData)

lemma Query.wellFormed_empty : ({} : Query).WellFormed :=
  ⟨by simp, rfl, rfl⟩

lemma Query.WellFormed.push {p : Requirement} (h : q.WellFormed) (hp : p.WellFormed) :
    (q.push p).WellFormed := by
  refine ⟨fun p' hp' => ?_, ?_, ?_⟩
  · rcases List.mem_append.1 hp' with hmem | hmem
    · exact h.requirement p' hmem
    · exact List.mem_singleton.1 hmem ▸ hp
  · simp [Query.push, h.needs_header]
  · simp [Query.push, h.needs_fileData]

lemma Query.WellFormed.foldl_push {ps : List Requirement} (h : q.WellFormed)
    (hps : ∀ p ∈ ps, p.WellFormed) : (ps.foldl Query.push q).WellFormed := by
  induction ps generalizing q with
  | nil => exact h
  | cons p ps ih =>
    obtain ⟨hp, hps⟩ := List.forall_mem_cons.1 hps
    exact ih (h.push hp) hps

lemma Query.wellFormed_of_ofClauses (h : ofClauses cs = .ok q) : q.WellFormed := by
  obtain ⟨ps, hps, rfl⟩ := foldlM_push_eq_ok_iff.1 h
  exact wellFormed_empty.foldl_push (Clause.wellFormed_of_requirements hps)

/-- The queries that clauses or a filter have been turned into. -/
inductive Query.IsCompiled : Query → Prop
  | ofClauses {cs : List Clause} {q : Query} (h : Query.ofClauses cs = .ok q) : IsCompiled q
  | parse {filter : String} {q : Query} (h : Query.parse filter = .ok q) : IsCompiled q

lemma Query.IsCompiled.wellFormed (h : q.IsCompiled) : q.WellFormed := by
  cases h with
  | ofClauses h => exact wellFormed_of_ofClauses h
  | parse h =>
    obtain ⟨cs, -, hcs⟩ := bind_eq_ok_iff.1 h
    exact wellFormed_of_ofClauses hcs

end DemoQuery
