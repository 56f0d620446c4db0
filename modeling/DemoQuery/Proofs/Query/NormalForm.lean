import DemoQuery.Proofs.Clause.Writing
import DemoQuery.Proofs.Expr.Text
import DemoQuery.Proofs.Query.Refusals

/-!
# What filters and queries are made of

Reading gives well-formed clauses only, so a filter is never refused for a parameter that asks for
nothing once it has been read. Of any clauses that make a query, each gives an expression of one of
a few forms, in which every conjunction and disjunction joins two conditions at least.
-/

namespace DemoQuery

open Text Grammar

variable {form : Form} {cs text : List Char} {p p' : Parameter} {c : Clause} {l : List Clause}
  {k : Key} {f : Field} {e : Expr} {es : List Expr} {negated : Bool} {q : Query}

/-! ### Clauses that have been read -/

lemma isDigits_ofList {ds : List Char} (hd : ds ≠ []) (hds : IsRun Char.isDigit ds) :
    String.ofList ds ≠ "" ∧ IsRun Char.isDigit (String.ofList ds).toList := by
  rw [String.toList_ofList]
  refine ⟨fun h => hd ?_, hds⟩
  simpa using congrArg String.toList h

/-- What is kept of a parameter asks for something. -/
lemma Grammar.Derives.wellFormed (h : Derives form text p) (hk : Keeps p p') : p'.WellFormed := by
  cases hk with
  | list hne => exact ⟨hne, by simp⟩
  | range =>
    cases h with
    | rangeBetween hd hds he hes =>
      refine ⟨.inl (by simp), ?_⟩
      simp only [Option.toList_some, List.singleton_append, List.forall_mem_cons]
      exact ⟨isDigits_ofList hd hds, isDigits_ofList he hes, by simp⟩
    | rangeFrom hd hds => exact ⟨.inl (by simp), by simpa using isDigits_ofList hd hds⟩
    | rangeTo he hes => exact ⟨.inr (by simp), by simpa using isDigits_ofList he hes⟩

lemma Grammar.IsClause.wellFormed (h : IsClause text c) : c.WellFormed := by
  cases h with
  | mk hn _ hp hk => exact ⟨by rwa [String.toList_ofList], hp.wellFormed hk⟩

lemma Grammar.Clauses.wellFormed (h : Clauses cs l) : ∀ c ∈ l, c.WellFormed := by
  induction h with
  | nil => simp
  | last h _ => simpa using h.wellFormed
  | more h _ _ _ ih => exact List.forall_mem_cons.2 ⟨h.wellFormed, ih⟩

lemma wellFormed_of_readClauses (h : readClauses cs = .ok l) : ∀ c ∈ l, c.WellFormed := by
  obtain ⟨-, hs⟩ := readClauses_eq_ok_iff.1 h
  exact hs.wellFormed

lemma Parameter.WellFormed.asks (h : p.WellFormed) : p.Asks := by
  cases p with
  | list values => exact h
  | range lower upper => exact h.1

/-- A well-formed clause is refused only for its key, for a range where there are none, or for a
value that is no number. -/
lemma Clause.Refused.of_asks {error : FilterError} (h : c.Refused error) (hp : c.parameter.Asks) :
    error = .unknownKey c.key (Key.suggest? c.key) ∨ error = .rangeNotSupported c.key ∨
      ∃ v ∈ c.parameter.values, error = .invalidValue c.key v := by
  cases h with
  | unknownKey _ => exact .inl rfl
  | noValue _ hvs =>
    rcases hvs with hnil | hempty
    · exact absurd hnil hp.1
    · exact absurd hempty hp.2
  | noBound _ => simp [Parameter.Asks] at hp
  | rangeOfTexts _ _ _ => exact .inr (.inl rfl)
  | notInteger _ _ _ hvalues _ _ => exact .inr (.inr ⟨_, by rw [hvalues]; simp, rfl⟩)

/-! ### Forms of expressions -/

/-- What a value of a list asks of a field: to contain a text, which is not empty, or to be equal
to a number. -/
inductive Expr.IsTest (f : Field) : Expr → Prop
  | contains {t : TextField} {needle : String} (hf : f = .text t) (hne : needle ≠ "") :
      IsTest f (.contains t needle)
  | equals {n : NumberField} {value : Int} (hf : f = .number n) :
      IsTest f (.compare n .equal value)

/-- One test of a field, or the disjunction of two or more. -/
inductive Expr.IsChoice (f : Field) : Expr → Prop
  | one {e : Expr} (h : e.IsTest f) : IsChoice f e
  | several {es : List Expr} (hlength : 2 ≤ es.length) (h : ∀ e ∈ es, e.IsTest f) :
      IsChoice f (.or es)

/-- `k.NormalForm negated p e`: the expression `e` has the form that a clause with the key `k` and
the parameter `p` gives, negated or not. A list is a choice or the negation of one. A range compares
with each bound that it has, and is negated by the opposite comparisons. -/
inductive Key.NormalForm (k : Key) : Bool → Parameter → Expr → Prop
  | choice {values : List String} {e : Expr} (h : e.IsChoice k.field) :
      NormalForm k false (.list values) e
  | refusal {values : List String} {e : Expr} (h : e.IsChoice k.field) :
      NormalForm k true (.list values) (.not e)
  | atLeast {n : NumberField} {a : String} {i : Int} (hf : k.field = .number n) :
      NormalForm k false (.range (some a) none) (.compare n .atLeast i)
  | atMost {n : NumberField} {b : String} {j : Int} (hf : k.field = .number n) :
      NormalForm k false (.range none (some b)) (.compare n .atMost j)
  | between {n : NumberField} {a b : String} {i j : Int} (hf : k.field = .number n) :
      NormalForm k false (.range (some a) (some b))
        (.and [.compare n .atLeast i, .compare n .atMost j])
  | below {n : NumberField} {a : String} {i : Int} (hf : k.field = .number n) :
      NormalForm k true (.range (some a) none) (.compare n .less i)
  | above {n : NumberField} {b : String} {j : Int} (hf : k.field = .number n) :
      NormalForm k true (.range none (some b)) (.compare n .greater j)
  | outside {n : NumberField} {a b : String} {i j : Int} (hf : k.field = .number n) :
      NormalForm k true (.range (some a) (some b))
        (.or [.compare n .less i, .compare n .greater j])

lemma Expr.isChoice_any (hne : es ≠ []) (h : ∀ e ∈ es, e.IsTest f) : (Expr.any es).IsChoice f := by
  match es with
  | [e] => exact .one (h e (by simp))
  | e :: e' :: es => exact .several (by simp) h

lemma Key.normalForm_negateIf {values : List String} (h : e.IsChoice k.field) :
    k.NormalForm negated (.list values) (e.negateIf negated) := by
  cases negated with
  | false => exact .choice h
  | true => exact .refusal h

/-- What a key demands is in normal form if the parameter asks for something. -/
lemma Key.Demands.normalForm (h : k.Demands negated p e) (hp : p.Asks) :
    k.NormalForm negated p e := by
  cases h with
  | @texts t values hf =>
    refine normalForm_negateIf (Expr.isChoice_any (by simpa using hp.1) fun e he => ?_)
    obtain ⟨v, hv, rfl⟩ := List.mem_map.1 he
    refine .contains hf ?_
    rintro rfl
    exact hp.2 hv
  | @numbers n values numbers hf hnumbers =>
    have hne : numbers ≠ [] := by
      rintro rfl
      cases hnumbers
      exact hp.1 rfl
    refine normalForm_negateIf (Expr.isChoice_any (by simpa using hne) fun e he => ?_)
    obtain ⟨i, -, rfl⟩ := List.mem_map.1 he
    exact .equals hf
  | range hf hl hu =>
    cases hl with
    | none =>
      cases hu with
      | none => simp [Parameter.Asks] at hp
      | some _ =>
        cases negated with
        | false => exact .atMost hf
        | true => exact .above hf
    | some _ =>
      cases hu with
      | none =>
        cases negated with
        | false => exact .atLeast hf
        | true => exact .below hf
      | some _ =>
        cases negated with
        | false => exact .between hf
        | true => exact .outside hf

lemma Expr.IsTest.branching (h : e.IsTest f) : e.Branching := by
  cases h with
  | contains _ _ => exact .contains ..
  | equals _ => exact .compare ..

lemma Expr.IsChoice.branching (h : e.IsChoice f) : e.Branching := by
  cases h with
  | one h => exact h.branching
  | several hlength h => exact .or hlength fun e he => (h e he).branching

/-- In a normal form every conjunction and disjunction joins two conditions at least. -/
lemma Key.NormalForm.branching (h : k.NormalForm negated p e) : e.Branching := by
  cases h with
  | choice h => exact h.branching
  | refusal h => exact .not h.branching
  | between _ => exact .and (by simp) (by simp [Expr.Branching.compare])
  | outside _ => exact .or (by simp) (by simp [Expr.Branching.compare])
  | atLeast _ | atMost _ | below _ | above _ => exact .compare ..

lemma Clause.normalForm_of_requirement {x : Requirement} (h : c.requirement = .ok x) :
    x.key.name = c.key ∧ x.negated = c.negated ∧
      x.key.NormalForm c.negated c.parameter x.expr := by
  obtain ⟨k, e, hk, hvalid, he, rfl⟩ := requirement_eq_ok_iff.1 h
  have hp := Parameter.validate_eq_ok_iff.1 hvalid
  exact ⟨Key.name_of_find? hk, rfl, (Key.demands_of_expr he).normalForm hp⟩

lemma Query.normalForm_of_ofClauses {cs : List Clause} (h : ofClauses cs = .ok q) :
    List.Forall₂ (fun c p => p.key.name = c.key ∧ p.negated = c.negated ∧
      p.key.NormalForm c.negated c.parameter p.expr) cs q.requirements :=
  (requirements_of_ofClauses h).imp fun _ _ => Clause.normalForm_of_requirement

lemma Query.branching_of_ofClauses {cs : List Clause} (h : ofClauses cs = .ok q) :
    ∀ p ∈ q.requirements, p.expr.Branching := by
  intro p hp
  obtain ⟨c, -, -, -, hform⟩ := exists_mem_of_forall₂ (normalForm_of_ofClauses h).flip p hp
  exact hform.branching

/-- In a compiled query every conjunction and disjunction joins two conditions at least. -/
lemma Query.IsCompiled.branching (h : q.IsCompiled) : ∀ p ∈ q.requirements, p.expr.Branching := by
  cases h with
  | ofClauses h => exact branching_of_ofClauses h
  | parse h =>
    obtain ⟨cs, -, hcs⟩ := bind_eq_ok_iff.1 h
    exact branching_of_ofClauses hcs

/-- Clauses that have been read are well formed, so they are not refused for asking for nothing. The
expression of every clause that makes sense is in normal form. -/
theorem Query.clauses_wellFormed_and_exprs_normal :
    (∀ filter cs, Clause.parse filter = .ok cs →
      ∀ c ∈ cs, c.WellFormed ∧ ∀ name, c.parameter.validate name = .ok ()) ∧
    (∀ filter error, parse filter = .error error → Clause.parse filter = .error error ∨
      ∃ cs c, Clause.parse filter = .ok cs ∧ c ∈ cs ∧
        (error = .unknownKey c.key (Key.suggest? c.key) ∨ error = .rangeNotSupported c.key ∨
          ∃ v ∈ c.parameter.values, error = .invalidValue c.key v)) ∧
    ∀ cs q, ofClauses cs = .ok q →
      List.Forall₂ (fun c p => p.key.name = c.key ∧ p.negated = c.negated ∧
        p.key.NormalForm c.negated c.parameter p.expr) cs q.requirements ∧
      ∀ p ∈ q.requirements, p.expr.Branching := by
  refine ⟨fun filter cs h c hc => ?_, fun filter error h => ?_, fun cs q h => ?_⟩
  · have hwf := wellFormed_of_readClauses h c hc
    exact ⟨hwf, fun name => Parameter.validate_eq_ok_iff.2 hwf.parameter.asks⟩
  · rcases bind_eq_error_iff.1 h with hparse | ⟨cs, hparse, hof⟩
    · exact .inl hparse
    · obtain ⟨before, c, after, rfl, -, hc⟩ := ofClauses_eq_error_iff.1 hof
      have hwf := wellFormed_of_readClauses hparse c (by simp)
      have hrefused := Clause.requirement_eq_error_iff.1 hc
      exact .inr ⟨_, c, hparse, by simp, hrefused.of_asks hwf.parameter.asks⟩
  · exact ⟨normalForm_of_ofClauses h, branching_of_ofClauses h⟩

/-- A tuple with an empty value and a range without an upper bound, both negated, and a range of
texts, which is refused as one. -/
theorem Query.clauses_wellFormed_and_exprs_normal_negated :
    (∃ cs q, Clause.parse "!map: ('', 'koth', \"cp\"), !filesize: 7.." = .ok cs ∧
      (∀ c ∈ cs, c.WellFormed ∧ ∀ name, c.parameter.validate name = .ok ()) ∧
      ofClauses cs = .ok q ∧
      List.Forall₂ (fun c p => p.key.name = c.key ∧ p.negated = c.negated ∧
        p.key.NormalForm c.negated c.parameter p.expr) cs q.requirements) ∧
    ∃ error, parse "map: 7.." = .error error ∧ ∃ cs c,
      Clause.parse "map: 7.." = .ok cs ∧ c ∈ cs ∧
        (error = .unknownKey c.key (Key.suggest? c.key) ∨ error = .rangeNotSupported c.key ∨
          ∃ v ∈ c.parameter.values, error = .invalidValue c.key v) := by
  obtain ⟨hwf, herror, hforms⟩ := clauses_wellFormed_and_exprs_normal
  constructor
  · obtain ⟨q, hq⟩ : ∃ q, parse "!map: ('', 'koth', \"cp\"), !filesize: 7.." = .ok q :=
      exists_ok_of_isOk (by decide +kernel)
    obtain ⟨cs, hcs, hof⟩ := bind_eq_ok_iff.1 hq
    exact ⟨cs, q, hcs, hwf _ cs hcs, hof, (hforms cs q hof).1⟩
  · have hcs : Clause.parse "map: 7.." = .ok [⟨"map", false, .range (some "7") none⟩] := by
      decide +kernel
    have h : parse "map: 7.." = .error (.rangeNotSupported "map") := by
      rw [parse, hcs]
      rfl
    refine ⟨_, h, (herror _ _ h).resolve_left ?_⟩
    rw [hcs]
    exact nofun

end DemoQuery
