import DemoQuery.Proofs.Query.Agreement
import DemoQuery.Proofs.Text.Numeral

/-!
# Clauses that make no sense

Clauses make a query one after the other, and the first that makes no sense is the one that is
refused. What is wrong with a single clause is looked for in a fixed order: its key, what its
parameter asks for, whether the key has ranges, and last its numbers from the first to the last.
-/

namespace DemoQuery

open Text

variable {k : Key} {c : Clause} {p : Parameter} {e : FilterError}

/-! ### What is wrong with a clause -/

/-- A whole number of 64 bits in decimal digits, with or without a sign. -/
def Text.IsInteger (s : String) : Prop :=
  ∃ n, Numeral s.toList n ∧ FitsWord n

/-- A list has values, none of them empty, and a range has a bound. -/
def Parameter.Asks : Parameter → Prop
  | .list values       => values ≠ [] ∧ "" ∉ values
  | .range lower upper => lower ≠ none ∨ upper ≠ none

/-- The values of a list, and the bounds that a range has, the lower one first. -/
def Parameter.values : Parameter → List String
  | .list values       => values
  | .range lower upper => lower.toList ++ upper.toList

/-- `c.Refused e`: the clause `c` makes no sense, and `e` says why. -/
inductive Clause.Refused : Clause → FilterError → Prop
  | unknownKey {c : Clause} (hk : ∀ k ∈ Key.all, k.name ≠ c.key) :
      Refused c (.unknownKey c.key (Key.suggest? c.key))
  | noValue {k : Key} {negated : Bool} {values : List String} (hk : k ∈ Key.all)
      (hp : values = [] ∨ "" ∈ values) :
      Refused ⟨k.name, negated, .list values⟩ (.emptyParameter k.name)
  | noBound {k : Key} {negated : Bool} (hk : k ∈ Key.all) :
      Refused ⟨k.name, negated, .range none none⟩ (.expectedParameter "..")
  | rangeOfTexts {k : Key} {negated : Bool} {lower upper : Option String} {t : TextField}
      (hk : k ∈ Key.all) (hf : k.field = .text t) (hp : lower ≠ none ∨ upper ≠ none) :
      Refused ⟨k.name, negated, .range lower upper⟩ (.rangeNotSupported k.name)
  | notInteger {k : Key} {negated : Bool} {p : Parameter} {n : NumberField}
      {before after : List String} {v : String} (hk : k ∈ Key.all) (hf : k.field = .number n)
      (hp : p.Asks) (hvalues : p.values = before ++ v :: after)
      (hbefore : ∀ b ∈ before, IsInteger b) (hv : ¬ IsInteger v) :
      Refused ⟨k.name, negated, p⟩ (.invalidValue k.name v)

/-! ### One check after the other -/

lemma Key.find?_name (hk : k ∈ all) : find? k.name = some k := by
  have hall : ∀ k ∈ all, find? k.name = some k := by decide +kernel
  exact hall k hk

lemma Key.find?_eq_none_iff {name : String} :
    find? name = none ↔ ∀ k ∈ all, k.name ≠ name := by
  simp [find?, List.find?_eq_none]

lemma Parameter.validate_eq_ok_iff {name : String} {u : Unit} :
    p.validate name = .ok u ↔ p.Asks := by
  cases p with
  | list values =>
    rw [validate, Asks]
    split
    · next h => simp only [reduceCtorEq, false_iff]; tauto
    · next h => simp only [true_iff]; tauto
  | range lower upper => cases lower <;> cases upper <;> simp [validate, Asks]

lemma Parameter.validate_eq_error_iff {name : String} :
    p.validate name = .error e ↔
      (∃ values, p = .list values ∧ (values = [] ∨ "" ∈ values) ∧ e = .emptyParameter name) ∨
        p = .range none none ∧ e = .expectedParameter ".." := by
  cases p with
  | list values =>
    rw [validate]
    split
    · next h => simp [h, eq_comm]
    · next h => simp [h]
  | range lower upper => cases lower <;> cases upper <;> simp [validate, eq_comm]

lemma Text.readInteger?_eq_none_iff {s : String} : readInteger? s = none ↔ ¬ IsInteger s := by
  simp only [Option.eq_none_iff_forall_ne_some, ne_eq, readInteger?_eq_some_iff, IsInteger,
    not_exists]

lemma Key.exists_number_eq_ok_iff {v : String} : (∃ i, k.number v = .ok i) ↔ IsInteger v := by
  simp only [number_eq_ok_iff, readInteger?_eq_some_iff, IsInteger]

lemma Key.number_eq_error_iff {v : String} :
    k.number v = .error e ↔ ¬ IsInteger v ∧ e = .invalidValue k.name v := by
  rw [number, ← readInteger?_eq_none_iff]
  cases readInteger? v <;> simp [eq_comm]

lemma Key.mapM_number_eq_error_iff {vs : List String} :
    vs.mapM k.number = .error e ↔ ∃ before v after, vs = before ++ v :: after ∧
      (∀ b ∈ before, IsInteger b) ∧ ¬ IsInteger v ∧ e = .invalidValue k.name v := by
  simp only [mapM_eq_error_iff, exists_number_eq_ok_iff, number_eq_error_iff]

lemma Parameter.isRange_iff : p.isRange ↔ ∃ lower upper, p = .range lower upper := by
  cases p <;> simp [isRange]

/-- A key refuses ranges if it asks for texts, and values that are no numbers if it asks for
numbers. -/
lemma Key.expr_eq_error_iff {negated : Bool} :
    k.expr negated p = .error e ↔
      (∃ t, k.field = .text t ∧ p.isRange ∧ e = .rangeNotSupported k.name) ∨
        ∃ n, k.field = .number n ∧ p.values.mapM k.number = .error e := by
  cases hf : k.field with
  | text t =>
    cases p with
    | list values => simp [expr, hf, Parameter.isRange]
    | range lower upper => simp [expr, hf, Parameter.isRange, eq_comm]
  | number n =>
    cases p with
    | list values => simp [expr, hf, Parameter.values]
    | range lower upper =>
      rw [Parameter.values, ← optionMapM_pair_eq_error_iff]
      simp [expr, hf]

/-- Of a key that there is, first the parameter is looked at and then what the key makes of it. -/
lemma Clause.requirement_eq_error_iff_of_mem {negated : Bool} (hk : k ∈ Key.all) :
    (⟨k.name, negated, p⟩ : Clause).requirement = .error e ↔
      p.validate k.name = .error e ∨ p.Asks ∧ k.expr negated p = .error e := by
  simp [requirement, Key.find?_name hk, Parameter.validate_eq_ok_iff]

lemma Clause.refused_of_requirement (h : c.requirement = .error e) : c.Refused e := by
  obtain ⟨name, negated, p⟩ := c
  cases hk : Key.find? name with
  | none =>
    rw [requirement, hk] at h
    obtain rfl := Except.error.inj h
    exact .unknownKey (Key.find?_eq_none_iff.1 hk)
  | some k =>
    have hmem := Key.mem_all_of_find? hk
    obtain rfl := Key.name_of_find? hk
    rcases (requirement_eq_error_iff_of_mem hmem).1 h with hvalid | ⟨hp, hexpr⟩
    · rcases Parameter.validate_eq_error_iff.1 hvalid with ⟨values, rfl, hp, rfl⟩ | ⟨rfl, rfl⟩
      · exact .noValue hmem hp
      · exact .noBound hmem
    · rcases Key.expr_eq_error_iff.1 hexpr with ⟨t, hf, hrange, rfl⟩ | ⟨n, hf, hnumbers⟩
      · obtain ⟨lower, upper, rfl⟩ := Parameter.isRange_iff.1 hrange
        exact .rangeOfTexts hmem hf hp
      · obtain ⟨before, v, after, hvalues, hbefore, hv, rfl⟩ :=
          Key.mapM_number_eq_error_iff.1 hnumbers
        exact .notInteger hmem hf hp hvalues hbefore hv

lemma Clause.Refused.requirement (h : c.Refused e) : c.requirement = .error e := by
  cases h with
  | unknownKey hk => rw [Clause.requirement, Key.find?_eq_none_iff.2 hk]
  | noValue hk hp =>
    refine (requirement_eq_error_iff_of_mem hk).2 (.inl ?_)
    exact Parameter.validate_eq_error_iff.2 (.inl ⟨_, rfl, hp, rfl⟩)
  | noBound hk => exact (requirement_eq_error_iff_of_mem hk).2 (.inl rfl)
  | rangeOfTexts hk hf hp =>
    refine (requirement_eq_error_iff_of_mem hk).2 (.inr ⟨hp, ?_⟩)
    exact Key.expr_eq_error_iff.2 (.inl ⟨_, hf, rfl, rfl⟩)
  | notInteger hk hf hp hvalues hbefore hv =>
    refine (requirement_eq_error_iff_of_mem hk).2 (.inr ⟨hp, ?_⟩)
    refine Key.expr_eq_error_iff.2 (.inr ⟨_, hf, ?_⟩)
    exact Key.mapM_number_eq_error_iff.2 ⟨_, _, _, hvalues, hbefore, hv, rfl⟩

/-- A clause makes no sense exactly for what is wrong with it. -/
lemma Clause.requirement_eq_error_iff : c.requirement = .error e ↔ c.Refused e :=
  ⟨refused_of_requirement, Refused.requirement⟩

/-! ### From the first clause to the last -/

/-- The query of one requirement. -/
def Requirement.query (p : Requirement) : Query :=
  ⟨[p], p.needs⟩

lemma Query.ofClauses_singleton : ofClauses [c] = c.requirement.map Requirement.query := by
  rw [ofClauses_eq_map, List.mapM_cons, List.mapM_nil]
  cases c.requirement <;> rfl

lemma Query.exists_ofClauses_singleton_iff :
    (∃ q, ofClauses [c] = .ok q) ↔ ∃ p, c.requirement = .ok p := by
  simp [exists_ofClauses_iff]

lemma Query.ofClauses_singleton_eq_error_iff :
    ofClauses [c] = .error e ↔ c.requirement = .error e := by
  rw [ofClauses_singleton, map_eq_error_iff]

/-- Clauses make a query exactly if each of them alone does, with the requirements of these queries
one behind the other and their needs together. Else they fail as the first of them does alone that
fails. A single clause fails exactly for what is wrong with it. -/
theorem Query.ofClauses_traverses (cs : List Clause) :
    ((∃ q, ofClauses cs = .ok q) ↔ ∀ c ∈ cs, ∃ p, ofClauses [c] = .ok p) ∧
      (∀ q, ofClauses cs = .ok q → ∃ ps, List.Forall₂ (fun c p => ofClauses [c] = .ok p) cs ps ∧
        q.requirements = ps.flatMap (·.requirements) ∧ q.needs = Needs.unions (ps.map (·.needs))) ∧
      (∀ e, ofClauses cs = .error e ↔ ∃ before c after, cs = before ++ c :: after ∧
        (∀ b ∈ before, ∃ p, ofClauses [b] = .ok p) ∧ ofClauses [c] = .error e) ∧
      ∀ c e, ofClauses [c] = .error e ↔ c.Refused e := by
  refine ⟨?_, fun q h => ?_, fun e => ?_, fun c e => ?_⟩
  · simp only [exists_ofClauses_singleton_iff]
    exact exists_ofClauses_iff
  · refine ⟨q.requirements.map Requirement.query, ?_, ?_, ?_⟩
    · rw [List.forall₂_map_right_iff]
      refine (requirements_of_ofClauses h).imp fun c p hp => ?_
      rw [ofClauses_singleton, hp]
      rfl
    · simp [List.flatMap_map, Requirement.query]
    · rw [(wellFormed_of_ofClauses h).needs_eq_unions, List.map_map]
      rfl
  · simp only [exists_ofClauses_singleton_iff, ofClauses_singleton_eq_error_iff]
    exact ofClauses_eq_error_iff
  · rw [ofClauses_singleton_eq_error_iff, Clause.requirement_eq_error_iff]

/-- Two clauses that make a query together, and three of which the second is refused: it has the
wrong bounds, of which the lower one is named, and what is wrong with the third is not looked for. -/
theorem Query.ofClauses_traverses_lower_bound :
    (∃ q, ofClauses [⟨"map", true, .list ["cp", "koth"]⟩,
        ⟨"filesize", false, .range none (some "+7")⟩] = .ok q ∧
      ∃ ps, List.Forall₂ (fun c p => ofClauses [c] = .ok p)
          [⟨"map", true, .list ["cp", "koth"]⟩,
            ⟨"filesize", false, .range none (some "+7")⟩] ps ∧
        q.requirements = ps.flatMap (·.requirements) ∧
        q.needs = Needs.unions (ps.map (·.needs))) ∧
    ofClauses [⟨"map", true, .list ["cp", "koth"]⟩,
        ⟨"filesize", false, .range (some "9223372036854775808") (some "-")⟩,
        ⟨"mpa", true, .list []⟩] =
      .error (.invalidValue "filesize" "9223372036854775808") := by
  constructor
  · obtain ⟨q, hq⟩ : ∃ q, ofClauses [⟨"map", true, .list ["cp", "koth"]⟩,
        ⟨"filesize", false, .range none (some "+7")⟩] = .ok q :=
      exists_ok_of_isOk (by decide +kernel)
    exact ⟨q, hq, (ofClauses_traverses _).2.1 q hq⟩
  · obtain ⟨-, -, herror, hsingle⟩ := ofClauses_traverses [⟨"map", true, .list ["cp", "koth"]⟩,
      ⟨"filesize", false, .range (some "9223372036854775808") (some "-")⟩,
      ⟨"mpa", true, .list []⟩]
    have hv : ¬ IsInteger "9223372036854775808" :=
      readInteger?_eq_none_iff.1 (by decide +kernel)
    have hrefused : Clause.Refused
        ⟨"filesize", false, .range (some "9223372036854775808") (some "-")⟩
        (.invalidValue "filesize" "9223372036854775808") :=
      @Clause.Refused.notInteger ⟨"filesize", .number .size, { fileData := true }⟩ false
        (.range (some "9223372036854775808") (some "-")) .size [] ["-"] "9223372036854775808"
        (by decide) rfl (.inl (by simp)) rfl (by simp) hv
    refine (herror _).2 ⟨[_], _, [_], rfl, ?_, (hsingle _ _).2 hrefused⟩
    rw [List.forall_mem_singleton]
    exact exists_ok_of_isOk (by decide +kernel)

end DemoQuery
