import DemoQuery.Proofs.Query.Requirements
import DemoQuery.Proofs.Text.Numeral

/-!
# The meaning of clauses

What a list of clauses says of a record, given apart from queries: what each key reads in a
record, what a parameter asserts of it, and what negation makes of the assertion. A query matches
a record exactly when everything that its clauses say holds of the record.
-/

namespace DemoQuery

open Text

variable {r : Record} {k : Key} {c : Clause} {cs : List Clause} {q : Query}

/-! ### What a key reads -/

/-- The header of a record; one without texts if the record has none. -/
inductive Record.HeaderIs (r : Record) : Header → Prop
  | present {h : Header} (hr : r.header = some h) : HeaderIs r h
  | absent (hr : r.header = none) : HeaderIs r ⟨"", "", ""⟩

/-- The file data of a record; zeros if the record has none. -/
inductive Record.FileDataIs (r : Record) : FileData → Prop
  | present {d : FileData} (hr : r.fileData = some d) : FileDataIs r d
  | absent (hr : r.fileData = none) : FileDataIs r ⟨0, 0⟩

/-- `r.TextAt k t`: the key named `k` reads the text `t` in `r`. -/
inductive Record.TextAt (r : Record) : String → String → Prop
  | name : TextAt r "name" r.name
  | labels : TextAt r "bookmark_contains" (.join (r.bookmarks.map (·.label)))
  | mapName {h : Header} (hr : r.HeaderIs h) : TextAt r "map" h.mapName
  | hostname {h : Header} (hr : r.HeaderIs h) : TextAt r "hostname" h.hostname
  | clientId {h : Header} (hr : r.HeaderIs h) : TextAt r "clientid" h.clientId

/-- `r.NumberAt k n`: the key named `k` reads the number `n` in `r`. -/
inductive Record.NumberAt (r : Record) : String → Int → Prop
  | killstreaks : NumberAt r "killstreaks" r.killstreaks.length
  | bookmarks : NumberAt r "bookmarks" r.bookmarks.length
  | bestStreak {s : Killstreak} (hs : s ∈ r.killstreaks)
      (hmax : ∀ s' ∈ r.killstreaks, s'.peak ≤ s.peak) : NumberAt r "beststreak" s.peak
  | noStreak (hr : r.killstreaks = []) : NumberAt r "beststreak" (-1)
  | modified {d : FileData} (hr : r.FileDataIs d) : NumberAt r "moddate" d.modified
  | size {d : FileData} (hr : r.FileDataIs d) : NumberAt r "filesize" d.size

/-! ### What a clause says -/

/-- What a parameter asserts of a record under a key: a listed value occurs in the text, a listed
value denotes the number, or the number lies between the bounds. -/
inductive Record.Satisfies (r : Record) : String → Parameter → Prop
  | contains {k t v : String} {vs : List String} (ht : r.TextAt k t) (hv : v ∈ vs)
      (h : v.toList <:+: t.toList) : Satisfies r k (.list vs)
  | equals {k v : String} {vs : List String} {n : Int} (hn : r.NumberAt k n) (hv : v ∈ vs)
      (h : Numeral v.toList n) : Satisfies r k (.list vs)
  | between {k : String} {lower upper : Option String} {n : Int} (hn : r.NumberAt k n)
      (hl : ∀ s ∈ lower, ∃ a, Numeral s.toList a ∧ a ≤ n)
      (hu : ∀ s ∈ upper, ∃ b, Numeral s.toList b ∧ n ≤ b) : Satisfies r k (.range lower upper)

/-- What a clause says of a record: its parameter, or the opposite if it is negated. -/
def Clause.Holds (r : Record) (c : Clause) : Prop :=
  if c.negated then ¬ r.Satisfies c.key c.parameter else r.Satisfies c.key c.parameter

/-! ### Keys read their fields -/

lemma Record.headerIs_iff {h : Header} : r.HeaderIs h ↔ r.header.getD {} = h := by
  constructor
  · rintro (hr | hr) <;> simp [hr]
  · intro hh
    cases hr : r.header with
    | none => rw [hr] at hh; exact hh ▸ .absent hr
    | some h' => rw [hr] at hh; exact .present (hr.trans (congrArg some hh))

lemma Record.fileDataIs_iff {d : FileData} : r.FileDataIs d ↔ r.fileData.getD {} = d := by
  constructor
  · rintro (hr | hr) <;> simp [hr]
  · intro hd
    cases hr : r.fileData with
    | none => rw [hr] at hd; exact hd ▸ .absent hr
    | some d' => rw [hr] at hd; exact .present (hr.trans (congrArg some hd))

/-- The best streak is the peak that no other exceeds, and -1 if there is none. -/
lemma Record.bestStreak_eq_iff {n : Int} :
    r.bestStreak = n ↔
      (∃ s ∈ r.killstreaks, (∀ s' ∈ r.killstreaks, s'.peak ≤ s.peak) ∧ s.peak = n) ∨
        r.killstreaks = [] ∧ n = -1 := by
  rw [bestStreak]
  cases hm : (r.killstreaks.map (·.peak)).max? with
  | none =>
    have hr : r.killstreaks = [] := by simpa using hm
    simp [hr, eq_comm]
  | some m =>
    obtain ⟨hmem, hmax⟩ := List.max?_eq_some_iff.1 hm
    obtain ⟨s, hs, rfl⟩ := List.mem_map.1 hmem
    have hmax' : ∀ s' ∈ r.killstreaks, s'.peak ≤ s.peak := fun s' hs' =>
      hmax _ (List.mem_map_of_mem hs')
    constructor
    · rintro rfl
      exact .inl ⟨s, hs, hmax', rfl⟩
    · rintro (⟨s', hs', hmax'', rfl⟩ | ⟨hr, -⟩)
      · exact le_antisymm (hmax'' s hs) (hmax' s' hs')
      · exact absurd hs (by simp [hr])

/-- A key that reads a text has a field of texts, which reads that text. -/
lemma Record.TextAt.field {name t : String} (h : r.TextAt name t) :
    ∃ f needs, Key.find? name = some ⟨name, .text f, needs⟩ ∧ f.read r = t := by
  cases h with
  | name => exact ⟨.name, {}, rfl, rfl⟩
  | labels => exact ⟨.bookmarkLabels, {}, rfl, rfl⟩
  | mapName hr => exact ⟨.mapName, _, rfl, congrArg Header.mapName (headerIs_iff.1 hr)⟩
  | hostname hr => exact ⟨.hostname, _, rfl, congrArg Header.hostname (headerIs_iff.1 hr)⟩
  | clientId hr => exact ⟨.clientId, _, rfl, congrArg Header.clientId (headerIs_iff.1 hr)⟩

/-- A key that reads a number has a field of numbers, which reads that number. -/
lemma Record.NumberAt.field {name : String} {n : Int} (h : r.NumberAt name n) :
    ∃ f needs, Key.find? name = some ⟨name, .number f, needs⟩ ∧ f.read r = n := by
  cases h with
  | killstreaks => exact ⟨.killstreakCount, {}, rfl, rfl⟩
  | bookmarks => exact ⟨.bookmarkCount, {}, rfl, rfl⟩
  | @bestStreak s hs hmax =>
    exact ⟨.bestStreak, {}, rfl, bestStreak_eq_iff.2 (.inl ⟨s, hs, hmax, rfl⟩)⟩
  | noStreak hr => exact ⟨.bestStreak, {}, rfl, bestStreak_eq_iff.2 (.inr ⟨hr, rfl⟩)⟩
  | modified hr => exact ⟨.modified, _, rfl, congrArg FileData.modified (fileDataIs_iff.1 hr)⟩
  | size hr => exact ⟨.size, _, rfl, congrArg FileData.size (fileDataIs_iff.1 hr)⟩

lemma Record.numberAt_bestStreak : r.NumberAt "beststreak" r.bestStreak := by
  rcases bestStreak_eq_iff.1 rfl with ⟨s, hs, hmax, h⟩ | ⟨hr, h⟩
  · rw [← h]; exact .bestStreak hs hmax
  · rw [h]; exact .noStreak hr

/-- The key of a field of texts reads what the field does, and nothing else. -/
lemma Record.textAt_iff {f : TextField} {name t : String} (hk : Key.find? name = some k)
    (hf : k.field = .text f) : r.TextAt name t ↔ f.read r = t := by
  constructor
  · intro h
    obtain ⟨f', needs, hk', ht⟩ := h.field
    obtain rfl : k = ⟨name, .text f', needs⟩ := Option.some.inj (hk.symm.trans hk')
    cases hf
    exact ht
  · rintro rfl
    obtain rfl := Key.name_of_find? hk
    have hmem := Key.mem_all_of_find? hk
    simp only [Key.all, List.mem_cons, List.not_mem_nil, or_false] at hmem
    rcases hmem with rfl | rfl | rfl | rfl | rfl | rfl | rfl | rfl | rfl | rfl <;> cases hf
    · exact .name
    · exact .labels
    · exact .mapName (headerIs_iff.2 rfl)
    · exact .hostname (headerIs_iff.2 rfl)
    · exact .clientId (headerIs_iff.2 rfl)

/-- The key of a field of numbers reads what the field does, and nothing else. -/
lemma Record.numberAt_iff {f : NumberField} {name : String} {n : Int}
    (hk : Key.find? name = some k) (hf : k.field = .number f) :
    r.NumberAt name n ↔ f.read r = n := by
  constructor
  · intro h
    obtain ⟨f', needs, hk', hn⟩ := h.field
    obtain rfl : k = ⟨name, .number f', needs⟩ := Option.some.inj (hk.symm.trans hk')
    cases hf
    exact hn
  · rintro rfl
    obtain rfl := Key.name_of_find? hk
    have hmem := Key.mem_all_of_find? hk
    simp only [Key.all, List.mem_cons, List.not_mem_nil, or_false] at hmem
    rcases hmem with rfl | rfl | rfl | rfl | rfl | rfl | rfl | rfl | rfl | rfl <;> cases hf
    · exact .killstreaks
    · exact .bookmarks
    · exact numberAt_bestStreak
    · exact .modified (fileDataIs_iff.2 rfl)
    · exact .size (fileDataIs_iff.2 rfl)

lemma Record.not_textAt {f : NumberField} {name t : String} (hk : Key.find? name = some k)
    (hf : k.field = .number f) : ¬ r.TextAt name t := by
  intro h
  obtain ⟨f', needs, hk', -⟩ := h.field
  obtain rfl : k = ⟨name, .text f', needs⟩ := Option.some.inj (hk.symm.trans hk')
  cases hf

lemma Record.not_numberAt {f : TextField} {name : String} {n : Int}
    (hk : Key.find? name = some k) (hf : k.field = .text f) : ¬ r.NumberAt name n := by
  intro h
  obtain ⟨f', needs, hk', -⟩ := h.field
  obtain rfl : k = ⟨name, .number f', needs⟩ := Option.some.inj (hk.symm.trans hk')
  cases hf

/-! ### Expressions mean what their clauses say -/

lemma Record.satisfies_texts_iff {f : TextField} {name : String} {vs : List String}
    (hk : Key.find? name = some k) (hf : k.field = .text f) :
    r.Satisfies name (.list vs) ↔ ∃ v ∈ vs, v.toList <:+: (f.read r).toList := by
  constructor
  · intro h
    cases h with
    | contains ht hv h => exact ⟨_, hv, (textAt_iff hk hf).1 ht ▸ h⟩
    | equals hn _ _ => exact absurd hn (not_numberAt hk hf)
  · rintro ⟨v, hv, h⟩
    exact .contains ((textAt_iff hk hf).2 rfl) hv h

lemma Record.satisfies_numbers_iff {f : NumberField} {name : String} {vs : List String}
    (hk : Key.find? name = some k) (hf : k.field = .number f) :
    r.Satisfies name (.list vs) ↔ ∃ v ∈ vs, Numeral v.toList (f.read r) := by
  constructor
  · intro h
    cases h with
    | contains ht _ _ => exact absurd ht (not_textAt hk hf)
    | equals hn hv h => exact ⟨_, hv, (numberAt_iff hk hf).1 hn ▸ h⟩
  · rintro ⟨v, hv, h⟩
    exact .equals ((numberAt_iff hk hf).2 rfl) hv h

lemma Record.satisfies_range_iff {f : NumberField} {name : String} {lower upper : Option String}
    (hk : Key.find? name = some k) (hf : k.field = .number f) :
    r.Satisfies name (.range lower upper) ↔
      (∀ s ∈ lower, ∃ a, Numeral s.toList a ∧ a ≤ f.read r) ∧
        ∀ s ∈ upper, ∃ b, Numeral s.toList b ∧ f.read r ≤ b := by
  constructor
  · intro h
    cases h with
    | between hn hl hu => exact (numberAt_iff hk hf).1 hn ▸ ⟨hl, hu⟩
  · rintro ⟨hl, hu⟩
    exact .between ((numberAt_iff hk hf).2 rfl) hl hu

lemma Expr.holds_texts_iff {f : TextField} {vs : List String} :
    (Expr.any (vs.map (.contains f))).holds r ↔ ∃ v ∈ vs, v.toList <:+: (f.read r).toList := by
  simp [holds]

lemma Expr.holds_numbers_iff {f : NumberField} {vs : List String} {ns : List Int}
    (h : List.Forall₂ (fun v i => readInteger? v = some i) vs ns) :
    (Expr.any (ns.map (.compare f .equal))).holds r ↔ ∃ v ∈ vs, Numeral v.toList (f.read r) := by
  rw [holds_any, List.any_map, List.any_eq_true]
  simp only [Function.comp_apply, holds, Comparison.holds, beq_iff_eq]
  induction h with
  | nil => simp
  | @cons v i vs ns hv _ ih =>
    have hnumeral := (readInteger?_eq_some_iff.1 hv).1
    have hi : f.read r = i ↔ Numeral v.toList (f.read r) :=
      ⟨fun h => h ▸ hnumeral, fun h => h.unique hnumeral⟩
    simp only [List.mem_cons, exists_eq_or_imp, hi, ih]

/-- A bound that is given compares like the number that it denotes. -/
lemma bound_iff {lower : Option String} {a : Option Int} {P : Int → Prop}
    (h : Option.Rel (fun v i => readInteger? v = some i) lower a) :
    (∀ s ∈ lower, ∃ i, Numeral s.toList i ∧ P i) ↔ ∀ i ∈ a, P i := by
  cases h with
  | none => simp
  | some h =>
    have hnumeral := (readInteger?_eq_some_iff.1 h).1
    simp only [Option.mem_def, Option.some.injEq, forall_eq']
    constructor
    · rintro ⟨i, hi, hP⟩
      exact hi.unique hnumeral ▸ hP
    · exact fun hP => ⟨_, hnumeral, hP⟩

/-- A range holds where both its bounds do, and a negated one where not both do. -/
lemma holds_rangeExpr_iff {f : NumberField} {negated : Bool} {a b : Option Int} :
    (rangeExpr f negated a b).holds r ↔
      if negated then ¬ ((∀ i ∈ a, i ≤ f.read r) ∧ ∀ i ∈ b, f.read r ≤ i)
      else (∀ i ∈ a, i ≤ f.read r) ∧ ∀ i ∈ b, f.read r ≤ i := by
  cases negated with
  | false =>
    cases a <;> cases b <;> simp [rangeExpr, Expr.holds, Comparison.holds]
  | true =>
    cases a <;> cases b <;> simp [rangeExpr, Expr.holds, Comparison.holds]
    omega

lemma Expr.holds_negateIf_iff {e : Expr} {negated : Bool} :
    (e.negateIf negated).holds r ↔ if negated then ¬ e.holds r else e.holds r := by
  cases negated <;> simp [negateIf]

/-- What a key demands of a record holds if the record satisfies the parameter, or does not if
the clause is negated. -/
lemma Key.Demands.holds_iff {name : String} {negated : Bool} {p : Parameter} {e : Expr}
    (h : k.Demands negated p e) (hk : Key.find? name = some k) :
    e.holds r ↔ if negated then ¬ r.Satisfies name p else r.Satisfies name p := by
  cases h with
  | texts hf =>
    rw [Record.satisfies_texts_iff hk hf, Expr.holds_negateIf_iff, Expr.holds_texts_iff]
  | numbers hf h =>
    rw [Record.satisfies_numbers_iff hk hf, Expr.holds_negateIf_iff, Expr.holds_numbers_iff h]
  | range hf hl hu =>
    rw [Record.satisfies_range_iff hk hf, holds_rangeExpr_iff, bound_iff hl, bound_iff hu]

/-- A requirement holds of a record exactly if its clause does. -/
lemma Clause.holds_requirement_iff {p : Requirement} (h : c.requirement = .ok p) :
    p.holds r ↔ c.Holds r := by
  obtain ⟨k, e, hk, -, he, rfl⟩ := requirement_eq_ok_iff.1 h
  exact (Key.demands_of_expr he).holds_iff hk

lemma Clause.all_holds_requirement_iff {ps : List Requirement}
    (h : List.Forall₂ (fun c p => c.requirement = .ok p) cs ps) :
    ps.all (·.holds r) ↔ ∀ c ∈ cs, c.Holds r := by
  induction h with
  | nil => simp
  | cons hp _ ih =>
    rw [List.all_cons, Bool.and_eq_true, ih, List.forall_mem_cons, holds_requirement_iff hp]

/-- A query matches a record exactly when every one of its clauses holds of the record. -/
theorem Query.matches_iff_clauses_hold (h : ofClauses cs = .ok q) (r : Record) :
    q.matches r ↔ ∀ c ∈ cs, c.Holds r :=
  Clause.all_holds_requirement_iff (requirements_of_ofClauses h)

/-- The best streak of 12 lies outside the range, and the map has the second of the texts. -/
theorem Query.matches_iff_clauses_hold_streak_outside :
    ∃ q, ofClauses [⟨"beststreak", true, .range (some "3") (some "010")⟩,
        ⟨"map", false, .list ["cp_", "koth"]⟩] = .ok q ∧
      q.matches ⟨"a.dem", [⟨12, 400⟩], [], some { mapName := "koth_rc8" }, none⟩ ∧
      ∀ c ∈ [⟨"beststreak", true, .range (some "3") (some "010")⟩,
          ⟨"map", false, .list ["cp_", "koth"]⟩],
        Clause.Holds ⟨"a.dem", [⟨12, 400⟩], [], some { mapName := "koth_rc8" }, none⟩ c := by
  have hm : (ofClauses [⟨"beststreak", true, .range (some "3") (some "010")⟩,
      ⟨"map", false, .list ["cp_", "koth"]⟩]).toOption.map
        (·.matches ⟨"a.dem", [⟨12, 400⟩], [], some { mapName := "koth_rc8" }, none⟩) =
      some true := by
    decide +kernel
  obtain ⟨q, h, hq⟩ := exists_ok_of_toOption_map hm
  exact ⟨q, h, hq, (matches_iff_clauses_hold h _).1 hq⟩

end DemoQuery
