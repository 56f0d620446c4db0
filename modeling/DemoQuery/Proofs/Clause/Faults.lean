import DemoQuery.Proofs.Clause.Complete

/-!
# Where a filter goes wrong

A filter that cannot be read is wrong at one place, and the error says what is wrong there. In front
of the place stand complete clauses. Behind it stands no key, or a key with no parameter, or a key
with a parameter of which every value is empty. Nothing that follows matters.
-/

namespace DemoQuery

open Text Grammar

variable {cs cs' front front' : List Char} {p : Parameter} {l l' : List Clause} {e e' : FilterError}

/-! ### Faults -/

/-- `Fault cs e`: at the start of `cs` stands no clause, for the reason `e`. The errors of syntax
quote the first ten characters of what stands in the place of a key, or of a parameter. -/
inductive Grammar.Fault : List Char → FilterError → Prop
  | noKey {cs : List Char}
      (h : ∀ negated name rest, IsRun isKeyChar name → cs ≠ keyText negated name ++ rest) :
      Fault cs (.expectedKey (.ofList (cs.take 10)))
  | noParameter {negated : Bool} {name ws cs : List Char} (hn : IsRun isKeyChar name)
      (hw : IsRun isBlank ws) (hc : StopsAt isBlank cs)
      (h : ∀ form text behind p rest, Derives form text p → Ends behind rest →
        cs ≠ text ++ behind) :
      Fault (keyText negated name ++ ws ++ cs) (.expectedParameter (.ofList (cs.take 10)))
  | noValue {negated : Bool} {name ws text behind rest : List Char} {form : Form}
      {vs : List String} (hn : IsRun isKeyChar name) (hw : IsRun isBlank ws)
      (hc : StopsAt isBlank (text ++ behind)) (hp : Derives form text (.list vs))
      (hend : Ends behind rest) (hvs : ∀ v ∈ vs, v = "") :
      Fault (keyText negated name ++ ws ++ (text ++ behind)) (.emptyParameter (.ofList name))

/-- `FaultAt filter front l cs e`: the filter is the complete clauses `l`, with the text `front`,
and then the text `cs`, at the start of which it is wrong for the reason `e`. -/
structure Grammar.FaultAt (filter front : List Char) (l : List Clause) (cs : List Char)
    (e : FilterError) : Prop where
  split    : filter = front ++ cs
  complete : Complete front l
  start    : ∃ d ds, cs = d :: ds ∧ isBlank d = false
  fault    : Fault cs e

/-! ### Reading one clause -/

lemma readKey?_eq_none_iff : readKey? cs = none ↔
    ∀ negated name rest, IsRun isKeyChar name → cs ≠ keyText negated name ++ rest := by
  constructor
  · rintro h negated name rest hn rfl
    rw [readKey?_keyText hn] at h
    cases h
  · intro h
    rw [Option.eq_none_iff_forall_ne_some]
    rintro ⟨negated, key, rest⟩ hread
    obtain ⟨name, hn, -, hcs⟩ := exists_name_of_readKey? hread
    exact h negated name rest hn hcs

lemma readParameter?_eq_none_iff : readParameter? cs = none ↔
    ∀ form text behind p rest, Derives form text p → Ends behind rest → cs ≠ text ++ behind := by
  constructor
  · intro h form text behind p rest hp hend hcs
    rw [readParameter?_eq_some_iff.2 ⟨form, text, behind, hp, hend, hcs⟩] at h
    cases h
  · intro h
    rw [Option.eq_none_iff_forall_ne_some]
    rintro ⟨p, rest⟩ hread
    obtain ⟨form, text, behind, hp, hend, hcs⟩ := readParameter?_eq_some_iff.1 hread
    exact h form text behind p rest hp hend hcs

lemma dropEmpty?_eq_none_iff : p.dropEmpty? = none ↔ ∃ vs, p = .list vs ∧ ∀ v ∈ vs, v = "" := by
  cases p with
  | list vs =>
    have hempty : vs.filter (· ≠ "") = [] ↔ ∀ v ∈ vs, v = "" := by simp [List.filter_eq_nil_iff]
    simp only [Parameter.list.injEq, exists_eq_left', ← hempty, Parameter.dropEmpty?]
    cases vs.filter (· ≠ "") <;> simp
  | range lower upper => simp [Parameter.dropEmpty?]

lemma fault_of_readClause (h : readClause cs = .error e) : Fault cs e := by
  rw [readClause] at h
  split at h
  · next hkey =>
    obtain rfl := Except.error.inj h
    exact .noKey (readKey?_eq_none_iff.1 hkey)
  · next negated key behind hkey =>
    obtain ⟨name, hn, rfl, rfl⟩ := exists_name_of_readKey? hkey
    obtain ⟨ws, hw, hbehind⟩ := exists_blanks behind
    have hstop : StopsAt isBlank (skipBlanks behind) := stopsAt_dropWhile
    rw [hbehind, ← List.append_assoc]
    split at h
    · next hp =>
      obtain rfl := Except.error.inj h
      exact .noParameter hn hw hstop (readParameter?_eq_none_iff.1 hp)
    · next p rest hp =>
      split at h
      · next hempty =>
        obtain rfl := Except.error.inj h
        obtain ⟨vs, rfl, hvs⟩ := dropEmpty?_eq_none_iff.1 hempty
        obtain ⟨form, text, behind', hderives, hend, hskip⟩ := readParameter?_eq_some_iff.1 hp
        rw [hskip] at hstop ⊢
        exact .noValue hn hw hstop hderives hend hvs
      · cases h

lemma Grammar.Fault.readClause (h : Fault cs e) : readClause cs = .error e := by
  cases h with
  | noKey h =>
    simp only [DemoQuery.readClause, readKey?_eq_none_iff.2 h]
    rfl
  | noParameter hn hw hc h =>
    simp only [DemoQuery.readClause, List.append_assoc, readKey?_keyText hn,
      skipBlanks_append hw hc, readParameter?_eq_none_iff.2 h]
    rfl
  | @noValue negated name ws text behind rest form vs hn hw hc hp hend hvs =>
    have hread := readParameter?_eq_some_iff.2 ⟨form, text, behind, hp, hend, rfl⟩
    have hempty := dropEmpty?_eq_none_iff.2 ⟨vs, rfl, hvs⟩
    simp only [DemoQuery.readClause, List.append_assoc, readKey?_keyText hn,
      skipBlanks_append hw hc, hread, hempty]

/-- A clause is refused exactly for what is wrong with it. -/
lemma readClause_eq_error_iff : readClause cs = .error e ↔ Fault cs e :=
  ⟨fault_of_readClause, Fault.readClause⟩

/-- Where something is wrong, no clause starts. -/
lemma Grammar.Fault.not_isClause {text behind rest : List Char} {c : Clause}
    (h : Fault (text ++ behind) e) (hend : Ends behind rest) : ¬ IsClause text c := by
  intro hc
  have hok := readClause_eq_ok_iff.2 ⟨text, behind, hc, hend, rfl⟩
  rw [readClause_eq_error_iff.2 h] at hok
  cases hok

/-! ### Reading a filter -/

lemma faultAt_of_readClauses (h : readClauses cs = .error e) :
    ∃ front l s, FaultAt cs front l s e := by
  fun_induction readClauses cs with
  | case1 => cases h
  | case2 cs d ds hs e' hc =>
    obtain rfl := Except.error.inj h
    obtain ⟨ws, hw, hcs⟩ := exists_blanks cs
    have hstop : StopsAt isBlank (skipBlanks cs) := stopsAt_dropWhile
    rw [hs] at hstop
    rw [hs] at hcs
    exact ⟨ws, [], d :: ds, hcs, .blanks hw, ⟨d, ds, rfl, stopsAt_cons.1 hstop⟩,
      readClause_eq_error_iff.1 hc⟩
  | case3 cs d ds hs c rest hc ih =>
    obtain ⟨front, l, s, hrest, hfront, hs', hfault⟩ := ih (map_eq_error_iff.1 h)
    obtain ⟨ws, hw, hcs⟩ := exists_blanks cs
    obtain ⟨text, behind, htext, hend, htb⟩ := readClause_eq_ok_iff.1 hc
    cases hend with
    | filter _ =>
      -- nothing is left, in which nothing is wrong
      obtain ⟨d', ds', rfl, -⟩ := hs'
      simp at hrest
    | @comma ws' _ hw' =>
      refine ⟨ws ++ text ++ ws' ++ ',' :: front, c :: l, s, ?_, .clause hw htext hw' hfront, hs',
        hfault⟩
      rw [hcs, hs, htb, hrest]
      simp

lemma Grammar.FaultAt.readClauses (h : FaultAt cs front l cs' e) : readClauses cs = .error e := by
  obtain ⟨d, ds, rfl, hd⟩ := h.start
  have hskip : skipBlanks (d :: ds) = d :: ds := dropWhile_of_stopsAt (stopsAt_cons.2 hd)
  rw [h.split, readClauses_complete_append h.complete, readClauses_of_skipBlanks_cons hskip,
    readClause_eq_error_iff.2 h.fault]
  rfl

/-! ### One place -/

/-- Complete clauses in front of a place where something is wrong are all that are there. -/
lemma Grammar.Complete.unique (h : Complete front l) (h' : Complete front' l')
    (hcs : StopsAt isBlank cs) (hcs' : StopsAt isBlank cs') (hfault : Fault cs e)
    (hfault' : Fault cs' e') (heq : front ++ cs = front' ++ cs') : l = l' ∧ cs = cs' := by
  induction h generalizing front' l' with
  | blanks hw =>
    cases h' with
    | blanks hw' => exact ⟨rfl, (run_append_inj hw hw' hcs hcs' heq).2⟩
    | clause hw' htext hw₁ _ =>
      simp only [List.append_assoc, List.cons_append] at heq
      obtain ⟨-, rfl⟩ := run_append_inj hw hw' hcs htext.stopsAt_isBlank heq
      exact absurd htext (hfault.not_isClause (.comma hw₁))
  | clause hw htext hw₁ _ ih =>
    cases h' with
    | blanks hw' =>
      simp only [List.append_assoc, List.cons_append] at heq
      obtain ⟨-, rfl⟩ := run_append_inj hw hw' htext.stopsAt_isBlank hcs' heq
      exact absurd htext (hfault'.not_isClause (.comma hw₁))
    | clause hw' htext' hw₂ h' =>
      simp only [List.append_assoc, List.cons_append] at heq
      obtain ⟨-, heq⟩ := run_append_inj hw hw' htext.stopsAt_isBlank htext'.stopsAt_isBlank heq
      obtain ⟨rfl, hrest⟩ := htext.unique htext' (.comma hw₁) (.comma hw₂) heq
      obtain ⟨rfl, rfl⟩ := ih h' hrest
      exact ⟨rfl, rfl⟩

/-- A filter that cannot be read is wrong at one place and for one reason: the first clause that is
none, behind complete clauses. -/
theorem Clause.parse_eq_error_iff_faultAt (filter : String) :
    (∀ e, Clause.parse filter = .error e ↔ ∃ front l cs, FaultAt filter.toList front l cs e) ∧
      ∀ front l cs e front' l' cs' e', FaultAt filter.toList front l cs e →
        FaultAt filter.toList front' l' cs' e' → front = front' ∧ l = l' ∧ cs = cs' ∧ e = e' := by
  constructor
  · intro e
    constructor
    · exact faultAt_of_readClauses
    · rintro ⟨front, l, cs, h⟩
      exact h.readClauses
  · intro front l cs e front' l' cs' e' h h'
    obtain ⟨d, ds, rfl, hd⟩ := h.start
    obtain ⟨d', ds', rfl, hd'⟩ := h'.start
    obtain ⟨rfl, heq⟩ := h.complete.unique h'.complete (stopsAt_cons.2 hd) (stopsAt_cons.2 hd')
      h.fault h'.fault (h.split.symm.trans h'.split)
    have hsplit := h.split.symm.trans h'.split
    rw [heq] at hsplit
    have he := h.readClauses.symm.trans h'.readClauses
    exact ⟨List.append_cancel_right hsplit, rfl, heq, Except.error.inj he⟩

/-- A tuple in quotes with nothing in its quotes, behind a complete clause and in front of what is
none either: the tuple is what is wrong, and nothing else. -/
theorem Clause.parse_eq_error_iff_faultAt_empty_tuple :
    Clause.parse "map: cp ,!name:('',\"\" ,) , x" = .error (.emptyParameter "name") ∧
      ∀ front l cs e, FaultAt "map: cp ,!name:('',\"\" ,) , x".toList front l cs e →
        front = "map: cp ,".toList ∧ l = [⟨"map", false, .list ["cp"]⟩] ∧
          cs = "!name:('',\"\" ,) , x".toList ∧ e = .emptyParameter "name" := by
  have hlast : lastNonBlank? "map: cp ,".toList = some ',' := by decide
  have hfront : Complete "map: cp ,".toList [⟨"map", false, .list ["cp"]⟩] :=
    complete_of_readClauses (by decide +kernel) fun _ hd => Option.mem_unique hd hlast
  have hfault : Fault "!name:('',\"\" ,) , x".toList (.emptyParameter "name") :=
    readClause_eq_error_iff.1 (by decide +kernel)
  have h : FaultAt "map: cp ,!name:('',\"\" ,) , x".toList "map: cp ,".toList
      [⟨"map", false, .list ["cp"]⟩] "!name:('',\"\" ,) , x".toList (.emptyParameter "name") :=
    ⟨by decide +kernel, hfront, ⟨'!', _, rfl, by decide⟩, hfault⟩
  obtain ⟨hparse, hunique⟩ := parse_eq_error_iff_faultAt "map: cp ,!name:('',\"\" ,) , x"
  refine ⟨(hparse _).2 ⟨_, _, _, h⟩, fun front l cs e h' => ?_⟩
  exact hunique front l cs e _ _ _ _ h' h

end DemoQuery
