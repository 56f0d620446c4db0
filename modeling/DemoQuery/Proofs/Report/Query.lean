import DemoQuery.Proofs.Query.NormalForm
import DemoQuery.Proofs.Text.Lines
import DemoQuery.Report.Query

/-!
# Explained queries are unambiguous

The explanation of a query has one line for each requirement and one for what all of them need. No
needle can add a line or look like another requirement, so the explanation says which query it is.
-/

namespace DemoQuery

open Text

variable {j k : Key} {p p' : Requirement} {ps ps' : List Requirement} {q q' : Query} {place : Nat}

/-! ### Signed keys -/

/-- Characters other than the colon. -/
def isSignedKeyChar (c : Char) : Bool :=
  c ≠ ':'

lemma Key.name_inj (hj : j ∈ all) (hk : k ∈ all) (h : j.name.toList = k.name.toList) : j = k := by
  have hall : ∀ j ∈ all, ∀ k ∈ all, j.name.toList = k.name.toList → j = k := by decide +kernel
  exact hall j hj k hk h

lemma Key.notMem_name (hk : k ∈ all) : '!' ∉ k.name.toList ∧ ':' ∉ k.name.toList := by
  have hall : ∀ k ∈ all, '!' ∉ k.name.toList ∧ ':' ∉ k.name.toList := by decide +kernel
  exact hall k hk

lemma Key.isVisible_name (hk : k ∈ all) : IsRun isVisible k.name.toList := by
  have hall : ∀ k ∈ all, IsRun isVisible k.name.toList := by decide +kernel
  exact hall k hk

namespace Report

lemma toList_signedKey (p : Requirement) :
    (signedKey p).toList = if p.negated then '!' :: p.key.name.toList else p.key.name.toList := by
  rw [signedKey]
  split <;> simp

lemma isRun_signedKey (hp : p.key ∈ Key.all) : IsRun isSignedKeyChar (signedKey p).toList := by
  obtain ⟨-, hcolon⟩ := Key.notMem_name hp
  have hname : IsRun isSignedKeyChar p.key.name.toList := fun c hc =>
    decide_eq_true (ne_of_mem_of_not_mem hc hcolon)
  rw [toList_signedKey]
  split
  · exact hname.cons (by decide)
  · exact hname

/-- No key starts with the sign of negation. -/
lemma signedKey_inj (hp : p.key ∈ Key.all) (hp' : p'.key ∈ Key.all)
    (h : (signedKey p).toList = (signedKey p').toList) :
    p.key = p'.key ∧ p.negated = p'.negated := by
  have hsign : ∀ {k : Key} {cs : List Char}, k ∈ Key.all → k.name.toList ≠ '!' :: cs :=
    fun hk hcs => (Key.notMem_name hk).1 (by simp [hcs])
  rw [toList_signedKey, toList_signedKey] at h
  cases hn : p.negated <;> cases hn' : p'.negated <;> simp only [hn, hn', if_true] at h
  · exact ⟨Key.name_inj hp hp' h, rfl⟩
  · exact absurd h (hsign hp)
  · exact absurd h.symm (hsign hp')
  · exact ⟨Key.name_inj hp hp' (List.cons.inj h).2, rfl⟩

/-! ### Lines of requirements -/

lemma toList_requirementLine (p : Requirement) (place : Nat) :
    (requirementLine false p place).toList = (padLeft 2 place.repr).toList ++ '.' :: ' ' ::
      ((signedKey p).toList ++ ':' :: ' ' :: p.expr.text.toList) := by
  simp [requirementLine]

/-- The line of a requirement says which requirement it is. -/
lemma requirementLine_inj (hp : p.WellFormed) (hp' : p'.WellFormed) (hb : p.expr.Branching)
    (hb' : p'.expr.Branching)
    (h : (requirementLine false p place).toList = (requirementLine false p' place).toList) :
    p = p' := by
  rw [toList_requirementLine, toList_requirementLine, List.append_right_inj, List.cons_inj_right,
    List.cons_inj_right] at h
  have hstop : ∀ cs, StopsAt isSignedKeyChar (':' :: cs) := fun cs => stopsAt_cons.2 (by decide)
  obtain ⟨hsigned, hrest⟩ := run_append_inj (isRun_signedKey hp.key_mem)
    (isRun_signedKey hp'.key_mem) (hstop _) (hstop _) h
  obtain ⟨hkey, hnegated⟩ := signedKey_inj hp.key_mem hp'.key_mem hsigned
  have htext : p.expr.text = p'.expr.text :=
    String.toList_inj.1 (List.cons.inj (List.cons.inj hrest).2).2
  have hexpr := hb.text_inj hb' htext
  have hneeds : p.needs = p'.needs := by rw [hp.needs_eq, hp'.needs_eq, hkey]
  cases p
  cases p'
  simp_all

lemma isVisible_signedKey (hp : p.key ∈ Key.all) : IsRun isVisible (signedKey p).toList := by
  rw [toList_signedKey]
  split
  · exact (Key.isVisible_name hp).cons (by decide)
  · exact Key.isVisible_name hp

/-- The line of a requirement has no control characters, whatever its needles contain. -/
lemma isVisible_requirementLine (hp : p.WellFormed) (hb : p.expr.Branching) :
    IsRun isVisible (requirementLine false p place).toList := by
  have hplace : IsRun isVisible (padLeft 2 place.repr).toList := by
    rw [padLeft, String.toList_append, String.toList_ofList, Nat.toList_repr]
    exact (isRun_replicate (by decide) _).append (isVisible_toDigits (by decide) (by decide) place)
  rw [toList_requirementLine]
  exact hplace.append (.cons (by decide) (.cons (by decide) ((isVisible_signedKey hp.key_mem).append
    (.cons (by decide) (.cons (by decide) hb.isVisible_text)))))

/-- The lines of requirements, the first at a given place. -/
def requirementLines (ps : List Requirement) (place : Nat) : List (List Char) :=
  (ps.zipIdx place).map fun (p, place) => (requirementLine false p place).toList

@[simp] lemma length_requirementLines : (requirementLines ps place).length = ps.length := by
  simp [requirementLines]

lemma requirementLines_cons : requirementLines (p :: ps) place =
    (requirementLine false p place).toList :: requirementLines ps (place + 1) := rfl

lemma requirementLines_inj (h : ∀ p ∈ ps, p.WellFormed ∧ p.expr.Branching)
    (h' : ∀ p ∈ ps', p.WellFormed ∧ p.expr.Branching)
    (heq : requirementLines ps place = requirementLines ps' place) : ps = ps' := by
  induction ps generalizing ps' place with
  | nil =>
    have hlength := congrArg List.length heq
    rw [length_requirementLines, length_requirementLines] at hlength
    exact (List.eq_nil_of_length_eq_zero hlength.symm).symm
  | cons p ps ih =>
    cases ps' with
    | nil => cases heq
    | cons p' ps' =>
      obtain ⟨⟨hp, hb⟩, hps⟩ := List.forall_mem_cons.1 h
      obtain ⟨⟨hp', hb'⟩, hps'⟩ := List.forall_mem_cons.1 h'
      rw [requirementLines_cons, requirementLines_cons] at heq
      obtain ⟨hline, hlines⟩ := List.cons.inj heq
      rw [requirementLine_inj hp hp' hb hb' hline, ih hps hps' hlines]

/-! ### The whole explanation -/

/-- The line behind those of the requirements. -/
def lastLine (q : Query) : String :=
  if q.requirements.isEmpty then "Empty filter: every demo matches." else needsLine q.needs

lemma toList_queryTable (q : Query) :
    (queryTable false q).toList =
      ofLines (requirementLines q.requirements 1 ++ [(lastLine q).toList]) := by
  unfold queryTable lastLine
  split
  · next h => simp [List.isEmpty_iff.1 h, requirementLines]
  · simp [ofLines, requirementLines, List.flatMap_map]

lemma isVisible_lastLine (q : Query) : IsRun isVisible (lastLine q).toList := by
  unfold lastLine
  split
  · decide
  · rcases q.needs with ⟨_ | _, _ | _⟩ <;> decide +kernel

lemma isVisible_tableLines (h : q.IsCompiled) :
    ∀ l ∈ requirementLines q.requirements 1 ++ [(lastLine q).toList], IsRun isVisible l := by
  intro l hl
  rcases List.mem_append.1 hl with hl | hl
  · obtain ⟨⟨p, place⟩, hp, rfl⟩ := List.mem_map.1 hl
    have hmem : p ∈ q.requirements := List.fst_mem_of_mem_zipIdx hp
    exact isVisible_requirementLine (h.wellFormed.requirement p hmem) (h.branching p hmem)
  · rw [List.mem_singleton.1 hl]
    exact isVisible_lastLine q

lemma newline_notMem_tableLines (h : q.IsCompiled) :
    ∀ l ∈ requirementLines q.requirements 1 ++ [(lastLine q).toList], '\n' ∉ l :=
  fun l hl => (isVisible_tableLines h l hl).notMem (by decide)

/-- What a compiled query needs follows from its requirements. -/
lemma eq_of_requirements_eq (h : q.IsCompiled) (h' : q'.IsCompiled)
    (heq : q.requirements = q'.requirements) : q = q' := by
  have hneeds : q.needs = q'.needs := by
    ext
    · rw [h.wellFormed.needs_header, h'.wellFormed.needs_header, heq]
    · rw [h.wellFormed.needs_fileData, h'.wellFormed.needs_fileData, heq]
  cases q
  cases q'
  simp_all

lemma queryTable_inj (h : q.IsCompiled) (h' : q'.IsCompiled)
    (heq : queryTable false q = queryTable false q') : q = q' := by
  have hlines := congrArg String.toList heq
  rw [toList_queryTable, toList_queryTable] at hlines
  have happend := ofLines_inj (newline_notMem_tableLines h) (newline_notMem_tableLines h') hlines
  obtain ⟨hrequirements, -⟩ := List.append_inj' happend rfl
  refine eq_of_requirements_eq h h' (requirementLines_inj (fun p hp => ?_) (fun p hp => ?_)
    hrequirements)
  · exact ⟨h.wellFormed.requirement p hp, h.branching p hp⟩
  · exact ⟨h'.wellFormed.requirement p hp, h'.branching p hp⟩

lemma count_newline_queryTable (h : q.IsCompiled) :
    (queryTable false q).toList.count '\n' = q.requirements.length + 1 := by
  rw [toList_queryTable, count_newline_ofLines (newline_notMem_tableLines h)]
  simp

/-- Expressions and queries can be told by their texts, and no needle adds a line. -/
theorem queryTable_unambiguous :
    (∀ ⦃d e : Expr⦄, d.Branching → e.Branching → d.text = e.text → d = e) ∧
      (∀ ⦃q : Query⦄, q.IsCompiled → ∀ p ∈ q.requirements, p.expr.Branching) ∧
      (∀ ⦃q q' : Query⦄, q.IsCompiled → q'.IsCompiled →
        queryTable false q = queryTable false q' → q = q') ∧
      ∀ ⦃q : Query⦄, q.IsCompiled →
        (queryTable false q).toList.count '\n' = q.requirements.length + 1 :=
  ⟨fun _ _ => Expr.Branching.text_inj, fun _ => Query.IsCompiled.branching,
    fun _ _ => queryTable_inj, fun _ => count_newline_queryTable⟩

/-- A needle with quotes and a line feed makes neither a disjunction nor a second requirement. -/
theorem queryTable_unambiguous_hostile_needle :
    (Expr.contains .name "x\" or name contains \"y").text ≠
        (Expr.or [.contains .name "x", .contains .name "y"]).text ∧
      ∃ q q', Query.ofClauses [⟨"name", false,
          .list ["x\"\n 2. map: header.map_name contains \"y"]⟩] = .ok q ∧
        Query.ofClauses [⟨"name", false, .list ["x"]⟩, ⟨"map", false, .list ["y"]⟩] = .ok q' ∧
        (∀ p ∈ q.requirements, p.expr.Branching) ∧
        queryTable false q ≠ queryTable false q' ∧
        (queryTable false q).toList.count '\n' = 2 := by
  obtain ⟨htext, hbranching, htable, hcount⟩ := queryTable_unambiguous
  have hor : (Expr.or [.contains .name "x", .contains .name "y"]).Branching :=
    .or (by decide) (by simp [Expr.Branching.contains])
  obtain ⟨q, hq⟩ : ∃ q, Query.ofClauses [⟨"name", false,
      .list ["x\"\n 2. map: header.map_name contains \"y"]⟩] = .ok q := ⟨_, rfl⟩
  obtain ⟨q', hq'⟩ : ∃ q', Query.ofClauses [⟨"name", false, .list ["x"]⟩,
      ⟨"map", false, .list ["y"]⟩] = .ok q' := ⟨_, rfl⟩
  have hlength := (Query.requirements_of_ofClauses hq).length_eq
  have hlength' := (Query.requirements_of_ofClauses hq').length_eq
  refine ⟨fun h => ?_, q, q', hq, hq', hbranching (.ofClauses hq), fun h => ?_, ?_⟩
  · cases htext (.contains .name _) hor h
  · rw [htable (.ofClauses hq) (.ofClauses hq') h, ← hlength'] at hlength
    exact absurd hlength (by decide)
  · rw [hcount (.ofClauses hq), ← hlength]
    rfl

end Report

end DemoQuery
