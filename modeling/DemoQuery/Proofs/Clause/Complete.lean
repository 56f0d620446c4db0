import DemoQuery.Proofs.Clause.Reading

/-!
# Complete clauses

Clauses that each have a comma behind them are complete: they are read as they are whatever stands
behind the last comma, and that is read as if it stood alone. The clauses of a filter are complete
if it ends in a comma, and one more comma makes them so if it does not.
-/

namespace DemoQuery

open Text Grammar

variable {form : Form} {cs ws text rest : List Char} {p p' : Parameter} {c : Clause}
  {l : List Clause}

/-- Clauses each with a comma behind it. Blanks may stand in front of each of them, and behind the
last comma. -/
inductive Grammar.Complete : List Char → List Clause → Prop
  | blanks {ws : List Char} (hw : IsRun isBlank ws) : Complete ws []
  | clause {ws cs ws' ds : List Char} {c : Clause} {l : List Clause} (hw : IsRun isBlank ws)
      (h : IsClause cs c) (hw' : IsRun isBlank ws') (hs : Complete ds l) :
      Complete (ws ++ cs ++ ws' ++ ',' :: ds) (c :: l)

/-- Behind complete clauses, a text is read as if it stood alone. -/
lemma readClauses_complete_append (h : Complete cs l) :
    readClauses (cs ++ rest) = (readClauses rest).map (l ++ ·) := by
  induction h with
  | blanks hw =>
    rw [readClauses_blanks_append hw]
    cases readClauses rest <;> rfl
  | clause hw h hw' _ ih =>
    simp only [List.append_assoc, List.cons_append]
    rw [readClauses_clause hw h (.comma hw'), ih]
    cases readClauses rest <;> rfl

/-! ### Commas behind filters -/

lemma lastNonBlank?_append_run (cs : List Char) (h : IsRun isKeyChar text) (hne : text ≠ []) :
    ∃ d, lastNonBlank? (cs ++ text) = some d ∧ d ≠ ',' := by
  obtain ⟨ds, d, rfl⟩ := List.eq_nil_or_concat' text |>.resolve_left hne
  have hd : isKeyChar d := h d (by simp)
  refine ⟨d, ?_, ?_⟩
  · rw [← List.append_assoc]
    exact lastNonBlank?_concat (isBlank_of_isKeyChar hd)
  · rintro rfl
    exact absurd hd (by decide)

/-- A parameter of which something is kept ends in no comma. -/
lemma Grammar.Derives.lastNonBlank? (h : Derives form text p) (hk : Keeps p p') :
    ∃ d, lastNonBlank? (cs ++ text) = some d ∧ d ≠ ',' := by
  cases h with
  | quotedTuple _ _ _ _ =>
    rw [← List.append_assoc]
    exact ⟨')', lastNonBlank?_concat (by decide), by decide⟩
  | plainTuple _ _ _ =>
    rw [← List.append_assoc]
    exact ⟨')', lastNonBlank?_concat (by decide), by decide⟩
  | @rangeBetween ds es _ _ he hes =>
    have hrun := isRun_isKeyChar_of_isDigit hes
    simpa using lastNonBlank?_append_run (cs ++ (ds ++ ['.', '.'])) hrun he
  | @rangeFrom ds _ _ =>
    have h : lastNonBlank? (cs ++ ds ++ ['.'] ++ ['.']) = some '.' :=
      lastNonBlank?_concat (by decide)
    exact ⟨'.', by simpa using h, by decide⟩
  | rangeTo he hes =>
    have hrun := isRun_isKeyChar_of_isDigit hes
    simpa using lastNonBlank?_append_run (cs ++ ['.', '.']) hrun he
  | plainValue h =>
    -- it may be empty, but then nothing of it is kept
    refine lastNonBlank?_append_run cs h ?_
    rintro rfl
    cases hk with
    | list hne => exact hne (by decide)
  | quotedValue h =>
    cases h with
    | mk hq _ =>
      rw [← List.append_assoc]
      rcases hq with rfl | rfl <;> exact ⟨_, lastNonBlank?_concat (by decide), by decide⟩

/-- A clause ends in no comma. -/
lemma Grammar.IsClause.lastNonBlank? (h : IsClause text c) :
    ∃ d, lastNonBlank? text = some d ∧ d ≠ ',' := by
  cases h with
  | mk _ _ hp hk => exact hp.lastNonBlank? hk

/-- The clauses of a text that is blank or ends in a comma are complete. -/
lemma Grammar.Clauses.complete (h : Clauses cs l) (hw : IsRun isBlank ws)
    (hlast : ∀ d ∈ lastNonBlank? cs, d = ',') : Complete (ws ++ cs) l := by
  induction h generalizing ws with
  | nil =>
    rw [List.append_nil]
    exact .blanks hw
  | last h hw' =>
    obtain ⟨d, hd, hne⟩ := h.lastNonBlank?
    rw [lastNonBlank?_append, lastNonBlank?_blanks hw', hd] at hlast
    exact absurd (hlast d rfl) hne
  | @more cs ws₁ ws₂ ds c l h hw₁ hw₂ _ ih =>
    have hds : ∀ d ∈ lastNonBlank? ds, d = ',' := by
      intro d hd
      rw [lastNonBlank?_append, Option.mem_def.1 hd] at hlast
      exact hlast d rfl
    simpa using Complete.clause hw h hw₁ (ih hw₂ hds)

/-- One more comma completes the clauses of a text that does not end in one. -/
lemma Grammar.Clauses.complete_comma {d : Char} (h : Clauses cs l) (hw : IsRun isBlank ws)
    (hlast : lastNonBlank? cs = some d) (hd : d ≠ ',') : Complete (ws ++ (cs ++ [','])) l := by
  induction h generalizing ws with
  | nil => cases hlast
  | last h hw' => simpa using Complete.clause hw h hw' (.blanks isRun_nil)
  | @more cs ws₁ ws₂ ds c l h hw₁ hw₂ _ ih =>
    -- the text does not end behind this comma, or the comma would be its last character
    have hds := ih hw₂ (lastNonBlank?_behind_comma hw₂ hlast hd)
    simpa using Complete.clause hw h hw₁ hds

/-- The clauses of a filter that is blank or ends in a comma are complete. -/
lemma complete_of_readClauses (h : readClauses cs = .ok l)
    (hlast : ∀ d ∈ lastNonBlank? cs, d = ',') : Complete cs l := by
  obtain ⟨hw, hs⟩ := readClauses_eq_ok_iff.1 h
  rw [lastNonBlank?_append, lastNonBlank?_blanks hw, Option.or_none] at hlast
  exact hs.complete hw hlast

end DemoQuery
