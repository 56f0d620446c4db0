import DemoQuery.Text.Reading
import Mathlib.Data.List.DropRight
import Mathlib.Data.List.TakeWhile

/-!
# Runs of characters

A run is a text of characters of one class. Reading a run from the front of a text takes exactly
the run if what follows it starts with no character of the class.
-/

namespace DemoQuery.Text

variable {p : Char → Bool} {cs ds ws rs ss : List Char}

/-- Every character of a text is of the class `p`. -/
def IsRun (p : Char → Bool) (cs : List Char) : Prop :=
  ∀ c ∈ cs, p c

instance : Decidable (IsRun p cs) :=
  decidable_of_iff (cs.all p) List.all_eq_true

/-- A text is empty or starts with a character outside the class `p`. -/
def StopsAt (p : Char → Bool) (cs : List Char) : Prop :=
  ∀ c ∈ cs.head?, p c = false

lemma isRun_nil : IsRun p [] := by simp [IsRun]

lemma IsRun.append (hc : IsRun p cs) (hd : IsRun p ds) : IsRun p (cs ++ ds) := by
  intro c hmem
  rcases List.mem_append.1 hmem with h | h
  · exact hc c h
  · exact hd c h

lemma IsRun.cons {c : Char} (hc : p c) (h : IsRun p cs) : IsRun p (c :: cs) :=
  List.forall_mem_cons.2 ⟨hc, h⟩

lemma isRun_replicate {c : Char} (hc : p c) (n : Nat) : IsRun p (List.replicate n c) :=
  fun _ hd => List.eq_of_mem_replicate hd ▸ hc

/-- A character outside the class stands nowhere in a run. -/
lemma IsRun.notMem {c : Char} (h : IsRun p cs) (hc : p c = false) : c ∉ cs := by
  intro hmem
  rw [h c hmem] at hc
  cases hc

lemma stopsAt_nil : StopsAt p [] := by simp [StopsAt]

lemma stopsAt_cons {c : Char} : StopsAt p (c :: cs) ↔ p c = false := by simp [StopsAt]

lemma takeWhile_run_append (hc : IsRun p cs) (hd : StopsAt p ds) :
    (cs ++ ds).takeWhile p = cs := by
  rw [List.takeWhile_append_of_pos hc]
  cases ds with
  | nil => simp
  | cons d ds => simp [stopsAt_cons.1 hd]

lemma dropWhile_run_append (hc : IsRun p cs) (hd : StopsAt p ds) :
    (cs ++ ds).dropWhile p = ds := by
  rw [List.dropWhile_append_of_pos hc]
  cases ds with
  | nil => simp
  | cons d ds => simp [stopsAt_cons.1 hd]

lemma dropWhile_of_stopsAt (h : StopsAt p cs) : cs.dropWhile p = cs := by
  simpa using dropWhile_run_append isRun_nil h

/-- A run and what stands behind it can be told from each other. -/
lemma run_append_inj (hc : IsRun p cs) (hd : IsRun p ds) (hr : StopsAt p rs) (hs : StopsAt p ss)
    (h : cs ++ rs = ds ++ ss) : cs = ds ∧ rs = ss := by
  have htake := congrArg (List.takeWhile p) h
  have hdrop := congrArg (List.dropWhile p) h
  rw [takeWhile_run_append hc hr, takeWhile_run_append hd hs] at htake
  rw [dropWhile_run_append hc hr, dropWhile_run_append hd hs] at hdrop
  exact ⟨htake, hdrop⟩

lemma isRun_takeWhile : IsRun p (cs.takeWhile p) := fun _ hc =>
  List.mem_takeWhile_imp hc

lemma stopsAt_dropWhile : StopsAt p (cs.dropWhile p) := by
  intro c hc
  rw [← List.find?_not_eq_head?_dropWhile] at hc
  simpa using List.find?_some hc

/-! ### Visible characters -/

/-- Whether a character is no control character: none below the blank. -/
def isVisible (c : Char) : Bool :=
  ' ' ≤ c

/-! ### Blanks -/

lemma skipBlanks_append (hw : IsRun isBlank ws) (hc : StopsAt isBlank cs) :
    skipBlanks (ws ++ cs) = cs :=
  dropWhile_run_append hw hc

lemma skipBlanks_skipBlanks (cs : List Char) : skipBlanks (skipBlanks cs) = skipBlanks cs :=
  List.dropWhile_idempotent _ _

/-- A text is the blanks that are skipped and what is left. -/
lemma exists_blanks (cs : List Char) : ∃ ws, IsRun isBlank ws ∧ cs = ws ++ skipBlanks cs :=
  ⟨cs.takeWhile isBlank, isRun_takeWhile, List.takeWhile_append_dropWhile.symm⟩

/-- The last character of a text that is no blank. -/
def lastNonBlank? (cs : List Char) : Option Char :=
  (cs.filter (!isBlank ·)).getLast?

lemma lastNonBlank?_append :
    lastNonBlank? (cs ++ ds) = (lastNonBlank? ds).or (lastNonBlank? cs) := by
  simp [lastNonBlank?, List.getLast?_append]

lemma lastNonBlank?_blanks (h : IsRun isBlank ws) : lastNonBlank? ws = none := by
  simpa [lastNonBlank?, IsRun] using h

lemma lastNonBlank?_cons_blanks {c : Char} (hc : isBlank c = false) (h : IsRun isBlank ws) :
    lastNonBlank? (c :: ws) = some c := by
  rw [← List.singleton_append, lastNonBlank?_append, lastNonBlank?_blanks h]
  simp [lastNonBlank?, hc]

lemma lastNonBlank?_concat {c : Char} (hc : isBlank c = false) :
    lastNonBlank? (cs ++ [c]) = some c := by
  rw [lastNonBlank?_append, lastNonBlank?_cons_blanks hc isRun_nil]
  rfl

/-- A last character that is not the comma stands behind it. -/
lemma lastNonBlank?_behind_comma {c : Char} (h : IsRun isBlank ws)
    (hlast : lastNonBlank? (cs ++ ',' :: ws ++ ds) = some c) (hc : c ≠ ',') :
    lastNonBlank? ds = some c := by
  rw [lastNonBlank?_append, lastNonBlank?_append, lastNonBlank?_cons_blanks (by decide) h] at hlast
  cases hd : lastNonBlank? ds with
  | some d => simpa [hd] using hlast
  | none =>
    rw [hd] at hlast
    exact absurd (Option.some.inj hlast).symm hc

end DemoQuery.Text
