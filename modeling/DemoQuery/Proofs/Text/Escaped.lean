import DemoQuery.Text.Reading
import Mathlib.Tactic.Lemma

/-!
# Escaping and resolving

Resolving undoes escaping. Escaping undoes resolving on exactly the canonical texts, those in which
a backslash stands before every backslash and quote and nowhere else. Pairs are formed from the
left, so a text is resolved apart from what follows it unless it ends in a backslash that no other
one has taken along.
-/

namespace DemoQuery.Text

variable {c : Char} {cs : List Char}

lemma isEscaped_iff : isEscaped c ↔ c = '\\' ∨ c = '"' ∨ c = '\'' := by
  simp [isEscaped, or_assoc]

/-! ### Canonical texts -/

/-- The texts of plain characters and of pairs of a backslash and a backslash or quote. -/
inductive Canonical : List Char → Prop
  | nil : Canonical []
  | plain {c : Char} {cs : List Char} (hc : ¬ (c = '\\' ∨ c = '"' ∨ c = '\''))
      (h : Canonical cs) : Canonical (c :: cs)
  | pair {c : Char} {cs : List Char} (hc : c = '\\' ∨ c = '"' ∨ c = '\'') (h : Canonical cs) :
      Canonical ('\\' :: c :: cs)

lemma canonical_escape (cs : List Char) : Canonical (escape cs) := by
  induction cs with
  | nil => exact .nil
  | cons c cs ih =>
    by_cases hc : isEscaped c
    · rw [escape, if_pos hc]
      exact .pair (isEscaped_iff.1 hc) ih
    · rw [escape, if_neg hc]
      exact .plain (fun h => hc (isEscaped_iff.2 h)) ih

lemma unescape_escape (cs : List Char) : unescape (escape cs) = cs := by
  induction cs with
  | nil => rfl
  | cons c cs ih =>
    by_cases hc : isEscaped c
    · rw [escape, if_pos hc, unescape_pair hc, ih]
    · have hslash : c ≠ '\\' := by
        rintro rfl
        exact hc (by decide)
      rw [escape, if_neg hc, unescape_cons hslash, ih]

lemma Canonical.escape_unescape (h : Canonical cs) : escape (unescape cs) = cs := by
  induction h with
  | nil => rfl
  | plain hc _ ih =>
    have hplain : ¬ isEscaped _ := fun h => hc (isEscaped_iff.1 h)
    rw [unescape_cons fun h => hc (.inl h), escape, if_neg hplain, ih]
  | pair hc _ ih =>
    have hescaped := isEscaped_iff.2 hc
    rw [unescape_pair hescaped, escape, if_pos hescaped, ih]

lemma escape_unescape_eq_iff : escape (unescape cs) = cs ↔ Canonical cs := by
  constructor
  · intro h
    rw [← h]
    exact canonical_escape _
  · exact Canonical.escape_unescape

/-! ### Pairs of backslashes -/

/-- The texts in which, from the left, every backslash takes a character behind it along. -/
inductive Paired : List Char → Prop
  | nil : Paired []
  | plain {c : Char} {cs : List Char} (hc : c ≠ '\\') (h : Paired cs) : Paired (c :: cs)
  | pair {c : Char} {cs : List Char} (h : Paired cs) : Paired ('\\' :: c :: cs)

/-- A backslash that takes nothing along is the last character. -/
lemma paired_or_exists_concat (cs : List Char) :
    Paired cs ∨ ∃ ds, Paired ds ∧ cs = ds ++ ['\\'] := by
  fun_induction unescape cs with
  | case1 => exact .inl .nil
  | case2 c cs _ ih | case3 c cs _ ih =>
    rcases ih with h | ⟨ds, h, rfl⟩
    · exact .inl h.pair
    · exact .inr ⟨'\\' :: c :: ds, h.pair, rfl⟩
  | case4 c cs hpair ih =>
    by_cases hc : c = '\\'
    · -- a character behind the backslash would go with it
      cases cs with
      | nil => exact .inr ⟨[], .nil, by rw [hc]; rfl⟩
      | cons d cs => exact absurd rfl (hpair d cs hc)
    · rcases ih with h | ⟨ds, h, rfl⟩
      · exact .inl (.plain hc h)
      · exact .inr ⟨c :: ds, .plain hc h, rfl⟩

lemma Paired.unescape_append (h : Paired cs) (ds : List Char) :
    unescape (cs ++ ds) = unescape cs ++ unescape ds := by
  induction h with
  | nil => rfl
  | plain hc _ ih => rw [List.cons_append, unescape_cons hc, unescape_cons hc, ih]; rfl
  | @pair c cs _ ih =>
    rw [List.cons_append, List.cons_append, unescape, unescape, ih]
    split <;> rfl

/-- A text can be resolved apart from whatever follows only if every backslash in it takes a
character along: one at its end would go with another behind it. -/
lemma paired_of_unescape_append (h : ∀ ds, unescape (cs ++ ds) = unescape cs ++ unescape ds) :
    Paired cs := by
  rcases paired_or_exists_concat cs with hcs | ⟨ds, hds, rfl⟩
  · exact hcs
  · have hlength := congrArg List.length (h ['\\'])
    have hpair : unescape ['\\', '\\'] = ['\\'] := rfl
    have hlast : unescape ['\\'] = ['\\'] := rfl
    rw [List.append_assoc, List.singleton_append, hds.unescape_append, hds.unescape_append, hpair,
      hlast] at hlength
    simp at hlength

lemma unescape_eq_nil_iff : unescape cs = [] ↔ cs = [] := by
  constructor
  · intro h
    unfold unescape at h
    split at h
    · rfl
    · split at h <;> cases h
    · cases h
  · rintro rfl
    rfl

/-- Resolving undoes escaping, and escaping undoes resolving on exactly the canonical texts. A text
is resolved apart from whatever follows it exactly if every backslash in it takes a character along.
Only the empty text resolves to nothing. -/
theorem escape_unescape_inverse_on_canonical (cs : List Char) :
    unescape (escape cs) = cs ∧ (escape (unescape cs) = cs ↔ Canonical cs) ∧
      ((∀ ds, unescape (cs ++ ds) = unescape cs ++ unescape ds) ↔ Paired cs) ∧
      (unescape cs = [] ↔ cs = []) :=
  ⟨unescape_escape cs, escape_unescape_eq_iff,
    ⟨paired_of_unescape_append, Paired.unescape_append⟩, unescape_eq_nil_iff⟩

/-- A backslash before another character is kept, and written as a pair the next time. -/
example : escape (unescape ['\\', 'n']) = ['\\', '\\', 'n'] := by decide

end DemoQuery.Text
