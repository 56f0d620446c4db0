import DemoQuery.Proofs.Text.Run
import DemoQuery.Text.Showing

/-!
# Painted texts

Colours put terminal sequences into a text and change nothing else of it. Taking the sequences out
gives the text back if it has no escape characters of its own, whatever stands behind it.
-/

namespace DemoQuery.Text

variable {c : Char} {cs cs' ds ds' rest : List Char}

/-- `Paints cs ds`: the text `cs` is the text `ds` with terminal sequences put in. -/
inductive Paints : List Char → List Char → Prop
  | nil : Paints [] []
  | cons {cs ds : List Char} (c : Char) (h : Paints cs ds) : Paints (c :: cs) (c :: ds)
  | sequence (code : String) {cs ds : List Char} (hcode : IsRun Char.isDigit code.toList)
      (h : Paints cs ds) : Paints ((sequence code).toList ++ cs) ds

lemma Paints.refl (cs : List Char) : Paints cs cs := by
  induction cs with
  | nil => exact .nil
  | cons c cs ih => exact .cons c ih

lemma Paints.append (h : Paints cs ds) (h' : Paints cs' ds') :
    Paints (cs ++ cs') (ds ++ ds') := by
  induction h with
  | nil => exact h'
  | cons c _ ih => exact .cons c ih
  | sequence code hcode _ ih => rw [List.append_assoc]; exact .sequence code hcode ih

lemma Style.paints_paint (style : Style) (colours : Bool) (s : String) :
    Paints (style.paint colours s).toList s.toList := by
  cases colours with
  | false => exact .refl _
  | true =>
    have hbehind : Paints style.around.2.toList [] := by
      cases style with
      | dimmed => exact .sequence "0" (by decide) .nil
      | cyan => exact .sequence "39" (by decide) .nil
      | heading => exact .sequence "39" (by decide) (.sequence "0" (by decide) .nil)
    have hfront : Paints style.around.1.toList [] := by
      cases style with
      | dimmed => exact .sequence "2" (by decide) .nil
      | cyan => exact .sequence "36" (by decide) .nil
      | heading => exact .sequence "1" (by decide) (.sequence "32" (by decide) .nil)
    simpa [paint] using (hfront.append (.refl s.toList)).append hbehind

/-- Texts behind one another are painted if each of them is. -/
lemma paints_join {α : Type} {f g : α → String} (h : ∀ a, Paints (f a).toList (g a).toList)
    (as : List α) : Paints (String.join (as.map f)).toList (String.join (as.map g)).toList := by
  induction as with
  | nil => exact .nil
  | cons a as ih => simpa using (h a).append ih

/-! ### Without sequences -/

/-- What stands behind the terminal sequence that a text starts with. -/
def behindSequence? : List Char → Option (List Char)
  | '\x1b' :: '[' :: cs =>
    match cs.dropWhile Char.isDigit with
    | 'm' :: rest => some rest
    | _           => none
  | _                   => none

lemma length_behindSequence_lt (h : behindSequence? cs = some rest) : rest.length < cs.length := by
  unfold behindSequence? at h
  split at h
  · next ds =>
    have hds := (List.dropWhile_suffix (l := ds) Char.isDigit).length_le
    split at h
    · next hm =>
      obtain rfl := Option.some.inj h
      rw [hm] at hds
      simp only [List.length_cons] at hds ⊢
      omega
    · cases h
  · cases h

/-- A text without its terminal sequences, which are found from left to right. -/
def strip : List Char → List Char
  | []      => []
  | c :: cs =>
    match _h : behindSequence? (c :: cs) with
    | some rest => strip rest
    | none      => c :: strip cs
termination_by cs => cs.length
decreasing_by
  · exact length_behindSequence_lt _h
  · exact Nat.lt_succ_self _

lemma strip_cons (hc : c ≠ '\x1b') : strip (c :: cs) = c :: strip cs := by
  have hnone : behindSequence? (c :: cs) = none := by
    unfold behindSequence?
    split
    · next h => exact absurd (List.cons.inj h).1 hc
    · rfl
  rw [strip]
  split
  · next hsome => rw [hnone] at hsome; cases hsome
  · rfl

lemma strip_sequence {code : String} (hcode : IsRun Char.isDigit code.toList) :
    strip ((sequence code).toList ++ rest) = strip rest := by
  have hm : StopsAt Char.isDigit ('m' :: rest) := stopsAt_cons.2 (by decide)
  have hseq : (sequence code).toList ++ rest =
      '\x1b' :: '[' :: (code.toList ++ 'm' :: rest) := by simp [sequence]
  have hbehind : behindSequence? ('\x1b' :: '[' :: (code.toList ++ 'm' :: rest)) = some rest := by
    simp only [behindSequence?, dropWhile_run_append hcode hm]
  rw [hseq, strip]
  split
  · next hsome => rw [Option.some.inj (hbehind.symm.trans hsome)]
  · next hnone => rw [hbehind] at hnone; cases hnone

/-- The text behind a painted one is stripped as if it stood alone. -/
lemma Paints.strip_append (h : Paints cs ds) (hds : '\x1b' ∉ ds) :
    strip (cs ++ rest) = ds ++ strip rest := by
  induction h with
  | nil => rfl
  | cons c _ ih =>
    rw [List.mem_cons, not_or] at hds
    obtain ⟨hc, hds'⟩ := hds
    rw [List.cons_append, strip_cons (Ne.symm hc), ih hds', List.cons_append]
  | sequence code hcode _ ih => rw [List.append_assoc, strip_sequence hcode, ih hds]

lemma Paints.strip_eq (h : Paints cs ds) (hds : '\x1b' ∉ ds) : strip cs = ds := by
  have hstrip : strip (cs ++ []) = ds ++ strip [] := h.strip_append hds
  simpa [strip] using hstrip

end DemoQuery.Text
