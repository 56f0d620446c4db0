import DemoQuery.Proofs.Text.Digits
import DemoQuery.Text.Showing

/-!
# Displayed texts

A displayed text says which text it is and where it ends, whatever stands behind it, and it has no
control characters, so it keeps to one line. No quote in the text can be taken for the one that ends
the display, since the form of a character never starts with a quote.
-/

namespace DemoQuery.Text

variable {c d : Char} {cs ds rs ss : List Char}

/-! ### Characters -/

/-- The characters with a short form, and what stands behind the backslash in it. -/
def shortForms : List (Char × Char) :=
  [('"', '"'), ('\\', '\\'), ('\n', 'n'), ('\r', 'r'), ('\t', 't'), ('\x00', '0')]

/-- The ways in which a character can be displayed. -/
inductive Displays (c : Char) : List Char → Prop
  | short {e : Char} (h : (c, e) ∈ shortForms) : Displays c ['\\', e]
  | codePoint : Displays c (codePoint c)
  | plain (h : ∀ e, (c, e) ∉ shortForms) : Displays c [c]

lemma displays_displayChar (c : Char) : Displays c (displayChar c) := by
  unfold displayChar
  split
  · exact .short (by decide)
  · exact .short (by decide)
  · exact .short (by decide)
  · exact .short (by decide)
  · exact .short (by decide)
  · exact .short (by decide)
  · split
    · exact .codePoint
    · exact .plain fun e => by simp_all [shortForms]

lemma shortForms_inj {e : Char} (hc : (c, e) ∈ shortForms) (hd : (d, e) ∈ shortForms) : c = d := by
  have hall : ∀ x ∈ shortForms, ∀ y ∈ shortForms, x.2 = y.2 → x.1 = y.1 := by decide
  exact hall _ hc _ hd rfl

lemma ne_u_of_shortForms {e : Char} (h : (c, e) ∈ shortForms) : e ≠ 'u' := by
  have hall : ∀ x ∈ shortForms, x.2 ≠ 'u' := by decide
  exact hall _ h

lemma not_backslash_of_plain (h : ∀ e, (c, e) ∉ shortForms) : c ≠ '\\' := by
  rintro rfl
  exact h '\\' (by decide)

lemma isRun_codePoint (c : Char) : IsRun (· ≠ '}') (Nat.toDigits 16 c.toNat) := by
  intro d hd
  obtain ⟨k, hk, rfl⟩ := exists_digitChar_of_mem_toDigits (by decide) hd
  have hall : ∀ k < 16, decide (Nat.digitChar k ≠ '}') := by decide
  exact hall k hk

lemma codePoint_append_inj (h : codePoint c ++ rs = codePoint d ++ ss) : c = d ∧ rs = ss := by
  simp only [codePoint, List.append_assoc, List.cons_append, List.nil_append, List.cons.injEq,
    true_and] at h
  have hbrace : ∀ ts, StopsAt (· ≠ '}') ('}' :: ts) := fun ts => stopsAt_cons.2 (by decide)
  obtain ⟨hdigits, hrest⟩ :=
    run_append_inj (isRun_codePoint c) (isRun_codePoint d) (hbrace rs) (hbrace ss) h
  have hnat : c.toNat = d.toNat := toDigits_inj (by decide) (by decide) hdigits
  exact ⟨Char.toNat_inj.1 hnat, (List.cons.inj hrest).2⟩

/-- The form of a character and what stands behind it can be told from each other. -/
lemma displayChar_append_inj (h : displayChar c ++ rs = displayChar d ++ ss) : c = d ∧ rs = ss := by
  have hc := displays_displayChar c
  have hd := displays_displayChar d
  generalize displayChar c = x at h hc
  generalize displayChar d = y at h hd
  cases hc with
  | short hc =>
    cases hd with
    | short hd =>
      simp only [List.cons_append, List.nil_append, List.cons.injEq, true_and] at h
      obtain ⟨rfl, hrest⟩ := h
      exact ⟨shortForms_inj hc hd, hrest⟩
    | codePoint =>
      simp only [codePoint, List.cons_append, List.cons.injEq, true_and] at h
      exact absurd h.1 (ne_u_of_shortForms hc)
    | plain hd => exact absurd (List.cons.inj h).1.symm (not_backslash_of_plain hd)
  | codePoint =>
    cases hd with
    | short hd =>
      simp only [codePoint, List.cons_append, List.cons.injEq, true_and] at h
      exact absurd h.1.symm (ne_u_of_shortForms hd)
    | codePoint => exact codePoint_append_inj h
    | plain hd => exact absurd (List.cons.inj h).1.symm (not_backslash_of_plain hd)
  | plain hc =>
    cases hd with
    | short hd => exact absurd (List.cons.inj h).1 (not_backslash_of_plain hc)
    | codePoint => exact absurd (List.cons.inj h).1 (not_backslash_of_plain hc)
    | plain hd => exact List.cons.inj h

/-- No form of a character starts with a quote. -/
lemma displayChar_append_ne_quote : displayChar c ++ rs ≠ '"' :: ss := by
  have hc := displays_displayChar c
  generalize displayChar c = x at hc
  intro h
  cases hc with
  | short hc => exact absurd (List.cons.inj h).1 (by decide)
  | codePoint => exact absurd (List.cons.inj h).1 (by decide)
  | plain hc =>
    obtain rfl := (List.cons.inj h).1
    exact hc '"' (by decide)

lemma isVisible_codePoint (c : Char) : IsRun isVisible (codePoint c) := by
  have hdigits := isVisible_toDigits (b := 16) (by decide) (by decide) c.toNat
  exact (IsRun.append (by decide) hdigits).append (by decide)

/-- The form of a character has no control characters, whichever character it is. -/
lemma isVisible_displayChar (c : Char) : IsRun isVisible (displayChar c) := by
  unfold displayChar
  split
  · decide
  · decide
  · decide
  · decide
  · decide
  · decide
  · split
    · exact isVisible_codePoint _
    · next hhidden =>
      rw [isHidden, Bool.or_eq_true, not_or, decide_eq_true_eq, Char.not_lt] at hhidden
      exact isRun_nil.cons (decide_eq_true hhidden.1)

/-! ### Texts -/

lemma displayed_append_inj (h : cs.flatMap displayChar ++ '"' :: rs =
    ds.flatMap displayChar ++ '"' :: ss) : cs = ds ∧ rs = ss := by
  induction cs generalizing ds with
  | nil =>
    cases ds with
    | nil => exact ⟨rfl, (List.cons.inj h).2⟩
    | cons d ds =>
      rw [List.flatMap_cons, List.append_assoc] at h
      exact absurd h.symm displayChar_append_ne_quote
  | cons c cs ih =>
    rw [List.flatMap_cons, List.append_assoc] at h
    cases ds with
    | nil => exact absurd h displayChar_append_ne_quote
    | cons d ds =>
      rw [List.flatMap_cons, List.append_assoc] at h
      obtain ⟨rfl, hbehind⟩ := displayChar_append_inj h
      obtain ⟨rfl, hrest⟩ := ih hbehind
      exact ⟨rfl, hrest⟩

/-- A displayed text and what stands behind it can be told from each other. -/
lemma display_append_inj {v w : String}
    (h : (display v).toList ++ rs = (display w).toList ++ ss) : v = w ∧ rs = ss := by
  simp only [display, String.toList_ofList, List.cons_append, List.append_assoc,
    List.nil_append, List.cons.injEq, true_and] at h
  obtain ⟨hvw, hrest⟩ := displayed_append_inj h
  exact ⟨String.toList_inj.1 hvw, hrest⟩

lemma isVisible_display (v : String) : IsRun isVisible (display v).toList := by
  rw [display, String.toList_ofList]
  have hforms : IsRun isVisible (v.toList.flatMap displayChar) := by
    intro c hc
    obtain ⟨d, -, hd⟩ := List.mem_flatMap.1 hc
    exact isVisible_displayChar d c hd
  exact (hforms.cons (by decide)).append (by decide)

end DemoQuery.Text
