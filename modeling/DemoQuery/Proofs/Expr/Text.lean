import DemoQuery.Expr
import DemoQuery.Proofs.Text.Displayed

/-!
# The text of an expression

The text of an expression says which expression it is, if every conjunction and disjunction in it
joins two conditions at least. A needle stays between its quotes, whatever it contains, a word ends
at a blank, a number ends where no digit follows, and parentheses enclose what is joined. Nothing in
the text is a control character, so it stays on one line and starts no terminal sequence.
-/

namespace DemoQuery

open Text

variable {f g : Field} {d e : Expr} {ds es : List Expr} {rs ss xs : List Char}

/-! ### Words -/

/-- Every field. -/
def Field.all : List Field := [
  .text .name, .text .bookmarkLabels, .text .mapName, .text .hostname, .text .clientId,
  .number .killstreakCount, .number .bookmarkCount, .number .bestStreak, .number .modified,
  .number .size]

lemma Field.mem_all (f : Field) : f ∈ all := by
  cases f with
  | text t => cases t <;> decide
  | number n => cases n <;> decide

/-- Characters other than the blank. -/
def isWordChar (c : Char) : Bool :=
  c ≠ ' '

lemma stopsAt_blank (rs : List Char) : StopsAt isWordChar (' ' :: rs) :=
  stopsAt_cons.2 (by decide)

lemma Field.isRun_label (f : Field) : IsRun isWordChar f.label.toList := by
  have hall : ∀ f ∈ all, IsRun isWordChar f.label.toList := by decide +kernel
  exact hall f f.mem_all

lemma Field.label_inj (h : f.label.toList = g.label.toList) : f = g := by
  have hall : ∀ f ∈ all, ∀ g ∈ all, f.label.toList = g.label.toList → f = g := by
    decide +kernel
  exact hall f f.mem_all g g.mem_all h

lemma Field.label_append_inj
    (h : f.label.toList ++ ' ' :: rs = g.label.toList ++ ' ' :: ss) : f = g ∧ rs = ss := by
  obtain ⟨hlabel, hrest⟩ :=
    run_append_inj f.isRun_label g.isRun_label (stopsAt_blank rs) (stopsAt_blank ss) h
  exact ⟨label_inj hlabel, (List.cons.inj hrest).2⟩

lemma Field.label_append_ne_not : f.label.toList ++ ' ' :: rs ≠ 'n' :: 'o' :: 't' :: ' ' :: ss := by
  intro h
  have hnot : IsRun isWordChar ['n', 'o', 't'] := by decide
  have hall : ∀ f ∈ all, f.label.toList ≠ ['n', 'o', 't'] := by decide +kernel
  exact hall f f.mem_all
    (run_append_inj f.isRun_label hnot (stopsAt_blank rs) (stopsAt_blank ss) h).1

lemma Field.label_append_ne_paren : f.label.toList ++ rs ≠ '(' :: ss := by
  intro h
  have hall : ∀ f ∈ all, f.label.toList ≠ [] ∧ '(' ∉ f.label.toList.head? := by
    decide +kernel
  obtain ⟨hne, hhead⟩ := hall f f.mem_all
  obtain ⟨c, cs, hcs⟩ := List.exists_cons_of_ne_nil hne
  rw [hcs, List.cons_append] at h
  obtain rfl := (List.cons.inj h).1
  exact hhead (by rw [hcs]; rfl)

lemma Comparison.symbol_append_inj {a b : Comparison}
    (h : a.symbol.toList ++ ' ' :: rs = b.symbol.toList ++ ' ' :: ss) : a = b ∧ rs = ss := by
  have hrun : ∀ a : Comparison, IsRun isWordChar a.symbol.toList := by
    intro a
    cases a <;> decide
  obtain ⟨hsymbol, hrest⟩ :=
    run_append_inj (hrun a) (hrun b) (stopsAt_blank rs) (stopsAt_blank ss) h
  refine ⟨?_, (List.cons.inj hrest).2⟩
  cases a <;> cases b <;> first | rfl | exact absurd hsymbol (by decide)

/-! ### Joined conditions -/

/-- The two ways of joining conditions. -/
inductive Connective where
  | and
  | or
  deriving DecidableEq, Repr

/-- What stands between joined conditions. -/
def Connective.word : Connective → List Char
  | .and => " and ".toList
  | .or  => " or ".toList

/-- The conditions that are joined in one of the two ways. -/
def Connective.join : Connective → List Expr → Expr
  | .and => .and
  | .or  => .or

/-- The text between the parentheses around joined conditions. -/
def Connective.joined (c : Connective) (es : List Expr) : List Char :=
  c.word.intercalate (es.map (·.text.toList))

variable {b c : Connective}

lemma Connective.word_append_inj (h : b.word ++ rs = c.word ++ ss) : b = c ∧ rs = ss := by
  cases b <;> cases c
  · exact ⟨rfl, List.append_cancel_left h⟩
  · exact absurd (List.cons.inj (List.cons.inj h).2).1 (by decide)
  · exact absurd (List.cons.inj (List.cons.inj h).2).1 (by decide)
  · exact ⟨rfl, List.append_cancel_left h⟩

lemma Connective.word_append_ne_paren : c.word ++ rs ≠ ')' :: ss := by
  intro h
  cases c <;> exact absurd (List.cons.inj h).1 (by decide)

lemma Connective.stopsAt_word (c : Connective) (rs : List Char) :
    StopsAt Char.isDigit (c.word ++ rs) := by
  cases c <;> exact stopsAt_cons.2 (by decide)

lemma stopsAt_paren (rs : List Char) : StopsAt Char.isDigit (')' :: rs) :=
  stopsAt_cons.2 (by decide)

lemma Connective.joined_singleton : c.joined [e] = e.text.toList := by
  simp [joined]

lemma Connective.joined_cons_cons :
    c.joined (d :: e :: es) = d.text.toList ++ (c.word ++ c.joined (e :: es)) := by
  simp [joined]

/-! ### Forms of a text -/

lemma Expr.text_contains_append (t : TextField) (needle : String) (rs : List Char) :
    (contains t needle).text.toList ++ rs = (Field.text t).label.toList ++
      ' ' :: ("contains ".toList ++ ((display needle).toList ++ rs)) := by
  simp [text, Field.label]

lemma Expr.text_compare_append (n : NumberField) (op : Comparison) (value : Int) (rs : List Char) :
    (compare n op value).text.toList ++ rs = (Field.number n).label.toList ++
      ' ' :: (op.symbol.toList ++ ' ' :: ((ofInteger value).toList ++ rs)) := by
  simp [text, Field.label]

lemma Expr.text_join_append (c : Connective) (es : List Expr) (rs : List Char) :
    (c.join es).text.toList ++ rs = '(' :: (c.joined es ++ ')' :: rs) := by
  cases c <;> simp [Connective.join, Connective.joined, Connective.word, text, texts_eq,
    Function.comp_def]

lemma Expr.text_not_append (e : Expr) (rs : List Char) :
    (not e).text.toList ++ rs = 'n' :: 'o' :: 't' :: ' ' :: (e.text.toList ++ rs) := by
  simp [text]

/-- Every conjunction and disjunction in an expression joins two conditions at least. -/
inductive Expr.Branching : Expr → Prop
  | contains (t : TextField) (needle : String) : Branching (.contains t needle)
  | compare (n : NumberField) (op : Comparison) (value : Int) : Branching (.compare n op value)
  | and {es : List Expr} (hlength : 2 ≤ es.length) (h : ∀ e ∈ es, Branching e) :
      Branching (.and es)
  | or {es : List Expr} (hlength : 2 ≤ es.length) (h : ∀ e ∈ es, Branching e) :
      Branching (.or es)
  | not {e : Expr} (h : Branching e) : Branching (.not e)

/-- What starts with the label of a field is a condition on this field. -/
lemma Expr.Branching.of_label (he : e.Branching)
    (h : f.label.toList ++ ' ' :: xs = e.text.toList ++ ss) :
    (∃ t needle, f = .text t ∧ e = .contains t needle ∧
      xs = "contains ".toList ++ ((display needle).toList ++ ss)) ∨
    ∃ n op value, f = .number n ∧ e = .compare n op value ∧
      xs = op.symbol.toList ++ ' ' :: ((ofInteger value).toList ++ ss) := by
  cases he with
  | contains t needle =>
    rw [text_contains_append] at h
    obtain ⟨rfl, hxs⟩ := Field.label_append_inj h
    exact .inl ⟨t, needle, rfl, rfl, hxs⟩
  | compare n op value =>
    rw [text_compare_append] at h
    obtain ⟨rfl, hxs⟩ := Field.label_append_inj h
    exact .inr ⟨n, op, value, rfl, rfl, hxs⟩
  | @and es => exact absurd (h.trans (text_join_append .and es ss)) Field.label_append_ne_paren
  | @or es => exact absurd (h.trans (text_join_append .or es ss)) Field.label_append_ne_paren
  | not _ => exact absurd (h.trans (text_not_append _ ss)) Field.label_append_ne_not

/-- What starts with a parenthesis is joined of two conditions at least. -/
lemma Expr.Branching.of_paren (he : e.Branching) (h : '(' :: xs = e.text.toList ++ ss) :
    ∃ c es, e = Connective.join c es ∧ 2 ≤ es.length ∧ (∀ e ∈ es, e.Branching) ∧
      xs = c.joined es ++ ')' :: ss := by
  cases he with
  | contains t needle =>
    rw [text_contains_append] at h
    exact absurd h.symm Field.label_append_ne_paren
  | compare n op value =>
    rw [text_compare_append] at h
    exact absurd h.symm Field.label_append_ne_paren
  | @and es hlength hes =>
    exact ⟨.and, es, rfl, hlength, hes, (List.cons.inj (h.trans (text_join_append .and es ss))).2⟩
  | @or es hlength hes =>
    exact ⟨.or, es, rfl, hlength, hes, (List.cons.inj (h.trans (text_join_append .or es ss))).2⟩
  | not _ =>
    rw [text_not_append] at h
    exact absurd (List.cons.inj h).1 (by decide)

/-- What starts with the word for it is a negation. -/
lemma Expr.Branching.of_not (he : e.Branching)
    (h : 'n' :: 'o' :: 't' :: ' ' :: xs = e.text.toList ++ ss) :
    ∃ e', e = .not e' ∧ e'.Branching ∧ xs = e'.text.toList ++ ss := by
  cases he with
  | contains t needle =>
    rw [text_contains_append] at h
    exact absurd h.symm Field.label_append_ne_not
  | compare n op value =>
    rw [text_compare_append] at h
    exact absurd h.symm Field.label_append_ne_not
  | @and es => exact absurd (List.cons.inj (h.trans (text_join_append .and es ss))).1 (by decide)
  | @or es => exact absurd (List.cons.inj (h.trans (text_join_append .or es ss))).1 (by decide)
  | @not e' he' =>
    rw [text_not_append] at h
    simp only [List.cons.injEq, true_and] at h
    exact ⟨e', rfl, he', h⟩

/-! ### Reading back -/

/-- The text of an expression and what stands behind it can be told from each other, unless that
starts with a digit. -/
def Expr.Readable (d : Expr) : Prop :=
  ∀ ⦃e : Expr⦄ ⦃rs ss : List Char⦄, e.Branching → StopsAt Char.isDigit rs →
    StopsAt Char.isDigit ss → d.text.toList ++ rs = e.text.toList ++ ss → d = e ∧ rs = ss

/-- Joined conditions are read back one after the other, up to the parenthesis behind the last. -/
lemma Connective.joined_append_inj (hds : ds ≠ []) (hes : es ≠ [])
    (hread : ∀ d ∈ ds, d.Readable) (hbranching : ∀ e ∈ es, e.Branching)
    (h : b.joined ds ++ ')' :: rs = c.joined es ++ ')' :: ss) :
    ds = es ∧ rs = ss ∧ (2 ≤ ds.length → b = c) := by
  induction ds generalizing es with
  | nil => exact absurd rfl hds
  | cons d ds ih =>
    obtain ⟨hd, hds'⟩ := List.forall_mem_cons.1 hread
    obtain ⟨e, es, rfl⟩ := List.exists_cons_of_ne_nil hes
    obtain ⟨he, hes'⟩ := List.forall_mem_cons.1 hbranching
    cases ds with
    | nil =>
      rw [joined_singleton] at h
      cases es with
      | nil =>
        rw [joined_singleton] at h
        obtain ⟨rfl, hrest⟩ := hd he (stopsAt_paren rs) (stopsAt_paren ss) h
        exact ⟨rfl, (List.cons.inj hrest).2, by simp⟩
      | cons e' es =>
        rw [joined_cons_cons, List.append_assoc, List.append_assoc] at h
        obtain ⟨-, hrest⟩ := hd he (stopsAt_paren rs) (c.stopsAt_word _) h
        exact absurd hrest.symm word_append_ne_paren
    | cons d' ds =>
      rw [joined_cons_cons, List.append_assoc, List.append_assoc] at h
      cases es with
      | nil =>
        rw [joined_singleton] at h
        obtain ⟨-, hrest⟩ := hd he (b.stopsAt_word _) (stopsAt_paren ss) h
        exact absurd hrest word_append_ne_paren
      | cons e' es =>
        rw [joined_cons_cons, List.append_assoc, List.append_assoc] at h
        obtain ⟨rfl, hrest⟩ := hd he (b.stopsAt_word _) (c.stopsAt_word _) h
        obtain ⟨rfl, hmore⟩ := word_append_inj hrest
        obtain ⟨heq, hend, -⟩ :=
          ih (List.cons_ne_nil d' ds) (List.cons_ne_nil e' es) hds' hes' hmore
        exact ⟨by rw [heq], hend, fun _ => rfl⟩

lemma ne_nil_of_two_le (h : 2 ≤ es.length) : es ≠ [] := by
  rintro rfl
  exact absurd h (by decide)

lemma Expr.readable_join (hlength : 2 ≤ ds.length) (hread : ∀ d ∈ ds, d.Readable) :
    (b.join ds).Readable := by
  intro e rs ss he _ _ h
  rw [text_join_append] at h
  obtain ⟨c, es, rfl, hlength', hes, hjoined⟩ := he.of_paren h
  obtain ⟨rfl, hrest, hbc⟩ := Connective.joined_append_inj (ne_nil_of_two_le hlength)
    (ne_nil_of_two_le hlength') hread hes hjoined
  exact ⟨by rw [hbc hlength], hrest⟩

lemma Expr.Branching.readable (h : d.Branching) : d.Readable := by
  induction h with
  | contains t needle =>
    intro e rs ss he _ _ h
    rw [text_contains_append] at h
    rcases he.of_label h with ⟨t', needle', hf, rfl, hneedle⟩ | ⟨n, op, value, hf, -⟩
    · cases hf
      rw [List.append_right_inj] at hneedle
      obtain ⟨rfl, hrest⟩ := display_append_inj hneedle
      exact ⟨rfl, hrest⟩
    · cases hf
  | compare n op value =>
    intro e rs ss he hr hs h
    rw [text_compare_append] at h
    rcases he.of_label h with ⟨t, needle, hf, -⟩ | ⟨n', op', value', hf, rfl, hop⟩
    · cases hf
    · cases hf
      obtain ⟨rfl, hvalue⟩ := Comparison.symbol_append_inj hop
      obtain ⟨rfl, hrest⟩ := ofInteger_append_inj hr hs hvalue
      exact ⟨rfl, hrest⟩
  | and hlength _ ih => exact readable_join (b := .and) hlength ih
  | or hlength _ ih => exact readable_join (b := .or) hlength ih
  | not _ ih =>
    intro e rs ss he hr hs h
    rw [text_not_append] at h
    obtain ⟨e', rfl, he', harg⟩ := he.of_not h
    obtain ⟨rfl, hrest⟩ := ih he' hr hs harg
    exact ⟨rfl, hrest⟩

lemma Expr.Branching.text_inj (hd : d.Branching) (he : e.Branching) (h : d.text = e.text) :
    d = e :=
  (hd.readable he stopsAt_nil stopsAt_nil (congrArg (·.toList ++ []) h)).1

/-! ### No control characters -/

lemma Connective.isVisible_joined (h : ∀ e ∈ es, IsRun isVisible e.text.toList) :
    IsRun isVisible (c.joined es) := by
  have hword : IsRun isVisible c.word := by cases c <;> decide
  induction es with
  | nil => exact isRun_nil
  | cons d es ih =>
    obtain ⟨hd, hes⟩ := List.forall_mem_cons.1 h
    cases es with
    | nil => rwa [joined_singleton]
    | cons e es =>
      rw [joined_cons_cons]
      exact hd.append (hword.append (ih hes))

lemma Expr.isVisible_join (h : ∀ e ∈ es, IsRun isVisible e.text.toList) :
    IsRun isVisible (c.join es).text.toList := by
  rw [← List.append_nil (c.join es).text.toList, text_join_append]
  exact ((Connective.isVisible_joined h).append (by decide)).cons (by decide)

lemma Field.isVisible_label (f : Field) : IsRun isVisible f.label.toList := by
  have hall : ∀ f ∈ all, IsRun isVisible f.label.toList := by decide +kernel
  exact hall f f.mem_all

lemma Comparison.isVisible_symbol (op : Comparison) : IsRun isVisible op.symbol.toList := by
  cases op <;> decide

/-- The text of an expression has no control characters, whatever its needles contain. -/
lemma Expr.Branching.isVisible_text (h : e.Branching) : IsRun isVisible e.text.toList := by
  induction h with
  | contains t needle =>
    rw [← List.append_nil (Expr.contains t needle).text.toList, text_contains_append]
    have hneedle := (isVisible_display needle).append isRun_nil
    have hword : IsRun isVisible "contains ".toList := by decide
    exact (Field.text t).isVisible_label.append (.cons (by decide) (hword.append hneedle))
  | compare n op value =>
    rw [← List.append_nil (Expr.compare n op value).text.toList, text_compare_append]
    have hvalue := (isVisible_ofInteger value).append isRun_nil
    exact (Field.number n).isVisible_label.append
      (.cons (by decide) (op.isVisible_symbol.append (.cons (by decide) hvalue)))
  | and _ _ ih => exact isVisible_join (c := .and) ih
  | or _ _ ih => exact isVisible_join (c := .or) ih
  | @not e _ ih =>
    rw [← List.append_nil (Expr.not e).text.toList, text_not_append, List.append_nil]
    have hword : IsRun isVisible ['n', 'o', 't', ' '] := by decide
    exact hword.append ih

end DemoQuery
