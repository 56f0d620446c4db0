import DemoQuery.Clause.Cursor
import Mathlib.Data.String.Basic

/-!
# Places of a cursor

The places between the characters of a text are the bytes at which its ends start. A part of a text
can be taken out from one place to a later one and not otherwise. Wherever the characters behind
a cursor are an end of the text, each simple thing that can be done at the cursor is possible, and
the characters behind it are an end of the text again.
-/

namespace DemoQuery.Cursor

open Text

variable {α β σ : Type} {s : String} {c : Char} {cs left front text : List Char}

/-! ### Places -/

/-- The byte at which the end `cs` of a text starts. -/
def place (s : String) (cs : List Char) : Nat :=
  s.utf8ByteSize - (String.ofList cs).utf8ByteSize

lemma eq_ofList_append (h : front ++ cs = s.toList) : s = .ofList front ++ .ofList cs := by
  rw [← String.ofList_append, h, String.ofList_toList]

lemma place_eq (h : front ++ cs = s.toList) : place s cs = (String.ofList front).utf8ByteSize := by
  rw [place, congrArg String.utf8ByteSize (eq_ofList_append h), String.utf8ByteSize_append,
    Nat.add_sub_cancel]

lemma place_toList : place s s.toList = 0 := by
  rw [place, String.ofList_toList, Nat.sub_self]

lemma place_nil : place s [] = s.utf8ByteSize := by
  rw [place]
  rfl

lemma place_append (h : text ++ cs <:+ s.toList) :
    place s cs = place s (text ++ cs) + (String.ofList text).utf8ByteSize := by
  obtain ⟨front, hfront⟩ := h
  rw [place_eq hfront, place_eq ((List.append_assoc ..).trans hfront), String.ofList_append,
    String.utf8ByteSize_append]

lemma place_cons (h : c :: cs <:+ s.toList) : place s cs = place s (c :: cs) + c.utf8Size := by
  have happend : place s cs = place s ([c] ++ cs) + (String.ofList [c]).utf8ByteSize :=
    place_append h
  simpa using happend

lemma place_le (hle : left <:+ cs) (h : cs <:+ s.toList) : place s cs ≤ place s left := by
  obtain ⟨text, rfl⟩ := hle
  rw [place_append h]
  exact Nat.le_add_right ..

/-- A cursor moves forward where fewer characters are left, as each takes up a byte at least. -/
lemma place_lt (hle : left <:+ cs) (hlt : left.length < cs.length) (h : cs <:+ s.toList) :
    place s cs < place s left := by
  obtain ⟨text, rfl⟩ := hle
  cases text with
  | nil => exact absurd hlt (lt_irrefl _)
  | cons c text =>
    have htext := (List.suffix_cons c (text ++ left)).trans h
    calc place s (c :: (text ++ left))
      _ < place s (c :: (text ++ left)) + c.utf8Size :=
          Nat.lt_add_of_pos_right (Char.utf8Size_pos c)
      _ = place s (text ++ left) := (place_cons h).symm
      _ ≤ place s left := place_le (List.suffix_append text left) htext

lemma isPlace_place (h : cs <:+ s.toList) : IsPlace s (place s cs) := by
  obtain ⟨front, hfront⟩ := h
  refine String.Pos.Raw.isValid_iff_exists_append.2 ⟨_, _, eq_ofList_append hfront, ?_⟩
  rw [place_eq hfront]
  rfl

/-! ### Parts of a text -/

lemma slice?_isSome_iff {start stop : Nat} :
    (slice? s start stop).isSome ↔ start ≤ stop ∧ IsPlace s start ∧ IsPlace s stop := by
  rw [slice?]
  split <;> simp_all

example : slice? "aé" 1 3 = some "é" ∧ slice? "aé" 1 2 = none ∧ slice? "aé" 3 1 = none := by
  decide

lemma splits_place (h : front ++ cs = s.toList) (hp : IsPlace s (place s cs)) :
    (s.pos _ hp).Splits (.ofList front) (.ofList cs) := by
  refine ⟨eq_ofList_append h, ?_⟩
  rw [String.offset_pos, place_eq h]
  rfl

/-- What stands between two places is taken out. -/
lemma slice?_place (h : text ++ cs <:+ s.toList) :
    slice? s (place s (text ++ cs)) (place s cs) = some (.ofList text) := by
  have hstart := isPlace_place h
  have hstop := isPlace_place ((List.suffix_append text cs).trans h)
  have hle := place_le (List.suffix_append text cs) h
  rw [slice?, dif_pos ⟨hle, hstart, hstop⟩,
    String.extract_eq_copy_slice (s.pos _ hstart) (s.pos _ hstop) hle]
  obtain ⟨front, hfront⟩ := h
  have hfirst := splits_place hfront hstart
  have hlast := splits_place ((List.append_assoc ..).trans hfront) hstop
  rw [String.ofList_append] at hfirst hlast
  obtain ⟨_, hcopy⟩ := String.copy_slice_eq_iff_splits.2 ⟨_, _, hfirst, hlast⟩
  rw [hcopy]

/-! ### Steps one after the other -/

@[simp] lemma bind_apply (x : Scan α) (f : α → Scan β) (p : Nat) :
    (x >>= f) p = (x p).bind fun r => f r.1 r.2 :=
  rfl

@[simp] lemma pure_apply (a : α) (p : Nat) : (pure a : Scan α) p = .some (a, p) :=
  rfl

@[simp] lemma get_apply (p : Nat) : (get : Scan Nat) p = .some (p, p) :=
  rfl

@[simp] lemma set_apply (p p' : Nat) : (set p' : Scan PUnit) p = .some ((), p') :=
  rfl

@[simp] lemma modify_apply (f : Nat → Nat) (p : Nat) :
    (modify f : Scan PUnit) p = .some ((), f p) :=
  rfl

@[simp] lemma lift_apply (o : Part α) (p : Nat) :
    (StateT.lift o : Scan α) p = o.map fun a => (a, p) := by
  rw [← Part.bind_some_eq_map]
  rfl

@[simp] lemma map_apply (f : α → β) (x : Scan α) (p : Nat) :
    (f <$> x) p = (x p).map fun r => (f r.1, r.2) := by
  rw [← Part.bind_some_eq_map]
  rfl

@[simp] lemma discard_apply (x : Scan α) (p : Nat) :
    (discard x : Scan Unit) p = (x p).map fun r => ((), r.2) :=
  map_apply ..

lemma loop_of_inl {round : σ → Scan (α ⊕ σ)} {state : σ} {a : α} {p p' : Nat}
    (h : round state p = .some (.inl a, p')) : loop round state p = .some (a, p') := by
  refine Part.eq_some_iff.2 (PFun.fix_stop ?_)
  rw [← Part.eq_some_iff, roundAt, h, Part.map_some]
  rfl

lemma loop_of_inr {round : σ → Scan (α ⊕ σ)} {state state' : σ} {p p' : Nat}
    (h : round state p = .some (.inr state', p')) :
    loop round state p = loop round state' p' := by
  refine PFun.fix_fwd_eq ?_
  rw [← Part.eq_some_iff, roundAt, h, Part.map_some]
  rfl

/-- A loop goes on the same way from where its first round does the same. -/
lemma loop_congr {round : σ → Scan (α ⊕ σ)} {state : σ} {p p' : Nat}
    (h : round state p = round state p') : loop round state p = loop round state p' := by
  have hround : roundAt round (state, p) = roundAt round (state, p') := by
    rw [roundAt, roundAt, h]
  ext r
  rw [loop, loop, PFun.mem_fix_iff, PFun.mem_fix_iff, hround]

/-! ### Simple steps -/

lemma rest_place (h : cs <:+ s.toList) :
    rest s (place s cs) = .some (.ofList cs, place s cs) := by
  have hslice : slice? s (place s (cs ++ [])) (place s []) = .some (.ofList cs) :=
    slice?_place (by rwa [List.append_nil])
  rw [List.append_nil, place_nil] at hslice
  simp [rest, hslice]

lemma since_place (h : text ++ cs <:+ s.toList) :
    since s (place s (text ++ cs)) (place s cs) = .some (.ofList text, place s cs) := by
  simp [since, slice?_place h]

lemma sinceBefore_place (h : text ++ c :: cs <:+ s.toList) :
    sinceBefore s (place s (text ++ c :: cs)) c (place s cs) =
      .some (.ofList text, place s cs) := by
  have hcons : c :: cs <:+ s.toList := (List.suffix_append text _).trans h
  have hbefore : before? (place s cs) c.utf8Size = some (place s (c :: cs)) := by
    rw [before?, place_cons hcons, if_pos (Nat.le_add_left ..), Nat.add_sub_cancel]
  simp [sinceBefore, hbefore, slice?_place h]

lemma atEnd_place (h : cs <:+ s.toList) :
    atEnd s (place s cs) = .some (cs.isEmpty, place s cs) := by
  cases cs with
  | nil => simp [atEnd, place_nil]
  | cons c cs =>
    have hlt : place s (c :: cs) < place s [] := place_lt List.nil_suffix (Nat.succ_pos _) h
    rw [place_nil] at hlt
    simp [atEnd, hlt]

lemma peek_place (h : cs <:+ s.toList) : peek s (place s cs) = .some (cs.head?, place s cs) := by
  simp [peek, rest_place h]

lemma nextChar_place (h : cs <:+ s.toList) :
    nextChar s (place s cs) = .some (cs.head?, place s cs.tail) := by
  cases cs with
  | nil => simp [nextChar, peek_place h]
  | cons c cs => simp [nextChar, peek_place h, place_cons h]

lemma eat_cons (h : c :: cs <:+ s.toList) :
    eat s c (place s (c :: cs)) = .some (true, place s cs) := by
  simp [eat, peek_place h, place_cons h]

lemma eat_of_ne (h : cs <:+ s.toList) (hc : ∀ rest, cs ≠ c :: rest) :
    eat s c (place s cs) = .some (false, place s cs) := by
  have hhead : cs.head? ≠ some c := fun heq =>
    (List.head?_eq_some_iff.1 heq).elim hc
  simp [eat, peek_place h, hhead]

/-- Whether a character is moved over is whether it stands behind the cursor. -/
lemma eat_cases (c : Char) (h : cs <:+ s.toList) :
    (∃ rest, cs = c :: rest ∧ eat s c (place s cs) = .some (true, place s rest)) ∨
      (∀ rest, cs ≠ c :: rest) ∧ eat s c (place s cs) = .some (false, place s cs) := by
  by_cases hcs : ∃ rest, cs = c :: rest
  · obtain ⟨rest, rfl⟩ := hcs
    exact .inl ⟨rest, rfl, eat_cons h⟩
  · exact .inr ⟨not_exists.1 hcs, eat_of_ne h (not_exists.1 hcs)⟩

/-! ### Runs of characters -/

lemma skipWhile_place (keep : Char → Bool) (h : cs <:+ s.toList) :
    skipWhile s keep (place s cs) = .some ((), place s (cs.dropWhile keep)) := by
  induction cs with
  | nil => exact loop_of_inl (by simp [peek_place h])
  | cons c cs ih =>
    cases hc : keep c with
    | true =>
      rw [List.dropWhile_cons_of_pos hc, ← ih ((List.suffix_cons c cs).trans h)]
      exact loop_of_inr (by simp [peek_place h, nextChar_place h, hc])
    | false =>
      rw [List.dropWhile_cons_of_neg (by simp [hc])]
      exact loop_of_inl (by simp [peek_place h, hc])

lemma skipBlanks_place (h : cs <:+ s.toList) :
    skipWhile s isBlank (place s cs) = .some ((), place s (skipBlanks cs)) :=
  skipWhile_place isBlank h

lemma readWhile_place (keep : Char → Bool) (h : cs <:+ s.toList) :
    readWhile s keep (place s cs) =
      .some (.ofList (cs.takeWhile keep), place s (cs.dropWhile keep)) := by
  have hsplit : cs.takeWhile keep ++ cs.dropWhile keep = cs := List.takeWhile_append_dropWhile
  have hsince := since_place (hsplit.symm ▸ h)
  rw [hsplit] at hsince
  simp [readWhile, skipWhile_place keep h, hsince]

end DemoQuery.Cursor
