import DemoQuery.Proofs.Text.Digits
import DemoQuery.Toml
import DemoQuery.Toml.Text

/-!
# Quoted strings are read back

Every character of a quoted string is read back as itself, whether it is written as it is, behind a
backslash or by its code point, so the string ends at its closing quote and nowhere else.
-/

namespace DemoQuery.Toml

open Text

variable {c : Char} {cs rest : List Char} {n : Nat}

/-! ### Characters -/

/-- The ways in which a character of a string is written. -/
inductive Writes (c : Char) : List Char → Prop
  | pair (h : c = '"' ∨ c = '\\') : Writes c ['\\', c]
  | codePoint (h : isControl c) :
      Writes c ['\\', 'u', '0', '0', Nat.digitChar (c.toNat / 16), Nat.digitChar (c.toNat % 16)]
  | plain (hquote : c ≠ '"') (hbackslash : c ≠ '\\') (h : isControl c = false) : Writes c [c]

lemma writes_escapeChar (c : Char) : Writes c (escapeChar c) := by
  unfold escapeChar
  split
  · next h => exact .pair (by simpa using h)
  · next h =>
    split
    · next hcontrol => exact .codePoint hcontrol
    · next hcontrol =>
      rw [Bool.or_eq_true, beq_iff_eq, beq_iff_eq, not_or] at h
      exact .plain h.1 h.2 (by simpa using hcontrol)

lemma toNat_lt_of_isControl (h : isControl c) : c.toNat < 128 := by
  rw [isControl, Bool.or_eq_true, decide_eq_true_eq, beq_iff_eq] at h
  rcases h with h | rfl
  · exact lt_trans (show c.toNat < 32 from h) (by decide)
  · decide

lemma isPlain_of_not_isControl (h : isControl c = false) : isPlain c := by
  rw [isControl, Bool.or_eq_false_iff, decide_eq_false_iff_not, Char.not_lt] at h
  simp_all [isPlain]

lemma codePoint?_of_lt (h : n < 128) (rest : List Char) :
    codePoint? 4 ('0' :: '0' :: Nat.digitChar (n / 16) :: Nat.digitChar (n % 16) :: rest) =
      some (Char.ofNat n, rest) := by
  have hvalid : n.isValidChar := .inl (by omega)
  simp [codePoint?, readBase?_of_lt h, hvalid]

/-! ### Strings -/

lemma basicText?_quote : basicText? ('"' :: rest) = some ([], rest) := by
  rw [basicText?]

lemma basicText?_escaped {behind : List Char} (h : escape? behind = some (c, rest)) :
    basicText? ('\\' :: behind) =
      (basicText? rest).map fun (text, rest) => (c :: text, rest) := by
  rw [basicText?]
  split <;> simp_all

/-- A character that has been written in one of the ways is read back. -/
lemma Writes.basicText? (h : Writes c cs) :
    basicText? (cs ++ rest) = (Toml.basicText? rest).map fun (text, rest) => (c :: text, rest) := by
  cases h with
  | pair h =>
    refine basicText?_escaped ?_
    rcases h with rfl | rfl <;> rfl
  | codePoint h =>
    refine basicText?_escaped ((codePoint?_of_lt (toNat_lt_of_isControl h) rest).trans ?_)
    rw [Char.ofNat_toNat]
  | plain hquote hbackslash h =>
    rw [List.singleton_append, Toml.basicText?.eq_3 _ _ hquote (by simpa using hbackslash),
      if_pos (isPlain_of_not_isControl h)]

/-- A text between quotes is read back, with what stands behind it left over. -/
lemma basicText?_flatMap_escapeChar (cs rest : List Char) :
    basicText? (cs.flatMap escapeChar ++ '"' :: rest) = some (cs, rest) := by
  induction cs with
  | nil => exact basicText?_quote
  | cons c cs ih =>
    rw [List.flatMap_cons, List.append_assoc, (writes_escapeChar c).basicText?, ih]
    rfl

/-- No written character starts with a quote. -/
lemma Writes.append_ne_quote {ds : List Char} (h : Writes c cs) : cs ++ rest ≠ '"' :: ds := by
  intro heq
  cases h with
  | pair _ => cases heq
  | codePoint _ => cases heq
  | plain hquote _ _ => exact hquote (List.cons.inj heq).1

/-- A string is not taken for a long one, even if it is empty. -/
lemma flatMap_escapeChar_ne_quotes {ds : List Char} (hrest : StopsAt (· == '"') rest) :
    cs.flatMap escapeChar ++ '"' :: rest ≠ '"' :: '"' :: ds := by
  intro h
  cases cs with
  | nil =>
    obtain rfl := (List.cons.inj h).2
    exact absurd (stopsAt_cons.1 hrest) (by decide)
  | cons c cs =>
    rw [List.flatMap_cons, List.append_assoc] at h
    exact (writes_escapeChar c).append_ne_quote h

/-- A quoted text is read back as a string. -/
lemma string?_quote (s : String) (hrest : StopsAt (· == '"') rest) :
    string? ((quote s).toList ++ rest) = some (s, rest) := by
  have hquote : (quote s).toList ++ rest =
      '"' :: (s.toList.flatMap escapeChar ++ '"' :: rest) := by
    simp [quote]
  rw [hquote, string?.eq_2 _ fun ds => flatMap_escapeChar_ne_quotes hrest,
    basicText?_flatMap_escapeChar]
  simp

end DemoQuery.Toml
