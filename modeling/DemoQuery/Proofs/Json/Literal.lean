import DemoQuery.Json.Token
import DemoQuery.Proofs.Text.Numeral

/-!
# The literals of JSON

How texts and numbers may be written in JSON, and what they denote. A literal is read up to its end
and no further: a string literal up to its closing quote, a number up to a character that could not
belong to it.
-/

namespace DemoQuery.Json

open Text

variable {cs ds rest : List Char} {ps : List Piece}

/-! ### String literals -/

/-- `Spells cs ps`: the characters `cs` between two quotes spell the pieces `ps`. -/
inductive Spells : List Char → List Piece → Prop
  | nil : Spells [] []
  /-- A character that stands for itself: no quote, no backslash and no control character. -/
  | char {c : Char} {cs : List Char} {ps : List Piece} (hcontrol : ¬ c < ' ') (hquote : c ≠ '"')
      (hbackslash : c ≠ '\\') (h : Spells cs ps) : Spells (c :: cs) (.char c :: ps)
  /-- A backslash and the letter of a character. -/
  | short {c letter : Char} {cs : List Char} {ps : List Piece} (hletter : unescape? letter = some c)
      (h : Spells cs ps) : Spells ('\\' :: letter :: cs) (.char c :: ps)
  /-- A code unit in four hexadecimal digits. -/
  | unit {a b c d : Char} {unit : Nat} {cs : List Char} {ps : List Piece}
      (hunit : readBase? 16 [a, b, c, d] = some unit) (h : Spells cs ps) :
      Spells ('\\' :: 'u' :: a :: b :: c :: d :: cs) (.ofUnit unit :: ps)

/-- `Joins ps cs`: every half of a surrogate pair has its other half, and the pieces make up
`cs`. -/
inductive Joins : List Piece → List Char → Prop
  | nil : Joins [] []
  | char {ps : List Piece} {cs : List Char} (c : Char) (h : Joins ps cs) :
      Joins (.char c :: ps) (c :: cs)
  | pair {high low : Nat} {ps : List Piece} {cs : List Char} (hhigh : isHighHalf high)
      (hlow : isLowHalf low) (h : Joins ps cs) :
      Joins (.half high :: .half low :: ps)
        (Char.ofNat (0x10000 + (high - 0xd800) * 0x400 + (low - 0xdc00)) :: cs)

/-- `IsLiteral cs s`: the characters `cs` are a string literal that denotes `s`, which is no text if
half of a surrogate pair is left alone. -/
inductive IsLiteral : List Char → JsonString → Prop
  | text {cs ds : List Char} {ps : List Piece} (h : Spells cs ps) (hjoin : Joins ps ds) :
      IsLiteral ('"' :: cs ++ ['"']) (some (.ofList ds))
  | noText {cs : List Char} {ps : List Piece} (h : Spells cs ps) (hjoin : ∀ ds, ¬ Joins ps ds) :
      IsLiteral ('"' :: cs ++ ['"']) none

lemma Spells.pieces? (h : Spells cs ps) (rest : List Char) :
    pieces? (cs ++ '"' :: rest) = some (ps, rest) := by
  induction h with
  | nil => rw [List.nil_append, Json.pieces?]
  | @char c cs ps hcontrol hquote hbackslash _ ih =>
    rw [List.cons_append, Json.pieces?, if_neg (by simp [hcontrol, hbackslash]), ih]
    · rfl
    all_goals simp_all
  | @short c letter cs ps hletter _ ih =>
    have hu : letter ≠ 'u' := by
      rintro rfl
      cases hletter
    rw [List.cons_append, List.cons_append, Json.pieces?, hletter, ih]
    · rfl
    all_goals simp_all
  | @unit a b c d unit cs ps hunit _ ih =>
    simp only [List.cons_append]
    rw [Json.pieces?, hunit, ih]
    rfl

lemma joinPieces?_eq_some_iff : joinPieces? ps = some cs ↔ Joins ps cs := by
  constructor
  · intro h
    fun_induction joinPieces? ps generalizing cs with
    | case1 =>
      cases h
      exact .nil
    | case2 c ps ih =>
      obtain ⟨cs', hcs, rfl⟩ := Option.map_eq_some_iff.1 h
      exact .char c (ih hcs)
    | case3 high low ps hhalves ih =>
      obtain ⟨cs', hcs, rfl⟩ := Option.map_eq_some_iff.1 h
      rw [Bool.and_eq_true] at hhalves
      exact .pair hhalves.1 hhalves.2 (ih hcs)
    | case4 => cases h
    | case5 => cases h
  · intro h
    induction h with
    | nil => rfl
    | char c _ ih => rw [joinPieces?, ih]; rfl
    | pair hhigh hlow _ ih => rw [joinPieces?, if_pos (by simp [hhigh, hlow]), ih]; rfl

/-- A string literal is read up to its closing quote. -/
lemma IsLiteral.token? {s : JsonString} (h : IsLiteral cs s) (rest : List Char) :
    token? (cs ++ rest) = some (.string s, rest) := by
  cases h with
  | @text cs ds ps h hjoin =>
    have hread := h.pieces? rest
    have hdenotes := joinPieces?_eq_some_iff.2 hjoin
    simp [Json.token?, stringLiteral?, hread, hdenotes]
  | @noText cs ps h hjoin =>
    have hread := h.pieces? rest
    have hdenotes : joinPieces? ps = none :=
      Option.eq_none_iff_forall_ne_some.2 fun ds hds => hjoin ds (joinPieces?_eq_some_iff.1 hds)
    simp [Json.token?, stringLiteral?, hread, hdenotes]

/-! ### Numbers -/

/-- The digits of a whole number: no zero stands in front of others. -/
structure IsWhole (ds : List Char) : Prop where
  digits  : IsDigits ds
  no_zero : ds.head? = some '0' → ds = ['0']

/-- Nothing, or a point and digits. -/
inductive IsFraction : List Char → Prop
  | nil : IsFraction []
  | point {ds : List Char} (h : IsDigits ds) : IsFraction ('.' :: ds)

/-- Nothing, or a letter `e` and digits, with a sign between them if there is one. -/
inductive IsExponent : List Char → Prop
  | nil : IsExponent []
  | unsigned {e : Char} {ds : List Char} (he : e = 'e' ∨ e = 'E') (h : IsDigits ds) :
      IsExponent (e :: ds)
  | signed {e s : Char} {ds : List Char} (he : e = 'e' ∨ e = 'E') (hs : s = '+' ∨ s = '-')
      (h : IsDigits ds) : IsExponent (e :: s :: ds)

/-- `IsNumber cs j`: the characters `cs` are a number whose value is `j`. It is whole if it is
written without a fraction and an exponent, and not as a negative zero. -/
inductive IsNumber : List Char → Json → Prop
  | natural {ds : List Char} (h : IsWhole ds) : IsNumber ds (.integer (placeValue ds))
  | negative {ds : List Char} (h : IsWhole ds) (hzero : placeValue ds ≠ 0) :
      IsNumber ('-' :: ds) (.integer (-placeValue ds))
  | negativeZero : IsNumber ['-', '0'] (.decimal "-0")
  | decimal {ds fraction exponent : List Char} (sign : List Char) (hsign : sign = [] ∨ sign = ['-'])
      (h : IsWhole ds) (hfraction : IsFraction fraction) (hexponent : IsExponent exponent)
      (hne : fraction ++ exponent ≠ []) :
      IsNumber (sign ++ ds ++ (fraction ++ exponent))
        (.decimal (.ofList (sign ++ ds ++ (fraction ++ exponent))))

/-- The characters with which a number could go on. -/
def isNumberChar (c : Char) : Bool :=
  c.isDigit || c == '.' || c == 'e' || c == 'E'

lemma stopsAt_of_isNumberChar {p : Char → Bool} (hp : ∀ c, p c → isNumberChar c)
    (h : StopsAt isNumberChar rest) : StopsAt p rest := by
  intro c hc
  have hstop := h c hc
  by_contra hpc
  rw [hp c (by simpa using hpc)] at hstop
  exact absurd hstop (by decide)

lemma digits?_append (h : IsDigits ds) (hrest : StopsAt Char.isDigit rest) :
    digits? (ds ++ rest) = some (ds, rest) := by
  rw [digits?, takeWhile_run_append h.2 hrest, dropWhile_run_append h.2 hrest]
  cases ds with
  | nil => exact absurd rfl h.1
  | cons d ds => rfl

/-- The characters that a fraction could start or go on with. -/
def isFractionChar (c : Char) : Bool :=
  c.isDigit || c == '.'

lemma fraction?_append {fraction : List Char} (h : IsFraction fraction)
    (hrest : StopsAt isFractionChar rest) :
    fraction? (fraction ++ rest) = some (fraction, rest) := by
  cases h with
  | nil =>
    rw [List.nil_append]
    unfold fraction?
    split
    · exact absurd (stopsAt_cons.1 hrest) (by decide)
    · rfl
  | point h =>
    have hdigits : StopsAt Char.isDigit rest := fun c hc =>
      (Bool.or_eq_false_iff.1 (hrest c hc)).1
    rw [List.cons_append, fraction?, digits?_append h hdigits]
    rfl

lemma sign_of_not_sign {c : Char} (hplus : c ≠ '+') (hminus : c ≠ '-') (cs : List Char) :
    sign (c :: cs) = ([], c :: cs) := by
  unfold sign
  split <;> simp_all

lemma exponent?_append {exponent : List Char} (h : IsExponent exponent)
    (hrest : StopsAt isNumberChar rest) : exponent? (exponent ++ rest) = some (exponent, rest) := by
  have hdigits : StopsAt Char.isDigit rest :=
    stopsAt_of_isNumberChar (by simp +contextual [isNumberChar]) hrest
  cases h with
  | nil =>
    cases rest with
    | nil => rfl
    | cons c rest =>
      have hc := stopsAt_cons.1 hrest
      simp only [isNumberChar, Bool.or_eq_false_iff] at hc
      rw [List.nil_append, exponent?, if_neg (by simp [hc])]
  | @unsigned e ds he h =>
    have hsign : sign (ds ++ rest) = ([], ds ++ rest) := by
      cases ds with
      | nil => exact absurd rfl h.1
      | cons d ds =>
        have hd := isDigit_head h
        refine sign_of_not_sign ?_ ?_ _
        all_goals
          rintro rfl
          exact absurd hd (by decide)
    rw [List.cons_append, exponent?, if_pos (by simp [he]), hsign, digits?_append h hdigits]
    rfl
  | @signed e s ds he hs h =>
    have hsign : sign (s :: (ds ++ rest)) = ([s], ds ++ rest) := by
      rcases hs with rfl | rfl <;> rfl
    rw [List.cons_append, List.cons_append, exponent?, if_pos (by simp [he]), hsign,
      digits?_append h hdigits]
    rfl

/-- What is behind the digits of a number does not start with a digit. -/
lemma IsExponent.stopsAt {exponent : List Char} (h : IsExponent exponent)
    (hrest : StopsAt isNumberChar rest) : StopsAt isFractionChar (exponent ++ rest) := by
  cases h with
  | nil => exact stopsAt_of_isNumberChar (by simp +contextual [isNumberChar, isFractionChar]) hrest
  | unsigned he _ => rcases he with rfl | rfl <;> exact stopsAt_cons.2 (by decide)
  | signed he _ _ => rcases he with rfl | rfl <;> exact stopsAt_cons.2 (by decide)

lemma IsFraction.stopsAt {fraction : List Char} (h : IsFraction fraction)
    (hrest : StopsAt isFractionChar rest) : StopsAt Char.isDigit (fraction ++ rest) := by
  cases h with
  | nil => exact fun c hc => (Bool.or_eq_false_iff.1 (hrest c hc)).1
  | point _ => exact stopsAt_cons.2 (by decide)

/-- The minus of a negative number. -/
def minus (negative : Bool) : List Char :=
  if negative then ['-'] else []

/-- Digits do not start with a sign. -/
lemma head?_append_ne {c : Char} (h : IsDigits ds) (hc : c.isDigit = false) :
    (ds ++ rest).head? ≠ some c := by
  intro hhead
  obtain ⟨cs, hcs⟩ := List.head?_eq_some_iff.1 hhead
  exact h.append_ne_cons hc hcs

/-- A number is read up to a character that could not belong to it. -/
lemma number?_append {fraction exponent : List Char} (negative : Bool) (h : IsWhole ds)
    (hfraction : IsFraction fraction) (hexponent : IsExponent exponent)
    (hrest : StopsAt isNumberChar rest) :
    number? (minus negative ++ ds ++ (fraction ++ exponent) ++ rest) =
      some (numberValue negative ds (fraction ++ exponent), rest) := by
  have hbehind := hexponent.stopsAt hrest
  have hdigits := digits?_append h.digits (hfraction.stopsAt hbehind)
  have hread := fraction?_append hfraction hbehind
  have hminus : ((minus negative ++ (ds ++ (fraction ++ (exponent ++ rest)))).head? == some '-') =
      negative := by
    cases negative with
    | false =>
      have hhead : (ds ++ (fraction ++ (exponent ++ rest))).head? ≠ some '-' :=
        head?_append_ne h.digits (by decide)
      exact beq_false_of_ne hhead
    | true => rfl
  have htail : (if negative then (minus negative ++ (ds ++ (fraction ++ (exponent ++ rest)))).tail
      else minus negative ++ (ds ++ (fraction ++ (exponent ++ rest)))) =
        ds ++ (fraction ++ (exponent ++ rest)) := by
    cases negative <;> rfl
  simp only [List.append_assoc, number?, hminus, htail, hdigits, Option.bind_some]
  rw [if_neg (by simpa using h.no_zero), hread, Option.bind_some,
    exponent?_append hexponent hrest]
  rfl

lemma numberValue_nil (negative : Bool) (hzero : negative → placeValue ds ≠ 0) :
    numberValue negative ds [] =
      .integer (if negative then -(placeValue ds : Int) else placeValue ds) := by
  rw [numberValue, ofDigitChars_eq_placeValue, if_pos]
  cases negative with
  | false => rfl
  | true => simpa using hzero

lemma numberValue_of_ne_nil (negative : Bool) {suffix : List Char} (h : suffix ≠ []) :
    numberValue negative ds suffix = .decimal (.ofList (minus negative ++ ds ++ suffix)) := by
  rw [numberValue, if_neg (by simp [h]), minus]

lemma IsNumber.number? {j : Json} (h : IsNumber cs j) (hrest : StopsAt isNumberChar rest) :
    number? (cs ++ rest) = some (j, rest) := by
  cases h with
  | natural h =>
    have hread := number?_append false h .nil .nil hrest
    rw [List.append_nil, numberValue_nil false (by simp)] at hread
    simpa [minus] using hread
  | negative h hzero =>
    have hread := number?_append true h .nil .nil hrest
    rw [List.append_nil, numberValue_nil true (by simp [hzero])] at hread
    simpa [minus] using hread
  | negativeZero =>
    have hzero : IsWhole ['0'] := ⟨by decide, by decide⟩
    exact number?_append true hzero .nil .nil hrest
  | @decimal ds fraction exponent sign hsign h hfraction hexponent hne =>
    obtain ⟨negative, rfl⟩ : ∃ negative, sign = minus negative := by
      rcases hsign with rfl | rfl
      · exact ⟨false, rfl⟩
      · exact ⟨true, rfl⟩
    rw [← numberValue_of_ne_nil negative hne]
    exact number?_append negative h hfraction hexponent hrest

/-- A number starts with a digit or a minus. -/
lemma IsNumber.exists_cons {j : Json} (h : IsNumber cs j) :
    ∃ c cs', cs = c :: cs' ∧ (c.isDigit ∨ c = '-') := by
  have hdigits : ∀ {ds ts}, IsWhole ds → ∃ c cs', ds ++ ts = c :: cs' ∧ (c.isDigit ∨ c = '-') := by
    intro ds ts h
    cases ds with
    | nil => exact absurd rfl h.digits.1
    | cons d ds => exact ⟨d, _, rfl, .inl (isDigit_head h.digits)⟩
  cases h with
  | natural h => exact List.append_nil cs ▸ hdigits h
  | negative _ _ => exact ⟨_, _, rfl, .inr rfl⟩
  | negativeZero => exact ⟨_, _, rfl, .inr rfl⟩
  | decimal sign hsign h _ _ _ =>
    rcases hsign with rfl | rfl
    · exact hdigits h
    · exact ⟨_, _, rfl, .inr rfl⟩

/-- A number is read as one token. -/
lemma IsNumber.token? {j : Json} (h : IsNumber cs j) (hrest : StopsAt isNumberChar rest) :
    token? (cs ++ rest) = some (.literal j, rest) := by
  obtain ⟨c, cs', rfl, hc⟩ := h.exists_cons
  have hread := h.number? hrest
  rw [List.cons_append] at hread ⊢
  unfold Json.token?
  split
  all_goals first
    | rw [hread]; rfl
    | rename_i heq
      obtain rfl := (List.cons.inj heq).1
      exact absurd hc (by decide)

end DemoQuery.Json
