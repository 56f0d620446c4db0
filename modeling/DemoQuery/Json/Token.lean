import DemoQuery.Json
import DemoQuery.Text.Reading

/-!
# The tokens of JSON

A JSON text is cut into brackets, separators, string literals and other literals, with blanks
between them: space, tab, line feed and carriage return.
-/

namespace DemoQuery.Json

/-- A token of JSON. -/
inductive Token where
  | openArray
  | closeArray
  | openObject
  | closeObject
  | comma
  | colon
  | string (s : JsonString)
  /-- A number, a truth value or null. -/
  | literal (value : Json)
  deriving Repr, Inhabited

/-! ### String literals -/

/-- A piece of a string literal: a character, or a code unit of a surrogate pair. -/
inductive Piece where
  | char (c : Char)
  | half (unit : Nat)
  deriving DecidableEq, Repr

/-- Whether a code unit starts a surrogate pair. -/
def isHighHalf (unit : Nat) : Bool :=
  0xd800 ≤ unit && unit < 0xdc00

/-- Whether a code unit ends a surrogate pair. -/
def isLowHalf (unit : Nat) : Bool :=
  0xdc00 ≤ unit && unit < 0xe000

/-- The piece that a code unit is. -/
def Piece.ofUnit (unit : Nat) : Piece :=
  if isHighHalf unit || isLowHalf unit then .half unit else .char (Char.ofNat unit)

/-- The character that a letter behind a backslash stands for. -/
def unescape? : Char → Option Char
  | '"'  => some '"'
  | '\\' => some '\\'
  | '/'  => some '/'
  | 'b'  => some '\x08'
  | 'f'  => some '\x0c'
  | 'n'  => some '\n'
  | 'r'  => some '\r'
  | 't'  => some '\t'
  | _    => none

/-- The pieces of a string literal up to its closing quote, and the rest. -/
def pieces? : List Char → Option (List Piece × List Char)
  | '"' :: cs                             => some ([], cs)
  | '\\' :: 'u' :: a :: b :: c :: d :: cs =>
    (Text.readBase? 16 [a, b, c, d]).bind fun unit =>
      (pieces? cs).map fun (ps, rest) => (.ofUnit unit :: ps, rest)
  | '\\' :: letter :: cs                  =>
    (unescape? letter).bind fun c => (pieces? cs).map fun (ps, rest) => (.char c :: ps, rest)
  | c :: cs                               =>
    if c < ' ' || c == '\\' then none
    else (pieces? cs).map fun (ps, rest) => (.char c :: ps, rest)
  | []                                    => none

/-- The text that pieces denote, if every half of a surrogate pair has its other half. -/
def joinPieces? : List Piece → Option (List Char)
  | []                              => some []
  | .char c :: ps                   => (joinPieces? ps).map (c :: ·)
  | .half high :: .half low :: ps   =>
    if isHighHalf high && isLowHalf low then
      (joinPieces? ps).map (Char.ofNat (0x10000 + (high - 0xd800) * 0x400 + (low - 0xdc00)) :: ·)
    else none
  | .half _ :: _                    => none

/-- What the string literal behind an opening quote denotes, and the rest. -/
def stringLiteral? (cs : List Char) : Option (JsonString × List Char) :=
  (pieces? cs).map fun (ps, rest) => ((joinPieces? ps).map String.ofList, rest)

/-! ### Numbers -/

/-- A non-empty run of digits, and the rest. -/
def digits? (cs : List Char) : Option (List Char × List Char) :=
  match cs.takeWhile Char.isDigit with
  | []     => none
  | digits => some (digits, cs.dropWhile Char.isDigit)

/-- The fraction that stands here, if any, and the rest. -/
def fraction? : List Char → Option (List Char × List Char)
  | '.' :: cs => (digits? cs).map fun (digits, rest) => ('.' :: digits, rest)
  | cs        => some ([], cs)

/-- The sign that stands here, if any, and the rest. -/
def sign : List Char → List Char × List Char
  | '+' :: cs => (['+'], cs)
  | '-' :: cs => (['-'], cs)
  | cs        => ([], cs)

/-- The exponent that stands here, if any, and the rest. -/
def exponent? : List Char → Option (List Char × List Char)
  | c :: cs =>
    if c == 'e' || c == 'E' then
      (digits? (sign cs).2).map fun (digits, rest) => (c :: (sign cs).1 ++ digits, rest)
    else some ([], c :: cs)
  | []      => some ([], [])

/-- The value of a number literal: its minus, its digits, and what stands behind them. -/
def numberValue (negative : Bool) (digits suffix : List Char) : Json :=
  let n := Nat.ofDigitChars 10 digits 0
  if suffix.isEmpty && !(negative && n == 0) then .integer (if negative then -n else n)
  else .decimal (.ofList ((if negative then ['-'] else []) ++ digits ++ suffix))

/-- The number that stands here, and the rest. No zero may stand before other digits. -/
def number? (cs : List Char) : Option (Json × List Char) :=
  let negative := cs.head? == some '-'
  (digits? (if negative then cs.tail else cs)).bind fun (digits, behind) =>
    if digits.head? == some '0' && digits != ['0'] then none
    else
      (fraction? behind).bind fun (fraction, behind) =>
        (exponent? behind).map fun (exponent, rest) =>
          (numberValue negative digits (fraction ++ exponent), rest)

/-! ### Tokens -/

/-- The blanks of JSON. -/
def isBlank (c : Char) : Bool :=
  c == ' ' || c == '\t' || c == '\n' || c == '\r'

/-- The token that stands here, and the rest. -/
def token? : List Char → Option (Token × List Char)
  | '[' :: cs                             => some (.openArray, cs)
  | ']' :: cs                             => some (.closeArray, cs)
  | '{' :: cs                             => some (.openObject, cs)
  | '}' :: cs                             => some (.closeObject, cs)
  | ',' :: cs                             => some (.comma, cs)
  | ':' :: cs                             => some (.colon, cs)
  | '"' :: cs                             => (stringLiteral? cs).map fun (s, rest) => (.string s, rest)
  | 'n' :: 'u' :: 'l' :: 'l' :: cs        => some (.literal .null, cs)
  | 't' :: 'r' :: 'u' :: 'e' :: cs        => some (.literal (.bool true), cs)
  | 'f' :: 'a' :: 'l' :: 's' :: 'e' :: cs => some (.literal (.bool false), cs)
  | cs                                    => (number? cs).map fun (n, rest) => (.literal n, rest)

theorem length_pieces_lt {cs rest : List Char} {ps : List Piece}
    (h : pieces? cs = some (ps, rest)) : rest.length < cs.length := by
  fun_induction pieces? cs generalizing ps with
  | case1 => simp_all
  | case2 a b c d cs ih =>
    obtain ⟨_, -, h⟩ := Option.bind_eq_some_iff.1 h
    obtain ⟨⟨ps', r⟩, hr, heq⟩ := Option.map_eq_some_iff.1 h
    simp only [Prod.mk.injEq] at heq
    have := ih (heq.2 ▸ hr)
    simp only [List.length_cons]; omega
  | case3 letter cs _ ih =>
    obtain ⟨_, -, h⟩ := Option.bind_eq_some_iff.1 h
    obtain ⟨⟨ps', r⟩, hr, heq⟩ := Option.map_eq_some_iff.1 h
    simp only [Prod.mk.injEq] at heq
    have := ih (heq.2 ▸ hr)
    simp only [List.length_cons]; omega
  | case4 => simp at h
  | case5 c cs _ _ _ _ ih =>
    obtain ⟨⟨ps', r⟩, hr, heq⟩ := Option.map_eq_some_iff.1 h
    simp only [Prod.mk.injEq] at heq
    have := ih (heq.2 ▸ hr)
    simp only [List.length_cons]; omega
  | case6 => simp at h

theorem length_stringLiteral_lt {cs rest : List Char} {s : JsonString}
    (h : stringLiteral? cs = some (s, rest)) : rest.length < cs.length := by
  obtain ⟨⟨ps, r⟩, hr, heq⟩ := Option.map_eq_some_iff.1 h
  simp only [Prod.mk.injEq] at heq
  exact length_pieces_lt (heq.2 ▸ hr)

theorem length_digits_lt {cs ds rest : List Char} (h : digits? cs = some (ds, rest)) :
    rest.length < cs.length := by
  rw [digits?] at h
  split at h
  · simp at h
  · next hne =>
    simp only [Option.some.injEq, Prod.mk.injEq] at h
    have hsum := congrArg List.length
      (List.takeWhile_append_dropWhile (p := Char.isDigit) (l := cs))
    have : (cs.takeWhile Char.isDigit).length ≠ 0 := by simpa using hne
    simp only [List.length_append] at hsum
    rw [← h.2]; omega

theorem length_fraction_le {cs fraction rest : List Char}
    (h : fraction? cs = some (fraction, rest)) : rest.length ≤ cs.length := by
  unfold fraction? at h
  split at h
  · obtain ⟨⟨ds, r⟩, hr, heq⟩ := Option.map_eq_some_iff.1 h
    simp only [Prod.mk.injEq] at heq
    have := length_digits_lt (heq.2 ▸ hr)
    simp only [List.length_cons]; omega
  · simp_all

theorem length_sign_le (cs : List Char) : (sign cs).2.length ≤ cs.length := by
  unfold sign
  split <;> simp

theorem length_exponent_le {cs exponent rest : List Char}
    (h : exponent? cs = some (exponent, rest)) : rest.length ≤ cs.length := by
  unfold exponent? at h
  split at h
  · next cs =>
    split at h
    · obtain ⟨⟨ds, r⟩, hr, heq⟩ := Option.map_eq_some_iff.1 h
      simp only [Prod.mk.injEq] at heq
      have := length_digits_lt (heq.2 ▸ hr)
      have := length_sign_le cs
      simp only [List.length_cons]; omega
    · simp_all
  · simp_all

theorem length_number_lt {cs rest : List Char} {j : Json} (h : number? cs = some (j, rest)) :
    rest.length < cs.length := by
  obtain ⟨⟨ds, behind⟩, hds, h⟩ := Option.bind_eq_some_iff.1 h
  have htail : (if cs.head? == some '-' then cs.tail else cs).length ≤ cs.length := by
    split <;> simp
  have := length_digits_lt hds
  dsimp only at h
  split at h
  · simp at h
  · obtain ⟨⟨_, behind'⟩, hfraction, h⟩ := Option.bind_eq_some_iff.1 h
    obtain ⟨⟨_, rest'⟩, hexponent, heq⟩ := Option.map_eq_some_iff.1 h
    simp only [Prod.mk.injEq] at heq
    have := length_fraction_le hfraction
    have : rest'.length ≤ behind'.length := length_exponent_le hexponent
    rw [← heq.2]; omega

theorem length_token_lt {cs rest : List Char} {t : Token} (h : token? cs = some (t, rest)) :
    rest.length < cs.length := by
  unfold token? at h
  split at h
  all_goals first
    | simp only [Option.some.injEq, Prod.mk.injEq] at h
      rw [← h.2]; simp only [List.length_cons]; omega
    | obtain ⟨⟨s, r⟩, hr, heq⟩ := Option.map_eq_some_iff.1 h
      simp only [Prod.mk.injEq] at heq
      first
        | exact Nat.lt_succ_of_lt (length_stringLiteral_lt (heq.2 ▸ hr))
        | exact length_number_lt (heq.2 ▸ hr)

/-- The tokens of a text, if it consists of tokens and blanks. -/
def tokens? (cs : List Char) : Option (List Token) :=
  match _hs : cs.dropWhile isBlank with
  | []     => some []
  | d :: ds =>
    match _ht : token? (d :: ds) with
    | none           => none
    | some (t, rest) => (tokens? rest).map (t :: ·)
termination_by cs.length
decreasing_by
  have := length_token_lt _ht
  have := (List.dropWhile_suffix (l := cs) isBlank).length_le
  rw [_hs] at this
  omega

end DemoQuery.Json
