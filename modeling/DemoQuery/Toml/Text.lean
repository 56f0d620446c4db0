import DemoQuery.Text.Reading
import DemoQuery.Toml

/-!
# Strings of TOML

Strings are written between double quotes, with escapes, or between single quotes, as they are;
and in either way over several lines, between three quotes at a time.
-/

namespace DemoQuery.Toml

/-- The blanks inside a line. -/
def isSpace (c : Char) : Bool :=
  c == ' ' || c == '\t'

/-- Whether a character may stand in a comment: no control character but the tab. -/
def isPlain (c : Char) : Bool :=
  c == '\t' || (' ' ≤ c && c != '\x7f')

/-- What follows the end of a line, which is a line feed, maybe behind a carriage return. -/
def newline? : List Char → Option (List Char)
  | '\n' :: cs         => some cs
  | '\r' :: '\n' :: cs => some cs
  | _                  => none

/-! ### Escapes -/

/-- The character with a code point written in so many hexadecimal digits, and the rest. -/
def codePoint? (width : Nat) (cs : List Char) : Option (Char × List Char) :=
  if cs.length < width then none
  else
    (Text.readBase? 16 (cs.take width)).bind fun n =>
      if n.isValidChar then some (Char.ofNat n, cs.drop width) else none

/-- The character that is written behind a backslash, and the rest. -/
def escape? : List Char → Option (Char × List Char)
  | 'b' :: cs  => some ('\x08', cs)
  | 't' :: cs  => some ('\t', cs)
  | 'n' :: cs  => some ('\n', cs)
  | 'f' :: cs  => some ('\x0c', cs)
  | 'r' :: cs  => some ('\r', cs)
  | '"' :: cs  => some ('"', cs)
  | '\\' :: cs => some ('\\', cs)
  | 'u' :: cs  => codePoint? 4 cs
  | 'U' :: cs  => codePoint? 8 cs
  | _          => none

theorem length_newline_lt {cs rest : List Char} (h : newline? cs = some rest) :
    rest.length < cs.length := by
  unfold newline? at h
  split at h
  all_goals simp_all only [Option.some.injEq, List.length_cons, reduceCtorEq]
  all_goals omega

theorem length_codePoint_le {width : Nat} {cs rest : List Char} {c : Char}
    (h : codePoint? width cs = some (c, rest)) : rest.length ≤ cs.length := by
  rw [codePoint?] at h
  split at h
  · simp at h
  · obtain ⟨n, -, h⟩ := Option.bind_eq_some_iff.1 h
    split at h
    · simp only [Option.some.injEq, Prod.mk.injEq] at h
      rw [← h.2]; simp
    · simp at h

theorem length_escape_lt {cs rest : List Char} {c : Char} (h : escape? cs = some (c, rest)) :
    rest.length < cs.length := by
  unfold escape? at h
  split at h
  all_goals first
    | exact Nat.lt_succ_of_le (length_codePoint_le h)
    | (simp only [Option.some.injEq, Prod.mk.injEq] at h; rw [← h.2]; simp)
    | simp at h

/-! ### Strings -/

/-- The text up to a double quote, with its escapes resolved, and the rest. -/
def basicText? : List Char → Option (List Char × List Char)
  | '"' :: rest    => some ([], rest)
  | '\\' :: behind =>
    match _h : escape? behind with
    | some (c, rest) => (basicText? rest).map fun (text, rest) => (c :: text, rest)
    | none           => none
  | c :: rest      =>
    if isPlain c then (basicText? rest).map fun (text, rest) => (c :: text, rest) else none
  | []             => none
termination_by cs => cs.length
decreasing_by
  · exact Nat.lt_succ_of_lt (length_escape_lt _h)
  · simp

/-- The text up to a single quote, and the rest. -/
def literalText? : List Char → Option (List Char × List Char)
  | '\'' :: rest => some ([], rest)
  | c :: rest    =>
    if isPlain c then (literalText? rest).map fun (text, rest) => (c :: text, rest) else none
  | []           => none

/-- A text without the blanks and line ends that it starts with. -/
def skipLineEnds : List Char → List Char
  | '\r' :: '\n' :: cs => skipLineEnds cs
  | c :: cs            => if isSpace c || c == '\n' then skipLineEnds cs else c :: cs
  | []                 => []

theorem length_skipLineEnds_le (cs : List Char) : (skipLineEnds cs).length ≤ cs.length := by
  fun_induction skipLineEnds cs
  all_goals simp only [List.length_cons, List.length_nil, Nat.le_refl]
  all_goals omega

/-- What follows a backslash that hides the end of its line, if it does. -/
def hiddenLineEnd? (cs : List Char) : Option (List Char) :=
  (newline? (cs.dropWhile isSpace)).map skipLineEnds

theorem length_hiddenLineEnd_lt {cs rest : List Char} (h : hiddenLineEnd? cs = some rest) :
    rest.length < cs.length := by
  obtain ⟨behind, hbehind, rfl⟩ := Option.map_eq_some_iff.1 h
  have := length_newline_lt hbehind
  have := (List.dropWhile_suffix (l := cs) isSpace).length_le
  have := length_skipLineEnds_le behind
  omega

/-- The text up to three quotes `q`, of which up to two more belong to the text, and the rest.
Between double quotes escapes are resolved, and a backslash at the end of a line hides all blanks
and line ends behind it. -/
def longText? (q : Char) : List Char → Option (List Char × List Char)
  | []        => none
  | c :: rest =>
    if c = q then
      let quotes := min ((rest.takeWhile (· == q)).length + 1) 5
      if quotes < 3 then (longText? q rest).map fun (text, rest) => (c :: text, rest)
      else some (.replicate (quotes - 3) q, rest.drop (quotes - 1))
    else if c = '\\' ∧ q = '"' then
      match _hidden : hiddenLineEnd? rest with
      | some rest => longText? q rest
      | none      =>
        match _escape : escape? rest with
        | some (c, rest) => (longText? q rest).map fun (text, rest) => (c :: text, rest)
        | none           => none
    else if isPlain c then (longText? q rest).map fun (text, rest) => (c :: text, rest)
    else
      match _newline : newline? (c :: rest) with
      | some rest => (longText? q rest).map fun (text, rest) => ('\n' :: text, rest)
      | none      => none
termination_by cs => cs.length
decreasing_by
  · simp
  · exact Nat.lt_succ_of_lt (length_hiddenLineEnd_lt _hidden)
  · exact Nat.lt_succ_of_lt (length_escape_lt _escape)
  · simp
  · exact length_newline_lt _newline

/-- The text of a long string, whose first line may be empty. -/
def longBody? (q : Char) (cs : List Char) : Option (List Char × List Char) :=
  longText? q ((newline? cs).getD cs)

/-- The string that stands here, and the rest. -/
def string? : List Char → Option (String × List Char)
  | '"' :: '"' :: '"' :: cs    => (longBody? '"' cs).map fun (text, rest) => (.ofList text, rest)
  | '"' :: cs                  => (basicText? cs).map fun (text, rest) => (.ofList text, rest)
  | '\'' :: '\'' :: '\'' :: cs => (longBody? '\'' cs).map fun (text, rest) => (.ofList text, rest)
  | '\'' :: cs                 => (literalText? cs).map fun (text, rest) => (.ofList text, rest)
  | _                          => none

end DemoQuery.Toml
