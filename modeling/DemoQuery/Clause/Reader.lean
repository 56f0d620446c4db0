import DemoQuery.Clause
import DemoQuery.Text.Reading

/-!
# Reading clauses

A filter is read from left to right, one clause at a time. A clause is a key, a colon and a
parameter in one of five forms, up to a comma or the end of the filter. Blanks may stand after the
colon and around commas and parentheses.

A reader of a part of a filter answers with the part and the rest of the text, which is shorter
unless the part may be empty; that is what makes the readers of several parts end.
-/

namespace DemoQuery

open Text

/-- Whether a character may stand in a key and in a value without quotes. -/
def isKeyChar (c : Char) : Bool :=
  c.isAlphanum || c == '_' || c == '-'

/-! ### Values -/

/-- The text up to the next quote `q` and what follows the quote. A backslash takes the character
behind it along, so that no quote behind a backslash ends the text. -/
def untilQuote (q : Char) : List Char → Option (List Char × List Char)
  | []              => none
  | '\\' :: c :: cs => (untilQuote q cs).map fun (text, rest) => ('\\' :: c :: text, rest)
  | c :: cs         =>
    if c = q then some ([], cs)
    else (untilQuote q cs).map fun (text, rest) => (c :: text, rest)

/-- The text between two quotes of the same kind, still escaped, and the rest
(`read_quoted_string`). -/
def readQuotedText? : List Char → Option (List Char × List Char)
  | '"' :: cs  => untilQuote '"' cs
  | '\'' :: cs => untilQuote '\'' cs
  | _          => none

/-- A value in quotes and the rest. -/
def readQuoted? (cs : List Char) : Option (String × List Char) :=
  (readQuotedText? cs).map fun (text, rest) => (.ofList (unescape text), rest)

/-- A value without quotes, which is not empty, and the rest. -/
def readPlain? (cs : List Char) : Option (String × List Char) :=
  match cs.takeWhile isKeyChar with
  | []   => none
  | text => some (.ofList text, cs.dropWhile isKeyChar)

theorem length_untilQuote_lt {q : Char} {cs text rest : List Char}
    (h : untilQuote q cs = some (text, rest)) : rest.length < cs.length := by
  fun_induction untilQuote q cs generalizing text with
  | case1 => simp at h
  | case2 c cs ih =>
    obtain ⟨⟨t, r⟩, ht, hr⟩ := Option.map_eq_some_iff.1 h
    simp only [Prod.mk.injEq] at hr
    have := ih (hr.2 ▸ ht)
    simp only [List.length_cons]; omega
  | case3 => simp_all
  | case4 c cs _ _ ih =>
    obtain ⟨⟨t, r⟩, ht, hr⟩ := Option.map_eq_some_iff.1 h
    simp only [Prod.mk.injEq] at hr
    have := ih (hr.2 ▸ ht)
    simp only [List.length_cons]; omega

theorem length_readQuotedText_lt {cs text rest : List Char}
    (h : readQuotedText? cs = some (text, rest)) : rest.length < cs.length := by
  unfold readQuotedText? at h
  split at h
  all_goals first
    | exact Nat.lt_succ_of_lt (length_untilQuote_lt h)
    | simp at h

theorem length_readQuoted_lt {cs rest : List Char} {v : String}
    (h : readQuoted? cs = some (v, rest)) : rest.length < cs.length := by
  obtain ⟨⟨t, r⟩, ht, hr⟩ := Option.map_eq_some_iff.1 h
  simp only [Prod.mk.injEq] at hr
  exact length_readQuotedText_lt (hr.2 ▸ ht)

theorem length_readPlain_lt {cs rest : List Char} {v : String}
    (h : readPlain? cs = some (v, rest)) : rest.length < cs.length := by
  rw [readPlain?] at h
  split at h
  · simp at h
  · next hne =>
    simp only [Option.some.injEq, Prod.mk.injEq] at h
    have hsum := congrArg List.length (List.takeWhile_append_dropWhile (p := isKeyChar) (l := cs))
    have : (cs.takeWhile isKeyChar).length ≠ 0 := by simpa using hne
    simp only [List.length_append] at hsum
    rw [← h.2]; omega

/-! ### Tuples -/

/-- A kind of tuple: how one of its values is read, and whether a comma may follow the last. -/
structure TupleKind where
  value         : List Char → Option (String × List Char)
  trailingComma : Bool
  shorter       : ∀ {cs v rest}, value cs = some (v, rest) → rest.length < cs.length

/-- Tuples of values in quotes. -/
def TupleKind.quoted : TupleKind :=
  ⟨readQuoted?, true, length_readQuoted_lt⟩

/-- Tuples of values without quotes. -/
def TupleKind.plain : TupleKind :=
  ⟨readPlain?, false, length_readPlain_lt⟩

/-- What stands behind a value of a tuple: the end of the tuple, or more values. -/
def TupleKind.next? (kind : TupleKind) (cs : List Char) : Option (Bool × List Char) :=
  match skipBlanks cs with
  | ')' :: rest => some (false, rest)
  | ',' :: rest =>
    match kind.trailingComma, skipBlanks rest with
    | true, ')' :: rest => some (false, rest)
    | _,    rest        => some (true, rest)
  | _           => none

theorem TupleKind.length_next?_le {kind : TupleKind} {cs rest : List Char} {more : Bool}
    (h : kind.next? cs = some (more, rest)) : rest.length ≤ cs.length := by
  have hcs := length_skipBlanks_le cs
  rw [next?] at h
  split at h
  · next r hr =>
    simp only [Option.some.injEq, Prod.mk.injEq] at h
    rw [hr, List.length_cons] at hcs
    rw [← h.2]; omega
  · next r hr =>
    rw [hr, List.length_cons] at hcs
    have hr' := length_skipBlanks_le r
    split at h
    · next r' hr'' =>
      simp only [Option.some.injEq, Prod.mk.injEq] at h
      rw [hr'', List.length_cons] at hr'
      rw [← h.2]; omega
    · simp only [Option.some.injEq, Prod.mk.injEq] at h
      rw [← h.2]; omega
  · simp at h

/-- The values of a tuple behind its opening parenthesis, and the rest behind the closing one. -/
def TupleKind.values (kind : TupleKind) (cs : List Char) : Option (List String × List Char) :=
  match _hv : kind.value (skipBlanks cs) with
  | none => none
  | some (v, behind) =>
    match _hn : kind.next? behind with
    | none               => none
    | some (false, rest) => some ([v], rest)
    | some (true, rest)  => (kind.values rest).map fun (vs, rest) => (v :: vs, rest)
termination_by cs.length
decreasing_by
  have := kind.shorter _hv
  have := TupleKind.length_next?_le _hn
  have := length_skipBlanks_le cs
  omega

/-! ### Parameters -/

/-- The forms of a parameter, in the order in which they are tried. -/
inductive Form where
  | quotedTuple
  | plainTuple
  | range
  | plainValue
  | quotedValue
  deriving DecidableEq, Repr

/-- Every form of a parameter. -/
def Form.all : List Form :=
  [.quotedTuple, .plainTuple, .range, .plainValue, .quotedValue]

/-- A bound of a range; no digits are no bound. -/
def bound? : List Char → Option String
  | []     => none
  | digits => some (.ofList digits)

/-- A range with at least one bound, and the rest (`try_range`). -/
def readRange? (cs : List Char) : Option (Parameter × List Char) :=
  match cs.dropWhile Char.isDigit with
  | '.' :: '.' :: behind =>
    match bound? (cs.takeWhile Char.isDigit), bound? (behind.takeWhile Char.isDigit) with
    | none,  none  => none
    | lower, upper => some (.range lower upper, behind.dropWhile Char.isDigit)
  | _ => none

/-- A parameter of a form, and the rest. A single value without quotes may be empty. -/
def Form.text? : Form → List Char → Option (Parameter × List Char)
  | .quotedTuple, '(' :: cs => (TupleKind.quoted.values cs).map fun (vs, rest) => (.list vs, rest)
  | .quotedTuple, _         => none
  | .plainTuple,  '(' :: cs => (TupleKind.plain.values cs).map fun (vs, rest) => (.list vs, rest)
  | .plainTuple,  _         => none
  | .range,       cs        => readRange? cs
  | .plainValue,  cs        =>
    some (.list [.ofList (cs.takeWhile isKeyChar)], cs.dropWhile isKeyChar)
  | .quotedValue, cs        => (readQuoted? cs).map fun (v, rest) => (.list [v], rest)

/-- What follows the end of a clause (`read_terminator`): a comma, or nothing more at all. -/
def endOfClause? (cs : List Char) : Option (List Char) :=
  match skipBlanks cs with
  | []          => some []
  | ',' :: rest => some rest
  | _           => none

/-- A parameter of a form that ends its clause, and the text of the further clauses. -/
def Form.read? (form : Form) (cs : List Char) : Option (Parameter × List Char) :=
  (form.text? cs).bind fun (parameter, behind) =>
    (endOfClause? behind).map fun rest => (parameter, rest)

/-- A parameter of the first form that fits, and the text of the further clauses
(`read_parameter`). -/
def readParameter? (cs : List Char) : Option (Parameter × List Char) :=
  Form.all.findSome? (·.read? cs)

/-! ### Clauses -/

/-- A key up to its colon (`read_key`): whether it is negated, its name, and the rest. -/
def readKey? (cs : List Char) : Option (Bool × String × List Char) :=
  let negated := cs.head? == some '!'
  let name := if negated then cs.tail else cs
  match name.dropWhile isKeyChar with
  | ':' :: rest => some (negated, .ofList (name.takeWhile isKeyChar), rest)
  | _           => none

/-- A clause and the text of the further clauses. -/
def readClause (cs : List Char) : Except FilterError (Clause × List Char) :=
  match readKey? cs with
  | none => .error (.expectedKey (excerpt cs))
  | some (negated, key, behind) =>
    match readParameter? (skipBlanks behind) with
    | none => .error (.expectedParameter (excerpt (skipBlanks behind)))
    | some (parameter, rest) =>
      match parameter.dropEmpty? with
      | none           => .error (.emptyParameter key)
      | some parameter => .ok (⟨key, negated, parameter⟩, rest)

theorem TupleKind.length_values_le {kind : TupleKind} {cs rest : List Char} {vs : List String}
    (h : kind.values cs = some (vs, rest)) : rest.length ≤ cs.length := by
  fun_induction TupleKind.values kind cs generalizing vs with
  | case1 => simp at h
  | case2 => simp at h
  | case3 cs v behind hv r hn =>
    simp only [Option.some.injEq, Prod.mk.injEq] at h
    have := kind.shorter hv
    have := TupleKind.length_next?_le hn
    have := length_skipBlanks_le cs
    rw [← h.2]; omega
  | case4 cs v behind hv r hn ih =>
    obtain ⟨⟨vs', r'⟩, hr, heq⟩ := Option.map_eq_some_iff.1 h
    simp only [Prod.mk.injEq] at heq
    have := ih (heq.2 ▸ hr)
    have := kind.shorter hv
    have := TupleKind.length_next?_le hn
    have := length_skipBlanks_le cs
    omega

theorem length_readRange_le {cs rest : List Char} {p : Parameter}
    (h : readRange? cs = some (p, rest)) : rest.length ≤ cs.length := by
  rw [readRange?] at h
  split at h
  · next behind hb =>
    have hcs := (List.dropWhile_suffix (l := cs) Char.isDigit).length_le
    have hbs := (List.dropWhile_suffix (l := behind) Char.isDigit).length_le
    rw [hb] at hcs
    simp only [List.length_cons] at hcs
    split at h
    · simp at h
    · simp only [Option.some.injEq, Prod.mk.injEq] at h
      rw [← h.2]; omega
  · simp at h

theorem Form.length_text?_le {form : Form} {cs rest : List Char} {p : Parameter}
    (h : form.text? cs = some (p, rest)) : rest.length ≤ cs.length := by
  unfold text? at h
  split at h
  · obtain ⟨⟨vs, r⟩, hr, heq⟩ := Option.map_eq_some_iff.1 h
    simp only [Prod.mk.injEq] at heq
    exact Nat.le_succ_of_le (TupleKind.length_values_le (heq.2 ▸ hr))
  · simp at h
  · obtain ⟨⟨vs, r⟩, hr, heq⟩ := Option.map_eq_some_iff.1 h
    simp only [Prod.mk.injEq] at heq
    exact Nat.le_succ_of_le (TupleKind.length_values_le (heq.2 ▸ hr))
  · simp at h
  · exact length_readRange_le h
  · simp only [Option.some.injEq, Prod.mk.injEq] at h
    rw [← h.2]
    exact (List.dropWhile_suffix _).length_le
  · obtain ⟨⟨v, r⟩, hr, heq⟩ := Option.map_eq_some_iff.1 h
    simp only [Prod.mk.injEq] at heq
    exact Nat.le_of_lt (length_readQuoted_lt (heq.2 ▸ hr))

theorem length_endOfClause_le {cs rest : List Char} (h : endOfClause? cs = some rest) :
    rest.length ≤ cs.length := by
  have hcs := length_skipBlanks_le cs
  rw [endOfClause?] at h
  split at h
  · simp_all
  · next r hr =>
    rw [hr, List.length_cons] at hcs
    simp only [Option.some.injEq] at h
    rw [← h]; omega
  · simp at h

theorem length_readParameter_le {cs rest : List Char} {p : Parameter}
    (h : readParameter? cs = some (p, rest)) : rest.length ≤ cs.length := by
  obtain ⟨form, -, hform⟩ := List.exists_of_findSome?_eq_some h
  obtain ⟨⟨p', behind⟩, htext, hend⟩ := Option.bind_eq_some_iff.1 hform
  obtain ⟨rest', hrest, heq⟩ := Option.map_eq_some_iff.1 hend
  simp only [Prod.mk.injEq] at heq
  have := Form.length_text?_le htext
  have := length_endOfClause_le hrest
  rw [← heq.2]; omega

theorem length_readKey_lt {cs rest : List Char} {negated : Bool} {key : String}
    (h : readKey? cs = some (negated, key, rest)) : rest.length < cs.length := by
  unfold readKey? at h
  dsimp only at h
  split at h
  · next name r hr =>
    simp only [Option.some.injEq, Prod.mk.injEq] at h
    have hdrop := (List.dropWhile_suffix
      (l := if cs.head? == some '!' then cs.tail else cs) isKeyChar).length_le
    rw [hr, List.length_cons] at hdrop
    have htail : (if cs.head? == some '!' then cs.tail else cs).length ≤ cs.length := by
      split <;> simp
    rw [← h.2.2]; omega
  · simp at h

theorem length_readClause_lt {cs rest : List Char} {c : Clause}
    (h : readClause cs = .ok (c, rest)) : rest.length < cs.length := by
  rw [readClause] at h
  split at h
  · simp at h
  · next behind hkey =>
    split at h
    · simp at h
    · next hparameter =>
      split at h
      · simp at h
      · simp only [Except.ok.injEq, Prod.mk.injEq] at h
        have := length_readKey_lt hkey
        have := length_readParameter_le hparameter
        have := length_skipBlanks_le behind
        rw [← h.2]; omega

/-- The clauses of a text, or what is wrong with the first that cannot be read. -/
def readClauses (cs : List Char) : Except FilterError (List Clause) :=
  match _hs : skipBlanks cs with
  | []     => .ok []
  | d :: ds =>
    match _hc : readClause (d :: ds) with
    | .error e      => .error e
    | .ok (c, rest) => (readClauses rest).map (c :: ·)
termination_by cs.length
decreasing_by
  have := length_readClause_lt _hc
  have := length_skipBlanks_le cs
  rw [_hs] at this
  omega

/-- The clauses of a filter (`FilterParser.parse`). -/
def Clause.parse (filter : String) : Except FilterError (List Clause) :=
  readClauses filter.toList

end DemoQuery
