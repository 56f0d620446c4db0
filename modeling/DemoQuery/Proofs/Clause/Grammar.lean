import DemoQuery.Clause.Reader
import DemoQuery.Proofs.Text.Run

/-!
# The grammar of filters

The rules of the filter language, as derivations of texts together with what they stand for. A
derivation says how a text is put together; nothing in it says how to take the text apart.

A filter is a sequence of clauses with commas between them, and perhaps one behind the last. The
values that are empty do not count, and a parameter without any other value is not derived.
-/

namespace DemoQuery

open Text

/-! ### Characters -/

/-- The characters of a key are the small and the capital letters of ASCII, its digits, the
underscore and the hyphen. -/
lemma isKeyChar_iff {c : Char} : isKeyChar c ↔ 97 ≤ c.toNat ∧ c.toNat ≤ 122 ∨
    65 ≤ c.toNat ∧ c.toNat ≤ 90 ∨ 48 ≤ c.toNat ∧ c.toNat ≤ 57 ∨ c.toNat = 95 ∨ c.toNat = 45 := by
  have hranges : isKeyChar c = ((decide (65 ≤ c.val ∧ c.val ≤ 90) ||
      decide (97 ≤ c.val) && decide (c.val ≤ 122) || c.isDigit) || c == '_' || c == '-') := rfl
  simp only [hranges, Bool.or_eq_true, Bool.and_eq_true, decide_eq_true_eq, beq_iff_eq,
    Char.isDigit_iff_toNat, ← Char.toNat_inj, UInt32.le_iff_toNat_le, Char.toNat_val,
    Char.reduceToNat, UInt32.reduceToNat]
  omega

/-- The blanks are the code points with the property White_Space. -/
lemma isBlank_iff {c : Char} : isBlank c ↔ 9 ≤ c.toNat ∧ c.toNat ≤ 13 ∨ c.toNat = 32 ∨
    c.toNat = 133 ∨ c.toNat = 160 ∨ c.toNat = 5760 ∨ 8192 ≤ c.toNat ∧ c.toNat ≤ 8202 ∨
    c.toNat = 8232 ∨ c.toNat = 8233 ∨ c.toNat = 8239 ∨ c.toNat = 8287 ∨ c.toNat = 12288 := by
  simp only [isBlank, Bool.or_eq_true, Bool.and_eq_true, decide_eq_true_eq, beq_iff_eq,
    Char.le_def, ← Char.toNat_inj, UInt32.le_iff_toNat_le, Char.toNat_val,
    Char.reduceToNat]
  omega

/-- Messages quote the first ten characters. -/
lemma excerpt_eq (cs : List Char) : excerpt cs = .ofList (cs.take 10) := rfl

namespace Grammar

/-! ### Values -/

/-- `Quoted q cs vs`: the text `cs` can stand between two quotes `q`, with the value `vs`. A
backslash goes with the character behind it. Before a backslash or a quote it is not part of the
value, before any other character it is. -/
inductive Quoted (q : Char) : List Char → List Char → Prop
  | nil : Quoted q [] []
  | plain {c : Char} {cs vs : List Char} (hq : c ≠ q) (hc : c ≠ '\\') (h : Quoted q cs vs) :
      Quoted q (c :: cs) (c :: vs)
  | escaped {c : Char} {cs vs : List Char} (hc : c = '\\' ∨ c = '"' ∨ c = '\'')
      (h : Quoted q cs vs) : Quoted q ('\\' :: c :: cs) (c :: vs)
  | pair {c : Char} {cs vs : List Char} (hc : ¬ (c = '\\' ∨ c = '"' ∨ c = '\''))
      (h : Quoted q cs vs) : Quoted q ('\\' :: c :: cs) ('\\' :: c :: vs)

/-- A value between two quotes of one kind. -/
inductive QuotedValue : List Char → String → Prop
  | mk {q : Char} {cs vs : List Char} (hq : q = '"' ∨ q = '\'') (h : Quoted q cs vs) :
      QuotedValue (q :: cs ++ [q]) (.ofList vs)

/-- A value without quotes, of one or more key characters. -/
inductive PlainValue : List Char → String → Prop
  | mk {cs : List Char} (hne : cs ≠ []) (h : IsRun isKeyChar cs) : PlainValue cs (.ofList cs)

/-- One or more values, with a comma between any two and blanks around it. -/
inductive Values (value : List Char → String → Prop) : List Char → List String → Prop
  | last {cs : List Char} {v : String} (h : value cs v) : Values value cs [v]
  | more {cs ws ws' ds : List Char} {v : String} {vs : List String} (h : value cs v)
      (hw : IsRun isBlank ws) (hw' : IsRun isBlank ws') (hs : Values value ds vs) :
      Values value (cs ++ ws ++ ',' :: ws' ++ ds) (v :: vs)

/-- What may stand before the end of a tuple in quotes: nothing, or one more comma. -/
inductive TrailingComma : List Char → Prop
  | absent : TrailingComma []
  | present {ws : List Char} (hw : IsRun isBlank ws) : TrailingComma (',' :: ws)

/-! ### Parameters -/

/-- The texts of each form of parameter, with the parameter. -/
inductive Derives : Form → List Char → Parameter → Prop
  | quotedTuple {ws cs ws' ts : List Char} {vs : List String} (hw : IsRun isBlank ws)
      (hs : Values QuotedValue cs vs) (hw' : IsRun isBlank ws') (ht : TrailingComma ts) :
      Derives .quotedTuple ('(' :: ws ++ cs ++ ws' ++ ts ++ [')']) (.list vs)
  | plainTuple {ws cs ws' : List Char} {vs : List String} (hw : IsRun isBlank ws)
      (hs : Values PlainValue cs vs) (hw' : IsRun isBlank ws') :
      Derives .plainTuple ('(' :: ws ++ cs ++ ws' ++ [')']) (.list vs)
  | rangeBetween {ds es : List Char} (hd : ds ≠ []) (hds : IsRun Char.isDigit ds) (he : es ≠ [])
      (hes : IsRun Char.isDigit es) :
      Derives .range (ds ++ '.' :: '.' :: es) (.range (some (.ofList ds)) (some (.ofList es)))
  | rangeFrom {ds : List Char} (hd : ds ≠ []) (hds : IsRun Char.isDigit ds) :
      Derives .range (ds ++ ['.', '.']) (.range (some (.ofList ds)) none)
  | rangeTo {es : List Char} (he : es ≠ []) (hes : IsRun Char.isDigit es) :
      Derives .range ('.' :: '.' :: es) (.range none (some (.ofList es)))
  | plainValue {cs : List Char} (h : IsRun isKeyChar cs) :
      Derives .plainValue cs (.list [.ofList cs])
  | quotedValue {cs : List Char} {v : String} (h : QuotedValue cs v) :
      Derives .quotedValue cs (.list [v])

/-- `Keeps p p'`: without its empty values, of which not all may be empty, `p` is `p'`. -/
inductive Keeps : Parameter → Parameter → Prop
  | list {vs : List String} (hne : vs.filter (· ≠ "") ≠ []) :
      Keeps (.list vs) (.list (vs.filter (· ≠ "")))
  | range {lower upper : Option String} : Keeps (.range lower upper) (.range lower upper)

/-- `Ends cs rest`: behind a parameter, `cs` ends its clause and `rest` follows. The end is a comma
or the end of the filter, before which blanks may stand. -/
inductive Ends : List Char → List Char → Prop
  | filter {ws : List Char} (hw : IsRun isBlank ws) : Ends ws []
  | comma {ws rest : List Char} (hw : IsRun isBlank ws) : Ends (ws ++ ',' :: rest) rest

/-! ### Clauses -/

/-- The text of a key: an exclamation mark if it is negated, its name and a colon. -/
def keyText (negated : Bool) (name : List Char) : List Char :=
  (if negated then ['!'] else []) ++ name ++ [':']

/-- The text of a clause: its key and a parameter, before which blanks may stand. -/
inductive IsClause : List Char → Clause → Prop
  | mk {negated : Bool} {name ws cs : List Char} {form : Form} {p p' : Parameter}
      (hn : IsRun isKeyChar name) (hw : IsRun isBlank ws) (hp : Derives form cs p)
      (hk : Keeps p p') : IsClause (keyText negated name ++ ws ++ cs) ⟨.ofList name, negated, p'⟩

/-- Clauses each with a comma behind it, and perhaps a last one without. -/
inductive Clauses : List Char → List Clause → Prop
  | nil : Clauses [] []
  | last {cs ws : List Char} {c : Clause} (h : IsClause cs c) (hw : IsRun isBlank ws) :
      Clauses (cs ++ ws) [c]
  | more {cs ws ws' ds : List Char} {c : Clause} {l : List Clause} (h : IsClause cs c)
      (hw : IsRun isBlank ws) (hw' : IsRun isBlank ws') (hs : Clauses ds l) :
      Clauses (cs ++ ws ++ ',' :: ws' ++ ds) (c :: l)

/-- The text of a filter, before which blanks may stand. -/
inductive IsFilter : List Char → List Clause → Prop
  | mk {ws cs : List Char} {l : List Clause} (hw : IsRun isBlank ws) (hs : Clauses cs l) :
      IsFilter (ws ++ cs) l

end Grammar

end DemoQuery
