import DemoQuery.Proofs.Clause.Choice

/-!
# The order of the forms

The forms of a parameter are tried one after the other from the same place, and the first that can
be read up to an end of its clause is taken. At most one of them can be read from any place, so
every order of trying them takes the same one, goes on at the same place and fails alike.
-/

namespace DemoQuery

open Text

variable {forms : List Form} {form : Form} {cs rest : List Char} {p : Parameter}
  {e : FilterError}

/-! ### Any forms in any order -/

/-- Reading a parameter with some forms tried in their order: what comes of it, and the text from
the place on where reading stands afterwards. If no form can be read, that is the text it started
with. -/
def Form.readFirst (forms : List Form) (cs : List Char) :
    Except FilterError Parameter × List Char :=
  match forms.findSome? (·.read? cs) with
  | some (parameter, rest) => (.ok parameter, rest)
  | none                   => (.error (.expectedParameter (excerpt cs)), cs)

/-- A clause and the text of the further clauses, with some forms of its parameter tried in their
order. -/
def readClauseTrying (forms : List Form) (cs : List Char) :
    Except FilterError (Clause × List Char) :=
  match readKey? cs with
  | none => .error (.expectedKey (excerpt cs))
  | some (negated, key, behind) =>
    match Form.readFirst forms (skipBlanks behind) with
    | (.error e, _)         => .error e
    | (.ok parameter, rest) =>
      match parameter.dropEmpty? with
      | none           => .error (.emptyParameter key)
      | some parameter => .ok (⟨key, negated, parameter⟩, rest)

/-- Clauses are read with the forms in the order of `Form.all`. -/
lemma readClauseTrying_all (cs : List Char) : readClauseTrying Form.all cs = readClause cs := by
  rw [readClauseTrying, readClause]
  cases readKey? cs with
  | none => rfl
  | some key =>
    obtain ⟨negated, key, behind⟩ := key
    dsimp only
    rw [Form.readFirst, readParameter?]
    cases Form.all.findSome? (·.read? (skipBlanks behind)) with
    | none => rfl
    | some read => rfl

/-! ### What comes of trying -/

lemma Form.readFirst_eq_ok_iff :
    readFirst forms cs = (.ok p, rest) ↔ ∃ form ∈ forms, form.read? cs = some (p, rest) := by
  constructor
  · intro h
    rw [readFirst] at h
    split at h
    · next p' rest' hread =>
      obtain ⟨hp, rfl⟩ := Prod.mk.inj h
      obtain rfl := Except.ok.inj hp
      exact List.exists_of_findSome?_eq_some hread
    · cases (Prod.mk.inj h).1
  · rintro ⟨form, hmem, hread⟩
    rw [readFirst, findSome?_read?_eq_some hmem hread]

lemma Form.readFirst_eq_error_iff :
    readFirst forms cs = (.error e, rest) ↔
      (∀ form ∈ forms, form.read? cs = none) ∧
        e = .expectedParameter (.ofList (cs.take 10)) ∧ rest = cs := by
  rw [← List.findSome?_eq_none_iff, readFirst, excerpt_eq]
  cases forms.findSome? (·.read? cs) with
  | none => simp [eq_comm]
  | some read => simp

/-- Trying depends on which forms are tried, and not on their order. -/
lemma Form.readFirst_congr {forms' : List Form} (h : ∀ form, form ∈ forms ↔ form ∈ forms') :
    readFirst forms cs = readFirst forms' cs := by
  rcases hread : readFirst forms' cs with ⟨e | p, rest⟩
  · rw [readFirst_eq_error_iff] at hread ⊢
    refine ⟨?_, hread.2⟩
    intro form hmem
    exact hread.1 form ((h form).1 hmem)
  · rw [readFirst_eq_ok_iff] at hread ⊢
    obtain ⟨form, hmem, hform⟩ := hread
    exact ⟨form, (h form).2 hmem, hform⟩

/-- From any place at most one form can be read, its end of the clause included. Whatever order the
forms are tried in, the same parameter is read up to the same place or, with the same error, none
and the reader stays where it was. So clauses are read alike. -/
theorem Form.readFirst_eq_of_perm (cs : List Char) :
    (∀ (form form' : Form) x x', form.read? cs = some x → form'.read? cs = some x' →
        form = form') ∧
      ∀ forms, forms.Perm Form.all →
        readFirst forms cs = readFirst Form.all cs ∧
        (∀ p rest, readFirst forms cs = (.ok p, rest) ↔
          ∃ form : Form, form.read? cs = some (p, rest)) ∧
        (∀ e rest, readFirst forms cs = (.error e, rest) ↔
          (∀ form : Form, form.read? cs = none) ∧
            e = .expectedParameter (.ofList (cs.take 10)) ∧ rest = cs) ∧
        readClauseTrying forms cs = readClause cs := by
  constructor
  · intro form form' x x' h h'
    exact (eq_of_read? h).trans (eq_of_read? h').symm
  · intro forms hperm
    have hmem (form : Form) : form ∈ forms := hperm.mem_iff.2 mem_all
    have hall (cs : List Char) : readFirst forms cs = readFirst Form.all cs :=
      readFirst_congr fun form => hperm.mem_iff
    refine ⟨hall cs, ?_, ?_, ?_⟩
    · intro p rest
      rw [readFirst_eq_ok_iff]
      simp only [hmem, true_and]
    · intro e rest
      rw [readFirst_eq_error_iff]
      simp only [hmem, forall_const]
    · rw [← readClauseTrying_all]
      simp only [readClauseTrying, hall]

/-- A tuple in quotes with blanks and a comma behind its last value, whose form is tried last, and
a tuple that mixes both kinds of values, which no form reads. -/
theorem Form.readFirst_eq_of_perm_reversed :
    Form.all.reverse.Perm Form.all ∧
      readFirst Form.all.reverse "( '..7' , \"a\\\"\" , ) ,b:c".toList =
        (.ok (.list ["..7", "a\""]), "b:c".toList) ∧
      readFirst Form.all.reverse "('a', b)".toList =
        (.error (.expectedParameter "('a', b)"), "('a', b)".toList) := by
  have hperm : Form.all.reverse.Perm Form.all := List.reverse_perm Form.all
  refine ⟨hperm, ?_, ?_⟩
  · obtain ⟨-, horder⟩ := readFirst_eq_of_perm "( '..7' , \"a\\\"\" , ) ,b:c".toList
    apply ((horder _ hperm).2.1 _ _).2
    exact ⟨.quotedTuple, by decide +kernel⟩
  · obtain ⟨-, horder⟩ := readFirst_eq_of_perm "('a', b)".toList
    rw [(horder _ hperm).1]
    decide +kernel

end DemoQuery
