import DemoQuery.Proofs.Json.Grammar

/-!
# Texts of the grammar are read

The tokens of a value complete it wherever a value may stand, so that a text of the grammar is read
as the value that it writes down, and a text writes down one value at most.
-/

namespace DemoQuery.Json

open Text

variable {outer : List Open} {p q : Position} {t : Token} {ts us : List Token} {j k : Json}
variable {cs : List Char}

/-- The position behind some tokens. -/
def Position.steps? (p : Position) (ts : List Token) : Option Position :=
  ts.foldlM step? p

lemma Position.steps?_cons (h : p.step? t = some q) (ts : List Token) :
    p.steps? (t :: ts) = q.steps? ts := by
  rw [steps?, List.foldlM_cons, h]
  rfl

/-- `Completes ts j`: where a value may stand, the tokens `ts` lead to the position behind `j`. -/
def Completes (ts : List Token) (j : Json) : Prop :=
  ∀ outer us, (Position.value outer).steps? (ts ++ us) =
    (Position.behind? j outer).bind fun p => p.steps? us

lemma completes_singleton (h : ∀ outer, Position.begin? outer t = Position.behind? j outer) :
    Completes [t] j := by
  intro outer us
  rw [← h]
  rfl

/-- No value starts with a closing bracket. -/
lemma exists_tokens_eq_cons (j : Json) : ∃ t ts, j.tokens = t :: ts ∧ t ≠ .closeArray := by
  cases j <;> simp [tokens]

/-- The first item of an array stands where any value may stand. -/
lemma steps?_start_array (items : List Json) (j : Json) (us : List Token) :
    (Position.start (.array items :: outer)).steps? (j.tokens ++ us) =
      (Position.value (.array items :: outer)).steps? (j.tokens ++ us) := by
  obtain ⟨t, ts, hts, ht⟩ := exists_tokens_eq_cons j
  have hstep : Position.step? (.start (.array items :: outer)) t =
      Position.step? (.value (.array items :: outer)) t := by
    cases t <;> first | rfl | exact absurd rfl ht
  rw [hts, List.cons_append, Position.steps?, Position.steps?, List.foldlM_cons, List.foldlM_cons,
    hstep]

/-- Items with commas between them are added to the array. -/
lemma steps?_items {items : List Json} (h : ∀ i ∈ items, Completes i.tokens i) (hne : items ≠ [])
    (acc : List Json) (us : List Token) :
    (Position.value (.array acc :: outer)).steps? ([.comma].intercalate (items.map tokens) ++ us) =
      (Position.next (.array (items.reverse ++ acc) :: outer)).steps? us := by
  induction items generalizing acc with
  | nil => exact absurd rfl hne
  | cons i items ih =>
    obtain ⟨hi, hitems⟩ := List.forall_mem_cons.1 h
    cases items with
    | nil =>
      rw [List.map_singleton, List.intercalate_singleton, hi]
      rfl
    | cons i' items =>
      rw [List.map_cons, List.map_cons, List.intercalate_cons_cons, List.append_assoc,
        List.append_assoc, hi, ← List.map_cons]
      refine (Position.steps?_cons rfl _).trans ((ih hitems (by simp) (i :: acc)).trans ?_)
      simp

/-- A member is added to the object, wherever its name may stand. -/
lemma steps?_member {m : JsonString × Json} {acc : List (JsonString × Json)}
    (h : Completes m.2.tokens m.2)
    (hp : ∀ s, p.step? (.string s) = some (.colon (.member acc s :: outer))) (us : List Token) :
    p.steps? (memberTokens m ++ us) = (Position.next (.object (m :: acc) :: outer)).steps? us := by
  rw [memberTokens, List.cons_append, List.cons_append, Position.steps?_cons (hp m.1)]
  refine (Position.steps?_cons rfl _).trans ?_
  rw [h]
  rfl

/-- Members with commas between them are added to the object. -/
lemma steps?_members {members acc : List (JsonString × Json)}
    (h : ∀ m ∈ members, Completes m.2.tokens m.2) (hne : members ≠ [])
    (hp : ∀ s, p.step? (.string s) = some (.colon (.member acc s :: outer))) (us : List Token) :
    p.steps? ([.comma].intercalate (members.map memberTokens) ++ us) =
      (Position.next (.object (members.reverse ++ acc) :: outer)).steps? us := by
  induction members generalizing acc p with
  | nil => exact absurd rfl hne
  | cons m members ih =>
    obtain ⟨hm, hmembers⟩ := List.forall_mem_cons.1 h
    cases members with
    | nil =>
      rw [List.map_singleton, List.intercalate_singleton, steps?_member hm hp]
      rfl
    | cons m' members =>
      rw [List.map_cons, List.map_cons, List.intercalate_cons_cons, List.append_assoc,
        List.append_assoc, steps?_member hm hp, ← List.map_cons]
      refine (Position.steps?_cons rfl _).trans ((ih hmembers (by simp) fun _ => rfl).trans ?_)
      simp

lemma completes_array {items : List Json} (h : ∀ i ∈ items, Completes i.tokens i) :
    Completes (array items).tokens (.array items) := by
  intro outer us
  rw [tokens_array, List.cons_append, Position.steps?_cons rfl]
  cases items with
  | nil => rfl
  | cons i items =>
    obtain ⟨us', hus⟩ : ∃ us',
        [.comma].intercalate ((i :: items).map tokens) ++ [.closeArray] ++ us =
          i.tokens ++ us' := by
      cases items <;> simp
    rw [hus, steps?_start_array, ← hus, List.append_assoc, steps?_items h (by simp)]
    simp [Position.steps?, Position.step?]

lemma completes_object {members : List (JsonString × Json)}
    (h : ∀ m ∈ members, Completes m.2.tokens m.2) :
    Completes (object members).tokens (.object members) := by
  intro outer us
  rw [tokens_object, List.cons_append, Position.steps?_cons rfl]
  by_cases hne : members = []
  · subst hne
    rfl
  · rw [List.append_assoc, steps?_members h hne fun _ => rfl]
    simp [Position.steps?, Position.step?]

/-- The tokens of a value complete it. -/
lemma completes_tokens (j : Json) : Completes j.tokens j := by
  match j with
  | .array items => exact completes_array fun i _ => completes_tokens i
  | .object members => exact completes_object fun m _ => completes_tokens m.2
  | .null => simpa only [tokens] using completes_singleton fun _ => rfl
  | .bool b => simpa only [tokens] using completes_singleton fun _ => rfl
  | .integer n => simpa only [tokens] using completes_singleton fun _ => rfl
  | .decimal l => simpa only [tokens] using completes_singleton fun _ => rfl
  | .string s => simpa only [tokens] using completes_singleton fun _ => rfl
termination_by j
decreasing_by
  · have := List.sizeOf_lt_of_mem ‹_›
    simp only [array.sizeOf_spec]
    omega
  · have := sizeOf_lt_of_mem ‹_›
    simp only [object.sizeOf_spec]
    omega

lemma ofTokens?_tokens (j : Json) : ofTokens? j.tokens = some j := by
  have h := completes_tokens j [] []
  rw [List.append_nil] at h
  rw [ofTokens?, ← Position.steps?, h]
  rfl

/-- A text of the grammar is read as the value that it writes down. -/
lemma Writes.parse? {s : String} (h : Writes s.toList j) : parse? s = some j := by
  rw [Json.parse?, h.tokens?]
  exact ofTokens?_tokens j

end DemoQuery.Json
