import DemoQuery.Record.Reader
import Mathlib.Data.List.Forall2
import Mathlib.Data.List.Nodup

/-!
# Structures

The values that a structure may be written as: an object of its fields, in any order and among
members of other names, or an array of its fields in their order. Each field has a rule that says
which values it may have and whether it may be left out. The reader finds in every such value what
the rules are about.
-/

namespace DemoQuery.Json

variable {α : Type} {j : Json} {name : String} {value : Option Json}
variable {members others : List (String × Json)}

/-! ### The values of a structure -/

/-- The members for the fields that have a value. -/
def present (fields : List (String × Option Json)) : List (String × Json) :=
  fields.filterMap fun (name, value) => value.map (name, ·)

/-- What is asked of a field: whether it may be left out, and the values that it may have. -/
abbrev Rule := Option Json → Prop

/-- `Given isDefault P v`: a field is given a value of the kind `P`, or left out if it has its
default. -/
inductive Given (isDefault : Prop) (P : Json → Prop) : Rule
  | value {j : Json} (h : P j) : Given isDefault P (some j)
  | leftOut (h : isDefault) : Given isDefault P none

/-- A field without a default is given a value. -/
lemma Given.exists_eq {Q : Json → Prop} (h : Given False Q value) :
    ∃ j, value = some j ∧ Q j := by
  cases h with
  | value h => exact ⟨_, rfl, h⟩
  | leftOut h => exact h.elim

/-- `IsStructure fields j`: a structure with fields of these names and rules may be written as
`j`. -/
inductive IsStructure (fields : List (String × Rule)) : Json → Prop
  | object {values : List (Option Json)} {others members : List (String × Json)}
      (h : List.Forall₂ (fun field v => field.2 v) fields values)
      (hothers : ∀ m ∈ others, m.1 ∉ fields.map (·.1))
      (hmembers : members.Perm (present ((fields.map (·.1)).zip values) ++ others)) :
      IsStructure fields (.record members)
  | array {items : List Json} {left : Nat}
      (h : List.Forall₂ (fun field v => field.2 v) fields
        (items.map some ++ List.replicate left none)) :
      IsStructure fields (.array items)

lemma isStructure_record {fields : List (String × Rule)} (values : List (Option Json))
    (h : List.Forall₂ (fun field v => field.2 v) fields values)
    (hmembers : present ((fields.map (·.1)).zip values) = members) :
    IsStructure fields (.record members) := by
  have hothers : ∀ m ∈ ([] : List (String × Json)), m.1 ∉ fields.map (·.1) := by simp
  refine .object h hothers ?_
  rw [hmembers, List.append_nil]

/-! ### Looking up fields -/

lemma name_mem_of_mem_present {fields : List (String × Option Json)} {m : String × Json}
    (h : m ∈ present fields) : m.1 ∈ fields.map (·.1) := by
  obtain ⟨field, hmem, hvalue⟩ := List.mem_filterMap.1 h
  obtain ⟨j, -, rfl⟩ := Option.map_eq_some_iff.1 hvalue
  exact List.mem_map_of_mem hmem

lemma filter_eq_nil (h : ∀ m ∈ members, m.1 ≠ name) : members.filter (·.1 == name) = [] :=
  List.filter_eq_nil_iff.2 fun m hm => by simpa using h m hm

/-- Among the members for fields of different names there is one of a name at most, with its
value. -/
lemma filter_present {fields : List (String × Option Json)} (hnodup : (fields.map (·.1)).Nodup)
    (h : (name, value) ∈ fields) :
    (present fields).filter (·.1 == name) = (value.map (name, ·)).toList := by
  induction fields with
  | nil => simp at h
  | cons field fields ih =>
    obtain ⟨n, v⟩ := field
    obtain ⟨hfield, hfields⟩ := List.nodup_cons.1 hnodup
    have hcons : present ((n, v) :: fields) = (v.map (n, ·)).toList ++ present fields := by
      cases v <;> rfl
    rw [hcons, List.filter_append]
    rcases List.mem_cons.1 h with heq | hmem
    · cases heq
      rw [filter_eq_nil fun m hm => ne_of_mem_of_not_mem (name_mem_of_mem_present hm) hfield]
      cases value <;> simp
    · have hne : n ≠ name := (ne_of_mem_of_not_mem (List.mem_map_of_mem hmem) hfield).symm
      rw [ih hfields hmem, filter_eq_nil]
      · rfl
      · intro m hm
        obtain ⟨j, -, rfl⟩ := Option.map_eq_some_iff.1 (Option.mem_toList.1 hm)
        exact hne

/-- The order of members and members of other names change nothing of what a name has. -/
lemma filter_of_perm {fields : List (String × Option Json)} (hnodup : (fields.map (·.1)).Nodup)
    (hothers : ∀ m ∈ others, m.1 ∉ fields.map (·.1))
    (hmembers : members.Perm (present fields ++ others)) (h : (name, value) ∈ fields) :
    members.filter (·.1 == name) = (value.map (name, ·)).toList := by
  have hperm := hmembers.filter (·.1 == name)
  have hname : name ∈ fields.map (·.1) := List.mem_map_of_mem h
  rw [List.filter_append, filter_present hnodup h,
    filter_eq_nil fun m hm => (ne_of_mem_of_not_mem hname (hothers m hm)).symm,
    List.append_nil] at hperm
  cases value with
  | none => exact hperm.eq_nil
  | some j => exact hperm.eq_singleton

/-- The members of an object, as what its names denote. -/
def named (members : List (String × Json)) : List (JsonString × Json) :=
  members.map fun (name, value) => (some name, value)

lemma lookup_named (members : List (String × Json)) (name : String) :
    (named members).lookup (some name) =
      ((members.filter (·.1 == name)).head?).map (·.2) := by
  induction members with
  | nil => rfl
  | cons m members ih =>
    rw [named, List.map_cons, List.lookup_cons, List.filter_cons]
    by_cases hm : m.1 = name
    · simp [hm]
    · have hne : (some name == some m.1) = false := beq_false_of_ne fun h =>
        hm (Option.some.inj h).symm
      rw [hne, if_neg (by simpa using hm)]
      exact ih

lemma countP_named (members : List (String × Json)) (name : String) :
    (named members).countP (·.1 == some name) = (members.filter (·.1 == name)).length := by
  rw [named, List.countP_map, List.countP_eq_length_filter]
  rfl

/-- A name that no member or one member has, with its value. -/
lemma lookup_of_filter (h : members.filter (·.1 == name) = (value.map (name, ·)).toList) :
    (named members).lookup (some name) = value ∧
      (named members).countP (·.1 == some name) ≤ 1 := by
  rw [lookup_named, countP_named, h]
  cases value <;> simp

/-- What is found for fields of different names are their values. -/
lemma fields?_record {fields : List (String × Option Json)} (hnodup : (fields.map (·.1)).Nodup)
    (hothers : ∀ m ∈ others, m.1 ∉ fields.map (·.1))
    (hmembers : members.Perm (present fields ++ others)) :
    (record members).fields? (fields.map (·.1)) = some (fields.map (·.2)) := by
  have hfound : ∀ field ∈ fields, (named members).lookup (some field.1) = field.2 ∧
      (named members).countP (·.1 == some field.1) ≤ 1 := fun _ hfield =>
    lookup_of_filter (filter_of_perm hnodup hothers hmembers hfield)
  have htexts : (named members).all (·.1.isSome) := by
    simp [named]
  have hcount : (fields.map (·.1)).all fun name =>
      (named members).countP (·.1 == some name) ≤ 1 := by
    rw [List.all_map, List.all_eq_true]
    exact fun field hfield => decide_eq_true (hfound field hfield).2
  rw [record, Json.fields?, ← named, if_pos (by rw [htexts, hcount]; rfl), List.map_map]
  exact congrArg some (List.map_congr_left fun field hfield => (hfound field hfield).1)

/-- What a structure has for its fields follows their rules. -/
lemma IsStructure.fields? {fields : List (String × Rule)} (h : IsStructure fields j)
    (hnodup : (fields.map (·.1)).Nodup) :
    ∃ values, j.fields? (fields.map (·.1)) = some values ∧
      List.Forall₂ (fun field v => field.2 v) fields values := by
  cases h with
  | @object values others members h hothers hmembers =>
    refine ⟨values, ?_, h⟩
    have hlength : (fields.map (·.1)).length = values.length := by
      rw [List.length_map, h.length_eq]
    have hnames := List.map_fst_zip (Nat.le_of_eq hlength)
    have hvalues := List.map_snd_zip (Nat.le_of_eq hlength.symm)
    have hfields := fields?_record (hnames.symm ▸ hnodup) (hnames.symm ▸ hothers) hmembers
    rwa [hnames, hvalues] at hfields
  | @array items left h =>
    refine ⟨items.map some ++ .replicate left none, ?_, h⟩
    have hlength := h.length_eq
    simp only [List.length_append, List.length_map, List.length_replicate] at hlength
    have hleft : fields.length - items.length = left := by omega
    simp [Json.fields?, hleft]
    omega

/-! ### Structures without defaults -/

/-- Fields that are given these values. -/
def required (fields : List (String × Json)) : List (String × Rule) :=
  fields.map fun (name, j) => (name, Given False (· = j))

lemma isStructure_required (fields : List (String × Json)) :
    IsStructure (required fields) (.record fields) := by
  refine isStructure_record (fields.map fun field => some field.2) ?_ ?_
  · rw [required, List.forall₂_map_left_iff, List.forall₂_map_right_iff]
    exact List.forall₂_same.2 fun _ _ => Given.value rfl
  · rw [required, List.map_map, List.zip_map', present, List.filterMap_map]
    exact List.filterMap_some

/-- A structure without defaults has the values of its fields. -/
lemma IsStructure.fields?_required {fields : List (String × Json)}
    (h : IsStructure (required fields) j) (hnodup : (fields.map (·.1)).Nodup) :
    j.fields? (fields.map (·.1)) = some (fields.map fun field => some field.2) := by
  have hnames : (required fields).map (·.1) = fields.map (·.1) := by
    rw [required, List.map_map]
    rfl
  obtain ⟨values, hfields, hvalues⟩ := h.fields? (hnames ▸ hnodup)
  have hgiven : List.Forall₂ (fun field v => some field.2 = v) fields values := by
    rw [required, List.forall₂_map_left_iff] at hvalues
    refine hvalues.imp fun field v hv => ?_
    obtain ⟨_, rfl, rfl⟩ := hv.exists_eq
    rfl
  rw [← List.forall₂_map_left_iff (R := (· = ·)), List.forall₂_eq_eq_eq] at hgiven
  rw [← hnames, hfields, hgiven]

/-! ### Reading fields -/

/-- A list may be written as the array of what its items may be written as. -/
inductive IsList (P : α → Json → Prop) (as : List α) : Json → Prop
  | array {items : List Json} (h : List.Forall₂ P as items) : IsList P as (.array items)

/-- What may be missing is written as null, or as a value where it is not. -/
inductive IsOption (P : α → Json → Prop) : Option α → Json → Prop
  | null : IsOption P none .null
  | value {a : α} {j : Json} (h : P a j) : IsOption P (some a) j

variable {P : α → Json → Prop} {read : Json → Option α} {v : Option Json}

lemma orDefault_of_given {Q : Json → Prop} {a default : α} (h : Given (a = default) Q v)
    (hread : ∀ j, Q j → read j = some a) : orDefault default read v = some a := by
  cases h with
  | value h => exact hread _ h
  | leftOut h => rw [orDefault, h]

lemma asList?_of_isList {as : List α} (h : IsList P as j)
    (hread : ∀ a ∈ as, ∀ j, P a j → read j = some a) : asList? read j = some as := by
  cases h with
  | array h =>
    rw [asList?]
    induction h with
    | nil => rfl
    | cons hitem _ ih =>
      obtain ⟨ha, has⟩ := List.forall_mem_cons.1 hread
      rw [List.mapM_cons, ha _ hitem, ih has]
      rfl

/-- What reads no null reads a value that may be missing. -/
lemma asOption?_of_isOption {o : Option α} (h : IsOption P o j) (hnull : read .null = none)
    (hread : ∀ a ∈ o, ∀ j, P a j → read j = some a) : asOption? read j = some o := by
  cases h with
  | null => rfl
  | @value a j h =>
    have hj := hread a rfl j h
    have hne : j ≠ .null := by
      rintro rfl
      rw [hnull] at hj
      cases hj
    rw [asOption?.eq_2 _ _ hne, hj]
    rfl

lemma asInteger?_of_fitsWord {n : Int} (h : Text.FitsWord n) :
    asInteger? (.integer n) = some n :=
  if_pos h

end DemoQuery.Json
