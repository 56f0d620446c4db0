import DemoQuery.Proofs.EditDistance
import DemoQuery.Proofs.Query.Refusals
import Mathlib.Data.List.Pairwise

/-!
# Suggestions

The key that is suggested for a name is the first of those that the fewest edits make of its small
form, if these are few enough. Any two keys are at least three edits apart. So a name whose small
form is one edit away from a key is nearer to this key than to any other.
-/

namespace DemoQuery

open Text

variable {name : String} {k k' : Key}

/-! ### The first of the nearest -/

/-- What is least under `f` is the first element with the least value. -/
lemma minOn?_eq_some_iff {α : Type} {f : α → Nat} {xs : List α} {a : α} :
    xs.minOn? f = some a ↔ ∃ before after, xs = before ++ a :: after ∧
      (∀ b ∈ before, f a < f b) ∧ ∀ b ∈ after, f a ≤ f b := by
  constructor
  · intro h
    induction xs generalizing a with
    | nil => cases h
    | cons x xs ih =>
      rw [List.minOn?_cons] at h
      cases hxs : xs.minOn? f with
      | none =>
        obtain rfl : xs = [] := by
          by_contra hne
          rw [List.minOn?_eq_some_minOn hne] at hxs
          cases hxs
        obtain rfl : x = a := by simpa using h
        exact ⟨[], [], rfl, by simp, by simp⟩
      | some b =>
        obtain ⟨before, after, rfl, hbefore, hafter⟩ := ih hxs
        rw [hxs] at h
        have hmin : minOn f x b = a := Option.some.inj h
        by_cases hle : f x ≤ f b
        · obtain rfl : x = a := (minOn_eq_left hle).symm.trans hmin
          refine ⟨[], before ++ b :: after, rfl, by simp, ?_⟩
          intro c hc
          rcases List.mem_append.1 hc with hc | hc
          · exact hle.trans (hbefore c hc).le
          · rcases List.mem_cons.1 hc with rfl | hc
            · exact hle
            · exact hle.trans (hafter c hc)
        · obtain rfl : b = a := (minOn_eq_right hle).symm.trans hmin
          refine ⟨x :: before, after, rfl, ?_, hafter⟩
          intro c hc
          rcases List.mem_cons.1 hc with rfl | hc
          · exact Nat.lt_of_not_le hle
          · exact hbefore c hc
  · rintro ⟨before, after, rfl, hbefore, hafter⟩
    induction before with
    | nil =>
      rw [List.nil_append, List.minOn?_cons]
      cases hrest : after.minOn? f with
      | none => rfl
      | some b =>
        have hb := hafter b (List.minOn?_mem hrest)
        exact congrArg some (minOn_eq_left hb)
    | cons b before ih =>
      have hb : ¬ f b ≤ f a := Nat.not_le.2 (hbefore b (by simp))
      rw [List.cons_append, List.minOn?_cons, ih fun c hc => hbefore c (by simp [hc])]
      exact congrArg some (minOn_eq_right hb)

/-! ### What is suggested -/

/-- `Key.Suggests name s`: `s` is the first of the keys that the fewest edits make of the small form
of `name`, and so few that something of it is kept. -/
inductive Key.Suggests (name : String) : String → Prop
  | mk {before after : List Key} {k : Key} {d : Nat} (hk : Key.all = before ++ k :: after)
      (hname : k.name ≠ name) (hedits : Edits d (lower name.toList) k.name.toList) (hnear : d ≤ 3)
      (hkept : d < (lower name.toList).length)
      (hnearest : ∀ k' ∈ Key.all, ∀ n, Edits n (lower name.toList) k'.name.toList → d ≤ n)
      (hfirst : ∀ k' ∈ before, ∀ n, Edits n (lower name.toList) k'.name.toList → d < n) :
      Suggests name k.name

/-- No sequence of edits to a key is shorter than its distance. -/
lemma Key.le_distance_iff {d : Nat} :
    d ≤ k.distance name ↔ ∀ n, Edits n (lower name.toList) k.name.toList → d ≤ n := by
  constructor
  · intro h n hn
    exact h.trans hn.editDistance_le
  · intro h
    exact h _ (edits_editDistance _ _)

lemma Key.suggests_of_suggest? {s : String} (h : suggest? name = some s) : Suggests name s := by
  obtain ⟨k, hmin, hk⟩ := Option.bind_eq_some_iff.1 h
  split at hk
  · next hcond =>
    obtain ⟨hnear, hkept, hname⟩ := hcond
    obtain rfl := Option.some.inj hk
    obtain ⟨before, after, hall, hbefore, hafter⟩ := minOn?_eq_some_iff.1 hmin
    apply Suggests.mk hall hname (edits_editDistance _ _) hnear hkept
    · intro k' hk'
      apply le_distance_iff.1
      rw [hall] at hk'
      rcases List.mem_append.1 hk' with hk' | hk'
      · exact (hbefore k' hk').le
      · rcases List.mem_cons.1 hk' with rfl | hk'
        · exact le_rfl
        · exact hafter k' hk'
    · intro k' hk'
      exact le_distance_iff.1 (hbefore k' hk')
  · cases hk

lemma Key.Suggests.suggest? {s : String} (h : Suggests name s) : suggest? name = some s := by
  cases h with
  | @mk before after k d hall hname hedits hnear hkept hnearest hfirst =>
    have hd : k.distance name = d := by
      apply Nat.le_antisymm hedits.editDistance_le
      exact hnearest k (by simp [hall]) _ (edits_editDistance _ _)
    have hmin : Key.all.minOn? (Key.distance name) = some k := by
      rw [minOn?_eq_some_iff]
      refine ⟨before, after, hall, ?_, ?_⟩
      · intro k' hk'
        rw [hd]
        exact le_distance_iff.2 (hfirst k' hk')
      · intro k' hk'
        rw [hd]
        exact le_distance_iff.2 (hnearest k' (by simp [hall, hk']))
    rw [Key.suggest?, hmin, Option.bind_some, hd, if_pos ⟨hnear, hkept, hname⟩]

/-! ### Names close to a key -/

/-- Three edits at least lead from one key to another. -/
lemma Key.three_le_editDistance (hk : k ∈ all) (hk' : k' ∈ all) (hne : k.name ≠ k'.name) :
    3 ≤ editDistance k.name.toList k'.name.toList := by
  have hpairs : (all.map (·.name.toList)).Pairwise fun s t => 3 ≤ editDistance s t := by
    decide +kernel
  have hsymm : Std.Symm fun s t : List Char => 3 ≤ editDistance s t :=
    ⟨fun s t h => editDistance_comm s t ▸ h⟩
  apply hpairs.forall
  · exact List.mem_map_of_mem hk
  · exact List.mem_map_of_mem hk'
  · exact fun h => hne (String.toList_inj.1 h)

lemma Key.three_le_length (hk : k ∈ all) : 3 ≤ k.name.toList.length := by
  have hall : ∀ k ∈ all, 3 ≤ k.name.toList.length := by decide +kernel
  exact hall k hk

/-- A key that is nearer than any other, and near enough, is suggested. -/
lemma Key.suggest?_of_nearest (hk : k ∈ all) (hname : k.name ≠ name)
    (hnear : k.distance name ≤ 3) (hkept : k.distance name < (lower name.toList).length)
    (hnearest : ∀ k' ∈ all, k'.name ≠ k.name → k.distance name < k'.distance name) :
    suggest? name = some k.name := by
  obtain ⟨before, after, hall⟩ := List.append_of_mem hk
  have hnodup : (Key.all.map (·.name)).Nodup := by decide
  rw [hall, List.map_append, List.nodup_append] at hnodup
  apply Suggests.suggest?
  apply Suggests.mk hall hname (edits_editDistance _ _) hnear hkept
  · intro k' hk'
    apply le_distance_iff.1
    by_cases hkk : k'.name = k.name
    · exact (congrArg (editDistance (lower name.toList) ·.toList) hkk.symm).le
    · exact (hnearest k' hk' hkk).le
  · intro k' hk'
    apply le_distance_iff.1
    apply hnearest k'
    · rw [hall]
      exact List.mem_append_left _ hk'
    · exact hnodup.2.2 k'.name (List.mem_map_of_mem hk') k.name (by simp)

/-- A name whose small form is a key is at no distance from it and at a distance from the others. -/
lemma Key.suggest?_of_lower_eq (hk : k ∈ all) (hname : k.name ≠ name)
    (h : lower name.toList = k.name.toList) : suggest? name = some k.name := by
  have hd : k.distance name = 0 := by rw [distance, h, editDistance_self]
  have hlength := three_le_length hk
  apply suggest?_of_nearest hk hname
  · omega
  · rw [h]; omega
  · intro k' hk' hne
    have hapart := three_le_editDistance hk hk' hne.symm
    rw [hd, distance, h]
    omega

/-- One edit leads to a key and so at least two to every other. -/
lemma Key.suggest?_of_edit (hk : k ∈ all) (hname : k.name ≠ name)
    (h : Edit (lower name.toList) k.name.toList) : suggest? name = some k.name := by
  have hd : k.distance name ≤ 1 := (Edits.cons h (.refl _)).editDistance_le
  have hlength := three_le_length hk
  have hedit := h.length_le
  apply suggest?_of_nearest hk hname
  · omega
  · omega
  · intro k' hk' hne
    have hapart := three_le_editDistance hk hk' hne.symm
    have hstep : editDistance k.name.toList k'.name.toList ≤ k'.distance name + 1 :=
      h.symm.editDistance_le _
    omega

/-- A name that is not a key, but whose small form is one or becomes one by a single edit, is
answered with this key. What is suggested for a name is always the first of the nearest keys, not
the name itself, at most three edits away and fewer than its small form has characters; so it is
wherever clauses are refused for an unknown key. -/
theorem Key.suggest?_corrects_typos :
    (∀ name, ∀ k ∈ Key.all, name ≠ k.name →
        lower name.toList = k.name.toList ∨ Edit (lower name.toList) k.name.toList →
        suggest? name = some k.name) ∧
      (∀ name s, suggest? name = some s ↔ Suggests name s) ∧
      ∀ clauses name suggestion,
        Query.ofClauses clauses = .error (.unknownKey name suggestion) →
        suggestion = suggest? name ∧ ∀ s ∈ suggestion, Suggests name s := by
  refine ⟨?_, ?_, ?_⟩
  · intro name k hk hname hclose
    rcases hclose with hlower | hedit
    · exact suggest?_of_lower_eq hk hname.symm hlower
    · exact suggest?_of_edit hk hname.symm hedit
  · intro name s
    exact ⟨suggests_of_suggest?, Suggests.suggest?⟩
  · intro clauses name suggestion h
    obtain ⟨before, c, after, -, -, hc⟩ := Query.ofClauses_eq_error_iff.1 h
    cases Clause.requirement_eq_error_iff.1 hc with
    | unknownKey _ =>
      refine ⟨rfl, ?_⟩
      intro s hs
      exact suggests_of_suggest? hs

/-- A key with a capital and a letter too many, one with a letter replaced by one of another script,
and a clause that is refused with a suggestion. -/
theorem Key.suggest?_corrects_typos_host_name :
    suggest? "Host_name" = some "hostname" ∧ suggest? "m\u0430p" = some "map" ∧
      Suggests "NAME" "name" := by
  obtain ⟨htypo, -, herror⟩ := suggest?_corrects_typos
  refine ⟨?_, ?_, ?_⟩
  · refine htypo "Host_name" ⟨"hostname", .text .hostname, { header := true }⟩ (by decide)
      (by decide) (.inr ?_)
    have hlower : lower "Host_name".toList = "host".toList ++ '_' :: "name".toList := by
      decide +kernel
    rw [hlower]
    exact .delete "host".toList "name".toList '_'
  · refine htypo "m\u0430p" ⟨"map", .text .mapName, { header := true }⟩ (by decide) (by decide)
      (.inr ?_)
    have hlower : lower "m\u0430p".toList = ['m'] ++ '\u0430' :: ['p'] := by decide +kernel
    rw [hlower]
    exact .replace ['m'] ['p'] '\u0430' 'a'
  · have herr : Query.ofClauses [⟨"NAME", true, .list []⟩] =
        .error (.unknownKey "NAME" (suggest? "NAME")) := by
      rw [Query.ofClauses_singleton_eq_error_iff, Clause.requirement_eq_error_iff]
      exact .unknownKey (by decide)
    have hname : some "name" = suggest? "NAME" := by decide +kernel
    exact (herror _ _ _ herr).2 "name" (Option.mem_def.2 hname.symm)

end DemoQuery
