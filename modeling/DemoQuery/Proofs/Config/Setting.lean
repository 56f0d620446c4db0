import DemoQuery.Config
import Mathlib.Tactic.Lemma

/-!
# Settings that have been made

What a key and a value can ask for, and what settings come to when several have been made one after
the other: the last value of each key counts.
-/

namespace DemoQuery

variable {key value : String} {setting : Setting} {c : Config} {made : List (String × String)}

/-! ### Keys and values -/

/-- The settings that a key and a value can ask for. -/
inductive Setting.Asked : String → String → Setting → Prop
  | records (value : String) : Asked "records" value (.records value)
  | demoDirectory (value : String) : Asked "demo_dir" value (.demoDirectory value)
  | colour {value : String} {on : Bool} (h : readBoolean? value = some on) :
      Asked "output.color" value (.colour on)

lemma Setting.asked_of_ofPair (h : ofPair key value = .ok setting) : Asked key value setting := by
  unfold ofPair at h
  split at h
  · obtain rfl := Except.ok.inj h
    exact .records value
  · obtain rfl := Except.ok.inj h
    exact .demoDirectory value
  · split at h
    · next on hon =>
      obtain rfl := Except.ok.inj h
      exact .colour hon
    · cases h
  · cases h

/-! ### One after the other -/

/-- The last value that has been set for a key. -/
def lastValue? (key : String) (made : List (String × String)) : Option String :=
  made.reverse.lookup key

lemma lastValue?_append_self : lastValue? key (made ++ [(key, value)]) = some value := by
  simp [lastValue?]

lemma lastValue?_append_of_ne {other : String} (h : other ≠ key) :
    lastValue? other (made ++ [(key, value)]) = lastValue? other made := by
  have hbeq : (other == key) = false := by simpa using h
  simp [lastValue?, List.lookup_cons, hbeq]

/-- Some settings after others have been made: of each key the last value counts. -/
def Config.withMade (c : Config) (made : List (String × String)) : Config where
  records       := (lastValue? "records" made).or c.records
  demoDirectory := (lastValue? "demo_dir" made).or c.demoDirectory
  colour        := ((lastValue? "output.color" made).bind readBoolean?).or c.colour

@[simp] lemma Config.withMade_nil (c : Config) : c.withMade [] = c := rfl

lemma Config.withMade_append (h : Setting.ofPair key value = .ok setting) :
    c.withMade (made ++ [(key, value)]) = (c.withMade made).set setting := by
  cases Setting.asked_of_ofPair h with
  | records value =>
    simp only [withMade, set, lastValue?_append_self, Option.some_or]
    rw [lastValue?_append_of_ne (by decide), lastValue?_append_of_ne (by decide)]
  | demoDirectory value =>
    simp only [withMade, set, lastValue?_append_self, Option.some_or]
    rw [lastValue?_append_of_ne (by decide), lastValue?_append_of_ne (by decide)]
  | colour hon =>
    simp only [withMade, set, lastValue?_append_self, Option.bind_some, hon, Option.some_or]
    rw [lastValue?_append_of_ne (by decide), lastValue?_append_of_ne (by decide)]

end DemoQuery
