import DemoQuery.Proofs.ByteSize.Rounding
import DemoQuery.Proofs.Text.Numeral
import Mathlib.Algebra.Order.Field.Rat
import Mathlib.Tactic.Linarith

/-!
# Sizes as shown

What the text of a size denotes, read off its characters: a whole number of bytes, or a number with
one decimal place and the unit that it counts. A text denotes one number of bytes at most, and the
text of a size denotes what is shown of it.
-/

namespace DemoQuery

open Text

variable {unit : SizeUnit}

/-! ### What a text denotes -/

/-- `unit.Denotes name bytes`: the name and the number of bytes of a unit, a power of 1024. -/
inductive SizeUnit.Denotes : SizeUnit → String → Nat → Prop
  | kibi : Denotes .kibi "KiB" 1024
  | mebi : Denotes .mebi "MiB" 1048576
  | gibi : Denotes .gibi "GiB" 1073741824
  | tebi : Denotes .tebi "TiB" 1099511627776

/-- `ShownIn t x unit`: the text `t` is the number `x` with one decimal place, a blank and the name
of the unit. -/
inductive ShownIn : String → ℚ → SizeUnit → Prop
  | mk {ds : List Char} {d : Char} {unit : SizeUnit} {name : String} {bytes : Nat}
      (hds : IsDigits ds) (hd : d.isDigit) (hunit : unit.Denotes name bytes) :
      ShownIn (.ofList (ds ++ '.' :: d :: ' ' :: name.toList))
        (placeValue ds + placeValue [d] / 10) unit

/-- `ShowsBytes t q`: the text `t` denotes `q` bytes, as a whole number of them or in a unit. -/
inductive ShowsBytes : String → ℚ → Prop
  | bytes {cs : List Char} {n : Int} (h : Numeral cs n) : ShowsBytes (.ofList (cs ++ [' ', 'B'])) n
  | scaled {t : String} {x : ℚ} {unit : SizeUnit} {name : String} {bytes : Nat}
      (h : ShownIn t x unit) (hunit : unit.Denotes name bytes) : ShowsBytes t (x * bytes)

namespace SizeUnit

variable {name : String} {bytes : Nat}

lemma denotes_iff : unit.Denotes name bytes ↔ name = unit.name ∧ bytes = unit.bytes := by
  constructor
  · intro h
    cases h <;> exact ⟨rfl, rfl⟩
  · rintro ⟨rfl, rfl⟩
    cases unit with
    | kibi => exact .kibi
    | mebi => exact .mebi
    | gibi => exact .gibi
    | tebi => exact .tebi

lemma denotes (unit : SizeUnit) : unit.Denotes unit.name unit.bytes :=
  denotes_iff.2 ⟨rfl, rfl⟩

lemma name_inj {unit' : SizeUnit} (h : unit.name = unit'.name) : unit = unit' := by
  have hall : ∀ u v : SizeUnit, u.name = v.name → u = v := by
    intro u v
    cases u <;> cases v <;> decide
  exact hall unit unit' h

end SizeUnit

/-- A text shows one number in one unit at most. -/
lemma ShownIn.unique {t : String} {x x' : ℚ} {unit' : SizeUnit} (h : ShownIn t x unit)
    (h' : ShownIn t x' unit') : x = x' ∧ unit = unit' := by
  generalize ht : t = s at h'
  cases h with
  | mk hds hd hunit =>
    cases h' with
    | mk hds' hd' hunit' =>
      have hpoint (cs : List Char) : StopsAt Char.isDigit ('.' :: cs) := stopsAt_cons.2 (by decide)
      obtain ⟨rfl, hbehind⟩ :=
        run_append_inj hds.2 hds'.2 (hpoint _) (hpoint _) (String.ofList_inj.1 ht)
      simp only [List.cons.injEq, true_and] at hbehind
      obtain ⟨rfl, hname⟩ := hbehind
      rw [(SizeUnit.denotes_iff.1 hunit).1, (SizeUnit.denotes_iff.1 hunit').1] at hname
      exact ⟨rfl, SizeUnit.name_inj (String.toList_inj.1 hname)⟩

/-- A whole number of bytes is not read as a number in a unit: no name of a unit is a `B` alone. -/
lemma ShownIn.ne_bytes {x : ℚ} {cs : List Char} (h : ShownIn (.ofList (cs ++ [' ', 'B'])) x unit) :
    False := by
  generalize ht : String.ofList (cs ++ [' ', 'B']) = t at h
  cases h with
  | mk hds hd hunit =>
    have hends := congrArg (fun l => l.reverse.take 2) (String.ofList_inj.1 ht)
    cases hunit <;> simp at hends

/-- A text denotes one number of bytes at most. -/
lemma ShowsBytes.unique {t : String} {q q' : ℚ} (h : ShowsBytes t q) (h' : ShowsBytes t q') :
    q = q' := by
  cases h with
  | @bytes cs n h =>
    generalize ht : String.ofList (cs ++ [' ', 'B']) = s at h'
    cases h' with
    | bytes h' =>
      obtain rfl := List.append_cancel_right (String.ofList_inj.1 ht)
      rw [h.unique h']
    | scaled h' hunit' =>
      rw [← ht] at h'
      exact h'.ne_bytes.elim
  | scaled h hunit =>
    generalize ht : t = s at h'
    cases h' with
    | bytes h' =>
      rw [ht] at h
      exact h.ne_bytes.elim
    | scaled h' hunit' =>
      rw [ht] at h
      obtain ⟨rfl, rfl⟩ := h.unique h'
      rw [(SizeUnit.denotes_iff.1 hunit).2, (SizeUnit.denotes_iff.1 hunit').2]

/-! ### The texts of sizes -/

lemma showsBytes_text_bytes (n : Int) : ShowsBytes (ShownSize.bytes n).text n := by
  have htext : (ShownSize.bytes n).text = .ofList ((ofInteger n).toList ++ [' ', 'B']) := by
    apply String.toList_inj.1
    simp [ShownSize.text]
  rw [htext]
  exact .bytes (numeral_ofInteger n)

lemma shownIn_text_scaled (tenths : Nat) (unit : SizeUnit) :
    ShownIn (ShownSize.scaled tenths unit).text (tenths / 10) unit := by
  have hplace : Nat.toDigits 10 (tenths % 10) = [Nat.digitChar (tenths % 10)] :=
    Nat.toDigits_of_lt_base (Nat.mod_lt _ (by decide))
  have htext : (ShownSize.scaled tenths unit).text =
      .ofList (Nat.toDigits 10 (tenths / 10) ++
        '.' :: Nat.digitChar (tenths % 10) :: ' ' :: unit.name.toList) := by
    apply String.toList_inj.1
    simp [ShownSize.text, Nat.repr, hplace]
  have hvalue : (tenths : ℚ) / 10 = placeValue (Nat.toDigits 10 (tenths / 10)) +
      placeValue [Nat.digitChar (tenths % 10)] / 10 := by
    rw [← hplace, placeValue_toDigits, placeValue_toDigits]
    have hsplit : ((10 * (tenths / 10) + tenths % 10 : Nat) : ℚ) = tenths := by
      rw [Nat.div_add_mod]
    push_cast at hsplit
    linarith
  rw [htext, hvalue]
  exact .mk (isDigits_toDigits _) (isRun_toDigits (tenths % 10) _ (by simp [hplace])) unit.denotes

end DemoQuery
