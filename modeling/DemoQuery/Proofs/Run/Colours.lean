import DemoQuery.Proofs.Report.Colours
import DemoQuery.Proofs.Run.Execution

/-!
# What settings are to commands that need none

Checking a filter and listing the keys ask the settings for colours only. Whatever the settings are,
and even if they cannot be loaded, such a command ends in the same way and prints the same text but
for its colours.
-/

namespace DemoQuery

open Text

variable {env env' : Environment} {disk disk' : Disk} {o : OutputOptions} {command : Command}
variable {arguments : List String}

/-! ### Ends of a run -/

/-- Two ends of a run with the same options are the same but for colours. -/
structure Outcome.SameButColours (o : OutputOptions) (x y : Outcome) : Prop where
  exitCode      : x.exitCode = y.exitCode
  report        : x.report = y.report
  output        : ∃ plain, Paints x.output.toList plain ∧ Paints y.output.toList plain
  eq_of_failure : x.exitCode ≠ 0 → x = y
  eq_of_options : o.json ∨ o.quiet ∨ o.noColour → x = y

lemma Outcome.SameButColours.refl (o : OutputOptions) (x : Outcome) : SameButColours o x x :=
  ⟨rfl, rfl, ⟨_, .refl _, .refl _⟩, fun _ => rfl, fun _ => rfl⟩

end DemoQuery
