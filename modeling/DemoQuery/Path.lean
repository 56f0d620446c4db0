/-!
# Paths

Paths are texts with steps between slashes. An empty step and a step of one dot stay where they
are, and a step of two dots goes back to the directory around. Nothing is found at a path that is
too long, nor behind a step that is.
-/

namespace DemoQuery.Path

/-- The steps of a path, from the first to the last. -/
def steps (path : String) : List String :=
  (path.toList.splitOn '/').map .ofList

/-- Whether a step stays where it is. -/
def isStay (step : String) : Bool :=
  step == "" || step == "."

/-- The steps of a path before the last one that leads somewhere, up to one that does. -/
def directory (path : String) : String :=
  let around := ((steps path).reverse.dropWhile isStay).tail
  "/".intercalate (around.dropWhile isStay).reverse

/-- The last step of a path that leads somewhere, unless that is back. -/
def fileName? (path : String) : Option String :=
  match (steps path).reverse.dropWhile isStay with
  | []        => none
  | name :: _ => if name = ".." then none else some name

/-- The path of a name in a directory. -/
def join (directory name : String) : String :=
  if directory = "" ∨ directory.toList.getLast? = some '/' then directory ++ name
  else directory ++ "/" ++ name

/-! ### Length -/

/-- The most bytes that a path has. -/
def maxBytes : Nat := 4095

/-- The most bytes that a step has. -/
def maxStepBytes : Nat := 255

/-- Whether a step is short enough to be a name. -/
def isShortStep (step : String) : Bool :=
  step.utf8ByteSize ≤ maxStepBytes

/-- Whether a path is short enough as a whole. -/
def isShort (path : String) : Bool :=
  path.utf8ByteSize ≤ maxBytes

end DemoQuery.Path
