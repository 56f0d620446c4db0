import DemoQuery.Clause
import DemoQuery.Config
import DemoQuery.Json

/-!
# Why a command fails

Each way in which a command fails, with the message, the code and the exit code for it.
-/

namespace DemoQuery

/-- Why a file of records cannot be used. -/
inductive RecordsError where
  | unreadable (path : String) (failure : Disk.ReadFailure)
  /-- The file does not hold a list of records. -/
  | malformed (path : String)
  deriving DecidableEq, Repr

/-- Why a command fails. -/
inductive CommandError where
  | filter (error : FilterError)
  | records (error : RecordsError)
  | config (error : ConfigError)
  deriving DecidableEq, Repr

/-- What the user is told. -/
def RecordsError.message : RecordsError → String
  | .unreadable path failure => "Failed to read " ++ path ++ ": " ++ failure.message
  | .malformed path          => "Failed to parse " ++ path ++ ": this is no list of records"

namespace CommandError

/-- What the user is told. -/
def message : CommandError → String
  | .filter error  => "filter error: " ++ error.message
  | .records error => "records error: " ++ error.message
  | .config error  => "configuration error: " ++ error.message

/-- The code by which programs tell failures apart (`error_code`). -/
def code : CommandError → String
  | .filter _  => "FILTER_ERROR"
  | .records _ => "RECORDS_ERROR"
  | .config _  => "CONFIG_ERROR"

/-- The exit code (`error_exit_code`). -/
def exitCode : CommandError → Nat
  | .filter _  => 1
  | .records _ => 3
  | .config _  => 5

/-- A failure in JSON. -/
def json (e : CommandError) : Json :=
  .record [("error", .record [("code", .text e.code), ("message", .text e.message)])]

/-- The report of a failure. -/
def report (e : CommandError) (json : Bool) : String :=
  if json then e.json.pretty ++ "\n" else "Error: " ++ e.message ++ "\n"

end CommandError

end DemoQuery
