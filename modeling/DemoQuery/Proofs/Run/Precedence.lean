import DemoQuery.Proofs.Run.Colours

/-!
# Which failure a run reports

A search can fail for several reasons at once, and which of them is reported does not depend on
chance: the settings come first, then the filter, then the path of the records, then the records.
Checking a filter and listing the keys do not fail for the settings at all.
-/

namespace DemoQuery

variable {env : Environment} {disk : Disk} {c : Config} {o : OutputOptions}
variable {s : Search} {arguments arguments' : List String} {outcome : Outcome}

open Program

/-! ### Failures -/

/-- What is reported of a failure: its code and its message in JSON if that is asked for, else a
line with its message. -/
def failureText (asJson : Bool) (code message : String) : String :=
  if asJson then
    (Json.record [("error", .record [("code", .text code), ("message", .text message)])]).pretty ++
      "\n"
  else "Error: " ++ message ++ "\n"

example : failureText true "FILTER_ERROR" "unknown" = "\x7b\n  \"error\": \x7b\n" ++
    "    \"code\": \"FILTER_ERROR\",\n    \"message\": \"unknown\"\n  \x7d\n\x7d\n" := by
  decide +kernel

/-- A run fails with an error of some code: its exit code says so, it has printed nothing, and it
reports the code and the message. -/
structure Outcome.Fails (outcome : Outcome) (o : OutputOptions) (error : CommandError)
    (exitCode : Nat) (code message : String) : Prop where
  eq_failed   : outcome = .failed error ⟨"", failureText o.json code message⟩
  code_eq     : error.code = code
  exitCode_eq : outcome.exitCode = exitCode
  output_eq   : outcome.output = ""
  report_eq   : outcome.report = failureText o.json code message

/-- What a search prints of the records that it finds under some settings. -/
def listingText (o : OutputOptions) (c : Config) (rs : List Record) : String :=
  if o.json then (Report.recordsJson rs).pretty ++ "\n"
  else if o.quiet then ""
  else Report.recordTable (!o.noColour && c.colour.getD true) rs

/-- A run succeeds and lists some records under some settings. -/
structure Outcome.Lists (outcome : Outcome) (o : OutputOptions) (c : Config) (rs : List Record) :
    Prop where
  eq_done     : outcome = .done (listingText o c rs)
  exitCode_eq : outcome.exitCode = 0
  output_eq   : outcome.output = listingText o c rs
  report_eq   : outcome.report = ""

/-- How a search ends: each reason to fail counts only if those in front of it do not. -/
inductive Search.Ends (s : Search) (o : OutputOptions) (env : Environment) (disk : Disk)
    (outcome : Outcome) : Prop
  | settings {e : ConfigError} (he : env.FailsToLoad disk e)
      (hfails : outcome.Fails o (.config e) 5 "CONFIG_ERROR" ("configuration error: " ++ e.message))
  | filter {c : Config} {e : FilterError} (hc : env.Loads disk c)
      (he : Query.parse s.filter = .error e)
      (hfails : outcome.Fails o (.filter e) 1 "FILTER_ERROR" ("filter error: " ++ e.message))
  | noRecords {c : Config} {q : Query} (hc : env.Loads disk c) (hq : Query.parse s.filter = .ok q)
      (hs : s.records = none) (hrecords : c.records = none)
      (hfails : outcome.Fails o (.config .noRecords) 5 "CONFIG_ERROR"
        ("configuration error: " ++ ConfigError.noRecords.message))
  | unreadable {c : Config} {q : Query} {path : String} {failure : Disk.ReadFailure}
      (hc : env.Loads disk c) (hq : Query.parse s.filter = .ok q)
      (hpath : s.records.or c.records = some path) (hread : disk.read path = .error failure)
      (hfails : outcome.Fails o (.records (.unreadable path failure)) 3 "RECORDS_ERROR"
        ("records error: " ++ (RecordsError.unreadable path failure).message))
  | malformed {c : Config} {q : Query} {path text : String} (hc : env.Loads disk c)
      (hq : Query.parse s.filter = .ok q) (hpath : s.records.or c.records = some path)
      (hread : disk.read path = .ok text) (hrecords : Record.parseAll? text = none)
      (hfails : outcome.Fails o (.records (.malformed path)) 3 "RECORDS_ERROR"
        ("records error: " ++ (RecordsError.malformed path).message))
  | found {c : Config} {q : Query} {path text : String} {rs xs : List Record}
      (hc : env.Loads disk c) (hq : Query.parse s.filter = .ok q)
      (hpath : s.records.or c.records = some path) (hread : disk.read path = .ok text)
      (hrecords : Record.parseAll? text = some rs)
      (hxs : xs = s.cut (q.select disk.stat (s.demoDirectory.or c.demoDirectory) rs))
      (hlists : outcome.Lists o c xs)

namespace Search

end Search

end DemoQuery
