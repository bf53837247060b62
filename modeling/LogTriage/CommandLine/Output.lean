import LogTriage.AnalysisRun
import LogTriage.CommandLine.Help
import LogTriage.CommandLine.Options
import LogTriage.Json.Printer
import LogTriage.Report.Basic

/-!
# Output

What is written about the runs, as text or as one JSON document, and the exit code that sums them
up.
-/

namespace LogTriage.CommandLine

/-- What the program leaves behind. -/
structure Outcome where
  exitCode : Nat := 0
  stdout : String := ""
  stderr : String := ""
deriving DecidableEq, Inhabited

/-- All logs were read to a clean end. -/
def exitOk : Nat := 0
/-- Something around the logs went wrong. -/
def exitError : Nat := 1
/-- A log ended on a fatal status. -/
def exitRejected : Nat := 2
/-- The arguments cannot be understood. -/
def exitUsage : Nat := 2

def Outcome.failed (message : String) : Outcome :=
  { exitCode := exitError, stderr := "Error: " ++ message ++ "\n" }

/-- The run of one file, or why there is none. -/
structure FileResult where
  path : String
  run : Except TriageError AnalysisRun

def exitCode (results : List FileResult) : Nat :=
  if results.any (fun r => r.run matches .error _) then exitError
  else if results.any (fun r => r.run.toOption.any (·.status.isFatal)) then exitRejected
  else exitOk

/-! ### Text -/

def structuredLines (report : StructuredReport) : List String :=
  ["# " ++ report.title] ++ report.notes.map (fun note => "(" ++ note ++ ")")
    ++ report.sections.flatMap fun s => ["## " ++ s.name, s.body]

/-- What the best-effort report of an unfinished section says. -/
def unfinishedLines (builder : ReportBuilder) (format : Format) (status : Status) (a : Analysis) :
    List String :=
  match format with
  | .structured => structuredLines (builder.structured a)
  | _ => builder.bestEffort a status

def sectionLines (builder : ReportBuilder) (format : Format) (a : Analysis) : List String :=
  match format with
  | .structured => structuredLines (builder.structured a)
  | _ => builder.plainText a

/-- What is said of the status that ended a run. -/
def endLines (builder : ReportBuilder) (options : Options) (run : AnalysisRun) : List String :=
  match run.status with
  | .piracy _ => (run.unfinished.bind builder.piracyNotice).toList
  | status =>
    if status.isFatal then
      let unfinished := if options.bestEffort then run.unfinished else none
      [status.text]
        ++ (unfinished.map (unfinishedLines builder options.format status)).getD []
    else []

def runLines (builder : ReportBuilder) (options : Options) (path : String) (run : AnalysisRun) :
    List String :=
  ["== " ++ path ++ " [" ++ run.status.name ++ "]"]
    ++ run.sections.flatMap (sectionLines builder options.format)
    ++ endLines builder options run
    ++ [""]

def textOutcome (builder : ReportBuilder) (options : Options) (results : List FileResult) :
    Outcome where
  exitCode := exitCode results
  stdout := unlines (results.flatMap fun r =>
    match r.run with
    | .ok run => runLines builder options r.path run
    | .error _ => [])
  stderr := unlines (results.flatMap fun r =>
    match r.run with
    | .ok _ => []
    | .error e => [r.path ++ ": error: " ++ e.message])

/-! ### JSON -/

open Json (Document)

def optional (s : Option String) : Document :=
  match s with
  | some s => .string s
  | none => .null

def statusMembers : Status → List (String × Document)
  | .success | .stop => []
  | .piracy hit => [
    ("phase_index", .integer hit.phaseIndex),
    ("phase_name", .string hit.phaseName),
    ("trigger", .string hit.trigger),
    ("context", .string hit.context)]
  | .overflow consumed limit source => [
    ("consumed", .integer consumed),
    ("limit", .integer limit),
    ("source", .string source.name)]
  | .fail failure => [
    ("phase_index", .integer failure.phaseIndex),
    ("phase_name", .string failure.phaseName),
    ("trigger", optional failure.trigger),
    ("reason", .string failure.reason.name)]
  | .unsupportedCodec detail => [("detail", .string detail)]

def statusDocument (status : Status) : Document :=
  .object (("status", .string status.name) :: statusMembers status)

def reportDocument (report : StructuredReport) : Document :=
  .object ([
    ("title", .string report.title),
    ("sections", .array (report.sections.map fun s =>
      .object [("name", .string s.name), ("body", .string s.body)]))]
    ++ if report.notes.isEmpty then [] else [("notes", .array (report.notes.map .string))])

/-- The unfinished section of a run, where it may be shown. -/
def shownUnfinished (options : Options) (run : AnalysisRun) : Option Analysis :=
  if options.bestEffort && !(run.status matches .piracy _) then run.unfinished else none

def resultDocument (builder : ReportBuilder) (options : Options) (r : FileResult) : Document :=
  .object (("file", .string r.path) :: match r.run with
    | .ok run =>
      [ ("status", statusDocument run.status),
        ("code", .integer run.status.code),
        ("reports", .array (run.sections.map fun a => reportDocument (builder.structured a)))]
      ++ match shownUnfinished options run with
        | some a => [("best_effort", reportDocument (builder.structured a))]
        | none => []
    | .error e => [
        ("status", .null),
        ("code", .null),
        ("reports", .array []),
        ("error", .string e.message)])

def jsonOutcome (builder : ReportBuilder) (options : Options) (results : List FileResult) :
    Outcome where
  exitCode := exitCode results
  stdout := (Document.array (results.map (resultDocument builder options))).render 0 ++ "\n"

/-- What is left behind by the runs. -/
def outcome (builder : ReportBuilder) (options : Options) (results : List FileResult) : Outcome :=
  match options.format with
  | .json => jsonOutcome builder options results
  | _ => textOutcome builder options results

end LogTriage.CommandLine
