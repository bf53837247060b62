import LogTriage.Analyzer
import LogTriage.Error

/-!
# Runs

The analysis of one attachment, from its bytes to a status.  A log that cannot be decoded is a
result like any other; only what goes wrong around the log is an error.
-/

namespace LogTriage

structure AnalysisRun where
  fileName : String
  /-- The status that ended the analysis. -/
  status : Status
  /-- The sections that are complete, oldest first. -/
  sections : List Analysis := []
  /-- What is known of the section at hand when a fatal status ended it. -/
  unfinished : Option Analysis := none
  /-- Lines that were fed. -/
  lines : Nat := 0
deriving DecidableEq, Inhabited

namespace Analyzer

/-- The status that stands for an error among the lines, which the engine `e` meets. -/
def lineStatus (e : Engine) : LineError → Except TriageError Status
  | .source (.unsupportedCodec entry method) =>
    .ok (.unsupportedCodec (StreamError.unsupportedCodec entry method).message)
  | .source (.logTooLarge limit) => .ok (.overflow (limit + 1) limit .logBytes)
  | .source error => .error (.stream error)
  | .invalidEncoding .. => .ok (.fail (e.failure none .invalidEncoding))
  | .pendingOverflow pending limit => .ok (.overflow pending limit .pendingBytes)
  | .lineTooLong length limit => .ok (.overflow length limit .lineLength)

/-- Feeds lines to an engine until it halts or an error comes, and ends the log if neither does.
`count` lines have been fed before. -/
def feedAll (count : Nat) (e : Engine) : List LineItem → Except TriageError (Status × Engine × Nat)
  | [] =>
    let (status, e) := e.finish
    .ok (status, e, count)
  | .error error :: _ => do .ok (← lineStatus e error, e, count)
  | .ok line :: items =>
    match e.feedCounted line.text line.raw with
    | (status, e) => if e.isHalted then .ok (status, e, count + 1) else feedAll (count + 1) e items

/-- Analyses lines. -/
def runLines (a : Analyzer) (items : List LineItem) (fileName : String) :
    Except TriageError AnalysisRun := do
  let (status, e, lines) ← feedAll 0 a.engine items
  .ok {
    fileName
    status
    sections := e.takeCompleted.1
    unfinished := if status.isFatal then some e.partialAnalysis else none
    lines }

/-- The lines of chunks. -/
def lineItems (a : Analyzer) (chunks : List Chunk) : List LineItem :=
  (Assembler.ofChunks a.lineLimits chunks).items

/-- Analyses the bytes of a source. -/
def runSource (a : Analyzer) (source : Source) (encoding : Encoding) (fileName : String) :
    Except TriageError AnalysisRun :=
  match openChunks a.stream source encoding with
  | .ok stream => a.runLines (a.lineItems stream.drain.1) fileName
  | .error (.unsupportedCodec entry method) =>
    let detail := (StreamError.unsupportedCodec entry method).message
    .ok { fileName, status := .unsupportedCodec detail }
  | .error error => .error (.stream error)

/-- Analyses an attachment; `opened` is its source, or why it could not be opened. -/
def run (a : Analyzer) (attachment : Attachment) (opened : Except String Source) :
    Except TriageError AnalysisRun :=
  match attachment.encoding? with
  | none => .error (.stream (.unrecognizedAttachment attachment.fileName))
  | some encoding =>
    match opened with
    | .error cause => .error (.io attachment.locator "opening attachment" cause)
    | .ok source => a.runSource source encoding attachment.fileName

end Analyzer

end LogTriage
