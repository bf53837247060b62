import LogTriage.Report.Lines
import LogTriage.Report.Segment

/-!
# Reports

An analysis is reported as fenced segments of text, or as a report with a title and a few named
sections.  An analysis that ended early can be reported too, under a note that says so; a banned
phrase is reported by a notice.
-/

namespace LogTriage

structure ReportSection where
  name : String
  body : String
deriving DecidableEq, Inhabited

structure StructuredReport where
  title : String
  sections : List ReportSection
  notes : List String
deriving DecidableEq, Inhabited

structure ReportBuilder where
  /-- Characters of a segment, its fences included. -/
  segmentChars : Nat := 2000
deriving DecidableEq, Inhabited

namespace Report

def minSegment : Nat := 200
def maxSegment : Nat := 2000

/-- Characters in the body of a section. -/
def maxSection : Nat := 1024

def maxSections : Nat := 4

/-- The body of a section with one more line; `none` when the line does not fit. -/
def addLine (body line : String) : Option String :=
  let joined := if body.isEmpty then line else body.push '\n' ++ line
  if maxSection < joined.length then none else some joined

/-- The lines that fit, up to the first that does not; a first line that does not fit is cut. -/
def sectionBody (body : String) : List String → String
  | [] => body
  | line :: lines =>
    match addLine body line with
    | some body => sectionBody body lines
    | none => if body.isEmpty then truncate maxSection line else body

def sectionOf (name : String) (lines : List String) : ReportSection :=
  { name, body := sectionBody "" lines }

def terminationNote (status : Status) : String :=
  "Note: analysis ended early (" ++ status.text ++ "); the fields below may be incomplete."

def partialNote : String := "Partial analysis: the log ended early or was rejected."

end Report

namespace ReportBuilder
open Report

/-- A segment size within the bounds that chats set. -/
def ofSegmentChars (n : Nat) : ReportBuilder :=
  { segmentChars := max minSegment (min maxSegment n) }

def fence (b : ReportBuilder) (lines : List String) : List String :=
  Report.fence b.segmentChars lines

def plainText (b : ReportBuilder) (a : Analysis) : List String := b.fence (summaryLines a)

/-- The summary of an analysis that ended with `status`. -/
def bestEffort (b : ReportBuilder) (a : Analysis) (status : Status) : List String :=
  b.fence (terminationNote status :: "" :: summaryLines a)

def structured (_ : ReportBuilder) (a : Analysis) : StructuredReport :=
  let fields := normalize a.fields
  let sections :=
    [ sectionOf "Build Info" (productLines a.product ++ buildLines fields),
      sectionOf "CPU Settings" (cpuLines fields),
      sectionOf "GPU Settings" (videoLines fields ++ driverLines fields)]
    ++ if a.libraries.isEmpty then []
      else [sectionOf "Selected Libraries" [String.intercalate ", " a.libraries]]
  { title := (a.product.title <|> a.product.serial).getD "Unknown"
    sections := sections.take maxSections
    notes := if a.complete then [] else [partialNote] }

/-- The notice of a banned phrase, if one was found. -/
def piracyNotice (_ : ReportBuilder) (a : Analysis) : Option String :=
  a.piracy.map fun hit =>
    "Pirated release detected. The log contains the banned phrase \"" ++ hit.trigger
      ++ "\" (phase " ++ toString hit.phaseIndex ++ ": " ++ hit.phaseName
      ++ "). The log was not analysed."

end ReportBuilder

end LogTriage
