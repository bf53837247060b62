import LogTriage.Analysis
import LogTriage.BannedPhrases
import LogTriage.Engine.Libraries
import LogTriage.Engine.Window
import LogTriage.Escape
import LogTriage.Phase.Basic

/-!
# The engine

The engine takes a log line by line.  Lines are collected in the window of the active phase, which
holds the latest ones; a line that has to leave the window is inspected first.  A trigger
finalizes the phase: its pattern is matched against the window, its handlers are run, and the next
phase begins, or the section ends.

Once a status other than success or the stop of a section has been answered, the engine has halted
and answers it again to everything that follows.
-/

namespace LogTriage

structure EngineLimits where
  /-- Bytes of the log. -/
  maxLogBytes : Nat := 33554432
  /-- Lines in a window, unless the table has a capacity of its own. -/
  windowCapacity : Nat := 256
deriving DecidableEq, Inhabited

/-- What is known of the section at hand. -/
structure Progress where
  phaseIndex : Nat := 0
  /-- The latest lines of the active phase. -/
  window : Window := .empty
  /-- Bytes of the section. -/
  consumed : Nat := 0
  /-- Lines of the section, those with a trigger included. -/
  lines : Nat := 0
  fields : FieldMap := .empty
  libraries : List String := []
  piracy : Option BannedHit := none
  product : Product := .unknown
  serial : Option String := none
  /-- The title that the log itself gives. -/
  logTitle : Option String := none
  /-- The pattern of the active phase has matched before its trigger came. -/
  extractedEarly : Bool := false
deriving Inhabited

structure Engine where
  table : PhaseTable
  limits : EngineLimits := {}
  banned : BannedPhrases := {}
  resolver : Resolver := .unknown
  progress : Progress := {}
  /-- Bytes of all sections. -/
  consumed : Nat := 0
  /-- Sections that are complete and have not been taken, oldest first. -/
  completed : List Analysis := []
  /-- How many sections are complete. -/
  sections : Nat := 0
  halted : Option Status := none
  /-- The serials that the resolver has been asked about, oldest first. -/
  asked : List String := []
deriving Inhabited

namespace Engine

/-- The greatest number of bytes that is counted. -/
def maxCount : Nat := 18446744073709551615

/-- A window has room for one line at least. -/
def windowCapacity (e : Engine) : Nat :=
  max (e.table.windowCapacity.getD e.limits.windowCapacity) 1

def phase (e : Engine) : Phase := e.table.phaseAt e.progress.phaseIndex

def isHalted (e : Engine) : Bool := e.halted.isSome

def halt (e : Engine) (status : Status) : Status × Engine :=
  (status, { e with halted := some status })

/-- The lines of the window, each with a line feed after it. -/
def windowText (e : Engine) : String :=
  e.progress.window.lines.foldl (fun text line => (text ++ line).push '\n') ""

/-! ### Extraction -/

/-- The fields with what the groups of a match hold, white space around it aside; an empty group
changes nothing. -/
def mergeCaptures (fields : FieldMap) (captures : List (String × String)) : FieldMap :=
  captures.foldl (fun fields (name, value) =>
    let value := Text.trimmed value
    if value.isEmpty then fields else fields.insert name value) fields

/-- What the group `name` holds in the first match in the line, if it is not blank. -/
def firstCapture? (pattern : Pattern) (line name : String) : Option String :=
  ((pattern.captures? line).bind (·.lookup name)).map Text.trimmed |>.filter (!·.isEmpty)

/-- Takes the serial from the line if there is none yet, and asks the resolver for the product. -/
def observeSerial (e : Engine) (line : String) : Engine :=
  if e.progress.serial.isSome then e
  else
    match firstCapture? e.table.serialPattern line "id" with
    | none => e
    | some id =>
      let serial := Text.asciiUppered id
      let answer := e.resolver serial
      let product := { answer with serial := some (answer.serial.getD serial) }
      { e with
        progress := { e.progress with serial := some serial, product }
        asked := e.asked ++ [serial] }

/-- Takes the title from the line if there is none yet. -/
def observeTitle (e : Engine) (line : String) : Engine :=
  if e.progress.logTitle.isSome then e
  else
    match firstCapture? e.table.titlePattern line "title" with
    | none => e
    | some title => { e with progress := { e.progress with logTitle := some title } }

def observe (e : Engine) (line : String) : Engine := (e.observeSerial line).observeTitle line

/-- Matches the pattern of the phase against the window before the trigger has come. -/
def extractEarly (e : Engine) : Engine :=
  match e.phase.pattern with
  | none => e
  | some pattern =>
    match pattern.captures? e.windowText with
    | none => e
    | some captures =>
      { e with
        progress := { e.progress with
          fields := mergeCaptures e.progress.fields captures
          extractedEarly := true } }

/-! ### Results -/

/-- What is known of the section at hand, safe to be shown. -/
def analysis (e : Engine) (complete : Bool) : Analysis :=
  let p := e.progress
  let product :=
    if !p.product.isKnown && p.product.title.isNone then { p.product with title := p.logTitle }
    else p.product
  { tableId := e.table.id
    index := e.sections
    fields := p.fields.escape
    libraries := p.libraries.map escape
    product := product.escape
    piracy := p.piracy.map (·.escape)
    complete }

def partialAnalysis (e : Engine) : Analysis := e.analysis false

def completeSection (e : Engine) : Engine :=
  { e with completed := e.completed ++ [e.analysis true], sections := e.sections + 1 }

/-- The sections that have been completed since they were last taken. -/
def takeCompleted (e : Engine) : List Analysis × Engine := (e.completed, { e with completed := [] })

def rejectPiracy (e : Engine) (hit : BannedHit) : Status × Engine :=
  { e with progress := { e.progress with piracy := some hit } }.halt (.piracy hit)

/-- The failure of the active phase. -/
def failure (e : Engine) (trigger : Option String) (reason : FailureReason) : Failure :=
  { phaseIndex := e.progress.phaseIndex, phaseName := e.phase.name, trigger, reason }

/-! ### Lines -/

/-- Runs the handlers that look at single lines on a line that leaves the window, up to one that
finds a banned phrase. -/
def inspect (line : String) : List Handler → Engine → Option BannedHit × Engine
  | [], e => (none, e)
  | .bannedContent :: handlers, e =>
    match e.banned.hit? e.progress.phaseIndex e.phase.name [line] with
    | some hit => (some hit, e)
    | none => inspect line handlers e
  | .resolveProduct :: handlers, e => inspect line handlers (e.observe line)
  | .collectLibraries :: handlers, e => inspect line handlers e

/-- Lets the oldest line leave the window; first, the probe of the phase may ask for an early
extraction. -/
def evict (e : Engine) : Option BannedHit × Engine :=
  match e.progress.window.pop? with
  | none => (none, e)
  | some (oldest, rest) =>
    let early := match e.phase.flushProbe with
      | some probe => probe.recognizes oldest
      | none => false
    let e := if early then e.extractEarly else e
    inspect oldest e.phase.handlers { e with progress := { e.progress with window := rest } }

/-- Adds a line to the window. -/
def bufferLine (e : Engine) (line : String) : Status × Engine :=
  let (hit, e) :=
    if e.windowCapacity ≤ e.progress.window.size then e.evict else (none, e)
  match hit with
  | some hit => e.rejectPiracy hit
  | none =>
    (.success, { e with progress := { e.progress with window := e.progress.window.push line } })

/-! ### Finalization -/

/-- Runs the handlers of the active phase on its window, up to one that finds a banned phrase. -/
def runHandlers (text : String) : List Handler → Engine → Option BannedHit × Engine
  | [], e => (none, e)
  | .resolveProduct :: handlers, e =>
    runHandlers text handlers (e.progress.window.lines.foldl observe e)
  | .bannedContent :: handlers, e =>
    match e.banned.hit? e.progress.phaseIndex e.phase.name e.progress.window.lines with
    | some hit => (some hit, e)
    | none => runHandlers text handlers e
  | .collectLibraries :: handlers, e =>
    let found := LogTriage.libraries text
    let libraries := if found.isEmpty then e.progress.libraries else found
    runHandlers text handlers { e with progress := { e.progress with libraries } }

/-- Matches the pattern of the active phase against its window; nothing when it has to match and
does not. -/
def extract? (e : Engine) (text : String) : Option Engine :=
  match e.phase.pattern with
  | none => some e
  | some pattern =>
    match pattern.captures? text with
    | some captures =>
      some { e with
        progress := { e.progress with fields := mergeCaptures e.progress.fields captures } }
    | none => if e.progress.extractedEarly then some e else none

/-- What follows a phase that ended well; `trigger` is missing at the end of the log. -/
def complete (e : Engine) (trigger : Option String) : Status × Engine :=
  match e.phase.onTrigger, trigger.isSome, e.table.isLast e.progress.phaseIndex with
  | .rearm, true, _ => (.stop, { e.completeSection with progress := {} })
  | .advance, _, false =>
    (.success, { e with
      progress := { e.progress with
        phaseIndex := e.progress.phaseIndex + 1, window := .empty, extractedEarly := false } })
  | _, _, _ => e.completeSection.halt .stop

/-- Ends the active phase, by a trigger or by the end of the log. -/
def finalize (e : Engine) (trigger : Option String) : Status × Engine :=
  let text := e.windowText
  match e.extract? text with
  | none => e.halt (.fail (e.failure trigger .patternMismatch))
  | some e =>
    match runHandlers text e.phase.handlers e with
    | (some hit, e) => e.rejectPiracy hit
    | (none, e) => e.complete trigger

/-! ### Feeding -/

/-- Counts a line of `raw` bytes. -/
def count (e : Engine) (raw : Nat) : Engine :=
  { e with
    consumed := min (e.consumed + raw) maxCount
    progress := { e.progress with
      consumed := e.progress.consumed + raw, lines := e.progress.lines + 1 } }

/-- Takes a line that has `raw` bytes in the log. -/
def feedCounted (e : Engine) (line : String) (raw : Nat) : Status × Engine :=
  match e.halted with
  | some status => (status, e)
  | none =>
    let e := e.count raw
    if e.limits.maxLogBytes < e.consumed then
      e.halt (.overflow e.consumed e.limits.maxLogBytes .logBytes)
    else
      match e.phase.matchedTrigger line with
      | some trigger => e.finalize (some trigger)
      | none => e.bufferLine line

/-- Takes a line that a line feed ended. -/
def feed (e : Engine) (line : String) : Status × Engine :=
  e.feedCounted line (line.utf8ByteSize + 1)

/-- The log has ended.  In the last phase this counts as its trigger, unless the section has not
begun; elsewhere the log is truncated, unless a section is complete. -/
def finish (e : Engine) : Status × Engine :=
  match e.halted with
  | some status => (status, e)
  | none =>
    let fresh := decide (0 < e.sections) && e.progress.lines == 0
    if e.table.isLast e.progress.phaseIndex && !fresh then e.finalize none
    else if 0 < e.sections then e.halt .stop
    else e.halt (.fail (e.failure none .truncated))

end Engine

end LogTriage
