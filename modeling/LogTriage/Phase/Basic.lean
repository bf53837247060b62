import LogTriage.Regex.Pattern
import LogTriage.Text.Substring
import LogTriage.Text.Blank

/-!
# Phases

A log is read phase by phase, as a table lays down.  A phase collects lines until one of its
triggers appears; then its pattern is matched against the lines collected and its handlers are
run.  The last phase says whether the analysis ends there or starts over.
-/

namespace LogTriage

/-- How a trigger is compared with a line. -/
inductive TriggerMode where
  /-- The line holds the trigger. -/
  | contains
  /-- The line is the trigger, white space at its ends aside. -/
  | exact
deriving DecidableEq, Inhabited

def TriggerMode.matches (mode : TriggerMode) (line trigger : String) : Bool :=
  match mode with
  | contains => Text.holds line trigger
  | exact => Text.trimmed line == trigger

/-- What a phase does with its lines besides matching its pattern. -/
inductive Handler where
  /-- Finds the serial and asks the resolver for the product. -/
  | resolveProduct
  /-- Looks for banned phrases. -/
  | bannedContent
  /-- Collects the list of libraries. -/
  | collectLibraries
deriving DecidableEq, Inhabited

/-- Lines that call for an extraction before the trigger comes. -/
inductive FlushProbe where
  /-- Part of what a graphics driver reports of itself. -/
  | driverBanner
deriving DecidableEq, Inhabited

def driverBanners : List String :=
  ["Found vulkan-compatible GPU:", "GL RENDERER:", "GL VERSION:"]

def FlushProbe.recognizes (probe : FlushProbe) (line : String) : Bool :=
  match probe with
  | driverBanner => driverBanners.any (Text.holds line)

/-- What follows a phase that ended well. -/
inductive Completion where
  /-- The next phase, or after the last one the end. -/
  | advance
  | stop
  /-- The end of a section: the first phase of the next one follows. -/
  | rearm
deriving DecidableEq, Inhabited

structure Phase where
  name : String
  /-- Any of these ends the phase. -/
  triggers : List String
  mode : TriggerMode := .contains
  /-- Its named groups become fields. -/
  pattern : Option Pattern := none
  handlers : List Handler := []
  flushProbe : Option FlushProbe := none
  onTrigger : Completion := .advance
deriving Inhabited

/-- The first trigger that the line satisfies. -/
def Phase.matchedTrigger (phase : Phase) (line : String) : Option String :=
  phase.triggers.find? (phase.mode.matches line)

structure PhaseTable where
  id : String
  name : String
  version : String
  description : String
  /-- Overrides the capacity that the engine is given. -/
  windowCapacity : Option Nat
  /-- Its group `id` is the serial. -/
  serialPattern : Pattern
  /-- Its group `title` is the title. -/
  titlePattern : Pattern
  phases : List Phase
  builtin : Bool
deriving Inhabited

namespace PhaseTable

/-- The phase at a place; beyond the last one there is a phase that nothing ends. -/
def phaseAt (table : PhaseTable) (index : Nat) : Phase := table.phases.getD index default

def isLast (table : PhaseTable) (index : Nat) : Bool := index + 1 == table.phases.length

end PhaseTable

end LogTriage
