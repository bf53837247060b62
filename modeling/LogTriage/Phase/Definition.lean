import LogTriage.Phase.Basic
import LogTriage.Phase.Error
import LogTriage.Toml.Decode

/-!
# Table definitions

A definition is a table as it is written.  It can be used when its names are not blank, every
phase has a trigger, no phase before the last one ends a section, the bounds on sizes and counts
are kept, and its patterns can be compiled.  The error is that of the first condition that does
not hold: the table's own fields, then phase by phase, then the patterns for serial and title.
-/

namespace LogTriage

structure PhaseDefinition where
  name : String
  triggers : List String := []
  mode : TriggerMode := .contains
  pattern : Option String := none
  handlers : List Handler := []
  flushProbe : Option FlushProbe := none
  onTrigger : Completion := .advance
deriving DecidableEq, Inhabited

structure TableDefinition where
  id : String
  name : String
  version : String := "1"
  description : String := ""
  windowCapacity : Option Nat := none
  serialPattern : Option String := none
  titlePattern : Option String := none
  phases : List PhaseDefinition := []
deriving DecidableEq, Inhabited

/-! ### Limits and defaults -/

namespace TableLimits

def maxPhases : Nat := 32
def maxTriggers : Nat := 8
/-- Bytes in the text of a pattern. -/
def maxPattern : Nat := 4096
def minWindow : Nat := 16
def maxWindow : Nat := 65536

end TableLimits

def defaultSerialPattern : String := "Serial: (?P<id>[A-Za-z]\x7b4\x7d\\d\x7b5\x7d)"

def defaultTitlePattern : String := "Title: (?P<title>.+)$"

/-- The number nearest to `n` between `low` and `high`. -/
def clamp (low high n : Nat) : Nat := max low (min high n)

/-! ### Validation -/

/-- Compiles the pattern of a phase, or of the table when `phase` names a field of it. -/
def compilePattern (tableId phase source : String) : Except TableError Pattern :=
  if TableLimits.maxPattern < source.utf8ByteSize then
    .error (.regexTooLong tableId phase source.utf8ByteSize TableLimits.maxPattern)
  else
    match Pattern.compile? source with
    | some pattern => .ok pattern
    | none => .error (.invalidRegex tableId phase source "regex parse error")

namespace PhaseDefinition

/-- The triggers that are not blank. -/
def usableTriggers (d : PhaseDefinition) : List String := d.triggers.filter (!Text.blank ·)

/-- The pattern without the white space around it; a blank one is none. -/
def usablePattern (d : PhaseDefinition) : Option String :=
  (d.pattern.map Text.trimmed).filter (· ≠ "")

def validate (tableId : String) (isLast : Bool) (d : PhaseDefinition) : Except TableError Phase :=
  if Text.blank d.name then .error (.missingField tableId "phases.name")
  else if d.usableTriggers.isEmpty then .error (.missingField tableId "phases.triggers")
  else if TableLimits.maxTriggers < d.usableTriggers.length then
    .error (.tooManyTriggers tableId d.name d.usableTriggers.length TableLimits.maxTriggers)
  else if !isLast && d.onTrigger ≠ .advance then .error (.misplacedCompletion tableId d.name)
  else do
    let pattern ←
      match d.usablePattern with
      | some source => (compilePattern tableId d.name source).map some
      | none => .ok none
    .ok {
      name := d.name
      triggers := d.usableTriggers
      mode := d.mode
      pattern
      handlers := d.handlers
      flushProbe := d.flushProbe
      onTrigger := d.onTrigger }

end PhaseDefinition

namespace TableDefinition

/-- Validates phases in order, up to the first one that fails. -/
def validatePhases (tableId : String) : List PhaseDefinition → Except TableError (List Phase)
  | [] => .ok []
  | d :: ds => do
    let phase ← d.validate tableId ds.isEmpty
    let phases ← validatePhases tableId ds
    .ok (phase :: phases)

/-- Compiles a pattern of the table, which must have a group of the given name. -/
def compileWithGroup (tableId field group source : String) : Except TableError Pattern := do
  let pattern ← compilePattern tableId field source
  if pattern.hasGroup group then .ok pattern
  else .error (.missingField tableId (field ++ " (" ++ group ++ " capture)"))

def validate (d : TableDefinition) (builtin : Bool) : Except TableError PhaseTable :=
  let id := Text.trimmed d.id
  if id = "" then .error (.missingField "(empty)" "table.id")
  else if Text.blank d.name then .error (.missingField id "table.name")
  else if d.phases.isEmpty then .error (.missingField id "phases")
  else if TableLimits.maxPhases < d.phases.length then
    .error (.tooManyPhases id d.phases.length TableLimits.maxPhases)
  else do
    let phases ← validatePhases id d.phases
    let serialPattern ← compileWithGroup id "table.serial_pattern" "id"
      (d.serialPattern.getD defaultSerialPattern)
    let titlePattern ← compileWithGroup id "table.title_pattern" "title"
      (d.titlePattern.getD defaultTitlePattern)
    .ok {
      id
      name := d.name
      version := d.version
      description := d.description
      windowCapacity := d.windowCapacity.map (clamp TableLimits.minWindow TableLimits.maxWindow)
      serialPattern
      titlePattern
      phases
      builtin }

end TableDefinition

/-! ### Reading -/

namespace TriggerMode

def label : TriggerMode → String
  | contains => "contains"
  | exact => "exact"

def ofLabel? (label : String) : Option TriggerMode :=
  [contains, exact].find? (·.label == label)

end TriggerMode

namespace Handler

def label : Handler → String
  | resolveProduct => "resolve_product"
  | bannedContent => "banned_content"
  | collectLibraries => "collect_libraries"

def ofLabel? (label : String) : Option Handler :=
  [resolveProduct, bannedContent, collectLibraries].find? (·.label == label)

end Handler

namespace FlushProbe

def label : FlushProbe → String
  | driverBanner => "driver_banner"

def ofLabel? (label : String) : Option FlushProbe := [driverBanner].find? (·.label == label)

end FlushProbe

namespace Completion

def label : Completion → String
  | advance => "advance"
  | stop => "stop"
  | rearm => "rearm"

def ofLabel? (label : String) : Option Completion :=
  [advance, stop, rearm].find? (·.label == label)

end Completion

open Toml

/-- A value that names one of several alternatives. -/
def Toml.Value.labelled? {α : Type} (ofLabel? : String → Option α) (v : Value) : Option α :=
  v.choice?.bind ofLabel?

def PhaseDefinition.ofToml? (v : Value) : Option PhaseDefinition := do
  let fields ← v.fields?
    ["name", "triggers", "match", "pattern", "handlers", "flush_probe", "on_trigger"]
  let handlers (v : Value) : Option (List Handler) := do
    (← v.list?).mapM (Value.labelled? Handler.ofLabel?)
  return {
    name := ← fields.required? Value.string? "name"
    triggers := ← fields.withDefault? Value.strings? [] "triggers"
    mode := ← fields.withDefault? (Value.labelled? TriggerMode.ofLabel?) .contains "match"
    pattern := ← fields.optional? Value.string? "pattern"
    handlers := ← fields.withDefault? handlers [] "handlers"
    flushProbe := ← fields.optional? (Value.labelled? FlushProbe.ofLabel?) "flush_probe"
    onTrigger := ← fields.withDefault? (Value.labelled? Completion.ofLabel?) .advance "on_trigger" }

def TableDefinition.ofToml? (v : Value) : Option TableDefinition := do
  let document ← v.fields? ["table", "phases"]
  let header ← (← document.lookup "table").fields?
    ["id", "name", "version", "description", "window_capacity", "serial_pattern", "title_pattern"]
  let phases (v : Value) : Option (List PhaseDefinition) := do
    (← v.list?).mapM PhaseDefinition.ofToml?
  return {
    id := ← header.required? Value.string? "id"
    name := ← header.required? Value.string? "name"
    version := ← header.withDefault? Value.string? "1" "version"
    description := ← header.withDefault? Value.string? "" "description"
    windowCapacity := ← header.optional? Value.nat? "window_capacity"
    serialPattern := ← header.optional? Value.string? "serial_pattern"
    titlePattern := ← header.optional? Value.string? "title_pattern"
    phases := ← document.withDefault? phases [] "phases" }

/-- The definition that a document holds. -/
def TableDefinition.parse (path text : String) : Except TableError TableDefinition :=
  match (Toml.parse? text).bind TableDefinition.ofToml? with
  | some d => .ok d
  | none => .error (.toml path "TOML parse error")

/-- The table that a document defines. -/
def PhaseTable.parse (path text : String) (builtin : Bool) : Except TableError PhaseTable := do
  (← TableDefinition.parse path text).validate builtin

end LogTriage
