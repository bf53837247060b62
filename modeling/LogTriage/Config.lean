import LogTriage.BannedPhrases
import LogTriage.Files.Basic
import LogTriage.Line.Assembler
import LogTriage.Toml.Decode

/-!
# Configuration

The settings of the program, read from a file.  Every setting is optional.  One that is out of
range is replaced by its default, with a warning; it changes no other setting.  A file that cannot
be read or is malformed leaves all settings at their defaults, with one warning.
-/

namespace LogTriage

inductive ConfigError where
  | toml (path cause : String)
  | valueOutOfRange (field value expected : String)
  | io (path cause : String)
deriving DecidableEq, Inhabited

namespace ConfigError

def message : ConfigError → String
  | toml path cause => "Config parse error '" ++ path ++ "': " ++ cause
  | valueOutOfRange field value expected =>
    "Config '" ++ field ++ "' = '" ++ value ++ "' is out of range. Expected: " ++ expected
  | io path cause => "Config I/O error '" ++ path ++ "': " ++ cause

/-- The messages of the errors beneath this one, outermost first. -/
def causes : ConfigError → List String
  | toml _ cause | io _ cause => [cause]
  | valueOutOfRange .. => []

end ConfigError

structure Config where
  /-- Bytes that are read at once. -/
  chunkSize : Nat := 65536
  maxLogBytes : Nat := 33554432
  maxLineBytes : Nat := 1048576
  maxPendingBytes : Nat := 16
  windowCapacity : Nat := 256
  scratchDir : Option String := none
  /-- The table that is used when none is named. -/
  phaseTable : String := "rpcs3-settings"
  userTableDir : Option String := none
  bannedPhrases : List String := []
  bannedPhrasesFile : Option String := none
  catalogFile : Option String := none
  segmentChars : Nat := 2000
  logLevel : Option String := none
  logFile : Option String := none
deriving DecidableEq, Inhabited

namespace Config
open Toml

/-! ### The settings as they are written -/

structure Raw where
  chunkSize : Option Nat := none
  maxLogBytes : Option Nat := none
  maxLineBytes : Option Nat := none
  maxPendingBytes : Option Nat := none
  windowCapacity : Option Nat := none
  scratchDirectory : Option String := none
  defaultTable : Option String := none
  userTableDirectory : Option String := none
  bannedPhrases : Option (List String) := none
  bannedPhrasesFile : Option String := none
  catalogFile : Option String := none
  segmentChars : Option Nat := none
  logLevel : Option String := none
  logFile : Option String := none
deriving DecidableEq, Inhabited

/-- The fields of a part of the file; a part that is missing has none. -/
def part? (document : Entries) (name : String) (names : List String) : Option Entries :=
  match document.lookup name with
  | none => some []
  | some v => v.fields? names

def Raw.ofToml? (v : Value) : Option Raw := do
  let document ← v.fields? ["parsing", "phases", "moderation", "resolver", "report", "logging"]
  let parsing ← part? document "parsing"
    ["chunk_size_bytes", "max_log_bytes", "max_line_bytes", "max_pending_bytes",
      "window_capacity", "scratch_directory"]
  let phases ← part? document "phases" ["default_table", "user_table_directory"]
  let moderation ← part? document "moderation" ["banned_phrases", "banned_phrases_file"]
  let resolver ← part? document "resolver" ["catalog_file"]
  let report ← part? document "report" ["segment_chars"]
  let logging ← part? document "logging" ["level", "file"]
  return {
    chunkSize := ← parsing.optional? Value.nat? "chunk_size_bytes"
    maxLogBytes := ← parsing.optional? Value.nat? "max_log_bytes"
    maxLineBytes := ← parsing.optional? Value.nat? "max_line_bytes"
    maxPendingBytes := ← parsing.optional? Value.nat? "max_pending_bytes"
    windowCapacity := ← parsing.optional? Value.nat? "window_capacity"
    scratchDirectory := ← parsing.optional? Value.string? "scratch_directory"
    defaultTable := ← phases.optional? Value.string? "default_table"
    userTableDirectory := ← phases.optional? Value.string? "user_table_directory"
    bannedPhrases := ← moderation.optional? Value.strings? "banned_phrases"
    bannedPhrasesFile := ← moderation.optional? Value.string? "banned_phrases_file"
    catalogFile := ← resolver.optional? Value.string? "catalog_file"
    segmentChars := ← report.optional? Value.nat? "segment_chars"
    logLevel := ← logging.optional? Value.string? "level"
    logFile := ← logging.optional? Value.string? "file" }

/-! ### Validation -/

/-- A setting that is a number: where it stands, its bounds and its default. -/
structure Range where
  label : String
  low : Nat
  high : Nat
  default : Nat

def Range.admits (r : Range) (n : Nat) : Bool := r.low ≤ n && n ≤ r.high

def chunkSizeRange : Range := ⟨"[parsing] chunk_size_bytes", 512, 4194304, 65536⟩
def maxLogRange : Range := ⟨"[parsing] max_log_bytes", 65536, 1073741824, 33554432⟩
def maxLineRange : Range := ⟨"[parsing] max_line_bytes", 1, 16777216, 1048576⟩
/-- A character has at most four bytes, so that three is the least cap that every cut character
passes. -/
def maxPendingRange : Range := ⟨"[parsing] max_pending_bytes", 3, 512, 16⟩
def windowRange : Range := ⟨"[parsing] window_capacity", 16, 65536, 256⟩
def segmentRange : Range := ⟨"[report] segment_chars", 200, 2000, 2000⟩

/-- The value if it is in range, and the default otherwise. -/
def Range.pick (r : Range) (value : Option Nat) : Nat := (value.filter r.admits).getD r.default

/-- A warning of a value that is out of range. -/
def Range.warnings (r : Range) (value : Option Nat) : List String :=
  match value with
  | none => []
  | some n =>
    if r.admits n then []
    else
      [r.label ++ " = " ++ toString n ++ " is out of range (" ++ toString r.low ++ "-"
        ++ toString r.high ++ "). Using default (" ++ toString r.default ++ ")."]

def defaultTable : String := "rpcs3-settings"

def logLevels : List String := ["error", "warn", "info", "debug", "trace"]

def knownLevel (level : String) : Bool := logLevels.contains (Text.lowered level)

def tableWarnings (table : Option String) : List String :=
  if table.any Text.blank then
    ["[phases] default_table is empty. Using default (" ++ defaultTable ++ ")."]
  else []

def levelWarnings (level : Option String) : List String :=
  match level with
  | none => []
  | some level =>
    if knownLevel level then []
    else
      ["[logging] level = \"" ++ level ++ "\" is not recognised. "
        ++ "Valid values: error, warn, info, debug, trace. Using default (info)."]

/-- A path, unless it is blank. -/
def pathOf (value : Option String) : Option String := value.filter (!Text.blank ·)

/-- The settings that are in range, the others at their defaults. -/
def ofRaw (raw : Raw) : Config where
  chunkSize := chunkSizeRange.pick raw.chunkSize
  maxLogBytes := maxLogRange.pick raw.maxLogBytes
  maxLineBytes := maxLineRange.pick raw.maxLineBytes
  maxPendingBytes := maxPendingRange.pick raw.maxPendingBytes
  windowCapacity := windowRange.pick raw.windowCapacity
  scratchDir := pathOf raw.scratchDirectory
  phaseTable := ((raw.defaultTable.map Text.trimmed).filter (· ≠ "")).getD defaultTable
  userTableDir := pathOf raw.userTableDirectory
  bannedPhrases := raw.bannedPhrases.getD []
  bannedPhrasesFile := pathOf raw.bannedPhrasesFile
  catalogFile := pathOf raw.catalogFile
  segmentChars := segmentRange.pick raw.segmentChars
  logLevel := raw.logLevel.filter knownLevel
  logFile := raw.logFile.filter (· ≠ "")

/-- One warning for each setting that is rejected, in the order of the settings. -/
def warningsOf (raw : Raw) : List String :=
  chunkSizeRange.warnings raw.chunkSize
    ++ maxLogRange.warnings raw.maxLogBytes
    ++ maxLineRange.warnings raw.maxLineBytes
    ++ maxPendingRange.warnings raw.maxPendingBytes
    ++ windowRange.warnings raw.windowCapacity
    ++ tableWarnings raw.defaultTable
    ++ segmentRange.warnings raw.segmentChars
    ++ levelWarnings raw.logLevel

/-! ### Files -/

/-- The settings that a text holds, with the warnings about it. -/
def ofText (path text : String) : Config × List String :=
  match (Toml.parse? text).bind Raw.ofToml? with
  | some raw => (ofRaw raw, warningsOf raw)
  | none =>
    ({}, ["Failed to parse config file '" ++ path ++ "': TOML parse error. Using defaults."])

section
variable {m : Type → Type} [Monad m]

/-- The settings in a file; one that does not exist says nothing. -/
def load (fs : Files m) (path : String) : m (Config × List String) := do
  match ← fs.kind? path with
  | none => return ({}, [])
  | some _ =>
    match ← fs.readText path with
    | .ok text => return ofText path text
    | .error cause =>
      return ({}, ["Could not read config file '" ++ path ++ "': " ++ cause ++ ". Using defaults."])

/-- Bytes in a file of banned phrases. -/
def maxBannedFile : Nat := 1048576

/-- Phrases that are banned at once. -/
def maxBannedPhrases : Nat := 10000

/-- The phrases in a file. -/
def readBannedPhrases (fs : Files m) (path : String) : m (Except ConfigError (List String)) := do
  match ← fs.readBounded maxBannedFile path with
  | .ok text => return .ok (BannedPhrases.listed text)
  | .error (.tooLarge size) =>
    return .error (.valueOutOfRange "moderation.banned_phrases_file"
      (path ++ " (" ++ toString size ++ " bytes)")
      ("at most " ++ toString maxBannedFile ++ " bytes"))
  | .error (.unreadable cause) => return .error (.io path cause)

/-- The phrases of the settings, followed by those of the file that the settings name. -/
def bannedPhraseList (fs : Files m) (c : Config) : m (Except ConfigError (List String)) := do
  match c.bannedPhrasesFile with
  | none => return .ok (c.bannedPhrases.take maxBannedPhrases)
  | some path =>
    match ← readBannedPhrases fs path with
    | .ok phrases => return .ok ((c.bannedPhrases ++ phrases).take maxBannedPhrases)
    | .error e => return .error e

end

end Config

end LogTriage
