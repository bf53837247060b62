import LogTriage.Config

/-!
# What a file of settings says

A document holds settings by part and key: a setting is what stands under its key in its part, and
nothing if the key or the part is missing.  A part that is an array has its values in the order of
the keys.  What is there has to be of the right kind.

* `Spelled`                     the settings that a document holds;
* `Raw.ofToml?_eq_some_iff`     they are those that are read.
-/

namespace LogTriage.Config
open Toml
open Option (bind_eq_some_iff)

inductive NumberSetting where
  | chunkSize
  | maxLogBytes
  | maxLineBytes
  | maxPendingBytes
  | windowCapacity
  | segmentChars
deriving DecidableEq

namespace NumberSetting

def written (raw : Raw) : NumberSetting → Option Nat
  | chunkSize => raw.chunkSize
  | maxLogBytes => raw.maxLogBytes
  | maxLineBytes => raw.maxLineBytes
  | maxPendingBytes => raw.maxPendingBytes
  | windowCapacity => raw.windowCapacity
  | segmentChars => raw.segmentChars

def part : NumberSetting → String
  | chunkSize | maxLogBytes | maxLineBytes | maxPendingBytes | windowCapacity => "parsing"
  | segmentChars => "report"

def key : NumberSetting → String
  | chunkSize => "chunk_size_bytes"
  | maxLogBytes => "max_log_bytes"
  | maxLineBytes => "max_line_bytes"
  | maxPendingBytes => "max_pending_bytes"
  | windowCapacity => "window_capacity"
  | segmentChars => "segment_chars"

end NumberSetting

def parts : List (String × List String) :=
  [("parsing", ["chunk_size_bytes", "max_log_bytes", "max_line_bytes", "max_pending_bytes",
      "window_capacity", "scratch_directory"]),
    ("phases", ["default_table", "user_table_directory"]),
    ("moderation", ["banned_phrases", "banned_phrases_file"]),
    ("resolver", ["catalog_file"]),
    ("report", ["segment_chars"]),
    ("logging", ["level", "file"])]

/-- What stands under a key of a part of a document. -/
def setting? (v : Value) (part key : String) : Option Value := do
  let document ← v.fields? (parts.map (·.1))
  let fields ← (← document.lookup part).fields? (← parts.lookup part)
  fields.lookup key

/-- What is read of a setting: nothing if it is missing. -/
inductive Reads {α : Type} (read : Value → Option α) : Option Value → Option α → Prop where
  | missing : Reads read none none
  | there {v : Value} {a : α} (hr : read v = some a) : Reads read (some v) (some a)

/-- The document holds these settings: it is a record, and so is each part that is there; a setting
is what stands under its key in its part. -/
structure Spelled (v : Value) (raw : Raw) : Prop where
  records : ∃ document, v.fields? (parts.map (·.1)) = some document ∧
    ∀ p ∈ parts, ∀ w, document.lookup p.1 = some w → w.fields? p.2 ≠ none
  number : ∀ x : NumberSetting, Reads Value.nat? (setting? v x.part x.key) (x.written raw)
  scratchDirectory :
    Reads Value.string? (setting? v "parsing" "scratch_directory") raw.scratchDirectory
  defaultTable : Reads Value.string? (setting? v "phases" "default_table") raw.defaultTable
  userTableDirectory :
    Reads Value.string? (setting? v "phases" "user_table_directory") raw.userTableDirectory
  bannedPhrases : Reads Value.strings? (setting? v "moderation" "banned_phrases") raw.bannedPhrases
  bannedPhrasesFile :
    Reads Value.string? (setting? v "moderation" "banned_phrases_file") raw.bannedPhrasesFile
  catalogFile : Reads Value.string? (setting? v "resolver" "catalog_file") raw.catalogFile
  logLevel : Reads Value.string? (setting? v "logging" "level") raw.logLevel
  logFile : Reads Value.string? (setting? v "logging" "file") raw.logFile

section
variable {α : Type} {read : Value → Option α} {value : Option α} {v : Value}
  {document fields : Entries} {part key : String} {keys : List String} {raw : Raw}

theorem optional?_eq_some_iff :
    fields.optional? read key = some value ↔ Reads read (fields.lookup key) value := by
  rw [Entries.optional?]
  cases fields.lookup key with
  | none =>
    constructor
    · rintro h
      cases h
      exact .missing
    · intro h
      cases h
      rfl
  | some v =>
    dsimp only
    rw [Option.map_eq_some_iff]
    constructor
    · rintro ⟨a, ha, rfl⟩
      exact .there ha
    · intro h
      cases h with
      | there hr => exact ⟨_, hr, rfl⟩

theorem setting?_eq (hv : v.fields? (parts.map (·.1)) = some document)
    (hp : part? document part keys = some fields) (hk : parts.lookup part = some keys)
    (key : String) : setting? v part key = fields.lookup key := by
  rw [part?] at hp
  simp only [setting?, hv, hk, bind, Option.bind_some]
  cases hd : document.lookup part with
  | none =>
    rw [hd] at hp
    cases hp
    rfl
  | some w =>
    rw [hd] at hp
    dsimp only at hp
    rw [Option.bind_some, hp, Option.bind_some]

theorem reads_setting (hv : v.fields? (parts.map (·.1)) = some document)
    (hp : part? document part keys = some fields) (hk : parts.lookup part = some keys) :
    fields.optional? read key = some value ↔ Reads read (setting? v part key) value := by
  rw [optional?_eq_some_iff, setting?_eq hv hp hk]

theorem part?_ne_none_iff : part? document part keys ≠ none ↔
    ∀ w, document.lookup part = some w → w.fields? keys ≠ none := by
  rw [part?]
  cases document.lookup part with
  | none => simp
  | some w => simp

theorem spelled_of_ofToml? (h : Raw.ofToml? v = some raw) : Spelled v raw := by
  rw [Raw.ofToml?] at h
  obtain ⟨document, hv, h⟩ := bind_eq_some_iff.mp h
  obtain ⟨parsing, hparsing, h⟩ := bind_eq_some_iff.mp h
  obtain ⟨phases, hphases, h⟩ := bind_eq_some_iff.mp h
  obtain ⟨moderation, hmoderation, h⟩ := bind_eq_some_iff.mp h
  obtain ⟨resolver, hresolver, h⟩ := bind_eq_some_iff.mp h
  obtain ⟨report, hreport, h⟩ := bind_eq_some_iff.mp h
  obtain ⟨logging, hlogging, h⟩ := bind_eq_some_iff.mp h
  have hv : v.fields? (parts.map (·.1)) = some document := hv
  obtain ⟨chunkSize, hchunk, h⟩ := bind_eq_some_iff.mp h
  obtain ⟨maxLog, hlog, h⟩ := bind_eq_some_iff.mp h
  obtain ⟨maxLine, hline, h⟩ := bind_eq_some_iff.mp h
  obtain ⟨maxPending, hpending, h⟩ := bind_eq_some_iff.mp h
  obtain ⟨window, hwindow, h⟩ := bind_eq_some_iff.mp h
  obtain ⟨scratch, hscratch, h⟩ := bind_eq_some_iff.mp h
  obtain ⟨table, htable, h⟩ := bind_eq_some_iff.mp h
  obtain ⟨tableDir, htableDir, h⟩ := bind_eq_some_iff.mp h
  obtain ⟨phrases, hphrases, h⟩ := bind_eq_some_iff.mp h
  obtain ⟨phrasesFile, hphrasesFile, h⟩ := bind_eq_some_iff.mp h
  obtain ⟨catalog, hcatalog, h⟩ := bind_eq_some_iff.mp h
  obtain ⟨segment, hsegment, h⟩ := bind_eq_some_iff.mp h
  obtain ⟨level, hlevel, h⟩ := bind_eq_some_iff.mp h
  obtain ⟨file, hfile, h⟩ := bind_eq_some_iff.mp h
  cases h
  refine ⟨⟨document, hv, ?_⟩, fun x => ?_, (reads_setting hv hparsing rfl).mp hscratch,
    (reads_setting hv hphases rfl).mp htable, (reads_setting hv hphases rfl).mp htableDir,
    (reads_setting hv hmoderation rfl).mp hphrases,
    (reads_setting hv hmoderation rfl).mp hphrasesFile,
    (reads_setting hv hresolver rfl).mp hcatalog,
    (reads_setting hv hlogging rfl).mp hlevel, (reads_setting hv hlogging rfl).mp hfile⟩
  · simp only [parts, List.forall_mem_cons, ← part?_ne_none_iff, hparsing, hphases, hmoderation,
      hresolver, hreport, hlogging]
    simp
  · cases x with
    | chunkSize => exact (reads_setting hv hparsing rfl).mp hchunk
    | maxLogBytes => exact (reads_setting hv hparsing rfl).mp hlog
    | maxLineBytes => exact (reads_setting hv hparsing rfl).mp hline
    | maxPendingBytes => exact (reads_setting hv hparsing rfl).mp hpending
    | windowCapacity => exact (reads_setting hv hparsing rfl).mp hwindow
    | segmentChars => exact (reads_setting hv hreport rfl).mp hsegment

theorem ofToml?_of_spelled (h : Spelled v raw) : Raw.ofToml? v = some raw := by
  obtain ⟨document, hv, hrecords⟩ := h.records
  have hpart : ∀ p ∈ parts, ∃ fields, part? document p.1 p.2 = some fields := by
    intro p hp
    exact Option.ne_none_iff_exists'.mp (part?_ne_none_iff.mpr (hrecords p hp))
  simp only [parts, List.forall_mem_cons] at hpart
  obtain ⟨⟨parsing, hparsing⟩, ⟨phases, hphases⟩, ⟨moderation, hmoderation⟩,
    ⟨resolver, hresolver⟩, ⟨report, hreport⟩, ⟨logging, hlogging⟩, -⟩ := hpart
  rw [Raw.ofToml?]
  refine bind_eq_some_iff.mpr ⟨document, hv, ?_⟩
  refine bind_eq_some_iff.mpr ⟨parsing, hparsing, ?_⟩
  refine bind_eq_some_iff.mpr ⟨phases, hphases, ?_⟩
  refine bind_eq_some_iff.mpr ⟨moderation, hmoderation, ?_⟩
  refine bind_eq_some_iff.mpr ⟨resolver, hresolver, ?_⟩
  refine bind_eq_some_iff.mpr ⟨report, hreport, ?_⟩
  refine bind_eq_some_iff.mpr ⟨logging, hlogging, ?_⟩
  refine bind_eq_some_iff.mpr ⟨_, (reads_setting hv hparsing rfl).mpr (h.number .chunkSize), ?_⟩
  refine bind_eq_some_iff.mpr ⟨_, (reads_setting hv hparsing rfl).mpr (h.number .maxLogBytes), ?_⟩
  refine bind_eq_some_iff.mpr ⟨_, (reads_setting hv hparsing rfl).mpr (h.number .maxLineBytes), ?_⟩
  refine bind_eq_some_iff.mpr
    ⟨_, (reads_setting hv hparsing rfl).mpr (h.number .maxPendingBytes), ?_⟩
  refine bind_eq_some_iff.mpr
    ⟨_, (reads_setting hv hparsing rfl).mpr (h.number .windowCapacity), ?_⟩
  refine bind_eq_some_iff.mpr ⟨_, (reads_setting hv hparsing rfl).mpr h.scratchDirectory, ?_⟩
  refine bind_eq_some_iff.mpr ⟨_, (reads_setting hv hphases rfl).mpr h.defaultTable, ?_⟩
  refine bind_eq_some_iff.mpr ⟨_, (reads_setting hv hphases rfl).mpr h.userTableDirectory, ?_⟩
  refine bind_eq_some_iff.mpr ⟨_, (reads_setting hv hmoderation rfl).mpr h.bannedPhrases, ?_⟩
  refine bind_eq_some_iff.mpr ⟨_, (reads_setting hv hmoderation rfl).mpr h.bannedPhrasesFile, ?_⟩
  refine bind_eq_some_iff.mpr ⟨_, (reads_setting hv hresolver rfl).mpr h.catalogFile, ?_⟩
  refine bind_eq_some_iff.mpr ⟨_, (reads_setting hv hreport rfl).mpr (h.number .segmentChars), ?_⟩
  refine bind_eq_some_iff.mpr ⟨_, (reads_setting hv hlogging rfl).mpr h.logLevel, ?_⟩
  refine bind_eq_some_iff.mpr ⟨_, (reads_setting hv hlogging rfl).mpr h.logFile, ?_⟩
  rfl

/-- **The settings that are read** are those that the document holds. -/
theorem Raw.ofToml?_eq_some_iff : Raw.ofToml? v = some raw ↔ Spelled v raw :=
  ⟨spelled_of_ofToml?, ofToml?_of_spelled⟩

end
end LogTriage.Config
