import Mathlib.Data.List.Forall2
import LogTriage.Analyzer
import LogTriage.Proofs.Config.Spelled
import LogTriage.Proofs.Line.Limits
import LogTriage.Proofs.Text.Trimmed
import LogTriage.Report.Basic

/-!
# Settings that are in range

Whatever the file of the settings holds, and if there is none, the settings that are used are in
range.  A number is the one in the file if it is in range there, and the default otherwise.  What
is rejected is warned about, once and in the order of the settings, and for the rest it is as if it
were not in the file.

* `Takes.in_range`   one number: what is used is in range;
* `exists_rejected`  each setting that is rejected has its warning;
* `ofRaw_dropFrom`   and changes no other setting;
* `load_in_range`    so what is loaded is in range, and an analyzer may rely on it.
-/

namespace LogTriage.Config

/-! ## One number -/

/-- The number that is used in place of the one that the file holds, if it holds one. -/
structure Takes (low high default : Nat) (written : Option Nat) (used : Nat) : Prop where
  accepted : ∀ n, written = some n → low ≤ n → n ≤ high → used = n
  otherwise : (∀ n, written = some n → n < low ∨ high < n) → used = default

/-- **What is used is in range** if the default is. -/
theorem Takes.in_range {low high default used : Nat} {written : Option Nat}
    (h : Takes low high default written used) (hd : low ≤ default ∧ default ≤ high) :
    low ≤ used ∧ used ≤ high := by
  by_cases hin : ∃ n, written = some n ∧ low ≤ n ∧ n ≤ high
  · obtain ⟨n, hw, hlow, hhigh⟩ := hin
    rw [h.accepted n hw hlow hhigh]
    exact ⟨hlow, hhigh⟩
  · have hout : ∀ n, written = some n → n < low ∨ high < n := by
      intro n hw
      rw [← Nat.not_le, ← Nat.not_le, ← not_and_or]
      exact fun hn => hin ⟨n, hw, hn⟩
    rw [h.otherwise hout]
    exact hd

namespace Range
variable {r : Range} {n : Nat}

theorem admits_iff : r.admits n = true ↔ r.low ≤ n ∧ n ≤ r.high := by
  rw [admits, Bool.and_eq_true, decide_eq_true_iff, decide_eq_true_iff]

theorem admits_eq_false_iff : r.admits n = false ↔ n < r.low ∨ r.high < n := by
  rw [← Bool.not_eq_true, admits_iff, not_and_or, Nat.not_le, Nat.not_le]

theorem pick_of_admits (h : r.admits n = true) : r.pick (some n) = n := by
  rw [pick, Option.filter_some, if_pos h, Option.getD_some]

theorem pick_of_not_admits (h : r.admits n = false) : r.pick (some n) = r.default := by
  rw [pick, Option.filter_some, h, if_neg Bool.false_ne_true, Option.getD_none]

theorem takes_pick (r : Range) (written : Option Nat) :
    Takes r.low r.high r.default written (r.pick written) where
  accepted := by
    rintro n rfl hlow hhigh
    exact pick_of_admits (admits_iff.mpr ⟨hlow, hhigh⟩)
  otherwise := by
    intro h
    cases written with
    | none => rfl
    | some n => exact pick_of_not_admits (admits_eq_false_iff.mpr (h n rfl))

theorem warnings_of_not_out {written : Option Nat}
    (h : ¬ ∃ n, written = some n ∧ (n < r.low ∨ r.high < n)) : r.warnings written = [] := by
  cases written with
  | none => rfl
  | some n =>
    rw [warnings, if_pos]
    rw [← Bool.not_eq_false, admits_eq_false_iff]
    exact fun hout => h ⟨n, rfl, hout⟩

theorem warnings_of_out (h : n < r.low ∨ r.high < n) : r.warnings (some n) =
    [r.label ++ " = " ++ toString n ++ " is out of range (" ++ toString r.low ++ "-"
      ++ toString r.high ++ "). Using default (" ++ toString r.default ++ ")."] := by
  rw [warnings, admits_eq_false_iff.mpr h, if_neg Bool.false_ne_true]

end Range

/-! ## The settings -/

namespace NumberSetting

def range : NumberSetting → Range
  | chunkSize => ⟨"[parsing] chunk_size_bytes", 512, 4 * 1024 * 1024, 64 * 1024⟩
  | maxLogBytes => ⟨"[parsing] max_log_bytes", 64 * 1024, 1024 * 1024 * 1024, 32 * 1024 * 1024⟩
  | maxLineBytes => ⟨"[parsing] max_line_bytes", 1, 16 * 1024 * 1024, 1024 * 1024⟩
  | maxPendingBytes => ⟨"[parsing] max_pending_bytes", 3, 512, 16⟩
  | windowCapacity => ⟨"[parsing] window_capacity", 16, 65536, 256⟩
  | segmentChars => ⟨"[report] segment_chars", 200, 2000, 2000⟩

def used (config : Config) : NumberSetting → Nat
  | chunkSize => config.chunkSize
  | maxLogBytes => config.maxLogBytes
  | maxLineBytes => config.maxLineBytes
  | maxPendingBytes => config.maxPendingBytes
  | windowCapacity => config.windowCapacity
  | segmentChars => config.segmentChars

theorem default_in_range (x : NumberSetting) :
    x.range.low ≤ x.range.default ∧ x.range.default ≤ x.range.high := by
  cases x <;> decide

theorem used_default (x : NumberSetting) : x.used {} = x.range.default := by
  cases x <;> rfl

end NumberSetting

inductive Setting where
  | number (x : NumberSetting)
  | defaultTable
  | logLevel
deriving DecidableEq

namespace Setting

/-- The settings that can be rejected, in their order. -/
def all : List Setting :=
  [.number .chunkSize, .number .maxLogBytes, .number .maxLineBytes, .number .maxPendingBytes,
    .number .windowCapacity, .defaultTable, .number .segmentChars, .logLevel]

def dropFrom (raw : Raw) : Setting → Raw
  | number .chunkSize => { raw with chunkSize := none }
  | number .maxLogBytes => { raw with maxLogBytes := none }
  | number .maxLineBytes => { raw with maxLineBytes := none }
  | number .maxPendingBytes => { raw with maxPendingBytes := none }
  | number .windowCapacity => { raw with windowCapacity := none }
  | number .segmentChars => { raw with segmentChars := none }
  | defaultTable => { raw with defaultTable := none }
  | logLevel => { raw with logLevel := none }

def warnings (raw : Raw) : Setting → List String
  | number x => x.range.warnings (x.written raw)
  | defaultTable => tableWarnings raw.defaultTable
  | logLevel => levelWarnings raw.logLevel

end Setting

/-- A setting of the file is rejected: a number that is out of range, a table without a name, an
unknown level.  The text is its warning. -/
inductive Rejected (raw : Raw) : Setting → String → Prop where
  | number (x : NumberSetting) {n : Nat} (hw : x.written raw = some n)
      (hn : n < x.range.low ∨ x.range.high < n) :
    Rejected raw (.number x) (x.range.label ++ " = " ++ toString n ++ " is out of range ("
      ++ toString x.range.low ++ "-" ++ toString x.range.high ++ "). Using default ("
      ++ toString x.range.default ++ ").")
  | defaultTable {table : String} (hw : raw.defaultTable = some table)
      (hb : Text.blank table = true) :
    Rejected raw .defaultTable "[phases] default_table is empty. Using default (rpcs3-settings)."
  | logLevel {level : String} (hw : raw.logLevel = some level)
      (hl : Text.lowered level ∉ ["error", "warn", "info", "debug", "trace"]) :
    Rejected raw .logLevel ("[logging] level = \"" ++ level ++ "\" is not recognised. "
      ++ "Valid values: error, warn, info, debug, trace. Using default (info).")

section
variable {raw : Raw} {s : Setting} {w : String}

theorem knownLevel_iff {level : String} : knownLevel level = true ↔
    Text.lowered level ∈ ["error", "warn", "info", "debug", "trace"] := List.contains_iff_mem

theorem used_ofRaw (raw : Raw) (x : NumberSetting) :
    x.used (ofRaw raw) = x.range.pick (x.written raw) := by
  cases x <;> rfl

theorem warningsOf_eq (raw : Raw) : warningsOf raw = Setting.all.flatMap (·.warnings raw) := by
  simp only [Setting.all, List.flatMap_cons, List.flatMap_nil, List.append_nil, warningsOf,
    List.append_assoc]
  rfl

theorem tableWarnings_cases (raw : Raw) :
    (tableWarnings raw.defaultTable = [] ∧ ∀ w, ¬ Rejected raw .defaultTable w) ∨
      ∃ w, tableWarnings raw.defaultTable = [w] ∧ Rejected raw .defaultTable w := by
  unfold tableWarnings
  split
  · rename_i hb
    obtain ⟨table, hw, hb⟩ := (Option.any_eq_true _ _).mp hb
    exact .inr ⟨_, rfl, .defaultTable hw hb⟩
  · rename_i hb
    refine .inl ⟨rfl, ?_⟩
    intro w h
    cases h with
    | defaultTable hw hblank => exact hb (by rw [hw, Option.any_some, hblank])

theorem levelWarnings_cases (raw : Raw) :
    (levelWarnings raw.logLevel = [] ∧ ∀ w, ¬ Rejected raw .logLevel w) ∨
      ∃ w, levelWarnings raw.logLevel = [w] ∧ Rejected raw .logLevel w := by
  unfold levelWarnings
  split
  · rename_i hnone
    refine .inl ⟨rfl, ?_⟩
    intro w h
    cases h with
    | logLevel hw hl => cases hnone.symm.trans hw
  · rename_i level hlevel
    split
    · rename_i hk
      refine .inl ⟨rfl, ?_⟩
      intro w h
      cases h with
      | logLevel hw hl =>
        cases hlevel.symm.trans hw
        exact hl (knownLevel_iff.mp hk)
    · rename_i hk
      exact .inr ⟨_, rfl, .logLevel hlevel fun hl => hk (knownLevel_iff.mpr hl)⟩

/-- **A setting that is rejected is warned about once**, and no other one is. -/
theorem warnings_cases (raw : Raw) (s : Setting) :
    (s.warnings raw = [] ∧ ∀ w, ¬ Rejected raw s w) ∨
      ∃ w, s.warnings raw = [w] ∧ Rejected raw s w := by
  cases s with
  | number x =>
    by_cases hout : ∃ n, x.written raw = some n ∧ (n < x.range.low ∨ x.range.high < n)
    · obtain ⟨n, hw, hn⟩ := hout
      refine .inr ⟨_, ?_, .number x hw hn⟩
      rw [Setting.warnings, hw, Range.warnings_of_out hn]
    · refine .inl ⟨Range.warnings_of_not_out hout, ?_⟩
      intro w h
      cases h with
      | number x hw hn => exact hout ⟨_, hw, hn⟩
  | defaultTable => exact tableWarnings_cases raw
  | logLevel => exact levelWarnings_cases raw

theorem exists_rejected (raw : Raw) (settings : List Setting) : ∃ rejected : List Setting,
    rejected.Sublist settings ∧ (∀ s ∈ settings, (∃ w, Rejected raw s w) → s ∈ rejected) ∧
      List.Forall₂ (Rejected raw) rejected (settings.flatMap (·.warnings raw)) := by
  induction settings with
  | nil => exact ⟨[], .slnil, nofun, .nil⟩
  | cons s settings ih =>
    obtain ⟨rejected, hsub, hall, hwarned⟩ := ih
    rw [List.flatMap_cons]
    rcases warnings_cases raw s with ⟨hnone, hkept⟩ | ⟨w, hone, hrejected⟩
    · rw [hnone]
      refine ⟨rejected, hsub.cons s, ?_, hwarned⟩
      rintro t ht ⟨w, hw⟩
      rcases List.mem_cons.mp ht with rfl | ht
      · exact absurd hw (hkept w)
      · exact hall t ht ⟨w, hw⟩
    · rw [hone]
      refine ⟨s :: rejected, hsub.cons_cons s, ?_, .cons hrejected hwarned⟩
      intro t ht hw
      rcases List.mem_cons.mp ht with rfl | ht
      · exact List.mem_cons_self
      · exact List.mem_cons_of_mem _ (hall t ht hw)

/-- **What is rejected might as well not be in the file.** -/
theorem ofRaw_dropFrom (h : Rejected raw s w) : ofRaw (s.dropFrom raw) = ofRaw raw := by
  cases h with
  | number x hw hn =>
    have hpick : x.range.pick none = x.range.pick (x.written raw) := by
      rw [hw, Range.pick_of_not_admits (Range.admits_eq_false_iff.mpr hn)]
      rfl
    cases x <;>
      (simp only [Setting.dropFrom, ofRaw, Config.mk.injEq, and_true, true_and]; exact hpick)
  | defaultTable hw hb =>
    simp only [Setting.dropFrom, ofRaw, hw, Option.map_some, Text.trimmed_eq_empty_iff.mpr hb]
    rfl
  | logLevel hw hl =>
    have hk := mt knownLevel_iff.mp hl
    simp only [Setting.dropFrom, ofRaw, hw, Option.filter_some, if_neg hk]
    rfl

end

/-! ## What is loaded -/

/-- What is loaded from a file in each of its states: the settings, and the warnings. -/
inductive Loaded (fs : Files Id) (path : String) : Config → List String → Prop where
  | missing (hk : fs.kind? path = none) : Loaded fs path {} []
  | unreadable {cause : String} (hk : fs.kind? path ≠ none) (hr : fs.readText path = .error cause) :
    Loaded fs path {}
      ["Could not read config file '" ++ path ++ "': " ++ cause ++ ". Using defaults."]
  | malformed {text warning : String} (hk : fs.kind? path ≠ none) (hr : fs.readText path = .ok text)
      (hp : ∀ v raw, Toml.parse? text = some v → ¬ Spelled v raw) : Loaded fs path {} [warning]
  /-- Each number is that of the file or the default; each setting that is rejected has one warning,
  in the order of the settings; and all else is as if it were not in the file. -/
  | parsed {text : String} {v : Toml.Value} {raw : Raw} {config : Config} {rejected : List Setting}
      {warnings : List String} (hk : fs.kind? path ≠ none) (hr : fs.readText path = .ok text)
      (hp : Toml.parse? text = some v) (hs : Spelled v raw)
      (takes : ∀ x : NumberSetting,
        Takes x.range.low x.range.high x.range.default (x.written raw) (x.used config))
      (ordered : rejected.Sublist Setting.all)
      (complete : ∀ s w, Rejected raw s w → s ∈ rejected)
      (warned : List.Forall₂ (Rejected raw) rejected warnings)
      (without : ∀ s w, Rejected raw s w → ofRaw (s.dropFrom raw) = config) :
    Loaded fs path config warnings

theorem Setting.mem_all (s : Setting) : s ∈ all := by
  cases s with
  | number x => cases x <;> decide
  | defaultTable => decide
  | logLevel => decide

theorem load_eq (fs : Files Id) (path : String) : load fs path
    = match fs.kind? path, (fs.readText path : Except String String) with
      | none, _ => ({}, [])
      | some _, .ok text => ofText path text
      | some _, .error cause =>
        ({}, ["Could not read config file '" ++ path ++ "': " ++ cause
          ++ ". Using defaults."]) := by
  simp only [load, bind, pure]
  cases fs.kind? path with
  | none => rfl
  | some kind => cases (fs.readText path : Except String String) <;> rfl

theorem loaded_load (fs : Files Id) (path : String) :
    Loaded fs path (load fs path : Config × List String).1
      (load fs path : Config × List String).2 := by
  rw [load_eq]
  cases hk : fs.kind? path with
  | none => exact .missing hk
  | some kind =>
    have hk : fs.kind? path ≠ none := by
      rw [hk]
      exact Option.some_ne_none kind
    cases hr : (fs.readText path : Except String String) with
    | error cause => exact .unreadable hk hr
    | ok text =>
      dsimp only
      unfold ofText
      cases hp : (Toml.parse? text).bind Raw.ofToml? with
      | none =>
        refine .malformed hk hr fun v raw hv hs => ?_
        rw [hv, Option.bind_some, Raw.ofToml?_eq_some_iff.mpr hs] at hp
        cases hp
      | some raw =>
        obtain ⟨v, hv, hraw⟩ := Option.bind_eq_some_iff.mp hp
        obtain ⟨rejected, hsub, hall, hwarned⟩ := exists_rejected raw Setting.all
        refine .parsed hk hr hv (Raw.ofToml?_eq_some_iff.mp hraw) (fun x => ?_) hsub
          (fun s w hw => hall s s.mem_all ⟨w, hw⟩) ?_ fun s w => ofRaw_dropFrom
        · rw [used_ofRaw]
          exact x.range.takes_pick _
        · rw [← warningsOf_eq] at hwarned
          exact hwarned

theorem Loaded.in_range {fs : Files Id} {path : String} {config : Config} {warnings : List String}
    (h : Loaded fs path config warnings) (x : NumberSetting) :
    x.range.low ≤ x.used config ∧ x.used config ≤ x.range.high := by
  cases h with
  | missing hk => exact x.used_default ▸ x.default_in_range
  | unreadable hk hr => exact x.used_default ▸ x.default_in_range
  | malformed hk hr hp => exact x.used_default ▸ x.default_in_range
  | parsed hk hr hp hs takes ordered complete warned without =>
    exact (takes x).in_range x.default_in_range

/-- **Settings that are loaded are in range**, whatever their file holds.  An analyzer that is made
with them lets every character through that is cut between two chunks, has one limit for the stream
and for the engine, and can count one byte beyond it; in a segment there is room for the fences. -/
theorem load_in_range (fs : Files Id) (path : String) :
    let loaded : Config × List String := load fs path
    let config := loaded.1
    Loaded fs path config loaded.2 ∧
    (∀ x : NumberSetting, x.range.low ≤ x.used config ∧ x.used config ≤ x.range.high) ∧
    (∀ table, let a := Analyzer.ofConfig config table
      (∀ source pending limit, (.error (.pendingOverflow pending limit) : LineItem)
        ∉ (Assembler.ofChunks a.lineLimits source).items) ∧
      a.engineLimits.maxLogBytes = a.stream.maxLog ∧
      a.stream.maxLog + 1 < UInt64.size ∧ a.stream.maxSpool + 1 < UInt64.size) ∧
    Report.fenceSize = 7 ∧ 7 < config.segmentChars ∧
    (ReportBuilder.ofSegmentChars config.segmentChars).segmentChars = config.segmentChars := by
  intro loaded config
  have hloaded : Loaded fs path config loaded.2 := loaded_load fs path
  have hpending : 3 ≤ config.maxPendingBytes := (hloaded.in_range .maxPendingBytes).1
  have hlog : config.maxLogBytes ≤ 1073741824 := (hloaded.in_range .maxLogBytes).2
  have hsegment : 200 ≤ config.segmentChars ∧ config.segmentChars ≤ 2000 :=
    hloaded.in_range .segmentChars
  refine ⟨hloaded, hloaded.in_range, fun table => ⟨?_, rfl, ?_, ?_⟩, by decide, ?_, ?_⟩
  · exact Assembler.not_pendingOverflow_mem_items hpending
  · exact Nat.lt_of_le_of_lt (Nat.succ_le_succ hlog) (by decide)
  · show 67108864 + 1 < UInt64.size
    decide
  · omega
  · show max 200 (min 2000 config.segmentChars) = config.segmentChars
    omega

end LogTriage.Config
