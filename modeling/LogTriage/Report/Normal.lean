import LogTriage.FieldMap
import LogTriage.Text.Lowercase
import LogTriage.Text.Substring

/-!
# Fields as they are shown

Some settings are shown under other names than the log gives them: counts of zero as "Auto", the
loader of libraries by a short label, a strict rendering mode in the place of the scale it
overrides, truth values by a mark.
-/

namespace LogTriage.Report

/-- A short label for the way in which libraries are loaded. -/
def loaderLabel (raw : String) : String :=
  let lower := Text.lowered raw
  match Text.holds lower "auto", Text.holds lower "manual" with
  | true, true => "Auto & manual select"
  | true, false => "Auto"
  | false, true => "Manual selection"
  | false, false => raw

/-- Replaces the value under `key` where `label` has one for it. -/
def relabel (key : String) (label : String → Option String) (fields : FieldMap) : FieldMap :=
  match (fields.get? key).bind label with
  | some value => fields.insert key value
  | none => fields

def autoLabel (value : String) : Option String := if value = "0" then some "Auto" else none

def filterLabel (value : String) : Option String :=
  if value = "0" then some "Auto" else if value = "1" then some "Disabled" else none

def markOf (value : String) : String :=
  if value = "true" then "✓" else if value = "false" then "✗" else value

/-- A strict rendering mode overrides the scale. -/
def overrideScale (fields : FieldMap) : FieldMap :=
  if fields.get? "strict_rendering_mode" = some "true" then
    fields.insert "resolution_scale" "Strict Mode"
  else fields

/-- A name of the graphics card that says nothing is no name. -/
def dropEmptyGpu (fields : FieldMap) : FieldMap :=
  match fields.get? "gpu" with
  | some value => if value = "\"\"" ∨ value = "" then fields.erase "gpu" else fields
  | none => fields

def normalize (fields : FieldMap) : FieldMap :=
  let fields := relabel "ppu_threads" autoLabel fields
  let fields := relabel "spu_threads" autoLabel fields
  let fields := relabel "af_override" filterLabel fields
  let fields := overrideScale fields
  let fields := relabel "lib_loader" (fun value => some (loaderLabel value)) fields
  (dropEmptyGpu fields).mapValues markOf

end LogTriage.Report
