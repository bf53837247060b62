import LogTriage.Analysis
import LogTriage.Report.Normal
import LogTriage.Text.Padding

/-!
# Lines of a report

The lines in which an analysis is summed up: the build, the product, the settings of the processor
and of the graphics card, and what the driver reports.  Settings stand in two columns.
-/

namespace LogTriage.Report
open Text

/-- A field that is missing is unknown, unless it would be a number. -/
def numericFields : List String :=
  ["ppu_threads", "spu_threads", "spu_delay_penalty", "resolution_scale",
    "texture_scale_threshold"]

def valueOf (fields : FieldMap) (key : String) : String :=
  match fields.get? key with
  | some value => value
  | none => if numericFields.contains key then "N/A" else "Unknown"

/-- Two settings on one line; the value of the first ends at the same place in all lines. -/
def row (fields : FieldMap) (label : String) (width : Nat) (key label' key' : String) : String :=
  label ++ ": " ++ padStart width (valueOf fields key) ++ " | " ++ label' ++ ": "
    ++ valueOf fields key'

def cpuLines (fields : FieldMap) : List String := [
  row fields "PPU Decoder" 21 "ppu_decoder" "Thread Scheduler" "thread_scheduler",
  row fields "SPU Decoder" 21 "spu_decoder" "SPU Threads" "spu_threads",
  row fields "SPU Lower Thread Priority" 7 "spu_lower_thread_priority"
    "Hook Static Functions" "hook_static_functions",
  row fields "SPU Loop Detection" 14 "spu_loop_detection" "Lib Loader" "lib_loader",
  row fields "PPU Threads" 21 "ppu_threads" "SPU Delay Penalty" "spu_delay_penalty"]

def videoLines (fields : FieldMap) : List String :=
  [ row fields "Renderer" 24 "renderer" "Frame Limit" "frame_limit",
    row fields "Resolution" 22 "resolution" "Write Color Buffers" "write_color_buffers",
    row fields "Resolution Scale" 16 "resolution_scale"
      "Use GPU texture scaling" "gpu_texture_scaling",
    row fields "Resolution Scale Threshold" 6 "texture_scale_threshold"
      "Anisotropic Filter Override" "af_override",
    row fields "VSync" 27 "vsync" "Strict Rendering Mode" "strict_rendering_mode"]
  ++ ((fields.get? "aspect_ratio").map fun aspect => "Aspect Ratio: " ++ padStart 20 aspect).toList
  ++ ["GPU: " ++ padStart 29 (valueOf fields "gpu")]

/-- What the graphics driver reports, where the log has it. -/
def driverLines (fields : FieldMap) : List String :=
  let vulkan := (fields.get? "vulkan_gpu").map fun gpu =>
    match fields.get? "vulkan_driver_version" with
    | some driver => "Vulkan GPU: " ++ gpu ++ " (driver " ++ driver ++ ")"
    | none => "Vulkan GPU: " ++ gpu
  let renderer := (fields.get? "gl_renderer").map ("GL Renderer: " ++ ·)
  let version := (fields.get? "gl_version").map ("GL Version: " ++ ·)
  vulkan.toList ++ renderer.toList ++ version.toList

/-- The longest title that is shown whole. -/
def maxTitle : Nat := 40

def trimTitle (title : String) : String :=
  if title.length ≤ maxTitle then title else take (maxTitle - 3) title ++ "..."

/-- Shown where there is no pull request. -/
def noPullRequest : String := "¯\\_(ツ)_/¯"

def threadUrl (thread : Nat) : String :=
  "https://forums.rpcs3.net/thread-" ++ toString thread ++ ".html"

/-- What is known of the product: a known one with its compatibility and the link to its thread,
one that is not known with its serial, and its title if the log gives it. -/
def productLines (p : Product) : List String :=
  if p.isKnown then
    ("ID:" ++ padEnd 9 (p.serial.getD "")
      ++ " Title:" ++ padEnd 40 (trimTitle (p.title.getD "Unknown"))
      ++ " PR:" ++ padEnd 4 ((p.pullRequest.map toString).getD noPullRequest)
      ++ " Status:" ++ padEnd 8 p.status.label
      ++ " Updated:" ++ padEnd 10 ((p.updated.map Date.text).getD ""))
    :: (p.thread.map threadUrl).toList
  else
    match p.serial with
    | some serial =>
      ("Product code " ++ serial
        ++ " was not found in compatibility database, possibly untested!")
      :: (p.title.map ("Title: " ++ ·)).toList
    | none => ["No product code found in the log."]

def librariesText (libraries : List String) : String :=
  if libraries.isEmpty then "None" else String.intercalate ", " libraries

/-- The build and the processor, where the log has them. -/
def buildLines (fields : FieldMap) : List String :=
  ["build", "cpu_info"].filterMap fields.get?

/-- The whole summary; blank lines stand between its parts. -/
def summaryLines (a : Analysis) : List String :=
  let fields := normalize a.fields
  let build := buildLines fields
  build ++ (if build.isEmpty then [] else [""])
    ++ productLines a.product ++ [""]
    ++ cpuLines fields ++ ["Selected Libraries: " ++ librariesText a.libraries, ""]
    ++ videoLines fields ++ driverLines fields

end LogTriage.Report
