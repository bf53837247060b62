import LogTriage.Phase.Definition

/-!
# Built-in tables

Two tables come with the program.  Both read the header, the system and the settings of a log.
The first one stops there; the second one goes on to the end of the session and then waits for
the next one.
-/

namespace LogTriage

/-- A line `label: value` of a block of settings, whose value becomes a field. -/
structure Setting where
  label : String
  field : String
  /-- A block without this line is matched all the same. -/
  optional : Bool := false

namespace Setting

def line (s : Setting) : String := s.label ++ ": (?P<" ++ s.field ++ ">[^\\n]*)\\n"

/-- The line, after any others. -/
def laterLine (s : Setting) : String :=
  if s.optional then "(?:.*?" ++ s.line ++ ")?" else ".*?" ++ s.line

/-- Matches settings in this order, with any lines between them. -/
def pattern : List Setting → String
  | [] => "(?s)"
  | first :: rest => "(?s)" ++ first.line ++ String.join (rest.map laterLine)

end Setting

namespace BuiltinTables

def headerPhase : PhaseDefinition :=
  { name := "header"
    triggers := ["Compatibility notice:"]
    pattern := some "(?P<build>RPCS3 v[^\\n]*)\\n(?P<cpu_info>[^\\n]*)" }

def systemPhase : PhaseDefinition :=
  { name := "system"
    triggers := ["Core:"]
    handlers := [.resolveProduct, .bannedContent] }

def corePhase : PhaseDefinition :=
  { name := "core"
    triggers := ["VFS:"]
    pattern := some (Setting.pattern [
      ⟨"Decoder", "ppu_decoder", false⟩,
      ⟨"Threads", "ppu_threads", false⟩,
      ⟨"scheduler", "thread_scheduler", false⟩,
      ⟨"Decoder", "spu_decoder", false⟩,
      ⟨"priority", "spu_lower_thread_priority", false⟩,
      ⟨"SPU Threads", "spu_threads", false⟩,
      ⟨"penalty", "spu_delay_penalty", false⟩,
      ⟨"detection", "spu_loop_detection", false⟩,
      ⟨"Loader", "lib_loader", false⟩,
      ⟨"functions", "hook_static_functions", false⟩])
    handlers := [.collectLibraries] }

def vfsPhase : PhaseDefinition := { name := "vfs", triggers := ["Video:"] }

/-- The settings of the screen, some of them between the resolution and the frame limit. -/
def videoPhase (screen : List Setting) : PhaseDefinition :=
  { name := "video"
    triggers := ["Audio:"]
    pattern := some (Setting.pattern (
      [⟨"Renderer", "renderer", false⟩, ⟨"Resolution", "resolution", false⟩] ++ screen ++
      [⟨"Frame limit", "frame_limit", false⟩,
       ⟨"Write Color Buffers", "write_color_buffers", false⟩,
       ⟨"VSync", "vsync", false⟩,
       ⟨"Use GPU texture scaling", "gpu_texture_scaling", false⟩,
       ⟨"Strict Rendering Mode", "strict_rendering_mode", false⟩,
       ⟨"Resolution Scale", "resolution_scale", false⟩,
       ⟨"Anisotropic Filter Override", "af_override", false⟩,
       ⟨"Minimum Scalable Dimension", "texture_scale_threshold", false⟩,
       ⟨"Adapter", "gpu", true⟩])) }

def audioPhase (onTrigger : Completion) : PhaseDefinition :=
  { name := "audio", triggers := ["Log:"], onTrigger }

/-- A quotation mark around the name of a graphics card. -/
def quotePattern : String := "(?:\\x27|\")"

def bodyPhase : PhaseDefinition :=
  { name := "body"
    triggers := ["Stopping emulator...", "All threads stopped..."]
    pattern := some (
      "(?s)\\A"
      ++ "(?:.*?Found vulkan-compatible GPU: " ++ quotePattern
      ++ "(?P<vulkan_gpu>[^\\x27\"\\n]*)" ++ quotePattern
      ++ " running on driver (?P<vulkan_driver_version>[^\\n]*))?"
      ++ "(?:.*?GL RENDERER: (?P<gl_renderer>[^\\n]*))?"
      ++ "(?:.*?GL VERSION: (?P<gl_version>[^\\n]*))?")
    handlers := [.bannedContent]
    flushProbe := some .driverBanner
    onTrigger := .rearm }

def settings : TableDefinition :=
  { id := "rpcs3-settings"
    name := "RPCS3 settings block"
    version := "1"
    description := "Build header, system info and the Core/VFS/Video/Audio configuration dump. "
      ++ "Stops at 'Log:'."
    phases := [headerPhase, systemPhase, corePhase, vfsPhase, videoPhase [], audioPhase .stop] }

def session : TableDefinition :=
  { id := "rpcs3-session"
    name := "RPCS3 session"
    version := "2"
    description := "Settings block plus the emulation body. Rearms on emulator stop so "
      ++ "concatenated logs are analysed section by section."
    phases := [headerPhase, systemPhase, corePhase, vfsPhase,
      videoPhase [⟨"Aspect ratio", "aspect_ratio", true⟩], audioPhase .advance, bodyPhase] }

def definitions : List TableDefinition := [settings, session]

end BuiltinTables

/-- The built-in tables, ready for use. -/
def PhaseTable.builtins : List PhaseTable :=
  BuiltinTables.definitions.filterMap fun d => (d.validate true).toOption

end LogTriage
