import LogTriage.Text.Padding

/-!
# Help

The texts that explain the arguments.  A summary has one line for each argument; the full text has
a paragraph for each, with the meaning of the values.
-/

namespace LogTriage.CommandLine

def unlines (lines : List String) : String := String.join (lines.map (· ++ "\n"))

def versionText : String := "LogWarden 1.0.0\n"

def usageLine : String := "Usage: logwarden [OPTIONS] <PATHS>..."

/-- What is said when the arguments cannot be understood. -/
def usageText : String :=
  unlines ["error: invalid arguments", "", usageLine, "", "For more information, try '--help'."]

/-- What there is to say about one argument. -/
structure HelpEntry where
  /-- The forms of the argument. -/
  forms : String
  text : String
  /-- The value that stands when none is given. -/
  preset : Option String := none
  /-- The possible values, each with its meaning. -/
  values : List (String × String) := []

def presetRemark (value : String) : String := "[default: " ++ value ++ "]"

/-- The arguments that are paths. -/
def pathEntries : List HelpEntry := [
  { forms := "<PATHS>...", text := "Log files or directories to analyse" }]

/-- The options; `helpRemark` says what the other help text holds. -/
def optionEntries (helpRemark : String) : List HelpEntry := [
  { forms := "-r, --recursive"
    text := "Descend into subdirectories when a directory is given" },
  { forms := "-c, --config <CONFIG>"
    text := "Config file (defaults to the platform config directory)" },
  { forms := "-t, --table <TABLE>", text := "Phase table id to analyse with" },
  { forms := "-p, --phase-dir <PHASE_DIR>"
    text := "Additional directory containing user-defined phase tables" },
  { forms := "-b, --banned <BANNED>", text := "File with one banned phrase per line" },
  { forms := "    --catalog <CATALOG>", text := "JSON export of the compatibility database" },
  { forms := "-f, --format <FORMAT>"
    text := "Output format"
    preset := some "plain"
    values := [
      ("plain", "Fenced plain-text segments"),
      ("structured", "Named report sections as text"),
      ("json", "Structured reports as JSON")] },
  { forms := "    --best-effort", text := "Print a partial report when an analysis ends early" },
  { forms := "-d, --debug", text := "Enable debug logging (equivalent to RUST_LOG=debug)" },
  { forms := "-h, --help", text := "Print help (" ++ helpRemark ++ ")" },
  { forms := "-V, --version", text := "Print version" }]

def longest (texts : List String) : Nat := (texts.map String.length).foldl max 0

/-! ### The summary -/

/-- Default and possible values stand behind the text. -/
def HelpEntry.summary (width : Nat) (e : HelpEntry) : String :=
  let values :=
    if e.values.isEmpty then []
    else ["[possible values: " ++ String.intercalate ", " (e.values.map (·.1)) ++ "]"]
  "  " ++ Text.padEnd width e.forms ++ "  "
    ++ String.intercalate " " (e.text :: (e.preset.map presetRemark).toList ++ values)

def summaryLines (entries : List HelpEntry) : List String :=
  entries.map (HelpEntry.summary (longest (entries.map (·.forms))))

def summaryText : String :=
  unlines (
    ["Streaming emulator log analyser with phase-table extraction and banned-content screening",
      "", usageLine, "", "Arguments:"]
    ++ summaryLines pathEntries
    ++ ["", "Options:"]
    ++ summaryLines (optionEntries "see more with '--help'"))

/-! ### The full text -/

def margin : String := "          "

/-- The possible values stand in a column of their own. -/
def HelpEntry.paragraph (e : HelpEntry) : List String :=
  let width := longest (e.values.map (·.1)) + 1
  let values := e.values.map fun (name, meaning) =>
    margin ++ "- " ++ Text.padEnd width (name ++ ":") ++ " " ++ meaning
  ["  " ++ e.forms, margin ++ e.text]
    ++ (match e.preset with
      | some value => [margin, margin ++ presetRemark value]
      | none => [])
    ++ if values.isEmpty then [] else ["", margin ++ "Possible values:"] ++ values

/-- The paragraphs with an empty line between them. -/
def paragraphs (entries : List HelpEntry) : List String :=
  [""].intercalate (entries.map HelpEntry.paragraph)

def helpText : String :=
  unlines (
    ["LogWarden - streaming emulator log analyser.",
      "",
      "Reads plain, gzip or zip log attachments, extracts emulator settings with a phase table "
        ++ "and screens the log for banned content.",
      "", usageLine, "", "Arguments:"]
    ++ paragraphs pathEntries
    ++ ["", "Options:"]
    ++ paragraphs (optionEntries "see a summary with '-h'"))

end LogTriage.CommandLine
