import LogTriage.CommandLine.Help
import LogTriage.CommandLine.Output
import LogTriage.Discovery
import LogTriage.Phase.Library
import LogTriage.SharedAnalyzer

/-!
# The program

The arguments and the configuration say with which table, phrases and catalog which files are
analysed.  A catalog that cannot be read leaves all products unknown; without a table, or with
phrases that cannot be read, nothing is analysed.
-/

namespace LogTriage.CommandLine

def configFileName : String := "config.toml"
def phaseDirName : String := "phases"

section
variable {m : Type → Type} [Monad m]

/-- The products of a catalog; if it cannot be read, none. -/
def loadResolver (fs : Files m) (path : Option String) : m Resolver := do
  match path with
  | none => return .unknown
  | some path =>
    match ← Catalog.load fs path with
    | .ok catalog => return catalog.resolve
    | .error _ => return .unknown

/-- The analyzer that the options and the configuration ask for. -/
def prepare (fs : Files m) (configDir : String) (options : Options) (config : Config) :
    m (Except String Analyzer) := do
  let phaseDir :=
    (options.phaseDir <|> config.userTableDir).getD (Path.join configDir phaseDirName)
  let library ← TableLibrary.load fs (some phaseDir)
  match PhaseTable.select library.tables (options.table.getD config.phaseTable) with
  | .error e => return .error e.message
  | .ok table =>
    let resolver ← loadResolver fs (options.catalog <|> config.catalogFile)
    let config := { config with
      bannedPhrasesFile := options.banned <|> config.bannedPhrasesFile }
    match ← (Analyzer.ofConfig config table).reloadBanned fs config with
    | .error e => return .error e.message
    | .ok analyzer => return .ok { analyzer with resolver }

/-- Analyses the file at a path. -/
def analyseFile (fs : Files m) (analyzer : Analyzer) (path : String) : m FileResult := do
  let attachment ← Attachment.ofPath fs path
  let opened ← attachment.openFile fs none
  return { path, run := analyzer.run attachment opened }

def analyse (fs : Files m) (configDir : String) (options : Options) : m Outcome := do
  let configPath := options.config.getD (Path.join configDir configFileName)
  let (config, _) ← Config.load fs configPath
  match ← prepare fs configDir options config with
  | .error message => return .failed message
  | .ok analyzer =>
    let found ← Discovery.collect fs options.paths options.recursive Discovery.maxDepth
    if found.files.isEmpty then return .failed "no log attachments found"
    else
      let results ← found.files.mapM (analyseFile fs analyzer)
      return outcome (.ofSegmentChars config.segmentChars) options results

/-- Runs the program; `configDir` is where its configuration stands by default. -/
def run (fs : Files m) (configDir : String) (args : List String) : m Outcome := do
  match Request.ofArgs args with
  | .analyse options => analyse fs configDir options
  | .help => return { stdout := helpText }
  | .summary => return { stdout := summaryText }
  | .version => return { stdout := versionText }
  | .usage => return { exitCode := exitUsage, stderr := usageText }

end

end LogTriage.CommandLine
