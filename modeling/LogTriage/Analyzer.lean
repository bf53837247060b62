import LogTriage.Config
import LogTriage.Engine.Basic
import LogTriage.Stream.Open
import LogTriage.Text.Quoted

/-!
# Analyzers

Everything that an analysis needs besides the log: the table, the limits, the banned phrases and
the resolver.  One analyzer serves any number of analyses; each of them has an engine of its own,
with the phrases that are banned when it begins.
-/

namespace LogTriage

structure Analyzer where
  table : PhaseTable
  engineLimits : EngineLimits := {}
  lineLimits : LineLimits := {}
  stream : StreamConfig := {}
  banned : BannedPhrases := {}
  resolver : Resolver := .unknown
deriving Inhabited

namespace Analyzer

/-- An analyzer with the limits of a configuration, no banned phrases and no known products. -/
def ofConfig (config : Config) (table : PhaseTable) : Analyzer where
  table := table
  engineLimits := { maxLogBytes := config.maxLogBytes, windowCapacity := config.windowCapacity }
  lineLimits := { maxPending := config.maxPendingBytes, maxLine := config.maxLineBytes }
  stream := {
    chunkSize := config.chunkSize
    maxLog := config.maxLogBytes
    scratchDir := config.scratchDir }

/-- A new engine. -/
def engine (a : Analyzer) : Engine :=
  { table := a.table, limits := a.engineLimits, banned := a.banned, resolver := a.resolver }

/-- A record with what it holds, part by part. -/
def describe (name : String) (parts : List String) : String :=
  name ++ " \x7b " ++ String.intercalate ", " parts ++ " \x7d"

/-- The analyzer in one line, for messages; not all of it is shown. -/
def description (a : Analyzer) : String :=
  describe "AnalyzerContext" [
    "table: " ++ Text.quoted a.table.id,
    "engine_limits: " ++ describe "EngineLimits" [
      "max_log_bytes: " ++ toString a.engineLimits.maxLogBytes,
      "window_capacity: " ++ toString a.engineLimits.windowCapacity],
    "line_limits: " ++ describe "LineLimits" [
      "max_pending_bytes: " ++ toString a.lineLimits.maxPending,
      "max_line_bytes: " ++ toString a.lineLimits.maxLine],
    "banned: " ++ toString a.banned.phrases.length,
    ".."]

end Analyzer

end LogTriage
