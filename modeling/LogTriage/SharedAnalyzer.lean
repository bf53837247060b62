import LogTriage.Analyzer

/-!
# Analyzers that share their banned phrases

The banned phrases may be replaced while analyses go on.  The list stands in a store, and an
analyzer holds a handle of it; its copies hold the same handle, so that all of them see the list
that was set last.  An analysis begins with the list that stands there at the time.
-/

namespace LogTriage

/-- Stands for a list of banned phrases. -/
structure PhraseHandle where
  place : Nat
deriving DecidableEq, Inhabited

/-- The lists that handles stand for, and how many handles have been given out. -/
structure PhraseStore where
  lists : Nat → BannedPhrases := fun _ => {}
  handles : Nat := 0
deriving Inhabited

namespace PhraseStore

/-- The list at hand. -/
def snapshot (s : PhraseStore) (h : PhraseHandle) : BannedPhrases := s.lists h.place

/-- Sets another list for all that hold the handle. -/
def set (s : PhraseStore) (h : PhraseHandle) (banned : BannedPhrases) : PhraseStore :=
  { s with lists := fun place => if place = h.place then banned else s.lists place }

/-- Bans other phrases for all that hold the handle. -/
def replace (s : PhraseStore) (h : PhraseHandle) (phrases : List String) : PhraseStore :=
  s.set h (.ofList phrases)

/-- Takes a list in and gives out a new handle of it. -/
def add (s : PhraseStore) (banned : BannedPhrases) : PhraseHandle × PhraseStore :=
  let h : PhraseHandle := ⟨s.handles⟩
  (h, { s with handles := s.handles + 1 }.set h banned)

end PhraseStore

/-- An analyzer that holds a handle of its banned phrases, as its copies do. -/
structure SharedAnalyzer where
  table : PhaseTable
  engineLimits : EngineLimits := {}
  lineLimits : LineLimits := {}
  stream : StreamConfig := {}
  banned : PhraseHandle
  resolver : Resolver := .unknown
deriving Inhabited

namespace SharedAnalyzer

/-- An analyzer whose banned phrases are taken into the store. -/
def ofAnalyzer (a : Analyzer) (s : PhraseStore) : SharedAnalyzer × PhraseStore :=
  let (banned, s) := s.add a.banned
  ({ table := a.table
     engineLimits := a.engineLimits
     lineLimits := a.lineLimits
     stream := a.stream
     banned
     resolver := a.resolver }, s)

/-- The analyzer with the phrases that are banned at the time. -/
def analyzer (a : SharedAnalyzer) (s : PhraseStore) : Analyzer where
  table := a.table
  engineLimits := a.engineLimits
  lineLimits := a.lineLimits
  stream := a.stream
  banned := s.snapshot a.banned
  resolver := a.resolver

/-- Bans the phrases that a configuration names in place of the present ones, and tells how many
are banned then; if they cannot be read, nothing changes. -/
def reloadBanned {m : Type → Type} [Monad m] (fs : Files m) (config : Config) (a : SharedAnalyzer)
    (s : PhraseStore) : m (Except ConfigError Nat × PhraseStore) := do
  match ← config.bannedPhraseList fs with
  | .error e => return (.error e, s)
  | .ok phrases =>
    let s := s.replace a.banned phrases
    return (.ok (s.snapshot a.banned).phrases.length, s)

end SharedAnalyzer

/-- Bans the phrases that a configuration names in place of the present ones, for an analyzer that
shares them with no other. -/
def Analyzer.reloadBanned {m : Type → Type} [Monad m] (fs : Files m) (config : Config)
    (a : Analyzer) : m (Except ConfigError Analyzer) := do
  let (shared, s) := SharedAnalyzer.ofAnalyzer a {}
  match ← shared.reloadBanned fs config s with
  | (.ok _, s) => return .ok (shared.analyzer s)
  | (.error e, _) => return .error e

end LogTriage
