import LogTriage.Status
import LogTriage.Text.Blank
import LogTriage.Text.Lowercase
import LogTriage.Text.Substring

/-!
# Banned phrases

A list of phrases in order of priority, searched for in lines without regard to case.  The first
phrase of the list that occurs in any of the lines is the one that counts, with the first line
that holds it.  A blank phrase would occur in every line and is never listed.
-/

namespace LogTriage

structure BannedPhrases where
  phrases : List String := []
deriving DecidableEq, Inhabited

namespace BannedPhrases

/-- The list of the given phrases, without the white space around them and without blank ones. -/
def ofList (phrases : List String) : BannedPhrases :=
  ⟨(phrases.map Text.trimmed).filter (· ≠ "")⟩

/-- A phrase and a line that holds it. -/
def find? (banned : BannedPhrases) (lines : List String) : Option (String × String) :=
  let lowered := lines.map fun line => (Text.lower line.toList, line)
  banned.phrases.findSome? fun phrase =>
    let needle := Text.lower phrase.toList
    (lowered.find? fun l => Text.occurs needle l.1).map fun l => (phrase, l.2)

/-- What is found in the lines of a phase, with the place of the phase. -/
def hit? (banned : BannedPhrases) (phaseIndex : Nat) (phaseName : String) (lines : List String) :
    Option BannedHit :=
  (banned.find? lines).map fun (trigger, context) => { phaseIndex, phaseName, trigger, context }

/-- The phrases that a text lists: one in each line, blank lines and lines that begin with a number
sign aside. -/
def listed (text : String) : List String :=
  ((Text.lines text.toList).map Text.trim).filterMap fun cs =>
    if cs.isEmpty || cs.head? = some '#' then none else some (String.ofList cs)

end BannedPhrases

end LogTriage
