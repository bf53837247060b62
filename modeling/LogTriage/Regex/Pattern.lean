import LogTriage.Regex.Parser
import LogTriage.Regex.Matcher
import LogTriage.Regex.Size

/-!
# Patterns

A pattern that can be matched, with the text it was made from.  A match gives the named groups that
took part in it, each with the text it holds, in the order in which the groups are opened.
-/

namespace LogTriage

structure Pattern where
  source : String
  /-- Named groups, with their numbers. -/
  names : List (String × Nat)
  program : Regex.Program
deriving Inhabited

namespace Pattern

/-- The pattern that a text stands for, unless it is malformed or its size is over the limit. -/
def compile? (source : String) : Option Pattern :=
  match Regex.parse? source with
  | none => none
  | some (e, names) =>
    if e.isCompact then some { source, names, program := .ofExpr e } else none

def hasGroup (p : Pattern) (name : String) : Bool := p.names.any (·.1 == name)

/-- The text between the two positions that a group has recorded. -/
def groupText? (text : List Char) (slots : Regex.Slots) (group : Nat) : Option String :=
  match slots.getD (2 * group) none, slots.getD (2 * group + 1) none with
  | some first, some last => some (String.ofList ((text.drop first).take (last - first)))
  | _, _ => none

/-- The named groups that took part in the preferred leftmost match, with their texts. -/
def captures? (p : Pattern) (text : String) : Option (List (String × String)) :=
  let cs := text.toList
  match p.program.run? cs with
  | none => none
  | some slots => some (p.names.filterMap fun (name, group) =>
      (groupText? cs slots group).map fun value => (name, value))

end Pattern

end LogTriage
