import LogTriage.Text.Blank
import LogTriage.Text.CategoryTable
import LogTriage.Text.ClassTable

/-!
# Sets of characters

A set of characters is kept as its maximal runs of code points, in increasing order, so that the
complement of a set is as cheap as the set.  No run begins or ends at a surrogate, which is no
character.
-/

namespace LogTriage.Regex
open Text

structure CharSet where
  runs : Array (Nat × Nat)
deriving DecidableEq, Inhabited

namespace CharSet

def maxCode : Nat := 0x10FFFF

/-- Joins the runs that overlap or touch; `current` is the run at hand and `done` those before it,
last one first.  The runs come in order of their first points. -/
def joinGo (current : Nat × Nat) (done : List (Nat × Nat)) :
    List (Nat × Nat) → List (Nat × Nat)
  | [] => (current :: done).reverse
  | run :: runs =>
    if run.1 ≤ current.2 + 1 then joinGo (current.1, max current.2 run.2) done runs
    else joinGo run (current :: done) runs

/-- The characters of the runs, which may come in any order and overlap. -/
def ofRuns (runs : List (Nat × Nat)) : CharSet :=
  match runs.mergeSort (fun a b => a.1 ≤ b.1) with
  | [] => ⟨#[]⟩
  | run :: runs => ⟨(joinGo run [] runs).toArray⟩

def empty : CharSet := ⟨#[]⟩

def isEmpty (s : CharSet) : Bool := s.runs.isEmpty

def singleton (c : Char) : CharSet := ⟨#[(c.toNat, c.toNat)]⟩

/-- The character of a set that has one only. -/
def only? (s : CharSet) : Option Char :=
  match s.runs.toList with
  | [(a, b)] => if a = b then some (Char.ofNat a) else none
  | _ => none

def holds (s : CharSet) (c : Char) : Bool := Runs.holds s.runs c.toNat

def union (s t : CharSet) : CharSet := ofRuns (s.runs.toList ++ t.runs.toList)

def unions (sets : List CharSet) : CharSet := ofRuns (sets.flatMap fun s => s.runs.toList)

/-- The gaps before, between and after the runs; `start` is the first point not yet passed. -/
def gaps (start : Nat) : List (Nat × Nat) → List (Nat × Nat)
  | [] => if start ≤ maxCode then [(start, maxCode)] else []
  | (first, last) :: runs =>
    if start < first then (start, first - 1) :: gaps (last + 1) runs else gaps (last + 1) runs

def lastBelow : Nat := 0xD7FF
def firstAbove : Nat := 0xE000

/-- The characters of a run, from the first one to the last one, if there are any. -/
def trimmed? (run : Nat × Nat) : Option (Nat × Nat) :=
  let first := if lastBelow < run.1 ∧ run.1 < firstAbove then firstAbove else run.1
  let last := if lastBelow < run.2 ∧ run.2 < firstAbove then lastBelow else run.2
  if first ≤ last then some (first, last) else none

def complement (s : CharSet) : CharSet := ⟨((gaps 0 s.runs.toList).filterMap trimmed?).toArray⟩

/-- The set that a pattern gets when it asks for all other characters.  Two runs that have nothing
but the surrogates between them leave a gap with no characters, and its ends, the last character
below the surrogates and the first one above them, change places: the gap holds these two. -/
def negated (s : CharSet) : CharSet :=
  if s.runs.any (·.2 == lastBelow) && s.runs.any (·.1 == firstAbove) then
    ofRuns ((lastBelow, firstAbove) :: s.complement.runs.toList)
  else s.complement

def inter (s t : CharSet) : CharSet := (s.complement.union t.complement).complement

def diff (s t : CharSet) : CharSet := s.inter t.complement

def symmDiff (s t : CharSet) : CharSet := (s.diff t).union (t.diff s)

/-- The code points that have a folded form, each with it. -/
def foldPairs : Array (Nat × Nat) :=
  foldRows.flatMap fun (first, last, step, shift) =>
    (Array.range ((last - first) / step + 1)).map fun i =>
      (first + i * step, Int.toNat (first + i * step + shift))

/-- The pairs whose folded form is an ASCII letter's, of ASCII letters alone. -/
def asciiPairs : Array (Nat × Nat) := foldPairs.filter fun (c, _) => c < 0x80

/-- With each character, all that differ from it in case only. -/
def foldBy (pairs : Array (Nat × Nat)) (s : CharSet) : CharSet :=
  let folded := pairs.toList.filterMap fun (c, f) =>
    if Runs.holds s.runs c then some (f, f) else none
  let s := ofRuns (s.runs.toList ++ folded)
  let same := pairs.toList.filterMap fun (c, f) =>
    if Runs.holds s.runs f then some (c, c) else none
  ofRuns (s.runs.toList ++ same)

def fold (s : CharSet) : CharSet := foldBy foldPairs s

def foldAscii (s : CharSet) : CharSet := foldBy asciiPairs s

/-- Within ASCII. -/
def isAscii (s : CharSet) : Bool := s.runs.all fun run => run.2 < 0x80

def any : CharSet := ⟨#[(0, maxCode)]⟩

def word : CharSet := ⟨wordRuns⟩

def digit : CharSet := ofRuns decimalNumberRuns.toList

def space : CharSet := ofRuns blankRuns

/-- The ASCII classes that are known by a name. -/
def named : List (String × List (Nat × Nat)) := [
  ("alnum", [(0x30, 0x39), (0x41, 0x5A), (0x61, 0x7A)]),
  ("alpha", [(0x41, 0x5A), (0x61, 0x7A)]),
  ("ascii", [(0, 0x7F)]),
  ("blank", [(0x09, 0x09), (0x20, 0x20)]),
  ("cntrl", [(0, 0x1F), (0x7F, 0x7F)]),
  ("digit", [(0x30, 0x39)]),
  ("graph", [(0x21, 0x7E)]),
  ("lower", [(0x61, 0x7A)]),
  ("print", [(0x20, 0x7E)]),
  ("punct", [(0x21, 0x2F), (0x3A, 0x40), (0x5B, 0x60), (0x7B, 0x7E)]),
  ("space", [(9, 13), (0x20, 0x20)]),
  ("upper", [(0x41, 0x5A)]),
  ("word", [(0x30, 0x39), (0x41, 0x5A), (0x5F, 0x5F), (0x61, 0x7A)]),
  ("xdigit", [(0x30, 0x39), (0x41, 0x46), (0x61, 0x66)])]

def named? (name : String) : Option CharSet := (named.lookup name).map ofRuns

end CharSet

end LogTriage.Regex
