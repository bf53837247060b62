import LogTriage.Text.Padding

/-!
# Segments

Lines are packed into fenced segments of a bounded number of characters.  A line goes into one
segment whole; one that would not fit into any segment is cut first.  Blank lines do not begin a
segment.
-/

namespace LogTriage.Report
open Text

def fenceOpen : String := "```\n"
def fenceClose : String := "```"

/-- Characters of a segment that its fences take. -/
def fenceSize : Nat := fenceOpen.length + fenceClose.length

def wrap (body : String) : String := fenceOpen ++ body ++ fenceClose

/-- A text of at most `max` characters; the last one of a text that is cut is an ellipsis. -/
def truncate (max : Nat) (s : String) : String :=
  if s.length ≤ max then s else (take (max - 1) s).push '…'

/-- The body of the segment at hand, and the bodies before it, last one first. -/
structure Packing where
  body : String := ""
  done : List String := []
deriving DecidableEq, Inhabited

namespace Packing

/-- Ends the segment at hand. -/
def turn (p : Packing) : Packing := { body := "", done := p.body :: p.done }

def append (p : Packing) (line : String) : Packing := { p with body := (p.body ++ line).push '\n' }

/-- Adds a line to the segment at hand if it fits there, and else begins the next one with it. -/
def add (budget : Nat) (p : Packing) (line : String) : Packing :=
  if p.body.isEmpty && line.isEmpty then p
  else
    let line := truncate (budget - 1) line
    if budget < p.body.length + (line.length + 1) then
      if line.isEmpty then p.turn else p.turn.append line
    else p.append line

/-- The bodies, in order. -/
def bodies (p : Packing) : List String := (if p.body.isEmpty then p else p.turn).done.reverse

end Packing

/-- The bodies that lines are packed into, each of at most `budget` characters. -/
def pack (budget : Nat) (lines : List String) : List String :=
  (lines.foldl (Packing.add budget) {}).bodies

def fence (segmentChars : Nat) (lines : List String) : List String :=
  (pack (segmentChars - fenceSize) lines).map wrap

end LogTriage.Report
