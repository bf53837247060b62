/-!
# Splitting text into lines

Text arrives in pieces of any size.  A line ends at a line feed and is given without it and
without one carriage return before it.  A byte-order mark at the very start is no part of any
line.  Each line knows how many bytes it took: its own, those of its line feed and its carriage
return, and for the first line those of a byte-order mark before it.
-/

namespace LogTriage

structure Line where
  text : String
  /-- Bytes of the log that the line took. -/
  raw : Nat
deriving DecidableEq, Inhabited

def byteOrderMark : Char := '\uFEFF'

/-- A line without the carriage return that ends it. -/
def stripReturn (s : String) : String :=
  if s.toList.getLast? = some '\r' then String.ofList s.toList.dropLast else s

structure Splitter where
  /-- Bytes that a line may have, its carriage return included. -/
  maxLine : Nat
  unfinished : String := ""
  /-- Bytes that no line has been charged with yet. -/
  uncharged : Nat := 0
  atStart : Bool := true
  /-- The lines that are complete, last one first. -/
  lines : List Line := []
  /-- The length of a line that ended too late; nothing is split after it. -/
  tooLong : Option Nat := none
deriving Inhabited

namespace Splitter

/-- Completes the unfinished line; `terminator` is the size of the line feed that ended it. -/
def close (s : Splitter) (terminator : Nat) : Splitter :=
  { s with
    lines := ⟨stripReturn s.unfinished, s.uncharged + s.unfinished.utf8ByteSize + terminator⟩
      :: s.lines
    unfinished := ""
    uncharged := 0 }

def length (s : Splitter) : Nat := s.unfinished.utf8ByteSize

def push (s : Splitter) (c : Char) : Splitter :=
  if s.tooLong.isSome then s
  else if s.atStart && c == byteOrderMark then
    { s with atStart := false, uncharged := s.uncharged + byteOrderMark.utf8Size }
  else if c = '\n' then
    let s := { s with atStart := false }
    if s.maxLine < s.length then { s with tooLong := some s.length } else s.close 1
  else { s with atStart := false, unfinished := s.unfinished.push c }

def pushText (s : Splitter) (text : List Char) : Splitter := text.foldl push s

theorem pushText_append (s : Splitter) (t u : List Char) :
    s.pushText (t ++ u) = (s.pushText t).pushText u := by
  simp [pushText]

end Splitter

end LogTriage
