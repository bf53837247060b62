import LogTriage.Analysis

/-!
# Escaping for chat

A backtick opens a code block and an at sign a mention.  Escaping puts a zero-width joiner after
each of these two *active* characters, unless one is there already, so that escaping twice is
escaping once.
-/

namespace LogTriage.Escape

def joiner : Char := '\u200D'

/-- The characters that a chat interprets. -/
def active (c : Char) : Bool := c == '\x60' || c == '@'

/-- Escapes the text that follows `done`, which is held reversed. -/
def charsGo (done : List Char) : List Char → List Char
  | [] => done.reverse
  | c :: cs =>
    if active c && cs.head? ≠ some joiner then charsGo (joiner :: c :: done) cs
    else charsGo (c :: done) cs

def chars (cs : List Char) : List Char := charsGo [] cs

end Escape

/-- Gives `s` with every active character made harmless. -/
def escape (s : String) : String := String.ofList (Escape.chars s.toList)

def FieldMap.escape (m : FieldMap) : FieldMap := m.mapValues LogTriage.escape

/-- Serial, title and commit are the texts that a log or a database supplies. -/
def Product.escape (p : Product) : Product :=
  { p with
    serial := p.serial.map LogTriage.escape
    title := p.title.map LogTriage.escape
    commit := p.commit.map LogTriage.escape }

def BannedHit.escape (hit : BannedHit) : BannedHit :=
  { hit with trigger := LogTriage.escape hit.trigger, context := LogTriage.escape hit.context }

end LogTriage
