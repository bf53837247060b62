import LogTriage.Line.Error
import LogTriage.Line.Splitter

/-!
# Lines of a chunked log

Chunks of bytes become lines of text.  A character may be cut between two chunks: its first bytes
are carried to the next one.  Lines are given out before any further chunk is taken, and an error
after the lines that were complete before it.  The first error is the last item.
-/

namespace LogTriage

/-- Bounds on what is held between two chunks. -/
structure LineLimits where
  /-- Bytes of an incomplete character. -/
  maxPending : Nat := 16
  /-- Bytes of an unfinished line. -/
  maxLine : Nat := 1048576
deriving DecidableEq, Inhabited

/-- What a source of bytes gives at once. -/
abbrev Chunk := Except StreamError Bytes

abbrev LineItem := Except LineError Line

structure Assembler where
  limits : LineLimits
  /-- What the source has still to give. -/
  source : List Chunk
  splitter : Splitter
  /-- Bytes of an incomplete character. -/
  pending : Bytes := []
  /-- Complete lines that have not been given out. -/
  ready : List Line := []
  /-- Given out after the lines that are ready. -/
  failed : Option LineError := none
  /-- Bytes that have been decoded. -/
  offset : Nat := 0
  /-- No further chunk is taken. -/
  done : Bool := false

namespace Assembler

def ofChunks (limits : LineLimits) (source : List Chunk) : Assembler :=
  { limits, source, splitter := { maxLine := limits.maxLine } }

def fail (a : Assembler) (error : LineError) : Assembler :=
  { a with done := true, failed := some error }

def failTooLong (a : Assembler) (length : Nat) : Assembler :=
  a.fail (.lineTooLong length a.limits.maxLine)

/-- Hands the complete lines over to be given out. -/
def handOver (a : Assembler) : Assembler :=
  { a with
    ready := a.ready ++ a.splitter.lines.reverse
    splitter := { a.splitter with lines := [] } }

/-- After the text of a chunk: its ill-formed bytes, or what has to wait for the next chunk. -/
def settle (a : Assembler) (held : Bytes) (fault : Option Bytes) : Assembler :=
  match a.splitter.tooLong, fault with
  | some length, _ => a.failTooLong length
  | none, some bytes => a.fail (.invalidEncoding a.offset bytes)
  | none, none =>
    if a.limits.maxPending < held.length then
      a.fail (.pendingOverflow held.length a.limits.maxPending)
    else
      let a := { a with pending := held }
      if a.limits.maxLine < a.splitter.length then a.failTooLong a.splitter.length else a

def pushChunk (a : Assembler) (chunk : Bytes) : Assembler :=
  if chunk.isEmpty then a
  else
    let reading := Text.Reading.read { held := a.pending } chunk
    let a := { a with
      pending := []
      offset := a.offset + Text.utf8Size reading.chars
      splitter := a.splitter.pushText reading.text }
    (a.settle reading.held reading.fault).handOver

/-- The source has ended: what is left is a line, and bytes that are left are no character. -/
def finish (a : Assembler) : Assembler :=
  let splitter := if a.splitter.unfinished.isEmpty then a.splitter else a.splitter.close 0
  let a := { a with done := true, splitter }.handOver
  if a.pending.isEmpty then a
  else { a with failed := some (.invalidEncoding a.offset a.pending), pending := [] }

/-- Takes the next chunk from the source. -/
def pull (a : Assembler) : Assembler :=
  match a.source with
  | [] => a.finish
  | .ok chunk :: source => { a with source }.pushChunk chunk
  | .error e :: source => { a with source }.fail (.source e)

/-- The next item that needs no further chunk. -/
def pop? (a : Assembler) : Option (LineItem × Assembler) :=
  match a.ready, a.failed with
  | line :: ready, _ => some (.ok line, { a with ready })
  | [], some error => some (.error error, { a with failed := none })
  | [], none => none

/-- The next item; `pulls` bounds the chunks that are taken for it. -/
def nextWithin (a : Assembler) : Nat → Option LineItem × Assembler
  | 0 => (none, a)
  | pulls + 1 =>
    match a.pop? with
    | some (item, a) => (some item, a)
    | none => if a.done then (none, a) else a.pull.nextWithin pulls

/-- The next item, if there is one.  One pull for each chunk, one for the end of the source and a
last look are enough. -/
def next (a : Assembler) : Option LineItem × Assembler := a.nextWithin (a.source.length + 2)

/-- The items that need no further chunk. -/
def settled (a : Assembler) : List LineItem :=
  a.ready.map .ok ++ match a.failed with
    | some error => [.error error]
    | none => []

/-- All items, in order; `pulls` bounds the chunks that are taken. -/
def itemsWithin (a : Assembler) : Nat → List LineItem
  | 0 => a.settled
  | pulls + 1 =>
    if a.done || a.failed.isSome then a.settled
    else a.ready.map .ok ++ ({ a with ready := [] }.pull).itemsWithin pulls

/-- All items, in order.  One pull for each chunk and one for the end of the source are enough. -/
def items (a : Assembler) : List LineItem := a.itemsWithin (a.source.length + 1)

end Assembler

end LogTriage
