import LogTriage.Line.Assembler
import LogTriage.Stream.Unpacker

/-!
# Chunks of a log

The decoded bytes of an attachment, chunk by chunk.  No more than a given number of bytes are
given out; when there are more, the stream ends with an error right after them.
-/

namespace LogTriage

namespace ChunkSize

def least : Nat := 512
def greatest : Nat := 4194304

end ChunkSize

structure ChunkStream (σ : Type) where
  chunkSize : Nat
  /-- Bytes that are given out at most. -/
  limit : Nat
  /-- What reading has still to give. -/
  reads : List ReadResult
  /-- Unpacks what is read, if it is packed. -/
  unpacker : Option (Unpacker σ) := none
  delivered : Nat := 0
  /-- There are more bytes than may be given out. -/
  overLimit : Bool := false
  done : Bool := false

namespace ChunkStream
variable {σ : Type}

/-- Reads of which a part was dropped. -/
def skipped (s : ChunkStream σ) : Nat :=
  match s.unpacker with
  | some u => u.skipped
  | none => 0

/-- The next chunk without regard to the limit. -/
def pull (s : ChunkStream σ) : Option ReadResult × ChunkStream σ :=
  match s.unpacker, s.reads with
  | none, [] => (none, s)
  | none, read :: reads => (some read, { s with reads })
  | some u, reads =>
    let (chunk, reads, u) := u.nextChunk s.chunkSize reads
    (chunk, { s with reads, unpacker := some u })

def finish (s : ChunkStream σ) : ChunkStream σ := { s with done := true }

/-- Gives out a chunk, or as much of it as the limit allows. -/
def deliver (s : ChunkStream σ) (chunk : Bytes) : Option Chunk × ChunkStream σ :=
  let remaining := s.limit - s.delivered
  if chunk.length ≤ remaining then
    (some (.ok chunk), { s with delivered := s.delivered + chunk.length })
  else if remaining = 0 then (some (.error (.logTooLarge s.limit)), s.finish)
  else
    (some (.ok (chunk.take remaining)),
      { s with delivered := s.delivered + remaining, overLimit := true })

/-- The next chunk, or the error that ends the stream. -/
def next (s : ChunkStream σ) : Option Chunk × ChunkStream σ :=
  if s.done then (none, s)
  else if s.overLimit then (some (.error (.logTooLarge s.limit)), s.finish)
  else
    match s.pull with
    | (none, s) => (none, s.finish)
    | (some (.error cause), s) => (some (.error (.io "reading attachment" cause)), s.finish)
    | (some (.ok chunk), s) => s.deliver chunk

/-- All chunks, and the stream after them; `rounds` bounds their number, `before` are earlier
ones, last one first. -/
def drainGo (before : List Chunk) : Nat → ChunkStream σ → List Chunk × ChunkStream σ
  | 0, s => (before.reverse, s)
  | rounds + 1, s =>
    match s.next with
    | (none, s) => (before.reverse, s)
    | (some chunk, s) => s.drainGo (chunk :: before) rounds

/-- All chunks, and the stream after them.  Each chunk has a byte that counts against the limit,
but for the error and the end. -/
def drain (s : ChunkStream σ) : List Chunk × ChunkStream σ := s.drainGo [] (s.limit + 2)

end ChunkStream

end LogTriage
