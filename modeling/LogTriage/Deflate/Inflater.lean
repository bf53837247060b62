import LogTriage.Deflate.Block

/-!
# Unpacking

An inflater is fed with packed bytes and gives as many bytes as there is room for.  It stops when
it has no more bits to go on with, when the room is full, after the last block, or when the bits
make no sense.  Whole bytes that it did not need are given back.
-/

namespace LogTriage.Deflate

inductive Stage where
  /-- The head of a block is next. -/
  | head
  /-- So many stored bytes are left. -/
  | stored (left : Nat) (last : Bool)
  | packed (codes : Codes) (last : Bool)
  | ended

/-- Why an inflater stopped. -/
inductive Pause where
  | starved
  | full
  | ended
  | broken
deriving DecidableEq

structure Inflater where
  stage : Stage := .head
  bits : Bits := []
  /-- Everything that has been unpacked. -/
  output : Array UInt8 := #[]
  /-- A copy that is under way: how many bytes are missing, and from how far back they come. -/
  copying : Nat × Nat := (0, 0)

namespace Inflater

/-- The stage after a block. -/
def afterBlock (last : Bool) : Stage := if last then .ended else .head

def afterHead (last : Bool) : BlockHead → Stage
  | .stored 0 => afterBlock last
  | .stored size => .stored size last
  | .packed codes => .packed codes last

/-- Reads an item in the present stage; the stage that follows it. -/
def readItem : Stage → BitReader (Option Item × Stage)
  | .head => do
    let (last, head) ← readHead
    return (none, afterHead last head)
  | .stored left last => do
    let b ← BitReader.number 8
    return (some (.byte (UInt8.ofNat b)),
      if left ≤ 1 then afterBlock last else .stored (left - 1) last)
  | .packed codes last => do
    match ← codes.readItem with
    | .blockEnd => return (none, afterBlock last)
    | item => return (some item, .packed codes last)
  | .ended => return (none, .ended)

/-- The byte at a distance back from the end; before the beginning there are only zeros. -/
def back (output : Array UInt8) (distance : Nat) : UInt8 :=
  if distance ≤ output.size then output.getD (output.size - distance) 0 else 0

/-- Unpacks until it has to stop; `room` bytes may be put out.  Every round puts out a byte, reads
a bit or stops. -/
def run (s : Inflater) (room : Nat) : Nat → Pause × Inflater
  | 0 => (.starved, s)
  | rounds + 1 =>
    match s.copying, room with
    | (_ + 1, _), 0 => (.full, s)
    | (missing + 1, distance), room + 1 =>
      run { s with
        output := s.output.push (back s.output distance)
        copying := (missing, distance) } room rounds
    | (0, _), _ =>
      if s.stage matches .ended then (.ended, s)
      else
        match readItem s.stage s.bits with
        | .short => (.starved, s)
        | .bad => (.broken, s)
        | .done (none, stage) bits => run { s with stage, bits } room rounds
        | .done (some (.copy count distance), stage) bits =>
          run { s with stage, bits, copying := (count, distance) } room rounds
        | .done (some .blockEnd, stage) bits => run { s with stage, bits } room rounds
        | .done (some (.byte b), stage) bits =>
          match room with
          | 0 => (.full, s)
          | room + 1 => run { s with stage, bits, output := s.output.push b } room rounds

/-- What became of some packed bytes. -/
structure Fed where
  pause : Pause
  /-- Bytes that were taken. -/
  taken : Nat
  output : Bytes
  next : Inflater

/-- Feeds packed bytes; at most `room` bytes are put out. -/
def feed (s : Inflater) (packed : Bytes) (room : Nat) : Fed :=
  let start := s.output.size
  let s := { s with bits := s.bits ++ Bits.ofBytes packed }
  let (pause, s) := s.run room (s.bits.length + room + 1)
  let output := (s.output.extract start s.output.size).toList
  if pause = .starved then ⟨pause, packed.length, output, s⟩
  else
    let unread := min (s.bits.length / 8) packed.length
    ⟨pause, packed.length - unread, output,
      { s with bits := s.bits.take (s.bits.length - 8 * unread) }⟩

end Inflater

/-- Bytes that are unpacked at a time. -/
def windowSize : Nat := 32768

/-- Everything that packed data holds, window by window, up to the first window that reaches
`wanted` bytes; nothing when the data is broken before.  `done` is what earlier windows gave, last
one first, `count` the number of its bytes. -/
def inflateGo (wanted : Nat) (done : List Bytes) (count : Nat) (s : Inflater) (packed : Bytes) :
    Nat → Option Bytes
  | 0 => some done.reverse.flatten
  | rounds + 1 =>
    let fed := s.feed (packed.take windowSize) windowSize
    let packed := packed.drop fed.taken
    let done := fed.output :: done
    let count := count + fed.output.length
    let enough := wanted ≤ count || (fed.pause = .starved && packed.isEmpty)
    if fed.pause = .broken then none
    else if enough || fed.pause = .ended then some done.reverse.flatten
    else inflateGo wanted done count fed.next packed rounds

/-- What packed data holds.  Data that is cut off holds what could be read of it; of data that
holds more than `wanted` bytes at least these are unpacked.  Each window takes some of the data or
is full. -/
def inflate (wanted : Nat) (packed : Bytes) : Option Bytes :=
  inflateGo wanted [] 0 {} packed (packed.length + wanted / windowSize + 1)

end LogTriage.Deflate
