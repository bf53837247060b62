import LogTriage.Checksum

/-!
# Headers of packed members

A member begins with ten bytes.  Their flags say which of four parts follow: a field of given
length, two texts that end in zero, and a checksum of the header.  A fault in the ten bytes shows
as soon as all ten are there.
-/

namespace LogTriage.Gzip

inductive Header where
  /-- What is there may be the beginning of a header. -/
  | incomplete
  | malformed
  /-- The header, and the bytes after it. -/
  | complete (rest : Bytes)
deriving DecidableEq

namespace Header

/-- Bytes of a text in a header. -/
def maxText : Nat := 65535

/-- Goes on after `n` bytes. -/
def skip (n : Nat) (next : Bytes → Header) (bs : Bytes) : Header :=
  if bs.length < n then .incomplete else next (bs.drop n)

/-- Goes on after a field that begins with its length. -/
def skipField (next : Bytes → Header) (bs : Bytes) : Header :=
  skip 2 (skip (littleEndian (bs.take 2)) next) bs

/-- Goes on after a text and the zero that ends it; `room` bytes of it may come. -/
def skipText (next : Bytes → Header) : Nat → Bytes → Header
  | _, [] => .incomplete
  | room, b :: bs =>
    if b = 0 then next bs
    else
      match room with
      | 0 => .malformed
      | room + 1 => skipText next room bs

/-- Goes on after the checksum of the header, which ends where `bs` begins. -/
def checkSum (all bs : Bytes) : Header :=
  if bs.length < 2 then .incomplete
  else if littleEndian (bs.take 2) = Checksum.of (all.take (all.length - bs.length)) % 65536 then
    .complete (bs.drop 2)
  else .malformed

/-- Goes through a part if its flag is set. -/
def part (flags bit : Nat) (skipPart : (Bytes → Header) → Bytes → Header) (next : Bytes → Header) :
    Bytes → Header :=
  if flags.testBit bit then skipPart next else next

/-- The header that begins these bytes. -/
def parse (bs : Bytes) : Header :=
  match bs with
  | id₁ :: id₂ :: method :: flags :: _ :: _ :: _ :: _ :: _ :: _ :: rest =>
    if id₁ ≠ 0x1F || id₂ ≠ 0x8B || method ≠ 8 || 0x20 ≤ flags then .malformed
    else
      let flags := flags.toNat
      part flags 2 skipField
        (part flags 3 (skipText · maxText)
          (part flags 4 (skipText · maxText)
            (part flags 1 (fun _ => checkSum bs) .complete))) rest
  | _ => .incomplete

end Header

end LogTriage.Gzip
