import LogTriage.Text.Utf8

/-!
# Checksums

The cyclic redundancy check of thirty-two bits that goes with packed data.  It runs along with the
bytes: what has been summed of `bs ++ cs` is what has been summed of `bs`, carried on over `cs`.
-/

namespace LogTriage

/-- A checksum under way. -/
structure Checksum where
  state : UInt32 := 0xFFFFFFFF
deriving DecidableEq

namespace Checksum

def polynomial : UInt32 := 0xEDB88320

def shift (s : UInt32) : UInt32 :=
  if s &&& 1 = 1 then (s >>> 1) ^^^ polynomial else s >>> 1

def add (s : Checksum) (b : UInt8) : Checksum :=
  ⟨Nat.repeat shift 8 (s.state ^^^ b.toUInt32)⟩

def addAll (s : Checksum) (bs : Bytes) : Checksum := bs.foldl add s

def value (s : Checksum) : Nat := (s.state ^^^ 0xFFFFFFFF).toNat

/-- The checksum of all bytes. -/
def of (bs : Bytes) : Nat := (addAll {} bs).value

end Checksum

/-- The number that bytes stand for, lowest byte first. -/
def littleEndian : Bytes → Nat
  | [] => 0
  | b :: bs => b.toNat + 256 * littleEndian bs

end LogTriage
