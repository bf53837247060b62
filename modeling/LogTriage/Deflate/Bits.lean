import LogTriage.Text.Utf8

/-!
# Reading bits

The bits of a byte come lowest first.  A reader takes bits from those at hand; when they are not
enough it asks for more, and it is started again from the same place once there are more.
-/

namespace LogTriage

abbrev Bits := List Bool

namespace Bits

def ofByte (b : UInt8) : Bits := (List.range 8).map b.toNat.testBit

def ofBytes (bs : Bytes) : Bits := bs.flatMap ofByte

/-- The number that bits stand for, lowest first. -/
def toNat : Bits → Nat
  | [] => 0
  | b :: bs => b.toNat + 2 * toNat bs

/-- The bits that remain once the byte that has been begun is left. -/
def alignByte (bits : Bits) : Bits := bits.drop (bits.length % 8)

end Bits

/-- What a reader of bits comes to. -/
inductive BitResult (α : Type) where
  | done (value : α) (rest : Bits)
  /-- The bits at hand are not enough. -/
  | short
  /-- No bits that may follow can make sense of these. -/
  | bad

def BitReader (α : Type) : Type := Bits → BitResult α

namespace BitReader

instance : Monad BitReader where
  pure a := fun bits => .done a bits
  bind r f := fun bits =>
    match r bits with
    | .done a rest => f a rest
    | .short => .short
    | .bad => .bad

def fail {α : Type} : BitReader α := fun _ => .bad

/-- Goes on only when the condition holds. -/
def require (condition : Bool) : BitReader Unit := if condition then pure () else fail

def bit : BitReader Bool
  | [] => .short
  | b :: bits => .done b bits

/-- A number of `n` bits, lowest first. -/
def number (n : Nat) : BitReader Nat := fun bits =>
  let taken := bits.take n
  if taken.length < n then .short else .done (Bits.toNat taken) (bits.drop n)

/-- Leaves the byte that has been begun. -/
def align : BitReader Unit := fun bits => .done () bits.alignByte

end BitReader

end LogTriage
