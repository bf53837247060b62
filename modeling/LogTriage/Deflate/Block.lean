import LogTriage.Deflate.Code

/-!
# Blocks

Packed data is a sequence of blocks.  A block either holds bytes as they are, or items in two
codes: single bytes, and copies of bytes that came earlier.  The codes are fixed ones or stand at
the head of the block, packed by a third code.
-/

namespace LogTriage.Deflate

inductive Item where
  | byte (b : UInt8)
  /-- So many bytes, from so far back. -/
  | copy (count distance : Nat)
  | blockEnd
deriving DecidableEq

/-- The codes of a block: one for bytes, block ends and counts, one for distances. -/
structure Codes where
  items : Code
  distances : Code

inductive BlockHead where
  | stored (size : Nat)
  | packed (codes : Codes)

/-! ### Items -/

/-- Least number and count of further bits for each symbol of a class of numbers. -/
abbrev Ranges := Array (Nat × Nat)

def countRanges : Ranges := #[
  (3, 0), (4, 0), (5, 0), (6, 0), (7, 0), (8, 0), (9, 0), (10, 0),
  (11, 1), (13, 1), (15, 1), (17, 1), (19, 2), (23, 2), (27, 2), (31, 2),
  (35, 3), (43, 3), (51, 3), (59, 3), (67, 4), (83, 4), (99, 4), (115, 4),
  (131, 5), (163, 5), (195, 5), (227, 5), (258, 0)]

def distanceRanges : Ranges := #[
  (1, 0), (2, 0), (3, 0), (4, 0), (5, 1), (7, 1), (9, 2), (13, 2), (17, 3), (25, 3),
  (33, 4), (49, 4), (65, 5), (97, 5), (129, 6), (193, 6), (257, 7), (385, 7), (513, 8), (769, 8),
  (1025, 9), (1537, 9), (2049, 10), (3073, 10), (4097, 11), (6145, 11), (8193, 12), (12289, 12),
  (16385, 13), (24577, 13)]

/-- The number that a symbol and the bits after it stand for. -/
def readRanged (ranges : Ranges) (symbol : Nat) : BitReader Nat := do
  match ranges[symbol]? with
  | some (least, extra) => return least + (← BitReader.number extra)
  | none => BitReader.fail

def blockEndSymbol : Nat := 256

def Codes.readItem (codes : Codes) : BitReader Item := do
  let symbol ← codes.items.read
  if symbol < blockEndSymbol then return .byte (UInt8.ofNat symbol)
  else if symbol = blockEndSymbol then return .blockEnd
  else
    let count ← readRanged countRanges (symbol - blockEndSymbol - 1)
    let distance ← readRanged distanceRanges (← codes.distances.read)
    return .copy count distance

/-! ### Heads -/

def readCode (lengths : List Nat) : BitReader Code :=
  match Code.ofLengths? lengths with
  | some code => pure code
  | none => BitReader.fail

def fixedLengths : List Nat :=
  List.replicate 144 8 ++ List.replicate 112 9 ++ List.replicate 24 7 ++ List.replicate 8 8

def readFixedCodes : BitReader Codes :=
  return ⟨← readCode fixedLengths, ← readCode (List.replicate 32 5)⟩

/-- The order in which the lengths of the third code's words are given. -/
def lengthOrder : List Nat := [16, 17, 18, 0, 8, 7, 9, 6, 10, 5, 11, 4, 12, 3, 13, 2, 14, 1, 15]

/-- Reads `wanted` lengths of words; `done` are those before them, last one first.  Three symbols
stand for repetitions.  Each round gives at least one length. -/
def readLengths (code : Code) (done : List Nat) : Nat → Nat → BitReader (List Nat)
  | 0, _ | _, 0 => return done.reverse
  | rounds + 1, wanted => do
    let symbol ← code.read
    let (length, count) ←
      if symbol < 16 then pure (symbol, 1)
      else if symbol = 16 then
        match done with
        | last :: _ => pure (last, 3 + (← BitReader.number 2))
        | [] => BitReader.fail
      else if symbol = 17 then pure (0, 3 + (← BitReader.number 3))
      else pure (0, 11 + (← BitReader.number 7))
    BitReader.require (count ≤ wanted)
    readLengths code (List.replicate count length ++ done) rounds (wanted - count)

/-- Reads `n` numbers of three bits. -/
def readTriples : Nat → BitReader (List Nat)
  | 0 => return []
  | n + 1 => return (← BitReader.number 3) :: (← readTriples n)

def readOwnCodes : BitReader Codes := do
  let items := 257 + (← BitReader.number 5)
  let distances := 1 + (← BitReader.number 5)
  let given := 4 + (← BitReader.number 4)
  BitReader.require (items ≤ 286 && distances ≤ 30)
  let triples ← readTriples given
  let ordered := lengthOrder.zip triples
  let lengthCode ← readCode ((List.range 19).map fun s => (ordered.lookup s).getD 0)
  let lengths ← readLengths lengthCode [] (items + distances) (items + distances)
  return ⟨← readCode (lengths.take items), ← readCode (lengths.drop items)⟩

def readStoredSize : BitReader Nat := do
  BitReader.align
  let size ← BitReader.number 16
  let complement ← BitReader.number 16
  BitReader.require (size + complement = 65535)
  return size

/-- Reads the head of a block: whether it is the last one, and what it holds. -/
def readHead : BitReader (Bool × BlockHead) := do
  let last ← BitReader.bit
  match ← BitReader.number 2 with
  | 0 => return (last, .stored (← readStoredSize))
  | 1 => return (last, .packed (← readFixedCodes))
  | 2 => return (last, .packed (← readOwnCodes))
  | _ => BitReader.fail

end LogTriage.Deflate
