/-!
# Code points as sequences of byte ranges

A run of code points is in UTF-8 the union of a few sequences of byte ranges: a text of the run
has its first byte in the first range, its second byte in the second one, and so on.  The run is
cut where the number of bytes changes and where a byte other than the last ones would start over.
-/

namespace LogTriage.Text

/-- The first and the last byte of a range. -/
abbrev ByteRange := Nat × Nat

/-- The bytes of a code point. -/
def utf8Bytes (n : Nat) : List Nat :=
  if n < 0x80 then [n]
  else if n < 0x800 then [0xC0 + n / 64, 0x80 + n % 64]
  else if n < 0x10000 then [0xE0 + n / 4096, 0x80 + n / 64 % 64, 0x80 + n % 64]
  else [0xF0 + n / 262144, 0x80 + n / 4096 % 64, 0x80 + n / 64 % 64, 0x80 + n % 64]

/-- The place where a run has to be cut so that its ends agree in all but the bits of the last
bytes, if there is one; the upper part starts there. -/
def cut? (a b : Nat) : Option Nat :=
  let lengths := [0x80, 0x800, 0x10000].find? fun n => a < n && n ≤ b
  match lengths with
  | some n => some n
  | none =>
    if b < 0x80 then none
    else
      [64, 4096, 262144].findSome? fun m =>
        if a / m = b / m then none
        else if a % m ≠ 0 then some ((a / m + 1) * m)
        else if b % m ≠ m - 1 then some (b / m * m)
        else none

/-- The code points from `a` to `b` as sequences of byte ranges, surrogates left out. -/
def byteRanges : Nat → Nat → Nat → List (List ByteRange)
  | 0, _, _ => []
  | fuel + 1, a, b =>
    if b < a then []
    else if a < 0xE000 ∧ 0xD7FF < b then
      byteRanges fuel a 0xD7FF ++ byteRanges fuel 0xE000 b
    else
      match cut? a b with
      | some n => byteRanges fuel a (n - 1) ++ byteRanges fuel n b
      | none => [(utf8Bytes a).zip (utf8Bytes b)]

/-- A run is cut less than sixty-four times, one cut within the other. -/
def runByteRanges (run : Nat × Nat) : List (List ByteRange) := byteRanges 64 run.1 run.2

/-- Sequences of byte ranges as a tree: the ways that begin with `range` go on by `next`, which is
`stop` where they are complete. -/
inductive ByteTree where
  | stop
  | way (range : ByteRange) (next others : ByteTree)
deriving DecidableEq, Inhabited

namespace ByteTree

def isStop : ByteTree → Bool
  | stop => true
  | way .. => false

/-- Adds a sequence behind those of the tree; it shares what the last one begins with. -/
def add (seq : List ByteRange) : ByteTree → ByteTree
  | stop => seq.foldr (fun range next => way range next stop) stop
  | way range next others =>
    if others.isStop && seq.head? == some range then way range (next.add seq.tail) stop
    else way range next (others.add seq)

def ofSequences (seqs : List (List ByteRange)) : ByteTree := seqs.foldl (fun t seq => t.add seq) stop

end ByteTree

end LogTriage.Text
