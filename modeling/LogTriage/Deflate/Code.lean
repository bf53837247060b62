import LogTriage.Deflate.Bits

/-!
# Canonical codes

A canonical code is given by the length of each symbol's code word.  Shorter words come first, and
words of one length are numbered in the order of their symbols.  The words fill all the room there
is; only a code of at most one word may leave some.
-/

namespace LogTriage.Deflate

/-- Bits in a code word. -/
def maxWord : Nat := 15

structure Code where
  /-- The number of words of length one, two, and so on. -/
  counts : List Nat
  /-- The symbols in the order of their words. -/
  symbols : Array Nat

namespace Code

/-- Words in a code: those that are used, and the room they take of the room for words of
`maxWord` bits. -/
def usedRoom (counts : List Nat) : Nat × Nat :=
  counts.foldl (fun (used, room) count => (used + count, 2 * room + count)) (0, 0)

/-- The code with words of these lengths; length zero stands for no word. -/
def ofLengths? (lengths : List Nat) : Option Code :=
  let numbered := lengths.zipIdx
  let byLength := (List.range maxWord).map fun n =>
    numbered.filterMap fun (length, symbol) => if length = n + 1 then some symbol else none
  let counts := byLength.map List.length
  let (used, room) := usedRoom counts
  if room = Nat.pow 2 maxWord || used ≤ 1 then some ⟨counts, byLength.flatten.toArray⟩ else none

/-- Reads the rest of a word.  `word` are the bits read so far and room for one more, `first` is
the first word of the next length, `index` the place of its symbol. -/
def readGo (word first index : Nat) : List Nat → BitReader Nat
  | [] => BitReader.fail
  | count :: counts => do
    let word := word + (← BitReader.bit).toNat
    if word < first + count then pure (index + (word - first))
    else readGo (2 * word) (2 * (first + count)) (index + count) counts

/-- Reads one word; its symbol. -/
def read (code : Code) : BitReader Nat := do
  match code.symbols[← readGo 0 0 0 code.counts]? with
  | some symbol => pure symbol
  | none => BitReader.fail

end Code

end LogTriage.Deflate
