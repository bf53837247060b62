import LogTriage.Checksum
import LogTriage.Zip.Name

/-!
# Directories of archives

An archive ends with a record that says where its directory is.  Other data may stand before the
archive; all places are then shifted.  Numbers that do not fit stand in a wider record, or in a
field of their own beside the entry.
-/

namespace LogTriage.Zip

/-- How the bytes of an entry are packed. -/
inductive Method where
  | stored
  | deflated
  | other (code : Nat)
deriving DecidableEq, Inhabited

namespace Method

def ofCode (code : Nat) : Method :=
  if code = 0 then stored else if code = 8 then deflated else other code

def encryptedCode : Nat := 99

def label : Method → String
  | stored => "Stored"
  | deflated => "Deflated"
  | other 12 => "Bzip2"
  | other 93 => "Zstd"
  | other code => "Unsupported(" ++ toString code ++ ")"

end Method

structure Entry where
  name : String
  method : Method
  encrypted : Bool
  checksum : Nat
  /-- Bytes that the entry takes in the archive. -/
  size : Nat
  /-- Where the entry is. -/
  start : Nat
deriving DecidableEq, Inhabited

/-- The bytes of an archive. -/
abbrev Archive := Array UInt8

namespace Archive

/-- The bytes at a place, if they are all there. -/
def slice? (a : Archive) (start size : Nat) : Option Bytes :=
  if start + size ≤ a.size then some (a.extract start (start + size)).toList else none

/-- The number of `size` bytes at a place. -/
def number? (a : Archive) (start size : Nat) : Option Nat :=
  (a.slice? start size).map littleEndian

/-- The bytes that mark a record stand at a place. -/
def marked (a : Archive) (start signature : Nat) : Bool := a.number? start 4 == some signature

/-! ### The end of the directory -/

def endMark : Nat := 0x06054b50
def endSize : Nat := 22
def wideEndMark : Nat := 0x06064b50
def wideLocatorMark : Nat := 0x07064b50
def wideLocatorSize : Nat := 20
/-- Bytes of the wide record and its locator that may not overlap with the record of the end. -/
def wideEndRoom : Nat := 60
/-- Bytes of a comment after the record of the end. -/
def maxComment : Nat := 65535

/-- The last place up to `start` with a mark; `places` are tried. -/
def findBack (a : Archive) (signature start : Nat) : Nat → Option Nat
  | 0 => none
  | places + 1 =>
    if a.marked start signature then some start
    else if start = 0 then none
    else findBack a signature (start - 1) places

/-- The first place from `start` on with a mark; `places` are tried. -/
def findForth (a : Archive) (signature start : Nat) : Nat → Option Nat
  | 0 => none
  | places + 1 =>
    if a.marked start signature then some start else findForth a signature (start + 1) places

/-- Places are numbers of sixty-four bits. -/
def placeBound : Nat := 18446744073709551616

/-- Places that a file can be read at have sixty-three bits. -/
def reachable : Nat := 9223372036854775808

/-- Where the directory begins, how many entries it has, and by how much places are shifted. -/
structure DirectoryPlace where
  start : Nat
  entries : Nat
  shift : Nat

/-- The numbers are there, and all within their bounds. -/
def narrowPlace? (a : Archive) (endAt : Nat) : Option DirectoryPlace := do
  let size ← a.number? (endAt + 12) 4
  let offset ← a.number? (endAt + 16) 4
  guard (size + offset ≤ endAt)
  let shift := endAt - size - offset
  return { start := offset + shift, entries := ← a.number? (endAt + 8) 2, shift }

def widePlace? (a : Archive) (endAt locatorAt : Nat) (mayDiffer : Bool) :
    Option DirectoryPlace := do
  let disk ← a.number? (endAt + 4) 2
  let directoryDisk ← a.number? (locatorAt + 4) 4
  guard (mayDiffer || disk = directoryDisk)
  guard (wideEndRoom ≤ endAt)
  let nominal ← a.number? (locatorAt + 8) 8
  let recordAt ← a.findForth wideEndMark nominal (endAt - wideEndRoom + 1 - nominal)
  let shift := recordAt - nominal
  guard ((← a.number? (recordAt + 16) 4) = (← a.number? (recordAt + 20) 4))
  let entries ← a.number? (recordAt + 32) 8
  let offset ← a.number? (recordAt + 48) 8
  guard (offset + shift < reachable)
  return { start := offset + shift, entries, shift }

/-- A number of the record of the end does not fit, so that a wider record has to be there. -/
def endOverflows (a : Archive) (endAt : Nat) : Bool :=
  [4, 6, 8, 10].any (fun place => a.number? (endAt + place) 2 == some 0xFFFF)
    || [12, 16].any (fun place => a.number? (endAt + place) 4 == some 0xFFFFFFFF)

def directoryPlace? (a : Archive) : Option DirectoryPlace := do
  guard (endSize ≤ a.size)
  let endAt ← a.findBack endMark (a.size - endSize) (maxComment + 1)
  let commentSize ← a.number? (endAt + 20) 2
  guard (endAt + endSize + commentSize ≤ a.size)
  let overflows := a.endOverflows endAt
  guard (overflows || a.number? (endAt + 4) 2 = a.number? (endAt + 6) 2)
  let locatorEnd := a.size - endSize - commentSize
  let locatorAt := locatorEnd - wideLocatorSize
  if wideLocatorSize ≤ locatorEnd ∧ a.marked locatorAt wideLocatorMark then
    a.widePlace? endAt locatorAt overflows
  else a.narrowPlace? endAt

/-! ### Entries -/

/-- A number of thirty-two bits that stands for one that does not fit. -/
def tooWide : Nat := 0xFFFFFFFF

/-- Numbers of an entry that may be too wide for it. -/
structure WideNumbers where
  unpackedSize : Nat
  size : Nat
  start : Nat

/-- The number itself or, if it is too wide, the one at the head of the bytes, if they are
enough. -/
def widen (n : Nat) : Option Bytes → Nat × Option Bytes
  | none => (n, none)
  | some bs =>
    if n ≠ tooWide then (n, some bs)
    else if bs.length < 8 then (n, none)
    else (littleEndian (bs.take 8), some (bs.drop 8))

def WideNumbers.widen (n : WideNumbers) (bs : Bytes) : WideNumbers × Option Bytes :=
  let (unpackedSize, bs) := Archive.widen n.unpackedSize (some bs)
  let (size, bs) := Archive.widen n.size bs
  let (start, bs) := Archive.widen n.start bs
  (⟨unpackedSize, size, start⟩, bs)

def wideField : Nat := 0x0001
def encryptionField : Nat := 0x9901
def encryptionVendor : Nat := 0x4541

/-- The method beneath an encryption. -/
def encryptedMethod? (size : Nat) (bs : Bytes) : Option Nat := do
  guard (size = 7)
  let version := littleEndian (bs.take 2)
  guard (version = 1 ∨ version = 2)
  guard (littleEndian ((bs.drop 2).take 2) = encryptionVendor)
  let strength := littleEndian ((bs.drop 4).take 1)
  guard (1 ≤ strength ∧ strength ≤ 3)
  return littleEndian ((bs.drop 5).take 2)

/-- Goes through the further fields of an entry.  A field that is cut off, and all after it, are
left out; each round takes at least four bytes. -/
def readFields (numbers : WideNumbers) (method : Nat) (encrypted : Bool) :
    Nat → Bytes → Option (WideNumbers × Nat × Bool)
  | 0, _ => some (numbers, method, encrypted)
  | rounds + 1, bs =>
    let size := littleEndian ((bs.drop 2).take 2)
    let field := bs.drop 4
    let kind := littleEndian (bs.take 2)
    if bs.length < 4 then some (numbers, method, encrypted)
    else if kind = wideField then
      match numbers.widen field with
      | (numbers, none) => some (numbers, method, encrypted)
      | (numbers, some rest) =>
        let taken := field.length - rest.length
        readFields numbers method encrypted rounds (field.drop (max size taken))
    else if kind = encryptionField then
      if size = 7 ∧ field.length < 7 then some (numbers, method, encrypted)
      else do readFields numbers (← encryptedMethod? size field) true rounds (field.drop size)
    else readFields numbers method encrypted rounds (field.drop size)

def entryMark : Nat := 0x02014b50
def entrySize : Nat := 46

/-- The entry of the directory at a place, and the place after it. -/
def entryAt? (a : Archive) (shift place : Nat) : Option (Entry × Nat) := do
  guard (a.marked place entryMark)
  let number (offset size : Nat) := a.number? (place + offset) size
  let flags ← number 8 2
  let nameSize ← number 28 2
  let fieldsSize ← number 30 2
  let commentSize ← number 32 2
  let name ← a.slice? (place + entrySize) nameSize
  let fields ← a.slice? (place + entrySize + nameSize) fieldsSize
  let next := place + entrySize + nameSize + fieldsSize + commentSize
  guard (next ≤ a.size)
  let numbers := ⟨← number 24 4, ← number 20 4, ← number 42 4⟩
  let (numbers, method, known) ←
    readFields numbers (← number 10 2) false fields.length fields
  guard (method ≠ Method.encryptedCode || known)
  guard (numbers.start + shift < placeBound)
  let entry : Entry := {
    name := Zip.name (flags.testBit 11) name
    method := Method.ofCode method
    encrypted := flags.testBit 0 || known
    checksum := ← number 16 4
    size := numbers.size
    start := numbers.start + shift }
  return (entry, next)

/-- So many entries of the directory from a place on. -/
def entriesFrom? (a : Archive) (shift : Nat) : Nat → Nat → Option (List Entry)
  | 0, _ => some []
  | count + 1, place => do
    let (entry, next) ← a.entryAt? shift place
    return entry :: (← entriesFrom? a shift count next)

/-- The entries of an archive, in the order of its directory. -/
def entries? (a : Archive) : Option (List Entry) := do
  let place ← a.directoryPlace?
  a.entriesFrom? place.shift place.entries place.start

/-! ### Data -/

def headMark : Nat := 0x04034b50
def headSize : Nat := 30

/-- Where the data of an entry begins, if the entry has its head there. -/
def dataStart? (a : Archive) (entry : Entry) : Option Nat := do
  guard (a.marked entry.start headMark)
  let nameSize ← a.number? (entry.start + 26) 2
  let fieldsSize ← a.number? (entry.start + 28) 2
  return entry.start + headSize + nameSize + fieldsSize

/-- The data of an entry, as far as it is there. -/
def packed (a : Archive) (entry : Entry) (start : Nat) : Bytes :=
  (a.extract start (start + entry.size)).toList

end Archive

end LogTriage.Zip
