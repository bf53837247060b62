/-!
# UTF-8

Bytes are read one at a time.  Between two bytes the reader holds the bytes of a character that is
not yet complete; a byte either completes it, extends it, or cannot follow.  What cannot be
continued is ill-formed: the held bytes, or the byte itself when none are held.  Since the reader
is a left fold, reading a text in pieces is reading it at once.

* `read_append`   reading `bs ++ cs` is reading `cs` from where `bs` ends.
-/

namespace LogTriage

abbrev Bytes := List UInt8

namespace Text

/-- The outcome of one byte. -/
inductive ByteStep where
  | char (c : Char)
  | more (held : Bytes)
  | bad (bytes : Bytes)

/-- The byte `b` can follow the first byte of a character: some first bytes narrow the range. -/
def canFollow (first b : UInt8) : Bool :=
  if first = 0xE0 then 0xA0 ≤ b && b ≤ 0xBF
  else if first = 0xED then 0x80 ≤ b && b ≤ 0x9F
  else if first = 0xF0 then 0x90 ≤ b && b ≤ 0xBF
  else if first = 0xF4 then 0x80 ≤ b && b ≤ 0x8F
  else 0x80 ≤ b && b ≤ 0xBF

/-- The low six bits of a continuation byte. -/
def tailBits (b : UInt8) : Nat := b.toNat % 64

/-- The next byte `b` after the held bytes of an incomplete character. -/
def byteStep (held : Bytes) (b : UInt8) : ByteStep :=
  match held with
  | [] =>
    if b < 0x80 then .char (Char.ofNat b.toNat)
    else if 0xC2 ≤ b && b ≤ 0xF4 then .more [b]
    else .bad [b]
  | [b₀] =>
    if canFollow b₀ b then
      if b₀ < 0xE0 then .char (Char.ofNat (b₀.toNat % 32 * 64 + tailBits b))
      else .more [b₀, b]
    else .bad held
  | [b₀, b₁] =>
    if 0x80 ≤ b && b ≤ 0xBF then
      if b₀ < 0xF0 then
        .char (Char.ofNat ((b₀.toNat % 16 * 64 + tailBits b₁) * 64 + tailBits b))
      else .more [b₀, b₁, b]
    else .bad held
  | b₀ :: b₁ :: b₂ :: _ =>
    if 0x80 ≤ b && b ≤ 0xBF then
      .char (Char.ofNat
        (((b₀.toNat % 8 * 64 + tailBits b₁) * 64 + tailBits b₂) * 64 + tailBits b))
    else .bad held

/-- How far a reader has come: the characters read, last one first, the bytes held, and the first
ill-formed sequence, after which nothing is read. -/
structure Reading where
  chars : List Char := []
  held : Bytes := []
  fault : Option Bytes := none

def Reading.byte (r : Reading) (b : UInt8) : Reading :=
  match r.fault with
  | some _ => r
  | none =>
    match byteStep r.held b with
    | .char c => { r with chars := c :: r.chars, held := [] }
    | .more held => { r with held }
    | .bad bytes => { r with held := [], fault := some bytes }

def Reading.read (r : Reading) (bs : Bytes) : Reading := bs.foldl Reading.byte r

theorem Reading.read_append (r : Reading) (bs cs : Bytes) :
    r.read (bs ++ cs) = (r.read bs).read cs := by
  simp [Reading.read]

/-- The text that has been read. -/
def Reading.text (r : Reading) : List Char := r.chars.reverse

/-- The text that `bs` is the UTF-8 form of. -/
def ofUtf8? (bs : Bytes) : Option String :=
  let r := Reading.read {} bs
  if r.fault.isNone && r.held.isEmpty then some (String.ofList r.text) else none

/-- Bytes in `chars`, as UTF-8. -/
def utf8Size (chars : List Char) : Nat := chars.foldl (fun n c => n + c.utf8Size) 0

/-- The text of `bs` with every ill-formed sequence replaced by U+FFFD; `held` are the bytes of an
incomplete character and `done` the text so far, reversed. -/
def lossyGo (held : Bytes) (done : List Char) : Bytes → List Char
  | [] => (if held.isEmpty then done else '\uFFFD' :: done).reverse
  | b :: bs =>
    match byteStep held b with
    | .char c => lossyGo [] (c :: done) bs
    | .more held => lossyGo held done bs
    | .bad _ =>
      if held.isEmpty then lossyGo [] ('\uFFFD' :: done) bs
      else
        match byteStep [] b with
        | .char c => lossyGo [] (c :: '\uFFFD' :: done) bs
        | .more held => lossyGo held ('\uFFFD' :: done) bs
        | .bad _ => lossyGo [] ('\uFFFD' :: '\uFFFD' :: done) bs

def ofUtf8Lossy (bs : Bytes) : String := String.ofList (lossyGo [] [] bs)

/-- The UTF-8 form of a text. -/
def toUtf8 (s : String) : Bytes := s.toUTF8.toList

end Text

end LogTriage
