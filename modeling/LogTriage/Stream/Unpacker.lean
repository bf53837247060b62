import LogTriage.Stream.Source

/-!
# Unpacking read by read

A step decoder is offered a few bytes at a time.  It takes some of them and may put out some, or
it refuses them.  An unpacker feeds it with what was read and keeps what it puts out until a chunk
takes it.  After a refusal the rest of that read is dropped and the decoder starts anew; what it
had put out before is kept.
-/

namespace LogTriage

/-- What a decoder makes of the bytes offered. -/
inductive StepResult (σ : Type) where
  | taken (count : Nat) (output : Bytes) (next : σ)
  | refused (output : Bytes)

structure StepDecoder (σ : Type) where
  start : σ
  offer : σ → Bytes → StepResult σ
  /-- What is still to be put out when no more bytes come. -/
  close : σ → Bytes

/-! ### Output -/

/-- Bytes that wait for a chunk, in pieces, last one first. -/
structure Outbox where
  pieces : List Bytes
  size : Nat
  size_eq : size = pieces.flatten.length

namespace Outbox

/-- The waiting bytes, oldest first. -/
def bytes (o : Outbox) : Bytes := o.pieces.reverse.flatten

def push (o : Outbox) (bs : Bytes) : Outbox :=
  { pieces := bs :: o.pieces
    size := bs.length + o.size
    size_eq := by simp [o.size_eq] }

def empty : Outbox := { pieces := [], size := 0, size_eq := rfl }

/-- The box with one piece. -/
def ofBytes (bs : Bytes) : Outbox := push empty bs

/-- The `n` oldest bytes, and what stays. -/
def take (o : Outbox) (n : Nat) : Bytes × Outbox :=
  let bs := o.bytes
  (bs.take n, ofBytes (bs.drop n))

theorem bytes_push (o : Outbox) (bs : Bytes) : (o.push bs).bytes = o.bytes ++ bs := by
  simp [bytes, push]

theorem length_bytes (o : Outbox) : o.bytes.length = o.size := by
  rw [o.size_eq, bytes, List.length_flatten, List.length_flatten, List.map_reverse,
    List.sum_reverse]

theorem bytes_ofBytes (bs : Bytes) : (ofBytes bs).bytes = bs := by
  simp [ofBytes, empty, bytes, push]

end Outbox

/-! ### Feeding -/

structure Unpacker (σ : Type) where
  decoder : StepDecoder σ
  state : σ
  /-- What has been read and not yet been taken. -/
  input : Bytes := []
  output : Outbox := .empty
  /-- Reads of which a part was dropped. -/
  skipped : Nat := 0
  closed : Bool := false

namespace Unpacker
variable {σ : Type}

/-- Bytes that are offered at a time. -/
def stepSize : Nat := 64

def ofDecoder (decoder : StepDecoder σ) : Unpacker σ := { decoder, state := decoder.start }

/-- Drops the rest of the read. -/
def drop (u : Unpacker σ) (output : Bytes) : Unpacker σ :=
  { u with
    state := u.decoder.start
    input := []
    output := u.output.push output
    skipped := u.skipped + 1 }

/-- Offers the next few bytes.  A decoder that takes none of them has refused them. -/
def step (u : Unpacker σ) : Unpacker σ :=
  match u.decoder.offer u.state (u.input.take stepSize) with
  | .refused output | .taken 0 output _ => u.drop output
  | .taken (count + 1) output state =>
    { u with
      state
      input := u.input.drop (count + 1)
      output := u.output.push output }

/-- Offers bytes until `wanted` are put out or the read is used up.  Each round takes or drops
some of it. -/
def fillGo (wanted : Nat) : Nat → Unpacker σ → Unpacker σ
  | 0, u => u
  | rounds + 1, u =>
    if u.input.isEmpty || wanted ≤ u.output.size then u else u.step.fillGo wanted rounds

def fill (u : Unpacker σ) (wanted : Nat) : Unpacker σ := u.fillGo wanted u.input.length

/-- No more bytes come. -/
def close (u : Unpacker σ) : Unpacker σ :=
  if u.closed then u
  else { u with closed := true, output := u.output.push (u.decoder.close u.state) }

/-- Takes a chunk of `n` bytes, or what there is. -/
def takeChunk (u : Unpacker σ) (n : Nat) : Bytes × Unpacker σ :=
  let (chunk, output) := u.output.take n
  (chunk, { u with output })

/-- The next chunk of `n` bytes; at the end of the reads what is left, if anything. -/
def nextChunk (n : Nat) :
    List ReadResult → Unpacker σ → Option ReadResult × List ReadResult × Unpacker σ
  | reads, u =>
    let u := u.fill n
    if n ≤ u.output.size then
      let (chunk, u) := u.takeChunk n
      (some (.ok chunk), reads, u)
    else
      match reads with
      | [] =>
        let (chunk, u) := u.close.takeChunk n
        (if chunk.isEmpty then none else some (.ok chunk), [], u)
      | .error cause :: reads => (some (.error cause), reads, u)
      | .ok bs :: reads => nextChunk n reads { u with input := bs }

end Unpacker

end LogTriage
