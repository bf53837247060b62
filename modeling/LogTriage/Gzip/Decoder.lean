import LogTriage.Deflate.Inflater
import LogTriage.Gzip.Header
import LogTriage.Stream.Unpacker

/-!
# Packed members

A packed stream is a sequence of members: a header, packed data, and a trailer with the checksum
and the length of the data.  What one step unpacks is put out by the next one, so that a step that
fails puts out nothing of its own.  A member is finished by the first byte after its trailer; if
the trailer does not fit then, the step is refused.  At the end of the stream the trailer is not
looked at.
-/

namespace LogTriage.Gzip

inductive MemberStage where
  /-- The header is not complete; these are its bytes so far. -/
  | header (seen : Bytes)
  | body (inflater : Deflate.Inflater) (trailer : Bytes)

structure Member where
  stage : MemberStage := .header []
  /-- What the last step unpacked. -/
  unpacked : Bytes := []
  /-- The checksum and the length of what has been put out. -/
  checksum : Checksum := {}
  length : Nat := 0

namespace Member

def trailerSize : Nat := 8

/-- Puts out what the last step unpacked. -/
def settle (m : Member) : Member :=
  { m with
    unpacked := []
    checksum := m.checksum.addAll m.unpacked
    length := m.length + m.unpacked.length }

/-- The trailer is complete and tells of what was put out. -/
def fits (m : Member) (trailer : Bytes) : Bool :=
  trailer.length == trailerSize
    && littleEndian (trailer.take 4) == m.checksum.value
    && littleEndian (trailer.drop 4) == m.length % 4294967296

/-- Reads more of a header, after the bytes that were seen. -/
def offerHeader (seen output input : Bytes) : StepResult Member :=
  match Header.parse (seen ++ input) with
  | .malformed => .refused output
  | .incomplete => .taken input.length output { stage := .header (seen ++ input) }
  | .complete rest => .taken (input.length - rest.length) output { stage := .body {} [] }

/-- Unpacks more of the data or, after its end, reads more of the trailer. -/
def offerBody (m : Member) (inflater : Deflate.Inflater) (trailer input : Bytes) :
    StepResult Member :=
  let output := m.unpacked
  let m := m.settle
  let fed := inflater.feed input Deflate.windowSize
  let ending :=
    if fed.pause = .ended then (input.drop fed.taken).take (trailerSize - trailer.length) else []
  if fed.pause = .broken then .refused output
  else if 0 < fed.taken + ending.length then
    .taken (fed.taken + ending.length) output
      { m with stage := .body fed.next (trailer ++ ending), unpacked := fed.output }
  else if m.fits trailer then offerHeader [] output input
  else .refused output

def offer (m : Member) (input : Bytes) : StepResult Member :=
  match m.stage with
  | .header seen => offerHeader seen m.unpacked input
  | .body inflater trailer => m.offerBody inflater trailer input

/-- What is still to be put out at the end of the stream. -/
def close (m : Member) : Bytes :=
  match m.stage with
  | .header _ => m.unpacked
  | .body inflater _ => m.unpacked ++ (inflater.feed [] Deflate.windowSize).output

end Member

def decoder : StepDecoder Member where
  start := {}
  offer := Member.offer
  close := Member.close

end LogTriage.Gzip
