import LogTriage.Attachment
import LogTriage.Gzip.Decoder
import LogTriage.Stream.Chunks
import LogTriage.Zip.Log

/-!
# Opening attachments

A plain log is read as it is, a packed one is unpacked on the way, and an archive is taken in
whole before its log is read.  What is wrong with an archive shows when it is opened.
-/

namespace LogTriage

structure StreamConfig where
  /-- Bytes that are read at a time. -/
  chunkSize : Nat := 65536
  /-- Bytes of the decoded log. -/
  maxLog : Nat := 33554432
  /-- Bytes of an archive. -/
  maxSpool : Nat := 67108864
  scratchDir : Option String := none
deriving DecidableEq, Inhabited

/-- The chunk size that is used. -/
def StreamConfig.usedChunkSize (config : StreamConfig) : Nat :=
  max ChunkSize.least (min config.chunkSize ChunkSize.greatest)

/-- The archive that a source holds, if it is not longer than `limit` bytes. -/
def takeIn (source : Source) (limit : Nat) : Except StreamError Zip.Archive :=
  let (bytes, failure) := source.content
  if limit < bytes.length then .error (.tooLarge limit)
  else
    match failure with
    | some cause => .error (.io "spooling archive" cause)
    | none => .ok bytes.toArray

namespace ChunkStream
variable {σ : Type}

/-- The stream that reads a source and, if a decoder is given, unpacks it. -/
def ofSource (config : StreamConfig) (source : Source) (decoder : Option (StepDecoder σ)) :
    ChunkStream σ where
  chunkSize := config.usedChunkSize
  limit := config.maxLog
  reads := source.reads config.usedChunkSize
  unpacker := decoder.map Unpacker.ofDecoder

/-- The stream of an attachment whose packed form `decoder` unpacks. -/
def openWith (decoder : StepDecoder σ) (config : StreamConfig) (source : Source) :
    Encoding → Except StreamError (ChunkStream σ)
  | .plain => .ok (ofSource config source none)
  | .gzip => .ok (ofSource config source (some decoder))
  | .zip => do
    let archive ← takeIn source config.maxSpool
    let log ← archive.log config.maxLog
    .ok (ofSource config (.ofBytes log) none)

end ChunkStream

/-- The chunks of an attachment. -/
def openChunks (config : StreamConfig) (source : Source) (encoding : Encoding) :
    Except StreamError (ChunkStream Gzip.Member) :=
  ChunkStream.openWith Gzip.decoder config source encoding

end LogTriage
