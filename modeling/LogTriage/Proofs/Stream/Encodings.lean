import LogTriage.Proofs.Stream.Decoded
import LogTriage.Proofs.Stream.Splits
import LogTriage.Proofs.Zip.Whole

/-!
# The encodings agree

One log may come plain, packed or in an archive.  The streams that are opened on it give out the
same bytes and end in the same way, wherever the sources cut their pieces, whatever the size of the
chunks is, and wherever the limit of the log falls.

* `delivers_plain`, `delivers_packed`, `delivers_archive`  the stream of each encoding;
* `encodings_agree`                                        so they agree.
-/

namespace LogTriage
open ChunkStream (failureOf ofSource openWith)

variable {σ : Type} {d : StepDecoder σ} {source : Source} {log packed archive : Bytes}

/-- A stream gives out a log up to the limit, and then ends, with an error if there is more of the
log.  Nothing is dropped. -/
structure ChunkStream.Delivers (stream : ChunkStream σ) (limit : Nat) (log : Bytes) : Prop where
  chunks : ∃ chunks : List Bytes,
    stream.drain.1 = chunks.map .ok ++ (failureOf limit log).toList.map .error ∧
      chunks.flatten = log.take limit
  skipped : stream.drain.2.skipped = 0

theorem delivers_plain (config : StreamConfig) (h : source.content = (log, none)) :
    (ofSource config source (none : Option (StepDecoder σ))).Delivers config.maxLog log where
  chunks := ChunkStream.drain_ofSource config h
  skipped := ChunkStream.skipped_drain (ChunkStream.intact_of_unpacker_none rfl)

theorem delivers_packed (config : StreamConfig) (h : source.content = (packed, none))
    (hpacked : d.Unpacks d.start packed log) :
    (ofSource config source (some d)).Delivers config.maxLog log := by
  obtain ⟨parts, hreads, rfl, -⟩ :=
    Source.readsOf_content (ChunkStream.usedChunkSize_pos config) source.buffer h
  constructor
  · obtain ⟨parts', hyields, hflat⟩ :=
      ChunkStream.yields_packed d config (congrArg Prod.snd h)
    have hsource : source.reads config.usedChunkSize = parts.map .ok := hreads
    rw [hsource, StepDecoder.unpack_of_unpacks hpacked] at hflat
    rw [← hflat]
    exact ChunkStream.drain_yields hyields rfl rfl rfl
  · apply ChunkStream.skipped_drain
    intro u hu
    cases hu
    refine ⟨rfl, fun _ => ⟨parts, log, hreads, hpacked⟩, ?_⟩
    intro hc
    cases hc

theorem content_of_takeIn {limit : Nat} {a : Zip.Archive} (h : takeIn source limit = .ok a) :
    source.content = (a.toList, none) ∧ a.size ≤ limit := by
  unfold takeIn at h
  generalize source.content = content at h
  obtain ⟨bytes, failure⟩ := content
  dsimp only at h
  split at h
  · cases h
  · rename_i hlimit
    cases failure with
    | some cause => cases h
    | none =>
      cases h
      exact ⟨rfl, Nat.le_of_not_lt hlimit⟩

theorem openWith_takeIn (d : StepDecoder σ) (config : StreamConfig) {a : Zip.Archive}
    (h : takeIn source config.maxSpool = .ok a) : openWith d config source .zip
      = (a.log config.maxLog).map fun log => ofSource config (.ofBytes log) none := by
  rw [openWith, h]
  show (do
    let log ← a.log config.maxLog
    .ok (ofSource config (.ofBytes log) none)) = _
  cases a.log config.maxLog <;> rfl

theorem openWith_archive (d : StepDecoder σ) (config : StreamConfig) {a : Zip.Archive}
    (h : takeIn source config.maxSpool = .ok a) (hholds : a.Holds log) :
    openWith d config source .zip
      = .ok (ofSource config (.ofBytes (log.take (config.maxLog + 1))) none) := by
  rw [openWith_takeIn d config h, Zip.Archive.log_of_holds hholds]
  rfl

theorem delivers_archive (config : StreamConfig) (h : source.content = (archive, none))
    (hspool : archive.length ≤ config.maxSpool) (hholds : Zip.Archive.Holds archive.toArray log) :
    ∃ stream, openWith d config source .zip = .ok stream ∧
      stream.Delivers config.maxLog log := by
  have htaken : takeIn source config.maxSpool = .ok archive.toArray := by
    rw [takeIn, h]
    exact if_neg (Nat.not_lt.mpr hspool)
  refine ⟨_, openWith_archive d config htaken hholds, ?_⟩
  obtain ⟨hchunks, hskipped⟩ := delivers_plain (σ := σ) config
    (Source.content_ofBytes (log.take (config.maxLog + 1)))
  obtain ⟨hfailure, hbytes⟩ := failureOf_take (Nat.le_refl config.maxLog) log
  rw [hfailure, hbytes] at hchunks
  exact ⟨hchunks, hskipped⟩

/-- **The encodings agree.**  A log comes plain, packed so that the decoder unpacks it however the
packed bytes are cut, and in an archive that is not longer than may be taken in.  All three can be
opened, and all three streams give out the same bytes, those of the log up to the limit, and end in
the same way. -/
theorem encodings_agree (d : StepDecoder σ) (config : StreamConfig) {plain gzip zip : Source}
    (hplain : plain.content = (log, none)) (hgzip : gzip.content = (packed, none))
    (hzip : zip.content = (archive, none)) (hpacked : d.Unpacks d.start packed log)
    (hspool : archive.length ≤ config.maxSpool)
    (hholds : Zip.Archive.Holds archive.toArray log) :
    ∃ plainStream gzipStream zipStream,
      openWith d config plain .plain = .ok plainStream ∧
      openWith d config gzip .gzip = .ok gzipStream ∧
      openWith d config zip .zip = .ok zipStream ∧
      plainStream.Delivers config.maxLog log ∧ gzipStream.Delivers config.maxLog log ∧
      zipStream.Delivers config.maxLog log := by
  obtain ⟨zipStream, hopen, hdelivers⟩ := delivers_archive (d := d) config hzip hspool hholds
  exact ⟨_, _, zipStream, rfl, rfl, hopen, delivers_plain config hplain,
    delivers_packed config hgzip hpacked, hdelivers⟩

/-! ## A small log -/

deriving instance DecidableEq for Deflate.Code, Deflate.Codes, Deflate.Stage, Deflate.Inflater,
  Gzip.MemberStage, Gzip.Member

/-- A member that holds the letter `a` in a stored block. -/
def smallMember : Bytes := [
  0x1F, 0x8B, 8, 0, 0, 0, 0, 0, 0, 0xFF, 1, 1, 0, 0xFE, 0xFF, 0x61,
  0x43, 0xBE, 0xB7, 0xE8, 1, 0, 0, 0]

/-- An archive that holds the letter `a`, deflated, under the name `a.LOG`. -/
def smallArchive : Bytes := [
  80, 75, 3, 4, 20, 0, 0, 0, 8, 0, 0, 0, 33, 0, 67, 190, 183, 232, 3, 0,
  0, 0, 1, 0, 0, 0, 5, 0, 0, 0, 97, 46, 76, 79, 71, 75, 4, 0, 80, 75,
  1, 2, 20, 0, 20, 0, 0, 0, 8, 0, 0, 0, 33, 0, 67, 190, 183, 232, 3, 0,
  0, 0, 1, 0, 0, 0, 5, 0, 0, 0, 0, 0, 0, 0, 0, 0, 0, 0, 128, 1,
  0, 0, 0, 0, 97, 46, 76, 79, 71, 80, 75, 5, 6, 0, 0, 0, 0, 1, 0, 1,
  0, 51, 0, 0, 0, 38, 0, 0, 0, 0, 0]

theorem unpacks_smallMember : Gzip.decoder.Unpacks Gzip.decoder.start smallMember [0x61] := by
  have hcheck : Gzip.decoder.check 500 [⟨Gzip.decoder.start, smallMember, [0x61]⟩] [] = true := by
    decide +kernel
  exact StepDecoder.unpacks_of_check hcheck

theorem holds_smallArchive : Zip.Archive.Holds smallArchive.toArray [0x61] := by
  let entry : Zip.Entry := {
    name := "a.LOG", method := .deflated, encrypted := false
    checksum := 3904355907, size := 3, start := 0 }
  have hentries : Zip.Archive.entries? smallArchive.toArray = some [entry] := by decide +kernel
  have hstart : Zip.Archive.dataStart? smallArchive.toArray entry = some 35 := by decide +kernel
  have hdata : Deflate.inflate 2 (Zip.Archive.packed smallArchive.toArray entry 35)
      = some [0x61] := by
    decide +kernel
  exact ⟨[entry], entry, 35, hentries, .here hstart (by decide +kernel), rfl,
    .deflated rfl hdata, by decide +kernel⟩

/-- The letter, in pieces, whichever way it comes. -/
theorem encodings_of_small : ∃ plainStream gzipStream zipStream,
    openWith Gzip.decoder {} (.ofBytes [0x61]) .plain = .ok plainStream ∧
    openWith Gzip.decoder {}
      { events := [.piece (smallMember.take 7), .interrupted, .piece (smallMember.drop 7)] } .gzip
        = .ok gzipStream ∧
    openWith Gzip.decoder {} (.ofBytes smallArchive) .zip = .ok zipStream ∧
    plainStream.Delivers 33554432 [0x61] ∧ gzipStream.Delivers 33554432 [0x61] ∧
    zipStream.Delivers 33554432 [0x61] :=
  encodings_agree Gzip.decoder {} rfl rfl rfl unpacks_smallMember (by decide) holds_smallArchive

end LogTriage
