import LogTriage.Proofs.Deflate.Inflate
import LogTriage.Proofs.Stream.Portions

/-!
# The decoded log

The decoded bytes of an attachment do not depend on how many of them may be given out: a stream
gives out their beginning, and an error when there are more.  Only what an archive holds beyond the
limit is never looked at, so that `decodedLog` stops there too.

* `Archive.log_take`     an archive that is read further gives the same bytes first;
* `drain_openChunks`     the chunks of any attachment are its decoded bytes up to the limit.
-/

namespace LogTriage

/-- The decoded bytes of an attachment, up to one byte beyond `limit`. -/
def decodedLog (config : StreamConfig) (source : Source) (limit : Nat) :
    Encoding → Except StreamError Bytes
  | .plain => .ok (source.content.1.take (limit + 1))
  | .gzip => .ok ((Gzip.decoder.unpack Gzip.decoder.start
      (source.reads config.usedChunkSize)).take (limit + 1))
  | .zip => do
    let archive ← takeIn source config.maxSpool
    archive.log limit

/-! ## Archives -/

namespace Zip.Archive
variable {a : Archive} {limit limit' start : Nat} {entry : Entry} {bs bs' : Bytes}

theorem unpack_take (hl : limit ≤ limit') (h : a.unpack limit entry start = .ok bs)
    (h' : a.unpack limit' entry start = .ok bs') : bs = bs'.take (limit + 1) := by
  have hcheck {limit : Nat} {data bs : Bytes} {e : StreamError}
      (h : (if data.length ≤ limit && Checksum.of data ≠ entry.checksum then .error e
        else .ok data) = (.ok bs : Except StreamError Bytes)) : data = bs := by
    split at h
    · cases h
    · exact Except.ok.inj h
  unfold unpack at h h'
  cases hm : entry.method with
  | stored =>
    rw [hm] at h h'
    rw [← hcheck h, ← hcheck h', List.take_take, Nat.min_eq_left (by omega)]
  | deflated =>
    rw [hm] at h h'
    dsimp only at h h'
    split at h
    · rename_i data hdata
      split at h'
      · rename_i data' hdata'
        rw [← hcheck h, ← hcheck h', List.take_take, Nat.min_eq_left (by omega)]
        exact Deflate.inflate_take (by omega) hdata hdata'
      · cases h'
    · cases h
  | other code =>
    rw [hm] at h
    cases h

/-- **An archive that is read further gives the same bytes first.** -/
theorem log_take (hl : limit ≤ limit') (h : a.log limit = .ok bs) (h' : a.log limit' = .ok bs') :
    bs = bs'.take (limit + 1) := by
  unfold log at h h'
  cases he : a.entries? with
  | none =>
    rw [he] at h
    cases h
  | some entries =>
    rw [he] at h h'
    dsimp only at h h'
    cases hf : a.findLog entries with
    | error e =>
      rw [hf] at h
      cases h
    | ok found =>
      rw [hf] at h h'
      simp only [bind, Except.bind] at h h'
      cases found with
      | none => cases h
      | some place =>
        obtain ⟨entry, start⟩ := place
        dsimp only at h h'
        split at h
        · cases h
        split at h'
        · cases h'
        by_cases hc : entry.encrypted = true
        · rw [if_pos hc] at h
          cases h
        · rw [if_neg hc] at h h'
          exact unpack_take hl h h'

end Zip.Archive

/-! ## Any attachment -/

section opened
variable {config : StreamConfig} {source : Source} {encoding : Encoding} {limit : Nat}
  {stream : ChunkStream Gzip.Member} {log : Bytes}

theorem openChunks_zip (ho : openChunks config source .zip = .ok stream) : ∃ archive log,
    takeIn source config.maxSpool = .ok archive ∧ archive.log config.maxLog = .ok log ∧
      stream = ChunkStream.ofSource config (.ofBytes log) none := by
  unfold openChunks ChunkStream.openWith at ho
  cases ht : takeIn source config.maxSpool with
  | error e =>
    rw [ht] at ho
    cases ho
  | ok archive =>
    rw [ht] at ho
    simp only [bind, Except.bind] at ho
    cases hlog : archive.log config.maxLog with
    | error e =>
      rw [hlog] at ho
      cases ho
    | ok log =>
      rw [hlog] at ho
      cases ho
      exact ⟨archive, log, rfl, hlog, rfl⟩

theorem exists_decodedLog (ho : openChunks config source encoding = .ok stream) :
    ∃ log, decodedLog config source config.maxLog encoding = .ok log := by
  cases encoding with
  | plain => exact ⟨_, rfl⟩
  | gzip => exact ⟨_, rfl⟩
  | zip =>
    obtain ⟨archive, log, ht, hlog, -⟩ := openChunks_zip ho
    refine ⟨log, ?_⟩
    rw [decodedLog, ht]
    exact hlog

theorem failureOf_take (hl : config.maxLog ≤ limit) (bs : Bytes) :
    ChunkStream.failureOf config.maxLog (bs.take (limit + 1))
        = ChunkStream.failureOf config.maxLog bs ∧
      (bs.take (limit + 1)).take config.maxLog = bs.take config.maxLog := by
  have hiff : config.maxLog < (bs.take (limit + 1)).length ↔ config.maxLog < bs.length := by
    rw [List.length_take]
    omega
  refine ⟨?_, ?_⟩
  · simp only [ChunkStream.failureOf, hiff]
  · rw [List.take_take, Nat.min_eq_left (by omega)]

/-- **The chunks of an attachment are its decoded bytes**, up to the limit. -/
theorem drain_openChunks (hs : source.content.2 = none)
    (ho : openChunks config source encoding = .ok stream) (hl : config.maxLog ≤ limit)
    (hd : decodedLog config source limit encoding = .ok log) : ∃ chunks : List Bytes,
    stream.drain.1
      = chunks.map .ok ++ (ChunkStream.failureOf config.maxLog log).toList.map .error ∧
      chunks.flatten = log.take config.maxLog := by
  have hcontent : source.content = (source.content.1, none) := Prod.ext rfl hs
  cases encoding with
  | plain =>
    cases ho
    cases hd
    rw [(failureOf_take hl _).1, (failureOf_take hl _).2]
    exact ChunkStream.drain_ofSource config hcontent
  | gzip =>
    cases ho
    cases hd
    rw [(failureOf_take hl _).1, (failureOf_take hl _).2]
    obtain ⟨parts, hyields, hflat⟩ := ChunkStream.yields_packed Gzip.decoder config hs
    rw [← hflat]
    exact ChunkStream.drain_yields hyields rfl rfl rfl
  | zip =>
    obtain ⟨archive, first, ht, hfirst, rfl⟩ := openChunks_zip ho
    have hlog : archive.log limit = .ok log := by
      rw [decodedLog, ht] at hd
      exact hd
    have htake := Zip.Archive.log_take hl hfirst hlog
    rw [← (failureOf_take (Nat.le_refl _) log).1, ← (failureOf_take (Nat.le_refl _) log).2, ← htake]
    exact ChunkStream.drain_ofSource config (Source.content_ofBytes first)

end opened

end LogTriage
