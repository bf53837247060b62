import LogTriage.Proofs.Stream.Encodings
import LogTriage.Proofs.Stream.Portions

/-!
# The limit of a stream

What an attachment would give out if nothing stopped it does not depend on the limit.  A stream
gives out the beginning of it, chunk by chunk; when there is more than the limit allows it ends with
an error that says so, and else in the way in which reading ends.  After that it gives out nothing.

* `openWith_uninterrupted`  reads that are interrupted change nothing;
* `yields_ofSource`         what reading gives, under every limit;
* `chunks_within_limit`     the chunks of any attachment, under every limit.
-/

namespace LogTriage

namespace Source

/-- The source without the reads that are interrupted. -/
def uninterrupted (s : Source) : Source :=
  { s with events := s.events.filter (· ≠ .interrupted) }

theorem reads_uninterrupted (s : Source) (n : Nat) : s.uninterrupted.reads n = s.reads n := by
  obtain ⟨events, buffer⟩ := s
  show readsOf buffer n (events.filter (· ≠ .interrupted)) = readsOf buffer n events
  induction events with
  | nil => rfl
  | cons event events ih =>
    cases event with
    | piece bs => exact congrArg (_ ++ ·) ih
    | interrupted => exact ih
    | failed cause => rfl

theorem content_uninterrupted (s : Source) : s.uninterrupted.content = s.content := by
  obtain ⟨events, buffer⟩ := s
  show contentOf (events.filter (· ≠ .interrupted)) = contentOf events
  induction events with
  | nil => rfl
  | cons event events ih =>
    cases event with
    | piece bs => exact congrArg (fun c : Bytes × Option String => (bs ++ c.1, c.2)) ih
    | interrupted => exact ih
    | failed cause => rfl

end Source

namespace ChunkStream
variable {σ : Type}

/-- **Reads that are interrupted change nothing.** -/
theorem openWith_uninterrupted (d : StepDecoder σ) (config : StreamConfig) (source : Source)
    (encoding : Encoding) :
    openWith d config source.uninterrupted encoding = openWith d config source encoding := by
  cases encoding with
  | plain => rw [openWith, openWith, ofSource, ofSource, Source.reads_uninterrupted]
  | gzip => rw [openWith, openWith, ofSource, ofSource, Source.reads_uninterrupted]
  | zip => rw [openWith, openWith, takeIn, takeIn, Source.content_uninterrupted]

theorem yields_ofSource (decoder : Option (StepDecoder σ)) (config : StreamConfig)
    (source : Source) : ∃ parts : List Bytes,
    (decoder = none → parts.flatten = source.content.1) ∧
      ∀ limit, Yields (ofSource { config with maxLog := limit } source decoder) parts
        source.content.2 := by
  have hn : 0 < config.usedChunkSize := usedChunkSize_pos config
  obtain ⟨parts, hreads, hflat, hsize⟩ := Source.readsOf_spec hn source.buffer source.events
  cases decoder with
  | none => exact ⟨parts, fun _ => hflat, fun limit => yields_plain rfl hreads hsize⟩
  | some d =>
    obtain ⟨sessions, last, hsession⟩ := d.exists_session d.start parts
    have hawaits := Unpacker.awaits_ofDecoder hsession source.content.2
    refine ⟨cut config.usedChunkSize (givenOut config.usedChunkSize source.content.2
      ((Unpacker.ofDecoder d).due sessions.flatten (d.closing source.content.2 last))), nofun,
      fun limit => ?_⟩
    exact yields_unpacker (s := ofSource { config with maxLog := limit } source (some d)) rfl
      hreads hawaits hn

/-- **The chunks of an attachment, under every limit.**  What it would give out does not depend on
the limit: for a plain log it is the content of the source, for an archive the log that it holds.
Under each limit the attachment opens, and the calls of `next` give out the beginning of these
bytes, in chunks that are neither empty nor longer than the chunk size.  When there are more bytes
than the limit allows, an error that says so follows, else the failure of reading, if it failed; and
then nothing.  Without the reads that are interrupted, it is the same stream. -/
theorem chunks_within_limit (d : StepDecoder σ) (config : StreamConfig) (source : Source)
    (encoding : Encoding) (log : Bytes) (hzip : encoding = .zip →
      ∃ archive, takeIn source config.maxSpool = .ok archive ∧ archive.Holds log) :
    ∃ bytes : Bytes, (encoding = .plain → bytes = source.content.1) ∧
      (encoding = .zip → bytes = log) ∧
      ∀ limit, ∃ (stream : ChunkStream σ) (chunks : List Bytes),
        openWith d { config with maxLog := limit } source encoding = .ok stream ∧
        stream.Answers chunks (if limit < bytes.length then some (.logTooLarge limit)
          else source.content.2.map (.io "reading attachment")) ∧
        (∀ chunk ∈ chunks, chunk ≠ [] ∧ chunk.length ≤ config.usedChunkSize) ∧
        chunks.flatten = bytes.take limit ∧
        openWith d { config with maxLog := limit } source.uninterrupted encoding = .ok stream := by
  cases encoding with
  | plain =>
    obtain ⟨parts, hcontent, hyields⟩ :=
      yields_ofSource (none : Option (StepDecoder σ)) config source
    refine ⟨parts.flatten, fun _ => hcontent rfl, nofun, fun limit => ?_⟩
    obtain ⟨chunks, hanswers, hsizes, hflat⟩ := answers_yields (hyields limit) rfl rfl
    exact ⟨_, chunks, rfl, hanswers, hsizes, hflat, openWith_uninterrupted d _ source .plain⟩
  | gzip =>
    obtain ⟨parts, -, hyields⟩ := yields_ofSource (some d) config source
    refine ⟨parts.flatten, nofun, nofun, fun limit => ?_⟩
    obtain ⟨chunks, hanswers, hsizes, hflat⟩ := answers_yields (hyields limit) rfl rfl
    exact ⟨_, chunks, rfl, hanswers, hsizes, hflat, openWith_uninterrupted d _ source .gzip⟩
  | zip =>
    obtain ⟨archive, htaken, hholds⟩ := hzip rfl
    refine ⟨log, nofun, fun _ => rfl, fun limit => ?_⟩
    have hopen := openWith_archive d { config with maxLog := limit } htaken hholds
    obtain ⟨parts, hcontent, hyields⟩ := yields_ofSource (none : Option (StepDecoder σ)) config
      (.ofBytes (log.take (limit + 1)))
    obtain ⟨chunks, hanswers, hsizes, hflat⟩ := answers_yields (hyields limit) rfl rfl
    rw [hcontent rfl, Source.content_ofBytes] at hanswers hflat
    -- one byte beyond the limit was extracted, which is enough to see that there is more
    have hmore : limit < (log.take (limit + 1)).length ↔ limit < log.length := by
      rw [List.length_take]
      omega
    have hbegin : (log.take (limit + 1)).take limit = log.take limit := by
      rw [List.take_take, Nat.min_eq_left (Nat.le_succ limit)]
    refine ⟨_, chunks, hopen, ?_, hsizes, hflat.trans hbegin, ?_⟩
    · rw [(content_of_takeIn htaken).1]
      have hending : endingOf limit (limit - 0) none (log.take (limit + 1))
          = if limit < log.length then some (.logTooLarge limit) else none := by
        simp only [endingOf, Nat.sub_zero, hmore, Option.map_none]
      exact hending ▸ hanswers
    · rw [openWith_uninterrupted, hopen]

def archiveInTwo : Source :=
  { events := [.piece (smallArchive.take 60), .interrupted, .piece (smallArchive.drop 60)] }

/-- Under a limit that allows nothing, the letter is not given out. -/
theorem chunks_of_smallArchive : ∃ bytes : Bytes, bytes = [0x61] ∧
    ∃ (stream : ChunkStream Gzip.Member) (chunks : List Bytes),
      openWith Gzip.decoder { maxLog := 0 } archiveInTwo .zip = .ok stream ∧
      stream.Answers chunks (some (.logTooLarge 0)) ∧ chunks.flatten = [] := by
  have hzip : Encoding.zip = .zip →
      ∃ archive, takeIn archiveInTwo 67108864 = .ok archive ∧ archive.Holds [0x61] :=
    fun _ => ⟨smallArchive.toArray, rfl, holds_smallArchive⟩
  obtain ⟨bytes, -, hlog, hunder⟩ :=
    chunks_within_limit Gzip.decoder {} archiveInTwo .zip [0x61] hzip
  obtain ⟨stream, chunks, hopen, hanswers, -, hflat, -⟩ := hunder 0
  rw [hlog rfl] at hanswers hflat
  exact ⟨bytes, hlog rfl, stream, chunks, hopen, hanswers, hflat⟩

end ChunkStream

end LogTriage
