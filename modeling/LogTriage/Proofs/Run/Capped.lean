import LogTriage.Proofs.Engine.Overflow
import LogTriage.Proofs.Line.Charges
import LogTriage.Proofs.Run.Plain
import LogTriage.Proofs.Stream.Decoded

/-!
# The limit of a log

A log that goes on after the limit of the stream is an overflow, wherever the limit falls, unless
what comes before it has ended the run already.  The engine counts the bytes of the lines on its
own; with a limit that is not lower than that of the stream it never finds too many.

* `feedLines_untripped`  lines for which there is room do not exceed the limit;
* `feedAll_ends`         the run of lines and what comes after them;
* `run_within_limit`     the run of any attachment.
-/

namespace LogTriage
open Text (Ending Decodes)

namespace Engine
variable {e : Engine}

/-! ## The counter of the engine -/

theorem feedLines_untripped (hh : e.halted = none) {lines : List Line}
    (hr : e.consumed + rawTotal lines ≤ e.limits.maxLogBytes) :
    (∀ status, (e.feedLines lines).1 = some status → Untripped (status, (e.feedLines lines).2.1)) ∧
      ((e.feedLines lines).1 = none → (e.feedLines lines).2.1.halted = none) := by
  induction lines generalizing e with
  | nil => exact ⟨fun _ hs => (by cases hs), fun _ => hh⟩
  | cons line lines ih =>
    rw [rawTotal_cons] at hr
    have hroom : e.consumed + line.raw ≤ e.limits.maxLogBytes := by omega
    have hout := feedCounted_untripped hh line.text hroom
    have hconsumed := feedCounted_consumed e line.text line.raw
    obtain ⟨_, hadds⟩ := feedCounted_adds e line.text line.raw
    have hlimits : (e.feedCounted line.text line.raw).2.limits = e.limits :=
      (congrArg limits hadds.ledger_eq :)
    rw [feedLines]
    generalize e.feedCounted line.text line.raw = out at hout hconsumed hlimits ⊢
    obtain ⟨status, e₁⟩ := out
    dsimp only at hconsumed hlimits ⊢
    cases hh₁ : e₁.halted with
    | some s =>
      rw [if_pos (by rw [isHalted, hh₁]; rfl)]
      refine ⟨?_, fun hn => by cases hn⟩
      rintro _ ⟨⟩
      exact hout
    | none =>
      rw [if_neg (by rw [isHalted, hh₁]; exact Bool.false_ne_true)]
      exact ih hh₁ (by rw [hlimits]; omega)

end Engine

/-! ## The run -/

namespace Analyzer
variable {a : Analyzer} {e : Engine} {bs : Bytes} {lines : List Line} {tail : List LineItem}
  {failure : Option StreamError}

/-- How the run of a log ends that goes on after the bytes `bs`: the limit is reported, unless these
bytes have ended the run before. -/
inductive CutOff (a : Analyzer) (items : List LineItem) (bs : Bytes) (e : Engine) : Status → Prop where
  | capped : CutOff a items bs e (.overflow (a.stream.maxLog + 1) a.stream.maxLog .logBytes)
  /-- A line among these bytes has halted the engine. -/
  | halted {lines : List Line} {rest : List LineItem} {status : Status} {n : Nat}
      (hi : items = lines.map .ok ++ rest) (hr : rawTotal lines ≤ bs.length)
      (hf : a.engine.feedLines lines = (some status, e, n)) : CutOff a items bs e status
  /-- These bytes give reason for an error, which is the last item. -/
  | reported {lines : List Line} {error : LineError} {status : Status}
      (hi : items = lines.map .ok ++ [.error error]) (h : Reported a.lineLimits bs error)
      (hs : lineStatus e error = .ok status) : CutOff a items bs e status

theorem lineStatus_reported (e : Engine) {error : LineError}
    (h : Reported a.lineLimits bs error) : ∃ status, lineStatus e error = .ok status ∧
      ∀ consumed limit, status ≠ .overflow consumed limit .logBytes := by
  cases h with
  | invalidEncoding => exact ⟨_, rfl, nofun⟩
  | lineTooLong => exact ⟨_, rfl, nofun⟩
  | pendingOverflow => exact ⟨_, rfl, nofun⟩

theorem feedAll_ends (hcap : rawTotal lines ≤ a.engineLimits.maxLogBytes)
    (hraw : rawTotal lines ≤ bs.length) (hends : Ends a.lineLimits bs failure tail)
    (hfailure : ∀ e, failure = some e → e = .logTooLarge a.stream.maxLog) :
    ∃ status e n, feedAll 0 a.engine (lines.map .ok ++ tail) = .ok (status, e, n) ∧
      (∀ s, e.halted = some s → ¬ s.IsOverflow) ∧
      (failure = none → ∀ consumed limit, status ≠ .overflow consumed limit .logBytes) ∧
      (failure ≠ none → CutOff a (lines.map .ok ++ tail) bs e status) := by
  have hroom : a.engine.consumed + rawTotal lines ≤ a.engine.limits.maxLogBytes := by
    have hz : a.engine.consumed + rawTotal lines = rawTotal lines := Nat.zero_add _
    rw [hz]
    exact hcap
  obtain ⟨hhalts, hgoes⟩ := Engine.feedLines_untripped rfl hroom
  have hfeed := feedAll_append 0 a.engine lines tail
  cases hlines : a.engine.feedLines lines with
  | mk halting rest =>
    obtain ⟨e, n⟩ := rest
    rw [hlines] at hhalts hgoes hfeed
    cases halting with
    | some status =>
      obtain ⟨hanswer, hhalted⟩ := hhalts status rfl
      refine ⟨status, e, 0 + n, hfeed, hhalted, fun _ consumed limit hs => ?_,
        fun _ => .halted rfl hraw hlines⟩
      rw [hs] at hanswer
      exact hanswer trivial
    | none =>
      have hgoing : e.halted = none := hgoes rfl
      have hsilent : ∀ s, e.halted = some s → ¬ s.IsOverflow := by
        intro s hs
        rw [hgoing] at hs
        cases hs
      cases hends with
      | whole =>
        obtain ⟨hanswer, hhalted⟩ := Engine.finish_untripped hgoing
        refine ⟨e.finish.1, e.finish.2, 0 + n, hfeed, hhalted, fun _ consumed limit hs => ?_,
          fun h => absurd rfl h⟩
        rw [hs] at hanswer
        exact hanswer trivial
      | cut offset held =>
        exact ⟨_, e, 0 + n, hfeed, hsilent, fun _ => nofun, fun h => absurd rfl h⟩
      | source error =>
        have herror := hfailure error rfl
        subst herror
        exact ⟨_, e, 0 + n, hfeed, hsilent, nofun, fun _ => .capped⟩
      | @reported _ error h =>
        obtain ⟨status, hs, hne⟩ := lineStatus_reported e h
        have hall : feedAll 0 a.engine (lines.map .ok ++ [.error error])
            = .ok (status, e, 0 + n) := by
          rw [hfeed]
          dsimp only
          rw [feedAll, hs]
          rfl
        exact ⟨status, e, 0 + n, hall, hsilent, fun _ => hne, fun _ => .reported rfl h hs⟩

theorem feedAll_chunks (hcap : a.stream.maxLog ≤ a.engineLimits.maxLogBytes) {chunks : List Bytes}
    {log : Bytes} (hf : chunks.flatten = log.take a.stream.maxLog) :
    let items := a.lineItems
      (chunks.map .ok ++ (ChunkStream.failureOf a.stream.maxLog log).toList.map .error)
    ∃ status e n, feedAll 0 a.engine items = .ok (status, e, n) ∧
      (∀ s, e.halted = some s → ¬ s.IsOverflow) ∧
      (log.length ≤ a.stream.maxLog →
        ∀ consumed limit, status ≠ .overflow consumed limit .logBytes) ∧
      (a.stream.maxLog < log.length →
        CutOff a items (log.take a.stream.maxLog) e status) := by
  obtain ⟨lines, tail, hitems, hraw, hends⟩ := Assembler.items_ofChunks a.lineLimits chunks
    (ChunkStream.failureOf a.stream.maxLog log)
  rw [hf] at hraw hends
  have hroom : rawTotal lines ≤ a.engineLimits.maxLogBytes := by
    rw [List.length_take] at hraw
    omega
  have hfailure : ∀ e, ChunkStream.failureOf a.stream.maxLog log = some e →
      e = .logTooLarge a.stream.maxLog := by
    intro e he
    rw [ChunkStream.failureOf] at he
    split at he
    · cases he
      rfl
    · cases he
  obtain ⟨status, e, n, hfeed, hhalted, hwithin, hbeyond⟩ :=
    feedAll_ends hroom hraw hends hfailure
  rw [lineItems, hitems]
  refine ⟨status, e, n, hfeed, hhalted, fun hle => hwithin ?_, fun hlt => hbeyond ?_⟩
  · exact if_neg (Nat.not_lt.mpr hle)
  · rw [ChunkStream.failureOf, if_pos hlt]
    exact Option.some_ne_none _

/-- **The limit of a log.**  An analyzer has one limit for the stream and for the engine, unless it
is given another.  The engine never finds too many bytes on its own.  A log that is not longer than
the limit of the stream does not end with an overflow of it.  One that goes on after it does,
wherever the limit falls, unless the bytes before it have ended the run: a line has halted the
engine, or there is reason for an error. -/
theorem run_within_limit :
    (∀ table, ({ table } : Analyzer).stream.maxLog = ({ table } : Analyzer).engineLimits.maxLogBytes) ∧
    (∀ config table,
      (ofConfig config table).stream.maxLog = (ofConfig config table).engineLimits.maxLogBytes) ∧
    ∀ {a : Analyzer} {attachment : Attachment} {encoding : Encoding} {source : Source}
      {stream : ChunkStream Gzip.Member},
      attachment.encoding? = some encoding →
      source.content.2 = none →
      openChunks a.stream source encoding = .ok stream →
      a.stream.maxLog ≤ a.engineLimits.maxLogBytes →
      let items := a.lineItems stream.drain.1
      ∃ run e, a.run attachment (.ok source) = .ok run ∧
        feedAll 0 a.engine items = .ok (run.status, e, run.lines) ∧
        (∀ s, e.halted = some s → ¬ s.IsOverflow) ∧
        (∃ log, decodedLog a.stream source a.stream.maxLog encoding = .ok log) ∧
        ∀ limit log, a.stream.maxLog ≤ limit →
          decodedLog a.stream source limit encoding = .ok log →
          (log.length ≤ a.stream.maxLog →
            ∀ consumed limit, run.status ≠ .overflow consumed limit .logBytes) ∧
          (a.stream.maxLog < log.length →
            CutOff a items (log.take a.stream.maxLog) e run.status) := by
  refine ⟨fun _ => rfl, fun _ _ => rfl, fun {a attachment encoding source stream} hname hsource hopen
    hcap => ?_⟩
  intro items
  obtain ⟨first, hfirst⟩ := exists_decodedLog hopen
  obtain ⟨chunks, hc, hf⟩ := drain_openChunks hsource hopen (Nat.le_refl _) hfirst
  obtain ⟨status, e, n, hfeed, hhalted, -, -⟩ := feedAll_chunks hcap hf
  rw [← hc] at hfeed
  have hrun : a.run attachment (.ok source)
      = .ok (.close attachment.fileName status e n) := by
    rw [run, hname]
    dsimp only
    rw [runSource, hopen]
    exact runLines_of_feedAll hfeed
  refine ⟨_, e, hrun, hfeed, hhalted, ⟨first, hfirst⟩, fun limit log hl hlog => ?_⟩
  obtain ⟨chunks', hc', hf'⟩ := drain_openChunks hsource hopen hl hlog
  obtain ⟨status', e', n', hfeed', -, hwithin, hbeyond⟩ := feedAll_chunks hcap hf'
  rw [← hc', hfeed] at hfeed'
  cases hfeed'
  rw [← hc'] at hbeyond
  exact ⟨hwithin, hbeyond⟩

/-- A packed log of a line and a character, which the limit of `brief` cuts off. -/
def packedEuro : Source where
  events := [
    .piece [0x1F, 0x8B, 0x08, 0, 0, 0, 0, 0, 0, 0xFF, 0x01, 0x05, 0, 0xFA, 0xFF, 0x61, 0x0A, 0xE2],
    .interrupted,
    .piece [0x82, 0xAC, 0x40, 0x58, 0x7E, 0x71, 5, 0, 0, 0]]

/-- The limit cuts a character of a packed log off: this is an overflow, not an ill-formed text. -/
theorem run_packedEuro :
    ∃ run e items,
      brief.run { locator := "a.gz", fileName := "a.gz" } (.ok packedEuro) = .ok run ∧
      run.status = .overflow 5 4 .logBytes ∧
      CutOff brief items [0x61, 0x0A, 0xE2, 0x82] e run.status := by
  have hname : ({ locator := "a.gz", fileName := "a.gz" } : Attachment).encoding? = some .gzip := by
    decide
  have hopen : openChunks brief.stream packedEuro .gzip
      = .ok (.ofSource brief.stream packedEuro (some Gzip.decoder)) := rfl
  have hlog : decodedLog brief.stream packedEuro 4 .gzip
      = .ok [0x61, 0x0A, 0xE2, 0x82, 0xAC] := by rfl
  have hstatus : (brief.run { locator := "a.gz", fileName := "a.gz" } (.ok packedEuro)).map (·.status)
      = .ok (.overflow 5 4 .logBytes) := by rfl
  obtain ⟨run, e, hrun, -, -, -, hends⟩ := run_within_limit.2.2 hname rfl hopen (by decide)
  rw [hrun] at hstatus
  exact ⟨run, e, _, hrun, Except.ok.inj hstatus, (hends 4 _ (by decide) hlog).2 (by decide)⟩

/-- An analyzer that takes two bytes, and lets only one byte of a character wait. -/
def narrow : Analyzer where
  table := default
  engineLimits := { maxLogBytes := 2 }
  lineLimits := { maxPending := 1 }
  stream := { maxLog := 2 }

/-- Where fewer than three bytes may wait, a character that the limit cuts off can be reported in
place of the limit. -/
theorem run_narrow :
    narrow.stream.maxLog ≤ narrow.engineLimits.maxLogBytes ∧
    decodedLog narrow.stream (.ofBytes [0xE2, 0x82, 0xAC]) 2 .plain = .ok [0xE2, 0x82, 0xAC] ∧
    ∃ (stream : ChunkStream Gzip.Member) (run : AnalysisRun) (e : Engine),
      openChunks narrow.stream (.ofBytes [0xE2, 0x82, 0xAC]) .plain = .ok stream ∧
      narrow.lineItems stream.drain.1 = [.error (.pendingOverflow 2 1)] ∧
      narrow.run { locator := "a.log", fileName := "a.log" } (.ok (.ofBytes [0xE2, 0x82, 0xAC]))
        = .ok run ∧
      feedAll 0 narrow.engine (narrow.lineItems stream.drain.1) = .ok (run.status, e, run.lines) ∧
      e.halted = none ∧
      run.status = .overflow 2 1 .pendingBytes ∧
      run.status ≠ .overflow (narrow.stream.maxLog + 1) narrow.stream.maxLog .logBytes :=
  ⟨by decide, rfl, .ofSource narrow.stream (.ofBytes [0xE2, 0x82, 0xAC]) none, _, narrow.engine,
    rfl, rfl, rfl, rfl, rfl, rfl, nofun⟩

end Analyzer

end LogTriage
