import LogTriage.Proofs.Line.Items
import LogTriage.Proofs.Run.Coherent
import LogTriage.Proofs.Zip.Opening

/-!
# Attachments that are rejected by their names

Many things can be wrong with the bytes of an attachment, and each of them is told as what it is.
That its name says nothing of its encoding is told before any of its bytes are read, and of no
attachment for any other reason.

`OfBytes` are the errors that do not tell of a name.  Every stage behind the name comes to no other
ones:

* `openWith_error`, `drain_error`  opening a source and taking its chunks;
* `mem_items_source`               an error of the source among the items is one of its chunks;
* `runSource_error`                the run of a source;
* `run_unrecognized_iff`           so an attachment is rejected exactly for its name.
-/

namespace LogTriage

/-- The error does not tell of the name of an attachment. -/
def StreamError.OfBytes (error : StreamError) : Prop :=
  ∀ name, error ≠ .unrecognizedAttachment name

variable {σ : Type} {error : StreamError}

/-! ## Opening -/

theorem takeIn_error {source : Source} {limit : Nat} (h : takeIn source limit = .error error) :
    error.OfBytes := by
  unfold takeIn at h
  dsimp only at h
  split at h
  · obtain rfl := Except.error.inj h
    exact nofun
  · split at h
    · obtain rfl := Except.error.inj h
      exact nofun
    · cases h

theorem Zip.Archive.log_error {a : Zip.Archive} {limit : Nat} (h : a.log limit = .error error) :
    error.OfBytes := by
  obtain (⟨_, rfl⟩ | ⟨_, rfl⟩) | ⟨_, rfl⟩ | ⟨_, _, rfl⟩ := log_error_cases h
  all_goals exact nofun

namespace ChunkStream
variable {s : ChunkStream σ}

theorem openWith_error {d : StepDecoder σ} {config : StreamConfig} {source : Source}
    {encoding : Encoding} (h : openWith d config source encoding = .error error) :
    error.OfBytes := by
  cases encoding with
  | plain => cases h
  | gzip => cases h
  | zip =>
    cases htake : takeIn source config.maxSpool with
    | error other =>
      have hopen : openWith d config source .zip = .error other := by
        rw [openWith, htake]
        rfl
      obtain rfl := Except.error.inj (hopen.symm.trans h)
      exact takeIn_error htake
    | ok archive => exact Zip.Archive.log_error ((openWith_eq_error d htake).mp h)

/-! ## Chunks -/

theorem deliver_error {chunk : Bytes} (h : (s.deliver chunk).1 = some (.error error)) :
    error.OfBytes := by
  unfold deliver at h
  dsimp only at h
  split at h
  · cases h
  · split at h
    · cases h
      exact nofun
    · cases h

theorem next_error (h : s.next.1 = some (.error error)) : error.OfBytes := by
  unfold next at h
  split at h
  · cases h
  · split at h
    · cases h
      exact nofun
    · split at h
      · cases h
      · cases h
        exact nofun
      · exact deliver_error h

theorem drainGo_error {before : List Chunk} {rounds : Nat}
    (hbefore : ∀ e, .error e ∈ before → e.OfBytes)
    (h : .error error ∈ (s.drainGo before rounds).1) : error.OfBytes := by
  induction rounds generalizing before s with
  | zero => exact hbefore error (List.mem_reverse.mp h)
  | succ rounds ih =>
    rw [drainGo] at h
    split at h
    · exact hbefore error (List.mem_reverse.mp h)
    · rename_i chunk rest hnext
      refine ih (fun e he => ?_) h
      rcases List.mem_cons.mp he with rfl | he
      · exact next_error (by rw [hnext])
      · exact hbefore e he

theorem drain_error (h : .error error ∈ s.drain.1) : error.OfBytes :=
  drainGo_error (fun _ h => absurd h List.not_mem_nil) h

end ChunkStream

/-! ## Lines -/

namespace Assembler
variable {a : Assembler}

theorem mem_settled_source (h : .error (.source error) ∈ a.settled) :
    a.failed = some (.source error) := by
  unfold settled at h
  rcases List.mem_append.mp h with h | h
  · obtain ⟨line, -, hline⟩ := List.mem_map.mp h
    cases hline
  · split at h
    · rename_i other hfailed
      cases List.mem_singleton.mp h
      exact hfailed
    · cases h

theorem failed_settle_source {held : Bytes} {fault : Option Bytes}
    (h : (a.settle held fault).failed = some (.source error)) :
    a.failed = some (.source error) := by
  unfold settle at h
  split at h
  · cases h
  · cases h
  split at h
  · cases h
  dsimp only at h
  split at h
  · cases h
  · exact h

theorem failed_pushChunk_source {chunk : Bytes}
    (h : (a.pushChunk chunk).failed = some (.source error)) : a.failed = some (.source error) := by
  unfold pushChunk at h
  split at h
  · exact h
  · dsimp only at h
    generalize Text.Reading.read { held := a.pending } chunk = r at h
    exact failed_settle_source (a := { a with
      pending := []
      offset := a.offset + Text.utf8Size r.chars
      splitter := a.splitter.pushText r.text }) h

theorem source_finish (a : Assembler) : a.finish.source = a.source := by
  by_cases h : a.pending = []
  · simp [finish, handOver, h]
  · simp [finish, handOver, h]

theorem failed_finish_source (h : a.finish.failed = some (.source error)) :
    a.failed = some (.source error) := by
  by_cases hp : a.pending = []
  · simpa [finish, handOver, hp] using h
  · simp [finish, handOver, hp] at h

theorem failed_pull_source (hf : a.failed = none) (h : a.pull.failed = some (.source error)) :
    .error error ∈ a.source := by
  unfold pull at h
  split at h
  · exact absurd (hf.symm.trans (failed_finish_source h)) nofun
  · rename_i chunk source hsource
    have hfailed := failed_pushChunk_source (a := { a with source }) h
    exact absurd (hf.symm.trans hfailed) nofun
  · rename_i e source hsource
    obtain rfl := LineError.source.inj (Option.some.inj h)
    rw [hsource]
    exact List.mem_cons_self

theorem source_pull_subset (a : Assembler) : a.pull.source ⊆ a.source := by
  unfold pull
  split
  · rw [source_finish]
    exact List.Subset.refl _
  · rename_i hsource
    rw [source_pushChunk, hsource]
    exact List.subset_cons_self _ _
  · rename_i hsource
    rw [hsource]
    exact List.subset_cons_self _ _

theorem mem_itemsWithin_source {n : Nat} (h : .error (.source error) ∈ a.itemsWithin n) :
    a.failed = some (.source error) ∨ .error error ∈ a.source := by
  induction n generalizing a with
  | zero => exact .inl (mem_settled_source h)
  | succ n ih =>
    rw [itemsWithin] at h
    split at h
    · exact .inl (mem_settled_source h)
    · rename_i hgoing
      rcases List.mem_append.mp h with h | h
      · obtain ⟨line, -, hline⟩ := List.mem_map.mp h
        cases hline
      · have hf : a.failed = none := by
          cases hfailed : a.failed with
          | none => rfl
          | some _ => simp [hfailed] at hgoing
        rcases ih h with hlast | hmem
        · exact .inr (failed_pull_source (a := { a with ready := [] }) hf hlast)
        · exact .inr (source_pull_subset { a with ready := [] } hmem)

theorem mem_items_source {limits : LineLimits} {chunks : List Chunk}
    (h : .error (.source error) ∈ (ofChunks limits chunks).items) : .error error ∈ chunks := by
  rcases mem_itemsWithin_source h with hfailed | hmem
  · cases hfailed
  · exact hmem

end Assembler

/-! ## Runs -/

namespace Analyzer
variable {a : Analyzer}

theorem runLines_error {items : List LineItem} {fileName : String} {e : TriageError}
    (h : a.runLines items fileName = .error e) :
    ∃ cause, e = .stream cause ∧ .error (.source cause) ∈ items := by
  rcases feedAll_ended (e := a.engine) rfl 0 items with
    ⟨lines, calls, status, -, hall⟩ | ⟨cause, hfailed, hall⟩
  · rw [runLines_of_feedAll hall] at h
    cases h
  · have hnone : a.runLines items fileName = .error (.stream cause) := by
      rw [runLines, hall]
      rfl
    obtain rfl := Except.error.inj (hnone.symm.trans h)
    obtain ⟨lines, rest, hitems, -⟩ := hfailed.items_eq
    refine ⟨cause, rfl, ?_⟩
    rw [hitems]
    exact List.mem_append_right _ List.mem_cons_self

/-- **The run of a source** comes to no error that tells of the name. -/
theorem runSource_error {source : Source} {encoding : Encoding} {fileName : String}
    (h : a.runSource source encoding fileName = .error (.stream error)) : error.OfBytes := by
  unfold runSource at h
  split at h
  · obtain ⟨cause, hcause, hmem⟩ := runLines_error h
    obtain rfl := TriageError.stream.inj hcause
    exact ChunkStream.drain_error (Assembler.mem_items_source hmem)
  · cases h
  · rename_i other _ hopen
    obtain rfl := TriageError.stream.inj (Except.error.inj h)
    exact ChunkStream.openWith_error hopen

/-- **An attachment is rejected exactly for its name**: when the name says nothing of the encoding,
and then whatever its bytes are, with the name in the error. -/
theorem run_unrecognized_iff (a : Analyzer) (attachment : Attachment)
    (opened : Except String Source) (name : String) :
    a.run attachment opened = .error (.stream (.unrecognizedAttachment name)) ↔
      attachment.encoding? = none ∧ name = attachment.fileName := by
  cases hencoding : attachment.encoding? with
  | none =>
    rw [run, hencoding]
    constructor
    · intro h
      cases h
      exact ⟨rfl, rfl⟩
    · rintro ⟨-, rfl⟩
      rfl
  | some encoding =>
    refine ⟨fun h => ?_, fun ⟨h, _⟩ => nomatch h⟩
    rw [run, hencoding] at h
    cases opened with
    | error cause => cases h
    | ok source => exact absurd rfl (runSource_error h name)

end Analyzer

end LogTriage
