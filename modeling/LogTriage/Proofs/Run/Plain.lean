import LogTriage.AnalysisRun
import LogTriage.Proofs.Line.Assembly
import LogTriage.Proofs.Stream.Chunks

/-!
# The run of a plain log

What an analysis makes of a plain log is told by its bytes alone.  The closed lines are fed first;
then an ill-formed sequence, the limit of the stream, and the end of the log count in this order.
`plainRun` is this run; neither the pieces in which the source gives its bytes nor the size of the
chunks appear in it.

* `feedAll_append`     lines before anything else are fed until the engine halts;
* `runLines_itemsOf`   the run of the items of a log;
* `runSource_plain`    the run of a plain source.
-/

namespace LogTriage
open Text (Ending Decodes)

/-- Feeds lines until the engine halts: the status that halted it, if it halted, the engine, and
the number of lines that it took. -/
def Engine.feedLines (e : Engine) : List Line → Option Status × Engine × Nat
  | [] => (none, e, 0)
  | line :: lines =>
    let (status, e) := e.feedCounted line.text line.raw
    if e.isHalted then (some status, e, 1)
    else
      let (halting, e, n) := e.feedLines lines
      (halting, e, n + 1)

def AnalysisRun.close (fileName : String) (status : Status) (e : Engine) (lines : Nat) :
    AnalysisRun where
  fileName := fileName
  status := status
  sections := e.completed
  unfinished := if status.isFatal then some e.partialAnalysis else none
  lines := lines

namespace Analyzer
variable {a : Analyzer} {e e' : Engine} {lines : List Line} {items : List LineItem} {count n : Nat}
  {status : Status}

/-- The run of a log with the bytes `data`, of which the stream gives out `text`, and then ends
so. -/
def plainRun (a : Analyzer) (data : Bytes) (text : List Char) (ending : Ending)
    (fileName : String) : AnalysisRun :=
  match a.engine.feedLines (closedLines text) with
  | (some status, e, n) => .close fileName status e n
  | (none, e, n) =>
    match ending with
    | .illFormed _ => .close fileName (.fail (e.failure none .invalidEncoding)) e n
    | _ =>
      if a.stream.maxLog < data.length then
        .close fileName (.overflow (a.stream.maxLog + 1) a.stream.maxLog .logBytes) e n
      else
        match e.feedLines (openLine text), ending with
        | (some status, e, m), _ => .close fileName status e (n + m)
        | (none, e, m), .cut _ =>
          .close fileName (.fail (e.failure none .invalidEncoding)) e (n + m)
        | (none, e, m), _ => .close fileName e.finish.1 e.finish.2 (n + m)

/-! ## Feeding -/

theorem feedAll_append (count : Nat) (e : Engine) (lines : List Line) (items : List LineItem) :
    feedAll count e (lines.map .ok ++ items) = match e.feedLines lines with
      | (some status, e, n) => .ok (status, e, count + n)
      | (none, e, n) => feedAll (count + n) e items := by
  induction lines generalizing e count with
  | nil => rfl
  | cons line lines ih =>
    rw [List.map_cons, List.cons_append, feedAll, Engine.feedLines]
    generalize e.feedCounted line.text line.raw = outcome
    obtain ⟨status, e₁⟩ := outcome
    dsimp only
    by_cases hh : e₁.isHalted = true
    · rw [if_pos hh, if_pos hh]
    · rw [if_neg hh, if_neg hh, ih]
      generalize e₁.feedLines lines = fed
      obtain ⟨halting, e₂, n⟩ := fed
      cases halting with
      | some status => simp only [Nat.add_assoc, Nat.add_comm 1]
      | none => simp only [Nat.add_assoc, Nat.add_comm 1]

theorem runLines_of_feedAll {fileName : String}
    (h : feedAll 0 a.engine items = .ok (status, e, n)) :
    a.runLines items fileName = .ok (.close fileName status e n) := by
  rw [runLines, h]
  rfl

theorem runLines_itemsOf (a : Analyzer) (data : Bytes) (text : List Char) (ending : Ending)
    (fileName : String) :
    a.runLines (itemsOf text ending (ChunkStream.failureOf a.stream.maxLog data)) fileName
      = .ok (a.plainRun data text ending fileName) := by
  have hfeed := feedAll_append 0 a.engine (closedLines text)
  unfold plainRun
  generalize a.engine.feedLines (closedLines text) = fed at hfeed
  obtain ⟨halting, e, n⟩ := fed
  simp only [Nat.zero_add] at hfeed
  rw [itemsOf]
  cases halting with
  | some status => exact runLines_of_feedAll (hfeed _)
  | none =>
    dsimp only at hfeed ⊢
    have hopen := feedAll_append n e (openLine text)
    cases ending with
    | illFormed bytes => exact runLines_of_feedAll (hfeed _)
    | whole =>
      dsimp only
      by_cases hlt : a.stream.maxLog < data.length
      · rw [if_pos hlt, ChunkStream.failureOf, if_pos hlt]
        exact runLines_of_feedAll (hfeed _)
      · have hafter : itemsAfter text .whole none = (openLine text).map .ok ++ [] :=
          (List.append_nil _).symm
        rw [if_neg hlt, ChunkStream.failureOf, if_neg hlt, hafter]
        generalize e.feedLines (openLine text) = fed at hopen
        obtain ⟨halting, e', m⟩ := fed
        cases halting with
        | some status => exact runLines_of_feedAll ((hfeed _).trans (hopen _))
        | none => exact runLines_of_feedAll ((hfeed _).trans (hopen _))
    | cut held =>
      dsimp only
      by_cases hlt : a.stream.maxLog < data.length
      · rw [if_pos hlt, ChunkStream.failureOf, if_pos hlt]
        exact runLines_of_feedAll (hfeed _)
      · rw [if_neg hlt, ChunkStream.failureOf, if_neg hlt]
        generalize e.feedLines (openLine text) = fed at hopen
        obtain ⟨halting, e', m⟩ := fed
        cases halting with
        | some status => exact runLines_of_feedAll ((hfeed _).trans (hopen _))
        | none => exact runLines_of_feedAll ((hfeed _).trans (hopen _))

/-- **The run of a plain source** is that of its bytes. -/
theorem runSource_plain (a : Analyzer) (source : Source) (data : Bytes)
    (hsource : source.content = (data, none)) (hp : 3 ≤ a.lineLimits.maxPending)
    {text : List Char} {ending : Ending} (hd : Decodes (data.take a.stream.maxLog) text ending)
    (hs : Short a.lineLimits.maxLine text) (fileName : String) :
    a.runSource source .plain fileName = .ok (a.plainRun data text ending fileName) := by
  obtain ⟨stream, chunks, ho, hc, hf⟩ := ChunkStream.openChunks_plain a.stream hsource
  have hitems : a.lineItems stream.drain.1
      = itemsOf text ending (ChunkStream.failureOf a.stream.maxLog data) := by
    rw [lineItems, hc]
    exact Assembler.items_eq_itemsOf _ hp (hf ▸ hd) hs
  rw [runSource, ho]
  dsimp only
  rw [hitems, runLines_itemsOf]

def brief : Analyzer := { table := default, stream := { maxLog := 4 } }

/-- The limit cuts the last character of a log off: this is an overflow, not an ill-formed text. -/
theorem runSource_brief : ∃ run : AnalysisRun,
    brief.runSource
        { events := [.piece [0x61, 0x0A], .interrupted, .piece [0xE2, 0x82, 0xAC]] } .plain "a.log"
      = .ok run ∧ run.status = .overflow 5 4 .logBytes ∧ run.lines = 1 := by
  have hd : Decodes [0x61, 0x0A, 0xE2, 0x82] ['a', '\n'] (.cut [0xE2, 0x82]) :=
    Text.decodes_read _
  have hs : Short 1048576 ['a', '\n'] := by decide
  have hrun := runSource_plain brief
    { events := [.piece [0x61, 0x0A], .interrupted, .piece [0xE2, 0x82, 0xAC]] }
    [0x61, 0x0A, 0xE2, 0x82, 0xAC] rfl (by decide) hd hs "a.log"
  exact ⟨_, hrun, by decide, by decide⟩

end Analyzer

end LogTriage
