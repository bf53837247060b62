import LogTriage.Proofs.Engine.Endings
import LogTriage.Proofs.Engine.Snapshots
import LogTriage.Proofs.Engine.Statuses
import LogTriage.Proofs.Run.Plain

/-!
# Runs are coherent

The parts of a run are set in different places: the engine halts, an error among the lines stands
for a status, or the log ends.  They fit together all the same.

`Ended` says how the items of a run come to a status, and `Answered` what the engine is left with.
The engine is sound, keeps snapshots and is grounded, whatever it was fed; `Coherent` is read off
these.

* `feedAll_ended`      how items are fed: they come to a status, unless a source has failed;
* `Answered.coherent`  the run that comes of them is coherent;
* `runLines_coherent`  the run of any items.
-/

namespace LogTriage
open Engine (Call Sound Kept Grounded)

def Line.call (line : Line) : Call := .feed line.text line.raw

/-- What the parts of a run tell of each other. -/
structure AnalysisRun.Coherent (run : AnalysisRun) (table : PhaseTable) : Prop where
  not_success : run.status ≠ .success
  stop_iff : run.status = .stop ↔ run.status.isFatal = false
  of_stop : run.status = .stop → run.sections ≠ [] ∧ run.unfinished = none
  of_fatal : run.status.isFatal = true → ∃ a, run.unfinished = some a ∧ a.complete = false ∧
    a.index = run.sections.length ∧ a.piracy = run.status.hit?.map (·.escape)
  numbered : run.sections.map (·.index) = List.range run.sections.length
  complete : ∀ a ∈ run.sections, a.complete = true ∧ a.tableId = table.id ∧ a.piracy = none
  truncated : ∀ failure, run.status = .fail failure → failure.reason = .truncated →
    run.sections = []

namespace Analyzer
variable {a : Analyzer} {e : Engine} {items : List LineItem} {lines : List Line}
  {calls : List Call} {status : Status}

/-! ## How items are fed -/

/-- How items come to a status: `lines` are fed to the engine by `calls`, and the last of these
calls answers, or the item after them. -/
inductive Ended (e : Engine) (items : List LineItem) (lines : List Line) :
    List Call → Status → Prop where
  /-- The last line halts the engine. -/
  | halted {before : List Line} {last : Line} {rest : List LineItem} {status : Status}
      (hl : lines = before ++ [last]) (hi : items = lines.map .ok ++ rest)
      (hgoing : (e.run (before.map Line.call)).halted = none)
      (hs : ((e.run (before.map Line.call)).feedCounted last.text last.raw).1 = status)
      (hh : (e.run (lines.map Line.call)).halted ≠ none) :
      Ended e items lines (lines.map Line.call) status
  /-- An error stands for the status. -/
  | reported {error : LineError} {rest : List LineItem} {status : Status}
      (hi : items = lines.map .ok ++ .error error :: rest)
      (hgoing : (e.run (lines.map Line.call)).halted = none)
      (hs : lineStatus (e.run (lines.map Line.call)) error = .ok status) :
      Ended e items lines (lines.map Line.call) status
  /-- The log ends. -/
  | finished (hi : items = lines.map .ok)
      (hgoing : (e.run (lines.map Line.call)).halted = none) :
      Ended e items lines (lines.map Line.call ++ [.finish])
        (e.run (lines.map Line.call)).finish.1

theorem Ended.cons {line : Line} (h : Ended (e.perform line.call) items lines calls status) :
    Ended e (.ok line :: items) (line :: lines) (line.call :: calls) status := by
  cases h with
  | @halted before last rest _ hl hi hgoing hs hh =>
    have hl' : line :: lines = (line :: before) ++ [last] := by rw [hl, List.cons_append]
    have hi' : (.ok line :: items : List LineItem) = (line :: lines).map .ok ++ rest := by
      rw [hi, List.map_cons, List.cons_append]
    exact .halted hl' hi' hgoing hs hh
  | @reported error rest _ hi hgoing hs =>
    have hi' : (.ok line :: items : List LineItem)
        = (line :: lines).map .ok ++ .error error :: rest := by
      rw [hi, List.map_cons, List.cons_append]
    exact .reported hi' hgoing hs
  | finished hi hgoing =>
    have hi' : (.ok line :: items : List LineItem) = (line :: lines).map .ok := by
      rw [hi, List.map_cons]
    exact .finished hi' hgoing

/-- Why a run of items comes to nothing: the source has failed, and the engine has not halted. -/
structure Failed (e : Engine) (items : List LineItem) (error : StreamError) : Prop where
  items_eq : ∃ (lines : List Line) (rest : List LineItem),
    items = lines.map .ok ++ .error (.source error) :: rest ∧
      (e.run (lines.map Line.call)).halted = none
  not_tooLarge : ∀ limit, error ≠ .logTooLarge limit
  not_unsupported : ∀ entry method, error ≠ .unsupportedCodec entry method

theorem Failed.cons {line : Line} {error : StreamError}
    (h : Failed (e.perform line.call) items error) : Failed e (.ok line :: items) error where
  items_eq := by
    obtain ⟨lines, rest, hi, hgoing⟩ := h.items_eq
    refine ⟨line :: lines, rest, ?_, hgoing⟩
    rw [hi, List.map_cons, List.cons_append]
  not_tooLarge := h.not_tooLarge
  not_unsupported := h.not_unsupported

/-- **An error among the lines** stands for a fatal status, unless it is a failure of the source. -/
theorem lineStatus_cases (e : Engine) (error : LineError) :
    (∃ status, lineStatus e error = .ok status ∧ status.isFatal = true ∧ status.hit? = none ∧
      ∀ failure, status = .fail failure → failure.reason ≠ .truncated) ∨
    ∃ cause, error = .source cause ∧ lineStatus e error = .error (.stream cause) ∧
      (∀ limit, cause ≠ .logTooLarge limit) ∧
      ∀ entry method, cause ≠ .unsupportedCodec entry method := by
  unfold lineStatus
  split
  · exact .inl ⟨_, rfl, rfl, rfl, nofun⟩
  · exact .inl ⟨_, rfl, rfl, rfl, nofun⟩
  · rename_i cause hcodec hlarge
    exact .inr ⟨cause, rfl, rfl, hlarge, hcodec⟩
  · refine .inl ⟨_, rfl, rfl, rfl, ?_⟩
    rintro failure ⟨⟩
    exact nofun
  · exact .inl ⟨_, rfl, rfl, rfl, nofun⟩
  · exact .inl ⟨_, rfl, rfl, rfl, nofun⟩

/-- **How items are fed**: they come to a status, or the source has failed. -/
theorem feedAll_ended (hh : e.halted = none) (count : Nat) (items : List LineItem) :
    (∃ lines calls status, Ended e items lines calls status ∧
      feedAll count e items = .ok (status, e.run calls, count + lines.length)) ∨
    ∃ error, Failed e items error ∧ feedAll count e items = .error (.stream error) := by
  induction items generalizing e count with
  | nil => exact .inl ⟨[], [.finish], _, .finished rfl hh, rfl⟩
  | cons item items ih =>
    cases item with
    | error error =>
      rw [feedAll]
      rcases lineStatus_cases e error with ⟨status, hs, -⟩ | ⟨cause, rfl, hs, hlarge, hcodec⟩
      · refine .inl ⟨[], [], status, .reported rfl hh hs, ?_⟩
        rw [hs]
        rfl
      · refine .inr ⟨cause, ⟨⟨[], items, rfl, hh⟩, hlarge, hcodec⟩, ?_⟩
        rw [hs]
        rfl
    | ok line =>
      have hcons : feedAll count e (.ok line :: items)
          = if (e.perform line.call).isHalted then
              .ok ((e.feedCounted line.text line.raw).1, e.perform line.call, count + 1)
            else feedAll (count + 1) (e.perform line.call) items := rfl
      rw [hcons]
      cases hline : (e.perform line.call).halted with
      | some status =>
        have hhalted : (e.run ([line].map Line.call)).halted ≠ none := by
          show (e.perform line.call).halted ≠ none
          rw [hline]
          exact Option.some_ne_none status
        rw [if_pos (by rw [Engine.isHalted, hline]; rfl)]
        exact .inl ⟨[line], _, _, .halted (List.nil_append [line]).symm rfl hh rfl hhalted, rfl⟩
      | none =>
        rw [if_neg (by rw [Engine.isHalted, hline]; exact Bool.false_ne_true)]
        rcases ih hline (count + 1) with ⟨lines, calls, status, hended, hall⟩ | ⟨error, hf, hall⟩
        · refine .inl ⟨line :: lines, line.call :: calls, status, hended.cons, ?_⟩
          rw [hall, Engine.run_cons, List.length_cons]
          congr 3
          omega
        · exact .inr ⟨error, hf.cons, hall⟩

/-! ## What comes of them -/

theorem Ended.untaken (h : Ended e items lines calls status) : .take ∉ calls := by
  have hfeeds : .take ∉ lines.map Line.call := by
    intro hmem
    obtain ⟨line, -, hline⟩ := List.mem_map.mp hmem
    cases hline
  cases h with
  | halted => exact hfeeds
  | reported => exact hfeeds
  | finished =>
    intro hmem
    rcases List.mem_append.mp hmem with hmem | hmem
    · exact hfeeds hmem
    · cases List.mem_singleton.mp hmem

inductive Answered (e : Engine) (status : Status) : Prop where
  /-- The status has halted the engine. -/
  | halted (hh : e.halted = some status) (hs : status.Halts)
  /-- The status stands for an error. -/
  | reported (hh : e.halted = none) (hfatal : status.isFatal = true) (hhit : status.hit? = none)
      (hreason : ∀ failure, status = .fail failure → failure.reason ≠ .truncated)

theorem Ended.answered (h : Ended e items lines calls status)
    (hsound : ∀ calls, Sound (e.run calls)) : Answered (e.run calls) status := by
  cases h with
  | @halted before last rest _ hl hi hgoing hs hh =>
    have hlast : e.run (lines.map Line.call)
        = ((e.run (before.map Line.call)).feedCounted last.text last.raw).2 := by
      rw [hl, List.map_append, Engine.run, List.foldl_append]
      rfl
    have hout := Engine.feedCounted_outcome (hsound (before.map Line.call)) last.text last.raw
    rw [hlast] at hh ⊢
    rw [← hs]
    obtain ⟨hhalted, hhalts⟩ := hout.halting hh
    exact .halted hhalted hhalts
  | @reported error rest _ hi hgoing hs =>
    rcases lineStatus_cases (e.run (lines.map Line.call)) error with
      ⟨status', hs', hfatal, hhit, hreason⟩ | ⟨cause, -, hs', -⟩
    · rw [hs] at hs'
      cases hs'
      exact .reported hgoing hfatal hhit hreason
    · rw [hs] at hs'
      cases hs'
  | finished hi hgoing =>
    have hlast : e.run (lines.map Line.call ++ [.finish])
        = (e.run (lines.map Line.call)).finish.2 := by
      rw [Engine.run, List.foldl_append]
      rfl
    have hout := Engine.finish_outcome (hsound (lines.map Line.call))
    rw [hlast]
    obtain ⟨hhalted, hhalts⟩ := hout.halting hout.ended.1
    exact .halted hhalted hhalts

namespace Answered

theorem not_success (h : Answered e status) : status ≠ .success := by
  rintro rfl
  cases h with
  | halted hh hs => exact hs
  | reported hh hfatal => cases hfatal

theorem stop_iff (h : Answered e status) : status = .stop ↔ status.isFatal = false := by
  cases status with
  | success => exact absurd rfl h.not_success
  | stop => exact ⟨fun _ => rfl, fun _ => rfl⟩
  | piracy | overflow | fail | unsupportedCodec => exact ⟨nofun, nofun⟩

theorem piracy_eq (h : Answered e status) (hkept : Kept e) :
    e.progress.piracy = status.hit? := by
  rw [hkept.piracy_eq]
  cases h with
  | halted hh hs =>
    rw [hh]
    rfl
  | reported hh hfatal hhit hreason =>
    rw [hh, hhit]
    rfl

theorem sections_pos (h : Answered e .stop) (hgrounded : Grounded e) : 0 < e.sections := by
  cases h with
  | halted hh hs => exact hgrounded.stop hh
  | reported hh hfatal => cases hfatal

theorem sections_eq_zero {failure : Failure} (h : Answered e (.fail failure))
    (hgrounded : Grounded e) (hreason : failure.reason = .truncated) : e.sections = 0 := by
  cases h with
  | halted hh hs => exact hgrounded.truncated failure hh hreason
  | reported hh hfatal hhit hother => exact absurd hreason (hother failure rfl)

theorem coherent (h : Answered e status) (hkept : Kept e) (hgrounded : Grounded e)
    (hnumbered : e.completed.map (·.index) = List.range e.completed.length)
    (hlen : e.completed.length = e.sections)
    (hcomplete : ∀ a ∈ e.completed, a.complete = true) (fileName : String) (n : Nat) :
    (AnalysisRun.close fileName status e n).Coherent e.table where
  not_success := h.not_success
  stop_iff := h.stop_iff
  of_stop := by
    intro hstop
    have hstop : status = .stop := hstop
    subst hstop
    have hpos := h.sections_pos hgrounded
    rw [← hlen] at hpos
    exact ⟨List.length_pos_iff.mp hpos, rfl⟩
  of_fatal := by
    intro hfatal
    refine ⟨e.partialAnalysis, if_pos hfatal, rfl, hlen.symm, ?_⟩
    show e.progress.piracy.map (·.escape) = status.hit?.map (·.escape)
    rw [h.piracy_eq hkept]
  numbered := hnumbered
  complete := by
    intro a ha
    obtain ⟨e', htable, hpiracy, hsnap⟩ := hkept.completed a ha
    refine ⟨hcomplete a ha, ?_, ?_⟩
    · rw [hsnap, ← htable]
      rfl
    · rw [hsnap]
      show e'.progress.piracy.map (·.escape) = none
      rw [hpiracy]
      rfl
  truncated := by
    intro failure hfail hreason
    have hfail : status = .fail failure := hfail
    subst hfail
    have hzero := h.sections_eq_zero hgrounded hreason
    rw [← hlen] at hzero
    exact List.length_eq_zero_iff.mp hzero

end Answered

theorem engine_run (husable : a.table.Usable) (calls : List Call) :
    Sound (a.engine.run calls) ∧ Kept (a.engine.run calls) ∧ Grounded (a.engine.run calls) ∧
      (a.engine.run calls).table = a.table := by
  rw [← Engine.served_calls]
  exact ⟨Engine.sound_served (Engine.sound_fresh husable _ _ _) _,
    Engine.kept_served (Engine.kept_fresh _ _ _ _) _,
    Engine.grounded_served (Engine.grounded_of_going rfl) _, (Engine.setting_served a.engine _).1⟩

/-- **The run of any items.**  If there is one it is coherent: the items come to its status, its
lines are those that were fed, and its sections are all that the engine has completed.  There is
none only where a source has failed, for a reason that is no status, before the engine has
halted. -/
theorem runLines_coherent {d : TableDefinition} {builtin : Bool} {a : Analyzer}
    (h : d.validate builtin = .ok a.table) (items : List LineItem) (fileName : String) :
    (∀ run, a.runLines items fileName = .ok run → run.Coherent a.table ∧
      ∃ lines calls, Ended a.engine items lines calls run.status ∧ run.lines = lines.length ∧
        run.sections = a.engine.analyses calls ∧
        run.sections.length = (a.engine.run calls).sections) ∧
    ∀ error, a.runLines items fileName = .error error →
      ∃ cause, error = .stream cause ∧ Failed a.engine items cause := by
  have husable := TableDefinition.usable_of_validate h
  rcases feedAll_ended (e := a.engine) rfl 0 items with
    ⟨lines, calls, status, hended, hall⟩ | ⟨cause, hfailed, hall⟩
  · have hrun : a.runLines items fileName = _ := runLines_of_feedAll hall
    obtain ⟨-, hkept, hgrounded, htable⟩ := engine_run husable calls
    obtain ⟨hnumbered, hlen, hcomplete⟩ :=
      Engine.completed_numbered a.table a.engineLimits a.banned a.resolver hended.untaken
    have hcoherent := (hended.answered fun calls => (engine_run husable calls).1).coherent hkept
      hgrounded hnumbered hlen hcomplete fileName (0 + lines.length)
    rw [htable] at hcoherent
    rw [hrun]
    constructor
    · intro run hok
      obtain rfl := Except.ok.inj hok
      exact ⟨hcoherent, lines, calls, hended, Nat.zero_add _,
        (Engine.analyses_untaken a.engine hended.untaken).symm, hlen⟩
    · intro error herror
      cases herror
  · have hnone : a.runLines items fileName = .error (.stream cause) := by
      rw [runLines, hall]
      rfl
    rw [hnone]
    constructor
    · intro run hok
      cases hok
    · intro error herror
      obtain rfl := Except.error.inj herror
      exact ⟨cause, rfl, hfailed⟩

def unfit : List LineItem :=
  ["a", "begin", "end", "Warez @all", "begin"].map fun text => .ok ⟨text, 8⟩

/-- The session is complete, and what is known of the next one shows the hit. -/
theorem runLines_unfit : ∃ table run, TableDefinition.sessions.validate false = .ok table ∧
    ({ table, banned := .ofList ["warez"] } : Analyzer).runLines unfit "a.log" = .ok run ∧
    run.status = .piracy ⟨0, "head", "warez", "Warez @all"⟩ ∧ run.lines = 5 ∧
    run.unfinished.bind (·.piracy) = some ⟨0, "head", "warez", "Warez @\u200Dall"⟩ ∧
    run.sections.length = 1 ∧ run.Coherent table := by
  have hparts : ∃ table, TableDefinition.sessions.validate false = .ok table ∧
      ((({ table, banned := .ofList ["warez"] } : Analyzer).runLines unfit "a.log").toOption.map
        fun run => (run.status, run.lines, run.unfinished.bind (·.piracy), run.sections.length))
        = some (.piracy ⟨0, "head", "warez", "Warez @all"⟩, 5,
            some ⟨0, "head", "warez", "Warez @\u200Dall"⟩, 1) := by
    decide +kernel
  obtain ⟨table, htable, hparts⟩ := hparts
  obtain ⟨run, hok, hparts⟩ := Option.map_eq_some_iff.mp hparts
  simp only [Prod.mk.injEq] at hparts
  obtain ⟨hstatus, hlines, hpiracy, hlen⟩ := hparts
  have hrun : ({ table, banned := .ofList ["warez"] } : Analyzer).runLines unfit "a.log"
      = .ok run := by
    generalize Analyzer.runLines _ unfit "a.log" = result at hok ⊢
    cases result with
    | error error => cases hok
    | ok run' =>
      cases hok
      rfl
  have hcoherent := ((runLines_coherent (a := { table, banned := .ofList ["warez"] }) htable unfit
    "a.log").1 run hrun).1
  exact ⟨table, run, htable, hrun, hstatus, hlines, hpiracy, hlen, hcoherent⟩

end Analyzer

end LogTriage
