import LogTriage.Proofs.Engine.Steps

/-!
# Engines with a past

Sections that an engine has completed before are its past.  What it does now does not depend on
them: they shift the numbers that it counts from the beginning of the log, and nothing else.
`e.after past` is the engine `e` with a past before it, and each step of the engine commutes with
it.

* `finalize_after`, `bufferLine_after`  what follows from a line;
* `feedCounted_after`                   a line that is fed, as long as bytes can be counted.
-/

namespace LogTriage

def Status.shifted (n : Nat) : Status → Status
  | .overflow consumed limit .logBytes => .overflow (consumed + n) (limit + n) .logBytes
  | status => status

/-- An analysis of a section that `n` further ones come before. -/
def Analysis.later (n : Nat) (a : Analysis) : Analysis := { a with index := a.index + n }

namespace Engine

/-- What was before the section at hand, and is not known of it. -/
structure Past where
  consumed : Nat
  sections : Nat
  completed : List Analysis
  asked : List String

/-- The engine with a past before it; the bytes of the past count against the limit. -/
def after (e : Engine) (past : Past) : Engine :=
  { e with
    limits := { e.limits with maxLogBytes := e.limits.maxLogBytes + past.consumed }
    consumed := e.consumed + past.consumed
    completed := past.completed ++ e.completed.map (·.later past.sections)
    sections := e.sections + past.sections
    halted := e.halted.map (·.shifted past.consumed)
    asked := past.asked ++ e.asked }

variable (past : Past) (e : Engine)

theorem progress_after : (e.after past).progress = e.progress := rfl

theorem phase_after : (e.after past).phase = e.phase := rfl

theorem windowCapacity_after : (e.after past).windowCapacity = e.windowCapacity := rfl

theorem windowText_after : (e.after past).windowText = e.windowText := rfl

theorem analysis_after (complete : Bool) :
    (e.after past).analysis complete = (e.analysis complete).later past.sections := rfl

def outcomeAfter (past : Past) (outcome : Status × Engine) : Status × Engine :=
  (outcome.1.shifted past.consumed, outcome.2.after past)

theorem halt_after {status : Status} (h : status.shifted past.consumed = status) :
    (e.after past).halt status = outcomeAfter past (e.halt status) := by
  simp only [halt, outcomeAfter, after, Option.map_some, h]

theorem rejectPiracy_after (hit : BannedHit) :
    (e.after past).rejectPiracy hit = outcomeAfter past (e.rejectPiracy hit) := rfl

/-! ## Extraction -/

theorem observeSerial_after (line : String) :
    (e.after past).observeSerial line = (e.observeSerial line).after past := by
  have ht : (e.after past).table = e.table := rfl
  rw [observeSerial, progress_after, ht, observeSerial]
  by_cases hs : e.progress.serial.isSome = true
  · rw [if_pos hs, if_pos hs]
  · rw [if_neg hs, if_neg hs]
    cases firstCapture? e.table.serialPattern line "id" with
    | none => rfl
    | some id => simp only [after, List.append_assoc]

theorem observeTitle_after (line : String) :
    (e.after past).observeTitle line = (e.observeTitle line).after past := by
  have ht : (e.after past).table = e.table := rfl
  rw [observeTitle, progress_after, ht, observeTitle]
  by_cases hs : e.progress.logTitle.isSome = true
  · rw [if_pos hs, if_pos hs]
  · rw [if_neg hs, if_neg hs]
    cases firstCapture? e.table.titlePattern line "title" <;> rfl

theorem observe_after (line : String) :
    (e.after past).observe line = (e.observe line).after past := by
  rw [observe, observeSerial_after, observeTitle_after, observe]

theorem foldl_observe_after (lines : List String) :
    lines.foldl observe (e.after past) = (lines.foldl observe e).after past := by
  induction lines generalizing e with
  | nil => rfl
  | cons line lines ih => rw [List.foldl_cons, observe_after, ih, List.foldl_cons]

theorem extractEarly_after : (e.after past).extractEarly = e.extractEarly.after past := by
  rw [extractEarly_eq, phase_after, windowText_after, extractEarly_eq]
  cases e.phase.pattern.bind (·.captures? e.windowText) <;> rfl

theorem extract?_after (text : String) :
    (e.after past).extract? text = (e.extract? text).map (·.after past) := by
  rw [extract?_eq, phase_after, progress_after, extract?_eq]
  split <;> rfl

/-! ## Lines -/

theorem inspect_after (line : String) (handlers : List Handler) :
    inspect line handlers (e.after past)
      = Prod.map id (·.after past) (inspect line handlers e) := by
  induction handlers generalizing e with
  | nil => rfl
  | cons handler handlers ih =>
    cases handler with
    | bannedContent =>
      have hb : (e.after past).banned = e.banned := rfl
      rw [inspect, hb, phase_after, progress_after, inspect]
      cases e.banned.hit? e.progress.phaseIndex e.phase.name [line] with
      | some hit => rfl
      | none => exact ih e
    | resolveProduct => rw [inspect, observe_after, ih, inspect]
    | collectLibraries => rw [inspect, ih, inspect]

theorem probed_after (line : String) : (e.after past).probed line = (e.probed line).after past := by
  rw [probed, phase_after, probed]
  cases e.phase.flushProbe with
  | none => rfl
  | some probe =>
    dsimp only
    rw [extractEarly_after]
    cases probe.recognizes line <;> rfl

theorem evict_after : (e.after past).evict = Prod.map id (·.after past) e.evict := by
  cases hw : e.progress.window.pop? with
  | none =>
    have hw' : (e.after past).progress.window.pop? = none := hw
    rw [evict, evict, hw, hw']
    rfl
  | some popped =>
    have hw' : (e.after past).progress.window.pop? = some popped := hw
    rw [evict_eq hw, evict_eq hw', phase_after, probed_after]
    exact inspect_after past ((e.probed popped.1).withWindow popped.2) popped.1 _

theorem bufferLine_after (line : String) :
    (e.after past).bufferLine line = outcomeAfter past (e.bufferLine line) := by
  have hif : (if e.windowCapacity ≤ e.progress.window.size then (e.after past).evict
        else (none, e.after past))
      = Prod.map id (·.after past)
        (if e.windowCapacity ≤ e.progress.window.size then e.evict else (none, e)) := by
    split
    · exact evict_after past e
    · rfl
  rw [bufferLine, windowCapacity_after, progress_after, hif, bufferLine]
  generalize (if e.windowCapacity ≤ e.progress.window.size then e.evict else (none, e)) = evicted
  obtain ⟨hit, e'⟩ := evicted
  cases hit with
  | some hit => exact rejectPiracy_after past e' hit
  | none => rfl

/-! ## Finalization -/

theorem runHandlers_after (text : String) (handlers : List Handler) :
    runHandlers text handlers (e.after past)
      = Prod.map id (·.after past) (runHandlers text handlers e) := by
  induction handlers generalizing e with
  | nil => rfl
  | cons handler handlers ih =>
    cases handler with
    | bannedContent =>
      have hb : (e.after past).banned = e.banned := rfl
      rw [runHandlers, hb, phase_after, progress_after, runHandlers]
      cases e.banned.hit? e.progress.phaseIndex e.phase.name e.progress.window.lines with
      | some hit => rfl
      | none => exact ih e
    | resolveProduct => rw [runHandlers, progress_after, foldl_observe_after, ih, runHandlers]
    | collectLibraries =>
      let found := LogTriage.libraries text
      let libraries := if found.isEmpty then e.progress.libraries else found
      exact ih { e with progress := { e.progress with libraries } }

theorem completeSection_after :
    (e.after past).completeSection = e.completeSection.after past := by
  rw [completeSection, analysis_after]
  simp only [completeSection, after, List.map_append, List.append_assoc, List.map_cons,
    List.map_nil, Nat.add_right_comm]

theorem complete_after (trigger : Option String) :
    (e.after past).complete trigger = outcomeAfter past (e.complete trigger) := by
  have ht : (e.after past).table = e.table := rfl
  rw [complete, phase_after, progress_after, ht, completeSection_after, complete]
  split
  · rfl
  · rfl
  · exact halt_after past _ rfl

theorem finalize_after (trigger : Option String) :
    (e.after past).finalize trigger = outcomeAfter past (e.finalize trigger) := by
  rw [finalize, windowText_after, extract?_after, finalize]
  cases e.extract? e.windowText with
  | none => exact halt_after past e rfl
  | some e' =>
    dsimp only [Option.map_some]
    rw [phase_after, runHandlers_after]
    generalize runHandlers e.windowText e'.phase.handlers e' = handled
    obtain ⟨hit, e''⟩ := handled
    cases hit with
    | some hit => exact rejectPiracy_after past e'' hit
    | none => exact complete_after past e'' trigger

/-! ## Feeding -/

/-- Since nothing is cut off, the bytes of the past and those of the line may be added in any
order. -/
theorem count_after {raw : Nat} (h : e.consumed + past.consumed + raw ≤ maxCount) :
    (e.after past).count raw = (e.count raw).after past := by
  have hc : min (e.consumed + past.consumed + raw) maxCount
      = min (e.consumed + raw) maxCount + past.consumed := by omega
  simp only [count, after, hc]

/-- **A line does the same, whatever was before**, as long as the bytes can be counted. -/
theorem feedCounted_after (line : String) {raw : Nat}
    (h : e.consumed + past.consumed + raw ≤ maxCount) :
    (e.after past).feedCounted line raw = outcomeAfter past (e.feedCounted line raw) := by
  cases hh : e.halted with
  | some status =>
    have hh' : (e.after past).halted = some (status.shifted past.consumed) := by
      rw [after, hh]
      rfl
    rw [feedCounted_halted hh, feedCounted_halted hh']
    rfl
  | none =>
    have hh' : (e.after past).halted = none := by
      rw [after, hh]
      rfl
    have hcount := count_after past e h
    have hover : (e.after past).limits.maxLogBytes < ((e.after past).count raw).consumed
        ↔ e.limits.maxLogBytes < (e.count raw).consumed := by
      rw [hcount]
      exact Nat.add_lt_add_iff_right
    by_cases ho : e.limits.maxLogBytes < (e.count raw).consumed
    · rw [feedCounted_over hh ho, feedCounted_over hh' (hover.mpr ho), hcount]
      rfl
    have ho' : ¬ (e.after past).limits.maxLogBytes < ((e.after past).count raw).consumed :=
      fun hlt => ho (hover.mp hlt)
    cases ht : e.phase.matchedTrigger line with
    | some trigger =>
      rw [feedCounted_trigger hh ho ht, feedCounted_trigger hh' ho' ht, hcount, finalize_after]
    | none =>
      rw [feedCounted_line hh ho ht, feedCounted_line hh' ho' ht, hcount, bufferLine_after]

end Engine

end LogTriage
