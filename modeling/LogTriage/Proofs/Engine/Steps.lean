import LogTriage.Engine.Basic
import LogTriage.Proofs.BannedPhrases

/-!
# The steps of the engine

What each function of the engine can do, said once.  Extraction, inspection and the handlers of a
phase only add to what was found in the section; `bare` is the engine without it, and they keep it.
What else happens is listed by cases.

* `bufferLine_cases`  a line that has to leave the window is clean, or the engine halts;
* `finalize_cases`    a phase that ends well has a clean window;
* `complete_cases`    then the next phase follows, or the section is complete;
* `feedCounted_cases`  a line that is fed leads to one of these, or the engine halts.
-/

namespace LogTriage.Engine
variable {e e' : Engine}

/-- The engine without what it has found in the section. -/
def bare (e : Engine) : Engine :=
  { e with
    asked := []
    progress := { e.progress with
      fields := .empty, libraries := [], product := .unknown, serial := none, logTitle := none
      extractedEarly := false } }

/-- The engine without what its handlers have found in the section. -/
def unhandled (e : Engine) : Engine :=
  { e with
    asked := []
    progress := { e.progress with
      libraries := [], product := .unknown, serial := none, logTitle := none } }

theorem bare_of_unhandled (h : e'.unhandled = e.unhandled) : e'.bare = e.bare :=
  (congrArg bare h :)

def withWindow (e : Engine) (window : Window) : Engine :=
  { e with progress := { e.progress with window } }

/-- The active phase looks for banned phrases. -/
def Screens (e : Engine) : Prop := .bannedContent ∈ e.phase.handlers

section bare
variable (h : e'.bare = e.bare)
include h

theorem table_of_bare : e'.table = e.table := (congrArg table h :)

theorem banned_of_bare : e'.banned = e.banned := (congrArg banned h :)

theorem consumed_of_bare : e'.consumed = e.consumed := (congrArg consumed h :)

theorem sections_of_bare : e'.sections = e.sections := (congrArg sections h :)

theorem halted_of_bare : e'.halted = e.halted := (congrArg halted h :)

theorem phaseIndex_of_bare : e'.progress.phaseIndex = e.progress.phaseIndex :=
  (congrArg (·.progress.phaseIndex) h :)

theorem window_of_bare : e'.progress.window = e.progress.window :=
  (congrArg (·.progress.window) h :)

theorem phase_of_bare : e'.phase = e.phase := by
  rw [phase, phase, table_of_bare h, phaseIndex_of_bare h]

theorem withWindow_bare (window : Window) :
    (e'.withWindow window).bare = (e.withWindow window).bare :=
  congrArg (·.withWindow window) h

end bare

/-! ## Extraction -/

theorem observe_unhandled (e : Engine) (line : String) :
    (e.observe line).unhandled = e.unhandled := by
  have hserial : (e.observeSerial line).unhandled = e.unhandled := by
    unfold observeSerial
    split
    · rfl
    · split <;> rfl
  have htitle (e : Engine) : (e.observeTitle line).unhandled = e.unhandled := by
    unfold observeTitle
    split
    · rfl
    · split <;> rfl
  exact (htitle _).trans hserial

theorem foldl_observe_unhandled (e : Engine) (lines : List String) :
    (lines.foldl observe e).unhandled = e.unhandled := by
  induction lines generalizing e with
  | nil => rfl
  | cons line lines ih => rw [List.foldl_cons, ih, observe_unhandled]

theorem foldl_observe_bare (e : Engine) (lines : List String) :
    (lines.foldl observe e).bare = e.bare := bare_of_unhandled (foldl_observe_unhandled e lines)

theorem extractEarly_eq (e : Engine) : e.extractEarly =
    (e.phase.pattern.bind (·.captures? e.windowText)).elim e fun captures =>
      { e with
        progress := { e.progress with
          fields := mergeCaptures e.progress.fields captures, extractedEarly := true } } := by
  unfold extractEarly
  cases e.phase.pattern with
  | none => rfl
  | some pattern =>
    dsimp only [Option.bind_some]
    cases pattern.captures? e.windowText <;> rfl

/-- **The end of a phase extracts** unless its pattern neither matches nor has matched before, and
changes nothing but the fields. -/
theorem extract?_eq (e : Engine) (text : String) : e.extract? text =
    if e.phase.pattern.all fun p => (p.captures? text).isSome || e.progress.extractedEarly then
      some { e with
        progress := { e.progress with
          fields := mergeCaptures e.progress.fields
            ((e.phase.pattern.bind (·.captures? text)).getD []) } }
    else none := by
  unfold extract?
  cases e.phase.pattern with
  | none => rfl
  | some pattern =>
    simp only [Option.bind_some, Option.all_some]
    cases pattern.captures? text with
    | some captures => simp
    | none =>
      rw [Option.isSome_none, Bool.false_or]
      rfl

theorem eq_of_extract? {text : String} (h : e.extract? text = some e') : e' = { e with
    progress := { e.progress with
      fields := mergeCaptures e.progress.fields
        ((e.phase.pattern.bind (·.captures? text)).getD []) } } := by
  rw [extract?_eq] at h
  split at h
  · exact (Option.some.inj h).symm
  · cases h

theorem extractEarly_bare (e : Engine) : e.extractEarly.bare = e.bare := by
  rw [extractEarly_eq]
  cases e.phase.pattern.bind (·.captures? e.windowText) <;> rfl

theorem extract?_bare {text : String} (h : e.extract? text = some e') : e'.bare = e.bare := by
  rw [eq_of_extract? h]
  rfl

/-! ## Inspection -/

theorem inspect_unhandled (line : String) (handlers : List Handler) (e : Engine) :
    (inspect line handlers e).2.unhandled = e.unhandled := by
  induction handlers generalizing e with
  | nil => rfl
  | cons handler handlers ih =>
    cases handler with
    | bannedContent =>
      rw [inspect]
      split
      · rfl
      · exact ih e
    | resolveProduct => exact (ih _).trans (observe_unhandled e line)
    | collectLibraries => exact ih e

theorem inspect_bare (line : String) (handlers : List Handler) (e : Engine) :
    (inspect line handlers e).2.bare = e.bare :=
  bare_of_unhandled (inspect_unhandled line handlers e)

/-- **What is found in a line that leaves the window**, if the handlers look for banned phrases. -/
theorem inspect_fst (line : String) (handlers : List Handler) (e : Engine) :
    (inspect line handlers e).1 = if .bannedContent ∈ handlers then
      e.banned.hit? e.progress.phaseIndex e.phase.name [line] else none := by
  induction handlers generalizing e with
  | nil => rfl
  | cons handler handlers ih =>
    cases handler with
    | bannedContent =>
      rw [inspect, if_pos List.mem_cons_self]
      cases hh : e.banned.hit? e.progress.phaseIndex e.phase.name [line] with
      | some hit => rfl
      | none =>
        dsimp only
        rw [ih, hh, ite_self]
    | resolveProduct =>
      have ho := bare_of_unhandled (observe_unhandled e line)
      rw [inspect, ih, banned_of_bare ho, phaseIndex_of_bare ho, phase_of_bare ho]
      simp only [List.mem_cons, reduceCtorEq, false_or]
    | collectLibraries =>
      rw [inspect, ih]
      simp only [List.mem_cons, reduceCtorEq, false_or]

theorem inspect_clean {line : String} {handlers : List Handler}
    (h : (inspect line handlers e).1 = none) (hb : .bannedContent ∈ handlers) :
    e.banned.Clean line := by
  rw [inspect_fst, if_pos hb] at h
  exact BannedPhrases.hit?_eq_none_iff.mp h line (List.mem_singleton_self line)

def probed (e : Engine) (line : String) : Engine :=
  match e.phase.flushProbe with
  | some probe => if probe.recognizes line then e.extractEarly else e
  | none => e

theorem probed_bare (e : Engine) (line : String) : (e.probed line).bare = e.bare := by
  unfold probed
  split
  · split
    · exact extractEarly_bare e
    · rfl
  · rfl

/-- **The line that leaves the window** is seen by the probe, then by the handlers. -/
theorem evict_eq {oldest : String} {rest : Window}
    (h : e.progress.window.pop? = some (oldest, rest)) :
    e.evict = inspect oldest e.phase.handlers ((e.probed oldest).withWindow rest) := by
  have hp : (e.probed oldest).phase = e.phase := phase_of_bare (probed_bare e oldest)
  rw [← hp, evict, h, probed]
  dsimp only
  cases e.phase.flushProbe with
  | none => rfl
  | some probe => rfl

/-- **A line that has to leave the window is clean, or the engine halts.** -/
theorem bufferLine_cases (e : Engine) (line : String) :
    (∃ (hit : BannedHit) (e' : Engine) (window : Window),
      e'.bare = (e.withWindow window).bare ∧ e.bufferLine line = e'.rejectPiracy hit) ∨
    ∃ (e' : Engine) (gone : List String) (window : Window),
      e'.bare = (e.withWindow window).bare ∧
      e.progress.window.lines = gone ++ window.lines ∧
      (e.Screens → ∀ l ∈ gone, e.banned.Clean l) ∧
      e.bufferLine line = (.success, e'.withWindow (window.push line)) := by
  have hstay : ∀ l ∈ ([] : List String), e.banned.Clean l := fun l hl => by cases hl
  unfold bufferLine
  by_cases hc : e.windowCapacity ≤ e.progress.window.size
  · rw [if_pos hc]
    cases hw : e.progress.window.pop? with
    | none =>
      rw [evict, hw]
      exact .inr ⟨e, [], e.progress.window, rfl, rfl, fun _ => hstay, rfl⟩
    | some popped =>
      obtain ⟨oldest, rest⟩ := popped
      have he₁ := withWindow_bare (probed_bare e oldest) rest
      rw [evict_eq hw]
      generalize (e.probed oldest).withWindow rest = e₁ at he₁
      have hb := (inspect_bare oldest e.phase.handlers e₁).trans he₁
      cases hh : (inspect oldest e.phase.handlers e₁).1 with
      | some hit =>
        refine .inl ⟨hit, (inspect oldest e.phase.handlers e₁).2, rest, hb, ?_⟩
        rw [← Prod.eta (inspect oldest e.phase.handlers e₁), hh]
      | none =>
        refine .inr ⟨(inspect oldest e.phase.handlers e₁).2, [oldest], rest, hb,
          Window.lines_pop hw, fun hs l hl => ?_, ?_⟩
        · rw [List.mem_singleton.mp hl]
          have hclean := inspect_clean hh hs
          rwa [banned_of_bare he₁] at hclean
        · rw [← Prod.eta (inspect oldest e.phase.handlers e₁), hh]
          dsimp only
          rw [withWindow, window_of_bare hb]
          rfl
  · rw [if_neg hc]
    exact .inr ⟨e, [], e.progress.window, rfl, rfl, fun _ => hstay, rfl⟩

/-- The engine without what changes when a line comes into the window. -/
def unbuffered (e : Engine) : Engine :=
  { e.bare with
    halted := none
    progress := { e.bare.progress with window := .empty, piracy := none } }

theorem bufferLine_unbuffered (e : Engine) (line : String) :
    (e.bufferLine line).2.unbuffered = e.unbuffered := by
  rcases bufferLine_cases e line with ⟨hit, e', w, hb, he⟩ | ⟨e', gone, w, hb, -, -, he⟩
  · have hu : e'.unbuffered = e.unbuffered := (congrArg unbuffered hb :)
    rw [he]
    exact hu
  · have hu : e'.unbuffered = e.unbuffered := (congrArg unbuffered hb :)
    rw [he]
    exact hu

/-! ## Finalization -/

theorem runHandlers_unhandled (text : String) (handlers : List Handler) (e : Engine) :
    (runHandlers text handlers e).2.unhandled = e.unhandled := by
  induction handlers generalizing e with
  | nil => rfl
  | cons handler handlers ih =>
    cases handler with
    | bannedContent =>
      rw [runHandlers]
      split
      · rfl
      · exact ih e
    | resolveProduct => exact (ih _).trans (foldl_observe_unhandled e _)
    | collectLibraries => exact ih _

theorem runHandlers_bare (text : String) (handlers : List Handler) (e : Engine) :
    (runHandlers text handlers e).2.bare = e.bare :=
  bare_of_unhandled (runHandlers_unhandled text handlers e)

theorem runHandlers_fst (text : String) (handlers : List Handler) (e : Engine) :
    (runHandlers text handlers e).1 = if .bannedContent ∈ handlers then
      e.banned.hit? e.progress.phaseIndex e.phase.name e.progress.window.lines else none := by
  induction handlers generalizing e with
  | nil => rfl
  | cons handler handlers ih =>
    cases handler with
    | bannedContent =>
      rw [runHandlers, if_pos List.mem_cons_self]
      cases hh : e.banned.hit? e.progress.phaseIndex e.phase.name e.progress.window.lines with
      | some hit => rfl
      | none =>
        dsimp only
        rw [ih, hh, ite_self]
    | resolveProduct =>
      have ho := foldl_observe_bare e e.progress.window.lines
      rw [runHandlers, ih, banned_of_bare ho, phaseIndex_of_bare ho, phase_of_bare ho,
        window_of_bare ho]
      simp only [List.mem_cons, reduceCtorEq, false_or]
    | collectLibraries =>
      rw [runHandlers, ih]
      simp only [List.mem_cons, reduceCtorEq, false_or]
      rfl

theorem runHandlers_clean {text : String} {handlers : List Handler}
    (h : (runHandlers text handlers e).1 = none) (hb : .bannedContent ∈ handlers) :
    ∀ l ∈ e.progress.window.lines, e.banned.Clean l := by
  rw [runHandlers_fst, if_pos hb] at h
  exact BannedPhrases.hit?_eq_none_iff.mp h

/-- **A phase that ends well has a clean window.** -/
theorem finalize_cases (e : Engine) (trigger : Option String) :
    e.finalize trigger = e.halt (.fail (e.failure trigger .patternMismatch)) ∨
    (∃ (hit : BannedHit) (e' : Engine), e'.bare = e.bare ∧
      e.finalize trigger = e'.rejectPiracy hit) ∨
    ∃ e' : Engine, e'.bare = e.bare ∧
      (e.Screens → ∀ l ∈ e.progress.window.lines, e.banned.Clean l) ∧
      e.finalize trigger = e'.complete trigger := by
  unfold finalize
  dsimp only
  cases hx : e.extract? e.windowText with
  | none => exact .inl rfl
  | some e₁ =>
    have hb₁ := extract?_bare hx
    have hb₂ := (runHandlers_bare e.windowText e₁.phase.handlers e₁).trans hb₁
    dsimp only
    cases hh : (runHandlers e.windowText e₁.phase.handlers e₁).1 with
    | some hit =>
      refine .inr (.inl ⟨hit, (runHandlers e.windowText e₁.phase.handlers e₁).2, hb₂, ?_⟩)
      rw [← Prod.eta (runHandlers e.windowText e₁.phase.handlers e₁), hh]
    | none =>
      refine .inr (.inr ⟨(runHandlers e.windowText e₁.phase.handlers e₁).2, hb₂, fun hs => ?_, ?_⟩)
      · rw [Screens, ← phase_of_bare hb₁] at hs
        rw [← banned_of_bare hb₁, ← window_of_bare hb₁]
        exact runHandlers_clean hh hs
      · rw [← Prod.eta (runHandlers e.windowText e₁.phase.handlers e₁), hh]

/-- **What follows a phase that ended well**: the next phase, the next section, or the end. -/
theorem complete_cases (e : Engine) (trigger : Option String) :
    e.complete trigger = (.success, { e with
      progress := { e.progress with
        phaseIndex := e.progress.phaseIndex + 1, window := .empty, extractedEarly := false } }) ∨
    e.complete trigger = (.stop, { e.completeSection with progress := {} }) ∨
    e.complete trigger = e.completeSection.halt .stop := by
  unfold complete
  split
  · exact .inr (.inl rfl)
  · exact .inl rfl
  · exact .inr (.inr rfl)

theorem complete_status (e : Engine) (trigger : Option String) :
    (e.complete trigger).1 = .success ∨ (e.complete trigger).1 = .stop := by
  rcases complete_cases e trigger with he | he | he
  · exact .inl (by rw [he])
  · exact .inr (by rw [he])
  · exact .inr (by rw [he]; rfl)

/-! ## Feeding -/

variable {line : String} {raw : Nat}

theorem feedCounted_halted {status : Status} (h : e.halted = some status) :
    e.feedCounted line raw = (status, e) := by
  rw [feedCounted, h]

theorem feedCounted_over (h : e.halted = none)
    (ho : e.limits.maxLogBytes < (e.count raw).consumed) :
    e.feedCounted line raw = (e.count raw).halt
      (.overflow (e.count raw).consumed e.limits.maxLogBytes .logBytes) := by
  rw [feedCounted, h]
  exact if_pos ho

theorem feedCounted_trigger (h : e.halted = none)
    (ho : ¬ e.limits.maxLogBytes < (e.count raw).consumed) {trigger : String}
    (ht : e.phase.matchedTrigger line = some trigger) :
    e.feedCounted line raw = (e.count raw).finalize (some trigger) := by
  have ht' : (e.count raw).phase.matchedTrigger line = some trigger := ht
  rw [feedCounted, h]
  dsimp only
  rw [if_neg (by exact ho), ht']

theorem feedCounted_line (h : e.halted = none)
    (ho : ¬ e.limits.maxLogBytes < (e.count raw).consumed)
    (ht : e.phase.matchedTrigger line = none) :
    e.feedCounted line raw = (e.count raw).bufferLine line := by
  have ht' : (e.count raw).phase.matchedTrigger line = none := ht
  rw [feedCounted, h]
  dsimp only
  rw [if_neg (by exact ho), ht']

/-- **What a line can do**: nothing, end the log, end the phase, or come into the window. -/
theorem feedCounted_cases (e : Engine) (line : String) (raw : Nat) :
    (∃ status, e.halted = some status ∧ e.feedCounted line raw = (status, e)) ∨
    (e.halted = none ∧ e.limits.maxLogBytes < (e.count raw).consumed ∧
      e.feedCounted line raw = (e.count raw).halt
        (.overflow (e.count raw).consumed e.limits.maxLogBytes .logBytes)) ∨
    (∃ trigger, e.halted = none ∧ ¬ e.limits.maxLogBytes < (e.count raw).consumed ∧
      e.phase.matchedTrigger line = some trigger ∧
      e.feedCounted line raw = (e.count raw).finalize (some trigger)) ∨
    (e.halted = none ∧ ¬ e.limits.maxLogBytes < (e.count raw).consumed ∧
      e.phase.matchedTrigger line = none ∧
      e.feedCounted line raw = (e.count raw).bufferLine line) := by
  cases hh : e.halted with
  | some status => exact .inl ⟨status, rfl, feedCounted_halted hh⟩
  | none =>
    by_cases ho : e.limits.maxLogBytes < (e.count raw).consumed
    · exact .inr (.inl ⟨rfl, ho, feedCounted_over hh ho⟩)
    cases ht : e.phase.matchedTrigger line with
    | some trigger => exact .inr (.inr (.inl ⟨trigger, rfl, ho, rfl, feedCounted_trigger hh ho ht⟩))
    | none => exact .inr (.inr (.inr ⟨rfl, ho, rfl, feedCounted_line hh ho ht⟩))

theorem finish_halted {status : Status} (h : e.halted = some status) :
    e.finish = (status, e) := by
  rw [finish, h]

theorem finish_cases (h : e.halted = none) :
    e.finish = e.finalize none ∨ ∃ status, e.finish = e.halt status := by
  rw [finish, h]
  dsimp only
  split
  · exact .inl rfl
  split
  · exact .inr ⟨_, rfl⟩
  · exact .inr ⟨_, rfl⟩

/-! ## Bytes -/

theorem finalize_consumed (e : Engine) (trigger : Option String) :
    (e.finalize trigger).2.consumed = e.consumed := by
  rcases finalize_cases e trigger with he | ⟨hit, e₁, hb, he⟩ | ⟨e₁, hb, -, he⟩
  · rw [he]
    rfl
  · rw [he]
    exact (consumed_of_bare hb :)
  rw [he, ← consumed_of_bare hb]
  rcases complete_cases e₁ trigger with hc | hc | hc
  · rw [hc]
  · rw [hc]
    rfl
  · rw [hc]
    rfl

theorem bufferLine_consumed (e : Engine) (line : String) :
    (e.bufferLine line).2.consumed = e.consumed :=
  (congrArg consumed (bufferLine_unbuffered e line) :)

theorem feedCounted_consumed (e : Engine) (line : String) (raw : Nat) :
    (e.feedCounted line raw).2.consumed ≤ e.consumed + raw := by
  have hcount : (e.count raw).consumed ≤ e.consumed + raw := Nat.min_le_left _ _
  rcases feedCounted_cases e line raw with
    ⟨status, -, he⟩ | ⟨-, -, he⟩ | ⟨trigger, -, -, -, he⟩ | ⟨-, -, -, he⟩
  · rw [he]
    exact Nat.le_add_right _ _
  · rw [he]
    exact hcount
  · rw [he, finalize_consumed]
    exact hcount
  · rw [he, bufferLine_consumed]
    exact hcount

end LogTriage.Engine
