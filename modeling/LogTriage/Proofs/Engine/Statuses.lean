import LogTriage.Proofs.Engine.Phases
import LogTriage.Proofs.Engine.Requests

/-!
# The statuses of a run

As long as an engine goes on it answers with success, and with a stop where a section ends.  The
first other status halts it; from then on it answers this status and stays as it is.

`Outcome` lists once what a line or the end of the log can lead to.  All that is said of single
requests is read off it, and so is the invariant `Sound`, from which runs follow by induction.

* `feedCounted_outcome`, `finish_outcome`  the outcomes;
* `orderly_respond`     what a request may and may not do;
* `served_halted`       an engine that has halted stays as it is;
* `statuses_in_order`   the statuses of a run, from a fresh engine on.
-/

namespace LogTriage

def Status.Halts : Status → Prop
  | .piracy _ | .stop | .overflow .. | .fail _ => True
  | .success | .unsupportedCodec _ => False

namespace Engine

/-- What a line leads to, or the end of the log when there is no line. -/
inductive Outcome (e : Engine) (line? : Option String) (e' : Engine) : Status → Prop where
  /-- The phase goes on. -/
  | kept {line : String} (hl : line? = some line) (halted : e'.halted = none)
      (phaseIndex : e'.progress.phaseIndex = e.progress.phaseIndex) :
      Outcome e line? e' .success
  /-- The next phase begins. -/
  | advanced {line : String} (hl : line? = some line)
      (ht : (e.phase.matchedTrigger line).isSome = true)
      (last : e.table.isLast e.progress.phaseIndex = false) (halted : e'.halted = none)
      (phaseIndex : e'.progress.phaseIndex = e.progress.phaseIndex + 1) :
      Outcome e line? e' .success
  /-- The next section begins. -/
  | rearmed {line : String} (hl : line? = some line)
      (ht : (e.phase.matchedTrigger line).isSome = true)
      (last : e.table.isLast e.progress.phaseIndex = true) (hr : e.phase.onTrigger = .rearm)
      (halted : e'.halted = none) (phaseIndex : e'.progress.phaseIndex = 0) :
      Outcome e line? e' .stop
  /-- The engine halts, or has halted before. -/
  | halted {status : Status} (hs : status.Halts) (halted : e'.halted = some status)
      (phaseIndex : e'.progress.phaseIndex = e.progress.phaseIndex)
      (fatal : status.isFatal = true → e'.sections = e.sections ∧ e'.completed = e.completed) :
      Outcome e line? e' status

/-- The active phase is a phase of the table, and only some statuses halt the engine. -/
structure Sound (e : Engine) : Prop where
  placed : Placed e
  halts : ∀ status, e.halted = some status → status.Halts

variable {e e' e₁ : Engine} {status : Status} {line? : Option String}

/-! ## Outcomes -/

theorem Outcome.of_count {raw : Nat} (h : Outcome (e.count raw) line? e' status) :
    Outcome e line? e' status := by
  cases h with
  | kept hl hh hp => exact .kept hl hh hp
  | advanced hl ht last hh hp => exact .advanced hl ht last hh hp
  | rearmed hl ht last hr hh hp => exact .rearmed hl ht last hr hh hp
  | halted hs hh hp hf => exact .halted hs hh hp hf

theorem halt_outcome (hs : status.Halts) :
    Outcome e line? (e.halt status).2 (e.halt status).1 :=
  .halted hs rfl rfl fun _ => ⟨rfl, rfl⟩

theorem rejectPiracy_outcome (hit : BannedHit) {window : Window}
    (hb : e₁.bare = (e.withWindow window).bare) :
    Outcome e line? (e₁.rejectPiracy hit).2 (e₁.rejectPiracy hit).1 := by
  have hp : e₁.progress.phaseIndex = e.progress.phaseIndex := (phaseIndex_of_bare hb :)
  have hn : e₁.sections = e.sections := (sections_of_bare hb :)
  have hc : e₁.completed = e.completed := (congrArg completed hb :)
  exact .halted trivial rfl hp fun _ => ⟨hn, hc⟩

theorem bufferLine_outcome (hh : e.halted = none) (line : String) :
    Outcome e (some line) (e.bufferLine line).2 (e.bufferLine line).1 := by
  rcases bufferLine_cases e line with ⟨hit, e₁, w, hb, he⟩ | ⟨e₁, gone, w, hb, -, -, he⟩
  · rw [he]
    exact rejectPiracy_outcome hit hb
  · have hp : e₁.progress.phaseIndex = e.progress.phaseIndex := (phaseIndex_of_bare hb :)
    have hh₁ : e₁.halted = none := (halted_of_bare hb :).trans hh
    rw [he]
    exact .kept rfl hh₁ hp

theorem finalize_outcome (h : Placed e) (hh : e.halted = none) {trigger : Option String}
    (ht : line?.bind e.phase.matchedTrigger = trigger)
    (hn : trigger = none → e.table.isLast e.progress.phaseIndex = true) :
    Outcome e line? (e.finalize trigger).2 (e.finalize trigger).1 := by
  have hline : trigger.isSome = true →
      ∃ line, line? = some line ∧ (e.phase.matchedTrigger line).isSome = true := by
    intro hs
    obtain ⟨t, rfl⟩ := Option.isSome_iff_exists.mp hs
    obtain ⟨line, hl, hm⟩ := Option.bind_eq_some_iff.mp ht
    exact ⟨line, hl, by rw [hm]; rfl⟩
  rcases finalize_usable h trigger with he | ⟨hit, e₁, hb, he⟩ | ⟨e₁, hb, hc⟩
  · rw [he]
    exact halt_outcome trivial
  · have hb : e₁.bare = (e.withWindow e.progress.window).bare := hb
    rw [he]
    exact rejectPiracy_outcome hit hb
  have hp := phaseIndex_of_bare hb
  have hh₁ : e₁.halted = none := (halted_of_bare hb).trans hh
  rcases hc with ⟨last, he⟩ | ⟨last, hr, hs, he⟩ | ⟨last, he⟩
  · have hs : trigger.isSome = true := by
      rw [Option.isSome_iff_ne_none]
      intro htn
      rw [hn htn] at last
      cases last
    obtain ⟨line, hl, hm⟩ := hline hs
    rw [he]
    exact .advanced hl hm last hh₁ (congrArg (· + 1) hp)
  · obtain ⟨line, hl, hm⟩ := hline hs
    rw [he]
    exact .rearmed hl hm last hr hh₁ rfl
  · rw [he]
    exact .halted trivial rfl hp nofun

theorem feedCounted_outcome (h : Sound e) (line : String) (raw : Nat) :
    Outcome e (some line) (e.feedCounted line raw).2 (e.feedCounted line raw).1 := by
  have hplaced : Placed (e.count raw) := h.placed.of_eq rfl rfl
  rcases feedCounted_cases e line raw with
    ⟨status, hh, he⟩ | ⟨-, -, he⟩ | ⟨trigger, hh, -, ht, he⟩ | ⟨hh, -, -, he⟩
  · rw [he]
    exact .halted (h.halts status hh) hh rfl fun _ => ⟨rfl, rfl⟩
  · have hs : (Status.overflow (e.count raw).consumed e.limits.maxLogBytes .logBytes).Halts :=
      trivial
    rw [he]
    exact (halt_outcome hs).of_count
  · have ht : (some line).bind (e.count raw).phase.matchedTrigger = some trigger := ht
    rw [he]
    exact (finalize_outcome hplaced hh ht nofun).of_count
  · have hh' : (e.count raw).halted = none := hh
    rw [he]
    exact (bufferLine_outcome hh' line).of_count

theorem finish_outcome (h : Sound e) : Outcome e none e.finish.2 e.finish.1 := by
  cases hh : e.halted with
  | some status =>
    rw [finish_halted hh]
    exact .halted (h.halts status hh) hh rfl fun _ => ⟨rfl, rfl⟩
  | none =>
    rcases finish_eq hh with ⟨last, he⟩ | he | he
    · rw [he]
      exact finalize_outcome h.placed hh rfl fun _ => last
    · rw [he]
      exact halt_outcome trivial
    · rw [he]
      exact halt_outcome trivial

theorem Outcome.sound (ho : Outcome e line? e' status) (h : Sound e) (ht : e'.table = e.table) :
    Sound e' := by
  have hlt := h.placed.phaseIndex_lt
  have husable : e'.table.Usable := ht ▸ h.placed.usable
  cases ho with
  | kept hl hh hp =>
    refine ⟨h.placed.of_eq ht hp, fun status hs => ?_⟩
    rw [hh] at hs
    cases hs
  | advanced hl hm last hh hp =>
    refine ⟨⟨husable, ?_⟩, fun status hs => ?_⟩
    · rw [PhaseTable.isLast_eq_false_iff] at last
      rw [ht, hp]
      omega
    · rw [hh] at hs
      cases hs
  | rearmed hl hm last hr hh hp =>
    refine ⟨⟨husable, ?_⟩, fun status hs => ?_⟩
    · rw [ht, hp]
      omega
    · rw [hh] at hs
      cases hs
  | halted hs hh hp hf =>
    refine ⟨h.placed.of_eq ht hp, fun status' hs' => ?_⟩
    rw [hh] at hs'
    cases hs'
    exact hs

/-! ### What an outcome says -/

theorem Outcome.going (ho : Outcome e line? e' status) (hn : e'.halted = none) :
    status = .success ∨ status = .stop ∧ e.table.Rearms := by
  cases ho with
  | kept hl hh hp => exact .inl rfl
  | advanced hl ht last hh hp => exact .inl rfl
  | rearmed hl ht last hr hh hp => exact .inr ⟨rfl, PhaseTable.rearms_of_isLast last hr⟩
  | halted hs hh hp hf =>
    rw [hh] at hn
    cases hn

theorem Outcome.halting (ho : Outcome e line? e' status) (hn : e'.halted ≠ none) :
    e'.halted = some status ∧ status.Halts := by
  cases ho with
  | kept hl hh hp => exact absurd hh hn
  | advanced hl ht last hh hp => exact absurd hh hn
  | rearmed hl ht last hr hh hp => exact absurd hh hn
  | halted hs hh hp hf => exact ⟨hh, hs⟩

theorem Outcome.of_fatal (ho : Outcome e line? e' status) (hfatal : status.isFatal = true) :
    e'.halted = some status ∧ e'.sections = e.sections ∧ e'.completed = e.completed := by
  cases ho with
  | kept hl hh hp => cases hfatal
  | advanced hl ht last hh hp => cases hfatal
  | rearmed hl ht last hr hh hp => cases hfatal
  | halted hs hh hp hf => exact ⟨hh, hf hfatal⟩

theorem Outcome.ended (ho : Outcome e none e' status) :
    e'.halted ≠ none ∧ status ≠ .success := by
  cases ho with
  | kept hl hh hp => cases hl
  | advanced hl ht last hh hp => cases hl
  | rearmed hl ht last hr hh hp => cases hl
  | halted hs hh hp hf =>
    refine ⟨by rw [hh]; nofun, ?_⟩
    rintro rfl
    exact hs

/-- **How the phase may change**: for the next one or, after the last one, for the first one. -/
theorem Outcome.phaseIndex_cases (ho : Outcome e line? e' status) :
    e'.progress.phaseIndex = e.progress.phaseIndex ∨
      ∃ line, line? = some line ∧ (e.phase.matchedTrigger line).isSome = true ∧
        (e.table.isLast e.progress.phaseIndex = false ∧ status = .success ∧
            e'.progress.phaseIndex = e.progress.phaseIndex + 1 ∨
          e.table.isLast e.progress.phaseIndex = true ∧ e.phase.onTrigger = .rearm ∧
            status = .stop ∧ e'.halted = none ∧ e'.progress.phaseIndex = 0) := by
  cases ho with
  | kept hl hh hp => exact .inl hp
  | advanced hl ht last hh hp => exact .inr ⟨_, hl, ht, .inl ⟨last, rfl, hp⟩⟩
  | rearmed hl ht last hr hh hp => exact .inr ⟨_, hl, ht, .inr ⟨last, hr, rfl, hh, hp⟩⟩
  | halted hs hh hp hf => exact .inl hp

/-! ## Requests -/

theorem respond_outcome (h : Sound e) {r : Request} (hs : (e.respond r).1 = some status) :
    Outcome e r.line? (e.respond r).2 status := by
  cases hc : r.call? with
  | none =>
    obtain ⟨banned, hb⟩ := respond_aside e hc
    rw [hb] at hs
    cases hs
  | some call =>
    rw [respond_call e hc] at hs ⊢
    rw [Request.line?, hc]
    cases call with
    | feed line raw =>
      cases hs
      exact feedCounted_outcome h line raw
    | finish =>
      cases hs
      exact finish_outcome h
    | take => cases hs

theorem respond_silent {r : Request} (hs : (e.respond r).1 = none) :
    (e.respond r).2.progress = e.progress ∧ (e.respond r).2.halted = e.halted := by
  cases hc : r.call? with
  | none =>
    obtain ⟨banned, hb⟩ := respond_aside e hc
    rw [hb]
    exact ⟨rfl, rfl⟩
  | some call =>
    rw [respond_call e hc] at hs ⊢
    cases call with
    | feed line raw => cases hs
    | finish => cases hs
    | take => exact ⟨rfl, rfl⟩

structure Orderly (e : Engine) (r : Request) : Prop where
  /-- The active phase is found in the table. -/
  phase_eq : e.table.phases[e.progress.phaseIndex]? = some e.phase
  /-- An engine that goes on has answered with success, or with a stop where it may begin anew. -/
  going : ∀ status, (e.respond r).1 = some status → (e.respond r).2.halted = none →
    status = .success ∨ status = .stop ∧ e.table.Rearms
  /-- An engine that has halted answers the status that it has halted with. -/
  halting : ∀ status, (e.respond r).1 = some status → (e.respond r).2.halted ≠ none →
    (e.respond r).2.halted = some status ∧ status.Halts
  /-- A fatal status halts the engine, and completes no section. -/
  fatal : ∀ status, (e.respond r).1 = some status → status.isFatal = true →
    (e.respond r).2.halted = some status ∧ (e.respond r).2.sections = e.sections ∧
      (e.respond r).2.completed = e.completed
  /-- The end of the log halts the engine. -/
  ended : r = .call .finish → (e.respond r).2.halted ≠ none ∧ (e.respond r).1 ≠ some .success
  /-- Only a trigger changes the phase, for the next one or, after the last one, for the first
  one. -/
  phaseIndex : (e.respond r).2.progress.phaseIndex = e.progress.phaseIndex ∨
    ∃ line, r.line? = some line ∧ (e.phase.matchedTrigger line).isSome = true ∧
      (e.table.isLast e.progress.phaseIndex = false ∧ (e.respond r).1 = some .success ∧
          (e.respond r).2.progress.phaseIndex = e.progress.phaseIndex + 1 ∨
        e.table.isLast e.progress.phaseIndex = true ∧ e.phase.onTrigger = .rearm ∧
          (e.respond r).1 = some .stop ∧ (e.respond r).2.halted = none ∧
          (e.respond r).2.progress.phaseIndex = 0)

/-- **A sound engine answers every request in order.** -/
theorem orderly_respond (h : Sound e) (r : Request) : Orderly e r where
  phase_eq := PhaseTable.getElem?_phases h.placed.phaseIndex_lt
  going := fun _ hs => (respond_outcome h hs).going
  halting := fun _ hs => (respond_outcome h hs).halting
  fatal := fun _ hs => (respond_outcome h hs).of_fatal
  ended := by
    rintro rfl
    obtain ⟨hh, hs⟩ := (finish_outcome h).ended
    exact ⟨hh, fun he => hs (Option.some.inj he)⟩
  phaseIndex := by
    cases hs : (e.respond r).1 with
    | none => exact .inl (congrArg Progress.phaseIndex (respond_silent hs).1)
    | some status =>
      rcases (respond_outcome h hs).phaseIndex_cases with hp | ⟨line, hl, ht, hc⟩
      · exact .inl hp
      · simp only [Option.some.injEq]
        exact .inr ⟨line, hl, ht, hc⟩

theorem sound_respond (h : Sound e) (r : Request) : Sound (e.respond r).2 := by
  have ht := (setting_respond e r).1
  cases hs : (e.respond r).1 with
  | none =>
    obtain ⟨hp, hh⟩ := respond_silent hs
    exact ⟨h.placed.of_eq ht (by rw [hp]), by rw [hh]; exact h.halts⟩
  | some status => exact (respond_outcome h hs).sound h ht

/-! ## Runs -/

theorem sound_fresh {table : PhaseTable} (h : table.Usable) (limits : EngineLimits)
    (banned : BannedPhrases) (resolver : Resolver) :
    Sound (fresh table limits banned resolver) where
  placed := ⟨h, List.length_pos_iff.mpr h.phases_ne_nil⟩
  halts := nofun

theorem sound_served (h : Sound e) (requests : List Request) : Sound (e.served requests) := by
  induction requests generalizing e with
  | nil => exact h
  | cons r requests ih => exact ih (sound_respond h r)

/-- From `e` to `e'`, nothing but the banned phrases and the sections that wait to be taken have
changed. -/
def Frozen (e e' : Engine) : Prop := { e' with banned := e.banned, completed := e.completed } = e

theorem Frozen.halted_eq (h : Frozen e e') : e'.halted = e.halted := (congrArg halted h :)

theorem Frozen.trans {e₂ : Engine} (h : Frozen e e₁) (h₁ : Frozen e₁ e₂) : Frozen e e₂ := by
  have h₂ : ({ e₂ with banned := e.banned, completed := e.completed } : Engine)
      = { e₁ with banned := e.banned, completed := e.completed } :=
    congrArg (fun x : Engine => { x with banned := e.banned, completed := e.completed }) h₁
  exact h₂.trans h

theorem respond_halted (hh : e.halted = some status) (r : Request) :
    Frozen e (e.respond r).2 ∧ ∀ s, (e.respond r).1 = some s → s = status := by
  cases hc : r.call? with
  | none =>
    obtain ⟨banned, hb⟩ := respond_aside e hc
    rw [hb]
    exact ⟨rfl, fun _ hs => by cases hs⟩
  | some call =>
    rw [respond_call e hc]
    cases call with
    | feed line raw =>
      simp only [answer?, perform, feedCounted_halted hh]
      exact ⟨rfl, fun s hs => (Option.some.inj hs).symm⟩
    | finish =>
      simp only [answer?, perform, finish_halted hh]
      exact ⟨rfl, fun s hs => (Option.some.inj hs).symm⟩
    | take => exact ⟨rfl, fun _ hs => by cases hs⟩

/-- **An engine that has halted stays as it is**, and answers always the same. -/
theorem served_halted (hh : e.halted = some status) (requests : List Request) :
    Frozen e (e.served requests) ∧ ∀ s ∈ e.answers requests, s = status := by
  induction requests generalizing e with
  | nil => exact ⟨rfl, nofun⟩
  | cons r requests ih =>
    obtain ⟨hf, hs⟩ := respond_halted hh r
    obtain ⟨hf', hs'⟩ := ih (hf.halted_eq.trans hh)
    refine ⟨hf.trans hf', fun s hmem => ?_⟩
    rcases List.mem_append.mp hmem with hmem | hmem
    · exact hs s (Option.mem_toList.mp hmem)
    · exact hs' s hmem

theorem exists_halting (h : Sound e) (hh : e.halted = none) (requests : List Request) :
    ∃ before after, requests = before ++ after ∧ (e.served before).halted = none ∧
      (∀ s ∈ e.answers before, s = .success ∨ s = .stop ∧ e.table.Rearms) ∧
      ∀ r rest, after = r :: rest → ((e.served before).respond r).2.halted ≠ none := by
  induction requests generalizing e with
  | nil => exact ⟨[], [], rfl, hh, nofun, nofun⟩
  | cons r requests ih =>
    cases hr : (e.respond r).2.halted with
    | some status =>
      refine ⟨[], r :: requests, rfl, hh, nofun, ?_⟩
      rintro _ _ ⟨⟩
      rw [served, List.foldl_nil, hr]
      nofun
    | none =>
      obtain ⟨before, after, rfl, hb, hs, ha⟩ := ih (sound_respond h r) hr
      refine ⟨r :: before, after, rfl, hb, fun s hmem => ?_, ha⟩
      rw [(setting_respond e r).1] at hs
      rcases List.mem_append.mp hmem with hmem | hmem
      · exact (orderly_respond h r).going s (Option.mem_toList.mp hmem) hr
      · exact hs s hmem

/-- **The statuses of a run come in order.**  Each request keeps to the rules, whatever came before
it.  The engine goes on for a while; the request that halts it answers a status that is answered
from then on, and nothing of the engine changes any more. -/
theorem statuses_in_order {d : TableDefinition} {builtin : Bool} {table : PhaseTable}
    (h : d.validate builtin = .ok table) (limits : EngineLimits) (banned : BannedPhrases)
    (resolver : Resolver) (requests : List Request) :
    let e := fresh table limits banned resolver
    (e.served requests).table = table ∧ (∀ r, Orderly (e.served requests) r) ∧
      ∃ before after, requests = before ++ after ∧ (e.served before).halted = none ∧
        (∀ s ∈ e.answers before, s = .success ∨ s = .stop ∧ table.Rearms) ∧
        ∀ r rest, after = r :: rest → ∃ status e', status.Halts ∧
          (e.served before).respond r = (some status, e') ∧ e'.halted = some status ∧
          (∀ s ∈ e'.answers rest, s = status) ∧ Frozen e' (e'.served rest) := by
  intro e
  have hsound : Sound e := sound_fresh (TableDefinition.usable_of_validate h) limits banned resolver
  refine ⟨(setting_served e requests).1, orderly_respond (sound_served hsound requests), ?_⟩
  obtain ⟨before, after, hsplit, hb, hs, ha⟩ := exists_halting hsound rfl requests
  refine ⟨before, after, hsplit, hb, hs, fun r rest hafter => ?_⟩
  have hn := ha r rest hafter
  cases hr : ((e.served before).respond r).1 with
  | none =>
    rw [(respond_silent hr).2] at hn
    exact absurd hb hn
  | some status =>
    obtain ⟨hh, hhalts⟩ := (orderly_respond (sound_served hsound before) r).halting status hr hn
    obtain ⟨hf, hsame⟩ := served_halted hh rest
    exact ⟨status, _, hhalts, Prod.ext hr rfl, hh, hsame, hf⟩

/-- A session, and a log that ends in the head of the next one. -/
theorem statuses_of_sessions : ∃ table, TableDefinition.sessions.validate false = .ok table ∧
    let e := fresh table {} {} .unknown
    let requests := [.feed "a", .feed "begin", .partialAnalysis, .feed "end", .feed "b",
      .call .finish, .call .take, .feed "c"]
    e.answers requests
        = [.success, .success, .stop, .success, .stop, .stop] ∧
      (e.served requests).table = table ∧ Orderly (e.served requests) (.call .finish) := by
  have hanswers : ∃ table, TableDefinition.sessions.validate false = .ok table ∧
      (fresh table {} {} .unknown).answers [.feed "a", .feed "begin", .partialAnalysis, .feed "end",
        .feed "b", .call .finish, .call .take, .feed "c"]
        = [.success, .success, .stop, .success, .stop, .stop] := by decide +kernel
  obtain ⟨table, h, hanswers⟩ := hanswers
  obtain ⟨htable, horderly, -⟩ := statuses_in_order h {} {} .unknown
    [.feed "a", .feed "begin", .partialAnalysis, .feed "end", .feed "b",
      .call .finish, .call .take, .feed "c"]
  exact ⟨table, h, hanswers, htable, horderly _⟩

end Engine

end LogTriage
