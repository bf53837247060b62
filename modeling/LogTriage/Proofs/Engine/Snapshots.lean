import LogTriage.Proofs.Engine.Requests

/-!
# Analyses are snapshots

An analysis is a snapshot of an engine.  One of a complete section is taken while no banned phrase
has been found; a hit is kept only by an engine that has halted with it.

* `kept_perform`  every call keeps this;
* `kept_served`   so it holds after any requests.
-/

namespace LogTriage

def Status.hit? : Status → Option BannedHit
  | .piracy hit => some hit
  | _ => none

namespace Engine

/-- The analysis is a snapshot of an engine with this table, before a banned phrase was found. -/
def Snapshot (table : PhaseTable) (a : Analysis) : Prop :=
  ∃ e : Engine, e.table = table ∧ e.progress.piracy = none ∧ a = e.analysis true

structure Kept (e : Engine) : Prop where
  /-- The hit is that of the status that the engine has halted with. -/
  piracy_eq : e.progress.piracy = e.halted.bind Status.hit?
  completed : ∀ a ∈ e.completed, Snapshot e.table a

variable {e e' e₁ : Engine}

theorem kept_fresh (table : PhaseTable) (limits : EngineLimits) (banned : BannedPhrases)
    (resolver : Resolver) : Kept (fresh table limits banned resolver) where
  piracy_eq := rfl
  completed := by
    intro a ha
    cases ha

namespace Kept

theorem piracy_eq_none (h : Kept e) (hh : e.halted = none) : e.progress.piracy = none := by
  rw [h.piracy_eq, hh]
  rfl

theorem of_eq (h : Kept e) (ht : e'.table = e.table) (hc : e'.completed = e.completed)
    (hp : e'.progress.piracy = e'.halted.bind Status.hit?) : Kept e' where
  piracy_eq := hp
  completed := by
    rw [ht, hc]
    exact h.completed

theorem of_bare (h : Kept e) {window : Window} (hb : e'.bare = (e.withWindow window).bare) :
    Kept e' := by
  have hc : e'.completed = e.completed := (congrArg Engine.completed hb :)
  have hp : e'.progress.piracy = e.progress.piracy := (congrArg (·.progress.piracy) hb :)
  have hh : e'.halted = e.halted := (halted_of_bare hb :)
  refine h.of_eq (table_of_bare hb :) hc ?_
  rw [hp, hh]
  exact h.piracy_eq

theorem halt (h : Kept e) (hh : e.halted = none) {status : Status} (hs : status.hit? = none) :
    Kept (e.halt status).2 := by
  refine h.of_eq rfl rfl ?_
  show e.progress.piracy = status.hit?
  rw [h.piracy_eq_none hh, hs]

theorem rejectPiracy (h : Kept e) (hit : BannedHit) : Kept (e.rejectPiracy hit).2 :=
  h.of_eq rfl rfl rfl

theorem completeSection (h : Kept e) (hh : e.halted = none) : Kept e.completeSection where
  piracy_eq := h.piracy_eq
  completed := by
    intro a ha
    rcases List.mem_append.mp ha with ha | ha
    · exact h.completed a ha
    · exact ⟨e, rfl, h.piracy_eq_none hh, List.mem_singleton.mp ha⟩

end Kept

/-! ## What the steps keep -/

theorem kept_bufferLine (h : Kept e) (line : String) : Kept (e.bufferLine line).2 := by
  rcases bufferLine_cases e line with ⟨hit, e₁, w, hb, he⟩ | ⟨e₁, gone, w, hb, -, -, he⟩
  · rw [he]
    exact (h.of_bare hb).rejectPiracy hit
  · rw [he]
    exact (h.of_bare hb).of_eq rfl rfl (h.of_bare hb).piracy_eq

theorem kept_complete (h : Kept e) (hh : e.halted = none) (trigger : Option String) :
    Kept (e.complete trigger).2 := by
  have hsection := h.completeSection hh
  rcases complete_cases e trigger with he | he | he
  · rw [he]
    exact h.of_eq rfl rfl h.piracy_eq
  · rw [he]
    refine hsection.of_eq rfl rfl ?_
    show none = e.halted.bind Status.hit?
    rw [hh]
    rfl
  · rw [he]
    exact hsection.halt hh rfl

theorem kept_finalize (h : Kept e) (hh : e.halted = none) (trigger : Option String) :
    Kept (e.finalize trigger).2 := by
  rcases finalize_cases e trigger with he | ⟨hit, e₁, hb, he⟩ | ⟨e₁, hb, -, he⟩
  · rw [he]
    exact h.halt hh rfl
  · have h₁ : Kept e₁ := h.of_bare hb
    rw [he]
    exact h₁.rejectPiracy hit
  · have h₁ : Kept e₁ := h.of_bare hb
    rw [he]
    exact kept_complete h₁ ((halted_of_bare hb).trans hh) trigger

theorem kept_feedCounted (h : Kept e) (line : String) (raw : Nat) :
    Kept (e.feedCounted line raw).2 := by
  have hcount : Kept (e.count raw) := h.of_eq rfl rfl h.piracy_eq
  rcases feedCounted_cases e line raw with
    ⟨status, -, he⟩ | ⟨hh, -, he⟩ | ⟨trigger, hh, -, -, he⟩ | ⟨-, -, -, he⟩
  · rw [he]
    exact h
  · rw [he]
    exact hcount.halt hh rfl
  · rw [he]
    exact kept_finalize hcount hh (some trigger)
  · rw [he]
    exact kept_bufferLine hcount line

theorem kept_finish (h : Kept e) : Kept e.finish.2 := by
  cases hh : e.halted with
  | some status =>
    rw [finish_halted hh]
    exact h
  | none =>
    rw [finish, hh]
    dsimp only
    split
    · exact kept_finalize h hh none
    split
    · exact h.halt hh rfl
    · exact h.halt hh rfl

theorem kept_perform (h : Kept e) (call : Call) : Kept (e.perform call) := by
  cases call with
  | feed line raw => exact kept_feedCounted h line raw
  | finish => exact kept_finish h
  | take =>
    refine ⟨h.piracy_eq, ?_⟩
    intro a ha
    cases ha

/-- **Every analysis of a complete section is a snapshot**, whatever an engine was asked for. -/
theorem kept_served (h : Kept e) (requests : List Request) : Kept (e.served requests) :=
  served_keeps (P := Kept) (fun _ call h => kept_perform h call)
    (fun _ _ h => h.of_eq rfl rfl h.piracy_eq) h requests

end Engine

end LogTriage
