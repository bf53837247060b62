import LogTriage.Proofs.Engine.Steps

/-!
# Calls on an engine

An engine is used by calls in any order: lines are fed, the log is ended, complete sections are
taken.  `run` is the engine after some calls, and `analyses` are the complete sections, those that
were taken and those that are left.

* `perform_adds`  what a call takes and leaves, and the sections that it completes;
* `analyses_eq`   over a whole run, the complete sections are numbered in order.
-/

namespace LogTriage.Engine

inductive Call where
  | feed (line : String) (raw : Nat)
  | finish
  | take
deriving DecidableEq, Inhabited

def fresh (table : PhaseTable) (limits : EngineLimits) (banned : BannedPhrases)
    (resolver : Resolver) : Engine :=
  { table, limits, banned, resolver }

def perform (e : Engine) : Call → Engine
  | .feed line raw => (e.feedCounted line raw).2
  | .finish => e.finish.2
  | .take => e.takeCompleted.2

def run (e : Engine) (calls : List Call) : Engine := calls.foldl perform e

def taken (e : Engine) : Call → List Analysis
  | .take => e.takeCompleted.1
  | .feed .. => []
  | .finish => []

/-- The complete sections: what the calls took, and what is left after them. -/
def analyses (e : Engine) : List Call → List Analysis
  | [] => e.completed
  | call :: calls => e.taken call ++ (e.perform call).analyses calls

theorem run_cons (e : Engine) (call : Call) (calls : List Call) :
    e.run (call :: calls) = (e.perform call).run calls := rfl

/-! ## Complete sections -/

/-- The engine without what it knows of the section at hand: the sections that are complete, and
what is the same for all of them. -/
def ledger (e : Engine) : Engine :=
  { e with progress := {}, consumed := 0, halted := none, asked := [] }

/-- From `e` to `e'`, the sections `new` have been completed. -/
structure Adds (e e' : Engine) (new : List Analysis) : Prop where
  ledger_eq : e'.ledger = { e.ledger with
    completed := e.completed ++ new, sections := e.sections + new.length }
  index_eq : new.map (·.index) = List.range' e.sections new.length
  complete_eq : ∀ a ∈ new, a.complete = true

variable {e e' e₁ e₂ : Engine} {new : List Analysis}

theorem ledger_of_bare (h : e'.bare = e.bare) : e'.ledger = e.ledger := (congrArg ledger h :)

theorem Adds.completed_eq (h : Adds e e' new) : e'.completed = e.completed ++ new :=
  congrArg completed h.ledger_eq

theorem Adds.sections_eq (h : Adds e e' new) : e'.sections = e.sections + new.length :=
  congrArg sections h.ledger_eq

theorem Adds.banned_eq (h : Adds e e' new) : e'.banned = e.banned :=
  (congrArg banned h.ledger_eq :)

theorem adds_nil (h : e'.ledger = e.ledger) : Adds e e' [] where
  ledger_eq := by rw [h, List.append_nil]; rfl
  index_eq := rfl
  complete_eq := fun _ h => by cases h

theorem Adds.of_ledger (h : Adds e₁ e₂ new) (h₁ : e₁.ledger = e.ledger)
    (h₂ : e'.ledger = e₂.ledger) : Adds e e' new where
  ledger_eq := by
    have hc : e₁.completed = e.completed := (congrArg completed h₁ :)
    have hs : e₁.sections = e.sections := (congrArg sections h₁ :)
    rw [h₂, h.ledger_eq, h₁, hc, hs]
  index_eq := by
    have hs : e₁.sections = e.sections := (congrArg sections h₁ :)
    rw [h.index_eq, hs]
  complete_eq := h.complete_eq

theorem adds_completeSection (e : Engine) : Adds e e.completeSection [e.analysis true] :=
  ⟨rfl, rfl, fun a ha => by rw [List.mem_singleton.mp ha]; rfl⟩

theorem bufferLine_adds (e : Engine) (line : String) : Adds e (e.bufferLine line).2 [] := by
  rcases bufferLine_cases e line with ⟨hit, e', w, hb, he⟩ | ⟨e', gone, w, hb, -, -, he⟩
  · have hl := ledger_of_bare hb
    rw [he]
    exact adds_nil hl
  · have hl := ledger_of_bare hb
    rw [he]
    exact adds_nil hl

theorem complete_adds (e : Engine) (trigger : Option String) :
    ∃ new, Adds e (e.complete trigger).2 new := by
  rcases complete_cases e trigger with he | he | he
  · rw [he]
    exact ⟨[], adds_nil rfl⟩
  · rw [he]
    exact ⟨_, (adds_completeSection e).of_ledger rfl rfl⟩
  · rw [he]
    exact ⟨_, (adds_completeSection e).of_ledger rfl rfl⟩

theorem finalize_adds (e : Engine) (trigger : Option String) :
    ∃ new, Adds e (e.finalize trigger).2 new := by
  rcases finalize_cases e trigger with he | ⟨hit, e', hb, he⟩ | ⟨e', hb, -, he⟩
  · rw [he]
    exact ⟨[], adds_nil rfl⟩
  · have hl := ledger_of_bare hb
    rw [he]
    exact ⟨[], adds_nil hl⟩
  · obtain ⟨new, h⟩ := complete_adds e' trigger
    rw [he]
    exact ⟨new, h.of_ledger (ledger_of_bare hb) rfl⟩

theorem feedCounted_adds (e : Engine) (line : String) (raw : Nat) :
    ∃ new, Adds e (e.feedCounted line raw).2 new := by
  rcases feedCounted_cases e line raw with
    ⟨status, -, he⟩ | ⟨-, -, he⟩ | ⟨trigger, -, -, -, he⟩ | ⟨-, -, -, he⟩
  · rw [he]
    exact ⟨[], adds_nil rfl⟩
  · rw [he]
    exact ⟨[], adds_nil rfl⟩
  · obtain ⟨new, h⟩ := finalize_adds (e.count raw) (some trigger)
    rw [he]
    exact ⟨new, h.of_ledger rfl rfl⟩
  · rw [he]
    exact ⟨[], (bufferLine_adds (e.count raw) line).of_ledger rfl rfl⟩

theorem finish_adds (e : Engine) : ∃ new, Adds e e.finish.2 new := by
  cases hh : e.halted with
  | some status =>
    rw [finish_halted hh]
    exact ⟨[], adds_nil rfl⟩
  | none =>
    rcases finish_cases hh with he | ⟨status, he⟩
    · rw [he]
      exact finalize_adds e none
    · rw [he]
      exact ⟨[], adds_nil rfl⟩

/-- **What a call takes and leaves** is what was complete before, and the sections that it
completes. -/
theorem perform_adds (e : Engine) (call : Call) : ∃ new,
    Adds e { e.perform call with completed := e.taken call ++ (e.perform call).completed } new := by
  cases call with
  | feed line raw => exact feedCounted_adds e line raw
  | finish => exact finish_adds e
  | take =>
    refine ⟨[], adds_nil ?_⟩
    simp only [perform, taken, takeCompleted, List.append_nil]

/-! ## Whole runs -/

theorem banned_run (e : Engine) (calls : List Call) : (e.run calls).banned = e.banned := by
  induction calls generalizing e with
  | nil => rfl
  | cons call calls ih =>
    obtain ⟨_, h⟩ := perform_adds e call
    rw [run_cons, ih]
    exact h.banned_eq

/-- **The analyses of a run** are those that were complete before, and one for each section that
has been completed since, in order. -/
theorem analyses_eq (e : Engine) (calls : List Call) : ∃ new : List Analysis,
    e.analyses calls = e.completed ++ new ∧
      (e.run calls).sections = e.sections + new.length ∧
      new.map (·.index) = List.range' e.sections new.length ∧ ∀ a ∈ new, a.complete = true := by
  induction calls generalizing e with
  | nil => exact ⟨[], (List.append_nil _).symm, rfl, rfl, fun _ h => by cases h⟩
  | cons call calls ih =>
    obtain ⟨new, h⟩ := perform_adds e call
    obtain ⟨more, hm, hn, hi, hc⟩ := ih (e.perform call)
    have hcomp : e.taken call ++ (e.perform call).completed = e.completed ++ new := h.completed_eq
    have hsec : (e.perform call).sections = e.sections + new.length := h.sections_eq
    refine ⟨new ++ more, ?_, ?_, ?_, fun a ha => ?_⟩
    · rw [analyses, hm, ← List.append_assoc, hcomp, List.append_assoc]
    · rw [run_cons, hn, hsec, List.length_append, Nat.add_assoc]
    · rw [List.map_append, h.index_eq, hi, hsec, List.length_append, List.range'_append_1]
    · exact (List.mem_append.mp ha).elim (h.complete_eq a) (hc a)

end LogTriage.Engine
