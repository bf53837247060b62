import LogTriage.Proofs.Engine.Requests

/-!
# How an engine halts

A stop and a truncated log both say something of the sections that are complete: an engine that has
halted with a stop has completed one, and for an engine that has found its log truncated there is
none.

* `grounded_perform`  every call keeps this;
* `grounded_served`   so it holds after any requests;
* `analyses_untaken`  unless sections are taken, the complete ones are all still there.
-/

namespace LogTriage.Engine
variable {e e' e₁ : Engine} {status : Status}

/-- What the status that has halted an engine says of its complete sections. -/
structure Grounded (e : Engine) : Prop where
  stop : e.halted = some .stop → 0 < e.sections
  truncated : ∀ failure, e.halted = some (.fail failure) → failure.reason = .truncated →
    e.sections = 0

theorem grounded_of_going (hh : e.halted = none) : Grounded e where
  stop := by
    intro hs
    rw [hh] at hs
    cases hs
  truncated := by
    intro failure hf
    rw [hh] at hf
    cases hf

theorem Grounded.of_eq (h : Grounded e) (hh : e'.halted = e.halted) (hs : e'.sections = e.sections) :
    Grounded e' where
  stop := by
    rw [hh, hs]
    exact h.stop
  truncated := by
    rw [hh, hs]
    exact h.truncated

/-! ## What the steps keep -/

theorem grounded_halt (e : Engine) (hstop : status ≠ .stop)
    (hreason : ∀ failure, status = .fail failure → failure.reason ≠ .truncated) :
    Grounded (e.halt status).2 where
  stop := by
    intro hs
    exact absurd (Option.some.inj hs) hstop
  truncated := by
    intro failure hf ht
    exact absurd ht (hreason failure (Option.some.inj hf))

theorem grounded_stop (h : 0 < e.sections) : Grounded (e.halt .stop).2 where
  stop := fun _ => h
  truncated := by
    intro failure hf
    cases hf

theorem grounded_rejectPiracy (e : Engine) (hit : BannedHit) : Grounded (e.rejectPiracy hit).2 :=
  grounded_halt _ nofun nofun

theorem grounded_bufferLine (hh : e.halted = none) (line : String) :
    Grounded (e.bufferLine line).2 := by
  rcases bufferLine_cases e line with ⟨hit, e₁, w, -, he⟩ | ⟨e₁, gone, w, hb, -, -, he⟩
  · rw [he]
    exact grounded_rejectPiracy e₁ hit
  · have hh₁ : e₁.halted = none := (halted_of_bare hb :).trans hh
    rw [he]
    exact grounded_of_going hh₁

theorem grounded_complete (hh : e.halted = none) (trigger : Option String) :
    Grounded (e.complete trigger).2 := by
  rcases complete_cases e trigger with he | he | he
  · rw [he]
    exact grounded_of_going hh
  · rw [he]
    exact grounded_of_going hh
  · have hpos : 0 < e.completeSection.sections := Nat.succ_pos e.sections
    rw [he]
    exact grounded_stop hpos

theorem grounded_finalize (hh : e.halted = none) (trigger : Option String) :
    Grounded (e.finalize trigger).2 := by
  rcases finalize_cases e trigger with he | ⟨hit, e₁, -, he⟩ | ⟨e₁, hb, -, he⟩
  · rw [he]
    refine grounded_halt e nofun ?_
    rintro failure ⟨⟩
    exact nofun
  · rw [he]
    exact grounded_rejectPiracy e₁ hit
  · rw [he]
    exact grounded_complete ((halted_of_bare hb).trans hh) trigger

theorem grounded_feedCounted (h : Grounded e) (line : String) (raw : Nat) :
    Grounded (e.feedCounted line raw).2 := by
  rcases feedCounted_cases e line raw with
    ⟨status, -, he⟩ | ⟨-, -, he⟩ | ⟨trigger, hh, -, -, he⟩ | ⟨hh, -, -, he⟩
  · rw [he]
    exact h
  · rw [he]
    exact grounded_halt _ nofun nofun
  · rw [he]
    exact grounded_finalize (by exact hh) (some trigger)
  · rw [he]
    exact grounded_bufferLine (by exact hh) line

/-- **The end of the log**: a stop needs a complete section, and without one the log is
truncated. -/
theorem grounded_finish (h : Grounded e) : Grounded e.finish.2 := by
  cases hh : e.halted with
  | some status =>
    rw [finish_halted hh]
    exact h
  | none =>
    rw [finish, hh]
    dsimp only
    split
    · exact grounded_finalize hh none
    split
    · rename_i hpos
      exact grounded_stop hpos
    · rename_i hnone
      refine ⟨?_, fun _ _ _ => ?_⟩
      · intro hs
        cases hs
      · show e.sections = 0
        omega

theorem grounded_perform (h : Grounded e) (call : Call) : Grounded (e.perform call) := by
  cases call with
  | feed line raw => exact grounded_feedCounted h line raw
  | finish => exact grounded_finish h
  | take => exact h.of_eq rfl rfl

/-- **What a halted engine has completed**, whatever it was asked for. -/
theorem grounded_served (h : Grounded e) (requests : List Request) :
    Grounded (e.served requests) :=
  served_keeps (P := Grounded) (fun _ call h => grounded_perform h call)
    (fun _ _ h => h.of_eq rfl rfl) h requests

/-! ## Runs without takings -/

theorem served_calls (e : Engine) (calls : List Call) :
    e.served (calls.map .call) = e.run calls := by
  induction calls generalizing e with
  | nil => rfl
  | cons call calls ih => exact ih (e.perform call)

theorem analyses_untaken (e : Engine) {calls : List Call} (h : .take ∉ calls) :
    e.analyses calls = (e.run calls).completed := by
  induction calls generalizing e with
  | nil => rfl
  | cons call calls ih =>
    have hcalls : .take ∉ calls := fun hmem => h (List.mem_cons_of_mem _ hmem)
    have hnone : e.taken call = [] := by
      cases call with
      | feed line raw => rfl
      | finish => rfl
      | take => exact absurd List.mem_cons_self h
    rw [analyses, hnone, List.nil_append, run_cons, ih _ hcalls]

theorem completed_numbered (table : PhaseTable) (limits : EngineLimits) (banned : BannedPhrases)
    (resolver : Resolver) {calls : List Call} (h : .take ∉ calls) :
    let e := (fresh table limits banned resolver).run calls
    e.completed.map (·.index) = List.range e.completed.length ∧
      e.completed.length = e.sections ∧ ∀ a ∈ e.completed, a.complete = true := by
  intro e
  obtain ⟨new, hnew, hsections, hindex, hcomplete⟩ :=
    analyses_eq (fresh table limits banned resolver) calls
  have hcompleted : e.completed = new := by
    rw [← analyses_untaken _ h, hnew]
    rfl
  have hzero : (fresh table limits banned resolver).sections = 0 := rfl
  rw [hzero, Nat.zero_add] at hsections
  rw [hzero, ← List.range_eq_range'] at hindex
  rw [hcompleted]
  exact ⟨hindex, hsections.symm, hcomplete⟩

end LogTriage.Engine
