import LogTriage.Proofs.Engine.Statuses

/-!
# The limit of an engine

An engine counts the bytes of all lines that it is fed, whatever sections they belong to, and those
of the section at hand.  The limit is looked at before anything else is done with a line, so that a
line which is too much ends the log, whatever it holds; nothing but the counters changes then.

* `feedCounted_untripped`  a line for which there is room does not exceed the limit;
* `counted_respond`        what a request does to the counters;
* `limit_enforced`         the run: the limit is exceeded exactly by the bytes that were fed.
-/

namespace LogTriage

def Status.IsOverflow : Status → Prop
  | .overflow .. => True
  | _ => False

namespace Engine
variable {e e' : Engine} {status : Status}

/-! ## Lines for which there is room -/

/-- The engine answers with no overflow, and has not halted with one. -/
structure Untripped (out : Status × Engine) : Prop where
  answer : ¬ out.1.IsOverflow
  halted : ∀ status, out.2.halted = some status → ¬ status.IsOverflow

theorem untripped_halt (h : ¬ status.IsOverflow) (e : Engine) : Untripped (e.halt status) where
  answer := h
  halted := by
    rintro _ ⟨⟩
    exact h

theorem untripped_of_going (h : ¬ status.IsOverflow) (hh : e.halted = none) :
    Untripped (status, e) where
  answer := h
  halted := by
    intro s hs
    have hs : e.halted = some s := hs
    rw [hh] at hs
    cases hs

theorem rejectPiracy_untripped (e : Engine) (hit : BannedHit) : Untripped (e.rejectPiracy hit) :=
  untripped_halt (by exact id) _

theorem complete_untripped (hh : e.halted = none) (trigger : Option String) :
    Untripped (e.complete trigger) := by
  rcases complete_cases e trigger with he | he | he
  · rw [he]
    exact untripped_of_going (by exact id) hh
  · rw [he]
    exact untripped_of_going (by exact id) hh
  · rw [he]
    exact untripped_halt (by exact id) _

theorem finalize_untripped (hh : e.halted = none) (trigger : Option String) :
    Untripped (e.finalize trigger) := by
  rcases finalize_cases e trigger with he | ⟨hit, e₁, -, he⟩ | ⟨e₁, hb, -, he⟩
  · rw [he]
    exact untripped_halt (by exact id) _
  · rw [he]
    exact rejectPiracy_untripped e₁ hit
  · rw [he]
    exact complete_untripped ((halted_of_bare hb).trans hh) trigger

theorem bufferLine_untripped (hh : e.halted = none) (line : String) :
    Untripped (e.bufferLine line) := by
  rcases bufferLine_cases e line with ⟨hit, e₁, w, -, he⟩ | ⟨e₁, gone, w, hb, -, -, he⟩
  · rw [he]
    exact rejectPiracy_untripped e₁ hit
  · have hh₁ : e₁.halted = none := (halted_of_bare hb :).trans hh
    rw [he]
    exact untripped_of_going (by exact id) hh₁

theorem feedCounted_untripped (hh : e.halted = none) (line : String) {raw : Nat}
    (hr : e.consumed + raw ≤ e.limits.maxLogBytes) : Untripped (e.feedCounted line raw) := by
  have hcount : (e.count raw).consumed ≤ e.consumed + raw := Nat.min_le_left _ _
  rcases feedCounted_cases e line raw with
    ⟨status, hs, -⟩ | ⟨-, ho, -⟩ | ⟨trigger, -, -, -, he⟩ | ⟨-, -, -, he⟩
  · rw [hh] at hs
    cases hs
  · omega
  · rw [he]
    exact finalize_untripped (by exact hh) (some trigger)
  · rw [he]
    exact bufferLine_untripped (by exact hh) line

theorem finish_untripped (hh : e.halted = none) : Untripped e.finish := by
  rw [finish, hh]
  dsimp only
  split
  · exact finalize_untripped hh none
  split
  · exact untripped_halt (by exact id) e
  · exact untripped_halt (by exact id) e

/-! ## The counters -/

def Request.raw (r : Request) : Nat :=
  match r.call? with
  | some (.feed _ raw) => raw
  | _ => 0

def rawFed : List Request → Nat
  | [] => 0
  | r :: requests => r.raw + rawFed requests

/-- How the counters stand after `n` bytes have been fed. -/
structure Counted (e : Engine) (n : Nat) : Prop where
  consumed_eq : e.halted = none → e.consumed = n
  section_le : e.progress.consumed ≤ e.consumed
  within : (∀ status, e.halted = some status → ¬ status.IsOverflow) →
    e.consumed ≤ e.limits.maxLogBytes

variable {n : Nat} {r : Request}

theorem finalize_counts (e : Engine) (trigger : Option String) :
    (e.finalize trigger).2.progress.consumed ≤ e.progress.consumed := by
  rcases finalize_cases e trigger with he | ⟨hit, e₁, hb, he⟩ | ⟨e₁, hb, -, he⟩
  · exact Nat.le_of_eq (congrArg (·.2.progress.consumed) he :)
  · have hc : e₁.progress.consumed = e.progress.consumed := (congrArg (·.progress.consumed) hb :)
    rw [he]
    exact Nat.le_of_eq hc
  · have hc : e₁.progress.consumed = e.progress.consumed := (congrArg (·.progress.consumed) hb :)
    rw [he, ← hc]
    rcases complete_cases e₁ trigger with he | he | he
    · exact Nat.le_of_eq (congrArg (·.2.progress.consumed) he :)
    · rw [he]
      exact Nat.zero_le _
    · exact Nat.le_of_eq (congrArg (·.2.progress.consumed) he :)

theorem bufferLine_counts (e : Engine) (line : String) :
    (e.bufferLine line).2.progress.consumed = e.progress.consumed :=
  (congrArg (·.progress.consumed) (bufferLine_unbuffered e line) :)

theorem Counted.of_le (h : Counted e n) (hh : e.halted = none) (hc : e'.consumed = e.consumed)
    (hs : e'.progress.consumed ≤ e.progress.consumed) (hl : e'.limits = e.limits) :
    Counted e' n where
  consumed_eq := fun _ => hc.trans (h.consumed_eq hh)
  section_le := by
    have hle := h.section_le
    omega
  within := by
    intro _
    rw [hc, hl]
    refine h.within fun status hs => ?_
    rw [hh] at hs
    cases hs

theorem counted_feed (h : Counted e n) (hh : e.halted = none) (line : String) {raw : Nat}
    (hmax : n + raw ≤ maxCount) : Counted (e.feedCounted line raw).2 (n + raw) := by
  obtain ⟨_, hadds⟩ := feedCounted_adds e line raw
  have hlimits : (e.feedCounted line raw).2.limits = e.limits := (congrArg limits hadds.ledger_eq :)
  have hconsumed : (e.count raw).consumed = n + raw := by
    rw [← h.consumed_eq hh] at hmax ⊢
    exact Nat.min_eq_left hmax
  have hsection : (e.count raw).progress.consumed ≤ n + raw := by
    have hle := h.section_le
    rw [h.consumed_eq hh] at hle
    exact Nat.add_le_add_right hle raw
  have hcounted (ho : ¬ e.limits.maxLogBytes < (e.count raw).consumed) :
      Counted (e.count raw) (n + raw) :=
    ⟨fun _ => hconsumed, by rw [hconsumed]; exact hsection, fun _ => Nat.le_of_not_lt ho⟩
  rcases feedCounted_cases e line raw with
    ⟨status, hs, -⟩ | ⟨-, -, he⟩ | ⟨trigger, -, ho, -, he⟩ | ⟨-, ho, -, he⟩
  · rw [hh] at hs
    cases hs
  · rw [he]
    refine ⟨nofun, ?_, fun hs => absurd trivial (hs _ rfl)⟩
    rw [← hconsumed] at hsection
    exact hsection
  · rw [he] at hlimits ⊢
    exact (hcounted ho).of_le hh (finalize_consumed _ _) (finalize_counts _ _) hlimits
  · rw [he] at hlimits ⊢
    exact (hcounted ho).of_le hh (bufferLine_consumed _ _) (Nat.le_of_eq (bufferLine_counts _ _))
      hlimits

theorem counted_finish (h : Counted e n) (hh : e.halted = none) : Counted e.finish.2 n := by
  obtain ⟨_, hadds⟩ := finish_adds e
  have hlimits : e.finish.2.limits = e.limits := (congrArg limits hadds.ledger_eq :)
  rcases finish_cases hh with he | ⟨status, he⟩
  · rw [he] at hlimits ⊢
    exact h.of_le hh (finalize_consumed _ _) (finalize_counts _ _) hlimits
  · rw [he] at hlimits ⊢
    exact h.of_le hh rfl (Nat.le_refl _) hlimits

/-- **What a request does to the counters**: it counts the bytes of the line that it feeds. -/
theorem counted_respond (h : Counted e n) (hmax : n + r.raw ≤ maxCount) :
    Counted (e.respond r).2 (n + r.raw) := by
  cases hh : e.halted with
  | some status =>
    obtain ⟨hf, -⟩ := respond_halted hh r
    have hhalted : (e.respond r).2.halted = e.halted := hf.halted_eq
    have hconsumed : (e.respond r).2.consumed = e.consumed := (congrArg consumed hf :)
    have hprogress : (e.respond r).2.progress = e.progress := (congrArg progress hf :)
    have hlimits : (e.respond r).2.limits = e.limits := (congrArg limits hf :)
    refine ⟨fun hn => ?_, ?_, fun hs => ?_⟩
    · rw [hhalted, hh] at hn
      cases hn
    · rw [hconsumed, hprogress]
      exact h.section_le
    · rw [hconsumed, hlimits]
      rw [hhalted] at hs
      exact h.within hs
  | none =>
    cases hc : r.call? with
    | none =>
      have hraw : r.raw = 0 := by rw [Request.raw, hc]
      obtain ⟨banned, hb⟩ := respond_aside e hc
      rw [hb, hraw]
      exact h.of_le hh rfl (Nat.le_refl _) rfl
    | some call =>
      rw [respond_call e hc]
      cases call with
      | feed line raw =>
        have hraw : r.raw = raw := by rw [Request.raw, hc]
        rw [hraw] at hmax ⊢
        exact counted_feed h hh line hmax
      | finish =>
        have hraw : r.raw = 0 := by rw [Request.raw, hc]
        rw [hraw]
        exact counted_finish h hh
      | take =>
        have hraw : r.raw = 0 := by rw [Request.raw, hc]
        rw [hraw]
        exact h.of_le hh rfl (Nat.le_refl _) rfl

theorem counted_served (h : Counted e n) {requests : List Request}
    (hmax : n + rawFed requests ≤ maxCount) :
    Counted (e.served requests) (n + rawFed requests) := by
  induction requests generalizing e n with
  | nil => exact h
  | cons r requests ih =>
    rw [rawFed, ← Nat.add_assoc] at hmax ⊢
    exact ih (counted_respond h (by omega)) hmax

/-! ## The limit -/

/-- The engine after a line of `raw` bytes that is too much: the line has been counted. -/
def overrun (e : Engine) (raw total : Nat) : Engine :=
  { e with
    consumed := total
    progress := { e.progress with
      consumed := e.progress.consumed + raw, lines := e.progress.lines + 1 }
    halted := some (.overflow total e.limits.maxLogBytes .logBytes) }

/-- **A line that is too much is counted, and nothing else is done with it.** -/
theorem respond_over (h : Counted e n) (hh : e.halted = none) (hmax : n + r.raw ≤ maxCount)
    (ho : e.limits.maxLogBytes < n + r.raw) : e.respond r =
      (some (.overflow (n + r.raw) e.limits.maxLogBytes .logBytes),
        e.overrun r.raw (n + r.raw)) := by
  have hle : n ≤ e.limits.maxLogBytes := by
    rw [← h.consumed_eq hh]
    exact h.within fun status hs => by rw [hh] at hs; cases hs
  cases hc : r.call? with
  | none =>
    have hraw : r.raw = 0 := by rw [Request.raw, hc]
    omega
  | some call =>
    cases call with
    | feed line raw =>
      have hraw : r.raw = raw := by rw [Request.raw, hc]
      rw [hraw] at hmax ho ⊢
      have hconsumed : (e.count raw).consumed = n + raw := by
        rw [← h.consumed_eq hh] at hmax ⊢
        exact Nat.min_eq_left hmax
      rw [respond_call e hc, answer?, perform, feedCounted_over hh (by rw [hconsumed]; exact ho)]
      rw [hconsumed, overrun, halt, ← hconsumed]
      rfl
    | finish =>
      have hraw : r.raw = 0 := by rw [Request.raw, hc]
      omega
    | take =>
      have hraw : r.raw = 0 := by rw [Request.raw, hc]
      omega

theorem respond_within (h : Counted e n) (hh : e.halted = none)
    (ho : n + r.raw ≤ e.limits.maxLogBytes) :
    ∀ status, (e.respond r).1 = some status → ¬ status.IsOverflow := by
  intro status hs
  cases hc : r.call? with
  | none =>
    obtain ⟨banned, hb⟩ := respond_aside e hc
    rw [hb] at hs
    cases hs
  | some call =>
    rw [respond_call e hc] at hs
    cases call with
    | feed line raw =>
      have hraw : r.raw = raw := by rw [Request.raw, hc]
      rw [hraw, ← h.consumed_eq hh] at ho
      cases hs
      exact (feedCounted_untripped hh line ho).answer
    | finish =>
      cases hs
      exact (finish_untripped hh).answer
    | take => cases hs

/-- **The limit is exceeded exactly by the bytes that were fed**, in all sections together.  As long
as the engine goes on, a line that makes them more than the limit is answered with an overflow that
tells their number, whatever the line holds, and nothing but the counters changes; no other request
is answered so.  Unless the engine has halted with an overflow the bytes are within the limit, and
those of the section at hand are never more than those of the log. -/
theorem limit_enforced (table : PhaseTable) (limits : EngineLimits) (banned : BannedPhrases)
    (resolver : Resolver) {requests : List Request} (hsize : rawFed requests ≤ maxCount) :
    let e := (fresh table limits banned resolver).served requests
    (e.halted = none → ∀ r : Request, rawFed requests + r.raw ≤ maxCount →
      ((∃ status, (e.respond r).1 = some status ∧ status.IsOverflow) ↔
        limits.maxLogBytes < rawFed requests + r.raw) ∧
      (limits.maxLogBytes < rawFed requests + r.raw → e.respond r =
        (some (.overflow (rawFed requests + r.raw) limits.maxLogBytes .logBytes),
          e.overrun r.raw (rawFed requests + r.raw)))) ∧
      ((∀ status, e.halted = some status → ¬ status.IsOverflow) →
        e.consumed ≤ limits.maxLogBytes) ∧
      (e.halted = none → e.consumed = rawFed requests) ∧ e.progress.consumed ≤ e.consumed := by
  intro e
  have hfresh : Counted (fresh table limits banned resolver) 0 :=
    ⟨fun _ => rfl, Nat.le_refl _, fun _ => Nat.zero_le _⟩
  have hcounted : Counted e (rawFed requests) := by
    have hserved := counted_served hfresh (by rw [Nat.zero_add]; exact hsize)
    rwa [Nat.zero_add] at hserved
  have hlimits : e.limits = limits := (setting_served _ requests).2.1
  refine ⟨fun hh r hmax => ?_, ?_, hcounted.consumed_eq, hcounted.section_le⟩
  · have hover := respond_over hcounted hh hmax
    rw [hlimits] at hover
    refine ⟨⟨fun ⟨status, hs, hoverflow⟩ => ?_, fun ho => ?_⟩, hover⟩
    · refine Nat.lt_of_not_le fun hroom => ?_
      rw [← hlimits] at hroom
      exact respond_within hcounted hh hroom status hs hoverflow
    · rw [hover ho]
      exact ⟨_, rfl, trivial⟩
  · rw [← hlimits]
    exact hcounted.within

/-- A session of ten bytes, and a line of the next one that is one byte too long.  It holds the
trigger of the head. -/
theorem limit_of_sessions : ∃ table, TableDefinition.sessions.validate false = .ok table ∧
    let e := (fresh table { maxLogBytes := 12 } {} .unknown).served
      [.feed "begin", .call (.feed "end" 4)]
    e.sections = 1 ∧ e.phase.matchedTrigger "begin" = some "begin" ∧ e.consumed = 10 ∧
      e.respond (.call (.feed "begin" 3))
        = (some (.overflow 13 12 .logBytes), e.overrun 3 13) := by
  have hruns : ∃ table, TableDefinition.sessions.validate false = .ok table ∧
      let e := (fresh table { maxLogBytes := 12 } {} .unknown).served
        [.feed "begin", .call (.feed "end" 4)]
      e.halted = none ∧ e.sections = 1 ∧ e.phase.matchedTrigger "begin" = some "begin" := by
    decide +kernel
  obtain ⟨table, h, hh, hsections, htrigger⟩ := hruns
  have hsum : rawFed [.feed "begin", .call (.feed "end" 4)] = 10 := by decide
  have hsize : rawFed [.feed "begin", .call (.feed "end" 4)] ≤ maxCount := by decide
  obtain ⟨hover, -, hconsumed, -⟩ :=
    limit_enforced table { maxLogBytes := 12 } {} .unknown hsize
  rw [hsum] at hover hconsumed
  exact ⟨table, h, hsections, htrigger, hconsumed hh,
    (hover hh (.call (.feed "begin" 3)) (by decide)).2 (by decide)⟩

end Engine

end LogTriage
