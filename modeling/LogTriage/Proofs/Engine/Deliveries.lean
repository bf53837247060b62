import Mathlib.Data.List.Induction
import LogTriage.Proofs.Engine.Statuses

/-!
# What is taken from an engine

Complete sections may be taken at any time.  None is lost, and none is given out twice: the takings
and what is left after them are all complete sections, in order.  A line ends a section just when
it is answered with a stop.  The end of the log does so in the last phase, but not before the first
line of a section that follows another one.

* `results_eq_received`   what was taken, and what is left, are the results of the run;
* `feedCounted_delivers`  what a line does to the number of sections;
* `idle_iff`              the engine knows whether a line was fed since the last section ended;
* `sections_delivered`    a whole run.
-/

namespace LogTriage

/-- A log of pulses: a line with `end` ends a section. -/
def TableDefinition.pulses : TableDefinition where
  id := "pulses"
  name := "Pulses"
  serialPattern := some "ID (?P<id>[a-z]+)"
  titlePattern := some "NAME (?P<title>[a-z]+)"
  phases := [{ name := "pulse", triggers := ["end"], onTrigger := .rearm }]

namespace Engine

def received (e : Engine) : List Request → List (List Analysis)
  | [] => []
  | .call .take :: requests => e.takeCompleted.1 :: e.takeCompleted.2.received requests
  | r :: requests => (e.respond r).2.received requests

/-- A section has been completed, and no line was fed since. -/
def Idle (e : Engine) (requests : List Request) : Prop :=
  ∃ before r after, requests = before ++ r :: after ∧
    (e.served before).sections < (e.served (before ++ [r])).sections ∧ ∀ r' ∈ after, r'.line? = none

variable {e e' : Engine} {status : Status} {requests : List Request}

/-! ## Takings -/

/-- **What was taken, and what is left**, are the results of the run. -/
theorem results_eq_received (e : Engine) (requests : List Request) : e.results requests
    = (e.received requests).flatten ++ (e.served requests).takeCompleted.1 := by
  induction requests generalizing e with
  | nil => rfl
  | cons r requests ih =>
    rw [results, served_cons, ih]
    rcases r with (⟨line, raw⟩ | _ | _) | line | _ | banned
    · rfl
    · rfl
    · exact (List.append_assoc _ _ _).symm
    · rfl
    · rfl
    · rfl

theorem complete_of_mem_results (h : ∀ a ∈ e.completed, a.complete = true) {a : Analysis}
    (ha : a ∈ e.results requests) : a.complete = true := by
  induction requests generalizing e with
  | nil => exact h a ha
  | cons r requests ih =>
    rw [results] at ha
    cases hc : r.call? with
    | none =>
      obtain ⟨banned, hb⟩ := respond_aside e hc
      rw [hc, hb] at ha
      exact ih (e := { e with banned }) h ha
    | some call =>
      obtain ⟨new, hadds⟩ := perform_adds e call
      have hcompleted : e.taken call ++ (e.perform call).completed = e.completed ++ new :=
        hadds.completed_eq
      have hall : ∀ a ∈ e.taken call ++ (e.perform call).completed, a.complete = true := by
        intro a ha
        rw [hcompleted] at ha
        exact (List.mem_append.mp ha).elim (h a) (hadds.complete_eq a)
      rw [hc, respond_call e hc] at ha
      rcases List.mem_append.mp ha with ha | ha
      · exact hall a (List.mem_append_left _ ha)
      · exact ih (fun a ha => hall a (List.mem_append_right _ ha)) ha

/-! ## Sections -/

/-- A stop completes a section, and nothing else does; the section after it has no lines yet. -/
structure Delivers (e : Engine) (out : Status × Engine) : Prop where
  sections_eq : out.2.sections = e.sections + if out.1 = .stop then 1 else 0
  lines : 0 < e.progress.lines → out.2.halted = none →
    (out.2.progress.lines = 0 ↔ out.1 = .stop)

theorem halt_delivers (h : e'.sections = e.sections) (hs : status ≠ .stop) :
    Delivers e (e'.halt status) where
  sections_eq := by
    rw [halt, if_neg hs]
    exact h
  lines := nofun

theorem finalize_delivers (h : Placed e) (trigger : Option String) :
    Delivers e (e.finalize trigger) := by
  rcases finalize_usable h trigger with he | ⟨hit, e', hb, he⟩ | ⟨e', hb, he⟩
  · rw [he]
    exact halt_delivers rfl nofun
  · have hsections : e'.sections = e.sections := sections_of_bare hb
    rw [he]
    exact halt_delivers hsections nofun
  · have hsections : e'.sections = e.sections := sections_of_bare hb
    have hlines : e'.progress.lines = e.progress.lines := (congrArg (·.progress.lines) hb :)
    rcases he with ⟨-, he⟩ | ⟨-, -, -, he⟩ | ⟨-, he⟩
    · rw [he]
      refine ⟨hsections, fun hpos _ => ⟨fun hz => ?_, nofun⟩⟩
      have hz : e'.progress.lines = 0 := hz
      omega
    · rw [he]
      exact ⟨congrArg (· + 1) hsections, fun _ _ => ⟨fun _ => rfl, fun _ => rfl⟩⟩
    · rw [he]
      exact ⟨congrArg (· + 1) hsections, nofun⟩

theorem bufferLine_delivers (e : Engine) (line : String) : Delivers e (e.bufferLine line) := by
  rcases bufferLine_cases e line with ⟨hit, e', w, hb, he⟩ | ⟨e', gone, w, hb, -, -, he⟩
  · have hsections : e'.sections = e.sections := (sections_of_bare hb :)
    rw [he]
    exact halt_delivers hsections nofun
  · have hsections : e'.sections = e.sections := (sections_of_bare hb :)
    have hlines : e'.progress.lines = e.progress.lines := (congrArg (·.progress.lines) hb :)
    rw [he]
    refine ⟨hsections, fun hpos _ => ⟨fun hz => ?_, nofun⟩⟩
    have hz : e'.progress.lines = 0 := hz
    omega

theorem feedCounted_delivers (h : Placed e) (hh : e.halted = none) (line : String) (raw : Nat) :
    Delivers (e.count raw) (e.feedCounted line raw) := by
  rcases feedCounted_cases e line raw with
    ⟨status, hs, -⟩ | ⟨-, -, he⟩ | ⟨trigger, -, -, -, he⟩ | ⟨-, -, -, he⟩
  · rw [hh] at hs
    cases hs
  · rw [he]
    exact halt_delivers rfl nofun
  · have hplaced : Placed (e.count raw) := h.of_eq rfl rfl
    rw [he]
    exact finalize_delivers hplaced (some trigger)
  · rw [he]
    exact bufferLine_delivers (e.count raw) line

theorem finish_sections (h : Placed e) (hh : e.halted = none) : e.finish.2.sections = e.sections
    + if e.finish.1 = .stop ∧ e.table.isLast e.progress.phaseIndex = true ∧
        ¬ (0 < e.sections ∧ e.progress.lines = 0) then 1 else 0 := by
  have hcond : (e.table.isLast e.progress.phaseIndex
        && !(decide (0 < e.sections) && e.progress.lines == 0)) = true
      ↔ e.table.isLast e.progress.phaseIndex = true ∧ ¬ (0 < e.sections ∧ e.progress.lines = 0) := by
    simp only [Bool.and_eq_true, Bool.not_eq_true', ← Bool.not_eq_true, decide_eq_true_eq,
      beq_iff_eq]
  by_cases hends : e.table.isLast e.progress.phaseIndex = true ∧
      ¬ (0 < e.sections ∧ e.progress.lines = 0)
  · have hfinish : e.finish = e.finalize none := by
      rw [finish, hh]
      exact if_pos (hcond.mpr hends)
    simp only [hends, hfinish, and_true, not_false_eq_true]
    exact (finalize_delivers h none).sections_eq
  · have hhalt : ∃ status, e.finish = e.halt status := by
      rw [finish, hh]
      dsimp only
      rw [if_neg fun hc => hends (hcond.mp hc)]
      split <;> exact ⟨_, rfl⟩
    obtain ⟨status, hhalt⟩ := hhalt
    rw [if_neg fun hc => hends hc.2, hhalt]
    rfl

/-! ## Runs -/

theorem served_concat (e : Engine) (requests : List Request) (r : Request) :
    e.served (requests ++ [r]) = ((e.served requests).respond r).2 :=
  served_append e requests [r]

theorem going_of_served_concat {r : Request} (h : (e.served (requests ++ [r])).halted = none) :
    (e.served requests).halted = none := by
  cases hh : (e.served requests).halted with
  | none => rfl
  | some status =>
    rw [served_concat, (respond_halted hh r).1.halted_eq, hh] at h
    cases h

theorem respond_lineless (h : Sound e) {r : Request} (hl : r.line? = none)
    (hh : (e.respond r).2.halted = none) :
    (e.respond r).2.sections = e.sections ∧ (e.respond r).2.progress = e.progress := by
  cases hs : (e.respond r).1 with
  | some status =>
    have ho := respond_outcome h hs
    rw [hl] at ho
    exact absurd hh ho.ended.1
  | none =>
    refine ⟨?_, (respond_silent hs).1⟩
    cases hc : r.call? with
    | none =>
      obtain ⟨banned, hb⟩ := respond_aside e hc
      rw [hb]
    | some call =>
      rw [respond_call e hc] at hs ⊢
      cases call with
      | feed line raw => cases hs
      | finish => cases hs
      | take => rfl

theorem respond_line (h : Sound e) (hgoing : e.halted = none) {r : Request} (hl : r.line? ≠ none)
    (hh : (e.respond r).2.halted = none) :
    e.sections < (e.respond r).2.sections ↔ (e.respond r).2.progress.lines = 0 := by
  obtain ⟨line, hline⟩ := Option.ne_none_iff_exists'.mp hl
  rw [Request.line?] at hline
  cases hc : r.call? with
  | none =>
    rw [hc] at hline
    cases hline
  | some call =>
    rw [hc] at hline
    cases call with
    | finish => cases hline
    | take => cases hline
    | feed line' raw =>
      rw [respond_call e hc] at hh ⊢
      have hdelivers := feedCounted_delivers h.placed hgoing line' raw
      have hlines := hdelivers.lines (Nat.succ_pos _) hh
      have hsections : (e.feedCounted line' raw).2.sections
          = e.sections + if (e.feedCounted line' raw).1 = .stop then 1 else 0 :=
        hdelivers.sections_eq
      show e.sections < (e.feedCounted line' raw).2.sections
        ↔ (e.feedCounted line' raw).2.progress.lines = 0
      rw [hlines, hsections]
      by_cases hstop : (e.feedCounted line' raw).1 = .stop
      · rw [if_pos hstop]
        exact iff_of_true (Nat.lt_succ_self _) hstop
      · rw [if_neg hstop]
        exact iff_of_false (Nat.lt_irrefl _) hstop

theorem idle_nil (e : Engine) : ¬ e.Idle [] := by
  rintro ⟨before, r, after, h, -⟩
  simp at h

theorem split_concat {r r' : Request} {before after : List Request}
    (h : requests ++ [r] = before ++ r' :: after) :
    before = requests ∧ r' = r ∧ after = [] ∨
      ∃ rest, requests = before ++ r' :: rest ∧ after = rest ++ [r] := by
  rcases List.eq_nil_or_concat after with rfl | ⟨after, last, rfl⟩
  · obtain ⟨rfl, hlast⟩ := List.append_inj' h rfl
    cases hlast
    exact .inl ⟨rfl, rfl, rfl⟩
  · rw [List.concat_eq_append, ← List.cons_append, ← List.append_assoc] at h
    obtain ⟨rfl, hlast⟩ := List.append_inj' h rfl
    cases hlast
    exact .inr ⟨after, rfl, List.concat_eq_append⟩

theorem idle_concat (e : Engine) (requests : List Request) (r : Request) :
    e.Idle (requests ++ [r]) ↔
      (e.served requests).sections < (e.served (requests ++ [r])).sections ∨
        r.line? = none ∧ e.Idle requests := by
  constructor
  · rintro ⟨before, r', after, hsplit, hgrown, hafter⟩
    rcases split_concat hsplit with ⟨rfl, rfl, -⟩ | ⟨rest, rfl, rfl⟩
    · exact .inl hgrown
    · rw [List.forall_mem_append] at hafter
      exact .inr ⟨hafter.2 r (List.mem_singleton_self r), before, r', rest, rfl, hgrown, hafter.1⟩
  · rintro (hgrown | ⟨hline, before, r', after, rfl, hgrown, hafter⟩)
    · exact ⟨requests, r, [], rfl, hgrown, nofun⟩
    · refine ⟨before, r', after ++ [r], by simp, hgrown, ?_⟩
      rw [List.forall_mem_append]
      refine ⟨hafter, fun r'' hr => ?_⟩
      rw [List.mem_singleton.mp hr, hline]

/-- **An engine that goes on knows whether a line was fed since the last section ended.** -/
theorem idle_iff (h : Sound e) (hs : e.sections = 0) (hh : (e.served requests).halted = none) :
    e.Idle requests ↔
      0 < (e.served requests).sections ∧ (e.served requests).progress.lines = 0 := by
  -- on the requests, from the last one: what it does is told by the engine before it
  induction requests using List.reverseRecOn with
  | nil =>
    have hzero : ¬ 0 < (e.served []).sections := Nat.not_lt.mpr (Nat.le_of_eq hs)
    exact ⟨fun hidle => absurd hidle (idle_nil e), fun hpos => absurd hpos.1 hzero⟩
  | append_singleton requests r ih =>
    have hgoing := going_of_served_concat hh
    have hsound := sound_served h requests
    rw [served_concat] at hh
    rw [idle_concat, served_concat]
    by_cases hl : r.line? = none
    · obtain ⟨hsections, hprogress⟩ := respond_lineless hsound hl hh
      rw [hsections, hprogress, ← ih hgoing]
      simp [hl]
    · have hgrown := respond_line hsound hgoing hl hh
      simp only [hl, false_and, or_false, hgrown]
      constructor
      · intro hz
        exact ⟨Nat.lt_of_le_of_lt (Nat.zero_le _) (hgrown.mpr hz), hz⟩
      · exact fun hz => hz.2

/-- **No section is lost or delivered twice** by the takings, one more of them included, and the
section at hand is none of theirs. A line adds a section if it stops the engine, and the end of the
log if it stops in the last phase of a section that has had a line. -/
theorem sections_delivered {d : TableDefinition} {builtin : Bool} {table : PhaseTable}
    (h : d.validate builtin = .ok table) (limits : EngineLimits) (banned : BannedPhrases)
    (resolver : Resolver) (requests : List Request) :
    let e := fresh table limits banned resolver
    let now := e.served requests
    ((e.received requests).flatten ++ now.takeCompleted.1).map (·.index) = List.range now.sections ∧
    (∀ a ∈ (e.received requests).flatten ++ now.takeCompleted.1, a.complete = true) ∧
    now.partialAnalysis.index = now.sections ∧ now.partialAnalysis.complete = false ∧
    (now.halted = none →
      (∀ line raw, (now.feedCounted line raw).2.sections
        = now.sections + if (now.feedCounted line raw).1 = .stop then 1 else 0) ∧
      (now.finish.2.sections = now.sections ∨ now.finish.2.sections = now.sections + 1) ∧
      (now.finish.2.sections = now.sections + 1 ↔ now.finish.1 = .stop ∧
        table.isLast now.progress.phaseIndex = true ∧ ¬ e.Idle requests)) := by
  intro e now
  have husable := TableDefinition.usable_of_validate h
  have hfresh : Sound e := sound_fresh husable limits banned resolver
  have hsound : Sound now := sound_served hfresh requests
  have htable : now.table = table := (setting_served e requests).1
  have hnone : ∀ a ∈ e.completed, a.complete = true := fun a ha => absurd ha List.not_mem_nil
  rw [← results_eq_received]
  refine ⟨?_, fun a ha => complete_of_mem_results hnone ha, rfl, rfl, fun hh => ⟨?_, ?_⟩⟩
  · obtain ⟨new, hresults, hsections, hindex⟩ := results_eq e requests
    have hnew : now.sections = new.length := hsections.trans (Nat.zero_add _)
    have hzero : e.sections = 0 := rfl
    rw [hresults, hnew, List.range_eq_range', ← hzero, ← hindex]
    rfl
  · exact fun line raw => (feedCounted_delivers hsound.placed hh line raw).sections_eq
  · have hidle : e.Idle requests ↔ 0 < now.sections ∧ now.progress.lines = 0 :=
      idle_iff hfresh rfl hh
    rw [finish_sections hsound.placed hh, htable, hidle]
    split
    · rename_i hends
      exact ⟨.inr rfl, fun _ => hends, fun _ => rfl⟩
    · rename_i hends
      exact ⟨.inl rfl, fun hs => absurd hs (Nat.ne_of_lt (Nat.lt_succ_self _)),
        fun hc => absurd hc hends⟩

/-- Two sections, one of them taken; the log ends right after the second one. -/
theorem delivered_of_pulses : ∃ table, TableDefinition.pulses.validate false = .ok table ∧
    let e := fresh table {} {} .unknown
    let requests := [.feed "end", .call .take, .feed "", .feed "end"]
    let now := e.served requests
    ((e.received requests).flatten ++ now.takeCompleted.1).map (·.index) = [0, 1] ∧
      now.halted = none ∧ e.Idle requests ∧ now.finish.2.sections = 2 := by
  have hrun : ∃ table, TableDefinition.pulses.validate false = .ok table ∧
      let e := fresh table {} {} .unknown
      let before := [.feed "end", .call .take, .feed ""]
      (e.served before).sections = 1 ∧ (e.served (before ++ [.feed "end"])).sections = 2 ∧
        (e.served (before ++ [.feed "end"])).halted = none := by decide +kernel
  obtain ⟨table, h, hbefore, hafter, hh⟩ := hrun
  obtain ⟨hindex, -, -, -, hnext⟩ := sections_delivered h {} {} .unknown
    [.feed "end", .call .take, .feed "", .feed "end"]
  obtain ⟨-, hfinish, hends⟩ := hnext hh
  have hidle : (fresh table {} {} .unknown).Idle
      [.feed "end", .call .take, .feed "", .feed "end"] :=
    ⟨[.feed "end", .call .take, .feed ""], .feed "end", [], rfl,
      Nat.lt_of_lt_of_eq (Nat.lt_of_le_of_lt (Nat.le_of_eq hbefore) Nat.one_lt_two) hafter.symm,
      nofun⟩
  have hstays := hfinish.resolve_right fun hs => (hends.mp hs).2.2 hidle
  refine ⟨table, h, hindex.trans (congrArg List.range hafter), hh, hidle, hstays.trans hafter⟩

end Engine

end LogTriage
