import LogTriage.Proofs.Engine.Screening
import LogTriage.Proofs.Phase.Validation

/-!
# What a stop says of the lines

When a log ends with a stop, its lines have been looked at: those of complete sections, and those of
a section that the end of the log completes.  A section that the log leaves in a phase before the
last one is given up as it is.  Its lines have been looked at too, up to those that still wait in
the window of this phase.

A line is fed to the section at hand.  `Entered` follows this section to the end: it is complete, or
it goes on with a line at least and has not been stopped.

* `entered_run`          a section that a line was fed to stays entered;
* `finish_stop`          how the end of the log can lead to a stop;
* `clean_of_stop`        the lines of a log that ends with a stop are clean;
* `stop_unlooked`        but not those that wait where a section was given up.
-/

namespace LogTriage.Engine
variable {e e' : Engine} {k : Nat} {call : Call} {calls : List Call}

/-! ## Sections that a line was fed to -/

/-- Section `k` is complete, or it is the section at hand, with a line, and not stopped. -/
inductive Entered (k : Nat) (e : Engine) : Prop where
  | complete (h : k < e.sections)
  | atHand (hs : e.sections = k) (hl : 0 < e.progress.lines) (hstop : e.halted ≠ some .stop)

theorem Entered.lt_of_stop (h : Entered k e) (hh : e.halted = some .stop) : k < e.sections := by
  cases h with
  | complete h => exact h
  | atHand hs hl hstop => exact absurd hh hstop

theorem Entered.lt_of_no_lines (h : Entered k e) (hl : e.progress.lines = 0) : k < e.sections := by
  cases h with
  | complete h => exact h
  | atHand hs hl' hstop => omega

theorem entered_bufferLine (hh : e.halted = none) (hl : 0 < e.progress.lines) (line : String) :
    Entered e.sections (e.bufferLine line).2 := by
  rcases bufferLine_cases e line with ⟨hit, e₁, w, hb, he⟩ | ⟨e₁, gone, w, hb, -, -, he⟩
  · have hs : e₁.sections = e.sections := (sections_of_bare hb :)
    have hlines : e₁.progress.lines = e.progress.lines := (congrArg (·.progress.lines) hb :)
    rw [he]
    exact .atHand hs (hlines ▸ hl) nofun
  · have hs : e₁.sections = e.sections := (sections_of_bare hb :)
    have hlines : e₁.progress.lines = e.progress.lines := (congrArg (·.progress.lines) hb :)
    have hh₁ : e₁.halted = none := (halted_of_bare hb :).trans hh
    rw [he]
    refine .atHand hs (hlines ▸ hl) ?_
    show e₁.halted ≠ some .stop
    rw [hh₁]
    nofun

theorem entered_finalize (hh : e.halted = none) (hl : 0 < e.progress.lines)
    (trigger : Option String) : Entered e.sections (e.finalize trigger).2 := by
  rcases finalize_cases e trigger with he | ⟨hit, e₁, hb, he⟩ | ⟨e₁, hb, -, he⟩
  · rw [he]
    exact .atHand rfl hl nofun
  · have hlines : e₁.progress.lines = e.progress.lines := (congrArg (·.progress.lines) hb :)
    rw [he]
    exact .atHand (sections_of_bare hb :) (hlines ▸ hl) nofun
  have hs : e₁.sections = e.sections := sections_of_bare hb
  have hlines : e₁.progress.lines = e.progress.lines := (congrArg (·.progress.lines) hb :)
  have hh₁ : e₁.halted = none := (halted_of_bare hb).trans hh
  rw [he, ← hs]
  rcases complete_cases e₁ trigger with hc | hc | hc
  · rw [hc]
    refine .atHand rfl (hlines ▸ hl) ?_
    show e₁.halted ≠ some .stop
    rw [hh₁]
    nofun
  · rw [hc]
    exact .complete (Nat.lt_succ_self _)
  · rw [hc]
    exact .complete (Nat.lt_succ_self _)

theorem entered_feed (hh : e.halted = none) (line : String) (raw : Nat) :
    Entered e.sections (e.perform (.feed line raw)) := by
  have hl : 0 < (e.count raw).progress.lines := Nat.succ_pos _
  show Entered (e.count raw).sections (e.feedCounted line raw).2
  rcases feedCounted_cases e line raw with
    ⟨status, hs, -⟩ | ⟨-, -, he⟩ | ⟨trigger, -, -, -, he⟩ | ⟨-, -, -, he⟩
  · rw [hh] at hs
    cases hs
  · rw [he]
    exact .atHand rfl hl nofun
  · rw [he]
    exact entered_finalize (by exact hh) hl (some trigger)
  · rw [he]
    exact entered_bufferLine (by exact hh) hl line

theorem entered_perform (h : Entered k e) (hcall : call ≠ .finish) :
    Entered k (e.perform call) := by
  cases h with
  | complete h =>
    obtain ⟨new, hadds⟩ := perform_adds e call
    have hs : (e.perform call).sections = e.sections + new.length := hadds.sections_eq
    exact .complete (by omega)
  | atHand hs hl hstop =>
    cases call with
    | finish => exact absurd rfl hcall
    | take => exact .atHand hs hl hstop
    | feed line raw =>
      cases hh : e.halted with
      | none =>
        rw [← hs]
        exact entered_feed hh line raw
      | some status =>
        rw [perform, feedCounted_halted hh]
        exact .atHand hs hl hstop

/-- **A section that a line was fed to stays entered.** -/
theorem entered_run (h : Entered k e) (hcalls : .finish ∉ calls) : Entered k (e.run calls) := by
  induction calls generalizing e with
  | nil => exact h
  | cons call calls ih =>
    have hcall : call ≠ .finish := by
      rintro rfl
      exact hcalls List.mem_cons_self
    have hrest : .finish ∉ calls := fun hmem => hcalls (List.mem_cons_of_mem _ hmem)
    exact ih (entered_perform h hcall) hrest

/-! ## The end of the log -/

/-- The log leaves the section at hand in a phase before the last one, after a complete section. -/
structure CutOff (e : Engine) : Prop where
  going : e.halted = none
  sections_pos : 0 < e.sections
  not_last : e.table.isLast e.progress.phaseIndex = false

/-- **How the end of the log can lead to a stop**: the engine has halted with one, the section at
hand is completed, there is no line in it, or it is cut off. -/
theorem finish_stop (h : e.finish.1 = .stop) :
    e.halted = some .stop ∨ e.finish.2.sections = e.sections + 1 ∨
      e.progress.lines = 0 ∨ CutOff e := by
  cases hh : e.halted with
  | some status =>
    rw [finish_halted hh] at h
    exact .inl (congrArg some h)
  | none =>
    rw [finish, hh] at h ⊢
    dsimp only at h ⊢
    split at h
    · rename_i hlast
      rw [if_pos hlast]
      rcases finalize_cases e none with he | ⟨hit, e₁, -, he⟩ | ⟨e₁, hb, -, he⟩
      · rw [he] at h
        cases h
      · rw [he] at h
        cases h
      have hs : e₁.sections = e.sections := sections_of_bare hb
      rw [he] at h ⊢
      rcases complete_cases e₁ none with hc | hc | hc
      · rw [hc] at h
        cases h
      · rw [hc, ← hs]
        exact .inr (.inl rfl)
      · rw [hc, ← hs]
        exact .inr (.inl rfl)
    · rename_i hlast
      split at h
      · rename_i hpos
        cases hl : e.table.isLast e.progress.phaseIndex with
        | false => exact .inr (.inr (.inr ⟨hh, hpos, hl⟩))
        | true =>
          have hfresh : e.progress.lines = 0 := by simpa [hl, hpos] using hlast
          exact .inr (.inr (.inl hfresh))
      · cases h

/-! ## Lines -/

theorem history_append (e : Engine) (calls more : List Call) :
    e.history (calls ++ more) = e.history calls ++ (e.run calls).history more := by
  induction calls generalizing e with
  | nil => rfl
  | cons call calls ih =>
    rw [List.cons_append, history, history, run_cons, ih, List.append_assoc]

section split
variable {before after : List Call} {line : String} {raw : Nat}

theorem mem_history (hsplit : calls = before ++ .feed line raw :: after) :
    ⟨(e.run before).sections, (e.run before).phase, line,
      ((e.run before).phase.matchedTrigger line).isSome⟩ ∈ e.history calls := by
  rw [hsplit, history_append]
  exact List.mem_append_right _ (List.mem_append_left _ (List.mem_singleton_self _))

theorem entered_of_split (hsplit : calls = before ++ .feed line raw :: after)
    (hcalls : .finish ∉ calls) (hgoing : (e.run before).halted = none) :
    Entered (e.run before).sections (e.run calls) := by
  have hrest : .finish ∉ after := by
    intro hmem
    rw [hsplit] at hcalls
    exact hcalls (List.mem_append_right _ (List.mem_cons_of_mem _ hmem))
  have hrun : e.run calls = ((e.run before).perform (.feed line raw)).run after := by
    rw [hsplit, run, List.foldl_append]
    rfl
  rw [hrun]
  exact entered_run (entered_feed hgoing line raw) hrest

end split

theorem Screened.clean_of_finish {records : List Record} (h : Screened e records)
    (hs : e.finish.2.sections = e.sections + 1) : ∀ r ∈ records, r.Clean e.banned := by
  intro r hr
  have hfinished := screened_perform h .finish
  rw [record, List.append_nil] at hfinished
  have hlt : r.sectionIndex < (e.perform .finish).sections := by
    have hle := h.section_le r hr
    have hs : (e.perform .finish).sections = e.sections + 1 := hs
    omega
  obtain ⟨new, hadds⟩ := perform_adds e .finish
  have hbanned : (e.perform .finish).banned = e.banned := hadds.banned_eq
  rw [← hbanned]
  exact hfinished.clean r hr hlt

/-- **The lines of a log that ends with a stop are clean.**  Lines are fed to a fresh engine, and
sections may be taken, before the log ends.  A line that came while the engine went on, in a phase
that looks for banned phrases, and that has no trigger of this phase, holds no banned phrase; or the
log cuts the section at hand off, and the line waits in the window of the phase that was left. -/
theorem clean_of_stop (table : PhaseTable) (limits : EngineLimits) (banned : BannedPhrases)
    (resolver : Resolver) {calls : List Call} (hcalls : .finish ∉ calls) :
    let start := fresh table limits banned resolver
    let e := start.run calls
    e.finish.1 = .stop → ∀ before line raw after, calls = before ++ .feed line raw :: after →
      (start.run before).halted = none → (start.run before).Screens →
      (start.run before).phase.matchedTrigger line = none →
      banned.Clean line ∨
        CutOff e ∧ (start.run before).sections = e.sections ∧
          (start.run before).phase = e.phase ∧ line ∈ e.progress.window.lines := by
  intro start e hstop before line raw after hsplit hgoing hscreens htrigger
  have hrecord := mem_history (e := start) hsplit
  rw [htrigger] at hrecord
  have hscreened : Screened e (start.history calls) := screened_run (screened_nil start) calls
  have hentered : Entered (start.run before).sections e := entered_of_split hsplit hcalls hgoing
  have hbanned : e.banned = banned := banned_run start calls
  have hcomplete (hlt : (start.run before).sections < e.sections) : banned.Clean line := by
    rw [← hbanned]
    exact hscreened.clean _ hrecord hlt hscreens rfl
  rcases finish_stop hstop with hh | hs | hl | hcut
  · exact .inl (hcomplete (hentered.lt_of_stop hh))
  · rw [← hbanned]
    exact .inl (hscreened.clean_of_finish hs _ hrecord hscreens rfl)
  · exact .inl (hcomplete (hentered.lt_of_no_lines hl))
  · rcases Nat.lt_or_eq_of_le (hscreened.section_le _ hrecord) with hlt | heq
    · exact .inl (hcomplete hlt)
    · rcases hscreened.waiting hcut.going _ hrecord heq with hc | ⟨hphase, hwindow⟩
      · rw [← hbanned]
        exact .inl (hc hscreens rfl)
      · exact .inr ⟨hcut, heq, hphase, hwindow⟩

def cutHead : List Call := [.feed "a" 2, .feed "begin" 6, .feed "end" 4, .feed "some warez" 11]

/-- The lines of the session are clean. -/
theorem clean_cutHead : ∃ table, TableDefinition.sessions.validate false = .ok table ∧
    ((fresh table {} (.ofList ["warez"]) .unknown).run cutHead).finish.1 = .stop ∧
    (BannedPhrases.ofList ["warez"]).Clean "a" := by
  have hrun : ∃ table, TableDefinition.sessions.validate false = .ok table ∧
      (.bannedContent ∈ (fresh table {} (.ofList ["warez"]) .unknown).phase.handlers ∧
      (fresh table {} (.ofList ["warez"]) .unknown).phase.matchedTrigger "a" = none ∧
      ((fresh table {} (.ofList ["warez"]) .unknown).run cutHead).finish.1 = .stop) ∧
      ((fresh table {} (.ofList ["warez"]) .unknown).run cutHead).sections = 1 := by
    decide +kernel
  obtain ⟨table, htable, ⟨hscreens, htrigger, hstop⟩, hsections⟩ := hrun
  refine ⟨table, htable, hstop, ?_⟩
  rcases clean_of_stop table {} (.ofList ["warez"]) .unknown (by decide) hstop [] "a" 2 _ rfl rfl
    hscreens htrigger with hclean | ⟨-, hs, -⟩
  · exact hclean
  · rw [hsections] at hs
    cases hs

/-- **The line that the log leaves in the head has not been looked at**: it holds a banned phrase,
and the log ends with a stop. -/
theorem stop_unlooked : ∃ table, TableDefinition.sessions.validate false = .ok table ∧
    let start := fresh table {} (.ofList ["warez"]) .unknown
    let before : List Call := [.feed "a" 2, .feed "begin" 6, .feed "end" 4]
    (start.run (before ++ [.feed "some warez" 11])).finish.1 = .stop ∧
      (start.run before).halted = none ∧ (start.run before).Screens ∧
      (start.run before).phase.matchedTrigger "some warez" = none ∧
      ¬ (BannedPhrases.ofList ["warez"]).Clean "some warez" := by
  have hrun : ∃ table, TableDefinition.sessions.validate false = .ok table ∧
      let start := fresh table {} (.ofList ["warez"]) .unknown
      let before : List Call := [.feed "a" 2, .feed "begin" 6, .feed "end" 4]
      (start.run (before ++ [.feed "some warez" 11])).finish.1 = .stop ∧
        (start.run before).halted = none ∧
        .bannedContent ∈ (start.run before).phase.handlers ∧
        (start.run before).phase.matchedTrigger "some warez" = none := by
    decide +kernel
  obtain ⟨table, htable, hstop, hgoing, hscreens, htrigger⟩ := hrun
  refine ⟨table, htable, hstop, hgoing, hscreens, htrigger, fun hclean => ?_⟩
  exact hclean "warez" (by decide) (by decide +kernel)

end LogTriage.Engine
