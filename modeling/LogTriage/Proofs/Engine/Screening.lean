import LogTriage.Proofs.Engine.Calls

/-!
# Complete sections are clean

A section that is complete holds no banned phrase: every line that was fed while a phase that looks
for banned phrases was active has been looked at, whether it left the window or was there when the
phase ended.  Only the lines with the triggers that end the phases are not looked at.

The history of a run remembers the lines that were fed.  `Screened` is the invariant: a line of the
section at hand is clean already, or it waits in the window of the phase that it was fed to.

* `screened_perform`  every call keeps the invariant;
* `sections_clean`    so complete sections are clean.
-/

namespace LogTriage.Engine

structure Record where
  /-- The section that it was fed to. -/
  sectionIndex : Nat
  /-- The phase that was active. -/
  phase : Phase
  line : String
  /-- The line has a trigger of the phase. -/
  trigger : Bool

/-- The line, if it was to be looked at, holds no banned phrase. -/
def Record.Clean (r : Record) (banned : BannedPhrases) : Prop :=
  .bannedContent ∈ r.phase.handlers → r.trigger = false → banned.Clean r.line

def record (e : Engine) : Call → List Record
  | .feed line _ => [⟨e.sections, e.phase, line, (e.phase.matchedTrigger line).isSome⟩]
  | .finish => []
  | .take => []

def history (e : Engine) : List Call → List Record
  | [] => []
  | call :: calls => e.record call ++ (e.perform call).history calls

/-- The lines of complete sections are clean, those of the section at hand are clean or wait in
the window. -/
structure Screened (e : Engine) (records : List Record) : Prop where
  section_le : ∀ r ∈ records, r.sectionIndex ≤ e.sections
  clean : ∀ r ∈ records, r.sectionIndex < e.sections → r.Clean e.banned
  waiting : e.halted = none → ∀ r ∈ records, r.sectionIndex = e.sections →
    r.Clean e.banned ∨ r.phase = e.phase ∧ r.line ∈ e.progress.window.lines

variable {e e' : Engine} {records : List Record}

theorem screened_nil (e : Engine) : Screened e [] where
  section_le := fun _ h => by cases h
  clean := fun _ h => by cases h
  waiting := fun _ _ h => by cases h

namespace Screened

theorem of_bare (h : Screened e records) (hb : e'.bare = e.bare) : Screened e' records where
  section_le := by rw [sections_of_bare hb]; exact h.section_le
  clean := by rw [sections_of_bare hb, banned_of_bare hb]; exact h.clean
  waiting := by
    rw [halted_of_bare hb, sections_of_bare hb, banned_of_bare hb, phase_of_bare hb,
      window_of_bare hb]
    exact h.waiting

theorem of_halted (h : Screened e records) (hs : e'.sections = e.sections)
    (hb : e'.banned = e.banned) (hh : e'.isHalted = true) : Screened e' records where
  section_le := by rw [hs]; exact h.section_le
  clean := by rw [hs, hb]; exact h.clean
  waiting := fun hn => by
    rw [isHalted, hn] at hh
    cases hh

theorem of_section (h : Screened e records)
    (hc : ∀ r ∈ records, r.sectionIndex = e.sections → r.Clean e.banned)
    (hs : e'.sections = e.sections + 1) (hb : e'.banned = e.banned) : Screened e' records where
  section_le := fun r hr => by
    have hle := h.section_le r hr
    omega
  clean := fun r hr hlt => by
    rw [hb]
    rcases Nat.lt_or_ge r.sectionIndex e.sections with hl | hg
    · exact h.clean r hr hl
    · exact hc r hr (by omega)
  waiting := fun _ r hr he => by
    have hle := h.section_le r hr
    omega

theorem section_le_concat (h : Screened e records) {r : Record} (hr : r.sectionIndex = e.sections) :
    ∀ q ∈ records ++ [r], q.sectionIndex ≤ e.sections := by
  intro q hq
  rcases List.mem_append.mp hq with hq | hq
  · exact h.section_le q hq
  · exact Nat.le_of_eq (by rw [List.mem_singleton.mp hq, hr])

theorem clean_concat (h : Screened e records) {r : Record} (hr : r.sectionIndex = e.sections) :
    ∀ q ∈ records ++ [r], q.sectionIndex < e.sections → q.Clean e.banned := by
  intro q hq hlt
  rcases List.mem_append.mp hq with hq | hq
  · exact h.clean q hq hlt
  · rw [List.mem_singleton.mp hq, hr] at hlt
    exact absurd hlt (Nat.lt_irrefl _)

theorem push_clean (h : Screened e records) {r : Record} (hr : r.sectionIndex = e.sections)
    (hc : r.Clean e.banned) : Screened e (records ++ [r]) where
  section_le := h.section_le_concat hr
  clean := h.clean_concat hr
  waiting := fun hh q hq he => by
    rcases List.mem_append.mp hq with hq | hq
    · exact h.waiting hh q hq he
    · rw [List.mem_singleton.mp hq]
      exact .inl hc

theorem push_halted (h : Screened e records) {r : Record} (hr : r.sectionIndex = e.sections)
    (hh : e.isHalted = true) : Screened e (records ++ [r]) where
  section_le := h.section_le_concat hr
  clean := h.clean_concat hr
  waiting := fun hn => by
    rw [isHalted, hn] at hh
    cases hh

end Screened

/-! ## What the steps keep -/

/-- **A line that comes into the window waits there.** -/
theorem screened_bufferLine (h : Screened e records) (hh : e.halted = none) {r : Record}
    (hr : r.sectionIndex = e.sections) (hp : r.phase = e.phase) :
    Screened (e.bufferLine r.line).2 (records ++ [r]) := by
  rcases bufferLine_cases e r.line with ⟨hit, e', w, hb, he⟩ | ⟨e', gone, w, hb, hw, hc, he⟩
  · have hs : (e'.rejectPiracy hit).2.sections = e.sections := (sections_of_bare hb :)
    have hban : (e'.rejectPiracy hit).2.banned = e.banned := (banned_of_bare hb :)
    rw [he]
    exact (h.of_halted hs hban rfl).push_halted (hr.trans hs.symm) rfl
  rw [he]
  have hs : (e'.withWindow (w.push r.line)).sections = e.sections := (sections_of_bare hb :)
  have hban : (e'.withWindow (w.push r.line)).banned = e.banned := (banned_of_bare hb :)
  have hph : (e'.withWindow (w.push r.line)).phase = e.phase := (phase_of_bare hb :)
  have hwin : (e'.withWindow (w.push r.line)).progress.window.lines = w.lines ++ [r.line] :=
    Window.lines_push w r.line
  refine ⟨hs ▸ h.section_le_concat hr, hs ▸ hban ▸ h.clean_concat hr, fun _ q hq hs' => ?_⟩
  rw [hs] at hs'
  rw [hban, hph, hwin]
  rcases List.mem_append.mp hq with hq | hq
  · rcases h.waiting hh q hq hs' with hclean | ⟨hqp, hql⟩
    · exact .inl hclean
    rw [hw] at hql
    rcases List.mem_append.mp hql with hgone | hkept
    · exact .inl fun hscreen _ => hc (by rw [Screens, ← hqp]; exact hscreen) q.line hgone
    · exact .inr ⟨hqp, List.mem_append_left _ hkept⟩
  · rw [List.mem_singleton.mp hq]
    exact .inr ⟨hp, List.mem_append_right _ (List.mem_singleton_self _)⟩

/-- **A phase that ends leaves nothing unclean behind.** -/
theorem screened_finalize (h : Screened e records) (hh : e.halted = none)
    (trigger : Option String) : Screened (e.finalize trigger).2 records := by
  rcases finalize_cases e trigger with he | ⟨hit, e', hb, he⟩ | ⟨e', hb, hc, he⟩
  · rw [he]
    exact h.of_halted rfl rfl rfl
  · rw [he]
    exact h.of_halted (sections_of_bare hb :) (banned_of_bare hb :) rfl
  have hclean : ∀ r ∈ records, r.sectionIndex = e'.sections → r.Clean e'.banned := by
    intro r hr hs
    rw [sections_of_bare hb] at hs
    rw [banned_of_bare hb]
    rcases h.waiting hh r hr hs with hclean | ⟨hp, hl⟩
    · exact hclean
    · exact fun hscreen _ => hc (by rw [Screens, ← hp]; exact hscreen) r.line hl
  have h' := h.of_bare hb
  rw [he]
  rcases complete_cases e' trigger with hc | hc | hc
  · rw [hc]
    exact ⟨h'.section_le, h'.clean, fun _ r hr hs => .inl (hclean r hr hs)⟩
  · rw [hc]
    exact h'.of_section hclean rfl rfl
  · rw [hc]
    exact h'.of_section hclean rfl rfl

theorem screened_feedCounted (h : Screened e records) (line : String) (raw : Nat) :
    Screened (e.feedCounted line raw).2 (records ++ e.record (.feed line raw)) := by
  have h' : Screened (e.count raw) records := ⟨h.section_le, h.clean, h.waiting⟩
  rcases feedCounted_cases e line raw with
    ⟨status, hh, he⟩ | ⟨-, -, he⟩ | ⟨trigger, hh, -, ht, he⟩ | ⟨hh, -, -, he⟩
  · rw [he]
    exact h.push_halted rfl (by rw [isHalted, hh]; rfl)
  · have hover : Screened ((e.count raw).halt
        (.overflow (e.count raw).consumed e.limits.maxLogBytes .logBytes)).2 records :=
      h'.of_halted rfl rfl rfl
    rw [he]
    exact hover.push_halted rfl rfl
  · rw [he]
    refine screened_finalize (h'.push_clean rfl fun _ hn => ?_) hh (some trigger)
    rw [ht] at hn
    cases hn
  · rw [he]
    exact screened_bufferLine (r := ⟨_, _, line, _⟩) h' hh rfl rfl

theorem screened_perform (h : Screened e records) (call : Call) :
    Screened (e.perform call) (records ++ e.record call) := by
  cases call with
  | feed line raw => exact screened_feedCounted h line raw
  | finish =>
    rw [record, List.append_nil, perform]
    cases hh : e.halted with
    | some status =>
      rw [finish_halted hh]
      exact h
    | none =>
      rcases finish_cases hh with he | ⟨status, he⟩
      · rw [he]
        exact screened_finalize h hh none
      · rw [he]
        exact h.of_halted rfl rfl rfl
  | take =>
    rw [record, List.append_nil]
    exact ⟨h.section_le, h.clean, h.waiting⟩

theorem screened_run (h : Screened e records) (calls : List Call) :
    Screened (e.run calls) (records ++ e.history calls) := by
  induction calls generalizing e records with
  | nil =>
    rw [history, List.append_nil]
    exact h
  | cons call calls ih =>
    rw [run_cons, history, ← List.append_assoc]
    exact ih (screened_perform h call)

/-- **Complete sections are clean.**  The analyses of a run are those of its first sections, and no
line of these that was to be looked at holds a banned phrase. -/
theorem sections_clean (table : PhaseTable) (limits : EngineLimits) (banned : BannedPhrases)
    (resolver : Resolver) (calls : List Call) :
    (((fresh table limits banned resolver).analyses calls).map (·.index)
        = List.range ((fresh table limits banned resolver).run calls).sections) ∧
      ∀ r ∈ (fresh table limits banned resolver).history calls,
        r.sectionIndex < ((fresh table limits banned resolver).run calls).sections →
          r.Clean banned := by
  have h := screened_run (screened_nil (fresh table limits banned resolver)) calls
  obtain ⟨new, ha, hs, hi, -⟩ := analyses_eq (fresh table limits banned resolver) calls
  refine ⟨?_, fun r hr hlt => ?_⟩
  · have hz : (fresh table limits banned resolver).completed ++ new = new := rfl
    have hn : (fresh table limits banned resolver).sections = 0 := rfl
    rw [ha, hz, hi, hs, hn, Nat.zero_add, List.range_eq_range']
  · have hc := h.clean r hr hlt
    rwa [banned_run] at hc

end LogTriage.Engine
