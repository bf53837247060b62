import LogTriage.Proofs.Phase.Validation

/-!
# Which phases can be ended

A phase ends with a line that satisfies one of its triggers.  A line holds no line feed, so a
trigger that holds one is never satisfied; and where lines are trimmed before they are compared with
it, neither is a trigger with white space around it.  Validation looks for neither, and so accepts
phases that nothing ends.

* `satisfied_iff`   which triggers a line can satisfy;
* `canEnd_iff`      which phases can be ended;
* `phases_end`      the phases of a table that has been validated.
-/

namespace LogTriage

open Text

def IsLine (line : String) : Prop := '\n' ∉ line.toList

/-- A trigger that a line can satisfy: it fits on a line, and has no white space around it if lines
are compared with it trimmed. -/
def TriggerMode.Fits (mode : TriggerMode) (trigger : String) : Prop :=
  IsLine trigger ∧ (mode = .exact → trimmed trigger = trigger)

instance (line : String) : Decidable (IsLine line) := inferInstanceAs (Decidable (¬ _))

instance (mode : TriggerMode) (trigger : String) : Decidable (mode.Fits trigger) :=
  inferInstanceAs (Decidable (_ ∧ _))

def Phase.CanEnd (phase : Phase) : Prop :=
  ∃ line, IsLine line ∧ (phase.matchedTrigger line).isSome = true

/-! ## Triggers -/

theorem isLine_of_part {line part : String} (h : IsLine line)
    (hpart : part.toList <:+: line.toList) : IsLine part := fun hfeed => h (hpart.subset hfeed)

namespace TriggerMode

theorem matches_self {mode : TriggerMode} {trigger : String} (h : mode.Fits trigger) :
    mode.matches trigger trigger = true := by
  cases mode with
  | contains => exact occurs_iff.mpr List.infix_rfl
  | exact => exact beq_iff_eq.mpr (h.2 rfl)

theorem fits_of_matches {mode : TriggerMode} {line trigger : String} (hline : IsLine line)
    (h : mode.matches line trigger = true) : mode.Fits trigger := by
  cases mode with
  | contains => exact ⟨isLine_of_part hline (occurs_iff.mp h), nofun⟩
  | exact =>
    have htrigger : trimmed line = trigger := beq_iff_eq.mp h
    rw [← htrigger]
    refine ⟨isLine_of_part hline ?_, fun _ => trimmed_trimmed line⟩
    rw [toList_trimmed]
    exact trim_isInfix line.toList

theorem satisfied_iff {mode : TriggerMode} {trigger : String} :
    (∃ line, IsLine line ∧ mode.matches line trigger = true) ↔ mode.Fits trigger :=
  ⟨fun ⟨_, hline, h⟩ => fits_of_matches hline h, fun h => ⟨trigger, h.1, matches_self h⟩⟩

end TriggerMode

/-! ## Phases -/

theorem Phase.canEnd_iff {phase : Phase} :
    phase.CanEnd ↔ ∃ trigger ∈ phase.triggers, phase.mode.Fits trigger := by
  simp only [CanEnd, matchedTrigger, List.find?_isSome, ← TriggerMode.satisfied_iff]
  constructor
  · rintro ⟨line, hline, trigger, ht, h⟩
    exact ⟨trigger, ht, line, hline, h⟩
  · rintro ⟨trigger, ht, line, hline, h⟩
    exact ⟨line, hline, trigger, ht, h⟩

namespace TableDefinition
variable {d : TableDefinition} {builtin : Bool} {table : PhaseTable} {phase : Phase}

theorem exists_describes {ds : List PhaseDefinition} {phases : List Phase}
    (h : List.Forall₂ PhaseDefinition.Describes ds phases) (hp : phase ∈ phases) :
    ∃ d ∈ ds, d.Describes phase := by
  induction h with
  | nil => cases hp
  | cons hd _ ih =>
    rcases List.mem_cons.mp hp with rfl | hp
    · exact ⟨_, List.mem_cons_self, hd⟩
    · obtain ⟨d, hmem, hd⟩ := ih hp
      exact ⟨d, List.mem_cons_of_mem _ hmem, hd⟩

theorem triggers_ne_nil_of_validate (h : d.validate builtin = .ok table)
    (hp : phase ∈ table.phases) : phase.triggers ≠ [] := by
  obtain ⟨d', hd', hdescribes⟩ := exists_describes (describes_of_validate h).phases hp
  obtain ⟨before, after, hphases⟩ := List.append_of_mem hd'
  have htrigger := ((acceptable_of_validate h).usable before d' after hphases).trigger
  rw [hdescribes.triggers, ← List.length_pos_iff]
  exact htrigger

/-- **The phases of a table that has been validated** can be ended exactly if they have a trigger
that fits; so all of them can if all triggers do. -/
theorem phases_end (h : d.validate builtin = .ok table) (hp : phase ∈ table.phases) :
    (phase.CanEnd ↔ ∃ trigger ∈ phase.triggers, phase.mode.Fits trigger) ∧
    ((∀ trigger ∈ phase.triggers, phase.mode.Fits trigger) → phase.CanEnd) := by
  refine ⟨Phase.canEnd_iff, fun hfits => ?_⟩
  obtain ⟨trigger, ht⟩ := List.exists_mem_of_ne_nil _ (triggers_ne_nil_of_validate h hp)
  exact Phase.canEnd_iff.mpr ⟨trigger, ht, hfits trigger ht⟩

/-- Steps, with triggers of all kinds: one that fits beside one that does not, one with white space
around it, and one on two lines. -/
def steps : TableDefinition where
  id := "steps"
  name := "Steps"
  serialPattern := some "ID (?P<id>[a-z]+)"
  titlePattern := some "NAME (?P<title>[a-z]+)"
  phases := [
    { name := "start", triggers := [" go ", "go"], mode := .exact },
    { name := "run", triggers := [" done "], mode := .exact },
    { name := "stop", triggers := ["good\nbye"] }]

/-- The first step can be ended, though not by its first trigger. -/
theorem start_ends : ∃ table, steps.validate false = .ok table ∧ ∃ phase ∈ table.phases,
    phase.triggers = [" go ", "go"] ∧ phase.CanEnd := by
  have hparts : ∃ table, steps.validate false = .ok table ∧ ∃ phase ∈ table.phases,
      phase.triggers = [" go ", "go"] ∧ phase.mode.Fits "go" := by
    decide +kernel
  obtain ⟨table, hv, phase, hp, htriggers, hfits⟩ := hparts
  have hgo : "go" ∈ phase.triggers := by
    rw [htriggers]
    decide
  exact ⟨table, hv, phase, hp, htriggers, (phases_end hv hp).1.mpr ⟨"go", hgo, hfits⟩⟩

/-- **Nothing ends the other steps**, though the table is accepted: the white space around one
trigger is trimmed from every line, and no line holds the other trigger. -/
theorem steps_endless : ∃ table, steps.validate false = .ok table ∧
    (∃ phase ∈ table.phases, phase.triggers = [" done "] ∧ ¬ phase.CanEnd) ∧
    ∃ phase ∈ table.phases, phase.triggers = ["good\nbye"] ∧ ¬ phase.CanEnd := by
  simp only [Phase.canEnd_iff]
  decide +kernel

end TableDefinition

end LogTriage
