import LogTriage.Proofs.Engine.Steps
import LogTriage.Proofs.Phase.Validation

/-!
# The order of the phases

With a usable table the phases of a section follow one another.  Every phase but the last one is
followed by the next one; a trigger of the last one either begins a new section or ends the log, as
the table says.

* `complete_usable`, `finalize_usable`  what follows a phase;
* `finish_eq`                           the end of the log ends the last phase, or the engine halts.
-/

namespace LogTriage

/-- After the last phase, a new section begins. -/
def PhaseTable.Rearms (table : PhaseTable) : Prop :=
  ∃ phase, table.phases.getLast? = some phase ∧ phase.onTrigger = .rearm

namespace PhaseTable
variable {table : PhaseTable} {i : Nat}

theorem isLast_iff : table.isLast i = true ↔ i + 1 = table.phases.length := by
  rw [isLast, beq_iff_eq]

theorem isLast_eq_false_iff : table.isLast i = false ↔ i + 1 ≠ table.phases.length := by
  rw [isLast, beq_eq_false_iff_ne]

theorem getElem?_phases (h : i < table.phases.length) :
    table.phases[i]? = some (table.phaseAt i) := by
  rw [phaseAt, List.getD_eq_getElem?_getD, List.getElem?_eq_getElem h, Option.getD_some]

theorem rearms_of_isLast (hl : table.isLast i = true)
    (hr : (table.phaseAt i).onTrigger = .rearm) : table.Rearms := by
  rw [isLast_iff] at hl
  have hi : i < table.phases.length := by omega
  refine ⟨table.phaseAt i, ?_, hr⟩
  rw [List.getLast?_eq_getElem?, ← hl, Nat.add_sub_cancel, getElem?_phases hi]

end PhaseTable

namespace Engine
variable {e : Engine} {trigger : Option String}

def nextPhase (e : Engine) : Engine :=
  { e with progress := { e.progress with
    phaseIndex := e.progress.phaseIndex + 1, window := .empty, extractedEarly := false } }

def nextSection (e : Engine) : Engine := { e.completeSection with progress := {} }

structure Placed (e : Engine) : Prop where
  usable : e.table.Usable
  phaseIndex_lt : e.progress.phaseIndex < e.table.phases.length

theorem Placed.of_eq {e' : Engine} (h : Placed e) (ht : e'.table = e.table)
    (hp : e'.progress.phaseIndex = e.progress.phaseIndex) : Placed e' :=
  ⟨ht ▸ h.usable, by rw [ht, hp]; exact h.phaseIndex_lt⟩

theorem complete_usable (h : Placed e) (trigger : Option String) :
    (e.table.isLast e.progress.phaseIndex = false ∧
      e.complete trigger = (.success, e.nextPhase)) ∨
    (e.table.isLast e.progress.phaseIndex = true ∧ e.phase.onTrigger = .rearm ∧
      trigger.isSome = true ∧ e.complete trigger = (.stop, e.nextSection)) ∨
    (e.table.isLast e.progress.phaseIndex = true ∧
      e.complete trigger = e.completeSection.halt .stop) := by
  cases hl : e.table.isLast e.progress.phaseIndex with
  | false =>
    rw [PhaseTable.isLast_eq_false_iff] at hl
    have hlt := h.phaseIndex_lt
    have ha : e.phase.onTrigger = .advance := h.usable.advance _ (by omega)
    rw [← PhaseTable.isLast_eq_false_iff] at hl
    exact .inl ⟨rfl, by rw [complete, ha, hl]; rfl⟩
  | true =>
    cases hr : e.phase.onTrigger with
    | advance => exact .inr (.inr ⟨rfl, by rw [complete, hr, hl]⟩)
    | stop => exact .inr (.inr ⟨rfl, by rw [complete, hr, hl]⟩)
    | rearm =>
      cases trigger with
      | none => exact .inr (.inr ⟨rfl, by rw [complete, hr, hl]; rfl⟩)
      | some trigger => exact .inr (.inl ⟨rfl, rfl, rfl, by rw [complete, hr]; rfl⟩)

/-- **How a phase ends**: the engine halts, or the next phase or section begins. -/
theorem finalize_usable (h : Placed e) (trigger : Option String) :
    e.finalize trigger = e.halt (.fail (e.failure trigger .patternMismatch)) ∨
    (∃ (hit : BannedHit) (e' : Engine), e'.bare = e.bare ∧
      e.finalize trigger = e'.rejectPiracy hit) ∨
    ∃ e' : Engine, e'.bare = e.bare ∧
      ((e.table.isLast e.progress.phaseIndex = false ∧
          e.finalize trigger = (.success, e'.nextPhase)) ∨
        (e.table.isLast e.progress.phaseIndex = true ∧ e.phase.onTrigger = .rearm ∧
          trigger.isSome = true ∧ e.finalize trigger = (.stop, e'.nextSection)) ∨
        (e.table.isLast e.progress.phaseIndex = true ∧
          e.finalize trigger = e'.completeSection.halt .stop)) := by
  rcases finalize_cases e trigger with he | hp | ⟨e', hb, -, he⟩
  · exact .inl he
  · exact .inr (.inl hp)
  · have ht := table_of_bare hb
    have hi := phaseIndex_of_bare hb
    have hc := complete_usable (h.of_eq ht hi) trigger
    rw [← he, ht, hi, phase_of_bare hb] at hc
    exact .inr (.inr ⟨e', hb, hc⟩)

theorem finish_eq (h : e.halted = none) :
    (e.table.isLast e.progress.phaseIndex = true ∧ e.finish = e.finalize none) ∨
    e.finish = e.halt .stop ∨ e.finish = e.halt (.fail (e.failure none .truncated)) := by
  rw [finish, h]
  dsimp only
  split
  · rename_i hl
    exact .inl ⟨((Bool.and_eq_true _ _).mp hl).1, rfl⟩
  split
  · exact .inr (.inl rfl)
  · exact .inr (.inr rfl)

end Engine

end LogTriage
