import LogTriage.Proofs.Phase.Faults

/-!
# What validation makes sure of

A table that has been validated has a phase, and its phases follow one another: only the last one
can end a section or the log.  `Usable` says so of the table alone; the engine relies on nothing
else.

* `usable_of_validate`  a validated table is usable.
-/

namespace LogTriage

instance decidableExistsOk {ε α : Type} (x : Except ε α) (p : α → Prop) [DecidablePred p] :
    Decidable (∃ a, x = .ok a ∧ p a) :=
  match x with
  | .ok a => decidable_of_iff (p a) (by simp)
  | .error _ => isFalse (by simp)

/-- There is a phase, and every phase but the last one is followed by the next one. -/
structure PhaseTable.Usable (table : PhaseTable) : Prop where
  phases_ne_nil : table.phases ≠ []
  advance : ∀ i, i + 1 < table.phases.length → (table.phaseAt i).onTrigger = .advance

namespace TableDefinition

/-- **A validated table is usable.** -/
theorem usable_of_validate {d : TableDefinition} {builtin : Bool} {table : PhaseTable}
    (h : d.validate builtin = .ok table) : table.Usable := by
  have haccept := acceptable_of_validate h
  have hphases := (describes_of_validate h).phases
  have hlength := hphases.length_eq
  refine ⟨fun hnil => ?_, fun i hi => ?_⟩
  · have hphase := haccept.phase
    rw [hlength, hnil] at hphase
    exact absurd hphase (by decide)
  · have hi' : i < d.phases.length := by omega
    have hdescribes := hphases.get hi' (by omega)
    have hsplit : d.phases = d.phases.take i ++ d.phases[i] :: d.phases.drop (i + 1) := by
      rw [List.getElem_cons_drop, List.take_append_drop]
    have hfollowed : d.phases.drop (i + 1) ≠ [] := by
      rw [ne_eq, List.drop_eq_nil_iff]
      omega
    have hadvance := (haccept.usable _ _ _ hsplit).completion.resolve_left hfollowed
    rw [PhaseTable.phaseAt, List.getD_eq_getElem?_getD, List.getElem?_eq_getElem (by omega)]
    exact hdescribes.onTrigger.trans hadvance

/-- A log of sessions.  Each one has a head, which a line with `begin` ends, and a body, which a
line with `end` ends. -/
def sessions : TableDefinition where
  id := "sessions"
  name := "Sessions"
  serialPattern := some "ID (?P<id>[a-z]+)"
  titlePattern := some "NAME (?P<title>[a-z]+)"
  phases := [
    { name := "head", triggers := ["begin"], handlers := [.resolveProduct, .bannedContent] },
    { name := "body", triggers := ["end"], handlers := [.resolveProduct], onTrigger := .rearm }]

end TableDefinition

end LogTriage
