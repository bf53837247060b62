import LogTriage.BannedPhrases

/-!
# What a search for banned phrases finds

* `hit?_eq_none_iff`   nothing is found exactly when all lines are clean;
* `first_of_hit?`      what is found comes first, among the phrases and then among the lines.
-/

namespace LogTriage.BannedPhrases

/-- No listed phrase occurs in the line, case aside. -/
def Clean (banned : BannedPhrases) (line : String) : Prop :=
  ∀ phrase ∈ banned.phrases, ¬ Text.lower phrase.toList <:+: Text.lower line.toList

theorem find?_eq_none_iff {banned : BannedPhrases} {lines : List String} :
    banned.find? lines = none ↔ ∀ line ∈ lines, banned.Clean line := by
  simp only [find?, List.findSome?_eq_none_iff, Option.map_eq_none_iff, List.find?_eq_none,
    List.mem_map, forall_exists_index, and_imp, forall_apply_eq_imp_iff₂, Text.occurs_iff]
  exact ⟨fun h line hl phrase hp => h phrase hp line hl, fun h phrase hp line hl =>
    h line hl phrase hp⟩

theorem hit?_eq_none_iff {banned : BannedPhrases} {index : Nat} {name : String}
    {lines : List String} :
    banned.hit? index name lines = none ↔ ∀ line ∈ lines, banned.Clean line := by
  rw [hit?, Option.map_eq_none_iff, find?_eq_none_iff]

/-- The phrase is listed and occurs in the line, case aside; none that is listed before it occurs in
any of the lines, nor does it occur in a line before this one. -/
structure First (banned : BannedPhrases) (lines : List String) (phrase line : String) : Prop where
  occurs : Text.lower phrase.toList <:+: Text.lower line.toList
  phrases : ∃ before after, banned.phrases = before ++ phrase :: after ∧
    ∀ earlier ∈ before, ∀ l ∈ lines, ¬ Text.lower earlier.toList <:+: Text.lower l.toList
  lines : ∃ before after, lines = before ++ line :: after ∧
    ∀ l ∈ before, ¬ Text.lower phrase.toList <:+: Text.lower l.toList

theorem First.mem_lines {banned : BannedPhrases} {lines : List String} {phrase line : String}
    (h : banned.First lines phrase line) : line ∈ lines := by
  obtain ⟨before, after, rfl, -⟩ := h.lines
  exact List.mem_append_right _ List.mem_cons_self

/-- **What is found comes first**, among the phrases and then among the lines. -/
theorem first_of_find? {banned : BannedPhrases} {lines : List String} {phrase line : String}
    (h : banned.find? lines = some (phrase, line)) : banned.First lines phrase line := by
  rw [find?, List.findSome?_eq_some_iff] at h
  obtain ⟨before, phrase', after, hphrases, hfound, hbefore⟩ := h
  obtain ⟨found, hfind, heq⟩ := Option.map_eq_some_iff.mp hfound
  obtain ⟨hoccurs, pairsBefore, pairsAfter, hpairs, hfirst⟩ :=
    List.find?_eq_some_iff_append.mp hfind
  obtain ⟨linesBefore, rest, rfl, rfl, hrest⟩ := List.map_eq_append_iff.mp hpairs
  obtain ⟨line', linesAfter, rfl, rfl, -⟩ := List.map_eq_cons_iff.mp hrest
  cases heq
  refine ⟨Text.occurs_iff.mp hoccurs, ⟨before, after, hphrases, fun earlier he l hl ho => ?_⟩,
    ⟨linesBefore, linesAfter, rfl, fun l hl ho => ?_⟩⟩
  · have hnone := List.find?_eq_none.mp (Option.map_eq_none_iff.mp (hbefore earlier he)) _
      (List.mem_map_of_mem hl)
    exact hnone (Text.occurs_iff.mpr ho)
  · have hnot := hfirst _ (List.mem_map_of_mem hl)
    rw [Text.occurs_iff.mpr ho] at hnot
    cases hnot

theorem first_of_hit? {banned : BannedPhrases} {index : Nat} {name : String} {lines : List String}
    {hit : BannedHit} (h : banned.hit? index name lines = some hit) :
    hit.phaseIndex = index ∧ hit.phaseName = name ∧ banned.First lines hit.trigger hit.context := by
  obtain ⟨⟨phrase, line⟩, hfind, rfl⟩ := Option.map_eq_some_iff.mp h
  exact ⟨rfl, rfl, first_of_find? hfind⟩

end LogTriage.BannedPhrases
