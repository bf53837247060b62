import LogTriage.Proofs.Escape

/-!
# The laws of escaping

A text is escaped when a joiner stands right after every active character.  Escaping brings a text
into this form and changes nothing else about it: what is escaped already stays as it is, and apart
from joiners every character stays in its place.  What is escaped in maps, products and hits follows
from what is escaped in their texts.

* `chars_eq_self_iff`  escaping leaves just the escaped texts as they are;
* `filter_chars`       apart from joiners it changes nothing;
* `escaping_settles`   so it is done once and for all.
-/

namespace LogTriage

namespace Escape
variable {cs : List Char} {c : Char}

/-- A joiner stands right after every backtick and every at sign. -/
def Joined (cs : List Char) : Prop :=
  ∀ before c after, cs = before ++ c :: after → c = '\x60' ∨ c = '@' → after.head? = some joiner

theorem active_iff : active c = true ↔ c = '\x60' ∨ c = '@' := by
  rw [active, Bool.or_eq_true, beq_iff_eq, beq_iff_eq]

theorem joined_cons :
    Joined (c :: cs) ↔ (active c = true → cs.head? = some joiner) ∧ Joined cs := by
  rw [active_iff]
  constructor
  · intro h
    refine ⟨h [] c cs rfl, fun before d after hcs => h (c :: before) d after ?_⟩
    rw [hcs, List.cons_append]
  · rintro ⟨hfirst, hrest⟩ before d after hcs
    cases before with
    | nil =>
      obtain ⟨rfl, rfl⟩ := List.cons.inj hcs
      exact hfirst
    | cons b before => exact hrest before d after (List.cons.inj hcs).2

theorem Guarded.joined (h : Guarded [joiner] cs) : Joined cs := by
  rintro before c after rfl hc
  have hplace : (before ++ c :: after)[before.length]? = some c := by
    rw [List.getElem?_append_right (Nat.le_refl _), Nat.sub_self, List.getElem?_cons_zero]
  obtain ⟨d, hd, hnext⟩ := h.next hplace (active_iff.mpr hc)
  rw [List.mem_singleton.mp hd, List.getElem?_append_right (Nat.le_add_right _ _),
    Nat.add_sub_cancel_left, List.getElem?_cons_succ] at hnext
  rw [List.head?_eq_getElem?, hnext]

theorem joined_chars (cs : List Char) : Joined (chars cs) := (guarded_chars cs).joined

/-- **Escaping leaves just the escaped texts as they are.** -/
theorem chars_eq_self_iff : chars cs = cs ↔ Joined cs := by
  refine ⟨fun h => h ▸ joined_chars cs, fun h => ?_⟩
  induction cs with
  | nil => rfl
  | cons c cs ih =>
    obtain ⟨hfirst, hrest⟩ := joined_cons.mp h
    have hplain : (active c && decide (cs.head? ≠ some joiner)) = false := by
      cases hc : active c with
      | false => rfl
      | true => simp [hfirst hc]
    rw [chars_cons, hplain, if_neg Bool.false_ne_true, ih hrest]

/-- **Apart from joiners, escaping changes nothing.** -/
theorem filter_chars (cs : List Char) :
    (chars cs).filter (· ≠ joiner) = cs.filter (· ≠ joiner) := by
  induction cs with
  | nil => rfl
  | cons c cs ih =>
    rw [chars_cons]
    split
    · rw [List.filter_cons, List.filter_cons, List.filter_cons, ih]
      simp
    · rw [List.filter_cons, List.filter_cons, ih]

end Escape

open Escape (Joined joiner)

/-! ## Texts, and what holds them -/

theorem toList_escape (s : String) : (escape s).toList = Escape.chars s.toList :=
  String.toList_ofList

theorem escape_eq_self_iff {s : String} : escape s = s ↔ Joined s.toList := by
  rw [← String.toList_inj, toList_escape, Escape.chars_eq_self_iff]

theorem escape_escape (s : String) : escape (escape s) = escape s := by
  rw [escape_eq_self_iff, toList_escape]
  exact Escape.joined_chars s.toList

theorem map_escape_escape (s : Option String) : (s.map escape).map escape = s.map escape := by
  rw [Option.map_map]
  exact congrArg (Option.map · s) (funext escape_escape)

theorem FieldMap.escape_escape (m : FieldMap) : m.escape.escape = m.escape := by
  refine FieldMap.ext_get? fun k => ?_
  rw [FieldMap.escape, FieldMap.get?_mapValues, FieldMap.escape, FieldMap.get?_mapValues,
    map_escape_escape]

theorem FieldMap.keys_escape (m : FieldMap) : m.escape.keys = m.keys := by
  rw [FieldMap.keys, FieldMap.escape, FieldMap.mapValues, List.map_map]
  rfl

theorem Product.escape_escape (p : Product) : p.escape.escape = p.escape := by
  simp only [Product.escape, map_escape_escape]

theorem BannedHit.escape_escape (hit : BannedHit) : hit.escape.escape = hit.escape := by
  simp only [BannedHit.escape, LogTriage.escape_escape]

/-- **Escaping is done once and for all.**  Afterwards a joiner stands right after every active
character; a text of which this holds, such as one without active characters, stays as it is; and
apart from joiners no text changes.  In maps, products and hits, escaping changes the texts that a
log or a database supplies, and nothing but these. -/
theorem escaping_settles :
    (∀ s : String, Joined (escape s).toList ∧ escape (escape s) = escape s ∧
      (escape s = s ↔ Joined s.toList) ∧ (Inactive s → escape s = s) ∧
      (escape s).toList.filter (· ≠ joiner) = s.toList.filter (· ≠ joiner)) ∧
    (∀ m : FieldMap, m.escape.escape = m.escape ∧ m.escape.keys = m.keys ∧
      ∀ name, m.escape.get? name = (m.get? name).map escape) ∧
    (∀ p : Product, p.escape.escape = p.escape ∧
      p.escape.serial = p.serial.map escape ∧ p.escape.title = p.title.map escape ∧
      p.escape.commit = p.commit.map escape ∧
      p.escape.status = p.status ∧ p.escape.thread = p.thread ∧
      p.escape.pullRequest = p.pullRequest ∧ p.escape.updated = p.updated) ∧
    ∀ hit : BannedHit, hit.escape.escape = hit.escape ∧
      hit.escape.trigger = escape hit.trigger ∧ hit.escape.context = escape hit.context ∧
      hit.escape.phaseIndex = hit.phaseIndex ∧ hit.escape.phaseName = hit.phaseName := by
  refine ⟨fun s => ⟨?_, escape_escape s, escape_eq_self_iff, fun h => ?_, ?_⟩, fun m => ?_,
    fun p => ?_, fun hit => ?_⟩
  · rw [toList_escape]
    exact Escape.joined_chars s.toList
  · exact escape_eq_self_iff.mpr (Escape.guarded_of_inactive h).joined
  · rw [toList_escape, Escape.filter_chars]
  · exact ⟨m.escape_escape, m.keys_escape, FieldMap.get?_mapValues escape m⟩
  · exact ⟨p.escape_escape, rfl, rfl, rfl, rfl, rfl, rfl, rfl⟩
  · exact ⟨hit.escape_escape, rfl, rfl, rfl, rfl⟩

end LogTriage
