import Mathlib.Data.List.DropRight
import Mathlib.Data.List.TakeWhile
import LogTriage.Text.Blank

/-!
# What trimming leaves

* `trim_isInfix`           what is left stands in the text;
* `Tight`, `tight_trim`    it neither begins nor ends with white space;
* `trim_eq_self_iff`       only such a text is left as it is;
* `trim_padded`            and it is what is left when white space is set around it;
* `trimmed_eq_empty_iff`   nothing is left exactly of a blank text.
-/

namespace LogTriage.Text

variable {cs : List Char} {s : String}

theorem trimEnd_eq (cs : List Char) : trimEnd cs = cs.rdropWhile isBlank := rfl

theorem trim_isInfix (cs : List Char) : trim cs <:+: cs :=
  (List.rdropWhile_prefix isBlank (trimStart cs)).isInfix.trans
    (List.dropWhile_suffix isBlank).isInfix

/-- Neither the first character nor the last one is white space. -/
structure Tight (cs : List Char) : Prop where
  first : ∀ c ∈ cs.head?, isBlank c = false
  last : ∀ c ∈ cs.getLast?, isBlank c = false

theorem mem_head?_of_isPrefix {ds : List Char} (h : ds <+: cs) {c : Char} (hc : c ∈ ds.head?) :
    c ∈ cs.head? := by
  obtain ⟨rest, rfl⟩ := h
  cases ds with
  | nil => cases hc
  | cons d ds => exact hc

theorem tight_trim (cs : List Char) : Tight (trim cs) := by
  refine ⟨fun c hc => ?_, fun c hc => ?_⟩
  · exact isBlank_head_trimStart (mem_head?_of_isPrefix (List.rdropWhile_prefix isBlank _) hc)
  · have hlast : (trimStart (trimStart cs).reverse).head? = some c := by
      rw [← List.getLast?_reverse]
      exact hc
    exact isBlank_head_trimStart hlast

/-- **Only a tight text** is left as it is. -/
theorem trim_eq_self_iff : trim cs = cs ↔ Tight cs := by
  refine ⟨fun h => h ▸ tight_trim cs, fun h => ?_⟩
  have hstart : trimStart cs = cs := by
    cases cs with
    | nil => rfl
    | cons c cs => exact List.dropWhile_cons_of_neg (by simp [h.first c rfl])
  rw [trim, hstart, trimEnd_eq, List.rdropWhile_eq_self_iff]
  intro hne
  rw [h.last _ (List.getLast?_eq_getLast_of_ne_nil hne)]
  exact Bool.false_ne_true

theorem trimStart_append {lead : List Char} (h : lead.all isBlank = true) (cs : List Char) :
    trimStart (lead ++ cs) = trimStart cs :=
  List.dropWhile_append_of_pos (List.all_eq_true.mp h)

theorem trimEnd_append {trail : List Char} (h : trail.all isBlank = true) (cs : List Char) :
    trimEnd (cs ++ trail) = trimEnd cs := by
  have hreverse : trail.reverse.all isBlank = true := by rw [List.all_reverse, h]
  rw [trimEnd, trimEnd, List.reverse_append]
  exact congrArg List.reverse (trimStart_append hreverse cs.reverse)

/-- **A tight text is left** when white space is set around it. -/
theorem trim_padded {lead trail : List Char} (hlead : lead.all isBlank = true) (h : Tight cs)
    (htrail : trail.all isBlank = true) : trim (lead ++ cs ++ trail) = cs := by
  cases cs with
  | nil =>
    rw [List.append_nil, trim, trimStart_append hlead]
    have hnil : trimStart trail = [] := List.dropWhile_eq_nil_iff.mpr (List.all_eq_true.mp htrail)
    rw [hnil]
    rfl
  | cons c cs =>
    have hstart : trimStart (c :: cs ++ trail) = c :: cs ++ trail :=
      List.dropWhile_cons_of_neg (by simp [h.first c rfl])
    rw [List.append_assoc, trim, trimStart_append hlead, hstart, trimEnd_append htrail]
    have hself := trim_eq_self_iff.mpr h
    rwa [trim, trimStart, List.dropWhile_cons_of_neg (by simp [h.first c rfl])] at hself

theorem exists_padding (cs : List Char) : ∃ lead trail, lead.all isBlank = true ∧
    trail.all isBlank = true ∧ cs = lead ++ trim cs ++ trail := by
  refine ⟨cs.takeWhile isBlank, (trimStart cs).rtakeWhile isBlank, List.all_takeWhile, ?_, ?_⟩
  · exact List.all_eq_true.mpr fun c => List.mem_rtakeWhile_imp
  · rw [trim, trimEnd_eq, List.append_assoc, List.rdropWhile_append_rtakeWhile]
    exact List.takeWhile_append_dropWhile.symm

theorem trim_eq_nil_iff : trim cs = [] ↔ cs.all isBlank = true := by
  rw [trim, trimEnd_eq, List.rdropWhile_eq_nil_iff, List.all_eq_true]
  refine ⟨fun h => ?_, fun h c hc => h c ((List.dropWhile_suffix isBlank).subset hc)⟩
  have hnil : trimStart cs = [] := by
    cases hcs : trimStart cs with
    | nil => rfl
    | cons c rest =>
      have hhead : (trimStart cs).head? = some c := by rw [hcs, List.head?_cons]
      have hblank := h c (List.mem_of_mem_head? hhead)
      rw [isBlank_head_trimStart hhead] at hblank
      cases hblank
  exact List.dropWhile_eq_nil_iff.mp hnil

theorem trimmed_eq_empty_iff : trimmed s = "" ↔ blank s = true := by
  rw [trimmed, blank, ← trim_eq_nil_iff, String.ofList_eq_empty_iff]

theorem toList_trimmed (s : String) : (trimmed s).toList = trim s.toList := String.toList_ofList

theorem trimmed_eq_self_iff : trimmed s = s ↔ Tight s.toList := by
  rw [← trim_eq_self_iff, ← String.toList_inj, toList_trimmed]

theorem trimmed_trimmed (s : String) : trimmed (trimmed s) = trimmed s := by
  rw [trimmed_eq_self_iff, toList_trimmed]
  exact tight_trim s.toList

end LogTriage.Text
