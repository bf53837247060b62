import LogTriage.Engine.Libraries
import LogTriage.Proofs.Text.Cutting
import LogTriage.Proofs.Text.Trimmed

/-!
# Names of libraries

A name is listed with white space around it and with suffixes after it.  Cleaning takes away the
white space, then the suffixes, and then the white space that stood before them; it does not look
for suffixes again, so that one before that white space stays.

* `Written`              how a piece is made up of the name that is collected from it;
* `clean_of_written`     that name is collected, and
* `exists_written`       every piece is made up so;
* `suffix_clean_iff`     the pieces of which a name is collected that still ends in a suffix;
* `libraries_clean`      the names of a text.
-/

namespace LogTriage

namespace Libraries
open Text

variable {p cs stem piece name gap : List Char} {n : Nat}

/-! ## Suffixes -/

def suffixes (n : Nat) : List Char := (List.replicate n suffix).flatten

theorem suffixes_zero : suffixes 0 = [] := rfl

theorem suffixes_succ (n : Nat) : suffixes (n + 1) = suffixes n ++ suffix := by
  rw [suffixes, List.replicate_succ', List.flatten_concat, suffixes]

theorem le_length_suffixes (n : Nat) : n ≤ (suffixes n).length := by
  induction n with
  | zero => exact Nat.zero_le _
  | succ n ih =>
    have hlength : suffix.length = 5 := rfl
    rw [suffixes_succ, List.length_append, hlength]
    omega

theorem reverse_suffixes (n : Nat) :
    (suffixes n).reverse = (List.replicate n suffix.reverse).flatten := by
  rw [suffixes, List.reverse_flatten, List.map_replicate, List.reverse_replicate]

theorem dropRepeated_flatten (hp : p ≠ []) (hcs : ¬ p <+: cs) {fuel : Nat} (hfuel : n ≤ fuel) :
    dropRepeated p fuel ((List.replicate n p).flatten ++ cs) = cs := by
  induction n generalizing fuel with
  | zero =>
    rw [List.replicate_zero, List.flatten_nil, List.nil_append]
    cases fuel with
    | zero => rfl
    | succ fuel => rw [dropRepeated, if_neg (by simp [hcs])]
  | succ n ih =>
    obtain ⟨fuel, rfl⟩ : ∃ k, fuel = k + 1 := ⟨fuel - 1, by omega⟩
    rw [List.replicate_succ, List.flatten_cons, List.append_assoc, dropRepeated,
      if_pos (by simp [hp]), List.drop_left]
    exact ih (by omega)

theorem exists_dropRepeated (hp : p ≠ []) {fuel : Nat} (hfuel : cs.length ≤ fuel) :
    ∃ n, cs = (List.replicate n p).flatten ++ dropRepeated p fuel cs ∧
      ¬ p <+: dropRepeated p fuel cs := by
  induction fuel generalizing cs with
  | zero =>
    obtain rfl : cs = [] := List.length_eq_zero_iff.mp (Nat.le_zero.mp hfuel)
    exact ⟨0, rfl, by simpa [dropRepeated] using hp⟩
  | succ fuel ih =>
    rw [dropRepeated]
    by_cases h : p <+: cs
    · obtain ⟨rest, rfl⟩ := h
      rw [if_pos (by simp [hp]), List.drop_left]
      have hrest : rest.length ≤ fuel := by
        have hpos := List.length_pos_iff.mpr hp
        rw [List.length_append] at hfuel
        omega
      obtain ⟨n, hn, hnone⟩ := ih hrest
      refine ⟨n + 1, ?_, hnone⟩
      rw [List.replicate_succ, List.flatten_cons, List.append_assoc, ← hn]
    · rw [if_neg (by simp [h])]
      exact ⟨0, rfl, h⟩

theorem dropSuffixes_append (h : ¬ suffix <:+ stem) (n : Nat) :
    dropSuffixes (stem ++ suffixes n) = stem := by
  have hstem : ¬ suffix.reverse <+: stem.reverse := by rwa [List.reverse_prefix]
  have hfuel : n ≤ (stem ++ suffixes n).length := by
    rw [List.length_append]
    exact Nat.le_add_left_of_le (le_length_suffixes n)
  rw [dropSuffixes, List.reverse_append, reverse_suffixes,
    dropRepeated_flatten (by decide) hstem hfuel, List.reverse_reverse]

theorem exists_dropSuffixes (cs : List Char) :
    ∃ n, cs = dropSuffixes cs ++ suffixes n ∧ ¬ suffix <:+ dropSuffixes cs := by
  have hne : suffix.reverse ≠ [] := by decide
  have hfuel : cs.reverse.length ≤ cs.length := List.length_reverse.le
  obtain ⟨n, hn, hnone⟩ := exists_dropRepeated hne hfuel
  refine ⟨n, ?_, ?_⟩
  · have hreverse := congrArg List.reverse hn
    rwa [List.reverse_reverse, List.reverse_append, ← reverse_suffixes,
      List.reverse_reverse] at hreverse
  · rwa [dropSuffixes, ← List.reverse_prefix, List.reverse_reverse]

/-! ## Pieces -/

/-- How a piece is made up of a name: white space may stand around it and, in the gap between the
name and the suffixes, within it. -/
structure Written (piece name gap : List Char) (n : Nat) : Prop where
  padded : ∃ lead trail, lead.all isBlank = true ∧ trail.all isBlank = true ∧
    piece = lead ++ (name ++ gap ++ suffixes n) ++ trail
  tight : Tight name
  blank : gap.all isBlank = true
  /-- White space at the end is no gap. -/
  followed : n = 0 → gap = []
  /-- A suffix at the end is none of the name. -/
  bare : gap = [] → ¬ suffix <:+ name

theorem not_suffix_of_gap (hgap : gap ≠ []) (hblank : gap.all isBlank = true) :
    ¬ suffix <:+ name ++ gap := by
  rintro ⟨stem, hstem⟩
  have hlast : (name ++ gap).getLast? = some 'x' := by
    rw [← hstem, List.getLast?_append]
    rfl
  rw [List.getLast?_append, List.getLast?_eq_some_getLast hgap] at hlast
  have hx : gap.getLast hgap = 'x' := Option.some.inj hlast
  have hmem := List.all_eq_true.mp hblank _ (List.getLast_mem hgap)
  rw [hx] at hmem
  exact absurd hmem (by decide)

theorem tight_append_suffixes (h : Tight name) (hne : name ≠ []) (hfollowed : n = 0 → gap = []) :
    Tight (name ++ gap ++ suffixes n) where
  first := by
    obtain ⟨c, name, rfl⟩ := List.exists_cons_of_ne_nil hne
    exact h.first
  last := by
    cases n with
    | zero =>
      rw [hfollowed rfl, suffixes_zero, List.append_nil, List.append_nil]
      exact h.last
    | succ n =>
      intro c hc
      rw [suffixes_succ, ← List.append_assoc, List.getLast?_append] at hc
      cases hc
      decide

/-- **The name is collected.** -/
theorem clean_of_written (hne : name ≠ []) (h : Written piece name gap n) :
    clean piece = name := by
  obtain ⟨lead, trail, hlead, htrail, rfl⟩ := h.padded
  have hbare : ¬ suffix <:+ name ++ gap := by
    by_cases hgap : gap = []
    · rw [hgap, List.append_nil]
      exact h.bare hgap
    · exact not_suffix_of_gap hgap h.blank
  rw [clean, trim_padded hlead (tight_append_suffixes h.tight hne h.followed) htrail,
    dropSuffixes_append hbare]
  have hnone : ([] : List Char).all isBlank = true := rfl
  exact trim_padded hnone h.tight h.blank

/-- White space can be taken away only at the end of a text that begins with something else. -/
theorem exists_gap (h : ∀ c ∈ cs.head?, isBlank c = false) :
    ∃ gap, gap.all isBlank = true ∧ cs = trim cs ++ gap := by
  obtain ⟨lead, trail, hlead, htrail, hcs⟩ := exists_padding cs
  cases lead with
  | nil => exact ⟨trail, htrail, hcs⟩
  | cons c lead =>
    have hblank := List.all_eq_true.mp hlead c List.mem_cons_self
    rw [h c (by rw [hcs]; rfl)] at hblank
    cases hblank

/-- **Every piece** is made up of the name that is collected from it. -/
theorem exists_written (piece : List Char) : ∃ gap n, Written piece (clean piece) gap n := by
  obtain ⟨lead, trail, hlead, htrail, hpiece⟩ := exists_padding piece
  obtain ⟨n, hn, hbare⟩ := exists_dropSuffixes (trim piece)
  have hfirst : ∀ c ∈ (dropSuffixes (trim piece)).head?, isBlank c = false := fun c hc =>
    (tight_trim piece).first c (mem_head?_of_isPrefix ⟨suffixes n, hn.symm⟩ hc)
  obtain ⟨gap, hblank, hgap⟩ := exists_gap hfirst
  refine ⟨gap, n, ⟨lead, trail, hlead, htrail, ?_⟩, tight_trim _, hblank, ?_, ?_⟩
  · rw [clean, ← hgap, ← hn]
    exact hpiece
  · rintro rfl
    have hself : trim (dropSuffixes (trim piece)) = dropSuffixes (trim piece) := by
      rw [trim_eq_self_iff]
      rw [suffixes_zero, List.append_nil] at hn
      exact hn ▸ tight_trim piece
    rw [hself] at hgap
    exact List.self_eq_append_right.mp hgap
  · rintro rfl
    rw [List.append_nil] at hgap
    rwa [clean, ← hgap]

/-! ## Names -/

/-- White space stands between two suffixes at the end of a piece. -/
def Interrupted (piece : List Char) : Prop :=
  ∃ stem gap n, gap ≠ [] ∧ gap.all isBlank = true ∧
    trim piece = stem ++ suffix ++ gap ++ suffixes (n + 1)

/-- **The pieces of which a name is collected that still ends in a suffix.** -/
theorem suffix_clean_iff : suffix <:+ clean piece ↔ Interrupted piece := by
  constructor
  · intro hsuffix
    have hne : clean piece ≠ [] := by
      intro hnil
      rw [hnil] at hsuffix
      exact absurd (List.suffix_nil.mp hsuffix) (by decide)
    obtain ⟨gap, n, h⟩ := exists_written piece
    obtain ⟨lead, trail, hlead, htrail, hpiece⟩ := h.padded
    obtain ⟨stem, hstem⟩ := hsuffix
    have hgap : gap ≠ [] := fun hnil => h.bare hnil ⟨stem, hstem⟩
    obtain ⟨n, rfl⟩ : ∃ k, n = k + 1 :=
      Nat.exists_eq_succ_of_ne_zero fun hzero => hgap (h.followed hzero)
    refine ⟨stem, gap, n, hgap, h.blank, ?_⟩
    have htrim := trim_padded hlead (tight_append_suffixes h.tight hne h.followed) htrail
    rwa [← hpiece, ← hstem] at htrim
  · rintro ⟨stem, gap, n, hgap, hblank, htrim⟩
    obtain ⟨lead, trail, hlead, htrail, hpiece⟩ := exists_padding piece
    have htight : Tight (stem ++ suffix) := by
      refine ⟨fun c hc => ?_, fun c hc => ?_⟩
      · refine (tight_trim piece).first c (mem_head?_of_isPrefix ?_ hc)
        exact ⟨gap ++ suffixes (n + 1), by rw [htrim, List.append_assoc (stem ++ suffix)]⟩
      · rw [List.getLast?_append] at hc
        cases hc
        decide
    have hwritten : Written piece (stem ++ suffix) gap (n + 1) :=
      ⟨⟨lead, trail, hlead, htrail, htrim ▸ hpiece⟩, htight, hblank, nofun,
        fun hnil => absurd hnil hgap⟩
    have hne : stem ++ suffix ≠ [] := List.append_ne_nil_of_right_ne_nil stem (by decide)
    exact ⟨stem, (clean_of_written hne hwritten).symm⟩

theorem clean_eq_self_iff (h : Tight name) (hne : name ≠ []) :
    clean name = name ↔ ¬ suffix <:+ name := by
  constructor
  · intro hself
    obtain ⟨n, hn, hnone⟩ := exists_dropSuffixes name
    have hshort : (clean name).length ≤ (dropSuffixes name).length := by
      rw [clean, trim_eq_self_iff.mpr h]
      exact List.IsInfix.length_le (trim_isInfix _)
    rw [hself] at hshort
    have hfirst : dropSuffixes name <+: name := ⟨suffixes n, hn.symm⟩
    rwa [hfirst.eq_of_length_le hshort] at hnone
  · intro hbare
    have hpadded : name = [] ++ (name ++ [] ++ suffixes 0) ++ [] := by simp [suffixes_zero]
    exact clean_of_written hne
      ⟨⟨[], [], rfl, rfl, hpadded⟩, h, rfl, fun _ => rfl, fun _ => hbare⟩

def pieces (text : String) : List (List Char) :=
  match after? marker text.toList with
  | none => []
  | some rest => listed rest

theorem libraries_eq (text : String) : libraries text
    = (((pieces text).map clean).filter (!·.isEmpty)).map String.ofList := by
  rw [libraries, pieces]
  cases after? marker text.toList with
  | none => rfl
  | some rest => rfl

theorem mem_libraries_iff {text name : String} : name ∈ libraries text ↔
    name ≠ "" ∧ ∃ piece ∈ pieces text, clean piece = name.toList := by
  rw [libraries_eq, List.mem_map]
  constructor
  · rintro ⟨cs, hcs, rfl⟩
    obtain ⟨hmem, hne⟩ := List.mem_filter.mp hcs
    obtain ⟨piece, hpiece, rfl⟩ := List.mem_map.mp hmem
    refine ⟨?_, piece, hpiece, String.toList_ofList.symm⟩
    rw [ne_eq, String.ofList_eq_empty_iff]
    simpa using hne
  · rintro ⟨hne, piece, hpiece, hclean⟩
    refine ⟨name.toList, List.mem_filter.mpr ⟨List.mem_map.mpr ⟨piece, hpiece, hclean⟩, ?_⟩,
      String.ofList_toList⟩
    simpa using hne

theorem bracketed?_subset {inner : List Char} (h : bracketed? cs = some inner) : inner ⊆ cs := by
  unfold bracketed? at h
  split at h
  · rename_i rest
    split at h
    · cases h
      exact List.Subset.trans (List.dropLast_subset rest) (List.subset_cons_self '[' rest)
    · cases h
  · cases h

theorem item?_subset {line item : List Char} (h : item? line = some item) : item ⊆ line := by
  unfold item? at h
  split at h
  · rename_i rest hrest
    cases h
    have hsubset : item ⊆ trimStart line := by
      rw [hrest]
      exact List.subset_cons_self '-' item
    exact List.Subset.trans hsubset (List.dropWhile_suffix isBlank).subset
  · cases h

theorem exists_line_of_mem_items {lines : List (List Char)} (h : piece ∈ items lines) :
    ∃ line ∈ lines, item? line = some piece := by
  induction lines with
  | nil => cases h
  | cons line rest ih =>
    rw [items] at h
    split at h
    · rename_i item hitem
      rcases List.mem_cons.mp h with rfl | h
      · exact ⟨line, List.mem_cons_self, hitem⟩
      · obtain ⟨other, hmem, hother⟩ := ih h
        exact ⟨other, List.mem_cons_of_mem line hmem, hother⟩
    · cases h

theorem feed_not_mem_pieces {text : String} (h : piece ∈ pieces text) : '\n' ∉ piece := by
  unfold pieces at h
  split at h
  · cases h
  rename_i rest _
  unfold listed at h
  dsimp only at h
  split at h
  · rename_i inner hinner
    have hinner : inner ⊆ (lines rest).head?.getD [] :=
      List.Subset.trans (bracketed?_subset hinner) (List.IsInfix.subset (trim_isInfix _))
    intro hfeed
    have hfirst := hinner (splitAt_subset h hfeed)
    cases hlines : lines rest with
    | nil =>
      rw [hlines] at hfirst
      cases hfirst
    | cons line others =>
      rw [hlines] at hfirst
      exact not_mem_of_mem_lines (hlines ▸ List.mem_cons_self) hfirst
  · obtain ⟨line, hline, hitem⟩ := exists_line_of_mem_items h
    exact fun hfeed => not_mem_of_mem_lines (List.mem_of_mem_tail hline) (item?_subset hitem hfeed)

/-- **The names of a text** are not empty, have no white space around them and stand on one line.
Each is left as it is when it is cleaned again, unless it ends in a suffix; and none does exactly
if in no piece that the text lists white space stands between two suffixes at the end. -/
theorem libraries_clean (text : String) :
    (∀ name ∈ libraries text, name ≠ "" ∧ trimmed name = name ∧ '\n' ∉ name.toList ∧
      (clean name.toList = name.toList ↔ ¬ suffix <:+ name.toList)) ∧
    ((∀ name ∈ libraries text, ¬ suffix <:+ name.toList) ↔
      ∀ piece ∈ pieces text, ¬ Interrupted piece) := by
  constructor
  · intro name hname
    obtain ⟨hne, piece, hpiece, hclean⟩ := mem_libraries_iff.mp hname
    have htight : Tight name.toList := hclean ▸ tight_trim _
    refine ⟨hne, trimmed_eq_self_iff.mpr htight, fun hfeed => ?_, clean_eq_self_iff htight ?_⟩
    · obtain ⟨gap, n, hwritten⟩ := exists_written piece
      obtain ⟨lead, trail, -, -, hpadded⟩ := hwritten.padded
      refine feed_not_mem_pieces hpiece ?_
      rw [hpadded, hclean]
      simp [hfeed]
    · simpa using hne
  · simp only [← suffix_clean_iff]
    constructor
    · intro hnames piece hpiece hsuffix
      refine hnames (String.ofList (clean piece)) (mem_libraries_iff.mpr ⟨?_, piece, hpiece, ?_⟩) ?_
      · intro hempty
        rw [String.ofList_eq_empty_iff.mp hempty] at hsuffix
        exact absurd (List.suffix_nil.mp hsuffix) (by decide)
      · rw [String.toList_ofList]
      · rwa [String.toList_ofList]
    · intro hpieces name hname
      obtain ⟨-, piece, hpiece, hclean⟩ := mem_libraries_iff.mp hname
      rw [← hclean]
      exact hpieces piece hpiece

/-- **A suffix before white space stays** on the name, and cleaning the name again drops it. -/
theorem suffix_stays : libraries "Load libraries: [a.sprx .sprx]" = ["a.sprx"] ∧
    suffix <:+ "a.sprx".toList ∧ clean "a.sprx".toList = "a".toList := by
  decide +kernel

end Libraries

end LogTriage
