import LogTriage.Report.Basic

/-!
# How lines are packed

Lines are packed greedily.  A segment begins with a line that is not blank, takes the lines that
follow as long as they fit, and ends before one that does not; blank lines before the next segment
are left out.  A blank line is one without any character.  `Packs` says so of lines and the groups
that they are packed into, without the algorithm; there is only one way to pack.

* `length_truncate`   a line that is cut has just as many characters as it may have;
* `exists_packs`      what packing does from any point on, with the segment at hand;
* `Packs.unique`      the groups are told by the lines;
* `fence_packs`       the segments of lines.
-/

namespace LogTriage.Report

/-! ## Groups of lines -/

/-- A line as it stands in a body, with a line feed; one for which no body has room is cut. -/
def shown (budget : Nat) (line : String) : String :=
  (if line.length ≤ budget - 1 then line else (Text.take (budget - 2) line).push '…').push '\n'

def bodyOf (budget : Nat) (group : List String) : String := String.join (group.map (shown budget))

/-- The first line after a group does not fit into its body. -/
def Full (budget : Nat) (group rest : List String) : Prop :=
  ∀ next ∈ rest.head?, budget < (bodyOf budget group).length + (shown budget next).length

/-- The lines are packed into the groups. -/
inductive Packs (budget : Nat) : List String → List (List String) → Prop where
  | nil : Packs budget [] []
  /-- A blank line that would begin a segment is left out. -/
  | blank {rest : List String} {groups : List (List String)} (h : Packs budget rest groups) :
    Packs budget ("" :: rest) groups
  /-- A segment takes lines as long as they fit. -/
  | segment {first : String} {more rest : List String} {groups : List (List String)}
    (begins : first ≠ "") (fits : (bodyOf budget (first :: more)).length ≤ budget)
    (ends : Full budget (first :: more) rest) (h : Packs budget rest groups) :
    Packs budget (first :: more ++ rest) ((first :: more) :: groups)

variable {budget max : Nat} {line : String} {group lines : List String}
  {groups : List (List String)}

theorem length_truncate (h : 0 < max) (s : String) :
    (truncate max s).length = min s.length max := by
  unfold truncate
  split
  · omega
  · rename_i hlong
    rw [String.length_push, Text.take, String.length_ofList, List.length_take, String.length_toList]
    omega

theorem bodyOf_append (budget : Nat) (group more : List String) :
    bodyOf budget (group ++ more) = bodyOf budget group ++ bodyOf budget more := by
  rw [bodyOf, List.map_append, String.join_append]
  rfl

theorem bodyOf_singleton (budget : Nat) (line : String) :
    bodyOf budget [line] = shown budget line := by
  rw [bodyOf, List.map_singleton, String.join_cons, String.join_nil, String.append_empty]

theorem shown_eq (budget : Nat) (line : String) :
    shown budget line = (truncate (budget - 1) line).push '\n' := rfl

theorem length_shown_pos (budget : Nat) (line : String) : 0 < (shown budget line).length := by
  rw [shown, String.length_push]
  omega

theorem length_shown_le (h : 2 ≤ budget) (line : String) : (shown budget line).length ≤ budget := by
  have hlength := length_truncate (show 0 < budget - 1 by omega) line
  rw [shown_eq, String.length_push]
  omega

theorem bodyOf_eq_empty_iff : bodyOf budget group = "" ↔ group = [] := by
  cases group with
  | nil => exact iff_of_true rfl rfl
  | cons line group =>
    refine iff_of_false (fun h => ?_) (List.cons_ne_nil line group)
    have hpos := length_shown_pos budget line
    rw [← List.singleton_append, bodyOf_append, bodyOf_singleton, ← String.length_eq_zero_iff,
      String.length_append] at h
    omega

theorem truncate_isEmpty (h : 2 ≤ budget) :
    (truncate (budget - 1) line).isEmpty = true ↔ line = "" := by
  have hlength := length_truncate (show 0 < budget - 1 by omega) line
  rw [String.isEmpty_iff, ← String.length_eq_zero_iff, ← String.length_eq_zero_iff]
  omega

/-! ## Packing -/

theorem append_bodyOf (budget : Nat) (group done : List String) (line : String) :
    Packing.append { body := bodyOf budget group, done } (truncate (budget - 1) line)
      = { body := bodyOf budget (group ++ [line]), done } := by
  rw [Packing.append, bodyOf_append, bodyOf_singleton, shown_eq, String.push_eq_append,
    String.push_eq_append, String.append_assoc]

/-- **What is done with a line** after a group: it is left out, it fits, or the segment ends. -/
theorem add_cases (h : 2 ≤ budget) (group done : List String) (line : String) :
    let p : Packing := { body := bodyOf budget group, done }
    (group = [] ∧ line = "" ∧ p.add budget line = p) ∨
    (¬ (group = [] ∧ line = "") ∧ (bodyOf budget (group ++ [line])).length ≤ budget ∧
      p.add budget line = { body := bodyOf budget (group ++ [line]), done }) ∨
    (Full budget group [line] ∧ p.add budget line =
      { body := bodyOf budget (if line = "" then [] else [line])
        done := bodyOf budget group :: done }) := by
  intro p
  have hblank : (p.body.isEmpty && line.isEmpty) = true ↔ group = [] ∧ line = "" := by
    rw [Bool.and_eq_true, String.isEmpty_iff, String.isEmpty_iff, bodyOf_eq_empty_iff]
  have hshown : (truncate (budget - 1) line).length + 1 = (shown budget line).length :=
    (String.length_push _).symm
  unfold Packing.add
  by_cases hb : group = [] ∧ line = ""
  · rw [if_pos (hblank.mpr hb)]
    exact .inl ⟨hb.1, hb.2, rfl⟩
  rw [if_neg (fun hc => hb (hblank.mp hc))]
  dsimp only
  rw [hshown]
  by_cases hover : budget < (bodyOf budget group).length + (shown budget line).length
  · refine .inr (.inr ⟨by simpa [Full] using hover, ?_⟩)
    rw [if_pos hover]
    simp only [truncate_isEmpty h]
    split
    · rfl
    · exact append_bodyOf budget [] _ line
  · refine .inr (.inl ⟨hb, ?_, ?_⟩)
    · rw [bodyOf_append, bodyOf_singleton, String.length_append]
      omega
    · rw [if_neg hover]
      exact append_bodyOf budget group done line

/-- A group that a segment may begin with. -/
structure Begun (budget : Nat) (group : List String) : Prop where
  begins : ∀ first ∈ group.head?, first ≠ ""
  fits : (bodyOf budget group).length ≤ budget

theorem Packs.of_begun (h : Packs budget lines groups) (hb : Begun budget group)
    (hne : group ≠ []) (hf : Full budget group lines) :
    Packs budget (group ++ lines) (group :: groups) := by
  cases group with
  | nil => exact absurd rfl hne
  | cons first more => exact .segment (hb.begins first rfl) hb.fits hf h

/-- **What packing does** from any point on, with the segment at hand. -/
theorem exists_packs (h : 2 ≤ budget) (hb : Begun budget group) (done lines : List String) :
    ∃ groups, Packs budget (group ++ lines) groups ∧
      (lines.foldl (Packing.add budget) { body := bodyOf budget group, done }).bodies
        = done.reverse ++ groups.map (bodyOf budget) := by
  induction lines generalizing group done with
  | nil =>
    rw [List.append_nil, List.foldl_nil, Packing.bodies]
    dsimp only
    simp only [String.isEmpty_iff, bodyOf_eq_empty_iff]
    by_cases hg : group = []
    · rw [if_pos hg, hg]
      exact ⟨[], .nil, by rw [List.map_nil, List.append_nil]⟩
    · have hpacks := Packs.nil.of_begun hb hg nofun
      rw [List.append_nil] at hpacks
      rw [if_neg hg]
      exact ⟨[group], hpacks, List.reverse_cons⟩
  | cons line lines ih =>
    rw [List.foldl_cons]
    rcases add_cases h group done line with ⟨rfl, rfl, he⟩ | ⟨hblank, hfits, he⟩ | ⟨hfull, he⟩
    · obtain ⟨groups, hpacks, hbodies⟩ := ih hb done
      rw [he]
      exact ⟨groups, .blank hpacks, hbodies⟩
    · have hbegun : Begun budget (group ++ [line]) := by
        refine ⟨fun first hfirst => ?_, hfits⟩
        cases group with
        | nil =>
          rw [List.nil_append, List.head?_cons, Option.mem_some_iff] at hfirst
          exact fun hempty => hblank ⟨rfl, hfirst.trans hempty⟩
        | cons head group => exact hb.begins first hfirst
      obtain ⟨groups, hpacks, hbodies⟩ := ih hbegun done
      rw [List.append_assoc, List.singleton_append] at hpacks
      rw [he]
      exact ⟨groups, hpacks, hbodies⟩
    · have hbegun : Begun budget (if line = "" then [] else [line]) := by
        split
        · exact ⟨nofun, Nat.zero_le _⟩
        · rename_i hline
          refine ⟨fun first hfirst => ?_, ?_⟩
          · rw [List.head?_cons, Option.mem_some_iff] at hfirst
            exact fun hempty => hline (hfirst.trans hempty)
          · rw [bodyOf_singleton]
            exact length_shown_le h line
      have hne : group ≠ [] := by
        rintro rfl
        have hle := length_shown_le h line
        have hlt : budget < 0 + (shown budget line).length := hfull line rfl
        omega
      obtain ⟨groups, hpacks, hbodies⟩ := ih hbegun (bodyOf budget group :: done)
      have hrest : Packs budget (line :: lines) groups := by
        by_cases hline : line = ""
        · rw [if_pos hline] at hpacks
          rw [hline]
          exact .blank hpacks
        · rw [if_neg hline] at hpacks
          exact hpacks
      rw [he]
      refine ⟨group :: groups, hrest.of_begun hb hne hfull, ?_⟩
      rw [hbodies, List.reverse_cons, List.append_assoc]
      rfl

/-! ## What follows -/

theorem Packs.sublist (h : Packs budget lines groups) : groups.flatten.Sublist lines := by
  induction h with
  | nil => exact .slnil
  | blank _ ih => exact ih.cons ""
  | segment _ _ _ _ ih => exact (List.Sublist.refl _).append ih

theorem Packs.filter_eq (h : Packs budget lines groups) :
    groups.flatten.filter (· ≠ "") = lines.filter (· ≠ "") := by
  induction h with
  | nil => rfl
  | blank _ ih => exact ih
  | segment _ _ _ _ ih => rw [List.flatten_cons, List.filter_append, List.filter_append, ih]

theorem Packs.of_mem (h : Packs budget lines groups) (hg : group ∈ groups) :
    group ≠ [] ∧ (bodyOf budget group).length ≤ budget := by
  induction h with
  | nil => cases hg
  | blank _ ih => exact ih hg
  | segment _ fits _ _ ih =>
    rcases List.mem_cons.mp hg with rfl | hg
    · exact ⟨List.cons_ne_nil _ _, fits⟩
    · exact ih hg

theorem Full.eq_nil {more rest : List String} (hfull : Full budget group (more ++ rest))
    (hfits : (bodyOf budget (group ++ more)).length ≤ budget) : more = [] := by
  cases more with
  | nil => rfl
  | cons next more =>
    have hover : budget < (bodyOf budget group).length + (shown budget next).length :=
      hfull next rfl
    rw [← List.singleton_append, bodyOf_append, bodyOf_append, bodyOf_singleton,
      String.length_append, String.length_append] at hfits
    omega

theorem Packs.cases (h : Packs budget lines groups) : lines = [] ∧ groups = [] ∨
    (∃ rest, lines = "" :: rest ∧ Packs budget rest groups) ∨
    ∃ first more rest groups', lines = first :: (more ++ rest) ∧
      groups = (first :: more) :: groups' ∧ first ≠ "" ∧
      (bodyOf budget (first :: more)).length ≤ budget ∧ Full budget (first :: more) rest ∧
      Packs budget rest groups' := by
  cases h with
  | nil => exact .inl ⟨rfl, rfl⟩
  | blank h => exact .inr (.inl ⟨_, rfl, h⟩)
  | segment begins fits ends h =>
    exact .inr (.inr ⟨_, _, _, _, rfl, rfl, begins, fits, ends, h⟩)

/-- **There is only one way to pack** lines. -/
theorem Packs.unique (h : Packs budget lines groups) :
    ∀ groups', Packs budget lines groups' → groups' = groups := by
  induction h with
  | nil =>
    intro groups' h'
    rcases h'.cases with ⟨-, rfl⟩ | ⟨rest, hl, -⟩ | ⟨first, more, rest, groups', hl, -⟩
    · rfl
    · cases hl
    · cases hl
  | blank _ ih =>
    intro groups' h'
    rcases h'.cases with ⟨hl, -⟩ | ⟨rest, hl, hrest⟩ | ⟨first, more, rest, groups', hl, -, hb, -⟩
    · cases hl
    · cases hl
      exact ih groups' hrest
    · cases hl
      exact absurd rfl hb
  | @segment first more rest groups begins fits ends _ ih =>
    intro groups' h'
    rcases h'.cases with ⟨hl, -⟩ | ⟨rest', hl, -⟩ |
      ⟨first', more', rest', groups', hl, rfl, -, fits', ends', hrest'⟩
    · cases hl
    · cases hl
      exact absurd rfl begins
    · rw [List.cons_append, List.cons.injEq] at hl
      obtain ⟨rfl, hl⟩ := hl
      -- one of the two groups begins with the other, and is full then
      rcases List.append_eq_append_iff.mp hl with ⟨a, rfl, rfl⟩ | ⟨a, rfl, rfl⟩
      · have ha := ends.eq_nil fits'
        rw [ha, List.nil_append] at ih
        rw [ha, List.append_nil, ih groups' hrest']
      · have ha := ends'.eq_nil fits
        rw [ha, List.nil_append] at hrest'
        rw [ha, List.append_nil, ih groups' hrest']

end LogTriage.Report

namespace LogTriage.ReportBuilder
open Report

/-- **The segments of lines.**  The size of a segment is what was asked for, within the bounds.  The
lines are packed into groups, in the only way there is; a segment is the body of a group within its
fences.  It is never empty nor too long, and no line is lost but blank ones. -/
theorem fence_packs (n : Nat) (lines : List String) :
    let b := ReportBuilder.ofSegmentChars n
    let budget := b.segmentChars - 7
    b.segmentChars = max 200 (min 2000 n) ∧
    ∃ groups, Packs budget lines groups ∧
      (∀ groups', Packs budget lines groups' → groups' = groups) ∧
      b.fence lines = groups.map (fun group => fenceOpen ++ bodyOf budget group ++ fenceClose) ∧
      (∀ group ∈ groups, bodyOf budget group ≠ "" ∧
        (fenceOpen ++ bodyOf budget group ++ fenceClose).length ≤ b.segmentChars) ∧
      groups.flatten.Sublist lines ∧ groups.flatten.filter (· ≠ "") = lines.filter (· ≠ "") := by
  intro b budget
  have hchars : b.segmentChars = max 200 (min 2000 n) := rfl
  have hbudget : 2 ≤ budget := by
    show 2 ≤ b.segmentChars - 7
    omega
  have hbegun : Begun budget [] := ⟨nofun, Nat.zero_le _⟩
  obtain ⟨groups, hpacks, hbodies⟩ := exists_packs hbudget hbegun [] lines
  refine ⟨hchars, groups, hpacks, hpacks.unique, ?_, fun group hg => ?_, hpacks.sublist,
    hpacks.filter_eq⟩
  · have hpack : pack budget lines = groups.map (bodyOf budget) := hbodies
    show (pack budget lines).map wrap = _
    rw [hpack, List.map_map]
    rfl
  · obtain ⟨hne, hle⟩ := hpacks.of_mem hg
    refine ⟨fun hempty => hne (bodyOf_eq_empty_iff.mp hempty), ?_⟩
    have hopen : fenceOpen.length = 4 := by decide
    have hclose : fenceClose.length = 3 := by decide
    rw [String.length_append, String.length_append, hopen, hclose]
    have hminus : budget = b.segmentChars - 7 := rfl
    omega

/-- A blank line that fits is kept; one for which there is no room ends the segment, and is left
out. -/
example : pack 4 ["abc", "", "b", "", "cdef"] = ["abc\n", "b\n\n", "cd…\n"] := by decide

end LogTriage.ReportBuilder
