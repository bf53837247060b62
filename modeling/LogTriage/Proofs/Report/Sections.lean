import Mathlib.Data.List.Forall2
import LogTriage.Proofs.Report.Packing

/-!
# How sections are filled

A section takes its lines in order as long as they fit, and none after the first that does not; a
first line for which there is no room is cut.  `Fills` says so of the lines and the body alone.  A
body that is still empty gets no line feed, so a blank first line would be lost: no section has one
with other lines after it.

* `fills_sectionBody`     what the body of a section is;
* `structured_sections`   the sections of a report, and when it has notes.
-/

namespace LogTriage.Report

/-! ## Lines that fit -/

def joined (lines : List String) : String := String.intercalate "\n" lines

/-- The first `n` lines fit into `max` characters, and no more of them do. -/
structure LongestFit (max : Nat) (lines : List String) (n : Nat) : Prop where
  le : n ≤ lines.length
  fits : (joined (lines.take n)).length ≤ max
  longest : ∀ m ≤ lines.length, (joined (lines.take m)).length ≤ max → m ≤ n

inductive Fills (max : Nat) (lines : List String) : String → Prop where
  /-- As many lines as fit. -/
  | whole {n : Nat} (begins : ∀ first ∈ lines.head?, first.length ≤ max)
      (h : LongestFit max lines n) : Fills max lines (joined (lines.take n))
  /-- There is no room even for the first line. -/
  | cut {first : String} (begins : lines.head? = some first) (long : max < first.length) :
      Fills max lines ((Text.take (max - 1) first).push '…')

variable {max n : Nat} {body line : String} {kept lines : List String}

theorem joined_append {more : List String} (h : kept ≠ []) (hmore : more ≠ []) :
    joined (kept ++ more) = joined kept ++ "\n" ++ joined more :=
  String.intercalate_append_of_ne_nil h hmore

theorem joined_singleton (line : String) : joined [line] = line := String.intercalate_singleton

theorem length_joined_le (kept more : List String) :
    (joined kept).length ≤ (joined (kept ++ more)).length := by
  by_cases hkept : kept = []
  · rw [hkept]
    exact Nat.zero_le _
  by_cases hmore : more = []
  · simp [hmore]
  · rw [joined_append hkept hmore, String.length_append, String.length_append]
    omega

theorem length_joined_take_le {m : Nat} (h : m ≤ n) (lines : List String) :
    (joined (lines.take m)).length ≤ (joined (lines.take n)).length := by
  obtain ⟨more, hmore⟩ : lines.take m <+: lines.take n := List.take_prefix_take_left h
  rw [← hmore]
  exact length_joined_le _ _

theorem LongestFit.of_fits (h : (joined lines).length ≤ max) : LongestFit max lines lines.length :=
  ⟨Nat.le_refl _, by rwa [List.take_length], fun _ hm _ => hm⟩

theorem LongestFit.of_lt (hn : n ≤ lines.length) (hfits : (joined (lines.take n)).length ≤ max)
    (hover : max < (joined (lines.take (n + 1))).length) : LongestFit max lines n := by
  refine ⟨hn, hfits, fun m _ hm => Nat.le_of_not_lt fun hlt => ?_⟩
  have hmore := length_joined_take_le (Nat.succ_le_of_lt hlt) lines
  rw [Nat.succ_eq_add_one] at hmore
  omega

theorem truncate_of_lt (h : max < line.length) :
    truncate max line = (Text.take (max - 1) line).push '…' := if_neg (Nat.not_le_of_lt h)

theorem Fills.length_le (h : Fills max lines body) (hmax : 0 < max) : body.length ≤ max := by
  cases h with
  | whole _ h => exact h.fits
  | cut _ long =>
    rw [← truncate_of_lt long, length_truncate hmax]
    exact Nat.min_le_right _ _

/-! ## Filling -/

theorem addLine_joined (h : joined kept ≠ "") (line : String) : addLine (joined kept) line
    = if maxSection < (joined (kept ++ [line])).length then none
      else some (joined (kept ++ [line])) := by
  have hkept : kept ≠ [] := by
    rintro rfl
    exact h rfl
  have hbody : (joined kept).isEmpty = false := by simpa using h
  have hjoined : (joined kept).push '\n' ++ line = joined (kept ++ [line]) := by
    rw [joined_append hkept (List.cons_ne_nil _ _), joined_singleton, String.push_eq_append]
    rfl
  simp only [addLine, hbody, Bool.false_eq_true, if_false, hjoined]

/-- **Lines are added as long as they fit**, and none after the first that does not. -/
theorem exists_sectionBody (h : joined kept ≠ "") (hfits : (joined kept).length ≤ maxSection)
    (lines : List String) : ∃ n, LongestFit maxSection (kept ++ lines) n ∧
      sectionBody (joined kept) lines = joined ((kept ++ lines).take n) := by
  -- by induction on the lines still to come; those that are kept make up the body, which is not
  -- empty, so that each further line gets its line feed
  induction lines generalizing kept with
  | nil =>
    rw [List.append_nil]
    exact ⟨kept.length, .of_fits hfits, by rw [List.take_length]; rfl⟩
  | cons line lines ih =>
    have hgrown := length_joined_le kept [line]
    rw [sectionBody, addLine_joined h]
    by_cases hover : maxSection < (joined (kept ++ [line])).length
    · rw [if_pos hover]
      have hbody : (joined kept).isEmpty = false := by simpa using h
      have hkept : (kept ++ line :: lines).take kept.length = kept := List.take_left
      have hnext : (kept ++ line :: lines).take (kept.length + 1) = kept ++ [line] := by
        rw [List.take_length_add_append]
        rfl
      refine ⟨kept.length, .of_lt (by simp) (by rwa [hkept]) (by rwa [hnext]), ?_⟩
      rw [hkept]
      simp only [hbody, Bool.false_eq_true, if_false]
    · rw [if_neg hover]
      have hne : joined (kept ++ [line]) ≠ "" := by
        rw [ne_eq, ← String.length_eq_zero_iff] at h ⊢
        omega
      have hmore := ih hne (Nat.le_of_not_lt hover)
      rwa [List.append_assoc, List.singleton_append] at hmore

/-- Nothing comes after a blank line that comes first. -/
def Led (lines : List String) : Prop := ∀ first rest, lines = first :: rest → first = "" → rest = []

theorem fills_sectionBody (h : Led lines) : Fills maxSection lines (sectionBody "" lines) := by
  cases lines with
  | nil => exact .whole (n := 0) nofun (.of_fits (Nat.zero_le _))
  | cons first rest =>
    rw [sectionBody]
    by_cases hlong : maxSection < first.length
    · have hnone : addLine "" first = none := if_pos hlong
      rw [hnone]
      show Fills maxSection _ (truncate maxSection first)
      rw [truncate_of_lt hlong]
      exact .cut rfl hlong
    have hsome : addLine "" first = some first := if_neg hlong
    have hfirst : first.length ≤ maxSection := Nat.le_of_not_lt hlong
    have hbegins : ∀ l ∈ (first :: rest).head?, l.length ≤ maxSection := by
      intro l hl
      cases hl
      exact hfirst
    rw [hsome]
    show Fills maxSection _ (sectionBody first rest)
    by_cases hblank : first = ""
    · rw [h first rest rfl hblank]
      rw [h first rest rfl hblank] at hbegins
      have hfits : (joined [first]).length ≤ maxSection := by rwa [joined_singleton]
      have hfills := Fills.whole hbegins (.of_fits hfits)
      rwa [List.take_length, joined_singleton] at hfills
    · have hne : joined [first] ≠ "" := by rwa [joined_singleton]
      have hfits : (joined [first]).length ≤ maxSection := by rwa [joined_singleton]
      obtain ⟨n, hn, hbody⟩ := exists_sectionBody hne hfits rest
      rw [joined_singleton] at hbody
      rw [hbody]
      exact .whole hbegins hn

/-! ## The sections of a report -/

theorem led_of_ne {first : String} {rest : List String} (h : first ≠ "") : Led (first :: rest) := by
  intro first' rest' heq hblank
  cases heq
  exact absurd hblank h

theorem led_append_productLines (p : Product) (more : List String) :
    Led (productLines p ++ more) := by
  unfold productLines
  split
  · exact led_of_ne (by simp)
  · split
    · exact led_of_ne (by simp)
    · exact led_of_ne (by simp)

theorem row_ne_empty (fields : FieldMap) (label : String) (width : Nat) (key label' key' : String) :
    row fields label width key label' key' ≠ "" := by
  simp [row]

theorem led_append_videoLines (fields : FieldMap) (more : List String) :
    Led (videoLines fields ++ more) := led_of_ne (row_ne_empty fields _ _ _ _ _)

theorem led_singleton (line : String) : Led [line] := by
  rintro first rest ⟨⟩ -
  rfl

def outline (a : Analysis) : List (String × List String) :=
  let fields := normalize a.fields
  [ ("Build Info", productLines a.product ++ buildLines fields),
    ("CPU Settings", cpuLines fields),
    ("GPU Settings", videoLines fields ++ driverLines fields)]
  ++ if a.libraries = [] then []
    else [("Selected Libraries", [String.intercalate ", " a.libraries])]

theorem led_outline {a : Analysis} {outlined : String × List String} (h : outlined ∈ outline a) :
    Led outlined.2 := by
  rw [outline, List.mem_append] at h
  rcases h with h | h
  · simp only [List.mem_cons, List.not_mem_nil, or_false] at h
    rcases h with rfl | rfl | rfl
    · exact led_append_productLines a.product _
    · exact led_of_ne (row_ne_empty _ _ _ _ _ _)
    · exact led_append_videoLines _ _
  · split at h
    · cases h
    · rw [List.mem_singleton.mp h]
      exact led_singleton _

theorem sections_structured (b : ReportBuilder) (a : Analysis) :
    (b.structured a).sections
      = (outline a).map fun outlined => sectionOf outlined.1 outlined.2 := by
  unfold ReportBuilder.structured outline
  cases a.libraries <;> rfl

end LogTriage.Report

namespace LogTriage.ReportBuilder
open Report

/-- **The sections of a report** are those of the outline, none of which is cut off; each is filled
with its lines.  There are notes exactly when the analysis is not complete. -/
theorem structured_sections (b : ReportBuilder) (a : Analysis) :
    let report := b.structured a
    report.sections.map (·.name) = ["Build Info", "CPU Settings", "GPU Settings"]
      ++ (if a.libraries = [] then [] else ["Selected Libraries"]) ∧
    List.Forall₂ (fun s outlined => s.name = outlined.1 ∧ s.body.length ≤ 1024 ∧
      Fills 1024 outlined.2 s.body) report.sections (outline a) ∧
    (report.notes = [] ↔ a.complete = true) := by
  intro report
  have hsections : report.sections = _ := sections_structured b a
  refine ⟨?_, ?_, ?_⟩
  · rw [hsections, List.map_map, outline]
    split <;> rfl
  · rw [hsections, List.forall₂_map_left_iff, List.forall₂_same]
    intro outlined h
    have hfills := fills_sectionBody (led_outline h)
    exact ⟨rfl, hfills.length_le (by decide), hfills⟩
  · show (if a.complete then [] else [partialNote]) = [] ↔ _
    cases a.complete <;> simp

end LogTriage.ReportBuilder
