import Mathlib.Data.List.Forall2
import LogTriage.Proofs.Libraries.Names

/-!
# The two notations of a list of libraries

The names stand in brackets on the line of the marker, or on lines of their own after it.  The first
notation is cut at its commas and the second at its line feeds, and either way the same names are
collected.

* `collected_of_spelled`    the names that are collected from pieces of a certain form;
* `spelled_bracketed`       what the first notation lists, and
* `spelled_items`           what the second one does;
* `libraries_of_notations`  the names that a text gives in either of them.
-/

namespace LogTriage

namespace Libraries
open Text

variable {line rest brk stop : List Char}

/-- A name that can be listed in both notations. -/
structure Listable (name : String) : Prop where
  ne_empty : name ≠ ""
  trimmed : trimmed name = name
  feed : '\n' ∉ name.toList
  comma : ',' ∉ name.toList
  bare : ¬ suffix <:+ name.toList

structure Row where
  indent : String
  name : String
  blank : blank indent = true
  feed : '\n' ∉ indent.toList
  listable : Listable name

def IsBreak (brk : String) : Prop := brk = "\n" ∨ brk = "\r\n"

/-- A text whose first line begins with a dash, after white space. -/
def Dashed (text : String) : Prop :=
  ∃ gap rest, gap.all isBlank = true ∧ '\n' ∉ gap ∧ text.toList = gap ++ '-' :: rest

def bracketList (names : List String) : String :=
  "Load libraries: [" ++ String.intercalate ", " (names.map (· ++ ".sprx")) ++ "]"

def dashList (brk : String) (rows : List Row) : String :=
  "Load libraries:" ++ String.join
    (rows.map fun row => brk ++ (row.indent ++ "- " ++ row.name ++ ".sprx"))

/-! ## Pieces -/

def Spelled (piece : List Char) (name : String) : Prop :=
  ∃ lead, lead.all isBlank = true ∧ piece = lead ++ name.toList ++ suffix

theorem Listable.clean_eq {name : String} (h : Listable name) {piece : List Char}
    (hpiece : Spelled piece name) : clean piece = name.toList := by
  obtain ⟨lead, hlead, rfl⟩ := hpiece
  have hne : name.toList ≠ [] := by simpa using h.ne_empty
  have hpadded : lead ++ name.toList ++ suffix
      = lead ++ (name.toList ++ [] ++ suffixes 1) ++ [] := by simp [suffixes]
  exact clean_of_written hne ⟨⟨lead, [], hlead, rfl, hpadded⟩,
    trimmed_eq_self_iff.mp h.trimmed, rfl, fun _ => rfl, fun _ => h.bare⟩

/-- **The names that are collected** from pieces that list them. -/
theorem collected_of_spelled {pieces : List (List Char)} {names : List String}
    (h : List.Forall₂ Spelled pieces names) (hnames : ∀ name ∈ names, Listable name) :
    ((pieces.map clean).filter (!·.isEmpty)).map String.ofList = names := by
  induction h with
  | nil => rfl
  | @cons piece name pieces names hpiece _ ih =>
    obtain ⟨hname, hnames⟩ := List.forall_mem_cons.mp hnames
    have hne : (!name.toList.isEmpty) = true := by simpa using hname.ne_empty
    rw [List.map_cons, hname.clean_eq hpiece, List.filter_cons, if_pos hne, List.map_cons,
      String.ofList_toList, ih hnames]

/-! ## In brackets -/

theorem splitAt_intercalate {lead piece : List Char} {pieces : List (List Char)}
    (hlead : ',' ∉ lead) (h : ∀ piece' ∈ piece :: pieces, ',' ∉ piece') :
    splitAt ',' (lead ++ [',', ' '].intercalate (piece :: pieces))
      = (lead ++ piece) :: pieces.map (' ' :: ·) := by
  induction pieces generalizing lead piece with
  | nil =>
    rw [List.intercalate_singleton]
    exact splitAt_of_not_mem (List.not_mem_append hlead (h piece List.mem_cons_self))
  | cons next pieces ih =>
    obtain ⟨hpiece, hpieces⟩ := List.forall_mem_cons.mp h
    have hsplit : lead ++ [',', ' '].intercalate (piece :: next :: pieces)
        = (lead ++ piece) ++ ',' :: ([' '] ++ [',', ' '].intercalate (next :: pieces)) := by
      rw [List.intercalate_cons_cons]
      simp
    rw [hsplit, splitAt_append_cons, splitAt_of_not_mem (List.not_mem_append hlead hpiece),
      ih (by decide) hpieces]
    rfl

theorem comma_not_mem_append_suffix {name : String} (h : Listable name) :
    ',' ∉ name.toList ++ suffix := List.not_mem_append h.comma (by decide)

def bracketed (names : List String) : List Char :=
  [',', ' '].intercalate (names.map fun name => name.toList ++ suffix)

theorem toList_enclosed (first sep last : String) (parts : List String) :
    (first ++ String.intercalate sep parts ++ last).toList
      = first.toList ++ sep.toList.intercalate (parts.map String.toList) ++ last.toList := by
  rw [String.toList_append, String.toList_append, String.toList_intercalate]

theorem toList_bracketList (names : List String) :
    (bracketList names).toList = marker ++ (' ' :: ('[' :: bracketed names ++ [']'])) := by
  have hmarker : "Load libraries: [".toList = marker ++ [' ', '['] := by decide
  have hsep : ", ".toList = [',', ' '] := by decide
  have hlast : "]".toList = [']'] := by decide
  have hnames : (names.map (· ++ ".sprx")).map String.toList
      = names.map fun name => name.toList ++ suffix := by
    rw [List.map_map]
    refine List.map_congr_left fun name _ => ?_
    exact String.toList_append
  have hinner : ", ".toList.intercalate ((names.map (· ++ ".sprx")).map String.toList)
      = bracketed names := congrArg₂ List.intercalate hsep hnames
  calc (bracketList names).toList
      = "Load libraries: [".toList
          ++ ", ".toList.intercalate ((names.map (· ++ ".sprx")).map String.toList)
          ++ "]".toList := toList_enclosed _ _ _ _
    _ = (marker ++ [' ', '[']) ++ bracketed names ++ [']'] :=
      congrArg₂ (· ++ ·) (congrArg₂ (· ++ ·) hmarker hinner) hlast
    _ = marker ++ (' ' :: ('[' :: bracketed names ++ [']'])) := by simp

theorem feed_not_mem_bracketed {names : List String} (h : ∀ name ∈ names, Listable name) :
    '\n' ∉ bracketed names := by
  have hpiece {name : String} (hname : Listable name) : '\n' ∉ name.toList ++ suffix :=
    List.not_mem_append hname.feed (by decide)
  induction names with
  | nil => exact List.not_mem_nil
  | cons name names ih =>
    obtain ⟨hname, hnames⟩ := List.forall_mem_cons.mp h
    rw [bracketed, List.map_cons]
    cases names with
    | nil =>
      rw [List.map_nil, List.intercalate_singleton]
      exact hpiece hname
    | cons next names =>
      rw [List.map_cons, List.intercalate_cons_cons]
      exact List.not_mem_append (List.not_mem_append (hpiece hname) (by decide)) (ih hnames)

/-- **What the names in brackets are cut into**; without names there is an empty piece. -/
theorem spelled_bracketed {names : List String} (h : ∀ name ∈ names, Listable name)
    (hne : names ≠ []) : List.Forall₂ Spelled (splitAt ',' (bracketed names)) names := by
  obtain ⟨name, names, rfl⟩ := List.exists_cons_of_ne_nil hne
  obtain ⟨hname, hnames⟩ := List.forall_mem_cons.mp h
  have hcomma : ∀ piece ∈ (name.toList ++ suffix) :: names.map (·.toList ++ suffix),
      ',' ∉ piece := by
    refine List.forall_mem_cons.mpr ⟨comma_not_mem_append_suffix hname, fun piece hpiece => ?_⟩
    obtain ⟨other, hother, rfl⟩ := List.mem_map.mp hpiece
    exact comma_not_mem_append_suffix (hnames other hother)
  have hnone : ',' ∉ ([] : List Char) := List.not_mem_nil
  have hsplit := splitAt_intercalate hnone hcomma
  rw [List.nil_append] at hsplit
  rw [bracketed, List.map_cons, hsplit, List.nil_append, List.map_map]
  refine .cons ⟨[], rfl, rfl⟩ ?_
  rw [List.forall₂_map_left_iff]
  exact List.forall₂_same.mpr fun other _ => ⟨[' '], by decide, rfl⟩

/-! ## On lines of their own -/

def Row.text (row : Row) : List Char :=
  row.indent.toList ++ '-' :: ' ' :: (row.name.toList ++ suffix)

/-- The line ends here, with the text or with a break. -/
def Ends (brk rest : List Char) : Prop := rest = [] ∨ ∃ more, rest = brk ++ more

theorem lines_append_break {brk : String} (hbrk : IsBreak brk) (hfeed : '\n' ∉ line)
    (hreturn : line.getLast? ≠ some '\r') (rest : List Char) :
    lines (line ++ (brk.toList ++ rest)) = line :: lines rest := by
  rcases hbrk with rfl | rfl
  · have hline : dropReturn line = line := if_neg hreturn
    exact (lines_append_feed hfeed rest).trans (by rw [hline])
  · have hline : dropReturn (line ++ ['\r']) = line := by
      rw [dropReturn, if_pos List.getLast?_concat, List.dropLast_concat]
    have hreturned : '\n' ∉ line ++ ['\r'] := List.not_mem_append hfeed (by decide)
    have hsplit : line ++ ("\r\n".toList ++ rest) = (line ++ ['\r']) ++ '\n' :: rest := by
      rw [List.append_assoc]
      rfl
    rw [hsplit, lines_append_feed hreturned, hline]

theorem lines_append_ends {brk : String} (hbrk : IsBreak brk) (hfeed : '\n' ∉ line)
    (hreturn : line.getLast? ≠ some '\r') (hrest : Ends brk.toList rest) :
    (lines (line ++ rest)).head?.getD [] = line ∧
      (line ≠ [] → lines (line ++ rest) = line :: (lines (line ++ rest)).tail) := by
  rcases hrest with rfl | ⟨more, rfl⟩
  · rw [List.append_nil, lines_of_not_mem hfeed]
    cases line with
    | nil => exact ⟨rfl, fun hne => absurd rfl hne⟩
    | cons c cs => exact ⟨rfl, fun _ => rfl⟩
  · rw [lines_append_break hbrk hfeed hreturn]
    exact ⟨rfl, fun _ => rfl⟩

theorem listed_bracketed {brk : String} (hbrk : IsBreak brk) {inner : List Char}
    (hfeed : '\n' ∉ inner) (hrest : Ends brk.toList rest) :
    listed (' ' :: ('[' :: inner ++ [']']) ++ rest) = splitAt ',' inner := by
  have hclosed : '\n' ∉ ' ' :: ('[' :: inner ++ [']']) := by
    simp only [List.mem_cons, List.mem_append, List.cons_append, List.not_mem_nil, not_or, or_false]
    exact ⟨by decide, by decide, hfeed, by decide⟩
  have hlast : (' ' :: ('[' :: inner ++ [']'])).getLast? = some ']' := by
    rw [← List.cons_append, List.getLast?_concat]
  have hreturn : (' ' :: ('[' :: inner ++ [']'])).getLast? ≠ some '\r' := by
    rw [hlast]
    decide
  have htight : Tight ('[' :: inner ++ [']']) := by
    refine ⟨fun c hc => ?_, fun c hc => ?_⟩
    · cases hc
      decide
    · rw [List.getLast?_concat] at hc
      cases hc
      decide
  have htrim : trim (' ' :: ('[' :: inner ++ [']'])) = '[' :: inner ++ [']'] := by
    have hlead : [' '].all isBlank = true := by decide
    have htrail : ([] : List Char).all isBlank = true := rfl
    have hpadded := trim_padded hlead htight htrail
    rwa [List.append_nil, List.singleton_append] at hpadded
  have hinner : bracketed? ('[' :: inner ++ [']']) = some inner := by
    rw [List.cons_append, bracketed?, if_pos List.getLast?_concat, List.dropLast_concat]
  rw [listed, (lines_append_ends hbrk hclosed hreturn hrest).1, htrim, hinner]

namespace Row
variable (row : Row)

theorem feed_not_mem_text : '\n' ∉ row.text := by
  have hname : '\n' ∉ row.name.toList ++ suffix :=
    List.not_mem_append row.listable.feed (by decide)
  refine List.not_mem_append row.feed ?_
  simp only [List.mem_cons, not_or]
  exact ⟨by decide, by decide, hname⟩

theorem getLast?_text : row.text.getLast? = some 'x' := by
  have htext : row.text = (row.indent.toList ++ '-' :: ' ' :: row.name.toList) ++ suffix := by
    simp [text]
  rw [htext, List.getLast?_append]
  rfl

theorem text_ne_nil : row.text ≠ [] := List.append_ne_nil_of_right_ne_nil _ (List.cons_ne_nil _ _)

theorem item?_text : item? row.text = some (' ' :: (row.name.toList ++ suffix)) := by
  have hstart : trimStart row.text = '-' :: ' ' :: (row.name.toList ++ suffix) := by
    rw [text, trimStart_append row.blank]
    exact List.dropWhile_cons_of_neg (by decide)
  unfold item?
  rw [hstart]
  rfl

end Row

theorem prefix_of_lines {cs : List Char} {others : List (List Char)}
    (h : lines cs = line :: others) : line <+: cs := by
  by_cases hfeed : '\n' ∈ cs
  · obtain ⟨first, rest, rfl, hfirst⟩ := List.eq_append_cons_of_mem hfeed
    rw [lines_append_feed hfirst] at h
    obtain ⟨rfl, -⟩ := List.cons.inj h
    have hdropped : dropReturn first <+: first := by
      unfold dropReturn
      split
      · exact List.dropLast_prefix first
      · exact List.prefix_rfl
    exact hdropped.trans (List.prefix_append first _)
  · rw [lines_of_not_mem hfeed] at h
    split at h
    · cases h
    · obtain ⟨rfl, -⟩ := List.cons.inj h
      exact List.prefix_rfl

theorem items_of_not_dashed {text : String} (h : ¬ Dashed text) :
    items (lines text.toList) = [] := by
  cases hlines : lines text.toList with
  | nil => rfl
  | cons line others =>
    rw [items]
    cases hitem : item? line with
    | none => rfl
    | some item =>
      have hstart : trimStart line = '-' :: item := by
        unfold item? at hitem
        split at hitem
        · rename_i rest hrest
          rw [hrest, Option.some.inj hitem]
        · cases hitem
      obtain ⟨rest, hrest⟩ := prefix_of_lines hlines
      have hsplit : line.takeWhile isBlank ++ '-' :: item = line := by
        rw [← hstart]
        exact List.takeWhile_append_dropWhile
      refine absurd ⟨line.takeWhile isBlank, item ++ rest, List.all_takeWhile, ?_, ?_⟩ h
      · have hfeed : '\n' ∉ line := not_mem_of_mem_lines (hlines ▸ List.mem_cons_self)
        exact fun hmem => hfeed ((List.takeWhile_prefix isBlank).subset hmem)
      · rw [← hrest, ← List.cons_append, ← List.append_assoc, hsplit]

def rowsText (brk : String) (rows : List Row) (stop : String) : List Char :=
  rows.flatMap (fun row => brk.toList ++ row.text) ++ stop.toList

theorem ends_rowsText {brk : String} {stop : String} (hstop : Ends brk.toList stop.toList)
    (rows : List Row) : Ends brk.toList (rowsText brk rows stop) := by
  cases rows with
  | nil => exact hstop
  | cons row rows =>
    refine .inr ⟨row.text ++ rowsText brk rows stop, ?_⟩
    simp [rowsText]

/-- **What the lines after a line list**, up to one that is no item. -/
theorem spelled_items {brk stop : String} (hbrk : IsBreak brk)
    (hstop : stop = "" ∨ ∃ more, stop = brk ++ more ∧ ¬ Dashed more) (rows : List Row)
    (hfeed : '\n' ∉ line) (hreturn : line.getLast? ≠ some '\r') :
    List.Forall₂ Spelled (items (lines (line ++ rowsText brk rows stop)).tail)
      (rows.map Row.name) := by
  induction rows generalizing line with
  | nil =>
    rw [rowsText, List.flatMap_nil, List.nil_append]
    have hnone : items (lines (line ++ stop.toList)).tail = [] := by
      rcases hstop with rfl | ⟨more, rfl, hmore⟩
      · rw [String.toList_empty, List.append_nil, lines_of_not_mem hfeed]
        split <;> rfl
      · rw [String.toList_append, lines_append_break hbrk hfeed hreturn]
        exact items_of_not_dashed hmore
    rw [hnone]
    exact .nil
  | cons row rows ih =>
    have hends : Ends brk.toList stop.toList := by
      rcases hstop with rfl | ⟨more, rfl, -⟩
      · exact .inl String.toList_empty
      · exact .inr ⟨more.toList, String.toList_append⟩
    have hlast : row.text.getLast? ≠ some '\r' := by
      rw [row.getLast?_text]
      decide
    have hrow := (lines_append_ends hbrk row.feed_not_mem_text hlast
      (ends_rowsText hends rows)).2 row.text_ne_nil
    have hsplit : rowsText brk (row :: rows) stop
        = brk.toList ++ (row.text ++ rowsText brk rows stop) := by simp [rowsText]
    rw [hsplit, lines_append_break hbrk hfeed hreturn, List.tail_cons, hrow, items,
      row.item?_text]
    exact .cons ⟨[' '], by decide, rfl⟩ (ih row.feed_not_mem_text hlast)

theorem toList_row (brk : String) (row : Row) :
    (brk ++ (row.indent ++ "- " ++ row.name ++ ".sprx")).toList = brk.toList ++ row.text := by
  have hdash : "- ".toList = ['-', ' '] := by decide
  calc (brk ++ (row.indent ++ "- " ++ row.name ++ ".sprx")).toList
      = brk.toList ++ (row.indent.toList ++ "- ".toList ++ row.name.toList ++ ".sprx".toList) := by
        simp only [String.toList_append]
    _ = brk.toList ++ (row.indent.toList ++ ['-', ' '] ++ row.name.toList ++ suffix) :=
        congrArg
          (fun dash => brk.toList ++ (row.indent.toList ++ dash ++ row.name.toList ++ suffix)) hdash
    _ = brk.toList ++ row.text := by simp [Row.text]

theorem toList_dashList (brk : String) (rows : List Row) (stop : String) :
    (dashList brk rows).toList ++ stop.toList = marker ++ rowsText brk rows stop := by
  have hrows : (String.join (rows.map fun row =>
      brk ++ (row.indent ++ "- " ++ row.name ++ ".sprx"))).toList
        = rows.flatMap fun row => brk.toList ++ row.text := by
    rw [String.toList_join, List.flatMap_map]
    simp only [toList_row]
  have hlist : (dashList brk rows).toList
      = marker ++ rows.flatMap fun row => brk.toList ++ row.text :=
    String.toList_append.trans (congrArg (marker ++ ·) hrows)
  rw [hlist, rowsText, List.append_assoc]

/-! ## Whole texts -/

theorem libraries_of_marker {before : String}
    (hbefore : before = "" ∨ ∃ lead, before = lead ++ "\n")
    (hmarker : holds before "Load libraries:" = false) {text : String} {rest : List Char}
    (htext : text.toList = before.toList ++ (marker ++ rest)) : libraries text
      = (((listed rest).map clean).filter (!·.isEmpty)).map String.ofList := by
  have hnone : ¬ marker <:+: before.toList := by
    rw [← occurs_iff]
    exact Bool.eq_false_iff.mp hmarker
  have hlast : ∀ c ∈ before.toList.getLast?, c ∉ marker := by
    rcases hbefore with rfl | ⟨lead, rfl⟩
    · exact fun c hc => by cases hc
    · intro c hc
      have hfeed : (lead ++ "\n").toList = lead.toList ++ ['\n'] := String.toList_append
      rw [hfeed, List.getLast?_concat] at hc
      cases hc
      decide
  rw [libraries, htext, after?_append hnone hlast]

/-- **The names that a text gives** in either notation are those that were written: in brackets,
whatever lines follow, or on lines of their own, up to the end or a line that begins with something
else than a dash. -/
theorem libraries_of_notations {before further stop brk : String} (rows : List Row)
    (hbrk : IsBreak brk) (hbefore : before = "" ∨ ∃ lead, before = lead ++ "\n")
    (hmarker : holds before "Load libraries:" = false)
    (hfurther : further = "" ∨ ∃ more, further = brk ++ more)
    (hstop : stop = "" ∨ ∃ more, stop = brk ++ more ∧ ¬ Dashed more) :
    libraries (before ++ bracketList (rows.map Row.name) ++ further) = rows.map Row.name ∧
      libraries (before ++ dashList brk rows ++ stop) = rows.map Row.name := by
  have hnames : ∀ name ∈ rows.map Row.name, Listable name := by
    intro name hname
    obtain ⟨row, -, rfl⟩ := List.mem_map.mp hname
    exact row.listable
  constructor
  · have hends : Ends brk.toList further.toList := by
      rcases hfurther with rfl | ⟨more, rfl⟩
      · exact .inl String.toList_empty
      · exact .inr ⟨more.toList, String.toList_append⟩
    have htext : (before ++ bracketList (rows.map Row.name) ++ further).toList
        = before.toList ++ (marker ++
          (' ' :: ('[' :: bracketed (rows.map Row.name) ++ [']']) ++ further.toList)) := by
      rw [String.toList_append, String.toList_append, toList_bracketList, List.append_assoc,
        List.append_assoc]
    rw [libraries_of_marker hbefore hmarker htext,
      listed_bracketed hbrk (feed_not_mem_bracketed hnames) hends]
    by_cases hnone : rows.map Row.name = []
    · rw [hnone]
      decide
    · exact collected_of_spelled (spelled_bracketed hnames hnone) hnames
  · have hends : Ends brk.toList stop.toList := by
      rcases hstop with rfl | ⟨more, rfl, -⟩
      · exact .inl String.toList_empty
      · exact .inr ⟨more.toList, String.toList_append⟩
    have hfirst : (lines (rowsText brk rows stop)).head?.getD [] = [] :=
      (lines_append_ends hbrk List.not_mem_nil nofun (ends_rowsText hends rows)).1
    have hlisted : listed (rowsText brk rows stop)
        = items (lines (rowsText brk rows stop)).tail := by
      rw [listed, hfirst]
      rfl
    have htext : (before ++ dashList brk rows ++ stop).toList
        = before.toList ++ (marker ++ rowsText brk rows stop) := by
      rw [String.toList_append, String.toList_append, List.append_assoc, toList_dashList]
    rw [libraries_of_marker hbefore hmarker htext, hlisted]
    exact collected_of_spelled (spelled_items hbrk hstop rows List.not_mem_nil nofun) hnames

def oddRows : List Row := [
  { indent := "  ", name := "[liba] v1.2", blank := by decide, feed := by decide,
    listable := ⟨by decide, by decide, by decide, by decide, by decide⟩ },
  { indent := "\t", name := "- b]", blank := by decide, feed := by decide,
    listable := ⟨by decide, by decide, by decide, by decide, by decide⟩ },
  { indent := "", name := "Load libraries: c", blank := by decide, feed := by decide,
    listable := ⟨by decide, by decide, by decide, by decide, by decide⟩ }]

/-- They are given in either notation. -/
theorem libraries_of_oddRows : IsBreak "\r\n" ∧ holds "Core:\n" "Load libraries:" = false ∧
    ¬ Dashed "  Hook: -" ∧
    libraries ("Core:\n" ++ bracketList (oddRows.map Row.name) ++ "\r\nLog:")
      = ["[liba] v1.2", "- b]", "Load libraries: c"] ∧
    libraries ("Core:\n" ++ dashList "\r\n" oddRows ++ "\r\n  Hook: -")
      = ["[liba] v1.2", "- b]", "Load libraries: c"] := by
  have hmarker : holds "Core:\n" "Load libraries:" = false := by decide
  have hdashed : ¬ Dashed "  Hook: -" := by
    rintro ⟨gap, rest, hblank, -, htext⟩
    have hstart := trimStart_append hblank ('-' :: rest)
    rw [← htext] at hstart
    have hfirst : some 'H' = some '-' := congrArg List.head? hstart
    exact absurd hfirst (by decide)
  have h := libraries_of_notations oddRows (.inr rfl) (.inr ⟨"Core:", by decide⟩) hmarker
    (.inr ⟨"Log:", rfl⟩) (.inr ⟨"  Hook: -", rfl, hdashed⟩)
  exact ⟨.inr rfl, hmarker, hdashed, h⟩

end Libraries

end LogTriage
