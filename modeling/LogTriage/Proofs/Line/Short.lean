import Mathlib.Data.List.TakeWhile
import LogTriage.Proofs.Line.Assembly

/-!
# Lines that are too long

A splitter closes lines up to the first one that is too long, and none after it.  So the lines of a
text are those before that line, and what is said of a text holds of every text that it begins.

* `lines_pushText_new`  a splitter closes the lines before the first one that is too long;
* `fits_iff_short`      it fits as long as there is none;
* `shortLines_mono`     more text closes more lines;
* `shortLines_of_not_short`  but not after a line that is too long.
-/

namespace LogTriage
open Text (Reading Ending Decodes encode utf8Size)

/-- The lines that line feeds end, up to the first line that has more than `n` bytes. -/
def shortLines (n : Nat) (text : List Char) : List Line :=
  ((pieces text).dropLast.takeWhile (utf8Size ·.text ≤ n)).map (·.line 1)

theorem shortLines_isPrefix (n : Nat) (text : List Char) : shortLines n text <+: closedLines text :=
  (List.takeWhile_prefix _).map _

/-! ## Splitting -/

namespace Splitter
variable {s : Splitter}

theorem lines_push_suffix (s : Splitter) (c : Char) : s.lines <:+ (s.push c).lines := by
  unfold push
  split
  · exact List.suffix_rfl
  split
  · exact List.suffix_rfl
  split
  · dsimp only
    split
    · exact List.suffix_rfl
    · exact List.suffix_cons _ _
  · exact List.suffix_rfl

theorem lines_pushText_suffix (s : Splitter) (text : List Char) :
    s.lines <:+ (s.pushText text).lines := by
  induction text generalizing s with
  | nil => exact List.suffix_rfl
  | cons c text ih => exact (s.lines_push_suffix c).trans (ih (s.push c))

theorem lines_push_of_not_fits (h : ¬ s.Fits) (c : Char) : (s.push c).lines = s.lines := by
  unfold push
  split
  · rfl
  rename_i ht
  split
  · rfl
  split
  · dsimp only
    split
    · rfl
    · rename_i hl
      have hfits : s.Fits := ⟨Option.not_isSome_iff_eq_none.mp ht, Nat.le_of_not_lt hl⟩
      exact absurd hfits h
  · rfl

theorem lines_pushText_of_not_fits (h : ¬ s.Fits) (text : List Char) :
    (s.pushText text).lines = s.lines := by
  induction text generalizing s with
  | nil => rfl
  | cons c text ih =>
    have hpush : ¬ (s.push c).Fits := fun hfits => h (fits_of_push hfits)
    rw [pushText_cons, ih hpush, lines_push_of_not_fits h]

theorem resumed_ne_nil (s : Splitter) (text : List Char) : s.resumed text ≠ [] := by
  obtain ⟨first, others, h⟩ := List.exists_cons_of_ne_nil (splitOn_ne_nil text)
  rw [resumed, h]
  exact List.cons_ne_nil _ _

/-- **A splitter closes the pieces before the first one that is too long.** -/
theorem lines_pushText_resumed (ha : s.atStart = false) (ht : s.tooLong = none)
    (text : List Char) : (s.pushText text).lines
      = (((s.resumed text).dropLast.takeWhile (utf8Size ·.text ≤ s.maxLine)).map (·.line 1)).reverse
        ++ s.lines := by
  -- on the text; the unfinished line grows until a line feed closes it, if it may
  induction text generalizing s with
  | nil =>
    rw [resumed_nil]
    rfl
  | cons c text ih =>
    rw [pushText_cons]
    by_cases hc : c = '\n'
    · subst hc
      rw [resumed_feed, List.dropLast_cons_of_ne_nil (resumed_ne_nil _ _), List.takeWhile_cons]
      by_cases hl : utf8Size s.last.text ≤ s.maxLine
      · have hlen : s.length ≤ s.maxLine := by rwa [length_eq]
        have hclose := ih (s := s.close 1) ha ht
        rw [push_feed ha ht hlen, hclose, if_pos (decide_eq_true hl), lines_close, List.map_cons,
          List.reverse_cons, List.append_assoc, List.singleton_append]
        rfl
      · have hfits : ¬ s.Fits := by
          rintro ⟨-, hle⟩
          rw [length_eq] at hle
          exact hl hle
        have hlines := lines_pushText_of_not_fits hfits ('\n' :: text)
        rw [pushText_cons] at hlines
        rw [hlines, if_neg (by simpa using hl)]
        rfl
    · rw [resumed_char s hc, push_char ha ht hc]
      exact ih ha ht

theorem le_of_mem_resumed (ha : s.atStart = false) {text : List Char}
    (h : (s.pushText text).Fits) : ∀ p ∈ s.resumed text, utf8Size p.text ≤ s.maxLine := by
  induction text generalizing s with
  | nil =>
    intro p hp
    rw [resumed_nil, List.mem_singleton] at hp
    have hlast : utf8Size s.last.text = s.length := (length_eq s).symm
    rw [hp, hlast]
    exact h.2
  | cons c text ih =>
    have hfits : s.Fits := fits_of_pushText h
    rw [pushText_cons] at h
    by_cases hc : c = '\n'
    · subst hc
      rw [push_feed ha hfits.1 hfits.2] at h
      intro p hp
      rw [resumed_feed] at hp
      rcases List.mem_cons.mp hp with rfl | hp
      · rw [show utf8Size s.last.text = s.length from (length_eq s).symm]
        exact hfits.2
      · exact ih (s := s.close 1) ha h p hp
    · rw [push_char ha hfits.1 hc] at h
      rw [resumed_char s hc]
      exact ih ha h

theorem tooLong_push (h : ∀ l, s.tooLong = some l → s.maxLine < l) (c : Char) :
    ∀ l, (s.push c).tooLong = some l → s.maxLine < l := by
  unfold push
  split
  · exact h
  split
  · exact h
  split
  · dsimp only
    split
    · rintro l ⟨⟩
      assumption
    · exact h
  · exact h

theorem tooLong_pushText (h : ∀ l, s.tooLong = some l → s.maxLine < l) (text : List Char) :
    ∀ l, (s.pushText text).tooLong = some l → s.maxLine < l := by
  induction text generalizing s with
  | nil => exact h
  | cons c text ih =>
    have hpush := ih (s := s.push c) (by rw [maxLine_push]; exact s.tooLong_push h c)
    rwa [maxLine_push] at hpush

theorem lines_pushText_new (n : Nat) (text : List Char) :
    (({ maxLine := n } : Splitter).pushText text).lines = (shortLines n text).reverse := by
  by_cases hne : text = []
  · subst hne
    rfl
  obtain ⟨s, rest, ha, ht, hn, hl, hp, he⟩ := exists_resumed n text
  rw [he hne, lines_pushText_resumed ha ht, hl, List.append_nil, hn, shortLines, hp]

/-- **A splitter fits as long as no line is too long.** -/
theorem fits_iff_short (n : Nat) (text : List Char) :
    (({ maxLine := n } : Splitter).pushText text).Fits ↔ Short n text := by
  constructor
  · intro h
    by_cases hne : text = []
    · subst hne
      exact fun p hp => by simp [pieces, withoutMark, utf8Size] at hp ⊢; simp [hp]
    obtain ⟨s, rest, ha, -, hn, -, hp, he⟩ := exists_resumed n text
    rw [he hne] at h
    have hle := le_of_mem_resumed ha h
    rwa [hn, ← hp] at hle
  · intro h
    have happend : Short n (text ++ []) := by rwa [List.append_nil]
    exact fits_of_short happend

end Splitter

section prefixes
variable {n : Nat} {text more : List Char}

theorem Short.of_prefix (h : Short n more) (hp : text <+: more) : Short n text := by
  obtain ⟨rest, rfl⟩ := hp
  exact (Splitter.fits_iff_short n text).mp (Splitter.fits_of_short h)

theorem shortLines_mono (n : Nat) (hp : text <+: more) :
    shortLines n text <+: shortLines n more := by
  obtain ⟨rest, rfl⟩ := hp
  have hsuffix := (({ maxLine := n } : Splitter).pushText text).lines_pushText_suffix rest
  rw [← Splitter.pushText_append, Splitter.lines_pushText_new, Splitter.lines_pushText_new] at hsuffix
  exact List.reverse_suffix.mp hsuffix

theorem shortLines_of_not_short (h : ¬ Short n text) (hp : text <+: more) :
    shortLines n text = shortLines n more := by
  obtain ⟨rest, rfl⟩ := hp
  rw [← Splitter.fits_iff_short] at h
  have hlines := Splitter.lines_pushText_of_not_fits h rest
  rw [← Splitter.pushText_append, Splitter.lines_pushText_new, Splitter.lines_pushText_new] at hlines
  exact (List.reverse_inj.mp hlines).symm

end prefixes

/-! ## Places -/

section places
variable {n i : Nat} {text : List Char} {line : Line} {p : Piece}

theorem getElem?_lastPiece (text : List Char) :
    (pieces text)[(pieces text).length - 1]? = some (lastPiece text) := by
  have hpos : 0 < (pieces text).length := List.length_pos_iff.mpr (Splitter.pieces_ne_nil text)
  rw [lastPiece, List.getLastD_eq_getLast?, List.getLast?_eq_getElem?,
    List.getElem?_eq_getElem (Nat.sub_lt hpos Nat.one_pos), Option.getD_some]

theorem exists_piece (h : (closedLines text ++ openLine text)[i]? = some line) :
    ∃ p, (pieces text)[i]? = some p ∧
      line = p.line (if i + 1 < (pieces text).length then 1 else 0) := by
  have hlen : (closedLines text).length = (pieces text).length - 1 := by
    rw [closedLines, List.length_map, List.length_dropLast]
  have hpos : 0 < (pieces text).length := List.length_pos_iff.mpr (Splitter.pieces_ne_nil text)
  by_cases hi : i < (closedLines text).length
  · rw [List.getElem?_append_left hi, closedLines, List.getElem?_map, List.getElem?_dropLast,
      if_pos (by omega)] at h
    obtain ⟨p, hp, rfl⟩ := Option.map_eq_some_iff.mp h
    exact ⟨p, hp, by rw [if_pos (by omega)]⟩
  · rw [List.getElem?_append_right (Nat.le_of_not_lt hi), openLine] at h
    split at h
    · cases h
    · rw [List.getElem?_singleton] at h
      split at h
      · have hplace : i = (pieces text).length - 1 := by omega
        refine ⟨lastPiece text, by rw [hplace, getElem?_lastPiece], ?_⟩
        rw [if_neg (by omega), ← Option.some.inj h]
      · cases h

theorem le_of_lt_shortLines (hi : i < (shortLines n text).length)
    (hp : (pieces text)[i]? = some p) : utf8Size p.text ≤ n := by
  have hpre : (pieces text).dropLast.takeWhile (utf8Size ·.text ≤ n) <+: pieces text :=
    (List.takeWhile_prefix _).trans (List.dropLast_prefix _)
  rw [shortLines, List.length_map] at hi
  have hmem := List.getElem_mem hi
  rw [hpre.getElem hi, (List.getElem?_eq_some_iff.mp hp).2] at hmem
  have hle := List.mem_takeWhile_imp hmem
  exact of_decide_eq_true hle

end places

end LogTriage
