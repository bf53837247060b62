import LogTriage.Text.Substring

/-!
# How texts are cut

* `splitAt_eq`           the pieces of a text are those between its separators;
* `lines_append_feed`    a line ends with its line feed, and what follows is cut by itself;
* `not_mem_of_mem_lines` a line holds no line feed;
* `after?_append`        the first occurrence of a needle, told by what stands before it.
-/

namespace LogTriage.Text

variable {sep : Char} {cs rest line needle before : List Char}

/-! ## At a separator -/

theorem splitGo_eq (sep : Char) (piece : List Char) (done : List (List Char)) (cs : List Char) :
    splitGo sep piece done cs = done.reverse ++ cs.splitOnPPrepend (· == sep) piece := by
  induction cs generalizing piece done with
  | nil => rw [splitGo, List.splitOnPPrepend_nil, List.reverse_cons]
  | cons c cs ih =>
    rw [splitGo, List.splitOnPPrepend]
    by_cases hc : c = sep
    · rw [if_pos hc, if_pos (beq_iff_eq.mpr hc), ih, List.reverse_cons, List.append_assoc,
        List.singleton_append]
    · rw [if_neg hc, if_neg (by simpa using hc), ih]

/-- **The pieces of a text** are those between its separators. -/
theorem splitAt_eq (sep : Char) (cs : List Char) : splitAt sep cs = cs.splitOn sep :=
  splitGo_eq sep [] [] cs

theorem splitAt_of_not_mem (h : sep ∉ cs) : splitAt sep cs = [cs] := by
  rw [splitAt_eq, List.splitOn_eq_singleton h]

theorem splitAt_append_cons (sep : Char) (cs rest : List Char) :
    splitAt sep (cs ++ sep :: rest) = splitAt sep cs ++ splitAt sep rest := by
  rw [splitAt_eq, splitAt_eq, splitAt_eq, List.splitOn_append_cons_self]

theorem splitAt_ne_nil (sep : Char) (cs : List Char) : splitAt sep cs ≠ [] := by
  rw [splitAt_eq]
  exact List.splitOnP_ne_nil _ cs

theorem forall_mem_close {P : Char → Prop} {piece : List Char} {done : List (List Char)}
    (hpiece : ∀ c ∈ piece, P c) (hdone : ∀ d ∈ done, ∀ c ∈ d, P c) :
    ∀ d ∈ piece.reverse :: done, ∀ c ∈ d, P c :=
  List.forall_mem_cons.mpr ⟨fun c hc => hpiece c (List.mem_reverse.mp hc), hdone⟩

theorem forall_mem_splitGo {P : Char → Prop} {piece : List Char} {done : List (List Char)}
    (hpiece : ∀ c ∈ piece, P c) (hdone : ∀ d ∈ done, ∀ c ∈ d, P c)
    (hcs : ∀ c ∈ cs, c ≠ sep → P c) : ∀ d ∈ splitGo sep piece done cs, ∀ c ∈ d, P c := by
  induction cs generalizing piece done with
  | nil =>
    intro d hd
    exact forall_mem_close hpiece hdone d (List.mem_reverse.mp hd)
  | cons c cs ih =>
    obtain ⟨hc, hcs⟩ := List.forall_mem_cons.mp hcs
    rw [splitGo]
    split
    · exact ih (List.forall_mem_nil _) (forall_mem_close hpiece hdone) hcs
    · rename_i hne
      exact ih (List.forall_mem_cons.mpr ⟨hc hne, hpiece⟩) hdone hcs

theorem not_mem_splitAt {piece : List Char} (h : piece ∈ splitAt sep cs) : sep ∉ piece :=
  fun hsep => forall_mem_splitGo (P := (· ≠ sep)) (List.forall_mem_nil _) (List.forall_mem_nil _)
    (fun _ _ hne => hne) piece h sep hsep rfl

theorem splitAt_subset {piece : List Char} (h : piece ∈ splitAt sep cs) : piece ⊆ cs := by
  intro c hc
  exact forall_mem_splitGo (P := (· ∈ cs)) (List.forall_mem_nil _) (List.forall_mem_nil _)
    (fun _ hmem _ => hmem) piece h c hc

/-! ## Into lines -/

/-- **A line ends with its line feed**, and what follows is cut by itself. -/
theorem lines_append_feed (h : '\n' ∉ line) (rest : List Char) :
    lines (line ++ '\n' :: rest) = dropReturn line :: lines rest := by
  obtain ⟨piece, pieces, hpieces⟩ := List.exists_cons_of_ne_nil (splitAt_ne_nil '\n' rest)
  rw [lines, lines, splitAt_append_cons, splitAt_of_not_mem h, hpieces, List.singleton_append,
    List.dropLast_cons_cons, List.getLast?_cons_cons, List.map_cons, List.cons_append]

theorem lines_of_not_mem (h : '\n' ∉ cs) : lines cs = if cs.isEmpty then [] else [cs] := by
  rw [lines, splitAt_of_not_mem h]
  rfl

theorem dropReturn_subset (cs : List Char) : dropReturn cs ⊆ cs := by
  unfold dropReturn
  split
  · exact List.dropLast_subset cs
  · exact List.Subset.refl cs

theorem not_mem_of_mem_lines (h : line ∈ lines cs) : '\n' ∉ line := by
  rw [lines, List.mem_append] at h
  rcases h with h | h
  · obtain ⟨piece, hpiece, rfl⟩ := List.mem_map.mp h
    have hfeed := not_mem_splitAt (List.dropLast_subset _ hpiece)
    exact fun h => hfeed (dropReturn_subset piece h)
  · split at h
    · cases h
    · rw [List.mem_singleton.mp h]
      cases hlast : (splitAt '\n' cs).getLast? with
      | none => exact List.not_mem_nil
      | some last => exact not_mem_splitAt (List.mem_of_getLast? hlast)

/-! ## After a needle -/

theorem after?_of_first
    (h : ∀ lead tail, before = lead ++ tail → tail ≠ [] → ¬ needle <+: tail ++ (needle ++ rest)) :
    after? needle (before ++ (needle ++ rest)) = some rest := by
  induction before with
  | nil =>
    cases hcs : needle ++ rest with
    | nil =>
      obtain ⟨rfl, rfl⟩ := List.append_eq_nil_iff.mp hcs
      rfl
    | cons c cs =>
      rw [List.nil_append, after?, ← hcs, if_pos (List.isPrefixOf_iff_prefix.mpr ⟨rest, rfl⟩),
        List.drop_left]
  | cons c before ih =>
    have hhere : needle.isPrefixOf (c :: (before ++ (needle ++ rest))) ≠ true := by
      rw [ne_eq, List.isPrefixOf_iff_prefix]
      exact h [] (c :: before) rfl (List.cons_ne_nil c before)
    rw [List.cons_append, after?, if_neg hhere]
    exact ih fun lead tail htail => h (c :: lead) tail (by rw [htail, List.cons_append])

/-- **The first occurrence of a needle**: it does not stand in the text before, which ends in a
character that the needle does not hold. -/
theorem after?_append (hbefore : ¬ needle <:+: before) (hlast : ∀ c ∈ before.getLast?, c ∉ needle)
    (rest : List Char) : after? needle (before ++ (needle ++ rest)) = some rest := by
  refine after?_of_first fun lead tail htail hne hprefix => ?_
  rcases List.prefix_or_prefix_of_prefix hprefix (List.prefix_append tail _) with hin | hover
  · exact hbefore (hin.isInfix.trans ⟨lead, [], by rw [htail, List.append_nil]⟩)
  · have hmem : tail.getLast hne ∈ before.getLast? := by
      rw [htail, List.getLast?_append, List.getLast?_eq_some_getLast hne]
      rfl
    exact hlast _ hmem (hover.subset (List.getLast_mem hne))

end LogTriage.Text
