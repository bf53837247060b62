import LogTriage.Proofs.Line.Refusals

/-!
# What an assembler holds and gives out

Between two calls an assembler holds no more than its limits allow, until it meets an error; the
error is the last item.  When a line of the log is too long, the lines before it are given out,
however the log is cut.

* `Bounded.pull`        a chunk without an error leaves bounded bytes and a bounded line;
* `Bounded.asked`       so does any number of calls;
* `next_within_limits`  the items that are asked for one by one.
-/

namespace LogTriage
open Text (Reading Ending Decodes encode utf8Size)

namespace Assembler
variable {limits : LineLimits} {a : Assembler}

/-! ## Between two calls -/

structure Bounded (limits : LineLimits) (a : Assembler) : Prop where
  limits_eq : a.limits = limits
  maxLine_eq : a.splitter.maxLine = limits.maxLine
  fits : a.splitter.Fits
  held : Text.Held a.pending
  pending_le : a.pending.length ≤ limits.maxPending

namespace Bounded

theorem ofChunks (limits : LineLimits) (source : List Chunk) :
    Bounded limits (ofChunks limits source) :=
  ⟨rfl, rfl, ⟨rfl, Nat.zero_le _⟩, .inl rfl, Nat.zero_le _⟩

theorem finish (h : Bounded limits a) (hf : a.finish.failed = none) : Bounded limits a.finish := by
  have hp : a.pending = [] := by
    by_contra hne
    simp [Assembler.finish, handOver, hne] at hf
  obtain ⟨ht, hl⟩ := h.fits
  by_cases hu : a.splitter.unfinished.isEmpty = true
  · simp only [Assembler.finish, hp, hu, handOver, List.isEmpty_nil, if_true]
    exact ⟨h.limits_eq, h.maxLine_eq, ⟨ht, hl⟩, .inl rfl, Nat.zero_le _⟩
  · simp only [Assembler.finish, hp, hu, handOver, List.isEmpty_nil, if_true]
    exact ⟨h.limits_eq, h.maxLine_eq, ⟨ht, Nat.zero_le _⟩, .inl rfl, Nat.zero_le _⟩

theorem pushChunk (h : Bounded limits a) (chunk : Bytes)
    (hf : (a.pushChunk chunk).failed = none) : Bounded limits (a.pushChunk chunk) := by
  by_cases hc : chunk = []
  · have he : a.pushChunk chunk = a := by rw [hc, Assembler.pushChunk, List.isEmpty_nil, if_pos rfl]
    rwa [he]
  have hheld := Text.held_read h.held [] chunk
  have he : a.pushChunk chunk = ((a.decoded a.source
      (Reading.read { held := a.pending } chunk)).settle (Reading.read { held := a.pending } chunk).held
      (Reading.read { held := a.pending } chunk).fault).handOver := by
    simp only [Assembler.pushChunk, List.isEmpty_iff, if_neg hc, decoded]
  rw [he] at hf ⊢
  generalize Reading.read { held := a.pending } chunk = r at hf hheld ⊢
  rcases settle_cases (a.decoded a.source r) r.held r.fault with
    ⟨length, -, he⟩ | ⟨bad, -, he⟩ | ⟨-, he⟩ | ⟨-, he⟩ | ⟨ht, hl, hp, -, he⟩
  · rw [he] at hf
    cases hf
  · rw [he] at hf
    cases hf
  · rw [he] at hf
    cases hf
  · rw [he] at hf
    cases hf
  · have hmax : (a.splitter.pushText r.text).maxLine = limits.maxLine := by
      rw [Splitter.maxLine_pushText, h.maxLine_eq]
    have hlimits : (a.decoded a.source r).limits = limits := h.limits_eq
    rw [hlimits] at hl hp
    rw [← hmax] at hl
    rw [he]
    exact ⟨h.limits_eq, hmax, ⟨ht, hl⟩, hheld, hp⟩

theorem pull (h : Bounded limits a) (hf : a.pull.failed = none) : Bounded limits a.pull := by
  unfold Assembler.pull at hf ⊢
  split
  · rename_i hsrc
    rw [hsrc] at hf
    exact h.finish hf
  · rename_i chunk source hsrc
    rw [hsrc] at hf
    have hrest : Bounded limits { a with source } :=
      ⟨h.limits_eq, h.maxLine_eq, h.fits, h.held, h.pending_le⟩
    exact hrest.pushChunk chunk hf
  · rename_i e source hsrc
    rw [hsrc] at hf
    cases hf

theorem nextWithin (h : a.failed = none → Bounded limits a) (n : Nat)
    (hi : ∀ error, (a.nextWithin n).1 ≠ some (.error error)) :
    (a.nextWithin n).2.failed = none → Bounded limits (a.nextWithin n).2 := by
  -- on the pulls that are left; what is ready is given out before any of them
  induction n generalizing a with
  | zero => exact h
  | succ n ih =>
    rw [Assembler.nextWithin] at hi ⊢
    cases hr : a.ready with
    | cons line ready =>
      have hpop : a.pop? = some (.ok line, { a with ready }) := by rw [pop?, hr]
      rw [hpop]
      intro hf
      obtain ⟨hlimits, hmax, hfits, hheld, hp⟩ := h hf
      exact ⟨hlimits, hmax, hfits, hheld, hp⟩
    | nil =>
      cases hf : a.failed with
      | some error =>
        have hpop : a.pop? = some (.error error, { a with failed := none }) := by
          rw [pop?, hr, hf]
        rw [hpop] at hi
        exact absurd rfl (hi error)
      | none =>
        have hpop : a.pop? = none := by rw [pop?, hr, hf]
        rw [hpop] at hi ⊢
        cases hd : a.done with
        | true => exact fun _ => h hf
        | false =>
          simp only [hd, Bool.false_eq_true, if_false] at hi ⊢
          exact ih (fun hpull => (h hf).pull hpull) hi

/-- **What is held between two calls is bounded**, as long as no error has been met. -/
theorem asked (h : a.failed = none → Bounded limits a) (n : Nat)
    (hi : ∀ m < n, ∀ error, (a.asked m).next.1 ≠ some (.error error)) :
    (a.asked n).failed = none → Bounded limits (a.asked n) := by
  induction n generalizing a with
  | zero => exact h
  | succ n ih =>
    have hnext := nextWithin h (a.source.length + 2) (hi 0 (Nat.zero_lt_succ n))
    exact ih hnext fun m hm => hi (m + 1) (Nat.succ_lt_succ hm)

end Bounded

/-! ## All calls -/

theorem items_of_not_short (hp : 3 ≤ limits.maxPending) {source : List Chunk} {text : List Char}
    {ending : Ending} (hd : Decodes (delivered source).flatten text ending)
    (hs : ¬ Short limits.maxLine text) :
    ∃ error, (ofChunks limits source).items
        = (shortLines limits.maxLine text).map .ok ++ [.error error] ∧
      ((∃ length, limits.maxLine < length ∧ error = .lineTooLong length limits.maxLine) ∨
        ∃ bad, ending = .illFormed bad ∧
          error = .invalidEncoding (encode text).length bad) := by
  rw [hd.ending_eq]
  rw [hd.text_eq] at hs ⊢
  rcases items_cases limits source with ⟨hshort, -⟩ | ⟨before, error, hb, hrefused, hitems⟩
  · exact absurd hshort hs
  cases hrefused with
  | lineTooLong hlong hl =>
    refine ⟨_, ?_, .inl ⟨_, hl, rfl⟩⟩
    rw [hitems, shortLines_of_not_short hlong (text_isPrefix hb)]
  | invalidEncoding hf =>
    rw [read_of_refused hb hf]
    exact ⟨_, hitems, .inr ⟨_, by rw [Reading.ending, hf], rfl⟩⟩
  | pendingOverflow hpending =>
    have hheld := (Text.held_read (.inl rfl) [] before.flatten).length_le
    exact absurd (Nat.lt_of_le_of_lt hp hpending) (Nat.not_lt.mpr hheld)

/-- **A cut character is never too much** where three bytes may wait. -/
theorem not_pendingOverflow_mem_items (hp : 3 ≤ limits.maxPending) (source : List Chunk)
    (pending limit : Nat) :
    (.error (.pendingOverflow pending limit) : LineItem) ∉ (ofChunks limits source).items := by
  rcases items_cases limits source with ⟨-, -, hitems⟩ | ⟨before, error, -, hrefused, hitems⟩
  · rw [hitems]
    exact not_pendingOverflow_mem_itemsOf _ _ _ _ _
  · rw [hitems]
    intro hmem
    have herror : error = .pendingOverflow pending limit := by simpa [eq_comm] using hmem
    subst herror
    cases hrefused with
    | pendingOverflow hpending =>
      have hheld := (Text.held_read (.inl rfl) [] before.flatten).length_le
      exact absurd (Nat.lt_of_le_of_lt hp hpending) (Nat.not_lt.mpr hheld)

theorem source_mem_itemsOf {text : List Char} {ending : Ending} {failure : Option StreamError}
    {e : StreamError} (h : .error (.source e) ∈ itemsOf text ending failure) :
    failure = some e ∧
      itemsOf text ending failure = (closedLines text).map .ok ++ [.error (.source e)] := by
  have hclosed : (.error (.source e) : LineItem) ∉ (closedLines text).map .ok := by simp
  have hafter := (List.mem_append.mp h).resolve_left hclosed
  unfold itemsOf
  unfold itemsAfter at hafter ⊢
  split at hafter
  · simp at hafter
  · simp only [List.mem_singleton, Except.error.injEq, LineError.source.injEq] at hafter
    rw [hafter]
    exact ⟨rfl, rfl⟩
  · simp at hafter
  · simp at hafter

theorem items_of_source_error {source : List Chunk} {text : List Char} {ending : Ending}
    (hd : Decodes (delivered source).flatten text ending) {e : StreamError}
    (h : .error (.source e) ∈ (ofChunks limits source).items) : sourceError? source = some e ∧
      (ofChunks limits source).items = (closedLines text).map .ok ++ [.error (.source e)] := by
  rw [hd.text_eq]
  rcases items_cases limits source with ⟨-, -, hitems⟩ | ⟨before, error, -, hrefused, hitems⟩
  · rw [hitems] at h ⊢
    exact source_mem_itemsOf h
  · rw [hitems] at h
    have herror : error = .source e := by simpa [eq_comm] using h
    subst herror
    cases hrefused

section next
variable {source : List Chunk} {text : List Char} {ending : Ending} {n : Nat}

theorem next_of_no_line
    (hn : ∀ line, ((ofChunks limits source).asked n).next.1 ≠ some (.ok line)) {m : Nat}
    (hm : n < m) : ((ofChunks limits source).asked m).next.1 = none := by
  obtain ⟨lines, tail, hitems, -, -, hends⟩ := items_lines limits source (Text.decodes_read _)
  have hlen : tail.length ≤ 1 := by
    rcases hends.eq_nil_or_error with rfl | ⟨error, rfl⟩
    · exact Nat.zero_le 1
    · exact Nat.le_refl 1
  have hge : lines.length ≤ n := by
    by_contra hlt
    refine hn lines[n] ?_
    rw [next_ofChunks, hitems, List.getElem?_append_left (by simpa using hlt), List.getElem?_map,
      List.getElem?_eq_getElem (Nat.lt_of_not_le hlt), Option.map_some]
  rw [next_ofChunks, hitems, List.getElem?_eq_none_iff, List.length_append, List.length_map]
  omega

theorem next_of_source_error (hd : Decodes (delivered source).flatten text ending)
    {e : StreamError}
    (hn : ((ofChunks limits source).asked n).next.1 = some (.error (.source e))) :
    sourceError? source = some e ∧ n = (closedLines text).length ∧
      ∀ m < n, ((ofChunks limits source).asked m).next.1 = (closedLines text)[m]?.map .ok := by
  rw [next_ofChunks] at hn
  obtain ⟨hsource, hall⟩ := items_of_source_error hd (List.mem_of_getElem? hn)
  have hlast : n = (closedLines text).length := by
    rw [hall] at hn
    by_contra hne
    by_cases hlt : n < (closedLines text).length
    · rw [List.getElem?_append_left (by simpa using hlt), List.getElem?_map] at hn
      obtain ⟨_, -, heq⟩ := Option.map_eq_some_iff.mp hn
      cases heq
    · rw [List.getElem?_eq_none (by simp; omega)] at hn
      cases hn
  refine ⟨hsource, hlast, fun m hm => ?_⟩
  rw [next_ofChunks, hall, List.getElem?_append_left (by simpa [← hlast] using hm),
    List.getElem?_map]

end next

/-- **What is asked for one by one keeps to the limits**: each line is a piece of the log that is
not too long, an error is the last item, and one of the source comes after the lines that were
ended. What is held between two calls is bounded until an error is met. A line that is too long
ends the log with a single error, after the lines before it. -/
theorem next_within_limits (limits : LineLimits) (source : List Chunk) {text : List Char}
    {ending : Ending} (hd : Decodes (delivered source).flatten text ending) :
    let a := ofChunks limits source
    (∀ n line, (a.asked n).next.1 = some (.ok line) → ∃ p terminator,
      (pieces text)[n]? = some p ∧ utf8Size p.text ≤ limits.maxLine ∧ line = p.line terminator) ∧
    (∀ n, (∀ line, (a.asked n).next.1 ≠ some (.ok line)) → ∀ m, n < m →
      (a.asked m).next.1 = none) ∧
    (∀ n e, (a.asked n).next.1 = some (.error (.source e)) → sourceError? source = some e ∧
      n = (closedLines text).length ∧
      ∀ m < n, (a.asked m).next.1 = (closedLines text)[m]?.map .ok) ∧
    (∀ n, (∀ m < n, ∀ error, (a.asked m).next.1 ≠ some (.error error)) →
      (a.asked n).failed = none → (a.asked n).splitter.length ≤ limits.maxLine ∧
        (a.asked n).pending.length ≤ min 3 limits.maxPending) ∧
    (3 ≤ limits.maxPending → sourceError? source = none → ¬ Short limits.maxLine text →
      ∃ error, (∀ n, (a.asked n).next.1
          = ((shortLines limits.maxLine text).map .ok ++ [.error error])[n]?) ∧
        ((∃ length, limits.maxLine < length ∧ error = .lineTooLong length limits.maxLine) ∨
          ∃ bad, ending = .illFormed bad ∧
            error = .invalidEncoding (encode text).length bad)) := by
  intro a
  refine ⟨?_, fun n hn m hm => next_of_no_line hn hm, fun n e hn => next_of_source_error hd hn, ?_,
    ?_⟩
  · intro n line hn
    obtain ⟨hline, hfit⟩ := getElem?_of_next hd hn
    obtain ⟨p, hp, rfl⟩ := exists_piece hline
    exact ⟨p, _, hp, hfit p hp, rfl⟩
  · intro n hn hf
    have hb := Bounded.asked (fun _ => Bounded.ofChunks limits source) n hn hf
    refine ⟨?_, Nat.le_min.mpr ⟨hb.held.length_le, hb.pending_le⟩⟩
    rw [← hb.maxLine_eq]
    exact hb.fits.2
  · intro hp _ hs
    obtain ⟨error, hall, herror⟩ := items_of_not_short hp hd hs
    refine ⟨error, fun n => ?_, herror⟩
    rw [next_ofChunks, hall]

/-- The second line is too long, which shows when the second chunk ends it. -/
theorem next_of_long_line : ¬ Short 3 ['a', '\n', 'c', 'd', 'e', 'f', '\n'] ∧
    ∃ length, 3 < length ∧ ∀ n, ((ofChunks { maxPending := 3, maxLine := 3 }
        [.ok [0x61, 0x0A, 0x63, 0x64], .ok [0x65, 0x66, 0x0A]]).asked n).next.1
      = ([.ok ⟨"a", 2⟩, .error (.lineTooLong length 3)] : List LineItem)[n]? := by
  have hs : ¬ Short 3 ['a', '\n', 'c', 'd', 'e', 'f', '\n'] := by decide
  have hd : Decodes (delivered [.ok [0x61, 0x0A, 0x63, 0x64], .ok [0x65, 0x66, 0x0A]]).flatten
      ['a', '\n', 'c', 'd', 'e', 'f', '\n'] .whole := Text.decodes_read _
  obtain ⟨error, hnext, herror⟩ := (next_within_limits { maxPending := 3, maxLine := 3 }
    [.ok [0x61, 0x0A, 0x63, 0x64], .ok [0x65, 0x66, 0x0A]] hd).2.2.2.2 (by decide) rfl hs
  rcases herror with ⟨length, hl, rfl⟩ | ⟨bad, hbad, -⟩
  · exact ⟨hs, length, hl, hnext⟩
  · cases hbad

end Assembler

end LogTriage
