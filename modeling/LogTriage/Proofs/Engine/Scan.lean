import LogTriage.Proofs.Engine.Rearm
import LogTriage.Proofs.Engine.Statuses

/-!
# The state is told by the lines

As long as an engine has not halted, it stands where a scan of the lines that it was fed stands.
The scan only looks for triggers: a line with one moves on to the next phase or, after the last
one, to the next section; the others wait.  The window, the counts of the section and the number of
sections are those of the scan, whatever was evicted, extracted or observed on the way.

* `bufferLine_window`   the window takes a line in and keeps the last ones;
* `follows_feedUnder`   the step: a line moves the engine and the scan alike;
* `fed_eq_scan`         the run.
-/

namespace LogTriage

/-- The last `n` of some lines. -/
def lastLines (n : Nat) (lines : List String) : List String := lines.drop (lines.length - n)

theorem lastLines_nil (n : Nat) : lastLines n [] = [] := List.drop_nil

theorem length_lastLines (n : Nat) (lines : List String) :
    (lastLines n lines).length = min n lines.length := by
  rw [lastLines, List.length_drop]
  omega

theorem lastLines_concat {n : Nat} (hn : 0 < n) (lines : List String) (line : String) :
    lastLines n (lines ++ [line]) =
      (if n ≤ lines.length then (lastLines n lines).tail else lastLines n lines) ++ [line] := by
  have hlen : (lines ++ [line]).length = lines.length + 1 := by
    rw [List.length_append, List.length_singleton]
  rw [lastLines, hlen, List.drop_append_of_le_length (by omega), lastLines]
  split
  · have hs : lines.length + 1 - n = lines.length - n + 1 := by omega
    rw [hs, List.tail_drop]
  · have hs : lines.length + 1 - n = lines.length - n := by omega
    rw [hs]

/-- How far a log has come, as its lines tell. -/
structure Scan where
  sectionIndex : Nat := 0
  phaseIndex : Nat := 0
  /-- The lines since the last one with a trigger. -/
  waiting : List String := []
  /-- The lines of the section. -/
  current : List Feed := []
deriving DecidableEq

namespace Scan

/-- The scan after one more line.  The line with which a section ends belongs to no section. -/
def next (table : PhaseTable) (s : Scan) (f : Feed) : Scan :=
  if (table.phaseAt s.phaseIndex).matchedTrigger f.line = none then
    { s with waiting := s.waiting ++ [f.line], current := s.current ++ [f] }
  else if table.isLast s.phaseIndex then { sectionIndex := s.sectionIndex + 1 }
  else { s with
    phaseIndex := s.phaseIndex + 1, waiting := [], current := s.current ++ [f] }

def ofFeeds (table : PhaseTable) (feeds : List Feed) : Scan := feeds.foldl (next table) {}

variable {table : PhaseTable} {s : Scan} {f : Feed}

theorem next_line (h : (table.phaseAt s.phaseIndex).matchedTrigger f.line = none) :
    s.next table f = { s with waiting := s.waiting ++ [f.line], current := s.current ++ [f] } :=
  if_pos h

theorem next_phase (h : (table.phaseAt s.phaseIndex).matchedTrigger f.line ≠ none)
    (hl : table.isLast s.phaseIndex = false) : s.next table f =
      { s with phaseIndex := s.phaseIndex + 1, waiting := [], current := s.current ++ [f] } := by
  rw [next, if_neg h, hl]
  rfl

theorem next_section (h : (table.phaseAt s.phaseIndex).matchedTrigger f.line ≠ none)
    (hl : table.isLast s.phaseIndex = true) :
    s.next table f = { sectionIndex := s.sectionIndex + 1 } := by
  rw [next, if_neg h, if_pos hl]

end Scan

theorem rawSize_concat (feeds : List Feed) (f : Feed) :
    rawSize (feeds ++ [f]) = rawSize feeds + f.raw := by
  induction feeds with
  | nil => simp [rawSize]
  | cons g feeds ih => rw [List.cons_append, rawSize, rawSize, ih, Nat.add_assoc]

namespace Window
variable {w : Window}

theorem lines_of_pop_none (h : w.pop? = none) : w.lines = [] := by
  unfold pop? at h
  split at h
  · cases h
  · rename_i ho
    split at h
    · rename_i hn
      rw [lines, ho, hn, List.append_nil]
    · cases h

end Window

namespace Engine
variable {e e' : Engine} {line : String}

/-! ## The window -/

theorem evict_window (e : Engine) : e.evict.2.progress.window.lines = e.progress.window.lines.tail := by
  cases hw : e.progress.window.pop? with
  | none =>
    rw [evict, hw]
    dsimp only
    rw [Window.lines_of_pop_none hw, List.tail_nil]
  | some popped =>
    obtain ⟨oldest, rest⟩ := popped
    have hb := (inspect_bare oldest e.phase.handlers ((e.probed oldest).withWindow rest))
    have hrest : ((e.probed oldest).withWindow rest).progress.window = rest := rfl
    rw [evict_eq hw, window_of_bare hb, hrest, Window.lines_pop hw, List.tail_cons]

theorem bufferLine_window (hh : (e.bufferLine line).2.halted = none) :
    (e.bufferLine line).2.progress.window.lines =
      (if e.windowCapacity ≤ e.progress.window.lines.length then e.progress.window.lines.tail
        else e.progress.window.lines) ++ [line] := by
  rw [Window.length_lines]
  have hevict := evict_window e
  unfold bufferLine at hh ⊢
  by_cases hc : e.windowCapacity ≤ e.progress.window.size
  · rw [if_pos hc] at hh ⊢
    rw [if_pos hc]
    generalize e.evict = evicted at hh hevict ⊢
    obtain ⟨hit, e'⟩ := evicted
    cases hit with
    | some hit => cases hh
    | none =>
      dsimp only at hevict ⊢
      rw [Window.lines_push, hevict]
  · rw [if_neg hc, if_neg hc]
    exact Window.lines_push _ line

/-! ## One line -/

structure Follows (e : Engine) (s : Scan) : Prop where
  phaseIndex_eq : e.progress.phaseIndex = s.phaseIndex
  sections_eq : e.sections = s.sectionIndex
  window_eq : e.progress.window.lines = lastLines e.windowCapacity s.waiting
  lines_eq : e.progress.lines = s.current.length
  consumed_eq : e.progress.consumed = rawSize s.current

theorem windowCapacity_pos (e : Engine) : 0 < e.windowCapacity :=
  Nat.lt_of_lt_of_le Nat.one_pos (Nat.le_max_right _ _)

theorem windowCapacity_eq (ht : e'.table = e.table) (hl : e'.limits = e.limits) :
    e'.windowCapacity = e.windowCapacity := by
  rw [windowCapacity, windowCapacity, ht, hl]

theorem Follows.counted {s : Scan} (h : Follows e s) {f : Feed} {window : Window}
    (hb : e'.bare = ((e.count f.raw).withWindow window).bare) :
    e'.progress.phaseIndex = s.phaseIndex ∧ e'.sections = s.sectionIndex ∧
      e'.progress.lines = (s.current ++ [f]).length ∧
      e'.progress.consumed = rawSize (s.current ++ [f]) := by
  have hlines : e'.progress.lines = e.progress.lines + 1 := (congrArg (·.progress.lines) hb :)
  have hconsumed : e'.progress.consumed = e.progress.consumed + f.raw :=
    (congrArg (·.progress.consumed) hb :)
  refine ⟨(phaseIndex_of_bare hb :).trans h.phaseIndex_eq,
    (sections_of_bare hb :).trans h.sections_eq, ?_, ?_⟩
  · rw [hlines, h.lines_eq, List.length_append, List.length_singleton]
  · rw [hconsumed, h.consumed_eq, rawSize_concat]

theorem follows_line {s : Scan} (h : Follows e s) (f : Feed)
    (ht : e.phase.matchedTrigger f.line = none)
    (hgo : ((e.count f.raw).bufferLine f.line).2.halted = none) :
    Follows ((e.count f.raw).bufferLine f.line).2 (s.next e.table f) := by
  have ht : (e.table.phaseAt s.phaseIndex).matchedTrigger f.line = none := h.phaseIndex_eq ▸ ht
  have hwindow := bufferLine_window hgo
  have hw : (e.count f.raw).progress.window.lines = lastLines e.windowCapacity s.waiting :=
    h.window_eq
  have hcap : (e.count f.raw).windowCapacity = e.windowCapacity := rfl
  rcases bufferLine_cases (e.count f.raw) f.line with
    ⟨hit, e₁, w, hb, he⟩ | ⟨e₁, gone, w, hb, -, -, he⟩
  · rw [he] at hgo
    cases hgo
  have hcap' : (e₁.withWindow (w.push f.line)).windowCapacity = e.windowCapacity :=
    (congrArg windowCapacity hb :)
  obtain ⟨hphase, hsections, hlines, hconsumed⟩ := h.counted hb
  rw [he] at hwindow
  rw [he, Scan.next_line ht]
  refine ⟨hphase, hsections, ?_, hlines, hconsumed⟩
  rw [hwindow, hcap, hcap', hw, lastLines_concat (windowCapacity_pos e), length_lastLines]
  have hmin : e.windowCapacity ≤ min e.windowCapacity s.waiting.length
      ↔ e.windowCapacity ≤ s.waiting.length := by omega
  simp only [hmin]

theorem follows_trigger {s : Scan} (h : Follows e s) (hp : Placed e) (f : Feed) {trigger : String}
    (ht : e.phase.matchedTrigger f.line = some trigger)
    (hgo : ((e.count f.raw).finalize (some trigger)).2.halted = none) :
    Follows ((e.count f.raw).finalize (some trigger)).2 (s.next e.table f) := by
  have ht : (e.table.phaseAt s.phaseIndex).matchedTrigger f.line = some trigger :=
    h.phaseIndex_eq ▸ ht
  have ht : (e.table.phaseAt s.phaseIndex).matchedTrigger f.line ≠ none := by
    rw [ht]
    nofun
  have hplaced : Placed (e.count f.raw) := hp.of_eq rfl rfl
  rcases finalize_usable hplaced (some trigger) with he | ⟨hit, e₁, hb, he⟩ | ⟨e₁, hb, hc⟩
  · rw [he] at hgo
    cases hgo
  · rw [he] at hgo
    cases hgo
  have hb : e₁.bare = ((e.count f.raw).withWindow e.progress.window).bare := hb
  obtain ⟨hphase, hsections, hlines, hconsumed⟩ := h.counted hb
  rcases hc with ⟨last, he⟩ | ⟨last, -, -, he⟩ | ⟨-, he⟩
  · have last : e.table.isLast s.phaseIndex = false := h.phaseIndex_eq ▸ last
    rw [he, Scan.next_phase ht last]
    exact ⟨congrArg (· + 1) hphase, hsections, (lastLines_nil _).symm, hlines, hconsumed⟩
  · have last : e.table.isLast s.phaseIndex = true := h.phaseIndex_eq ▸ last
    rw [he, Scan.next_section ht last]
    exact ⟨rfl, congrArg (· + 1) hsections, (lastLines_nil _).symm, rfl, rfl⟩
  · rw [he] at hgo
    cases hgo

/-- **A line moves the engine and the scan alike**, unless the engine halts. -/
theorem follows_feedUnder {s : Scan} (h : Follows e s) (hs : Sound e) (f : Feed)
    (hgo : (e.feedUnder f).2.halted = none) :
    Follows (e.feedUnder f).2 (s.next e.table f) ∧
      (e.feedUnder f).2.consumed = min (e.consumed + f.raw) maxCount := by
  let e₀ : Engine := { e with banned := f.banned }
  have h₀ : Follows e₀ s := ⟨h.phaseIndex_eq, h.sections_eq, h.window_eq, h.lines_eq, h.consumed_eq⟩
  have hp₀ : Placed e₀ := hs.placed.of_eq rfl rfl
  have hfeed : e.feedUnder f = e₀.feedCounted f.line f.raw := rfl
  rw [hfeed] at hgo ⊢
  rcases feedCounted_cases e₀ f.line f.raw with
    ⟨status, hh, he⟩ | ⟨-, -, he⟩ | ⟨trigger, -, -, ht, he⟩ | ⟨-, -, ht, he⟩
  · rw [he, hh] at hgo
    cases hgo
  · rw [he] at hgo
    cases hgo
  · rw [he] at hgo ⊢
    exact ⟨follows_trigger h₀ hp₀ f ht hgo, finalize_consumed _ _⟩
  · rw [he] at hgo ⊢
    exact ⟨follows_line h₀ f ht hgo, bufferLine_consumed _ _⟩

/-! ## Whole runs -/

theorem sound_feedUnder (hs : Sound e) (f : Feed) : Sound (e.feedUnder f).2 := by
  have hs₀ : Sound { e with banned := f.banned } := ⟨hs.placed.of_eq rfl rfl, hs.halts⟩
  exact (feedCounted_outcome hs₀ f.line f.raw).sound hs₀ (feedUnder_setting e f).1

theorem fed_halted {status : Status} (hh : e.halted = some status) (feeds : List Feed) :
    (e.fed feeds).halted = some status := by
  induction feeds generalizing e with
  | nil => exact hh
  | cons f feeds ih =>
    refine ih ?_
    rw [feedUnder, feedCounted_halted (by exact hh)]
    exact hh

theorem follows_fed {s : Scan} (h : Follows e s) (hs : Sound e) {feeds : List Feed}
    (hsize : e.consumed + rawSize feeds ≤ maxCount) (hgo : (e.fed feeds).halted = none) :
    Follows (e.fed feeds) (feeds.foldl (Scan.next e.table) s) ∧
      (e.fed feeds).consumed = e.consumed + rawSize feeds := by
  induction feeds generalizing e s with
  | nil => exact ⟨h, rfl⟩
  | cons f feeds ih =>
    have hgo' : (e.feedUnder f).2.halted = none := by
      cases hh : (e.feedUnder f).2.halted with
      | none => rfl
      | some status =>
        have hstays : (e.fed (f :: feeds)).halted = some status := fed_halted hh feeds
        rw [hgo] at hstays
        cases hstays
    rw [rawSize] at hsize
    obtain ⟨hf, hc⟩ := follows_feedUnder h hs f hgo'
    have hc : (e.feedUnder f).2.consumed = e.consumed + f.raw := by
      rw [hc]
      omega
    obtain ⟨hrun, hcrun⟩ := ih hf (sound_feedUnder hs f) (by omega) hgo
    rw [(feedUnder_setting e f).1] at hrun
    refine ⟨hrun, ?_⟩
    rw [fed, hcrun, hc, rawSize, Nat.add_assoc]

theorem follows_fresh (table : PhaseTable) (limits : EngineLimits) (banned : BannedPhrases)
    (resolver : Resolver) : Follows (fresh table limits banned resolver) {} :=
  ⟨rfl, rfl, (lastLines_nil _).symm, rfl, rfl⟩

/-- **The state of an engine is told by the lines that it was fed**, as long as it has not halted. -/
theorem fed_eq_scan {d : TableDefinition} {builtin : Bool} {table : PhaseTable}
    (h : d.validate builtin = .ok table) (limits : EngineLimits) (banned : BannedPhrases)
    (resolver : Resolver) {feeds : List Feed} (hsize : rawSize feeds ≤ maxCount)
    (hgo : ((fresh table limits banned resolver).fed feeds).halted = none) :
    let e := (fresh table limits banned resolver).fed feeds
    let s := Scan.ofFeeds table feeds
    e.progress.phaseIndex = s.phaseIndex ∧ e.sections = s.sectionIndex ∧
      e.progress.window.lines
        = lastLines (max 1 (table.windowCapacity.getD limits.windowCapacity)) s.waiting ∧
      e.progress.lines = s.current.length ∧ e.progress.consumed = rawSize s.current ∧
      e.consumed = rawSize feeds := by
  intro e s
  have hsound : Sound (fresh table limits banned resolver) :=
    sound_fresh (TableDefinition.usable_of_validate h) limits banned resolver
  have hmax : (fresh table limits banned resolver).consumed + rawSize feeds ≤ maxCount := by
    have hz : (fresh table limits banned resolver).consumed = 0 := rfl
    rw [hz, Nat.zero_add]
    exact hsize
  obtain ⟨hf, hc⟩ := follows_fed (follows_fresh table limits banned resolver) hsound hmax hgo
  obtain ⟨ht, hl, -⟩ := fed_setting (fresh table limits banned resolver) feeds
  have hcap : e.windowCapacity = max 1 (table.windowCapacity.getD limits.windowCapacity) := by
    rw [windowCapacity_eq ht hl, Nat.max_comm]
    rfl
  refine ⟨hf.phaseIndex_eq, hf.sections_eq, hcap ▸ hf.window_eq, hf.lines_eq, hf.consumed_eq, ?_⟩
  exact hc.trans (Nat.zero_add _)

/-- A session, and the head of the next one in a window for two lines. -/
theorem scan_of_sessions : ∃ table, TableDefinition.sessions.validate false = .ok table ∧
    let e := (fresh table { windowCapacity := 2 } {} .unknown).fed
      [⟨"a", 2, {}⟩, ⟨"begin", 6, {}⟩, ⟨"end", 4, {}⟩, ⟨"b", 2, {}⟩, ⟨"c", 3, {}⟩, ⟨"d", 2, {}⟩]
    e.halted = none ∧ e.sections = 1 ∧ e.progress.window.lines = ["c", "d"] ∧
      e.progress.consumed = 7 ∧ e.consumed = 19 := by
  have hruns : ∃ table, TableDefinition.sessions.validate false = .ok table ∧
      ((fresh table { windowCapacity := 2 } {} .unknown).fed [⟨"a", 2, {}⟩, ⟨"begin", 6, {}⟩,
        ⟨"end", 4, {}⟩, ⟨"b", 2, {}⟩, ⟨"c", 3, {}⟩, ⟨"d", 2, {}⟩]).halted = none ∧
      table.windowCapacity = none ∧
      Scan.ofFeeds table [⟨"a", 2, {}⟩, ⟨"begin", 6, {}⟩, ⟨"end", 4, {}⟩, ⟨"b", 2, {}⟩,
        ⟨"c", 3, {}⟩, ⟨"d", 2, {}⟩]
        = ⟨1, 0, ["b", "c", "d"], [⟨"b", 2, {}⟩, ⟨"c", 3, {}⟩, ⟨"d", 2, {}⟩]⟩ := by
    decide +kernel
  obtain ⟨table, h, hgo, hcap, hscan⟩ := hruns
  obtain ⟨-, hsections, hwindow, -, hsection, htotal⟩ :=
    fed_eq_scan h { windowCapacity := 2 } {} .unknown (by decide) hgo
  rw [hscan] at hsections hwindow hsection
  rw [hcap] at hwindow
  exact ⟨table, h, hgo, hsections, hwindow, hsection, htotal⟩

end Engine

end LogTriage
