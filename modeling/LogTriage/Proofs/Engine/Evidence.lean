import LogTriage.Proofs.Engine.Deliveries
import LogTriage.Proofs.Engine.Scan

/-!
# What is found is there

When an engine answers that a banned phrase was found, it names a phrase that was listed then and a
line that was fed to the active phase and holds it.  Lines are looked at in two ways: the whole
window when the phase ends, and the oldest line when it has to make room for another one.  In both,
the first phrase of the list counts, and with it the first line.

* `respond_piracy_iff`   a phrase is found exactly where one is looked for;
* `windowStep_respond`   what a request does to the window;
* `waiting_served`       so every line in the window was fed to the active phase;
* `piracy_genuine`       what is found is there, and is found where it is.
-/

namespace LogTriage.Engine
variable {e : Engine} {r : Request} {hit : BannedHit} {line : String}

/-! ## Where phrases are looked for -/

def foundIn (e : Engine) (lines : List String) : Option BannedHit :=
  e.banned.hit? e.progress.phaseIndex e.phase.name lines

/-- The lines that are looked at when the phase ends: those of the window, unless the pattern of the
phase has not matched. -/
def lookedAtEnd (e : Engine) : List String :=
  if .bannedContent ∈ e.phase.handlers ∧ (e.extract? e.windowText).isSome = true then
    e.progress.window.lines
  else []

/-- The lines that are looked at when a line comes into the window: the oldest one, if it has to
leave. -/
def lookedAtRoom (e : Engine) : List String :=
  if .bannedContent ∈ e.phase.handlers ∧ e.windowCapacity ≤ e.progress.window.size then
    e.progress.window.lines.take 1
  else []

def lookedAt (e : Engine) (r : Request) : List String :=
  match r.call? with
  | some (.feed line raw) =>
    if e.limits.maxLogBytes < (e.count raw).consumed then []
    else if (e.phase.matchedTrigger line).isSome then e.lookedAtEnd
    else e.lookedAtRoom
  | some .finish =>
    if e.table.isLast e.progress.phaseIndex && !(decide (0 < e.sections) && e.progress.lines == 0)
    then e.lookedAtEnd
    else []
  | _ => []

theorem foundIn_nil (e : Engine) : e.foundIn [] = none :=
  BannedPhrases.hit?_eq_none_iff.mpr (fun _ h => by cases h)

theorem iff_foundIn_nil {p : Prop} (h : ¬ p) : p ↔ e.foundIn [] = some hit :=
  iff_of_false h (by rw [foundIn_nil]; exact fun h => by cases h)

theorem lookedAtEnd_count (e : Engine) (raw : Nat) : (e.count raw).lookedAtEnd = e.lookedAtEnd := by
  have hphase : (e.count raw).phase = e.phase := rfl
  have hextract : ((e.count raw).extract? e.windowText).isSome
      = (e.extract? e.windowText).isSome := by
    rw [extract?_eq, extract?_eq, hphase]
    have hearly : (e.count raw).progress.extractedEarly = e.progress.extractedEarly := rfl
    rw [hearly]
    split <;> rfl
  have htext : (e.count raw).windowText = e.windowText := rfl
  rw [lookedAtEnd, htext, hextract]
  rfl

theorem complete_ne_piracy (e : Engine) (trigger : Option String) :
    (e.complete trigger).1 ≠ .piracy hit := by
  rcases complete_status e trigger with hs | hs
  · rw [hs]
    nofun
  · rw [hs]
    nofun

theorem finalize_piracy_iff (e : Engine) (trigger : Option String) :
    (e.finalize trigger).1 = .piracy hit ↔ e.foundIn e.lookedAtEnd = some hit := by
  unfold finalize lookedAtEnd
  dsimp only
  cases hx : e.extract? e.windowText with
  | none =>
    rw [if_neg (fun hc => Bool.false_ne_true hc.2)]
    exact iff_foundIn_nil (fun h => by cases h)
  | some e₁ =>
    have hb := extract?_bare hx
    have hfst : (runHandlers e.windowText e₁.phase.handlers e₁).1
        = e.foundIn (if .bannedContent ∈ e.phase.handlers ∧ (some e₁).isSome = true then
          e.progress.window.lines else []) := by
      rw [runHandlers_fst, banned_of_bare hb, phaseIndex_of_bare hb, phase_of_bare hb,
        window_of_bare hb]
      by_cases hs : .bannedContent ∈ e.phase.handlers
      · rw [if_pos hs, if_pos ⟨hs, rfl⟩, foundIn]
      · rw [if_neg hs, if_neg (fun hc => hs hc.1), foundIn_nil]
    rw [← hfst]
    dsimp only
    generalize runHandlers e.windowText e₁.phase.handlers e₁ = run
    obtain ⟨found, e₂⟩ := run
    cases found with
    | none => exact iff_of_false (complete_ne_piracy e₂ trigger) (fun h => by cases h)
    | some hit' =>
      constructor
      · intro hp
        cases hp
        rfl
      · intro hp
        cases hp
        rfl

theorem bufferLine_piracy_iff (e : Engine) (line : String) :
    (e.bufferLine line).1 = .piracy hit ↔ e.foundIn e.lookedAtRoom = some hit := by
  have hfst : (if e.windowCapacity ≤ e.progress.window.size then e.evict else (none, e)).1
      = e.foundIn e.lookedAtRoom := by
    unfold lookedAtRoom
    by_cases hc : e.windowCapacity ≤ e.progress.window.size
    · rw [if_pos hc]
      cases hw : e.progress.window.pop? with
      | none =>
        rw [evict, hw, Window.lines_of_pop_none hw, List.take_nil, ite_self, foundIn_nil]
      | some popped =>
        obtain ⟨oldest, rest⟩ := popped
        have hb := withWindow_bare (probed_bare e oldest) rest
        have hphase : (e.withWindow rest).phase = e.phase := rfl
        rw [evict_eq hw, inspect_fst, banned_of_bare hb, phaseIndex_of_bare hb, phase_of_bare hb,
          Window.lines_pop hw, hphase]
        by_cases hs : .bannedContent ∈ e.phase.handlers
        · rw [if_pos hs, if_pos ⟨hs, hc⟩]
          rfl
        · rw [if_neg hs, if_neg (fun h => hs h.1), foundIn_nil]
    · rw [if_neg hc, if_neg (fun h => hc h.2), foundIn_nil]
  rw [← hfst]
  unfold bufferLine
  dsimp only
  generalize (if e.windowCapacity ≤ e.progress.window.size then e.evict else (none, e)) = evicted
  obtain ⟨found, e₁⟩ := evicted
  cases found with
  | none => exact iff_of_false (fun h => by cases h) (fun h => by cases h)
  | some hit' =>
    constructor
    · intro hp
      cases hp
      rfl
    · intro hp
      cases hp
      rfl

/-- **A phrase is found exactly where one is looked for.** -/
theorem respond_piracy_iff (hh : e.halted = none) :
    (e.respond r).1 = some (.piracy hit) ↔ e.foundIn (e.lookedAt r) = some hit := by
  unfold lookedAt
  cases hc : r.call? with
  | none =>
    obtain ⟨banned, hb⟩ := respond_aside e hc
    rw [hb]
    exact iff_foundIn_nil (fun h => by cases h)
  | some call =>
    rw [respond_call e hc]
    cases call with
    | take =>
      exact iff_foundIn_nil (fun h => by cases h)
    | feed line raw =>
      dsimp only [answer?]
      rw [Option.some.injEq]
      by_cases ho : e.limits.maxLogBytes < (e.count raw).consumed
      · rw [feedCounted_over hh ho, if_pos ho]
        exact iff_foundIn_nil (fun h => by cases h)
      rw [if_neg ho]
      cases ht : e.phase.matchedTrigger line with
      | some trigger =>
        rw [feedCounted_trigger hh ho ht, Option.isSome_some, if_pos rfl]
        rw [finalize_piracy_iff, lookedAtEnd_count]
        exact Iff.rfl
      | none =>
        rw [feedCounted_line hh ho ht, Option.isSome_none, if_neg Bool.false_ne_true]
        exact bufferLine_piracy_iff (e.count raw) line
    | finish =>
      dsimp only [answer?]
      rw [Option.some.injEq, finish, hh]
      dsimp only
      split
      · exact finalize_piracy_iff e none
      · split
        · exact iff_foundIn_nil (fun h => by cases h)
        · exact iff_foundIn_nil (fun h => by cases h)

theorem lookedAtEnd_of_mem (h : line ∈ e.lookedAtEnd) :
    e.Screens ∧ e.lookedAtEnd = e.progress.window.lines := by
  unfold lookedAtEnd at h ⊢
  split at h
  · rename_i hc
    exact ⟨hc.1, if_pos hc⟩
  · cases h

theorem lookedAtRoom_of_mem (h : line ∈ e.lookedAtRoom) :
    e.Screens ∧ e.lookedAtRoom = [line] ∧ (∃ rest, e.progress.window.lines = line :: rest) ∧
      e.windowCapacity ≤ e.progress.window.lines.length := by
  unfold lookedAtRoom at h ⊢
  split at h
  · rename_i hc
    rw [if_pos hc, Window.length_lines]
    cases hw : e.progress.window.lines with
    | nil =>
      rw [hw] at h
      cases h
    | cons oldest rest =>
      rw [hw] at h
      cases List.mem_singleton.mp h
      exact ⟨hc.1, rfl, ⟨rest, rfl⟩, hc.2⟩
  · cases h

def Ends (e : Engine) (r : Request) : Prop :=
  r.call? = some .finish ∨
    ∃ line, r.line? = some line ∧ (e.phase.matchedTrigger line).isSome = true

def Brings (e : Engine) (r : Request) : Prop :=
  ∃ line, r.line? = some line ∧ e.phase.matchedTrigger line = none

/-- **The two ways in which lines are looked at**: the whole window when the phase ends, and the
oldest line of a window that is full. -/
theorem lookedAt_cases (h : line ∈ e.lookedAt r) : e.Screens ∧
    (e.Ends r ∧ e.lookedAt r = e.progress.window.lines ∨
      e.Brings r ∧ e.lookedAt r = [line] ∧ (∃ rest, e.progress.window.lines = line :: rest) ∧
        e.windowCapacity ≤ e.progress.window.lines.length) := by
  unfold lookedAt at h ⊢
  cases hc : r.call? with
  | none =>
    rw [hc] at h
    cases h
  | some call =>
    rw [hc] at h
    cases call with
    | take => cases h
    | finish =>
      dsimp only at h ⊢
      split at h
      · rename_i hlast
        obtain ⟨hs, hw⟩ := lookedAtEnd_of_mem h
        exact ⟨hs, .inl ⟨.inl hc, (if_pos hlast).trans hw⟩⟩
      · cases h
    | feed new raw =>
      have hl : r.line? = some new := by rw [Request.line?, hc]
      dsimp only at h ⊢
      split at h
      · cases h
      · rename_i ho
        rw [if_neg ho]
        split at h
        · rename_i ht
          obtain ⟨hs, hw⟩ := lookedAtEnd_of_mem h
          exact ⟨hs, .inl ⟨.inr ⟨new, hl, ht⟩, (if_pos ht).trans hw⟩⟩
        · rename_i ht
          obtain ⟨hs, hroom, hrest, hfull⟩ := lookedAtRoom_of_mem h
          have htrigger : e.phase.matchedTrigger new = none := by simpa using ht
          exact ⟨hs, .inr ⟨⟨new, hl, htrigger⟩, (if_neg ht).trans hroom, hrest, hfull⟩⟩

/-! ## What waits in the window -/

theorem finalize_window {trigger : Option String} (hgo : (e.finalize trigger).2.halted = none) :
    (e.finalize trigger).2.progress.window.lines = [] := by
  rcases finalize_cases e trigger with he | ⟨hit, e₁, -, he⟩ | ⟨e₁, -, -, he⟩
  · rw [he] at hgo
    cases hgo
  · rw [he] at hgo
    cases hgo
  · rw [he] at hgo ⊢
    rcases complete_cases e₁ trigger with hc | hc | hc
    · rw [hc]
      rfl
    · rw [hc]
      rfl
    · rw [hc] at hgo
      cases hgo

/-- What a request does to the window while the engine goes on: it is emptied, or the section and
the phase go on and it stays as it is or takes a line in. -/
inductive WindowStep (e : Engine) (r : Request) (e' : Engine) : Prop where
  | emptied (hw : e'.progress.window.lines = [])
  | kept (hs : e'.sections = e.sections) (hp : e'.progress.phaseIndex = e.progress.phaseIndex)
      (hw : e'.progress.window.lines = e.progress.window.lines)
  | pushed {line : String} (hs : e'.sections = e.sections)
      (hp : e'.progress.phaseIndex = e.progress.phaseIndex) (hl : r.line? = some line)
      (ht : e.phase.matchedTrigger line = none)
      (hw : e'.progress.window.lines =
        (if e.windowCapacity ≤ e.progress.window.lines.length then e.progress.window.lines.tail
          else e.progress.window.lines) ++ [line])

theorem windowStep_respond (hh : e.halted = none) (hgo : (e.respond r).2.halted = none) :
    WindowStep e r (e.respond r).2 := by
  cases hc : r.call? with
  | none =>
    obtain ⟨banned, hb⟩ := respond_aside e hc
    rw [hb]
    exact .kept rfl rfl rfl
  | some call =>
    rw [respond_call e hc] at hgo ⊢
    cases call with
    | take => exact .kept rfl rfl rfl
    | finish =>
      rcases finish_cases hh with he | ⟨status, he⟩
      · rw [perform, he] at hgo ⊢
        exact .emptied (finalize_window hgo)
      · rw [perform, he] at hgo
        cases hgo
    | feed line raw =>
      have hl : r.line? = some line := by rw [Request.line?, hc]
      rw [perform] at hgo ⊢
      rcases feedCounted_cases e line raw with
        ⟨status, hs, -⟩ | ⟨-, -, he⟩ | ⟨trigger, -, -, -, he⟩ | ⟨-, -, ht, he⟩
      · rw [hh] at hs
        cases hs
      · rw [he] at hgo
        cases hgo
      · rw [he] at hgo ⊢
        exact .emptied (finalize_window hgo)
      · rw [he] at hgo ⊢
        have hwindow := bufferLine_window hgo
        rcases bufferLine_cases (e.count raw) line with
          ⟨hit, e₁, w, hb, hpiracy⟩ | ⟨e₁, gone, w, hb, -, -, hsuccess⟩
        · rw [hpiracy] at hgo
          cases hgo
        · rw [hsuccess] at hwindow ⊢
          exact .pushed (sections_of_bare hb :) (phaseIndex_of_bare hb :) hl ht hwindow

/-- The line was fed by one of the requests, while the engine went on where it stands after them: in
the same section and the same phase, and it has no trigger of this phase. -/
def FedHere (start : Engine) (requests : List Request) (line : String) : Prop :=
  ∃ before r after, requests = before ++ r :: after ∧ r.line? = some line ∧
    (start.served before).halted = none ∧
    (start.served before).sections = (start.served requests).sections ∧
    (start.served before).progress.phaseIndex = (start.served requests).progress.phaseIndex ∧
    (start.served before).phase.matchedTrigger line = none

/-- Every line in the window was fed to the active phase, and there are not more of them than have
room in it. -/
structure Waiting (start : Engine) (requests : List Request) : Prop where
  fed : ∀ line ∈ (start.served requests).progress.window.lines, FedHere start requests line
  length_le :
    (start.served requests).progress.window.lines.length ≤ (start.served requests).windowCapacity

section run
variable {start : Engine} {requests : List Request}

theorem FedHere.concat (h : FedHere start requests line)
    (hs : (start.served (requests ++ [r])).sections = (start.served requests).sections)
    (hp : (start.served (requests ++ [r])).progress.phaseIndex
      = (start.served requests).progress.phaseIndex) :
    FedHere start (requests ++ [r]) line := by
  obtain ⟨before, r', after, rfl, hl, hh, hsections, hphase, ht⟩ := h
  refine ⟨before, r', after ++ [r], ?_, hl, hh, hsections.trans hs.symm, hphase.trans hp.symm, ht⟩
  rw [List.append_assoc, List.cons_append]

/-- **Every line in the window was fed to the active phase**, as long as the engine goes on. -/
theorem waiting_served (hstart : start.progress.window.lines = [])
    (hh : (start.served requests).halted = none) : Waiting start requests := by
  -- on the requests, from the last one: it has taken a line in or let the window be
  induction requests using List.reverseRecOn with
  | nil =>
    have hnone : (start.served []).progress.window.lines = [] := hstart
    exact ⟨by rw [hnone]; nofun, by rw [hnone]; exact Nat.zero_le _⟩
  | append_singleton requests r ih =>
    have hgoing := going_of_served_concat hh
    obtain ⟨hfed, hlength⟩ := ih hgoing
    have hconcat := served_concat start requests r
    obtain ⟨ht, hl, -⟩ := setting_respond (start.served requests) r
    have hcap := windowCapacity_eq ht hl
    rw [hconcat] at hh
    have hpos := windowCapacity_pos (start.served requests)
    cases windowStep_respond hgoing hh with
    | emptied hw =>
      rw [← hconcat] at hw
      exact ⟨by rw [hw]; nofun, by rw [hw]; exact Nat.zero_le _⟩
    | kept hs hp hw =>
      rw [← hconcat] at hs hp hw hcap
      refine ⟨fun line hmem => ?_, by rw [hw, hcap]; exact hlength⟩
      rw [hw] at hmem
      exact (hfed line hmem).concat hs hp
    | @pushed new hs hp hline htrigger hw =>
      rw [← hconcat] at hs hp hw hcap
      refine ⟨fun line hmem => ?_, ?_⟩
      · rw [hw] at hmem
        rcases List.mem_append.mp hmem with hold | hnew
        · refine (hfed line ?_).concat hs hp
          split at hold
          · exact List.mem_of_mem_tail hold
          · exact hold
        · rw [List.mem_singleton.mp hnew]
          exact ⟨requests, r, [], rfl, hline, hgoing, hs.symm, hp.symm, htrigger⟩
      · rw [hw, hcap, List.length_append, List.length_singleton]
        split
        · rw [List.length_tail]
          omega
        · omega

end run

/-! ## What is found -/

/-- What the engine `e`, which `requests` led to, has to show for a hit that it answers to the next
request. -/
structure Evidence (start : Engine) (requests : List Request) (e : Engine) (r : Request)
    (hit : BannedHit) : Prop where
  /-- The place is that of the active phase. -/
  phaseIndex : hit.phaseIndex = e.progress.phaseIndex
  phase : e.table.phases[hit.phaseIndex]? = some e.phase
  phaseName : hit.phaseName = e.phase.name
  screens : .bannedContent ∈ e.phase.handlers
  /-- The phrase is listed now, and comes first, as does the line that holds it. -/
  first : e.banned.First (e.lookedAt r) hit.trigger hit.context
  /-- The line was fed to this phase. -/
  fed : FedHere start requests hit.context
  /-- The whole window was looked at, or the oldest line of a window that was full. -/
  lookedAt : e.Ends r ∧ e.lookedAt r = e.progress.window.lines ∨
    e.Brings r ∧ e.lookedAt r = [hit.context] ∧
      (∃ rest, e.progress.window.lines = hit.context :: rest) ∧
      e.progress.window.lines.length = e.windowCapacity

theorem evidence_of_piracy {start : Engine} {requests : List Request} (hsound : Sound start)
    (hstart : start.progress.window.lines = []) (hh : (start.served requests).halted = none)
    (h : ((start.served requests).respond r).1 = some (.piracy hit)) :
    Evidence start requests (start.served requests) r hit := by
  obtain ⟨hindex, hname, hfirst⟩ :=
    BannedPhrases.first_of_hit? ((respond_piracy_iff hh).mp h)
  obtain ⟨hscreens, hways⟩ := lookedAt_cases hfirst.mem_lines
  obtain ⟨hfed, hlength⟩ := waiting_served hstart hh
  have hphase := (orderly_respond (sound_served hsound requests) r).phase_eq
  refine ⟨hindex, hindex ▸ hphase, hname, hscreens, hfirst, hfed _ ?_, ?_⟩
  · rcases hways with ⟨-, hwhole⟩ | ⟨-, -, ⟨rest, hrest⟩, -⟩
    · rw [← hwhole]
      exact hfirst.mem_lines
    · rw [hrest]
      exact List.mem_cons_self
  · rcases hways with hwhole | ⟨hbrings, hone, hrest, hfull⟩
    · exact .inl hwhole
    · exact .inr ⟨hbrings, hone, hrest, Nat.le_antisymm hlength hfull⟩

/-- **What is found is there, and is found where it is.**  Requests are made of a fresh engine, and
at any time other phrases may be banned.  When the next request is answered with a phrase that was
found, there is evidence for it, unless it had been found before and the engine has halted.  While
the engine goes on, a phrase is found exactly when one of the lines that are looked at holds one. -/
theorem piracy_genuine {d : TableDefinition} {builtin : Bool} {table : PhaseTable}
    (h : d.validate builtin = .ok table) (limits : EngineLimits) (banned : BannedPhrases)
    (resolver : Resolver) (requests : List Request) (r : Request) :
    let start := fresh table limits banned resolver
    let e := start.served requests
    e.table = table ∧
    (∀ hit, (e.respond r).1 = some (.piracy hit) →
      e.halted = some (.piracy hit) ∨ e.halted = none ∧ Evidence start requests e r hit) ∧
    (e.halted = none → ((∃ hit, (e.respond r).1 = some (.piracy hit)) ↔
      ∃ line ∈ e.lookedAt r, ¬ e.banned.Clean line)) := by
  intro start e
  have hsound : Sound start :=
    sound_fresh (TableDefinition.usable_of_validate h) limits banned resolver
  refine ⟨(setting_served start requests).1, fun hit hpiracy => ?_, fun hh => ?_⟩
  · cases hh : e.halted with
    | some status =>
      have hstatus := (respond_halted hh r).2 _ hpiracy
      exact .inl (by rw [hstatus])
    | none => exact .inr ⟨rfl, evidence_of_piracy hsound rfl hh hpiracy⟩
  · constructor
    · rintro ⟨hit, hpiracy⟩
      have hhit := (respond_piracy_iff hh).mp hpiracy
      by_contra hclean
      push Not at hclean
      rw [foundIn, BannedPhrases.hit?_eq_none_iff.mpr hclean] at hhit
      cases hhit
    · rintro ⟨line, hmem, hunclean⟩
      cases hhit : e.foundIn (e.lookedAt r) with
      | none => exact absurd (BannedPhrases.hit?_eq_none_iff.mp hhit line hmem) hunclean
      | some hit => exact ⟨hit, (respond_piracy_iff hh).mpr hhit⟩

def twoWaiting : List Request := [.ban (.ofList ["x", "Warez"]), .feed "some WAREZ", .feed "b"]

/-- A third line drives the first one out. -/
theorem evidence_of_twoWaiting : ∃ table, TableDefinition.sessions.validate false = .ok table ∧
    let start := fresh table { windowCapacity := 2 } {} .unknown
    Evidence start twoWaiting (start.served twoWaiting) (.feed "c")
      { phaseIndex := 0, phaseName := "head", trigger := "Warez", context := "some WAREZ" } := by
  have hrun : ∃ table, TableDefinition.sessions.validate false = .ok table ∧
      let e := (fresh table { windowCapacity := 2 } {} .unknown).served twoWaiting
      e.halted = none ∧ (e.respond (.feed "c")).1 = some (.piracy
        { phaseIndex := 0, phaseName := "head", trigger := "Warez", context := "some WAREZ" }) := by
    decide +kernel
  obtain ⟨table, h, hgoing, hpiracy⟩ := hrun
  obtain ⟨-, hevidence, -⟩ :=
    piracy_genuine h { windowCapacity := 2 } {} .unknown twoWaiting (.feed "c")
  refine ⟨table, h, ?_⟩
  rcases hevidence _ hpiracy with hhalted | ⟨-, hevidence⟩
  · rw [hgoing] at hhalted
    cases hhalted
  · exact hevidence

end LogTriage.Engine
