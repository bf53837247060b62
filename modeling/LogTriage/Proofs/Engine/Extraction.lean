import LogTriage.Proofs.Engine.Fields

/-!
# Extractions that are due

The pattern of a phase has to match the window when the phase ends, unless it has matched before:
while the window was full and the probe of the phase recognized the line that had to leave it.  An
engine remembers that the pattern has matched early.  Of other phases and of earlier sections it
remembers nothing, however often they have matched.

* `passage_respond`   what a request does to the memory of an engine that goes on;
* `early_iff`         it tells whether the pattern has matched early since the phase was entered;
* `extraction_due`    so a pattern fails just when no match has been found.
-/

namespace LogTriage

/-- A log of drivers: what a driver reports of itself is wanted before it leaves the window. -/
def TableDefinition.drivers : TableDefinition where
  id := "drivers"
  name := "Drivers"
  serialPattern := some "ID (?P<id>[a-z]+)"
  titlePattern := some "NAME (?P<title>[a-z]+)"
  phases := [{
    name := "driver"
    triggers := ["end"]
    pattern := some "GL VERSION: (?P<gl>[0-9]+)"
    flushProbe := some .driverBanner
    onTrigger := .rearm }]

namespace Engine

/-- Before the phase ends its pattern matches: a line comes into the window, which is full, and the
probe recognizes the line that has to leave it. -/
structure ExtractsEarly (e : Engine) (r : Request) (groups : List (String × String)) : Prop where
  buffers : ∃ line, e.effect r = .buffers line
  probes : e.probes = true
  captured : e.captured? = some groups

/-- Among the requests is one that matched the pattern early, in the section and the phase where the
engine stands after them. -/
def ExtractedSince (start : Engine) (requests : List Request) : Prop :=
  ∃ before r after groups, requests = before ++ r :: after ∧
    (start.served before).ExtractsEarly r groups ∧
    (start.served before).sections = (start.served requests).sections ∧
    (start.served before).progress.phaseIndex = (start.served requests).progress.phaseIndex

def Before (e e' : Engine) : Prop :=
  e.sections < e'.sections ∨
    e'.sections = e.sections ∧ e.progress.phaseIndex < e'.progress.phaseIndex

variable {e e' start : Engine} {r : Request} {requests : List Request} {trigger : Option String}

/-! ## One request -/

inductive Passage (e : Engine) (r : Request) (e' : Engine) : Prop where
  | stays (sections_eq : e'.sections = e.sections)
      (phaseIndex_eq : e'.progress.phaseIndex = e.progress.phaseIndex)
      (early_iff : e'.progress.extractedEarly = true ↔
        e.progress.extractedEarly = true ∨ ∃ groups, e.ExtractsEarly r groups)
  | moves (before : e.Before e') (early_eq : e'.progress.extractedEarly = false)

theorem bufferLine_phaseIndex (e : Engine) (line : String) :
    (e.bufferLine line).2.progress.phaseIndex = e.progress.phaseIndex :=
  (congrArg (·.progress.phaseIndex) (bufferLine_unbuffered e line) :)

theorem early?_eq_some_iff (e : Engine) (groups : List (String × String)) :
    e.early? = some groups ↔ e.probes = true ∧ e.captured? = some groups := by
  rw [early?]
  cases e.probes with
  | true => simp
  | false => simp

theorem extractsEarly_iff {line : String} (h : e.effect r = .buffers line)
    {groups : List (String × String)} : e.ExtractsEarly r groups ↔ e.early? = some groups := by
  rw [early?_eq_some_iff]
  exact ⟨fun he => ⟨he.probes, he.captured⟩, fun he => ⟨⟨line, h⟩, he.1, he.2⟩⟩

theorem respond_extracted (h : ∀ trigger, e.effect r ≠ .ends trigger) :
    (∀ groups, ¬ e.ExtractsEarly r groups) ∧ (e.respond r).2.extracted = e.extracted ∨
    ∃ groups, e.ExtractsEarly r groups ∧
      (e.respond r).2.extracted = (mergeCaptures e.progress.fields groups, true) := by
  cases heffect : e.effect r with
  | rests =>
    have hkept : (e.respond r).2.extracted = e.extracted :=
      (congrArg (fun p : Progress => (p.fields, p.extractedEarly))
        (respond_rests heffect).progress_eq :)
    refine .inl ⟨fun groups hearly => ?_, hkept⟩
    obtain ⟨line, hline⟩ := hearly.buffers
    rw [heffect] at hline
    cases hline
  | buffers line =>
    have htallied := tallied_uncounted e r
    have hbuffered := bufferLine_extracted (e.tallied r) line
    have hfields : (e.tallied r).progress.fields = e.progress.fields :=
      (congrArg (·.progress.fields) htallied :)
    have hextracted : (e.tallied r).extracted = e.extracted := (congrArg extracted htallied :)
    have hearly : (e.tallied r).early? = e.early? := (congrArg early? htallied :)
    rw [hextracted, hearly, hfields] at hbuffered
    simp only [extractsEarly_iff heffect, (respond_buffers heffect).2]
    cases hgroups : e.early? with
    | none =>
      rw [hgroups] at hbuffered
      exact .inl ⟨nofun, hbuffered⟩
    | some groups =>
      rw [hgroups] at hbuffered
      exact .inr ⟨groups, rfl, hbuffered⟩
  | ends trigger => exact absurd heffect (h trigger)

theorem finalize_moves (hgo : (e.finalize trigger).2.halted = none) :
    e.Before (e.finalize trigger).2 ∧ (e.finalize trigger).2.progress.extractedEarly = false := by
  rcases finalize_extracted e trigger with ⟨-, he⟩ | ⟨-, e₁, hb, -, ⟨hit, he⟩ | he⟩
  · rw [he] at hgo
    cases hgo
  · rw [he] at hgo
    cases hgo
  · have hsections : e₁.sections = e.sections := sections_of_bare hb
    have hphase : e₁.progress.phaseIndex = e.progress.phaseIndex := phaseIndex_of_bare hb
    rw [he] at hgo ⊢
    rcases complete_cases e₁ trigger with hc | hc | hc
    · rw [hc]
      refine ⟨.inr ⟨hsections, ?_⟩, rfl⟩
      show e.progress.phaseIndex < e₁.progress.phaseIndex + 1
      omega
    · rw [hc]
      refine ⟨.inl ?_, rfl⟩
      show e.sections < e₁.sections + 1
      omega
    · rw [hc] at hgo
      cases hgo

theorem passage_respond (hgo : (e.respond r).2.halted = none) : Passage e r (e.respond r).2 := by
  have htallied := tallied_uncounted e r
  have hsections : (e.tallied r).sections = e.sections := (congrArg sections htallied :)
  have hphase : (e.tallied r).progress.phaseIndex = e.progress.phaseIndex :=
    (congrArg (·.progress.phaseIndex) htallied :)
  have hearly (h : ∀ trigger, e.effect r ≠ .ends trigger) :
      (e.respond r).2.progress.extractedEarly = true ↔
        e.progress.extractedEarly = true ∨ ∃ groups, e.ExtractsEarly r groups := by
    rcases respond_extracted h with ⟨hnone, hkept⟩ | ⟨groups, hgroups, htrue⟩
    · have hflag : (e.respond r).2.progress.extractedEarly = e.progress.extractedEarly :=
        congrArg Prod.snd hkept
      rw [hflag]
      exact ⟨.inl, fun h => h.resolve_right fun ⟨groups, hgroups⟩ => hnone groups hgroups⟩
    · exact iff_of_true (congrArg Prod.snd htrue) (.inr ⟨groups, hgroups⟩)
  cases heffect : e.effect r with
  | rests =>
    have hrests := respond_rests heffect
    exact .stays hrests.sections_eq (congrArg Progress.phaseIndex hrests.progress_eq :)
      (hearly (by rw [heffect]; nofun))
  | buffers line =>
    have hbuffers := (respond_buffers heffect).2
    have hs := (bufferLine_adds (e.tallied r) line).sections_eq.trans hsections
    have hp := (bufferLine_phaseIndex (e.tallied r) line).trans hphase
    have he := hearly (by rw [heffect]; nofun)
    rw [hbuffers] at he ⊢
    exact .stays hs hp he
  | ends trigger =>
    rw [(respond_ends heffect).2] at hgo ⊢
    obtain ⟨hbefore, hforgotten⟩ := finalize_moves (e := e.tallied r) hgo
    rw [Before, hsections, hphase] at hbefore
    exact .moves hbefore hforgotten

/-! ## Runs -/

theorem not_before_served (hh : (e.served requests).halted = none) :
    ¬ (e.served requests).Before e := by
  induction requests using List.reverseRecOn with
  | nil =>
    show ¬ e.Before e
    unfold Before
    omega
  | append_singleton requests r ih =>
    have hnot := ih (going_of_served_concat hh)
    rw [served_concat] at hh ⊢
    unfold Before at hnot ⊢
    cases passage_respond hh with
    | stays hs hp _ => omega
    | moves hbefore _ =>
      unfold Before at hbefore
      omega

theorem extractedSince_stays
    (hs : (start.served (requests ++ [r])).sections = (start.served requests).sections)
    (hp : (start.served (requests ++ [r])).progress.phaseIndex
      = (start.served requests).progress.phaseIndex) :
    ExtractedSince start (requests ++ [r]) ↔ ExtractedSince start requests ∨
      ∃ groups, (start.served requests).ExtractsEarly r groups := by
  constructor
  · rintro ⟨before, r', after, groups, hsplit, hr, hsections, hphase⟩
    rcases split_concat hsplit with ⟨rfl, rfl, -⟩ | ⟨rest, rfl, -⟩
    · exact .inr ⟨groups, hr⟩
    · exact .inl ⟨before, r', rest, groups, rfl, hr, hsections.trans hs, hphase.trans hp⟩
  · rintro (⟨before, r', after, groups, rfl, hr, hsections, hphase⟩ | ⟨groups, hr⟩)
    · exact ⟨before, r', after ++ [r], groups, by simp, hr, hsections.trans hs.symm,
        hphase.trans hp.symm⟩
    · exact ⟨requests, r, [], groups, rfl, hr, hs.symm, hp.symm⟩

theorem not_extractedSince_moves (hgoing : (start.served requests).halted = none)
    (hbefore : (start.served requests).Before (start.served (requests ++ [r]))) :
    ¬ ExtractedSince start (requests ++ [r]) := by
  rintro ⟨before, r', after, groups, hsplit, -, hsections, hphase⟩
  obtain ⟨rest, rfl⟩ : ∃ rest, requests = before ++ rest := by
    rcases split_concat hsplit with ⟨rfl, -, -⟩ | ⟨rest, hrest, -⟩
    · exact ⟨[], (List.append_nil _).symm⟩
    · exact ⟨r' :: rest, hrest⟩
  rw [served_append start before rest] at hgoing hbefore
  have hnot := not_before_served hgoing
  unfold Before at hnot hbefore
  omega

/-- **An engine remembers whether the pattern has matched early** since the phase was entered. -/
theorem early_iff (hstart : start.progress.extractedEarly = false)
    (hh : (start.served requests).halted = none) :
    (start.served requests).progress.extractedEarly = true ↔ ExtractedSince start requests := by
  -- on the requests, from the last one: the engine stays where it is, or all before is left behind
  induction requests using List.reverseRecOn with
  | nil =>
    refine iff_of_false (by rw [served, List.foldl_nil, hstart]; exact Bool.false_ne_true) ?_
    rintro ⟨before, r, after, groups, hsplit, -⟩
    simp at hsplit
  | append_singleton requests r ih =>
    have hgoing := going_of_served_concat hh
    have hconcat := served_concat start requests r
    rw [hconcat] at hh
    cases passage_respond hh with
    | stays hs hp hearly =>
      rw [← hconcat] at hs hp hearly
      rw [hearly, ih hgoing, extractedSince_stays hs hp]
    | moves hbefore hearly =>
      rw [← hconcat] at hbefore hearly
      refine iff_of_false ?_ (not_extractedSince_moves hgoing hbefore)
      rw [hearly]
      exact Bool.false_ne_true

/-! ## Fields -/

/-- **What was captured early is still there**, unless the group has captured something else since,
in the section at hand and in its analysis when it is complete. -/
theorem get?_of_extractsEarly {groups : List (String × String)} (h : e.ExtractsEarly r groups)
    (hbefore : ∀ a ∈ e.completed, a.index < e.sections) {name value : String}
    (hv : lastCapture? name groups = some value) (more : List Request) :
    let e' := (e.respond r).2
    let last := (lastCapture? name (capturesIn e.sections e' more)).getD value
    (∀ a ∈ e'.results more, a.index = e.sections → a.fields.get? name = some (escape last)) ∧
      ((e'.served more).sections = e.sections →
        (e'.served more).partialAnalysis.fields.get? name = some (escape last)) := by
  intro e' last
  obtain ⟨line, hline⟩ := h.buffers
  have hgroups : e.captures r = groups := by
    rw [captures, hline]
    dsimp only
    rw [(extractsEarly_iff hline).mp h]
    rfl
  have hget : (mergeCaptures e.progress.fields
      (capturesIn e.sections e (r :: more))).escape.get? name = some (escape last) := by
    rw [capturesIn_cons, hgroups, FieldMap.escape, FieldMap.get?_mapValues, get?_mergeCaptures,
      lastCapture?_append, hv]
    show Option.map escape (((lastCapture? name (capturesIn e.sections e' more)).or (some value)).or
      (e.progress.fields.get? name)) = some (escape
        ((lastCapture? name (capturesIn e.sections e' more)).getD value))
    cases lastCapture? name (capturesIn e.sections e' more) <;> rfl
  refine ⟨fun a ha hindex => ?_, fun hs => ?_⟩
  · have hmem : a ∈ e.results (r :: more) := List.mem_append_right _ ha
    rw [fields_results hbefore a hmem hindex]
    exact hget
  · have hs : (e.served (r :: more)).sections = e.sections := hs
    show (e.served (r :: more)).progress.fields.escape.get? name = some (escape last)
    rw [fields_served hs]
    exact hget

/-! ## What is due -/

theorem bufferLine_status (e : Engine) (line : String) :
    (e.bufferLine line).1 = .success ∨ ∃ hit, (e.bufferLine line).1 = .piracy hit := by
  rcases bufferLine_cases e line with ⟨hit, e₁, w, -, he⟩ | ⟨e₁, gone, w, -, -, -, he⟩
  · exact .inr ⟨hit, by rw [he]; rfl⟩
  · exact .inl (by rw [he])

def mismatch (e : Engine) (trigger : Option String) : Failure where
  phaseIndex := e.progress.phaseIndex
  phaseName := e.phase.name
  trigger := trigger
  reason := .patternMismatch

theorem finalize_fails_iff (e : Engine) (trigger : Option String) :
    (∃ failure, (e.finalize trigger).1 = .fail failure) ↔
      e.Unmatched ∧ e.progress.extractedEarly = false := by
  rw [← extract?_eq_none_iff]
  rcases finalize_extracted e trigger with ⟨hx, he⟩ | ⟨hx, e₁, -, -, ⟨hit, he⟩ | he⟩
  · exact iff_of_true ⟨_, by rw [he]; rfl⟩ hx
  · refine iff_of_false ?_ hx
    rintro ⟨failure, hf⟩
    rw [he] at hf
    cases hf
  · refine iff_of_false ?_ hx
    rintro ⟨failure, hf⟩
    rw [he] at hf
    rcases complete_status e₁ trigger with hs | hs
    · cases hs.symm.trans hf
    · cases hs.symm.trans hf

/-- **What is answered when the pattern fails**: but for the counters, the engine halts as it
was. -/
theorem respond_failing (h : e.effect r = .ends trigger) (hu : e.Unmatched)
    (hearly : e.progress.extractedEarly = false) : e.respond r = (some (.fail (e.mismatch trigger)),
      { e.tallied r with halted := some (.fail (e.mismatch trigger)) }) := by
  have htallied := tallied_uncounted e r
  have hx : (e.tallied r).extract? (e.tallied r).windowText = none := by
    rw [extract?_eq_none_iff]
    exact ⟨(congrArg Unmatched htallied :).mpr hu,
      (congrArg (·.progress.extractedEarly) htallied :).trans hearly⟩
  have hmismatch : (e.tallied r).failure trigger .patternMismatch = e.mismatch trigger :=
    (congrArg (mismatch · trigger) htallied :)
  rw [(respond_ends h).2]
  rcases finalize_extracted (e.tallied r) trigger with ⟨-, he⟩ | ⟨hne, -⟩
  · rw [he, hmismatch]
    rfl
  · exact absurd hx hne

theorem respond_fails_iff (hh : e.halted = none) :
    (∃ failure, (e.respond r).1 = some (.fail failure) ∧ failure.reason = .patternMismatch) ↔
      ∃ trigger, e.effect r = .ends trigger ∧ e.Unmatched ∧ e.progress.extractedEarly = false := by
  constructor
  · rintro ⟨failure, hf, hreason⟩
    cases heffect : e.effect r with
    | rests =>
      have htruncated := (respond_rests heffect).answer hh failure hf
      rw [hreason] at htruncated
      cases htruncated
    | buffers line =>
      rw [(respond_buffers heffect).2] at hf
      rcases bufferLine_status (e.tallied r) line with hs | ⟨hit, hs⟩
      · cases (Option.some.inj hf).symm.trans hs
      · cases (Option.some.inj hf).symm.trans hs
    | ends trigger =>
      rw [(respond_ends heffect).2] at hf
      have hfails := (finalize_fails_iff _ _).mp ⟨failure, Option.some.inj hf⟩
      have htallied := tallied_uncounted e r
      exact ⟨trigger, rfl, (congrArg Unmatched htallied :).mp hfails.1,
        (congrArg (·.progress.extractedEarly) htallied :).symm.trans hfails.2⟩
  · rintro ⟨trigger, heffect, hu, hearly⟩
    exact ⟨e.mismatch trigger, by rw [respond_failing heffect hu hearly], rfl⟩

/-- How the pattern of the active phase is matched by a request to the engine `e`, which `requests`
led to. -/
structure Matching (start : Engine) (requests : List Request) (e : Engine) (r : Request) :
    Prop where
  /-- A pattern fails when the phase ends, does not match then and has not matched early since the
  phase was entered in this section. -/
  fails_iff : (∃ failure, (e.respond r).1 = some (.fail failure) ∧
      failure.reason = .patternMismatch) ↔
    ∃ trigger, e.effect r = .ends trigger ∧ e.Unmatched ∧ ¬ ExtractedSince start requests
  /-- The failure tells the phase and the trigger; but for the counters, the engine halts as it
  was. -/
  failing : ∀ trigger, e.effect r = .ends trigger → e.Unmatched → ¬ ExtractedSince start requests →
    e.respond r = (some (.fail (e.mismatch trigger)),
      { e.tallied r with halted := some (.fail (e.mismatch trigger)) })
  /-- A line that comes into the window fails nothing. -/
  buffered : ∀ line, e.effect r = .buffers line →
    (e.respond r).1 = some .success ∨ ∃ hit, (e.respond r).1 = some (.piracy hit)
  /-- Before the phase ends, the pattern is matched only if the window was full and the probe
  recognized the line that has to leave it. -/
  kept : (∀ trigger, e.effect r ≠ .ends trigger) → (∀ groups, ¬ e.ExtractsEarly r groups) →
    (e.respond r).2.extracted = e.extracted
  early : ∀ groups, e.ExtractsEarly r groups →
    (e.respond r).2.extracted = (mergeCaptures e.progress.fields groups, true)
  /-- What was captured then stays in the section, unless the group captures something else. -/
  lasting : ∀ groups, e.ExtractsEarly r groups → ∀ name value,
    lastCapture? name groups = some value → ∀ more : List Request,
    let e' := (e.respond r).2
    let last := (lastCapture? name (capturesIn e.sections e' more)).getD value
    (∀ a ∈ e'.results more, a.index = e.sections → a.fields.get? name = some (escape last)) ∧
      ((e'.served more).sections = e.sections →
        (e'.served more).partialAnalysis.fields.get? name = some (escape last))

/-- **A pattern fails just when no match has been found**, as long as the engine goes on. -/
theorem extraction_due (table : PhaseTable) (limits : EngineLimits) (banned : BannedPhrases)
    (resolver : Resolver) {requests : List Request}
    (hh : ((fresh table limits banned resolver).served requests).halted = none) (r : Request) :
    Matching (fresh table limits banned resolver) requests
      ((fresh table limits banned resolver).served requests) r := by
  generalize hstart : fresh table limits banned resolver = start at hh ⊢
  generalize he : start.served requests = e at hh ⊢
  have hsince : e.progress.extractedEarly = false ↔ ¬ ExtractedSince start requests := by
    rw [← early_iff (by rw [← hstart]; rfl) (by rw [he]; exact hh), he, Bool.not_eq_true]
  have hbefore : ∀ a ∈ e.completed, a.index < e.sections := by
    rw [← he]
    exact index_lt_of_completed (by rw [← hstart]; rfl)
  constructor
  · rw [respond_fails_iff hh, hsince]
  · intro trigger heffect hu hsame
    exact respond_failing heffect hu (hsince.mpr hsame)
  · intro line heffect
    rw [(respond_buffers heffect).2]
    rcases bufferLine_status (e.tallied r) line with hs | ⟨hit, hs⟩
    · exact .inl (congrArg some hs)
    · exact .inr ⟨hit, congrArg some hs⟩
  · intro h hnone
    rcases respond_extracted h with ⟨-, hkept⟩ | ⟨groups, hgroups, -⟩
    · exact hkept
    · exact absurd hgroups (hnone groups)
  · intro groups hgroups
    obtain ⟨line, hline⟩ := hgroups.buffers
    rcases respond_extracted (by rw [hline]; nofun) with ⟨hnone, -⟩ | ⟨groups', hgroups', htrue⟩
    · exact absurd hgroups (hnone groups)
    · cases hgroups.captured.symm.trans hgroups'.captured
      exact htrue
  · exact fun groups hgroups name value hv more => get?_of_extractsEarly hgroups hbefore hv more

/-- The banner is captured before it leaves a window for one line, and is in the analysis of its
section.  The next section has no banner: its pattern fails. -/
theorem extraction_of_drivers : ∃ table, TableDefinition.drivers.validate false = .ok table ∧
    let start := fresh table { windowCapacity := 1 } {} .unknown
    let banner := start.served [.feed "GL VERSION: 4"]
    let later := start.served [.feed "GL VERSION: 4", .feed "x", .feed "end", .feed "y"]
    banner.ExtractsEarly (.feed "x") [("gl", "4")] ∧
      ((banner.respond (.feed "x")).2.results [.feed "end"]).map (·.index) = [0] ∧
      (∀ a ∈ (banner.respond (.feed "x")).2.results [.feed "end"], a.index = 0 →
        a.fields.get? "gl" = some "4") ∧
      later.Unmatched ∧ later.sections = 1 ∧
      (later.respond (.feed "end")).1
        = some (.fail ⟨0, "driver", some "end", .patternMismatch⟩) := by
  have hrun : ∃ table, TableDefinition.drivers.validate false = .ok table ∧
      let start := fresh table { windowCapacity := 1 } {} .unknown
      let banner := start.served [.feed "GL VERSION: 4"]
      let later := start.served [.feed "GL VERSION: 4", .feed "x", .feed "end", .feed "y"]
      (banner.halted = none ∧ banner.sections = 0 ∧ banner.effect (.feed "x") = .buffers "x" ∧
        banner.probes = true ∧ banner.captured? = some [("gl", "4")] ∧
        capturesIn 0 (banner.respond (.feed "x")).2 [.feed "end"] = [] ∧
        ((banner.respond (.feed "x")).2.results [.feed "end"]).map (·.index) = [0]) ∧
      later.halted = none ∧ later.sections = 1 ∧ later.effect (.feed "end") = .ends (some "end") ∧
        later.mismatch (some "end") = ⟨0, "driver", some "end", .patternMismatch⟩ ∧
        (later.respond (.feed "end")).1 = some (.fail (later.mismatch (some "end"))) := by
    decide +kernel
  obtain ⟨table, h, ⟨hbanner, hzero, heffect, hprobes, hcaptured, hlater, hindex⟩, hgoing, hone,
    hends, hmismatch, hfail⟩ := hrun
  have hearly := extraction_due table { windowCapacity := 1 } {} .unknown hbanner (.feed "x")
  have hdue := extraction_due table { windowCapacity := 1 } {} .unknown hgoing (.feed "end")
  have hextracts := ExtractsEarly.mk ⟨"x", heffect⟩ hprobes hcaptured
  have hlasts := (hearly.lasting _ hextracts "gl" "4" (by decide) [.feed "end"]).1
  rw [hzero, hlater] at hlasts
  obtain ⟨trigger, htrigger, hunmatched, hsince⟩ := hdue.fails_iff.mp ⟨_, hfail, rfl⟩
  have hanswer := hdue.failing (some "end") hends hunmatched hsince
  refine ⟨table, h, hextracts, hindex, hlasts, hunmatched, hone, ?_⟩
  rw [hanswer, hmismatch]

end Engine

end LogTriage
