import LogTriage.Proofs.Engine.Calls
import LogTriage.Proofs.Engine.Past

/-!
# Sections are independent

When the last phase of a section rearms the engine, nothing that was found in the section is left:
to all lines that follow, the engine answers like one that has been fed nothing, but for the bytes
and the sections that it has counted.  The banned phrases may change between two lines.

* `feedUnder_rearmed`   after a rearm, the engine is a fresh one with a past;
* `fed_after`           a past makes no difference to any number of lines;
* `rearm_isolated`      so the section at hand does not depend on those before it.
-/

namespace LogTriage

/-- A line with its bytes in the log, and the phrases that are banned when it is fed. -/
structure Feed where
  line : String
  raw : Nat
  banned : BannedPhrases := {}
deriving DecidableEq, Inhabited

def rawSize : List Feed → Nat
  | [] => 0
  | f :: feeds => f.raw + rawSize feeds

namespace Engine

def feedUnder (e : Engine) (f : Feed) : Status × Engine :=
  ({ e with banned := f.banned } : Engine).feedCounted f.line f.raw

def fed (e : Engine) : List Feed → Engine
  | [] => e
  | f :: feeds => (e.feedUnder f).2.fed feeds

def statuses (e : Engine) : List Feed → List Status
  | [] => []
  | f :: feeds => (e.feedUnder f).1 :: (e.feedUnder f).2.statuses feeds

variable {e e' : Engine}

/-! ## What is the same for all sections -/

theorem feedUnder_setting (e : Engine) (f : Feed) : (e.feedUnder f).2.table = e.table ∧
    (e.feedUnder f).2.limits = e.limits ∧ (e.feedUnder f).2.resolver = e.resolver := by
  obtain ⟨new, h⟩ := feedCounted_adds { e with banned := f.banned } f.line f.raw
  have hl := h.ledger_eq
  exact ⟨(congrArg table hl :), (congrArg limits hl :), (congrArg resolver hl :)⟩

theorem fed_setting (e : Engine) (feeds : List Feed) : (e.fed feeds).table = e.table ∧
    (e.fed feeds).limits = e.limits ∧ (e.fed feeds).resolver = e.resolver := by
  induction feeds generalizing e with
  | nil => exact ⟨rfl, rfl, rfl⟩
  | cons f feeds ih =>
    obtain ⟨ht, hl, hr⟩ := feedUnder_setting e f
    obtain ⟨ht', hl', hr'⟩ := ih (e.feedUnder f).2
    exact ⟨ht'.trans ht, hl'.trans hl, hr'.trans hr⟩

/-! ## After a rearm -/

theorem finalize_rearmed {trigger : Option String} (h : e.finalize trigger = (.stop, e'))
    (hh : e'.halted = none) : e'.progress = {} ∧ e'.consumed = e.consumed := by
  rcases finalize_cases e trigger with he | ⟨hit, e₁, hb, he⟩ | ⟨e₁, hb, -, he⟩
  · rw [he] at h
    cases h
  · rw [he] at h
    cases h
  rw [he] at h
  rcases complete_cases e₁ trigger with hc | hc | hc
  · rw [hc] at h
    cases h
  · rw [hc] at h
    cases h
    exact ⟨rfl, (consumed_of_bare hb :)⟩
  · rw [hc] at h
    cases h
    cases hh

theorem bufferLine_ne_stop (e : Engine) (line : String) : (e.bufferLine line).1 ≠ .stop := by
  rcases bufferLine_cases e line with ⟨hit, e', w, hb, he⟩ | ⟨e', gone, w, hb, -, -, he⟩
  · rw [he]
    exact nofun
  · rw [he]
    exact nofun

/-- A line that ends a section but not the log leaves nothing of the section. -/
theorem feedCounted_rearmed {line : String} {raw : Nat}
    (h : e.feedCounted line raw = (.stop, e')) (hh : e'.halted = none) :
    e'.progress = {} ∧ e'.consumed ≤ e.limits.maxLogBytes := by
  rcases feedCounted_cases e line raw with
    ⟨status, hn, he⟩ | ⟨-, -, he⟩ | ⟨trigger, -, ho, -, he⟩ | ⟨-, -, -, he⟩
  · rw [he] at h
    cases h
    rw [hn] at hh
    cases hh
  · rw [he] at h
    cases h
  · rw [he] at h
    obtain ⟨hp, hc⟩ := finalize_rearmed h hh
    exact ⟨hp, by rw [hc]; exact Nat.le_of_not_lt ho⟩
  · rw [he] at h
    exact absurd (congrArg Prod.fst h) (bufferLine_ne_stop _ line)

def past (e : Engine) : Past := ⟨e.consumed, e.sections, e.completed, e.asked⟩

/-- The engine that would go on from `e` if `e` had nothing behind it. -/
def anew (e : Engine) : Engine :=
  fresh e.table { e.limits with maxLogBytes := e.limits.maxLogBytes - e.consumed } e.banned
    e.resolver

/-- **After a rearm, the engine is a fresh one with a past.** -/
theorem feedUnder_rearmed {f : Feed} (h : e.feedUnder f = (.stop, e')) (hh : e'.halted = none) :
    e'.consumed ≤ e'.limits.maxLogBytes ∧ e' = e'.anew.after e'.past := by
  obtain ⟨hp, hc⟩ := feedCounted_rearmed h hh
  have hl : e'.limits = e.limits := by
    have hset := (feedUnder_setting e f).2.1
    rwa [h] at hset
  have hc' : e'.consumed ≤ e'.limits.maxLogBytes := by rwa [hl]
  refine ⟨hc', ?_⟩
  obtain ⟨table, limits, banned, resolver, progress, consumed, completed, sections, halted, asked⟩ :=
    e'
  simp only at hp hh hc'
  subst hp hh
  simp [anew, fresh, after, past, Nat.sub_add_cancel hc']

/-! ## With a past -/

theorem feedUnder_after (past : Past) (e : Engine) {f : Feed}
    (h : e.consumed + past.consumed + f.raw ≤ maxCount) :
    (e.after past).feedUnder f = outcomeAfter past (e.feedUnder f) :=
  feedCounted_after past { e with banned := f.banned } f.line h

/-- **A past makes no difference to any number of lines**, as long as the bytes can be counted. -/
theorem fed_after (past : Past) (e : Engine) (feeds : List Feed)
    (h : e.consumed + past.consumed + rawSize feeds ≤ maxCount) :
    (e.after past).statuses feeds = (e.statuses feeds).map (·.shifted past.consumed) ∧
      (e.after past).fed feeds = (e.fed feeds).after past := by
  induction feeds generalizing e with
  | nil => exact ⟨rfl, rfl⟩
  | cons f feeds ih =>
    rw [rawSize] at h
    have hf : e.consumed + past.consumed + f.raw ≤ maxCount := by omega
    have hnext : (e.feedUnder f).2.consumed ≤ e.consumed + f.raw :=
      feedCounted_consumed { e with banned := f.banned } f.line f.raw
    obtain ⟨hs, he⟩ := ih (e.feedUnder f).2 (by omega)
    refine ⟨?_, ?_⟩
    · rw [statuses, feedUnder_after past e hf, statuses, List.map_cons]
      exact congrArg _ hs
    · rw [fed, feedUnder_after past e hf]
      exact he

/-- **Sections are independent.**  An engine that has been rearmed answers to all lines that follow
like a fresh one with the rest of the bytes, which finds the same in them. -/
theorem rearm_isolated {table : PhaseTable} {limits : EngineLimits} {banned : BannedPhrases}
    {resolver : Resolver} {before : List Feed} {last : Feed}
    (h : ((fresh table limits banned resolver).fed before).feedUnder last = (.stop, e))
    (hh : e.halted = none) {following : List Feed}
    (hsize : e.consumed + rawSize following ≤ maxCount) :
    let f := fresh table { limits with maxLogBytes := limits.maxLogBytes - e.consumed } e.banned
      resolver
    e.consumed ≤ limits.maxLogBytes ∧
      e.statuses following = (f.statuses following).map (·.shifted e.consumed) ∧
      (e.fed following).halted = (f.fed following).halted.map (·.shifted e.consumed) ∧
      (e.fed following).progress = (f.fed following).progress ∧
      (e.fed following).completed
        = e.completed ++ (f.fed following).completed.map (·.later e.sections) ∧
      (e.fed following).partialAnalysis = (f.fed following).partialAnalysis.later e.sections ∧
      (e.fed following).sections = (f.fed following).sections + e.sections ∧
      (e.fed following).consumed = (f.fed following).consumed + e.consumed ∧
      (e.fed following).asked = e.asked ++ (f.fed following).asked := by
  obtain ⟨ht, hl, hr⟩ := feedUnder_setting ((fresh table limits banned resolver).fed before) last
  obtain ⟨ht', hl', hr'⟩ := fed_setting (fresh table limits banned resolver) before
  rw [h] at ht hl hr
  have htable : e.table = table := ht.trans ht'
  have hlimits : e.limits = limits := hl.trans hl'
  have hresolver : e.resolver = resolver := hr.trans hr'
  obtain ⟨hc, he⟩ := feedUnder_rearmed h hh
  have hanew : e.anew = fresh table
      { limits with maxLogBytes := limits.maxLogBytes - e.consumed } e.banned resolver := by
    rw [anew, htable, hlimits, hresolver]
  rw [hanew] at he
  intro f
  have hz : f.consumed = 0 := rfl
  obtain ⟨hstatuses, hfed⟩ := fed_after e.past f following
    (by rw [hz, Nat.zero_add]; exact hsize)
  rw [← he] at hstatuses hfed
  rw [hfed]
  exact ⟨hlimits ▸ hc, hstatuses, rfl, rfl, rfl, rfl, rfl, rfl, rfl⟩

/-- A table of one phase, which a line with `end` ends and begins again. -/
def endless : PhaseTable :=
  { (default : PhaseTable) with
    phases := [{ name := "run", triggers := ["end"], onTrigger := .rearm }] }

/-- The second section of a log, and a third one that is too long. -/
theorem statuses_endless :
    let e := (((fresh endless { maxLogBytes := 16 } {} .unknown).fed [⟨"a", 2, {}⟩]).feedUnder
      ⟨"end", 4, {}⟩).2
    e.consumed = 6 ∧
      e.statuses [⟨"b", 2, {}⟩, ⟨"end", 4, {}⟩, ⟨"c", 8, {}⟩]
        = ((fresh endless { maxLogBytes := 10 } {} .unknown).statuses
          [⟨"b", 2, {}⟩, ⟨"end", 4, {}⟩, ⟨"c", 8, {}⟩]).map (·.shifted 6) := by
  intro e
  have h : ((fresh endless { maxLogBytes := 16 } {} .unknown).fed [⟨"a", 2, {}⟩]).feedUnder
      ⟨"end", 4, {}⟩ = (.stop, e) := Prod.ext (by decide) rfl
  have hsize : e.consumed + rawSize [⟨"b", 2, {}⟩, ⟨"end", 4, {}⟩, ⟨"c", 8, {}⟩] ≤ maxCount := by
    decide
  exact ⟨by decide, (rearm_isolated h (by decide) hsize).2.1⟩

end Engine

end LogTriage
