import LogTriage.Proofs.Engine.Extraction
import LogTriage.Proofs.Escaping
import LogTriage.Proofs.Text.Trimmed

/-!
# What the fields of a section are

A field has the name of a group: one in the pattern of the active phase or of a phase before it.
Its value is a text without white space at its ends, and not the empty one.  Until the section ends
a field is not lost, and its value is replaced only by what the group captures in another match that
is not blank.  So the analyses of the section have all its fields, with their values escaped.

* `Extracts`            the two occasions on which a pattern is matched;
* `tidy_respond`        every request leaves names and values as they should be;
* `evolved_captures`    what may become of the fields until the section ends;
* `fields_of_section`   both, for every run, and the analyses that it gives.
-/

namespace LogTriage

namespace FieldMap
variable {m : FieldMap} {name : String}

theorem mem_keys_iff : name ∈ m.keys ↔ ∃ value, m.get? name = some value := by
  rw [keys, List.mem_map]
  constructor
  · rintro ⟨⟨key, value⟩, hmem, rfl⟩
    exact ⟨value, mem_entries_iff.mp hmem⟩
  · rintro ⟨value, hget⟩
    exact ⟨(name, value), mem_entries_iff.mpr hget, rfl⟩

/-- The fields `shown` are those of `raw`, escaped. -/
structure Shows (shown raw : FieldMap) : Prop where
  keys_eq : shown.keys = raw.keys
  get?_eq : ∀ name, shown.get? name = (raw.get? name).map LogTriage.escape

theorem shows_escape (raw : FieldMap) : Shows raw.escape raw where
  keys_eq := raw.keys_escape
  get?_eq := get?_mapValues LogTriage.escape raw

end FieldMap

theorem Pattern.hasGroup_of_captures? {p : Pattern} {text : String}
    {groups : List (String × String)} (h : p.captures? text = some groups) {name raw : String}
    (hmem : (name, raw) ∈ groups) : p.hasGroup name = true := by
  unfold captures? at h
  dsimp only at h
  split at h
  · cases h
  · rename_i slots _
    cases h
    obtain ⟨⟨name', group⟩, hnames, hgroup⟩ := List.mem_filterMap.mp hmem
    obtain ⟨value, -, hpair⟩ := Option.map_eq_some_iff.mp hgroup
    cases hpair
    rw [hasGroup, List.any_eq_true]
    exact ⟨_, hnames, beq_self_eq_true _⟩

namespace Engine

/-- A phase of the table, at the index or before it, has a pattern with a group of this name. -/
def GroupUpTo (table : PhaseTable) (index : Nat) (name : String) : Prop :=
  ∃ i phase pattern, i ≤ index ∧ table.phases[i]? = some phase ∧ phase.pattern = some pattern ∧
    pattern.hasGroup name = true

/-- What holds of the name and the value of a field while the phase with the index is active. -/
structure Proper (table : PhaseTable) (index : Nat) (name value : String) : Prop where
  named : GroupUpTo table index name
  ne_empty : value ≠ ""
  tight : Text.Tight value.toList

def Tidy (table : PhaseTable) (index : Nat) (fields : FieldMap) : Prop :=
  ∀ name value, fields.get? name = some value → Proper table index name value

/-- In answering the request the pattern of the active phase is matched, and captures the groups. -/
inductive Extracts (e : Engine) (r : Request) (groups : List (String × String)) : Prop where
  /-- The phase ends. -/
  | atEnd {trigger : Option String} (ends : e.effect r = .ends trigger)
      (captured : e.captured? = some groups)
  /-- The probe of the phase asks for it. -/
  | atProbe (early : e.ExtractsEarly r groups)

/-- What may become of the fields of `e` by the requests, until its section ends. -/
structure Evolved (e : Engine) (requests : List Request) (fields : FieldMap) : Prop where
  /-- No field is lost. -/
  stays : ∀ name ∈ e.progress.fields.keys, name ∈ fields.keys
  /-- A field that is new or has another value was captured, in this section. -/
  changes : ∀ name, fields.get? name ≠ e.progress.fields.get? name →
    ∃ before r after groups value, requests = before ++ r :: after ∧
      (e.served before).sections = e.sections ∧ (e.served before).Extracts r groups ∧
      lastCapture? name groups = some value ∧ fields.get? name = some value

/-- The fields of the section at hand after a request, with those of a section that it ends. -/
def gathered (e : Engine) (r : Request) : FieldMap :=
  mergeCaptures e.progress.fields (e.captures r)

variable {e : Engine} {r : Request} {requests : List Request} {name value : String}

/-! ## Captures -/

theorem mem_of_lastCapture? {groups : List (String × String)}
    (h : lastCapture? name groups = some value) :
    ∃ raw, (name, raw) ∈ groups ∧ Text.trimmed raw = value ∧ value ≠ "" := by
  obtain ⟨⟨group, raw⟩, hmem, hvalue⟩ := List.exists_of_findSome?_eq_some h
  dsimp only at hvalue
  split at hvalue
  · rename_i hc
    obtain ⟨rfl, hne⟩ := hc
    cases hvalue
    exact ⟨raw, List.mem_reverse.mp hmem, rfl, hne⟩
  · cases hvalue

theorem extracts_of_captures (h : e.captures r ≠ []) : e.Extracts r (e.captures r) := by
  unfold captures at h ⊢
  cases heffect : e.effect r with
  | rests =>
    rw [heffect] at h
    exact absurd rfl h
  | buffers line =>
    rw [heffect] at h
    dsimp only at h ⊢
    cases hgroups : e.early? with
    | none =>
      rw [hgroups] at h
      exact absurd rfl h
    | some groups => exact .atProbe ((extractsEarly_iff heffect).mpr hgroups)
  | ends trigger =>
    rw [heffect] at h
    dsimp only at h ⊢
    cases hgroups : e.captured? with
    | none =>
      rw [hgroups] at h
      exact absurd rfl h
    | some groups => exact .atEnd heffect hgroups

theorem Extracts.captured {groups : List (String × String)} (h : e.Extracts r groups) :
    e.captured? = some groups := by
  cases h with
  | atEnd hends hcaptured => exact hcaptured
  | atProbe hearly => exact hearly.captured

theorem groupUpTo_of_extracts (h : Sound e) {groups : List (String × String)}
    (hx : e.Extracts r groups) {raw : String} (hmem : (name, raw) ∈ groups) :
    GroupUpTo e.table e.progress.phaseIndex name := by
  obtain ⟨pattern, hpattern, hgroups⟩ := Option.bind_eq_some_iff.mp hx.captured
  exact ⟨_, e.phase, pattern, Nat.le_refl _, (orderly_respond h r).phase_eq, hpattern,
    Pattern.hasGroup_of_captures? hgroups hmem⟩

theorem lastCapture?_captures (h : lastCapture? name (e.captures r) = some value) :
    e.Extracts r (e.captures r) := by
  refine extracts_of_captures fun hnil => ?_
  rw [hnil] at h
  cases h

/-! ## Names and values -/

theorem Proper.mono {table : PhaseTable} {index later : Nat} (h : Proper table index name value)
    (hle : index ≤ later) : Proper table later name value where
  named := by
    obtain ⟨i, phase, pattern, hi, hphase⟩ := h.named
    exact ⟨i, phase, pattern, Nat.le_trans hi hle, hphase⟩
  ne_empty := h.ne_empty
  tight := h.tight

theorem tidy_gathered (hsound : Sound e)
    (h : Tidy e.table e.progress.phaseIndex e.progress.fields) (r : Request) :
    Tidy e.table e.progress.phaseIndex (e.gathered r) := by
  intro name value hget
  rw [gathered, get?_mergeCaptures] at hget
  cases hlast : lastCapture? name (e.captures r) with
  | none =>
    rw [hlast] at hget
    exact h name value hget
  | some last =>
    rw [hlast] at hget
    cases hget
    obtain ⟨raw, hmem, rfl, hne⟩ := mem_of_lastCapture? hlast
    refine ⟨groupUpTo_of_extracts hsound (lastCapture?_captures hlast) hmem, hne, ?_⟩
    rw [Text.toList_trimmed]
    exact Text.tight_trim raw.toList

theorem finalize_fields (e : Engine) (trigger : Option String) :
    (e.finalize trigger).2.progress.fields
        = mergeCaptures e.progress.fields (e.captured?.getD []) ∧
      e.progress.phaseIndex ≤ (e.finalize trigger).2.progress.phaseIndex ∨
    (e.finalize trigger).2.progress = {} := by
  rcases finalize_extracted e trigger with ⟨hx, he⟩ | ⟨-, e₁, hb, hf, ⟨hit, he⟩ | he⟩
  · obtain ⟨⟨pattern, hp, hc⟩, -⟩ := (extract?_eq_none_iff e).mp hx
    rw [he, captured?, hp, Option.bind_some, hc]
    exact .inl ⟨rfl, Nat.le_refl _⟩
  · rw [he]
    exact .inl ⟨hf, Nat.le_of_eq (phaseIndex_of_bare hb).symm⟩
  · have hphase : e₁.progress.phaseIndex = e.progress.phaseIndex := phaseIndex_of_bare hb
    rw [he]
    rcases complete_cases e₁ trigger with hc | hc | hc
    · rw [hc, ← hphase]
      exact .inl ⟨hf, Nat.le_succ _⟩
    · rw [hc]
      exact .inr rfl
    · rw [hc, ← hphase]
      exact .inl ⟨hf, Nat.le_refl _⟩

theorem respond_fields (e : Engine) (r : Request) :
    (e.respond r).2.progress.fields = e.gathered r ∧
      e.progress.phaseIndex ≤ (e.respond r).2.progress.phaseIndex ∨
    (e.respond r).2.progress = {} := by
  have htallied := tallied_uncounted e r
  have hfields : (e.tallied r).progress.fields = e.progress.fields :=
    (congrArg (·.progress.fields) htallied :)
  have hphase : (e.tallied r).progress.phaseIndex = e.progress.phaseIndex :=
    (congrArg (·.progress.phaseIndex) htallied :)
  have hcaptured : (e.tallied r).captured? = e.captured? := (congrArg captured? htallied :)
  have hkept (hs : (e.respond r).2.sections = e.sections) :
      (e.respond r).2.progress.fields = e.gathered r := by
    cases respond_gathers e r with
    | kept _ hf => exact hf
    | closed hclosed _ _ => omega
  cases heffect : e.effect r with
  | rests =>
    have hrests := respond_rests heffect
    have hindex : (e.respond r).2.progress.phaseIndex = e.progress.phaseIndex :=
      (congrArg Progress.phaseIndex hrests.progress_eq :)
    exact .inl ⟨hkept hrests.sections_eq, Nat.le_of_eq hindex.symm⟩
  | buffers line =>
    have hsections : (e.tallied r).sections = e.sections := (congrArg sections htallied :)
    have hs := (bufferLine_adds (e.tallied r) line).sections_eq.trans hsections
    have hindex := (bufferLine_phaseIndex (e.tallied r) line).trans hphase
    rw [(respond_buffers heffect).2] at hkept ⊢
    exact .inl ⟨hkept hs, Nat.le_of_eq hindex.symm⟩
  | ends trigger =>
    have hends := finalize_fields (e.tallied r) trigger
    rw [hfields, hphase, hcaptured] at hends
    rw [gathered, captures, heffect, (respond_ends heffect).2]
    exact hends

/-- **Every request leaves the fields tidy.** -/
theorem tidy_respond (hsound : Sound e)
    (h : Tidy e.table e.progress.phaseIndex e.progress.fields) (r : Request) :
    Tidy (e.respond r).2.table (e.respond r).2.progress.phaseIndex
      (e.respond r).2.progress.fields := by
  rw [(setting_respond e r).1]
  rcases respond_fields e r with ⟨hfields, hle⟩ | hfresh
  · rw [hfields]
    exact fun name value hget => (tidy_gathered hsound h r name value hget).mono hle
  · rw [hfresh]
    exact nofun

theorem tidy_served (hsound : Sound e)
    (h : Tidy e.table e.progress.phaseIndex e.progress.fields) (requests : List Request) :
    Tidy (e.served requests).table (e.served requests).progress.phaseIndex
      (e.served requests).progress.fields := by
  induction requests generalizing e with
  | nil => exact h
  | cons r requests ih => exact ih (sound_respond hsound r) (tidy_respond hsound h r)

/-! ## The rest of a section -/

theorem capturesIn_append (k : Nat) (e : Engine) (before after : List Request) :
    capturesIn k e (before ++ after)
      = capturesIn k e before ++ capturesIn k (e.served before) after := by
  induction before generalizing e with
  | nil => rfl
  | cons r before ih =>
    rw [List.cons_append, capturesIn, capturesIn, ih, List.append_assoc, served_cons]

theorem extracts_of_capturesIn {k : Nat}
    (h : lastCapture? name (capturesIn k e requests) = some value) :
    ∃ before r after groups, requests = before ++ r :: after ∧
      (e.served before).sections = k ∧ (e.served before).Extracts r groups ∧
      lastCapture? name groups = some value := by
  induction requests generalizing e with
  | nil => cases h
  | cons r requests ih =>
    rw [capturesIn, lastCapture?_append] at h
    cases hlater : lastCapture? name (capturesIn k (e.respond r).2 requests) with
    | some last =>
      rw [hlater] at h
      cases h
      obtain ⟨before, r', after, groups, rfl, hfound⟩ := ih hlater
      exact ⟨r :: before, r', after, groups, rfl, hfound⟩
    | none =>
      rw [hlater, Option.none_or] at h
      split at h
      · rename_i hk
        exact ⟨[], r, requests, e.captures r, rfl, hk, lastCapture?_captures h, h⟩
      · cases h

theorem evolved_captures (e : Engine) (requests : List Request) :
    Evolved e requests (mergeCaptures e.progress.fields (capturesIn e.sections e requests)) where
  stays := by
    intro name hname
    obtain ⟨value, hget⟩ := FieldMap.mem_keys_iff.mp hname
    rw [FieldMap.mem_keys_iff, get?_mergeCaptures, hget]
    cases lastCapture? name (capturesIn e.sections e requests) with
    | none => exact ⟨value, rfl⟩
    | some last => exact ⟨last, rfl⟩
  changes := by
    intro name hne
    rw [get?_mergeCaptures] at hne ⊢
    cases hlast : lastCapture? name (capturesIn e.sections e requests) with
    | none =>
      rw [hlast] at hne
      exact absurd rfl hne
    | some last =>
      obtain ⟨before, r, after, groups, hsplit, hsections, hx, hgroups⟩ :=
        extracts_of_capturesIn hlast
      exact ⟨before, r, after, groups, last, hsplit, hsections, hx, hgroups, rfl⟩

theorem gathered_served (h : (e.served requests).sections = e.sections) (r : Request) :
    (e.served requests).gathered r
      = mergeCaptures e.progress.fields (capturesIn e.sections e (requests ++ [r])) := by
  rw [gathered, fields_served h, ← mergeCaptures_append, capturesIn_append, capturesIn, if_pos h]
  simp only [capturesIn, List.append_nil]

theorem sections_respond (e : Engine) (r : Request) :
    (e.respond r).2.sections = e.sections ∨ (e.respond r).2.sections = e.sections + 1 := by
  cases respond_gathers e r with
  | kept hs _ => exact .inl hs
  | closed hs _ _ => exact .inr hs

theorem exists_closing (h : e.sections < (e.served requests).sections) :
    ∃ before r after, requests = before ++ r :: after ∧
      (e.served before).sections = e.sections ∧
      (e.served (before ++ [r])).sections = e.sections + 1 := by
  induction requests generalizing e with
  | nil => exact absurd h (Nat.lt_irrefl _)
  | cons r requests ih =>
    rcases sections_respond e r with hs | hs
    · rw [served_cons, ← hs] at h
      obtain ⟨before, r', after, rfl, hbefore, hafter⟩ := ih h
      exact ⟨r :: before, r', after, rfl, hbefore.trans hs, hafter.trans (congrArg (· + 1) hs)⟩
    · exact ⟨[], r, requests, rfl, rfl, hs⟩

theorem lt_sections_of_results (hbefore : ∀ a ∈ e.completed, a.index < e.sections) {a : Analysis}
    (ha : a ∈ e.results requests) (hindex : a.index = e.sections) :
    e.sections < (e.served requests).sections := by
  obtain ⟨new, hresults, hsections, -⟩ := results_eq e requests
  rw [hresults, List.mem_append] at ha
  rcases ha with ha | ha
  · have hlt := hbefore a ha
    omega
  · have hpos := List.length_pos_of_mem ha
    omega

/-- **An analysis of the section at hand** is given when the section ends, with its fields. -/
theorem fields_of_results (hbefore : ∀ a ∈ e.completed, a.index < e.sections) {a : Analysis}
    (ha : a ∈ e.results requests) (hindex : a.index = e.sections) :
    ∃ before r after, requests = before ++ r :: after ∧ (e.served before).sections = e.sections ∧
      (e.served (before ++ [r])).sections = e.sections + 1 ∧
      Evolved e requests ((e.served before).gathered r) ∧
      a.fields = ((e.served before).gathered r).escape := by
  obtain ⟨before, r, after, rfl, hsame, hnext⟩ :=
    exists_closing (lt_sections_of_results hbefore ha hindex)
  -- after the section has ended nothing is captured for it
  have hnone : capturesIn e.sections (e.served (before ++ [r])) after = [] :=
    capturesIn_of_lt (by omega) after
  have hcaptures : capturesIn e.sections e (before ++ r :: after)
      = capturesIn e.sections e (before ++ [r]) := by
    rw [List.append_cons, capturesIn_append, hnone, List.append_nil]
  have hgathered := gathered_served hsame r
  rw [← hcaptures] at hgathered
  refine ⟨before, r, after, rfl, hsame, hnext, ?_, ?_⟩
  · rw [hgathered]
    exact evolved_captures e _
  · rw [hgathered]
    exact fields_results hbefore a ha hindex

/-- **The fields of a section**, in every run: until it ends, in the analysis of the section as it
is, and in the one when it has ended. Where the next section begins the fields start anew. -/
theorem fields_of_section {d : TableDefinition} {builtin : Bool} {table : PhaseTable}
    (h : d.validate builtin = .ok table) (limits : EngineLimits) (banned : BannedPhrases)
    (resolver : Resolver) (requests : List Request) :
    let now := (fresh table limits banned resolver).served requests
    Tidy table now.progress.phaseIndex now.progress.fields ∧
    (∀ more, (now.served more).sections = now.sections →
      Evolved now more (now.served more).progress.fields) ∧
    FieldMap.Shows now.partialAnalysis.fields now.progress.fields ∧
    ∀ more, ∀ a ∈ now.results more, a.index = now.sections →
      ∃ before r after, more = before ++ r :: after ∧
        let last := now.served before
        last.sections = now.sections ∧ (last.respond r).2.sections = now.sections + 1 ∧
          ((last.respond r).2.progress.fields = last.gathered r ∨
            (last.respond r).2.progress = {}) ∧
          Tidy table last.progress.phaseIndex (last.gathered r) ∧
          Evolved now more (last.gathered r) ∧ FieldMap.Shows a.fields (last.gathered r) := by
  intro now
  have hfresh : Sound (fresh table limits banned resolver) :=
    sound_fresh (TableDefinition.usable_of_validate h) limits banned resolver
  have hsound : Sound now := sound_served hfresh requests
  have htable : now.table = table := (setting_served _ requests).1
  have htidy : Tidy now.table now.progress.phaseIndex now.progress.fields :=
    tidy_served hfresh nofun requests
  have hbefore : ∀ a ∈ now.completed, a.index < now.sections := index_lt_of_completed rfl
  refine ⟨htable ▸ htidy, fun more hs => ?_, FieldMap.shows_escape _, fun more a ha hindex => ?_⟩
  · rw [fields_served hs]
    exact evolved_captures now more
  · obtain ⟨before, r, after, hsplit, hsame, hnext, hevolved, hfields⟩ :=
      fields_of_results hbefore ha hindex
    have hlast := tidy_gathered (sound_served hsound before) (tidy_served hsound htidy before) r
    have hlastTable : (now.served before).table = table :=
      (setting_served now before).1.trans htable
    rw [hlastTable] at hlast
    rw [served_concat] at hnext
    have hleft := (respond_fields (now.served before) r).imp_left And.left
    refine ⟨before, r, after, hsplit, hsame, hnext, hleft, hlast, hevolved, ?_⟩
    rw [hfields]
    exact FieldMap.shows_escape _

/-- A second banner takes the place of the first one, and is in the analysis of the section. -/
theorem fields_of_drivers : ∃ table, TableDefinition.drivers.validate false = .ok table ∧
    let now := (fresh table { windowCapacity := 1 } {} .unknown).served
      [.feed "GL VERSION: 4", .feed "x"]
    let more := [.feed "GL VERSION: 5", .feed "y"]
    now.progress.fields.get? "gl" = some "4" ∧ GroupUpTo table 0 "gl" ∧
      (now.served more).progress.fields.get? "gl" = some "5" ∧
      (∃ before r after groups, more = before ++ r :: after ∧
        (now.served before).Extracts r groups ∧ lastCapture? "gl" groups = some "5") ∧
      (now.results (more ++ [.feed "end"])).map (·.index) = [0] ∧
      ∀ a ∈ now.results (more ++ [.feed "end"]), a.index = 0 → "gl" ∈ a.fields.keys := by
  have hrun : ∃ table, TableDefinition.drivers.validate false = .ok table ∧
      let now := (fresh table { windowCapacity := 1 } {} .unknown).served
        [.feed "GL VERSION: 4", .feed "x"]
      let more := [.feed "GL VERSION: 5", .feed "y"]
      now.progress.fields.get? "gl" = some "4" ∧ now.progress.phaseIndex = 0 ∧
        now.sections = 0 ∧ (now.served more).sections = 0 ∧
        (now.served more).progress.fields.get? "gl" = some "5" ∧
        (now.results (more ++ [.feed "end"])).map (·.index) = [0] := by
    decide +kernel
  obtain ⟨table, h, hfirst, hphase, hzero, hsame, hsecond, hindex⟩ := hrun
  obtain ⟨htidy, hevolved, -, hresults⟩ := fields_of_section h { windowCapacity := 1 } {} .unknown
    [.feed "GL VERSION: 4", .feed "x"]
  have hnamed := (htidy "gl" "4" hfirst).named
  rw [hphase] at hnamed
  have hchanged := (hevolved [.feed "GL VERSION: 5", .feed "y"] (hsame.trans hzero.symm)).changes
    "gl" (by rw [hfirst, hsecond]; decide)
  rw [hsecond] at hchanged
  obtain ⟨before, r, after, groups, value, hsplit, -, hx, hlast, hvalue⟩ := hchanged
  cases hvalue
  refine ⟨table, h, hfirst, hnamed, hsecond, ⟨before, r, after, groups, hsplit, hx, hlast⟩, hindex,
    fun a ha hzeroth => ?_⟩
  obtain ⟨_, _, _, -, -, -, -, -, hlater, hshows⟩ := hresults _ a ha (hzeroth.trans hzero.symm)
  rw [hshows.keys_eq]
  exact hlater.stays "gl" (FieldMap.mem_keys_iff.mpr ⟨"4", hfirst⟩)

end Engine

end LogTriage
