import LogTriage.Proofs.Engine.Deliveries
import LogTriage.Proofs.Engine.Scan

/-!
# The fields of a section

The pattern of a phase is matched against the window when the phase ends, and before that when the
window is full and the probe of the phase recognizes the line that has to leave it.  What the groups
of a match hold becomes fields of the section; nothing else changes them, and the analysis of the
section has them all.

* `get?_mergeCaptures`  the last capture of a name that is not blank counts;
* `bufferLine_extracted`, `finalize_extracted`  the two places where a pattern is matched;
* `respond_gathers`     what a request does to the fields of the section;
* `fields_served`, `fields_results`  so the fields are what was captured in the section.
-/

namespace LogTriage.Engine

/-! ## Captures -/

/-- What the last group with the name holds, blank ones aside. -/
def lastCapture? (name : String) (captures : List (String × String)) : Option String :=
  captures.reverse.findSome? fun (group, value) =>
    if group = name ∧ Text.trimmed value ≠ "" then some (Text.trimmed value) else none

section captures
variable (name : String) (fields : FieldMap) (captures more : List (String × String))

theorem lastCapture?_append : lastCapture? name (captures ++ more)
    = (lastCapture? name more).or (lastCapture? name captures) := by
  rw [lastCapture?, List.reverse_append, List.findSome?_append]
  rfl

theorem lastCapture?_singleton (group value : String) : lastCapture? name [(group, value)] =
    if group = name ∧ Text.trimmed value ≠ "" then some (Text.trimmed value) else none := by
  simp [lastCapture?]

theorem mergeCaptures_append : mergeCaptures fields (captures ++ more)
    = mergeCaptures (mergeCaptures fields captures) more := List.foldl_append

theorem mergeCaptures_singleton (group value : String) : mergeCaptures fields [(group, value)] =
    if (Text.trimmed value).isEmpty then fields else fields.insert group (Text.trimmed value) := by
  simp only [mergeCaptures, List.foldl_cons, List.foldl_nil]

theorem get?_mergeCaptures_singleton (group value : String) :
    (mergeCaptures fields [(group, value)]).get? name
      = (lastCapture? name [(group, value)]).or (fields.get? name) := by
  rw [mergeCaptures_singleton, lastCapture?_singleton]
  by_cases hv : Text.trimmed value = ""
  · simp [hv]
  · have hempty : (Text.trimmed value).isEmpty = false := by simpa using hv
    rw [hempty, if_neg Bool.false_ne_true, FieldMap.get?_insert]
    by_cases hn : group = name
    · simp [hn, hv]
    · have hn' : ¬ name = group := fun h => hn h.symm
      simp [hn, hn']

/-- **The last capture of a name counts**, unless there is none but blank ones. -/
theorem get?_mergeCaptures : (mergeCaptures fields captures).get? name
    = (lastCapture? name captures).or (fields.get? name) := by
  induction captures generalizing fields with
  | nil => rfl
  | cons capture captures ih =>
    rw [← List.singleton_append, mergeCaptures_append, ih, lastCapture?_append, Option.or_assoc,
      get?_mergeCaptures_singleton]

end captures

/-! ## What a request does to the phase -/

inductive Effect where
  /-- Nothing. -/
  | rests
  /-- A line comes into the window. -/
  | buffers (line : String)
  /-- The phase ends, by a trigger or by the end of the log. -/
  | ends (trigger : Option String)
deriving DecidableEq

/-- A line for which there is room ends the phase if it has a trigger.  The end of the log ends the
last phase, but not before the first line of a section that follows another one. -/
def effect (e : Engine) (r : Request) : Effect :=
  match e.halted, r.call? with
  | none, some (.feed line raw) =>
    if e.limits.maxLogBytes < (e.count raw).consumed then .rests
    else
      match e.phase.matchedTrigger line with
      | some trigger => .ends (some trigger)
      | none => .buffers line
  | none, some .finish =>
    if e.table.isLast e.progress.phaseIndex && !(decide (0 < e.sections) && e.progress.lines == 0)
    then .ends none
    else .rests
  | _, _ => .rests

def tallied (e : Engine) (r : Request) : Engine :=
  match r.call? with
  | some (.feed _ raw) => e.count raw
  | _ => e

def uncounted (e : Engine) : Engine :=
  { e with consumed := 0, progress := { e.progress with consumed := 0, lines := 0 } }

/-- What a request that leaves the phase as it is does: at most a line is counted, or the engine
halts, and no pattern fails. -/
structure Rests (e : Engine) (r : Request) : Prop where
  sections_eq : (e.respond r).2.sections = e.sections
  progress_eq : (e.respond r).2.uncounted.progress = e.uncounted.progress
  answer : e.halted = none →
    ∀ failure, (e.respond r).1 = some (.fail failure) → failure.reason = .truncated

variable {e e' : Engine} {r : Request} {line : String} {trigger : Option String}

theorem tallied_uncounted (e : Engine) (r : Request) : (e.tallied r).uncounted = e.uncounted := by
  unfold tallied
  split <;> rfl

theorem respond_ends (h : e.effect r = .ends trigger) : e.halted = none ∧
    e.respond r = Prod.map some id ((e.tallied r).finalize trigger) := by
  unfold effect at h
  split at h
  · rename_i new raw hh hc
    split at h
    · cases h
    · rename_i ho
      split at h
      · rename_i t ht
        cases h
        refine ⟨hh, ?_⟩
        rw [respond_call e hc, answer?, perform, feedCounted_trigger hh ho ht, tallied, hc]
        rfl
      · cases h
  · rename_i hh hc
    split at h
    · rename_i hlast
      cases h
      refine ⟨hh, ?_⟩
      have hfinish : e.finish = e.finalize none := by
        rw [finish, hh]
        exact if_pos hlast
      rw [respond_call e hc, answer?, perform, hfinish, tallied, hc]
      rfl
    · cases h
  · cases h

theorem respond_buffers (h : e.effect r = .buffers line) : e.halted = none ∧
    e.respond r = Prod.map some id ((e.tallied r).bufferLine line) := by
  unfold effect at h
  split at h
  · rename_i new raw hh hc
    split at h
    · cases h
    · rename_i ho
      split at h
      · cases h
      · rename_i ht
        cases h
        refine ⟨hh, ?_⟩
        rw [respond_call e hc, answer?, perform, feedCounted_line hh ho ht, tallied, hc]
        rfl
  · split at h <;> cases h
  · cases h

theorem Rests.of_eq {out : Option Status × Engine} (he : e.respond r = out)
    (hs : out.2.sections = e.sections) (hp : out.2.uncounted.progress = e.uncounted.progress)
    (ha : ∀ failure, out.1 = some (.fail failure) → failure.reason = .truncated) : Rests e r := by
  rw [← he] at hs hp ha
  exact ⟨hs, hp, fun _ => ha⟩

theorem respond_rests (h : e.effect r = .rests) : Rests e r := by
  cases hh : e.halted with
  | some status =>
    obtain ⟨hf, -⟩ := respond_halted hh r
    refine ⟨(congrArg sections hf :), (congrArg (·.uncounted.progress) hf :), ?_⟩
    intro hn
    rw [hh] at hn
    cases hn
  | none =>
    cases hc : r.call? with
    | none =>
      obtain ⟨banned, hb⟩ := respond_aside e hc
      exact .of_eq hb rfl rfl (by intro _ hf; cases hf)
    | some call =>
      have hr := respond_call e hc
      rw [effect, hh, hc] at h
      cases call with
      | take => exact .of_eq hr rfl rfl (by intro _ hf; cases hf)
      | feed line raw =>
        dsimp only at h
        split at h
        · rename_i ho
          rw [answer?, perform, feedCounted_over hh ho] at hr
          exact .of_eq hr rfl rfl (by intro _ hf; cases hf)
        · split at h <;> cases h
      | finish =>
        dsimp only at h
        split at h
        · cases h
        · rename_i hlast
          rw [answer?, perform, finish, hh] at hr
          dsimp only at hr
          rw [if_neg hlast] at hr
          split at hr
          · exact .of_eq hr rfl rfl (by intro _ hf; cases hf)
          · exact .of_eq hr rfl rfl (by intro _ hf; cases hf; rfl)

/-! ## Where the pattern is matched -/

/-- What the pattern of the active phase captures in the window; nothing if it does not match. -/
def captured? (e : Engine) : Option (List (String × String)) :=
  e.phase.pattern.bind (·.captures? e.windowText)

def Unmatched (e : Engine) : Prop :=
  ∃ pattern, e.phase.pattern = some pattern ∧ pattern.captures? e.windowText = none

/-- The window is full, and the probe of the phase recognizes the line that has to leave it. -/
def probes (e : Engine) : Bool :=
  decide (e.windowCapacity ≤ e.progress.window.size) &&
    e.phase.flushProbe.any fun probe => e.progress.window.lines.head?.any probe.recognizes

def early? (e : Engine) : Option (List (String × String)) := if e.probes then e.captured? else none

def extracted (e : Engine) : FieldMap × Bool := (e.progress.fields, e.progress.extractedEarly)

theorem inspect_extracted (line : String) (handlers : List Handler) (e : Engine) :
    (inspect line handlers e).2.extracted = e.extracted :=
  (congrArg extracted (inspect_unhandled line handlers e) :)

theorem runHandlers_extracted (text : String) (handlers : List Handler) (e : Engine) :
    (runHandlers text handlers e).2.extracted = e.extracted :=
  (congrArg extracted (runHandlers_unhandled text handlers e) :)

theorem extractEarly_extracted (e : Engine) : e.extractEarly.extracted =
    e.captured?.elim e.extracted fun groups => (mergeCaptures e.progress.fields groups, true) := by
  rw [extractEarly_eq, captured?]
  cases e.phase.pattern.bind (·.captures? e.windowText) <;> rfl

theorem bufferLine_extracted (e : Engine) (line : String) : (e.bufferLine line).2.extracted =
    e.early?.elim e.extracted fun groups => (mergeCaptures e.progress.fields groups, true) := by
  have hevict :
      (if e.windowCapacity ≤ e.progress.window.size then e.evict else (none, e)).2.extracted
      = if e.probes then e.extractEarly.extracted else e.extracted := by
    unfold probes
    by_cases hc : e.windowCapacity ≤ e.progress.window.size
    · rw [if_pos hc]
      cases hw : e.progress.window.pop? with
      | none =>
        rw [evict, hw, Window.lines_of_pop_none hw]
        cases e.phase.flushProbe <;> simp
      | some popped =>
        obtain ⟨oldest, rest⟩ := popped
        rw [evict_eq hw, inspect_extracted, Window.lines_pop hw]
        show (e.probed oldest).extracted = _
        rw [probed]
        cases e.phase.flushProbe with
        | none => simp
        | some probe =>
          cases hp : probe.recognizes oldest with
          | true => simp [hc, hp]
          | false => simp [hp]
    · simp [hc]
  have hbuffered : (e.bufferLine line).2.extracted
      = if e.probes then e.extractEarly.extracted else e.extracted := by
    rw [← hevict]
    unfold bufferLine
    dsimp only
    generalize (if e.windowCapacity ≤ e.progress.window.size then e.evict else (none, e)) = evicted
    obtain ⟨found, e₁⟩ := evicted
    cases found <;> rfl
  rw [hbuffered, extractEarly_extracted, early?]
  cases e.probes <;> rfl

theorem extract?_eq_none_iff (e : Engine) : e.extract? e.windowText = none ↔
    e.Unmatched ∧ e.progress.extractedEarly = false := by
  rw [extract?_eq, Unmatched]
  cases e.phase.pattern <;> simp

theorem extract?_fields (h : e.extract? e.windowText = some e') :
    e'.progress.fields = mergeCaptures e.progress.fields (e.captured?.getD []) := by
  rw [eq_of_extract? h]
  rfl

theorem finalize_extracted (e : Engine) (trigger : Option String) :
    e.extract? e.windowText = none ∧
      e.finalize trigger = e.halt (.fail (e.failure trigger .patternMismatch)) ∨
    e.extract? e.windowText ≠ none ∧ ∃ e₁ : Engine, e₁.bare = e.bare ∧
      e₁.progress.fields = mergeCaptures e.progress.fields (e.captured?.getD []) ∧
      ((∃ hit, e.finalize trigger = e₁.rejectPiracy hit) ∨
        e.finalize trigger = e₁.complete trigger) := by
  unfold finalize
  dsimp only
  cases hx : e.extract? e.windowText with
  | none => exact .inl ⟨rfl, rfl⟩
  | some e₁ =>
    have hb := (runHandlers_bare e.windowText e₁.phase.handlers e₁).trans (extract?_bare hx)
    have hf : (runHandlers e.windowText e₁.phase.handlers e₁).2.progress.fields
        = mergeCaptures e.progress.fields (e.captured?.getD []) :=
      (congrArg Prod.fst (runHandlers_extracted _ _ e₁) :).trans (extract?_fields hx)
    refine .inr ⟨nofun, _, hb, hf, ?_⟩
    dsimp only
    generalize runHandlers e.windowText e₁.phase.handlers e₁ = out
    obtain ⟨found, e₂⟩ := out
    cases found with
    | some hit => exact .inl ⟨hit, rfl⟩
    | none => exact .inr rfl

/-! ## One request -/

def captures (e : Engine) (r : Request) : List (String × String) :=
  match e.effect r with
  | .rests => []
  | .buffers _ => e.early?.getD []
  | .ends _ => e.captured?.getD []

/-- What a request does to the fields of the section: they are `fields` after it, and if it
completes the section they are those of the analysis. -/
inductive Gathers (e : Engine) (fields : FieldMap) (e' : Engine) : Prop where
  | kept (sections_eq : e'.sections = e.sections) (fields_eq : e'.progress.fields = fields)
  | closed {a : Analysis} (sections_eq : e'.sections = e.sections + 1)
      (completed_eq : e'.completed = e.completed ++ [a]) (fields_eq : a.fields = fields.escape)

theorem complete_gathers (e : Engine) (trigger : Option String) :
    Gathers e e.progress.fields (e.complete trigger).2 := by
  rcases complete_cases e trigger with he | he | he
  · rw [he]
    exact .kept rfl rfl
  · rw [he]
    exact .closed rfl rfl rfl
  · rw [he]
    exact .closed rfl rfl rfl

theorem finalize_gathers (e : Engine) (trigger : Option String) :
    Gathers e (mergeCaptures e.progress.fields (e.captured?.getD [])) (e.finalize trigger).2 := by
  rcases finalize_extracted e trigger with ⟨hx, he⟩ | ⟨-, e₁, hb, hf, ⟨hit, he⟩ | he⟩
  · obtain ⟨⟨pattern, hp, hc⟩, -⟩ := (extract?_eq_none_iff e).mp hx
    rw [he, captured?, hp, Option.bind_some, hc]
    exact .kept rfl rfl
  · have hsections : e₁.sections = e.sections := sections_of_bare hb
    rw [he]
    exact .kept hsections hf
  · have hsections : e₁.sections = e.sections := sections_of_bare hb
    have hcompleted : e₁.completed = e.completed := (congrArg completed hb :)
    rw [he, ← hf]
    cases complete_gathers e₁ trigger with
    | kept hs hfields => exact .kept (hs.trans hsections) hfields
    | closed hs hc ha =>
      rw [hsections] at hs
      rw [hcompleted] at hc
      exact .closed hs hc ha

theorem bufferLine_gathers (e : Engine) (line : String) :
    Gathers e (mergeCaptures e.progress.fields (e.early?.getD [])) (e.bufferLine line).2 := by
  have hfields := congrArg Prod.fst (bufferLine_extracted e line)
  refine .kept (bufferLine_adds e line).sections_eq (hfields.trans ?_)
  cases e.early? <;> rfl

/-- **What a request does to the fields of the section.** -/
theorem respond_gathers (e : Engine) (r : Request) :
    Gathers e (mergeCaptures e.progress.fields (e.captures r)) (e.respond r).2 := by
  have htallied := tallied_uncounted e r
  have hsections : (e.tallied r).sections = e.sections := (congrArg sections htallied :)
  have hcompleted : (e.tallied r).completed = e.completed := (congrArg completed htallied :)
  have hfields : (e.tallied r).progress.fields = e.progress.fields :=
    (congrArg (·.progress.fields) htallied :)
  have hcaptured : (e.tallied r).captured? = e.captured? := (congrArg captured? htallied :)
  have hearly : (e.tallied r).early? = e.early? := (congrArg early? htallied :)
  have htally {fields : FieldMap} {e' : Engine} (h : Gathers (e.tallied r) fields e') :
      Gathers e fields e' := by
    cases h with
    | kept hs hf => exact .kept (hs.trans hsections) hf
    | closed hs hc ha => exact .closed (hsections ▸ hs) (hcompleted ▸ hc) ha
  unfold captures
  cases heffect : e.effect r with
  | rests =>
    have hrests := respond_rests heffect
    exact .kept hrests.sections_eq (congrArg Progress.fields hrests.progress_eq :)
  | buffers line =>
    have hgathers := bufferLine_gathers (e.tallied r) line
    rw [hfields, hearly] at hgathers
    rw [(respond_buffers heffect).2]
    exact htally hgathers
  | ends trigger =>
    have hgathers := finalize_gathers (e.tallied r) trigger
    rw [hfields, hcaptured] at hgathers
    rw [(respond_ends heffect).2]
    exact htally hgathers

/-! ## Runs -/

def capturesIn (k : Nat) (e : Engine) : List Request → List (String × String)
  | [] => []
  | r :: requests =>
    (if e.sections = k then e.captures r else []) ++ capturesIn k (e.respond r).2 requests

variable {k : Nat} {requests : List Request}

theorem capturesIn_of_lt (hk : k < e.sections) (requests : List Request) :
    capturesIn k e requests = [] := by
  induction requests generalizing e with
  | nil => rfl
  | cons r requests ih =>
    have hle := sections_le_respond e r
    rw [capturesIn, if_neg (by omega), ih (by omega)]
    rfl

theorem capturesIn_cons (e : Engine) (r : Request) (requests : List Request) :
    capturesIn e.sections e (r :: requests)
      = e.captures r ++ capturesIn e.sections (e.respond r).2 requests := by
  rw [capturesIn, if_pos rfl]

/-- **The fields of the section at hand** are what was captured for it. -/
theorem fields_served (h : (e.served requests).sections = e.sections) :
    (e.served requests).progress.fields
      = mergeCaptures e.progress.fields (capturesIn e.sections e requests) := by
  induction requests generalizing e with
  | nil => rfl
  | cons r requests ih =>
    rw [served_cons] at h ⊢
    have hle := sections_le_served (e.respond r).2 requests
    cases respond_gathers e r with
    | closed hs hc ha => omega
    | kept hs hf =>
      rw [← hs] at h
      rw [ih h, hf, hs, capturesIn_cons, mergeCaptures_append]

/-- **The fields of a section that is completed** are what was captured for it. -/
theorem fields_results (hbefore : ∀ a ∈ e.completed, a.index < e.sections) :
    ∀ a ∈ e.results requests, a.index = e.sections →
      a.fields = (mergeCaptures e.progress.fields (capturesIn e.sections e requests)).escape := by
  induction requests generalizing e with
  | nil =>
    intro a ha hindex
    have hlt := hbefore a ha
    omega
  | cons r requests ih =>
    intro a ha hindex
    obtain ⟨new, hgiven, hcount, -⟩ := results_eq e [r]
    have hgiven : (r.call?.map e.taken).getD [] ++ (e.respond r).2.completed = e.completed ++ new :=
      hgiven
    have hcount : (e.respond r).2.sections = e.sections + new.length := hcount
    rw [results] at ha
    rw [capturesIn_cons, mergeCaptures_append]
    cases respond_gathers e r with
    | kept hs hf =>
      have hnew : new = [] := List.eq_nil_of_length_eq_zero (by omega)
      rw [hnew, List.append_nil] at hgiven
      have hstill : ∀ a ∈ (e.respond r).2.completed, a.index < (e.respond r).2.sections := by
        intro a ha
        rw [hs]
        exact hbefore a (hgiven ▸ List.mem_append_right _ ha)
      rcases List.mem_append.mp ha with ha | ha
      · have hlt := hbefore a (hgiven ▸ List.mem_append_left _ ha)
        omega
      · rw [← hf, ← hs]
        exact ih hstill a ha (hindex.trans hs.symm)
    | @closed x hs hc hx =>
      obtain ⟨more, hresults, -, hmore⟩ := results_eq (e.respond r).2 requests
      have hnone : (r.call?.map e.taken).getD [] = [] := by
        have hlength := congrArg List.length hgiven
        rw [hc] at hlength
        simp only [List.length_append, List.length_singleton] at hlength
        exact List.eq_nil_of_length_eq_zero (by omega)
      rw [hnone, List.nil_append, hresults, hc, List.append_assoc, List.singleton_append] at ha
      rw [capturesIn_of_lt (by omega)]
      rcases List.mem_append.mp ha with ha | ha
      · have hlt := hbefore a ha
        omega
      rcases List.mem_cons.mp ha with rfl | ha
      · exact hx
      · have hmem := List.mem_map_of_mem (f := Analysis.index) ha
        rw [hmore, List.mem_range'_1] at hmem
        omega

theorem index_lt_of_completed (h : e.completed = []) :
    ∀ a ∈ (e.served requests).completed, a.index < (e.served requests).sections := by
  intro a ha
  obtain ⟨new, hresults, hsections, hindex⟩ := results_eq e requests
  rw [results_eq_received, h, List.nil_append] at hresults
  have hmem : a ∈ new := by
    rw [← hresults]
    exact List.mem_append_right _ ha
  have hrange := List.mem_map_of_mem (f := Analysis.index) hmem
  rw [hindex, List.mem_range'_1] at hrange
  omega

end LogTriage.Engine
