import LogTriage.Proofs.Engine.Observed
import LogTriage.Proofs.Engine.Statuses

/-!
# The product of a section

Which line belongs to which section and phase is told by the lines alone: only triggers and the end
of the log move on.  The product lines of a section are those that were fed, without a trigger,
while a phase was active that looks for the product.  They tell the product of the section and what
the resolver is asked, whatever the window holds of them at a time.

* `respond_turn`        what a request does to the section at hand;
* `exists_resolves`     the run: the products of the sections that it completes;
* `products_resolved`   from a fresh engine on, whatever the capacity of the window.
-/

namespace LogTriage

/-- How far a log has come. -/
structure Place where
  sectionIndex : Nat := 0
  phaseIndex : Nat := 0
deriving DecidableEq

namespace Place
open Engine

def moved (table : PhaseTable) (p : Place) : Place :=
  if table.isLast p.phaseIndex then { sectionIndex := p.sectionIndex + 1 }
  else { p with phaseIndex := p.phaseIndex + 1 }

def next (table : PhaseTable) (p : Place) (r : Request) : Place :=
  match r.line? with
  | some line => if ((table.phaseAt p.phaseIndex).matchedTrigger line).isSome then p.moved table else p
  | none => if r = .call .finish then { sectionIndex := p.sectionIndex + 1 } else p

/-- The line that a request feeds to a phase that looks for the product, if it has no trigger. -/
def productLine? (table : PhaseTable) (p : Place) (r : Request) : Option String :=
  r.line?.filter fun line => ((table.phaseAt p.phaseIndex).matchedTrigger line).isNone &&
    (.resolveProduct ∈ (table.phaseAt p.phaseIndex).handlers : Bool)

end Place

namespace Engine

def productLines (table : PhaseTable) (k : Nat) : Place → List Request → List String
  | _, [] => []
  | p, r :: requests =>
    (if p.sectionIndex = k then (p.productLine? table r).toList else [])
      ++ productLines table k (p.next table r) requests

def asksIn (k : Nat) (e : Engine) : List Request → List String
  | [] => []
  | r :: requests =>
    (if e.sections = k then (e.respond r).2.asked.drop e.asked.length else [])
      ++ asksIn k (e.respond r).2 requests

variable {e e' : Engine} {p : Place} {base lines : List String} {k : Nat}

theorem sectionIndex_le_next (table : PhaseTable) (p : Place) (r : Request) :
    p.sectionIndex ≤ (p.next table r).sectionIndex := by
  unfold Place.next Place.moved
  split
  · split
    · split
      · exact Nat.le_succ _
      · exact Nat.le_refl _
    · exact Nat.le_refl _
  · split
    · exact Nat.le_succ _
    · exact Nat.le_refl _

theorem productLines_of_lt {table : PhaseTable} (hk : k < p.sectionIndex)
    (requests : List Request) : productLines table k p requests = [] := by
  induction requests generalizing p with
  | nil => rfl
  | cons r requests ih =>
    have hle := sectionIndex_le_next table p r
    rw [productLines, if_neg (by omega), ih (by omega)]
    rfl

theorem asksIn_of_lt (hk : k < e.sections) (requests : List Request) :
    e.asksIn k requests = [] := by
  induction requests generalizing e with
  | nil => rfl
  | cons r requests ih =>
    have hle := sections_le_respond e r
    rw [asksIn, if_neg (by omega), ih (by omega)]
    rfl

/-! ## An engine that has halted -/

theorem asksIn_halted {status : Status} (hh : e.halted = some status) (requests : List Request) :
    e.asksIn k requests = [] := by
  induction requests generalizing e with
  | nil => rfl
  | cons r requests ih =>
    obtain ⟨hf, -⟩ := respond_halted hh r
    have hasked : (e.respond r).2.asked = e.asked := (congrArg asked hf :)
    rw [asksIn, ih (hf.halted_eq.trans hh), hasked, List.drop_length, ite_self]
    rfl

theorem results_halted {status : Status} (hh : e.halted = some status) (requests : List Request) :
    e.results requests = e.completed ∧ (e.served requests).sections = e.sections := by
  obtain ⟨new, hr, hs, -⟩ := results_eq e requests
  obtain ⟨hf, -⟩ := served_halted hh requests
  have hsections : (e.served requests).sections = e.sections := (congrArg sections hf :)
  have hnew : new = [] := List.eq_nil_of_length_eq_zero (by omega)
  rw [hr, hnew, List.append_nil]
  exact ⟨rfl, hsections⟩

/-! ## One request -/

/-- The engine stands at a place, and has seen the product lines but those that wait. -/
structure Tracks (base : List String) (e : Engine) (p : Place) (lines : List String) : Prop where
  halted_eq : e.halted = none
  placed : Placed e
  sectionIndex_eq : p.sectionIndex = e.sections
  phaseIndex_eq : p.phaseIndex = e.progress.phaseIndex
  seen : ∃ seen, Seen base e seen ∧ seen ++ e.waiting = lines

/-- What a request does to the section at hand, and the analyses that it completes; `lines` are the
product lines after it, `p'` is the place. -/
inductive Turn (base : List String) (e : Engine) (lines : List String) (p' : Place) (e' : Engine) :
    List Analysis → Prop where
  /-- The section goes on. -/
  | kept (tracks : Tracks base e' p' lines) (sections_eq : e'.sections = e.sections)
      (asks : e.progress.serial.toList ++ e'.asked.drop e.asked.length
        = e'.progress.serial.toList) : Turn base e lines p' e' []
  /-- The section is complete. -/
  | closed (done : Engine) (seen : Seen base done lines) (table_eq : done.table = e.table)
      (resolver_eq : done.resolver = e.resolver) (sections_eq : e'.sections = e.sections + 1)
      (place_eq : p'.sectionIndex = e.sections + 1)
      (asks : e.progress.serial.toList ++ e'.asked.drop e.asked.length
        = done.progress.serial.toList)
      (anew : e'.halted = none → Tracks e'.asked e' p' [] ∧ e'.progress.serial = none) :
      Turn base e lines p' e' [done.analysis true]
  /-- The engine halts. -/
  | halted {status : Status} (halted_eq : e'.halted = some status)
      (sections_eq : e'.sections = e.sections)
      (asks : (e.progress.serial.toList ++ e'.asked.drop e.asked.length).length ≤ 1) :
      Turn base e lines p' e' []

theorem Tracks.same (h : Tracks base e p lines) (hf : e'.found = e.found)
    (hp : e'.progress.phaseIndex = e.progress.phaseIndex)
    (hw : e'.progress.window = e.progress.window) (hs : e'.sections = e.sections)
    (hh : e'.halted = e.halted) : Tracks base e' p lines where
  halted_eq := hh.trans h.halted_eq
  placed := h.placed.of_eq (congrArg table hf :) hp
  sectionIndex_eq := by rw [h.sectionIndex_eq, hs]
  phaseIndex_eq := by rw [h.phaseIndex_eq, hp]
  seen := by
    obtain ⟨seen, hseen, heq⟩ := h.seen
    have ht : e'.table = e.table := (congrArg table hf :)
    refine ⟨seen, hseen.of_found hf, ?_⟩
    rw [← heq, waiting, waiting, phase, phase, ht, hp, hw]

theorem Tracks.phaseAt_eq (h : Tracks base e p lines) : e.table.phaseAt p.phaseIndex = e.phase := by
  rw [h.phaseIndex_eq, phase]

theorem complete_turn (h : Tracks base e p lines) {done : Engine} (hb : done.bare = e.bare)
    (hseen : Seen base done lines) (trigger : Option String) : ∃ new,
    Turn base e lines (p.moved e.table) (done.complete trigger).2 new ∧
      (done.complete trigger).2.completed = e.completed ++ new := by
  have ht := table_of_bare hb
  have hp := phaseIndex_of_bare hb
  have hs := sections_of_bare hb
  have hc : done.completed = e.completed := (congrArg completed hb :)
  have hr : done.resolver = e.resolver := (congrArg resolver hb :)
  have hh : done.halted = none := (halted_of_bare hb).trans h.halted_eq
  have hplaced : Placed done := h.placed.of_eq ht hp
  obtain ⟨seen, hbefore, hmore⟩ := h.seen
  have hasks : e.progress.serial.toList ++ done.asked.drop e.asked.length
      = done.progress.serial.toList := by
    subst hmore
    exact hbefore.asks hseen ht
  have hplace : p.phaseIndex = done.progress.phaseIndex := h.phaseIndex_eq.trans hp.symm
  have hindex : p.sectionIndex + 1 = e.sections + 1 := congrArg (· + 1) h.sectionIndex_eq
  rcases complete_usable hplaced trigger with ⟨last, he⟩ | ⟨last, -, -, he⟩ | ⟨last, he⟩
  · rw [he]
    have hlast : p.moved e.table = { p with phaseIndex := p.phaseIndex + 1 } := by
      rw [Place.moved, hplace, ← ht, last]
      rfl
    have hlt : done.progress.phaseIndex + 1 < done.table.phases.length :=
      Nat.lt_of_le_of_ne hplaced.phaseIndex_lt (PhaseTable.isLast_eq_false_iff.mp last)
    have hempty : done.nextPhase.waiting = [] := by
      rw [waiting]
      split <;> rfl
    rw [hlast]
    refine ⟨[], .kept ⟨hh, ⟨hplaced.usable, hlt⟩, h.sectionIndex_eq.trans hs.symm,
      congrArg (· + 1) hplace, lines, hseen.of_found rfl, ?_⟩ hs hasks,
      hc.trans (List.append_nil _).symm⟩
    rw [hempty, List.append_nil]
  · rw [he]
    have hlast : p.moved e.table = { sectionIndex := p.sectionIndex + 1 } := by
      rw [Place.moved, hplace, ← ht, last]
      rfl
    have hempty : done.nextSection.waiting = [] := by
      rw [waiting]
      split <;> rfl
    have hpos : 0 < done.table.phases.length :=
      List.length_pos_iff.mpr hplaced.usable.phases_ne_nil
    have hsections : p.sectionIndex = done.sections := h.sectionIndex_eq.trans hs.symm
    rw [hlast]
    exact ⟨_, .closed done hseen ht hr (congrArg (· + 1) hs) hindex hasks fun _ =>
      ⟨⟨hh, ⟨hplaced.usable, hpos⟩, congrArg (· + 1) hsections, rfl, [], seen_nil rfl rfl rfl,
        hempty⟩, rfl⟩, congrArg (· ++ [done.analysis true]) hc⟩
  · have hlast : p.moved e.table = { sectionIndex := p.sectionIndex + 1 } := by
      rw [Place.moved, hplace, ← ht, last]
      rfl
    rw [he, hlast]
    exact ⟨_, .closed done hseen ht hr (congrArg (· + 1) hs) hindex hasks (fun hn => by cases hn),
      congrArg (· ++ [done.analysis true]) hc⟩

theorem halted_turn {seen more : List String} {p' : Place} (hbefore : Seen base e seen)
    (hafter : Seen base e' (seen ++ more)) (ht : e'.table = e.table) (hh : e'.halted ≠ none)
    (hs : e'.sections = e.sections) : Turn base e lines p' e' [] := by
  obtain ⟨status, hstatus⟩ := Option.ne_none_iff_exists'.mp hh
  refine .halted hstatus hs ?_
  rw [hbefore.asks hafter ht]
  exact Option.length_toList_le

theorem finalize_turn (h : Tracks base e p lines) (trigger : Option String) : ∃ new,
    Turn base e lines (p.moved e.table) (e.finalize trigger).2 new ∧
      (e.finalize trigger).2.completed = e.completed ++ new := by
  obtain ⟨seen, hbefore, hmore⟩ := h.seen
  rcases finalize_seen hbefore trigger with ⟨more, hafter, hh, hs, hc⟩ | ⟨done, hb, hdone, he⟩
  · obtain ⟨_, hadds⟩ := finalize_adds e trigger
    have ht : (e.finalize trigger).2.table = e.table := (congrArg table hadds.ledger_eq :)
    exact ⟨[], halted_turn hbefore hafter ht hh hs, by rw [hc, List.append_nil]⟩
  · rw [he]
    exact complete_turn h hb (hmore ▸ hdone) trigger

theorem bufferLine_turn (h : Tracks base e p lines) (line : String) :
    Turn base e (lines ++ if .resolveProduct ∈ e.phase.handlers then [line] else []) p
        (e.bufferLine line).2 [] ∧
      (e.bufferLine line).2.completed = e.completed := by
  have hadds := bufferLine_adds e line
  have ht : (e.bufferLine line).2.table = e.table := (congrArg table hadds.ledger_eq :)
  have hs : (e.bufferLine line).2.sections = e.sections := hadds.sections_eq
  refine ⟨?_, hadds.completed_eq.trans (List.append_nil _)⟩
  obtain ⟨seen, hbefore, hmore⟩ := h.seen
  obtain ⟨⟨more, hafter⟩, hgo⟩ := bufferLine_seen hbefore line
  cases hh : (e.bufferLine line).2.halted with
  | some status => exact halted_turn hbefore hafter ht (by rw [hh]; nofun) hs
  | none =>
    obtain ⟨gone, hgone, hwaiting⟩ := hgo hh
    have hp : (e.bufferLine line).2.progress.phaseIndex = e.progress.phaseIndex := by
      rcases bufferLine_cases e line with ⟨hit, e₁, w, hb, he⟩ | ⟨e₁, _, w, hb, -, -, he⟩
      · rw [he] at hh
        cases hh
      · rw [he]
        exact (phaseIndex_of_bare hb :)
    refine .kept ⟨hh, h.placed.of_eq ht hp, h.sectionIndex_eq.trans hs.symm,
      h.phaseIndex_eq.trans hp.symm, seen ++ gone, hgone, ?_⟩ hs (hbefore.asks hgone ht)
    rw [List.append_assoc, hwaiting, ← List.append_assoc, hmore]

theorem Turn.of_count {raw : Nat} {p' : Place} {new : List Analysis}
    (h : Turn base (e.count raw) lines p' e' new) : Turn base e lines p' e' new := by
  cases h with
  | kept tracks sections_eq asks => exact .kept tracks sections_eq asks
  | closed done seen ht hr sections_eq place_eq asks anew =>
    exact .closed done seen ht hr sections_eq place_eq asks anew
  | halted halted_eq sections_eq asks => exact .halted halted_eq sections_eq asks

theorem feedCounted_turn (h : Tracks base e p lines) (line : String) (raw : Nat) {r : Request}
    (hr : r.line? = some line) : ∃ new,
    Turn base e (lines ++ (p.productLine? e.table r).toList) (p.next e.table r)
        (e.feedCounted line raw).2 new ∧
      (e.feedCounted line raw).2.completed = e.completed ++ new := by
  have hcount : Tracks base (e.count raw) p lines := h.same rfl rfl rfl rfl rfl
  rcases feedCounted_cases e line raw with
    ⟨status, hh, -⟩ | ⟨-, -, he⟩ | ⟨trigger, -, -, ht, he⟩ | ⟨-, -, ht, he⟩
  · rw [h.halted_eq] at hh
    cases hh
  · obtain ⟨seen, hbefore, -⟩ := h.seen
    rw [he]
    exact ⟨[], halted_turn hbefore (hbefore.append_nil.of_found rfl) rfl nofun rfl,
      (List.append_nil _).symm⟩
  · have hnext : p.next e.table r = p.moved e.table := by
      rw [Place.next, hr]
      dsimp only
      rw [h.phaseAt_eq, ht, if_pos (by rfl)]
    have hline : p.productLine? e.table r = none := by
      rw [Place.productLine?, hr, Option.filter_some, h.phaseAt_eq, ht]
      rfl
    obtain ⟨new, hturn, hc⟩ := finalize_turn hcount (some trigger)
    rw [he, hnext, hline, Option.toList_none, List.append_nil]
    exact ⟨new, hturn.of_count, hc⟩
  · have hnext : p.next e.table r = p := by
      rw [Place.next, hr]
      dsimp only
      rw [h.phaseAt_eq, ht, if_neg (by nofun)]
    have hline : (p.productLine? e.table r).toList
        = if .resolveProduct ∈ e.phase.handlers then [line] else [] := by
      rw [Place.productLine?, hr, Option.filter_some, h.phaseAt_eq, ht]
      by_cases hp : .resolveProduct ∈ e.phase.handlers <;> simp [hp]
    obtain ⟨hturn, hc⟩ := bufferLine_turn hcount line
    rw [he, hnext, hline]
    exact ⟨[], hturn.of_count, hc.trans (List.append_nil _).symm⟩

theorem finish_turn (h : Tracks base e p lines) : ∃ new,
    Turn base e lines (p.next e.table (.call .finish)) e.finish.2 new ∧
      e.finish.2.completed = e.completed ++ new := by
  obtain ⟨seen, hbefore, -⟩ := h.seen
  have hsame : Seen base e (seen ++ []) := hbefore.append_nil
  rcases finish_eq h.halted_eq with ⟨last, he⟩ | he | he
  · have hnext : p.next e.table (.call .finish) = p.moved e.table := by
      rw [Place.moved, h.phaseIndex_eq, last]
      rfl
    rw [he, hnext]
    exact finalize_turn h none
  · rw [he]
    exact ⟨[], halted_turn hbefore (hsame.of_found rfl) rfl nofun rfl, (List.append_nil _).symm⟩
  · rw [he]
    exact ⟨[], halted_turn hbefore (hsame.of_found rfl) rfl nofun rfl, (List.append_nil _).symm⟩

theorem aside_turn {r : Request} (hline : r.line? = none)
    (hr : r ≠ .call .finish) (ht : Tracks base e' p lines) (hs : e'.sections = e.sections)
    (ha : e'.asked = e.asked) (hserial : e'.progress.serial = e.progress.serial) :
    Turn base e (lines ++ (p.productLine? e.table r).toList) (p.next e.table r) e' [] := by
  have hnext : p.next e.table r = p := by
    rw [Place.next, hline]
    exact if_neg hr
  rw [hnext, Place.productLine?, hline, Option.filter_none, Option.toList_none, List.append_nil]
  refine .kept ht hs ?_
  rw [ha, hserial, List.drop_length, List.append_nil]

/-- **What a request does to the section at hand**, and the analyses that it completes. -/
theorem respond_turn (h : Tracks base e p lines) (r : Request) : ∃ new,
    Turn base e (lines ++ (p.productLine? e.table r).toList) (p.next e.table r)
        (e.respond r).2 new ∧
      (r.call?.map e.taken).getD [] ++ (e.respond r).2.completed = e.completed ++ new := by
  cases hc : r.call? with
  | none =>
    obtain ⟨banned, hb⟩ := respond_aside e hc
    have hline : r.line? = none := by rw [Request.line?, hc]
    have hr : r ≠ .call .finish := by
      rintro rfl
      cases hc
    rw [hb]
    exact ⟨[], aside_turn hline hr (h.same rfl rfl rfl rfl rfl) rfl rfl rfl,
      (List.append_nil _).symm⟩
  | some c =>
    rw [respond_call e hc]
    cases c with
    | feed line raw =>
      have hline : r.line? = some line := by rw [Request.line?, hc]
      exact feedCounted_turn h line raw hline
    | finish =>
      have hr : r = .call .finish := by
        cases r <;> cases hc
        rfl
      subst hr
      rw [Place.productLine?, Request.line?, hc, Option.filter_none, Option.toList_none,
        List.append_nil]
      exact finish_turn h
    | take =>
      have hline : r.line? = none := by rw [Request.line?, hc]
      have hr : r ≠ .call .finish := by
        rintro rfl
        cases hc
      exact ⟨[], aside_turn hline hr (h.same rfl rfl rfl rfl rfl) rfl rfl rfl, rfl⟩

/-! ## Whole runs -/

/-- The product lines of the section `k`, when `lines` are those of the section at hand so far. -/
def sectionLines (e : Engine) (p : Place) (lines : List String) (requests : List Request)
    (k : Nat) : List String :=
  (if e.sections = k then lines else []) ++ productLines e.table k p requests

def sectionAsks (e : Engine) (requests : List Request) (k : Nat) : List String :=
  (if e.sections = k then e.progress.serial.toList else []) ++ e.asksIn k requests

/-- What some requests complete, and what the resolver is asked meanwhile. -/
structure Resolves (e : Engine) (p : Place) (lines : List String) (requests : List Request)
    (new : List Analysis) : Prop where
  results_eq : e.results requests = e.completed ++ new
  sections_eq : (e.served requests).sections = e.sections + new.length
  product_eq : ∀ i (hi : i < new.length), new[i].product
    = (productOf e.table e.resolver (e.sectionLines p lines requests (e.sections + i))).escape
  asks_le : ∀ k, e.sections ≤ k → (e.sectionAsks requests k).length ≤ 1
  asks_eq : ∀ i < new.length, e.sectionAsks requests (e.sections + i)
    = (firstSerial e.table (e.sectionLines p lines requests (e.sections + i))).toList

theorem sectionLines_cons (h : p.sectionIndex = e.sections) {r : Request}
    {requests : List Request} (k : Nat) : e.sectionLines p lines (r :: requests) k
      = (if e.sections = k then lines ++ (p.productLine? e.table r).toList else [])
        ++ productLines e.table k (p.next e.table r) requests := by
  rw [sectionLines, productLines, h, ← List.append_assoc]
  split <;> rfl

theorem sectionAsks_cons {r : Request} {requests : List Request} (k : Nat) :
    e.sectionAsks (r :: requests) k
      = (if e.sections = k then
          e.progress.serial.toList ++ (e.respond r).2.asked.drop e.asked.length else [])
        ++ (e.respond r).2.asksIn k requests := by
  rw [sectionAsks, asksIn, ← List.append_assoc]
  split <;> rfl

theorem resolves_halted {status : Status} (hh : e.halted = some status) (p : Place)
    (lines : List String) (requests : List Request) : Resolves e p lines requests [] where
  results_eq := (results_halted hh requests).1.trans (List.append_nil _).symm
  sections_eq := (results_halted hh requests).2
  product_eq := nofun
  asks_le k _ := by
    rw [sectionAsks, asksIn_halted hh, List.append_nil]
    split
    · exact Option.length_toList_le
    · exact Nat.zero_le _
  asks_eq := nofun

variable {r : Request} {requests : List Request} {new : List Analysis}

theorem Resolves.of_kept (h : p.sectionIndex = e.sections)
    (hres : Resolves (e.respond r).2 (p.next e.table r)
      (lines ++ (p.productLine? e.table r).toList) requests new)
    (hs : (e.respond r).2.sections = e.sections)
    (hasks : e.progress.serial.toList ++ (e.respond r).2.asked.drop e.asked.length
      = (e.respond r).2.progress.serial.toList)
    (hc : (r.call?.map e.taken).getD [] ++ (e.respond r).2.completed = e.completed) :
    Resolves e p lines (r :: requests) new := by
  obtain ⟨ht, -, hr⟩ := setting_respond e r
  have hlines (k : Nat) : e.sectionLines p lines (r :: requests) k = (e.respond r).2.sectionLines
      (p.next e.table r) (lines ++ (p.productLine? e.table r).toList) requests k := by
    rw [sectionLines_cons h, sectionLines, hs, ht]
  have hserials (k : Nat) : e.sectionAsks (r :: requests) k
      = (e.respond r).2.sectionAsks requests k := by
    rw [sectionAsks_cons, sectionAsks, hs, hasks]
  refine ⟨?_, ?_, fun i hi => ?_, fun k hk => ?_, fun i hi => ?_⟩
  · rw [results, hres.results_eq, ← List.append_assoc, hc]
  · rw [served_cons, hres.sections_eq, hs]
  · rw [hres.product_eq i hi, hlines, hs, ht, hr]
  · rw [hserials]
    exact hres.asks_le k (by rw [hs]; exact hk)
  · have heq := hres.asks_eq i hi
    rw [hs, ht] at heq
    rw [hserials, heq, hlines]

theorem Resolves.of_closed {done : Engine} (h : p.sectionIndex = e.sections)
    (hres : Resolves (e.respond r).2 (p.next e.table r) [] requests new)
    (hnew : new ≠ [] → (e.respond r).2.progress.serial = none)
    (hdone : Seen base done (lines ++ (p.productLine? e.table r).toList))
    (htable : done.table = e.table) (hresolver : done.resolver = e.resolver)
    (hs : (e.respond r).2.sections = e.sections + 1)
    (hp : (p.next e.table r).sectionIndex = e.sections + 1)
    (hasks : e.progress.serial.toList ++ (e.respond r).2.asked.drop e.asked.length
      = done.progress.serial.toList)
    (hc : (r.call?.map e.taken).getD [] ++ (e.respond r).2.completed
      = e.completed ++ [done.analysis true]) :
    Resolves e p lines (r :: requests) (done.analysis true :: new) := by
  obtain ⟨ht, -, hr⟩ := setting_respond e r
  have hfirst : e.sectionLines p lines (r :: requests) e.sections
      = lines ++ (p.productLine? e.table r).toList := by
    rw [sectionLines_cons h, if_pos rfl, productLines_of_lt (by omega), List.append_nil]
  have hfirstAsks : e.sectionAsks (r :: requests) e.sections = done.progress.serial.toList := by
    rw [sectionAsks_cons, if_pos rfl, hasks, asksIn_of_lt (by omega), List.append_nil]
  have hlater (k : Nat) (hk : e.sections < k) : e.sectionLines p lines (r :: requests) k
      = (e.respond r).2.sectionLines (p.next e.table r) [] requests k := by
    rw [sectionLines_cons h, if_neg (by omega), sectionLines, ite_self, ht]
  have hlaterAsks (k : Nat) (hk : e.sections < k) : e.sectionAsks (r :: requests) k
      = (e.respond r).2.asksIn k requests := by
    rw [sectionAsks_cons, if_neg (by omega), List.nil_append]
  refine ⟨?_, ?_, fun i hi => ?_, fun k hk => ?_, fun i hi => ?_⟩
  · rw [results, hres.results_eq, ← List.append_assoc, hc, List.append_assoc, List.singleton_append]
  · rw [served_cons, hres.sections_eq, hs, List.length_cons]
    omega
  · cases i with
    | zero =>
      rw [Nat.add_zero, hfirst, List.getElem_cons_zero, hdone.product_analysis, htable, hresolver]
    | succ i =>
      have hi : i < new.length := Nat.lt_of_succ_lt_succ hi
      have hshift : e.sections + (i + 1) = (e.respond r).2.sections + i := by omega
      rw [List.getElem_cons_succ, hres.product_eq i hi, hlater _ (by omega), hshift, ht, hr]
  · rcases Nat.eq_or_lt_of_le hk with rfl | hk
    · rw [hfirstAsks]
      exact Option.length_toList_le
    · have hle := hres.asks_le k (by omega)
      rw [sectionAsks, List.length_append] at hle
      rw [hlaterAsks k hk]
      omega
  · cases i with
    | zero =>
      rw [Nat.add_zero, hfirst, hfirstAsks, hdone.serial_eq, htable]
    | succ i =>
      have hi : i < new.length := Nat.lt_of_succ_lt_succ hi
      have hshift : e.sections + (i + 1) = (e.respond r).2.sections + i := by omega
      have heq := hres.asks_eq i hi
      rw [sectionAsks, hnew (List.ne_nil_of_length_pos (by omega)), Option.toList_none, ite_self,
        List.nil_append] at heq
      rw [hlaterAsks _ (by omega), hlater _ (by omega), hshift, heq, ht]

theorem Resolves.of_halted {status : Status} (hh : (e.respond r).2.halted = some status)
    (hs : (e.respond r).2.sections = e.sections)
    (hasks : (e.progress.serial.toList ++ (e.respond r).2.asked.drop e.asked.length).length ≤ 1)
    (hc : (r.call?.map e.taken).getD [] ++ (e.respond r).2.completed = e.completed) :
    Resolves e p lines (r :: requests) [] := by
  obtain ⟨hresults, hserved⟩ := results_halted hh requests
  refine ⟨?_, ?_, nofun, fun k hk => ?_, nofun⟩
  · rw [results, hresults, hc, List.append_nil]
  · rw [served_cons, hserved, hs]
    rfl
  · rw [sectionAsks_cons, asksIn_halted hh, List.append_nil]
    split
    · exact hasks
    · exact Nat.zero_le _

/-- **The products of the sections that some requests complete** are those that the product lines
tell. -/
theorem exists_resolves (h : Tracks base e p lines) (requests : List Request) :
    ∃ new, Resolves e p lines requests new := by
  induction requests generalizing e p base lines with
  | nil =>
    refine ⟨[], (List.append_nil _).symm, rfl, nofun, fun k _ => ?_, nofun⟩
    rw [sectionAsks, asksIn, List.append_nil]
    split
    · exact Option.length_toList_le
    · exact Nat.zero_le _
  | cons r requests ih =>
    obtain ⟨new, hturn, hc⟩ := respond_turn h r
    cases hturn with
    | kept tracks hs hasks =>
      obtain ⟨new, hres⟩ := ih tracks
      exact ⟨new, hres.of_kept h.sectionIndex_eq hs hasks (hc.trans (List.append_nil _))⟩
    | closed done hdone ht hr hs hp hasks anew =>
      cases hh : (e.respond r).2.halted with
      | some status =>
        have hres := resolves_halted hh (p.next e.table r) [] requests
        exact ⟨_, hres.of_closed h.sectionIndex_eq nofun hdone ht hr hs hp hasks hc⟩
      | none =>
        obtain ⟨tracks, hserial⟩ := anew hh
        obtain ⟨new, hres⟩ := ih tracks
        exact ⟨_, hres.of_closed h.sectionIndex_eq (fun _ => hserial) hdone ht hr hs hp hasks hc⟩
    | halted hh hs hasks =>
      exact ⟨[], .of_halted hh hs hasks (hc.trans (List.append_nil _))⟩

theorem tracks_fresh {table : PhaseTable} (h : table.Usable) (limits : EngineLimits)
    (banned : BannedPhrases) (resolver : Resolver) :
    Tracks [] (fresh table limits banned resolver) {} [] where
  halted_eq := rfl
  placed := (sound_fresh h limits banned resolver).placed
  sectionIndex_eq := rfl
  phaseIndex_eq := rfl
  seen := by
    have hseen : Seen [] (fresh table limits banned resolver) [] :=
      seen_nil (e := fresh table limits banned resolver) rfl rfl rfl
    refine ⟨[], hseen, ?_⟩
    rw [waiting]
    split <;> rfl

theorem productLines_windowCapacity (table : PhaseTable) (capacity : Option Nat) (k : Nat)
    (p : Place) (requests : List Request) :
    productLines { table with windowCapacity := capacity } k p requests
      = productLines table k p requests := by
  induction requests generalizing p with
  | nil => rfl
  | cons r requests ih =>
    rw [productLines, productLines, ih]
    rfl

theorem resolves_fresh {table : PhaseTable} (h : table.Usable) (limits : EngineLimits)
    (banned : BannedPhrases) (resolver : Resolver) (requests : List Request) :
    let e := fresh table limits banned resolver
    (∀ k, (e.asksIn k requests).length ≤ 1) ∧
      ∀ k (hk : k < (e.results requests).length),
        (e.results requests)[k].product
          = (productOf table resolver (productLines table k {} requests)).escape ∧
        e.asksIn k requests = (firstSerial table (productLines table k {} requests)).toList := by
  intro e
  obtain ⟨new, hres⟩ := exists_resolves (tracks_fresh h limits banned resolver) requests
  have hresults : e.results requests = new := hres.results_eq
  have hz : e.sections = 0 := rfl
  have hlines (k : Nat) : e.sectionLines {} [] requests k = productLines table k {} requests := by
    rw [sectionLines, ite_self]
    rfl
  have hasks (k : Nat) : e.sectionAsks requests k = e.asksIn k requests := by
    have hserial : e.progress.serial.toList = [] := rfl
    rw [sectionAsks, hserial, ite_self]
    rfl
  refine ⟨fun k => ?_, fun k hk => ?_⟩
  · have hle := hres.asks_le k (Nat.zero_le k)
    rwa [hasks] at hle
  · simp only [hresults] at hk ⊢
    have hproduct := hres.product_eq k hk
    have hserial := hres.asks_eq k hk
    rw [hz, Nat.zero_add, hlines] at hproduct hserial
    rw [hasks] at hserial
    exact ⟨hproduct, hserial⟩

/-- **The product of a section is told by its product lines**, and so is what the resolver is asked:
the serial of the first of them that has one, once.  The capacity of the window makes no
difference. -/
theorem products_resolved {d : TableDefinition} {builtin : Bool} {table : PhaseTable}
    (h : d.validate builtin = .ok table) (limits : EngineLimits) (banned : BannedPhrases)
    (resolver : Resolver) (requests : List Request) :
    let e := fresh table limits banned resolver
    let analyses := e.results requests
    (∀ k, (e.asksIn k requests).length ≤ 1) ∧
      analyses.map (·.index) = List.range (e.served requests).sections ∧
      (∀ k (hk : k < analyses.length),
        analyses[k].product
          = (productOf table resolver (productLines table k {} requests)).escape ∧
        e.asksIn k requests = (firstSerial table (productLines table k {} requests)).toList) ∧
      ∀ (capacity : Option Nat) (limits' : EngineLimits) (banned' : BannedPhrases),
        let analyses' := (fresh { table with windowCapacity := capacity } limits' banned'
          resolver).results requests
        ∀ k (hk : k < analyses.length) (hk' : k < analyses'.length),
          analyses'[k].product = analyses[k].product := by
  intro e analyses
  have husable := TableDefinition.usable_of_validate h
  obtain ⟨hasks, hproducts⟩ := resolves_fresh husable limits banned resolver requests
  refine ⟨hasks, ?_, hproducts, ?_⟩
  · obtain ⟨new, hresults, hsections, hindex⟩ := results_eq e requests
    have hnew : analyses = new := hresults
    have hcount : (e.served requests).sections = new.length := hsections.trans (Nat.zero_add _)
    rw [hnew, hcount, hindex, List.range_eq_range']
    rfl
  · intro capacity limits' banned' analyses' k hk hk'
    have husable' : PhaseTable.Usable { table with windowCapacity := capacity } :=
      ⟨husable.phases_ne_nil, husable.advance⟩
    have hproducts' := (resolves_fresh husable' limits' banned' resolver requests).2 k hk'
    rw [hproducts'.1, productLines_windowCapacity, (hproducts k hk).1]
    rfl

/-- Two serials in a session, of which the second one is not asked about, in a window for one
line. -/
theorem products_of_sessions : ∃ table, TableDefinition.sessions.validate false = .ok table ∧
    let e := fresh table { windowCapacity := 1 } {} .unknown
    let requests : List Request := [.feed "ID ab", .feed "NAME game", .feed "begin", .feed "ID cd",
      .feed "end", .feed "ID ef"]
    (∃ hk : 0 < (e.results requests).length,
      (e.results requests)[0].product = { serial := some "AB", title := some "game" }) ∧
      e.asksIn 0 requests = ["AB"] ∧ (e.asksIn 1 requests).length ≤ 1 := by
  have hruns : ∃ table, TableDefinition.sessions.validate false = .ok table ∧
      0 < ((fresh table { windowCapacity := 1 } {} .unknown).results [.feed "ID ab",
        .feed "NAME game", .feed "begin", .feed "ID cd", .feed "end", .feed "ID ef"]).length ∧
      productLines table 0 {} [.feed "ID ab", .feed "NAME game", .feed "begin", .feed "ID cd",
        .feed "end", .feed "ID ef"] = ["ID ab", "NAME game", "ID cd"] ∧
      (productOf table .unknown ["ID ab", "NAME game", "ID cd"]).escape
        = { serial := some "AB", title := some "game" } ∧
      firstSerial table ["ID ab", "NAME game", "ID cd"] = some "AB" := by
    decide +kernel
  obtain ⟨table, h, hk, hlines, hproduct, hserial⟩ := hruns
  obtain ⟨hasks, -, hproducts, -⟩ := products_resolved h { windowCapacity := 1 } {} .unknown
    [.feed "ID ab", .feed "NAME game", .feed "begin", .feed "ID cd", .feed "end", .feed "ID ef"]
  have hfirst := hproducts 0 hk
  rw [hlines, hproduct, hserial] at hfirst
  exact ⟨table, h, ⟨hk, hfirst.1⟩, hfirst.2, hasks 1⟩

end Engine

end LogTriage
