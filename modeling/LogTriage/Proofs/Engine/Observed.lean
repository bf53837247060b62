import LogTriage.Proofs.Engine.Steps

/-!
# What the lines of a section tell of the product

The handlers take a serial and a title from the first line that has one, whether they see the line
when it leaves the window or when the phase ends, and however often.  `Seen` says that an engine
knows of the product what some lines tell; a line that waits in the window for a handler is not
among them yet.

* `Seen.asks`         at most one serial is asked about;
* `bufferLine_seen`   a line comes in, and the one that leaves the window is seen;
* `finalize_seen`     when a phase ends well, every line that waited has been seen;
* `Seen.product_analysis`  the product of the section.
-/

namespace LogTriage

/-- The serial that some lines tell: the first one. -/
def firstSerial (table : PhaseTable) (lines : List String) : Option String :=
  (lines.findSome? (Engine.firstCapture? table.serialPattern · "id")).map Text.asciiUppered

def firstTitle (table : PhaseTable) (lines : List String) : Option String :=
  lines.findSome? (Engine.firstCapture? table.titlePattern · "title")

/-- What the resolver answers, with the serial in it. -/
def Resolver.answer (resolver : Resolver) : Option String → Product
  | none => .unknown
  | some serial => { resolver serial with serial := some ((resolver serial).serial.getD serial) }

def productOf (table : PhaseTable) (resolver : Resolver) (lines : List String) : Product :=
  let product := resolver.answer (firstSerial table lines)
  if product.status = .unknown ∧ product.title = none then
    { product with title := firstTitle table lines }
  else product

section first
variable (table : PhaseTable) (lines more : List String)

theorem firstSerial_append : firstSerial table (lines ++ more)
    = (firstSerial table lines).or (firstSerial table more) := by
  rw [firstSerial, List.findSome?_append, Option.map_or]
  rfl

theorem firstTitle_append : firstTitle table (lines ++ more)
    = (firstTitle table lines).or (firstTitle table more) := List.findSome?_append

end first

namespace Engine

/-- Of the product, the engine knows what the lines tell; before them, the resolver was asked about
the serials `base`. -/
structure Seen (base : List String) (e : Engine) (lines : List String) : Prop where
  serial_eq : e.progress.serial = firstSerial e.table lines
  title_eq : e.progress.logTitle = firstTitle e.table lines
  product_eq : e.progress.product = e.resolver.answer e.progress.serial
  asked_eq : e.asked = base ++ e.progress.serial.toList

/-- The lines of the window, if they wait for a handler that looks for the product. -/
def waiting (e : Engine) : List String :=
  if .resolveProduct ∈ e.phase.handlers then e.progress.window.lines else []

variable {e e' : Engine} {base lines more : List String} {line : String}

/-! ## Lines that are seen -/

def found (e : Engine) : Engine :=
  { table := e.table, resolver := e.resolver, asked := e.asked
    progress := {
      serial := e.progress.serial
      logTitle := e.progress.logTitle
      product := e.progress.product } }

theorem Seen.of_found (h : Seen base e lines) (hf : e'.found = e.found) : Seen base e' lines := by
  have ht : e'.table = e.table := (congrArg table hf :)
  have hr : e'.resolver = e.resolver := (congrArg resolver hf :)
  have ha : e'.asked = e.asked := (congrArg asked hf :)
  have hs : e'.progress.serial = e.progress.serial := (congrArg (·.progress.serial) hf :)
  have hl : e'.progress.logTitle = e.progress.logTitle := (congrArg (·.progress.logTitle) hf :)
  have hp : e'.progress.product = e.progress.product := (congrArg (·.progress.product) hf :)
  exact ⟨by rw [hs, ht, h.serial_eq], by rw [hl, ht, h.title_eq], by rw [hp, hr, hs, h.product_eq],
    by rw [ha, hs, h.asked_eq]⟩

theorem Seen.append_nil (h : Seen base e lines) : Seen base e (lines ++ []) := by
  rwa [List.append_nil]

theorem Seen.of_again (h : Seen base e (lines ++ more ++ more)) : Seen base e (lines ++ more) where
  serial_eq := by
    rw [h.serial_eq, firstSerial_append, firstSerial_append, Option.or_assoc, Option.or_self]
  title_eq := by
    rw [h.title_eq, firstTitle_append, firstTitle_append, Option.or_assoc, Option.or_self]
  product_eq := h.product_eq
  asked_eq := h.asked_eq

theorem seen_nil (h : e.progress.serial = none) (ht : e.progress.logTitle = none)
    (hp : e.progress.product = .unknown) : Seen e.asked e [] where
  serial_eq := h
  title_eq := ht
  product_eq := by rw [hp, h, Resolver.answer]
  asked_eq := by rw [h, Option.toList_none, List.append_nil]

theorem observeSerial_title (e : Engine) (line : String) :
    (e.observeSerial line).progress.logTitle = e.progress.logTitle ∧
      (e.observeSerial line).table = e.table ∧ (e.observeSerial line).resolver = e.resolver := by
  unfold observeSerial
  split
  · exact ⟨rfl, rfl, rfl⟩
  · split <;> exact ⟨rfl, rfl, rfl⟩

theorem observeSerial_serial (h : Seen base e lines) (line : String) :
    (e.observeSerial line).progress.serial = firstSerial e.table (lines ++ [line]) ∧
      (e.observeSerial line).progress.product
        = e.resolver.answer (e.observeSerial line).progress.serial ∧
      (e.observeSerial line).asked = base ++ (e.observeSerial line).progress.serial.toList := by
  rw [firstSerial_append, ← h.serial_eq]
  cases hs : e.progress.serial with
  | some serial =>
    have he : e.observeSerial line = e := by rw [observeSerial, hs]; rfl
    rw [he, hs]
    exact ⟨rfl, hs ▸ h.product_eq, hs ▸ h.asked_eq⟩
  | none =>
    have hasked : e.asked = base := by
      rw [h.asked_eq, hs, Option.toList_none, List.append_nil]
    cases hc : firstCapture? e.table.serialPattern line "id" with
    | none =>
      have he : e.observeSerial line = e := by rw [observeSerial, hs, hc]; rfl
      have hf : firstSerial e.table [line] = none := by
        rw [firstSerial, List.findSome?_cons, hc]
        rfl
      rw [he, hs, hf]
      exact ⟨rfl, hs ▸ h.product_eq, hs ▸ h.asked_eq⟩
    | some id =>
      have hf : firstSerial e.table [line] = some (Text.asciiUppered id) := by
        rw [firstSerial, List.findSome?_cons, hc]
        rfl
      rw [observeSerial, hs, hc, hf, hasked]
      exact ⟨rfl, rfl, rfl⟩

theorem observeTitle_found (e : Engine) (line : String) :
    (e.observeTitle line).progress.logTitle
        = e.progress.logTitle.or (firstCapture? e.table.titlePattern line "title") ∧
      (e.observeTitle line).found
        = { e.found with progress := { e.found.progress with
            logTitle := (e.observeTitle line).progress.logTitle } } := by
  unfold observeTitle
  cases ht : e.progress.logTitle with
  | some title => simp [ht, found]
  | none =>
    cases hc : firstCapture? e.table.titlePattern line "title" with
    | none => simp [ht, found]
    | some title => simp [found]

theorem Seen.observe (h : Seen base e lines) (line : String) :
    Seen base (e.observe line) (lines ++ [line]) := by
  obtain ⟨hserial, hproduct, hasked⟩ := observeSerial_serial h line
  obtain ⟨htitle, htable, hresolver⟩ := observeSerial_title e line
  obtain ⟨hl, hf⟩ := observeTitle_found (e.observeSerial line) line
  have ht : (e.observe line).table = e.table := (congrArg table hf :).trans htable
  have hr : (e.observe line).resolver = e.resolver := (congrArg resolver hf :).trans hresolver
  have hs : (e.observe line).progress.serial = (e.observeSerial line).progress.serial :=
    (congrArg (·.progress.serial) hf :)
  have hp : (e.observe line).progress.product = (e.observeSerial line).progress.product :=
    (congrArg (·.progress.product) hf :)
  have ha : (e.observe line).asked = (e.observeSerial line).asked := (congrArg asked hf :)
  refine ⟨by rw [hs, ht, hserial], ?_, by rw [hp, hr, hs, hproduct], by rw [ha, hs, hasked]⟩
  have hlog : (e.observe line).progress.logTitle
      = e.progress.logTitle.or (firstCapture? e.table.titlePattern line "title") := by
    rw [← htitle, ← htable]
    exact hl
  rw [hlog, ht, firstTitle_append, h.title_eq, firstTitle, firstTitle, List.findSome?_singleton]

theorem Seen.foldl_observe (h : Seen base e lines) (more : List String) :
    Seen base (more.foldl Engine.observe e) (lines ++ more) := by
  induction more generalizing e lines with
  | nil => exact h.append_nil
  | cons line more ih =>
    have hmore := ih (h.observe line)
    rwa [List.append_assoc, List.singleton_append] at hmore

/-- **At most one serial is asked about**: with the serial that is known, what has been asked since
is the serial that is known now. -/
theorem Seen.asks (h : Seen base e lines) (h' : Seen base e' (lines ++ more))
    (ht : e'.table = e.table) :
    e.progress.serial.toList ++ e'.asked.drop e.asked.length = e'.progress.serial.toList := by
  have hs : e'.progress.serial = e.progress.serial.or (firstSerial e.table more) := by
    rw [h'.serial_eq, ht, firstSerial_append, ← h.serial_eq]
  rw [h.asked_eq, h'.asked_eq, hs]
  cases e.progress.serial with
  | none => simp
  | some serial => simp

/-! ## Extraction and inspection -/

theorem extractEarly_found (e : Engine) : e.extractEarly.found = e.found := by
  rw [extractEarly_eq]
  cases e.phase.pattern.bind (·.captures? e.windowText) <;> rfl

theorem probed_found (e : Engine) (line : String) : (e.probed line).found = e.found := by
  unfold probed
  split
  · split
    · exact extractEarly_found e
    · rfl
  · rfl

theorem extract?_found {text : String} (h : e.extract? text = some e') : e'.found = e.found := by
  rw [eq_of_extract? h]
  rfl

theorem inspect_seen (h : Seen base e lines) (line : String) (handlers : List Handler) :
    (∃ more, Seen base (inspect line handlers e).2 (lines ++ more)) ∧
      ((inspect line handlers e).1 = none → Seen base (inspect line handlers e).2
        (lines ++ if .resolveProduct ∈ handlers then [line] else [])) := by
  induction handlers generalizing e lines with
  | nil => exact ⟨⟨[], h.append_nil⟩, fun _ => h.append_nil⟩
  | cons handler handlers ih =>
    cases handler with
    | bannedContent =>
      rw [inspect]
      split
      · exact ⟨⟨[], h.append_nil⟩, fun hn => by cases hn⟩
      · simpa using ih h
    | collectLibraries => simpa [inspect] using ih h
    | resolveProduct =>
      obtain ⟨⟨more, hm⟩, hn⟩ := ih (h.observe line)
      refine ⟨⟨[line] ++ more, by rwa [← List.append_assoc]⟩, fun hnone => ?_⟩
      have hseen := hn hnone
      rw [if_pos List.mem_cons_self]
      split at hseen
      · exact hseen.of_again
      · rwa [List.append_nil] at hseen

theorem runHandlers_seen (h : Seen base e lines) (text : String) (handlers : List Handler) :
    (∃ more, Seen base (runHandlers text handlers e).2 (lines ++ more)) ∧
      ((runHandlers text handlers e).1 = none → Seen base (runHandlers text handlers e).2
        (lines ++ if .resolveProduct ∈ handlers then e.progress.window.lines else [])) := by
  induction handlers generalizing e lines with
  | nil => exact ⟨⟨[], h.append_nil⟩, fun _ => h.append_nil⟩
  | cons handler handlers ih =>
    cases handler with
    | bannedContent =>
      rw [runHandlers]
      split
      · exact ⟨⟨[], h.append_nil⟩, fun hn => by cases hn⟩
      · simpa using ih h
    | collectLibraries =>
      have hlibraries : Seen base (runHandlers text [.collectLibraries] e).2 lines :=
        h.of_found rfl
      simpa [runHandlers] using ih hlibraries
    | resolveProduct =>
      have hw := window_of_bare (foldl_observe_bare e e.progress.window.lines)
      obtain ⟨⟨more, hm⟩, hn⟩ := ih (h.foldl_observe e.progress.window.lines)
      refine ⟨⟨e.progress.window.lines ++ more, by rwa [← List.append_assoc]⟩, fun hnone => ?_⟩
      have hseen := hn hnone
      rw [if_pos List.mem_cons_self]
      rw [hw] at hseen
      split at hseen
      · exact hseen.of_again
      · rwa [List.append_nil] at hseen

/-! ## Lines and phases -/

theorem waiting_push {window : Window} (hb : e'.bare = (e.withWindow window).bare)
    (line : String) : (e'.withWindow (window.push line)).waiting = (e.withWindow window).waiting
      ++ if .resolveProduct ∈ e.phase.handlers then [line] else [] := by
  have hphase : e'.phase = e.phase := (phase_of_bare hb :)
  have hline : (e'.withWindow (window.push line)).phase = e.phase := hphase
  have hold : (e.withWindow window).phase = e.phase := rfl
  rw [waiting, waiting, hline, hold]
  split
  · exact Window.lines_push window line
  · rfl

/-- **A line comes into the window**, and the one that leaves it is seen; or the engine halts. -/
theorem bufferLine_seen (h : Seen base e lines) (line : String) :
    (∃ more, Seen base (e.bufferLine line).2 (lines ++ more)) ∧
      ((e.bufferLine line).2.halted = none → ∃ more, Seen base (e.bufferLine line).2 (lines ++ more) ∧
        more ++ (e.bufferLine line).2.waiting
          = e.waiting ++ if .resolveProduct ∈ e.phase.handlers then [line] else []) := by
  have hstays : (∃ more, Seen base (e.withWindow (e.progress.window.push line)) (lines ++ more)) ∧
      ∃ more, Seen base (e.withWindow (e.progress.window.push line)) (lines ++ more) ∧
        more ++ (e.withWindow (e.progress.window.push line)).waiting
          = e.waiting ++ if .resolveProduct ∈ e.phase.handlers then [line] else [] := by
    have hseen : Seen base (e.withWindow (e.progress.window.push line)) (lines ++ []) :=
      h.append_nil.of_found rfl
    have hb : e.bare = (e.withWindow e.progress.window).bare := rfl
    exact ⟨⟨[], hseen⟩, [], hseen, waiting_push hb line⟩
  unfold bufferLine
  by_cases hc : e.windowCapacity ≤ e.progress.window.size
  · rw [if_pos hc]
    cases hw : e.progress.window.pop? with
    | none =>
      rw [evict, hw]
      exact ⟨hstays.1, fun _ => hstays.2⟩
    | some popped =>
      obtain ⟨oldest, rest⟩ := popped
      have hb := (inspect_bare oldest e.phase.handlers _).trans
        (withWindow_bare (probed_bare e oldest) rest)
      have hprobed : Seen base ((e.probed oldest).withWindow rest) lines :=
        h.of_found (probed_found e oldest)
      have hseen := inspect_seen hprobed oldest e.phase.handlers
      rw [evict_eq hw]
      generalize inspect oldest e.phase.handlers ((e.probed oldest).withWindow rest) = out
        at hb hseen
      obtain ⟨hit, e₁⟩ := out
      cases hit with
      | some hit =>
        obtain ⟨⟨more, hm⟩, -⟩ := hseen
        exact ⟨⟨more, hm.of_found rfl⟩, fun hn => by cases hn⟩
      | none =>
        have hm := hseen.2 rfl
        have hwindow : e₁.progress.window = rest := window_of_bare hb
        have hout : Seen base (e₁.withWindow (rest.push line)) (lines
            ++ if .resolveProduct ∈ e.phase.handlers then [oldest] else []) := hm.of_found rfl
        dsimp only
        rw [hwindow]
        refine ⟨⟨_, hout⟩, fun _ => ⟨_, hout, ?_⟩⟩
        have hpush := waiting_push hb line
        refine (congrArg _ hpush).trans ?_
        rw [← List.append_assoc]
        congr 1
        have hphase : (e.withWindow rest).phase = e.phase := rfl
        rw [waiting, waiting, hphase, Window.lines_pop hw]
        split <;> rfl
  · rw [if_neg hc]
    exact ⟨hstays.1, fun _ => hstays.2⟩

/-- **When a phase ends well**, every line that waited has been seen. -/
theorem finalize_seen (h : Seen base e lines) (trigger : Option String) :
    (∃ more, Seen base (e.finalize trigger).2 (lines ++ more) ∧
      (e.finalize trigger).2.halted ≠ none ∧ (e.finalize trigger).2.sections = e.sections ∧
      (e.finalize trigger).2.completed = e.completed) ∨
    ∃ e', e'.bare = e.bare ∧ Seen base e' (lines ++ e.waiting) ∧
      e.finalize trigger = e'.complete trigger := by
  unfold finalize
  dsimp only
  cases hx : e.extract? e.windowText with
  | none => exact .inl ⟨[], h.append_nil.of_found rfl, nofun, rfl, rfl⟩
  | some e₁ =>
    have hb₁ := extract?_bare hx
    have hb := (runHandlers_bare e.windowText e₁.phase.handlers e₁).trans hb₁
    have hseen := runHandlers_seen (h.of_found (extract?_found hx)) e.windowText e₁.phase.handlers
    rw [phase_of_bare hb₁, window_of_bare hb₁] at hseen
    rw [phase_of_bare hb₁] at hb
    dsimp only
    rw [phase_of_bare hb₁]
    generalize runHandlers e.windowText e.phase.handlers e₁ = out at hb hseen
    obtain ⟨hit, e₂⟩ := out
    cases hit with
    | some hit =>
      obtain ⟨⟨more, hm⟩, -⟩ := hseen
      exact .inl ⟨more, hm.of_found rfl, nofun, (sections_of_bare hb :), (congrArg completed hb :)⟩
    | none => exact .inr ⟨e₂, hb, hseen.2 rfl, rfl⟩

/-! ## The product -/

/-- **The product of a section** is the one that its lines tell. -/
theorem Seen.product_analysis (h : Seen base e lines) (complete : Bool) :
    (e.analysis complete).product = (productOf e.table e.resolver lines).escape := by
  have hcond (p : Product) : (!p.isKnown && p.title.isNone) = true ↔
      p.status = .unknown ∧ p.title = none := by
    simp [Product.isKnown]
  simp only [analysis, hcond, h.product_eq, h.title_eq, h.serial_eq, productOf]

end Engine

end LogTriage
