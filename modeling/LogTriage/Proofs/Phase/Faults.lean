import Mathlib.Data.List.Forall2
import LogTriage.Phase.Definition
import LogTriage.Proofs.Text.Trimmed

/-!
# Which definitions are accepted

A definition has a list of faults: one for each condition that it does not meet, in the order in
which the conditions are looked at.  Validation fails with the first of them, and gives a table if
there is none.  `Acceptable` says which definitions have no fault, and `Describes` what table such a
definition stands for.

* `Reports.bind`        the faults of one step come before those of the next;
* `reports_validate`    validation reports the faults of a definition;
* `validate_decides`    which definitions are accepted, as what, and why the others are not.
-/

namespace LogTriage

/-! ## Steps that report faults -/

/-- The first fault is the error; without faults there is a result, and `p` holds of it. -/
structure Reports {ε α : Type} (x : Except ε α) (faults : List ε) (p : α → Prop) : Prop where
  first : ∀ fault ∈ faults.head?, x = .error fault
  result : faults = [] → ∃ a, x = .ok a ∧ p a

def faultUnless {ε : Type} (condition : Prop) [Decidable condition] (fault : ε) : List ε :=
  if condition then [] else [fault]

section reports
variable {ε α β : Type} {x : Except ε α} {faults : List ε} {p : α → Prop}

theorem faultUnless_eq_nil_iff {condition : Prop} [Decidable condition] {fault : ε} :
    faultUnless condition fault = [] ↔ condition := by
  unfold faultUnless
  split <;> simp [*]

theorem Reports.of_ok {a : α} (h : p a) : Reports (.ok a : Except ε α) [] p :=
  ⟨nofun, fun _ => ⟨a, rfl, h⟩⟩

theorem Reports.of_error (fault : ε) (rest : List ε) : Reports (.error fault) (fault :: rest) p :=
  ⟨fun _ h => congrArg Except.error (Option.some.inj h), nofun⟩

theorem Reports.check {good bad : Prop} [Decidable good] [Decidable bad] {fault : ε}
    (h : bad ↔ ¬ good) (hx : Reports x faults p) :
    Reports (if bad then .error fault else x) (faultUnless good fault ++ faults) p := by
  unfold faultUnless
  by_cases hgood : good
  · rw [if_neg (fun hbad => h.mp hbad hgood), if_pos hgood]
    exact hx
  · rw [if_pos (h.mpr hgood), if_neg hgood]
    exact .of_error fault faults

/-- **The faults of one step** come before those of the next. -/
theorem Reports.bind {f : α → Except ε β} {more : List ε} {q : β → Prop} (hx : Reports x faults p)
    (hf : ∀ a, p a → Reports (f a) more q) : Reports (x >>= f) (faults ++ more) q := by
  cases faults with
  | nil =>
    obtain ⟨a, rfl, ha⟩ := hx.result rfl
    exact hf a ha
  | cons fault rest =>
    rw [hx.first fault rfl]
    exact .of_error fault (rest ++ more)

theorem Reports.map {f : α → β} {q : β → Prop} (hx : Reports x faults p)
    (hf : ∀ a, p a → q (f a)) : Reports (x.map f) faults q := by
  refine ⟨fun fault h => by rw [hx.first fault h]; rfl, fun h => ?_⟩
  obtain ⟨a, rfl, ha⟩ := hx.result h
  exact ⟨f a, rfl, hf a ha⟩

theorem Reports.ok_iff (hx : Reports x faults p) : (∃ a, x = .ok a) ↔ faults = [] := by
  refine ⟨fun ⟨a, ha⟩ => ?_, fun h => ?_⟩
  · cases faults with
    | nil => rfl
    | cons fault rest =>
      rw [hx.first fault rfl] at ha
      cases ha
  · obtain ⟨a, ha, -⟩ := hx.result h
    exact ⟨a, ha⟩

theorem Reports.of_eq_ok (hx : Reports x faults p) {a : α} (h : x = .ok a) : p a := by
  obtain ⟨b, hb, hp⟩ := hx.result (hx.ok_iff.mp ⟨a, h⟩)
  cases h.symm.trans hb
  exact hp

theorem Reports.error_iff (hx : Reports x faults p) {fault : ε} :
    x = .error fault ↔ faults.head? = some fault := by
  refine ⟨fun h => ?_, hx.first fault⟩
  cases faults with
  | nil =>
    obtain ⟨a, ha, -⟩ := hx.result rfl
    cases ha.symm.trans h
  | cons first rest =>
    cases (hx.first first rfl).symm.trans h
    rfl

end reports

/-! ## Patterns -/

structure Compiles (source : String) : Prop where
  short : source.utf8ByteSize ≤ 4096
  compiled : (Pattern.compile? source).isSome = true

def Groups (group source : String) : Prop := ∃ p ∈ Pattern.compile? source, p.hasGroup group = true

instance (group source : String) : Decidable (Groups group source) :=
  match h : Pattern.compile? source with
  | none => isFalse (by simp [Groups, h])
  | some p => decidable_of_iff (p.hasGroup group = true) (by simp [Groups, h])

def patternFaults (tableId phase source : String) : List TableError :=
  [ faultUnless (source.utf8ByteSize ≤ 4096)
      (.regexTooLong tableId phase source.utf8ByteSize 4096),
    faultUnless ((Pattern.compile? source).isSome = true)
      (.invalidRegex tableId phase source "regex parse error")].flatten

def groupFaults (tableId field group source : String) : List TableError :=
  [ patternFaults tableId field source,
    faultUnless (Groups group source)
      (.missingField tableId (field ++ " (" ++ group ++ " capture)"))].flatten

theorem patternFaults_eq_nil_iff {tableId phase source : String} :
    patternFaults tableId phase source = [] ↔ Compiles source := by
  simp only [patternFaults, List.flatten_cons, List.flatten_nil, List.append_eq_nil_iff,
    faultUnless_eq_nil_iff, and_true]
  exact ⟨fun h => ⟨h.1, h.2⟩, fun h => ⟨h.short, h.compiled⟩⟩

theorem groupFaults_eq_nil_iff {tableId field group source : String} :
    groupFaults tableId field group source = [] ↔ Compiles source ∧ Groups group source := by
  simp only [groupFaults, List.flatten_cons, List.flatten_nil, List.append_eq_nil_iff,
    faultUnless_eq_nil_iff, patternFaults_eq_nil_iff, and_true]

theorem reports_compilePattern (tableId phase source : String) :
    Reports (compilePattern tableId phase source) (patternFaults tableId phase source)
      (Pattern.compile? source = some ·) := by
  simp only [patternFaults, List.flatten_cons, List.flatten_nil, List.append_nil]
  refine .check Nat.not_le.symm ?_
  cases h : Pattern.compile? source with
  | none => exact .of_error _ []
  | some p => exact .of_ok rfl

theorem reports_compileWithGroup (tableId field group source : String) :
    Reports (TableDefinition.compileWithGroup tableId field group source)
      (groupFaults tableId field group source) (Pattern.compile? source = some ·) := by
  simp only [groupFaults, List.flatten_cons, List.flatten_nil]
  refine (reports_compilePattern tableId field source).bind fun p hp => ?_
  have hgroups : Groups group source ↔ p.hasGroup group = true := by simp [Groups, hp]
  by_cases hgroup : p.hasGroup group = true
  · rw [if_pos hgroup, faultUnless, if_pos (hgroups.mpr hgroup)]
    exact .of_ok hp
  · rw [if_neg hgroup, faultUnless, if_neg (fun h => hgroup (hgroups.mp h))]
    exact .of_error _ []

/-! ## Phases -/

namespace PhaseDefinition

def keptTriggers (d : PhaseDefinition) : List String :=
  d.triggers.filter (Text.trimmed · ≠ "")

/-- The pattern, trimmed; a blank one counts as none. -/
def keptPattern? (d : PhaseDefinition) : Option String :=
  (d.pattern.map Text.trimmed).filter (· ≠ "")

structure Acceptable (d : PhaseDefinition) (isLast : Prop) : Prop where
  name : Text.trimmed d.name ≠ ""
  trigger : 1 ≤ d.keptTriggers.length
  triggers : d.keptTriggers.length ≤ 8
  completion : isLast ∨ d.onTrigger = .advance
  pattern : ∀ source ∈ d.keptPattern?, Compiles source

structure Describes (d : PhaseDefinition) (phase : Phase) : Prop where
  name : phase.name = d.name
  triggers : phase.triggers = d.keptTriggers
  mode : phase.mode = d.mode
  pattern : phase.pattern = d.keptPattern?.bind Pattern.compile?
  patterned : phase.pattern.isSome = d.keptPattern?.isSome
  handlers : phase.handlers = d.handlers
  flushProbe : phase.flushProbe = d.flushProbe
  onTrigger : phase.onTrigger = d.onTrigger

def faults (tableId : String) (isLast : Prop) [Decidable isLast] (d : PhaseDefinition) :
    List TableError :=
  [ faultUnless (Text.trimmed d.name ≠ "") (.missingField tableId "phases.name"),
    faultUnless (1 ≤ d.keptTriggers.length) (.missingField tableId "phases.triggers"),
    faultUnless (d.keptTriggers.length ≤ 8)
      (.tooManyTriggers tableId d.name d.keptTriggers.length 8),
    faultUnless (isLast ∨ d.onTrigger = .advance) (.misplacedCompletion tableId d.name),
    d.keptPattern?.toList.flatMap (patternFaults tableId d.name)].flatten

theorem keptTriggers_eq (d : PhaseDefinition) : d.usableTriggers = d.keptTriggers := by
  refine List.filter_congr fun t _ => ?_
  simp [Text.trimmed_eq_empty_iff]

theorem faults_eq_nil_iff {tableId : String} {isLast : Prop} [Decidable isLast]
    {d : PhaseDefinition} : d.faults tableId isLast = [] ↔ d.Acceptable isLast := by
  simp only [faults, List.flatten_cons, List.flatten_nil, List.append_eq_nil_iff,
    faultUnless_eq_nil_iff, List.flatMap_eq_nil_iff, patternFaults_eq_nil_iff, Option.mem_toList,
    and_true]
  exact ⟨fun ⟨h₁, h₂, h₃, h₄, h₅⟩ => ⟨h₁, h₂, h₃, h₄, h₅⟩,
    fun h => ⟨h.name, h.trigger, h.triggers, h.completion, h.pattern⟩⟩

theorem reports_validate (tableId : String) {isLast : Bool} {last : Prop} [Decidable last]
    (hlast : isLast = true ↔ last) (d : PhaseDefinition) :
    Reports (d.validate tableId isLast) (d.faults tableId last) d.Describes := by
  simp only [validate, faults, List.flatten_cons, List.flatten_nil, List.append_nil,
    keptTriggers_eq]
  refine .check ?_ (.check ?_ (.check ?_ (.check ?_ ?_)))
  · rw [ne_eq, Text.trimmed_eq_empty_iff, Decidable.not_not]
  · rw [List.isEmpty_iff, ← List.length_eq_zero_iff]
    omega
  · exact Nat.not_le.symm
  · rw [← hlast]
    cases isLast <;> simp
  · have hpattern : d.usablePattern = d.keptPattern? := rfl
    rw [hpattern]
    cases hkept : d.keptPattern? with
    | none =>
      refine .of_ok ⟨rfl, rfl, rfl, ?_, ?_, rfl, rfl, rfl⟩
      · rw [hkept]
        rfl
      · rw [hkept]
        rfl
    | some source =>
      have hcompiled := (reports_compilePattern tableId d.name source).map
        (q := fun pattern => pattern.isSome = true ∧ Pattern.compile? source = pattern)
        fun p hp => ⟨rfl, hp⟩
      simp only [Option.toList_some, List.flatMap_cons, List.flatMap_nil]
      refine hcompiled.bind fun pattern hp => .of_ok ⟨rfl, rfl, rfl, ?_, ?_, rfl, rfl, rfl⟩
      · rw [hkept]
        exact hp.2.symm
      · rw [hkept]
        exact hp.1

end PhaseDefinition

namespace TableDefinition

/-! ## Tables -/

/-- The faults of the phases, in order; only the last one may say what follows it. -/
def phaseFaults (tableId : String) : List PhaseDefinition → List TableError
  | [] => []
  | d :: ds => d.faults tableId (ds = []) ++ phaseFaults tableId ds

theorem phaseFaults_eq_nil_iff {tableId : String} {ds : List PhaseDefinition} :
    phaseFaults tableId ds = [] ↔
      ∀ before d after, ds = before ++ d :: after → d.Acceptable (after = []) := by
  induction ds with
  | nil => simp [phaseFaults]
  | cons d ds ih =>
    rw [phaseFaults, List.append_eq_nil_iff, PhaseDefinition.faults_eq_nil_iff, ih]
    refine ⟨fun ⟨hd, hds⟩ before d' after h => ?_, fun h => ⟨h [] d ds rfl, ?_⟩⟩
    · cases before with
      | nil =>
        cases h
        exact hd
      | cons first before =>
        cases h
        exact hds before d' after rfl
    · rintro before d' after rfl
      exact h (d :: before) d' after rfl

theorem reports_validatePhases (tableId : String) (ds : List PhaseDefinition) :
    Reports (validatePhases tableId ds) (phaseFaults tableId ds)
      (List.Forall₂ PhaseDefinition.Describes ds) := by
  induction ds with
  | nil => exact .of_ok .nil
  | cons d ds ih =>
    rw [validatePhases, phaseFaults]
    refine (d.reports_validate tableId List.isEmpty_iff).bind fun phase hphase => ?_
    rw [← List.append_nil (phaseFaults tableId ds)]
    exact ih.bind fun phases hphases => .of_ok (.cons hphase hphases)

def serialSource (d : TableDefinition) : String := d.serialPattern.getD defaultSerialPattern

def titleSource (d : TableDefinition) : String := d.titlePattern.getD defaultTitlePattern

structure Acceptable (d : TableDefinition) : Prop where
  id : Text.trimmed d.id ≠ ""
  name : Text.trimmed d.name ≠ ""
  phase : 1 ≤ d.phases.length
  phases : d.phases.length ≤ 32
  usable : ∀ before phase after, d.phases = before ++ phase :: after →
    phase.Acceptable (after = [])
  serial : Compiles d.serialSource ∧ Groups "id" d.serialSource
  title : Compiles d.titleSource ∧ Groups "title" d.titleSource

/-- The table that a definition stands for. -/
structure Describes (d : TableDefinition) (builtin : Bool) (table : PhaseTable) : Prop where
  id : table.id = Text.trimmed d.id
  name : table.name = d.name
  version : table.version = d.version
  description : table.description = d.description
  windowCapacity : table.windowCapacity = d.windowCapacity.map fun n => max 16 (min 65536 n)
  phases : List.Forall₂ PhaseDefinition.Describes d.phases table.phases
  serial : Pattern.compile? d.serialSource = some table.serialPattern
  title : Pattern.compile? d.titleSource = some table.titlePattern
  builtin : table.builtin = builtin

/-- What is wrong with a definition, in the order in which it is looked at. -/
def faults (d : TableDefinition) : List TableError :=
  let id := Text.trimmed d.id
  [ faultUnless (id ≠ "") (.missingField "(empty)" "table.id"),
    faultUnless (Text.trimmed d.name ≠ "") (.missingField id "table.name"),
    faultUnless (1 ≤ d.phases.length) (.missingField id "phases"),
    faultUnless (d.phases.length ≤ 32) (.tooManyPhases id d.phases.length 32),
    phaseFaults id d.phases,
    groupFaults id "table.serial_pattern" "id" d.serialSource,
    groupFaults id "table.title_pattern" "title" d.titleSource].flatten

theorem faults_eq_nil_iff {d : TableDefinition} : d.faults = [] ↔ d.Acceptable := by
  simp only [faults, List.flatten_cons, List.flatten_nil, List.append_eq_nil_iff,
    faultUnless_eq_nil_iff, phaseFaults_eq_nil_iff, groupFaults_eq_nil_iff, and_true]
  exact ⟨fun ⟨h₁, h₂, h₃, h₄, h₅, h₆, h₇⟩ => ⟨h₁, h₂, h₃, h₄, h₅, h₆, h₇⟩,
    fun h => ⟨h.id, h.name, h.phase, h.phases, h.usable, h.serial, h.title⟩⟩

theorem reports_validate (d : TableDefinition) (builtin : Bool) :
    Reports (d.validate builtin) d.faults (d.Describes builtin) := by
  simp only [validate, faults, List.flatten_cons, List.flatten_nil]
  refine .check ?_ (.check ?_ (.check ?_ (.check ?_ ?_)))
  · rw [ne_eq, Decidable.not_not]
  · rw [ne_eq, Text.trimmed_eq_empty_iff, Decidable.not_not]
  · rw [List.isEmpty_iff, ← List.length_eq_zero_iff]
    omega
  · exact Nat.not_le.symm
  · refine (reports_validatePhases _ d.phases).bind fun phases hphases => ?_
    refine (reports_compileWithGroup _ _ _ _).bind fun serial hserial => ?_
    refine (reports_compileWithGroup _ _ _ _).bind fun title htitle => ?_
    exact .of_ok ⟨rfl, rfl, rfl, rfl, rfl, hphases, hserial, htitle, rfl⟩

theorem acceptable_of_validate {d : TableDefinition} {builtin : Bool} {table : PhaseTable}
    (h : d.validate builtin = .ok table) : d.Acceptable :=
  faults_eq_nil_iff.mp ((d.reports_validate builtin).ok_iff.mp ⟨table, h⟩)

theorem describes_of_validate {d : TableDefinition} {builtin : Bool} {table : PhaseTable}
    (h : d.validate builtin = .ok table) : d.Describes builtin table :=
  (d.reports_validate builtin).of_eq_ok h

/-- **Which definitions are accepted**, and as what table.  A definition that is not accepted has
faults, and the error is the first of them. -/
theorem validate_decides (d : TableDefinition) (builtin : Bool) :
    ((∃ table, d.validate builtin = .ok table) ↔ d.Acceptable) ∧
    (∀ table, d.validate builtin = .ok table → d.Describes builtin table) ∧
    (∀ error, d.validate builtin = .error error ↔ d.faults.head? = some error) ∧
    (d.faults = [] ↔ d.Acceptable) := by
  have hreports := reports_validate d builtin
  exact ⟨hreports.ok_iff.trans faults_eq_nil_iff, fun _ h => describes_of_validate h,
    fun _ => hreports.error_iff, faults_eq_nil_iff⟩

end TableDefinition

end LogTriage
