import Mathlib.Data.List.Nodup
import LogTriage.Catalog

/-!
# The answers of a catalog

A catalog is read record by record.  What it answers to a serial is the product of a record that
comes under the serial: whose key, without white space around it and in capitals, is the serial in
capitals.  Keys that differ in the file may come under one serial all the same, and only then is
there a choice.

* `parse_of_document`  when a document is a catalog, and which;
* `recorded_resolve`   every answer is the product of a record under the serial, if there is one;
* `recorded_unique`    there is one at most where the keys differ as they are compared;
* `answers_of_perm`    so the order of the records decides nothing but which one that is,
* `order_decides`      and this it does decide.
-/

namespace LogTriage.Catalog
open Json (Value)

variable {es es' : List (Option String × Value)} {serial : String} {p q : Product}

/-! ## The document around the records -/

/-- A document without its records: the other entries of the object, or the array around them. -/
inductive Frame where
  | object (before after : List (Option String × Value))
  | array

namespace Frame

def document : Frame → List (Option String × Value) → Value
  | object before after, es => .object (before ++ (some "results", .object es) :: after)
  | array, es => .array [.object es]

/-- All names are texts, and no other one is that of the records. -/
def proper : Frame → Bool
  | object before after => (before ++ after).all (·.1.isSome) &&
    ((before ++ after).filter (·.1 == some "results")).isEmpty
  | array => true

end Frame

/-- What `results` are read from: those that come under this name. -/
def ofNamed? : List (Option String × Value) → Option Catalog
  | [] => some {}
  | [(_, v)] => ofResults? v
  | _ => none

theorem ofNamed?_of_two {named : List (Option String × Value)} (h : 2 ≤ named.length) :
    ofNamed? named = none := by
  match named, h with
  | _ :: _ :: _, _ => rfl

theorem ofJson?_document (f : Frame) (es : List (Option String × Value)) :
    ofJson? (f.document es) = if f.proper then ofResults? (.object es) else none := by
  cases f with
  | array => rfl
  | object before after =>
    have hjson : ofJson? (Frame.document (.object before after) es)
        = if (before ++ (some "results", .object es) :: after).all (·.1.isSome) then
            ofNamed? ((before ++ (some "results", .object es) :: after).filter
              (·.1 == some "results"))
          else none := rfl
    have hnames : (before ++ (some "results", .object es) :: after).all (·.1.isSome)
        = (before ++ after).all (·.1.isSome) := by
      rw [List.all_append, List.all_append, List.all_cons]
      rfl
    rw [hjson, hnames, Frame.proper, List.filter_append,
      List.filter_cons_of_pos (by exact beq_self_eq_true _), List.filter_append]
    generalize before.filter (·.1 == some "results") = named
    generalize after.filter (·.1 == some "results") = named'
    cases (before ++ after).all (·.1.isSome) with
    | false => rfl
    | true =>
      rw [Bool.true_and, if_pos rfl]
      cases hnone : (named ++ named').isEmpty with
      | true =>
        obtain ⟨rfl, rfl⟩ := List.append_eq_nil_iff.mp (List.isEmpty_iff.mp hnone)
        rfl
      | false =>
        refine (ofNamed?_of_two ?_).trans (if_neg Bool.false_ne_true).symm
        have hpos : 0 < (named ++ named').length := by
          rw [List.length_pos_iff, ne_eq, ← List.isEmpty_iff, hnone]
          exact Bool.false_ne_true
        rw [List.length_append] at hpos ⊢
        rw [List.length_cons]
        omega

theorem mapM_eq {α β : Type} (g : α → Option β) (xs : List α) :
    xs.mapM g = if xs.all fun x => (g x).isSome then some (xs.filterMap g) else none := by
  induction xs with
  | nil => rfl
  | cons x xs ih =>
    rw [List.mapM_cons, ih, List.all_cons]
    cases hx : g x with
    | none => rfl
    | some y =>
      rw [List.filterMap_cons_some hx, Option.isSome_some, Bool.true_and]
      split <;> rfl

def readable (e : Option String × Value) : Bool := Option.isSome <| entry? e

/-- The catalog of some records; of two under one serial the later one counts. -/
def ofRecords (es : List (Option String × Value)) : Catalog := ⟨(es.filterMap entry?).reverse⟩

/-- **When a document is a catalog**: if its records come once, and each has the right shape. -/
theorem parse_of_document (path : String) {f : Frame} {content : String}
    (h : Json.parse? content = some (f.document es)) :
    parse path content = if f.proper && es.all readable then .ok (ofRecords es)
      else .error (.json path "malformed catalog") := by
  have hread : es.mapM entry? = if es.all readable then some (es.filterMap entry?) else none :=
    mapM_eq entry? es
  have hresults : ofResults? (.object es)
      = if es.all readable then some (ofRecords es) else none := by
    calc ofResults? (.object es) = (es.mapM entry?).map fun products => ⟨products.reverse⟩ := rfl
      _ = if es.all readable then some (ofRecords es) else none := by
        rw [hread]
        cases es.all readable <;> rfl
  rw [parse, h, Option.bind_some, ofJson?_document, hresults]
  cases f.proper with
  | false => rfl
  | true => cases es.all readable <;> rfl

/-! ## What is answered -/

/-- The product of a record that comes under a serial. -/
def Recorded (es : List (Option String × Value)) (serial : String) (p : Product) : Prop :=
  ∃ key v r, (some key, v) ∈ es ∧ serialKey key = Text.asciiUppered serial ∧
    Record.ofJson? v = some r ∧ p = r.product (serialKey key)

def Under (serial : String) (e : Option String × Value) : Prop :=
  e.1.map serialKey = some (Text.asciiUppered serial)

theorem entry?_some (key : String) (v : Value) : entry? (some key, v)
    = (Record.ofJson? v).map fun r => (serialKey key, r.product (serialKey key)) := by
  show (Record.ofJson? v).bind _ = _
  cases Record.ofJson? v <;> rfl

theorem recorded_iff :
    Recorded es serial p ↔ (Text.asciiUppered serial, p) ∈ es.filterMap entry? := by
  rw [List.mem_filterMap]
  constructor
  · rintro ⟨key, v, r, hmem, hkey, hr, rfl⟩
    exact ⟨_, hmem, by rw [entry?_some, hr, Option.map_some, hkey]⟩
  · rintro ⟨⟨name, v⟩, hmem, hentry⟩
    cases name with
    | none => cases hentry
    | some key =>
      rw [entry?_some] at hentry
      obtain ⟨r, hr, hpair⟩ := Option.map_eq_some_iff.mp hentry
      obtain ⟨hkey, rfl⟩ := Prod.mk.inj hpair
      exact ⟨key, v, r, hmem, hkey, hr, rfl⟩

theorem exists_entry {e : Option String × Value} (h : readable e = true)
    (hunder : Under serial e) : ∃ p, entry? e = some (Text.asciiUppered serial, p) := by
  obtain ⟨name, v⟩ := e
  obtain ⟨key, rfl, hkey⟩ := Option.map_eq_some_iff.mp hunder
  rw [readable, entry?_some, Option.isSome_map] at h
  obtain ⟨r, hr⟩ := Option.isSome_iff_exists.mp h
  exact ⟨_, by rw [entry?_some, hr, Option.map_some, hkey]⟩

theorem Recorded.perm (h : es.Perm es') (hp : Recorded es serial p) : Recorded es' serial p := by
  rw [recorded_iff] at hp ⊢
  exact (h.filterMap entry?).mem_iff.mp hp

theorem Recorded.exists_under (hp : Recorded es serial p) : ∃ e ∈ es, Under serial e := by
  obtain ⟨key, v, -, hmem, hkey, -, -⟩ := hp
  exact ⟨_, hmem, congrArg some hkey⟩

/-- **What a catalog answers** for a serial that no record comes under. -/
theorem resolve_of_unknown (h : ∀ e ∈ es, ¬ Under serial e) :
    (ofRecords es).resolve serial = .unresolved serial := by
  have hnone : (es.filterMap entry?).reverse.lookup (Text.asciiUppered serial) = none := by
    rw [List.lookup_eq_none_iff]
    rintro ⟨key, p⟩ hmem
    rw [bne_iff_ne]
    rintro rfl
    obtain ⟨e, he, hunder⟩ := (recorded_iff.mpr (List.mem_reverse.mp hmem)).exists_under
    exact h e he hunder
  rw [resolve, ofRecords, hnone]
  rfl

theorem recorded_resolve (hall : es.all readable = true)
    (h : ∃ e ∈ es, Under serial e) : Recorded es serial ((ofRecords es).resolve serial) := by
  obtain ⟨e, he, hunder⟩ := h
  obtain ⟨p, hp⟩ := exists_entry (List.all_eq_true.mp hall e he) hunder
  have hmem : (Text.asciiUppered serial, p) ∈ (es.filterMap entry?).reverse :=
    List.mem_reverse.mpr (List.mem_filterMap.mpr ⟨e, he, hp⟩)
  cases hfound : (es.filterMap entry?).reverse.lookup (Text.asciiUppered serial) with
  | none =>
    have hother := List.lookup_eq_none_iff.mp hfound _ hmem
    exact absurd rfl (bne_iff_ne.mp hother)
  | some q =>
    obtain ⟨before, after, hsplit, -⟩ := List.lookup_eq_some_iff.mp hfound
    rw [resolve, ofRecords, hfound, recorded_iff, ← List.mem_reverse, hsplit]
    exact List.mem_append_right _ List.mem_cons_self

theorem recorded_unique (hkeys : (es.map (·.1.map serialKey)).Nodup) (hp : Recorded es serial p)
    (hq : Recorded es serial q) : p = q := by
  obtain ⟨key, v, r, hmem, hkey, hr, rfl⟩ := hp
  obtain ⟨key', v', r', hmem', hkey', hr', rfl⟩ := hq
  have hsame : (some key).map serialKey = (some key').map serialKey := by
    rw [Option.map_some, Option.map_some, hkey, hkey']
  obtain ⟨hname, rfl⟩ := Prod.mk.inj (List.inj_on_of_nodup_map hkeys hmem hmem' hsame)
  rw [Option.some.inj hname, Option.some.inj (hr.symm.trans hr')]

/-! ## In another order -/

/-- What two catalogs of the same records answer to a serial. -/
structure Answers (es : List (Option String × Value)) (c c' : Catalog) (serial : String) :
    Prop where
  unknown : (∀ e ∈ es, ¬ Under serial e) →
    c.resolve serial = .unresolved serial ∧ c'.resolve serial = .unresolved serial
  recorded : (∃ e ∈ es, Under serial e) →
    Recorded es serial (c.resolve serial) ∧ Recorded es serial (c'.resolve serial)
  same : (∀ p q, Recorded es serial p → Recorded es serial q → p = q) →
    c.resolve serial = c'.resolve serial

theorem answers_ofRecords (h : es.Perm es')
    (hall : es.all readable = true) (serial : String) :
    Answers es (ofRecords es) (ofRecords es') serial := by
  have hall' : es'.all readable = true := by rwa [← h.all_eq]
  have hunknown : (∀ e ∈ es, ¬ Under serial e) →
      (ofRecords es).resolve serial = .unresolved serial ∧
        (ofRecords es').resolve serial = .unresolved serial := fun hnone =>
    ⟨resolve_of_unknown hnone, resolve_of_unknown fun e he => hnone e (h.mem_iff.mpr he)⟩
  have hrecorded : (∃ e ∈ es, Under serial e) →
      Recorded es serial ((ofRecords es).resolve serial) ∧
        Recorded es serial ((ofRecords es').resolve serial) := by
    rintro ⟨e, he, hunder⟩
    exact ⟨recorded_resolve hall ⟨e, he, hunder⟩,
      (recorded_resolve hall' ⟨e, h.mem_iff.mp he, hunder⟩).perm h.symm⟩
  refine ⟨hunknown, hrecorded, fun hsame => ?_⟩
  by_cases hunder : ∃ e ∈ es, Under serial e
  · exact hsame _ _ (hrecorded hunder).1 (hrecorded hunder).2
  · obtain ⟨hfirst, hsecond⟩ := hunknown fun e he hu => hunder ⟨e, he, hu⟩
    rw [hfirst, hsecond]

/-- **In another order** the records of a document are a catalog as well, or both are none.  What is
answered to a serial under which no record comes, or records of one product, is the same; and else
it is the product of one of the records in both. -/
theorem answers_of_perm (path : String) (f : Frame) {content content' : String}
    (h : es.Perm es') (hc : Json.parse? content = some (f.document es))
    (hc' : Json.parse? content' = some (f.document es')) :
    (∃ error, parse path content = .error error ∧ parse path content' = .error error) ∨
    ∃ c c', parse path content = .ok c ∧ parse path content' = .ok c' ∧
      (∀ serial, Answers es c c' serial) ∧
      ((es.map (·.1.map serialKey)).Nodup → c.resolve = c'.resolve) := by
  have hparse := parse_of_document path hc
  have hparse' := parse_of_document path hc'
  rw [← h.all_eq] at hparse'
  cases hall : f.proper && es.all readable with
  | false =>
    rw [hall] at hparse hparse'
    exact .inl ⟨_, hparse, hparse'⟩
  | true =>
    rw [hall] at hparse hparse'
    have hanswers := answers_ofRecords h (Bool.and_eq_true_iff.mp hall).2
    refine .inr ⟨_, _, hparse, hparse', hanswers, fun hkeys => funext fun serial => ?_⟩
    exact (hanswers serial).same fun p q => recorded_unique hkeys

def titled (title : String) : Value := .object [(some "title", .string (some title))]

/-- Records under two serials. -/
def twoSerials : String :=
  "\x7b\"results\":\x7b\"bles2 \":\x7b\"title\":\"A\"\x7d,\"NPEB1\":\x7b\"title\":\"B\"\x7d\x7d\x7d"

/-- The records of `twoSerials`, in the other order. -/
def twoSerials' : String :=
  "\x7b\"results\":\x7b\"NPEB1\":\x7b\"title\":\"B\"\x7d,\"bles2 \":\x7b\"title\":\"A\"\x7d\x7d\x7d"

/-- The answers are the same, and they are those of the records. -/
theorem answers_of_twoSerials : ∃ c c', parse "" twoSerials = .ok c ∧
    parse "" twoSerials' = .ok c' ∧ c.resolve = c'.resolve ∧
    (c.resolve "Bles2").title = some "A" ∧ (c.resolve "BLES3") = .unresolved "BLES3" := by
  have hperm := List.Perm.swap (some "NPEB1", titled "B") (some "bles2 ", titled "A") []
  have hread : Json.parse? twoSerials = some ((Frame.object [] []).document
      [(some "bles2 ", titled "A"), (some "NPEB1", titled "B")]) := by
    decide +kernel
  have hread' : Json.parse? twoSerials' = some ((Frame.object [] []).document
      [(some "NPEB1", titled "B"), (some "bles2 ", titled "A")]) := by
    decide +kernel
  have hanswers : (parse "" twoSerials).toOption.map
      (fun c => ((c.resolve "Bles2").title, c.resolve "BLES3"))
        = some (some "A", .unresolved "BLES3") := by
    decide +kernel
  rcases answers_of_perm "" (.object [] []) hperm hread hread' with
    ⟨error, hc, -⟩ | ⟨c, c', hc, hc', -, hsame⟩
  · rw [hc] at hanswers
    cases hanswers
  · rw [hc] at hanswers
    obtain ⟨htitle, hnone⟩ := Prod.mk.inj (Option.some.inj hanswers)
    exact ⟨c, c', hc, hc', hsame (by decide +kernel), htitle, hnone⟩

/-- Two keys that differ in the file and come under one serial. -/
def clashing : String :=
  "\x7b\"results\":\x7b\"abc\":\x7b\"title\":\"A\"\x7d,\"ABC\":\x7b\"title\":\"B\"\x7d\x7d\x7d"

/-- The records of `clashing`, in the other order. -/
def clashing' : String :=
  "\x7b\"results\":\x7b\"ABC\":\x7b\"title\":\"B\"\x7d,\"abc\":\x7b\"title\":\"A\"\x7d\x7d\x7d"

/-- **The order decides** between records whose keys differ in the file and come under one serial
all the same. -/
theorem order_decides : ∃ (f : Frame) (es es' : List (Option String × Value)) (c c' : Catalog),
    es.Perm es' ∧ (es.map (·.1)).Nodup ∧
    Json.parse? clashing = some (f.document es) ∧ parse "" clashing = .ok c ∧
    Json.parse? clashing' = some (f.document es') ∧ parse "" clashing' = .ok c' ∧
    (c.resolve "ABC").title = some "B" ∧ (c'.resolve "ABC").title = some "A" := by
  have hread : Json.parse? clashing = some ((Frame.object [] []).document
      [(some "abc", titled "A"), (some "ABC", titled "B")]) := by
    decide +kernel
  have hread' : Json.parse? clashing' = some ((Frame.object [] []).document
      [(some "ABC", titled "B"), (some "abc", titled "A")]) := by
    decide +kernel
  refine ⟨.object [] [], _, _, _, _, .swap (some "ABC", titled "B") (some "abc", titled "A") [],
    by decide, hread, (parse_of_document "" hread).trans (if_pos (by decide +kernel)),
    hread', (parse_of_document "" hread').trans (if_pos (by decide +kernel)), ?_, ?_⟩
  · decide +kernel
  · decide +kernel

end LogTriage.Catalog
