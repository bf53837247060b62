import Mathlib.Data.List.DropRight
import Mathlib.Data.List.Forall2
import LogTriage.Phase.Library
import LogTriage.Proofs.Phase.Validation

/-!
# Which tables are at hand

The user's tables are installed one after the other, over the built-in ones.  Each identifier keeps
the place where it came first, and stands for the table that came last.  A file comes to one table
or to one error; what else stands in the directory comes to nothing.

* `ids_install`, `find?_install`  installing one table;
* `fileOutcome_readTable`  what a file comes to;
* `exists_dirOutcomes`     what the directory comes to;
* `load_tables`            the tables, the errors, and the table that is selected.
-/

namespace LogTriage

namespace PhaseTable
variable {tables : List PhaseTable} {table : PhaseTable} {id : String}

/-! ## Installing -/

theorem ids_install (tables : List PhaseTable) (table : PhaseTable) :
    (install tables table).map (·.id) = if table.id ∈ tables.map (·.id) then tables.map (·.id)
      else tables.map (·.id) ++ [table.id] := by
  induction tables with
  | nil => rfl
  | cons t ts ih =>
    rw [install, List.map_cons]
    by_cases h : t.id = table.id
    · rw [if_pos h, if_pos (by rw [h]; exact List.mem_cons_self), List.map_cons, h]
    · have hmem : table.id ∈ t.id :: ts.map (·.id) ↔ table.id ∈ ts.map (·.id) := by
        rw [List.mem_cons, or_iff_right (Ne.symm h)]
      rw [if_neg h, List.map_cons, ih]
      simp only [hmem]
      split <;> rfl

theorem find?_cons_id (t : PhaseTable) (ts : List PhaseTable) (id : String) :
    (t :: ts).find? (·.id == id) = if t.id = id then some t else ts.find? (·.id == id) := by
  rw [List.find?_cons]
  by_cases h : t.id = id
  · rw [if_pos h, beq_iff_eq.mpr h]
  · rw [if_neg h, beq_eq_false_iff_ne.mpr h]

theorem find?_install (tables : List PhaseTable) (table : PhaseTable) (id : String) :
    (install tables table).find? (·.id == id)
      = if table.id = id then some table else tables.find? (·.id == id) := by
  induction tables with
  | nil => exact find?_cons_id table [] id
  | cons t ts ih =>
    rw [install, find?_cons_id]
    by_cases ht : t.id = table.id
    · rw [if_pos ht, find?_cons_id, ht]
      split <;> rfl
    · rw [if_neg ht, find?_cons_id, ih]
      by_cases h : t.id = id
      · have hne : table.id ≠ id := fun heq => ht (h.trans heq.symm)
        rw [if_pos h, if_pos h, if_neg hne]
      · rw [if_neg h, if_neg h]

theorem nodup_install (h : (tables.map (·.id)).Nodup) (table : PhaseTable) :
    ((install tables table).map (·.id)).Nodup := by
  rw [ids_install]
  split
  · exact h
  · rename_i hnew
    refine List.nodup_append.mpr ⟨h, by simp, ?_⟩
    intro a ha b hb
    rw [List.mem_singleton.mp hb]
    rintro rfl
    exact hnew ha

theorem nodup_foldl_install (h : (tables.map (·.id)).Nodup) (valid : List PhaseTable) :
    ((valid.foldl install tables).map (·.id)).Nodup := by
  induction valid generalizing tables with
  | nil => exact h
  | cons t valid ih => exact ih (nodup_install h t)

theorem eraseDups_of_nodup {ids : List String} (h : ids.Nodup) : ids.eraseDups = ids := by
  induction ids with
  | nil => rfl
  | cons a ids ih =>
    obtain ⟨ha, hids⟩ := List.nodup_cons.mp h
    have hall : ∀ b ∈ ids, (!b == a) = true := by
      intro b hb
      have hne : b ≠ a := fun heq => ha (heq ▸ hb)
      simpa using hne
    rw [List.eraseDups_cons, List.filter_eq_self.mpr hall, ih hids]

/-- **An identifier keeps the place where it came first.** -/
theorem ids_foldl_install (h : (tables.map (·.id)).Nodup) (valid : List PhaseTable) :
    (valid.foldl install tables).map (·.id) = ((tables ++ valid).map (·.id)).eraseDups := by
  -- on the tables that are installed, over any tables without repeats
  induction valid generalizing tables with
  | nil => rw [List.append_nil, eraseDups_of_nodup h, List.foldl_nil]
  | cons t valid ih =>
    rw [List.foldl_cons, ih (nodup_install h t), List.map_append, List.map_append, List.map_cons,
      ids_install]
    split
    · rename_i hmem
      rw [List.eraseDups_append, List.eraseDups_append, List.cons_removeAll, if_neg]
      simpa using hmem
    · rw [List.append_assoc, List.singleton_append]

/-- The table that an identifier stands for: the last one of the user, or else a built-in one. -/
def standing (valid : List PhaseTable) (id : String) : Option PhaseTable :=
  (valid.findRev? (·.id == id)).or (builtins.find? (·.id == id))

/-- **An identifier stands for the table that came last.** -/
theorem find?_foldl_install (tables valid : List PhaseTable) (id : String) :
    (valid.foldl install tables).find? (·.id == id)
      = (valid.findRev? (·.id == id)).or (tables.find? (·.id == id)) := by
  rw [List.findRev?_eq_find?_reverse]
  induction valid generalizing tables with
  | nil => rfl
  | cons t valid ih =>
    rw [List.foldl_cons, ih, find?_install, List.reverse_cons, List.find?_append, Option.or_assoc,
      find?_cons_id]
    split <;> rfl

theorem find?_of_mem (h : (tables.map (·.id)).Nodup) (ht : table ∈ tables) :
    tables.find? (·.id == table.id) = some table := by
  induction tables with
  | nil => cases ht
  | cons t ts ih =>
    obtain ⟨hnew, hts⟩ := List.nodup_cons.mp h
    rw [find?_cons_id]
    rcases List.mem_cons.mp ht with rfl | ht
    · rw [if_pos rfl]
    · have hne : t.id ≠ table.id := by
        intro heq
        exact hnew (List.mem_map.mpr ⟨table, ht, heq.symm⟩)
      rw [if_neg hne, ih hts ht]

theorem select_eq (h : (tables.map (·.id)).Nodup) (id : String) :
    (∀ table ∈ tables, table.id = id → select tables id = .ok table) ∧
      (id ∉ tables.map (·.id) → select tables id = .error (.unknownTable id)) := by
  constructor
  · rintro table ht rfl
    rw [select, find?_of_mem h ht]
  · intro hid
    have hnone : tables.find? (·.id == id) = none := by
      rw [List.find?_eq_none]
      intro t ht heq
      exact hid (List.mem_map.mpr ⟨t, ht, beq_iff_eq.mp heq⟩)
    rw [select, hnone]

end PhaseTable

/-! ## Names of files -/

namespace Path
variable {name ext : String} {stem tail : List Char}

theorem extension?_of_not_mem (h : '.' ∉ name.toList) : extension? name = none := by
  have htail : (name.toList.reverse.takeWhile (· ≠ '.')).reverse = name.toList := by
    refine List.rtakeWhile_eq_self_iff.mpr fun c hc => ?_
    rw [decide_eq_true_iff]
    rintro rfl
    exact h hc
  rw [extension?, htail]
  simp

theorem extension?_of_dot (h : name.toList = stem ++ '.' :: tail) (ht : '.' ∉ tail) :
    extension? name = if stem = [] then none else some (String.ofList tail) := by
  have htail : (name.toList.reverse.takeWhile (· ≠ '.')).reverse = tail := by
    have hall : ∀ c ∈ tail.reverse, decide (c ≠ '.') = true := by
      intro c hc
      rw [decide_eq_true_iff]
      rintro rfl
      exact ht (List.mem_reverse.mp hc)
    rw [h, List.reverse_append, List.reverse_cons, List.append_assoc,
      List.takeWhile_append_of_pos hall, List.singleton_append,
      List.takeWhile_cons_of_neg (by simp), List.append_nil, List.reverse_reverse]
  have hlength : name.toList.length = stem.length + 1 + tail.length := by
    rw [h, List.length_append, List.length_cons]
    omega
  have hstem : name.toList.take (name.toList.length - tail.length - 1) = stem := by
    rw [hlength, Nat.add_sub_cancel, Nat.add_sub_cancel, h, List.take_left]
  rw [extension?, htail, hstem, decide_eq_false (by omega), Bool.false_or]
  simp only [List.isEmpty_iff]

/-- **The extension** is what follows the last dot, if something stands before it. -/
theorem extension?_eq_some_iff : extension? name = some ext ↔
    ∃ stem, stem ≠ "" ∧ '.' ∉ ext.toList ∧ name = stem ++ "." ++ ext := by
  constructor
  · intro h
    by_cases hdot : '.' ∈ name.toList
    · obtain ⟨tail, stem, hsplit, htail⟩ :=
        List.eq_append_cons_of_mem (List.mem_reverse.mpr hdot)
      have hname : name.toList = stem.reverse ++ '.' :: tail.reverse := by
        rw [← List.reverse_reverse name.toList, hsplit, List.reverse_append, List.reverse_cons,
          List.append_assoc, List.singleton_append]
      rw [extension?_of_dot hname (by simpa using htail)] at h
      split at h
      · cases h
      · rename_i hne
        cases h
        refine ⟨String.ofList stem.reverse, ?_, ?_, ?_⟩
        · rwa [ne_eq, String.ofList_eq_empty_iff]
        · simpa using htail
        · rw [← String.toList_inj, hname]
          simp
    · rw [extension?_of_not_mem hdot] at h
      cases h
  · rintro ⟨stem, hne, hdot, rfl⟩
    have hname : (stem ++ "." ++ ext).toList = stem.toList ++ '.' :: ext.toList := by
      simp
    rw [extension?_of_dot hname hdot, if_neg (by simpa using hne), String.ofList_toList]

end Path

theorem TableLibrary.isTableName_iff {name : String} :
    isTableName name = true ↔ ∃ stem, stem ≠ "" ∧ name = stem ++ ".toml" := by
  rw [isTableName, beq_iff_eq, Path.extension?_eq_some_iff]
  refine exists_congr fun stem => and_congr_right fun _ => ?_
  rw [String.append_assoc]
  exact and_iff_right (by decide)

/-! ## Files -/

theorem PhaseTable.nodup_builtins : (builtins.map (·.id)).Nodup := by
  have hsub : ∀ ds : List TableDefinition,
      ((ds.filterMap fun d => (d.validate true).toOption).map (·.id)).Sublist
        (ds.map (Text.trimmed ·.id)) := by
    intro ds
    induction ds with
    | nil => exact List.Sublist.slnil
    | cons d ds ih =>
      rw [List.filterMap_cons, List.map_cons]
      cases hv : d.validate true with
      | error e => exact ih.cons _
      | ok table =>
        rw [← (TableDefinition.describes_of_validate hv).id]
        exact ih.cons_cons _
  refine List.Nodup.sublist (hsub BuiltinTables.definitions) ?_
  decide

namespace TableLibrary
variable {fs : Files Id} {dir path : String}

def statedSize (fs : Files Id) (path : String) : Nat :=
  match fs.kind? path with
  | some (.file size) => size
  | _ => 0

/-- What a file comes to: its table, or why there is none. -/
inductive FileOutcome (fs : Files Id) (path : String) : Except TableError PhaseTable → Prop where
  | tooLarge (hs : PhaseTable.maxFileSize < statedSize fs path) :
      FileOutcome fs path (.error (.fileTooLarge path (statedSize fs path) PhaseTable.maxFileSize))
  | unreadable {cause : String} (hs : statedSize fs path ≤ PhaseTable.maxFileSize)
      (hr : fs.read path = .error cause) : FileOutcome fs path (.error (.io path cause))
  | notText {bytes : Bytes} (hs : statedSize fs path ≤ PhaseTable.maxFileSize)
      (hr : fs.read path = .ok bytes) (ht : Text.ofUtf8? bytes = none) :
      FileOutcome fs path (.error (.io path Files.notText))
  | noDefinition {bytes : Bytes} {text : String} {error : TableError}
      (hs : statedSize fs path ≤ PhaseTable.maxFileSize) (hr : fs.read path = .ok bytes)
      (ht : Text.ofUtf8? bytes = some text) (hp : TableDefinition.parse path text = .error error) :
      FileOutcome fs path (.error error)
  | invalid {bytes : Bytes} {text : String} {d : TableDefinition} {error : TableError}
      (hs : statedSize fs path ≤ PhaseTable.maxFileSize) (hr : fs.read path = .ok bytes)
      (ht : Text.ofUtf8? bytes = some text) (hp : TableDefinition.parse path text = .ok d)
      (hv : d.validate false = .error error) : FileOutcome fs path (.error error)
  | valid {bytes : Bytes} {text : String} {d : TableDefinition} {table : PhaseTable}
      (hs : statedSize fs path ≤ PhaseTable.maxFileSize) (hr : fs.read path = .ok bytes)
      (ht : Text.ofUtf8? bytes = some text) (hp : TableDefinition.parse path text = .ok d)
      (hv : d.validate false = .ok table) (hid : table.id = Text.trimmed d.id) :
      FileOutcome fs path (.ok table)

theorem readBounded_eq (fs : Files Id) (path : String) (limit : Nat) : fs.readBounded limit path
    = if limit < statedSize fs path then .error (.tooLarge (statedSize fs path))
      else match (fs.readText path : Except String String) with
        | .ok text => .ok text
        | .error cause => .error (.unreadable cause) := rfl

theorem readTable_eq (fs : Files Id) (path : String) : readTable fs path
    = match (fs.readBounded PhaseTable.maxFileSize path : Except Files.BoundedError String) with
      | .error (.tooLarge size) => .error (.fileTooLarge path size PhaseTable.maxFileSize)
      | .error (.unreadable cause) => .error (.io path cause)
      | .ok text => PhaseTable.parse path text false := rfl

theorem readText_eq (fs : Files Id) (path : String) : fs.readText path
    = match (fs.read path : Except String Bytes) with
      | .error cause => .error cause
      | .ok bytes => match Text.ofUtf8? bytes with
        | some text => .ok text
        | none => .error Files.notText := rfl

/-- **A file comes to its table, or to why there is none.** -/
theorem fileOutcome_readTable (fs : Files Id) (path : String) :
    FileOutcome fs path (readTable fs path) := by
  rw [readTable_eq, readBounded_eq]
  by_cases hs : PhaseTable.maxFileSize < statedSize fs path
  · rw [if_pos hs]
    exact .tooLarge hs
  rw [if_neg hs, readText_eq]
  have hs := Nat.le_of_not_lt hs
  cases hr : (fs.read path : Except String Bytes) with
  | error cause => exact .unreadable hs hr
  | ok bytes =>
    dsimp only
    cases ht : Text.ofUtf8? bytes with
    | none => exact .notText hs hr ht
    | some text =>
      dsimp only
      simp only [PhaseTable.parse, bind, Except.bind]
      cases hp : TableDefinition.parse path text with
      | error error => exact .noDefinition hs hr ht hp
      | ok d =>
        dsimp only
        cases hv : d.validate false with
        | error error => exact .invalid hs hr ht hp hv
        | ok table => exact .valid hs hr ht hp hv (TableDefinition.describes_of_validate hv).id

/-- What the user's directory comes to: one outcome for each file of a table, in the order of the
names, and nothing for anything else. -/
inductive DirOutcomes (fs : Files Id) : Option String → List (Except TableError PhaseTable) → Prop
    where
  | noDir : DirOutcomes fs none []
  | notDirectory {dir : String} (hk : fs.kind? dir ≠ some .directory) :
      DirOutcomes fs (some dir) []
  | unlisted {dir cause : String} (hk : fs.kind? dir = some .directory)
      (hl : fs.list dir = .error cause) : DirOutcomes fs (some dir) [.error (.io dir cause)]
  | listed {dir : String} {entries names : List String}
      {outcomes : List (Except TableError PhaseTable)} (hk : fs.kind? dir = some .directory)
      (hl : fs.list dir = .ok entries) (hp : names.Perm (entries.filter isTableName))
      (hn : ∀ name, name ∈ names ↔
        name ∈ entries ∧ ∃ stem, stem ≠ "" ∧ name = stem ++ ".toml")
      (hs : names.Pairwise (· ≤ ·))
      (ho : List.Forall₂ (fun name => FileOutcome fs (Path.join dir name)) names outcomes) :
      DirOutcomes fs (some dir) outcomes

theorem dirOutcomes_readTables (hk : fs.kind? dir = some .directory) :
    DirOutcomes fs (some dir) (readTables fs dir) := by
  cases hl : (fs.list dir : Except String (List String)) with
  | error cause =>
    have he : readTables fs dir = [.error (.io dir cause)] := by
      simp only [readTables, bind, pure, hl]
    rw [he]
    exact .unlisted hk hl
  | ok entries =>
    have he : readTables fs dir = (entries.filter isTableName).mergeSort.map
        fun name => readTable fs (Path.join dir name) := by
      simp only [readTables, bind, hl]
      exact List.idRun_mapM
    have hs : (entries.filter isTableName).mergeSort.Pairwise (· ≤ ·) := by
      have htrans : ∀ a b c : String, decide (a ≤ b) = true → decide (b ≤ c) = true →
          decide (a ≤ c) = true := by
        simp only [decide_eq_true_eq]
        exact fun a b c => String.le_trans
      have htotal : ∀ a b : String, (decide (a ≤ b) || decide (b ≤ a)) = true := by
        simpa only [Bool.or_eq_true, decide_eq_true_eq] using String.le_total
      have hle := List.pairwise_mergeSort htrans htotal (entries.filter isTableName)
      simpa only [decide_eq_true_eq] using hle
    rw [he]
    refine .listed hk hl (List.mergeSort_perm _ _) (fun name => ?_) hs ?_
    · rw [List.mem_mergeSort, List.mem_filter, isTableName_iff]
    · rw [List.forall₂_map_right_iff, List.forall₂_same]
      exact fun name _ => fileOutcome_readTable fs (Path.join dir name)

theorem exists_dirOutcomes (fs : Files Id) (dir : Option String) : ∃ outcomes,
    DirOutcomes fs dir outcomes ∧ load fs dir = (ofOutcomes PhaseTable.builtins outcomes).cut := by
  cases dir with
  | none => exact ⟨[], .noDir, rfl⟩
  | some dir =>
    by_cases hk : fs.kind? dir = some .directory
    · refine ⟨_, dirOutcomes_readTables hk, ?_⟩
      simp only [load, bind, pure, hk]
    · refine ⟨[], .notDirectory hk, ?_⟩
      simp only [load, bind, pure]

/-! ## The library -/

def error? : Except TableError PhaseTable → Option TableError
  | .ok _ => none
  | .error error => some error

theorem tables_cut (l : TableLibrary) : l.cut.tables = l.tables.take PhaseTable.maxTables := by
  rw [cut]
  split
  · rename_i hle
    rw [List.take_of_length_le hle]
  · rfl

theorem errors_cut (l : TableLibrary) : l.cut.errors = l.errors
    ++ if PhaseTable.maxTables < l.tables.length then
        [.tooManyTables l.tables.length PhaseTable.maxTables] else [] := by
  rw [cut]
  split
  · rename_i hle
    rw [if_neg (Nat.not_lt.mpr hle), List.append_nil]
  · rename_i hlt
    rw [if_pos (Nat.lt_of_not_le hlt)]

section outcomes
variable (outcomes : List (Except TableError PhaseTable))

theorem ids_ofOutcomes : (ofOutcomes PhaseTable.builtins outcomes).tables.map (·.id)
    = ((PhaseTable.builtins ++ outcomes.filterMap Except.toOption).map (·.id)).eraseDups :=
  PhaseTable.ids_foldl_install PhaseTable.nodup_builtins _

theorem nodup_ofOutcomes : ((ofOutcomes PhaseTable.builtins outcomes).tables.map (·.id)).Nodup :=
  PhaseTable.nodup_foldl_install PhaseTable.nodup_builtins _

theorem standing_ofOutcomes {table : PhaseTable}
    (ht : table ∈ (ofOutcomes PhaseTable.builtins outcomes).tables) :
    PhaseTable.standing (outcomes.filterMap Except.toOption) table.id = some table := by
  rw [PhaseTable.standing, ← PhaseTable.find?_foldl_install]
  exact PhaseTable.find?_of_mem (nodup_ofOutcomes outcomes) ht

theorem errors_ofOutcomes (tables : List PhaseTable) :
    (ofOutcomes tables outcomes).errors = outcomes.filterMap error? := by
  rfl

end outcomes

/-- **The tables that are loaded**, what went wrong, and the table that is selected. Each identifier
stands where it comes first, with the last table of the user under it, or else a built-in one. -/
theorem load_tables (fs : Files Id) (dir : Option String) : ∃ outcomes,
    DirOutcomes fs dir outcomes ∧
    let l : TableLibrary := load fs dir
    let valid := outcomes.filterMap Except.toOption
    let ids := ((PhaseTable.builtins ++ valid).map (·.id)).eraseDups
    l.tables.map (·.id) = ids.take 32 ∧ (l.tables.map (·.id)).Nodup ∧ l.tables.length ≤ 32 ∧
    (∀ table ∈ l.tables, PhaseTable.standing valid table.id = some table) ∧
    l.errors = outcomes.filterMap error?
      ++ (if 32 < ids.length then [.tooManyTables ids.length 32] else []) ∧
    (∀ table ∈ l.tables, PhaseTable.select l.tables table.id = .ok table) ∧
    ∀ id, id ∉ ids.take 32 → PhaseTable.select l.tables id = .error (.unknownTable id) := by
  obtain ⟨outcomes, hdir, hload⟩ := exists_dirOutcomes fs dir
  refine ⟨outcomes, hdir, ?_⟩
  intro l valid ids
  have hl : l = (ofOutcomes PhaseTable.builtins outcomes).cut := hload
  have hall : (ofOutcomes PhaseTable.builtins outcomes).tables.map (·.id) = ids :=
    ids_ofOutcomes outcomes
  have hlen : (ofOutcomes PhaseTable.builtins outcomes).tables.length = ids.length := by
    rw [← hall, List.length_map]
  have htables : l.tables = (ofOutcomes PhaseTable.builtins outcomes).tables.take 32 := by
    rw [hl, tables_cut]
    rfl
  have hids : l.tables.map (·.id) = ids.take 32 := by
    rw [htables, List.map_take, hall]
  have hdistinct : (l.tables.map (·.id)).Nodup := by
    rw [htables, List.map_take]
    exact (nodup_ofOutcomes outcomes).sublist (List.take_sublist _ _)
  refine ⟨hids, hdistinct, ?_, ?_, ?_, ?_, ?_⟩
  · rw [htables]
    exact List.length_take_le _ _
  · intro table ht
    rw [htables] at ht
    exact standing_ofOutcomes outcomes (List.mem_of_mem_take ht)
  · rw [hl, errors_cut, errors_ofOutcomes, hlen]
    rfl
  · intro table ht
    exact (PhaseTable.select_eq hdistinct table.id).1 table ht rfl
  · intro id hid
    rw [← hids] at hid
    exact (PhaseTable.select_eq hdistinct id).2 hid

end TableLibrary

end LogTriage
