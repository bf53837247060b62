import LogTriage.Proofs.Discovery.Patterns
import LogTriage.Proofs.Run.Rejected
import LogTriage.Proofs.Text.Cutting

/-!
# What is found in a directory is analysed

The directory is searched by the names of its files, and an attachment is rejected by the last part
of its path.  The two names are the same, so what is found is not rejected later, and what is passed
over would have been.

* `Path.fileName_of_base`  the last part of a path;
* `ends_fileName`          an ending of the path is one of its last part;
* `Listed`                 the files under a directory, and
* `mem_scan_iff`           which of them are found;
* `discovery_agrees`       the search and the pipeline agree.
-/

namespace LogTriage
open Text (splitAt asciiLower)

/-! ## The last part of a path -/

namespace Path
variable {path dir name : String} {lead base : List Char}

/-- A name that a directory can give to a file. -/
structure IsName (name : String) : Prop where
  ne_empty : name ≠ ""
  ne_here : name ≠ "."
  ne_up : name ≠ ".."
  slash : '/' ∉ name.toList

/-- What stands before the last part of a path. -/
def IsLead (lead : List Char) : Prop := lead = [] ∨ ∃ up, lead = up ++ ['/']

theorem exists_base (cs : List Char) :
    ∃ lead base, cs = lead ++ base ∧ IsLead lead ∧ '/' ∉ base := by
  by_cases hslash : '/' ∈ cs
  · obtain ⟨back, front, hcs, hback⟩ :=
      List.eq_append_cons_of_mem (List.mem_reverse.mpr hslash)
    refine ⟨front.reverse ++ ['/'], back.reverse, ?_, .inr ⟨_, rfl⟩, by simpa using hback⟩
    rw [← List.reverse_reverse cs, hcs]
    simp
  · exact ⟨[], cs, rfl, .inl rfl, hslash⟩

theorem fileName_of_base (hlead : IsLead lead) (hname : IsName name)
    (hpath : path.toList = lead ++ name.toList) : fileName path = name := by
  obtain ⟨front, hpieces⟩ : ∃ front, pieces path = front ++ [name] := by
    rw [pieces, hpath]
    obtain rfl | ⟨up, rfl⟩ := hlead
    · exact ⟨[], by rw [List.nil_append, Text.splitAt_of_not_mem hname.slash]; simp⟩
    · refine ⟨(splitAt '/' up).map String.ofList, ?_⟩
      rw [List.append_assoc, List.singleton_append, Text.splitAt_append_cons,
        Text.splitAt_of_not_mem hname.slash, List.map_append, List.map_singleton,
        String.ofList_toList]
  have hkept : parts path = front.filter (fun part => part ≠ "" && part ≠ ".") ++ [name] := by
    rw [parts, hpieces, List.filter_append]
    simp [hname.ne_empty, hname.ne_here]
  rw [fileName, hkept, List.getLast?_concat]
  exact if_neg hname.ne_up

theorem exists_lead (dir name : String) :
    ∃ lead, IsLead lead ∧ (join dir name).toList = lead ++ name.toList := by
  unfold join
  split
  · exact ⟨[], .inl rfl, rfl⟩
  split
  · rename_i hslash
    obtain ⟨up, hup⟩ : ['/'] <:+ dir.toList := by
      have hcopy := String.Slice.endsWith_string_iff.mp hslash
      rwa [String.copy_toSlice] at hcopy
    exact ⟨dir.toList, .inr ⟨up, hup.symm⟩, String.toList_append⟩
  · refine ⟨dir.toList ++ ['/'], .inr ⟨_, rfl⟩, ?_⟩
    rw [String.toList_append, String.toList_append]
    rfl

theorem fileName_join (h : IsName name) (dir : String) : fileName (join dir name) = name := by
  obtain ⟨lead, hlead, hjoin⟩ := exists_lead dir name
  exact fileName_of_base hlead h hjoin

theorem suffix_of_lead {ending : List Char} (hslash : '/' ∉ ending) (hlead : IsLead lead)
    (h : ending <:+ (lead ++ base).map asciiLower) : ending <:+ base.map asciiLower := by
  obtain rfl | ⟨up, rfl⟩ := hlead
  · exact h
  · have hlast : '/' :: base.map asciiLower <:+ (up ++ ['/'] ++ base).map asciiLower := by
      rw [List.append_assoc, List.map_append]
      exact List.suffix_append _ _
    -- both are ends of the path; an ending without a slash does not reach the last one
    rcases List.suffix_or_suffix_of_suffix h hlast with hshort | hlong
    · rcases List.suffix_cons_iff.mp hshort with rfl | hshort
      · exact absurd List.mem_cons_self hslash
      · exact hshort
    · exact absurd (hlong.subset List.mem_cons_self) hslash

/-- **An ending of a path** is one of its last part, if it is long enough to be told from the
names of directories. -/
theorem ends_fileName {ending : String} (hslash : '/' ∉ ending.toList)
    (hlong : 3 ≤ ending.toList.length) (h : EndsIn path ending) :
    EndsIn (fileName path) ending := by
  obtain ⟨lead, base, hpath, hlead, hbase⟩ := exists_base path.toList
  have hends : ending.toList <:+ base.map asciiLower := by
    rw [EndsIn, hpath] at h
    exact suffix_of_lead hslash hlead h
  have hlength : 3 ≤ base.length := by
    have hle := hends.length_le
    rw [List.length_map] at hle
    exact hlong.trans hle
  have hne : ∀ short : List Char, short.length < 3 → String.ofList base ≠ String.ofList short := by
    intro short hshort heq
    obtain rfl := String.ofList_injective heq
    exact absurd hshort (Nat.not_lt.mpr hlength)
  have hname : IsName (String.ofList base) :=
    ⟨hne [] (by decide), hne ['.'] (by decide), hne ['.', '.'] (by decide), by
      rwa [String.toList_ofList]⟩
  rw [fileName_of_base hlead hname (by rw [String.toList_ofList, hpath]), EndsIn,
    String.toList_ofList]
  exact hends

end Path

/-! ## What is found -/

namespace Discovery
variable {fs : Files Id} {depth : Nat} {dir path name : String}

theorem isSome_ofFileName?_fileName (h : (Encoding.ofFileName? path).isSome = true) :
    (Encoding.ofFileName? (Path.fileName path)).isSome = true := by
  rw [Encoding.isSome_ofFileName?_iff] at h ⊢
  obtain h | h | h := h
  · exact .inl (Path.ends_fileName (by decide) (by decide) h)
  · exact .inr (.inl (Path.ends_fileName (by decide) (by decide) h))
  · exact .inr (.inr (Path.ends_fileName (by decide) (by decide) h))

theorem isSome_ofFileName?_join (h : (Encoding.ofFileName? name).isSome = true) (dir : String) :
    (Encoding.ofFileName? (Path.join dir name)).isSome = true := by
  obtain ⟨lead, -, hjoin⟩ := Path.exists_lead dir name
  have hends : ∀ ending, EndsIn name ending → EndsIn (Path.join dir name) ending := by
    intro ending hending
    rw [EndsIn, hjoin, List.map_append]
    exact hending.trans (List.suffix_append _ _)
  rw [Encoding.isSome_ofFileName?_iff] at h ⊢
  exact h.imp (hends _) (Or.imp (hends _) (hends _))

/-- The files under a directory, down to `depth` levels, with their names. -/
inductive Listed (fs : Files Id) : Nat → String → String → String → Prop where
  | here {depth : Nat} {dir name : String} {names : List String} (hlist : fs.list dir = .ok names)
      (hname : name ∈ names) (hkind : fs.kind? (Path.join dir name) ≠ some .directory) :
    Listed fs (depth + 1) dir (Path.join dir name) name
  | inside {depth : Nat} {dir path name sub : String} {names : List String}
      (hlist : fs.list dir = .ok names) (hsub : sub ∈ names)
      (hkind : fs.kind? (Path.join dir sub) = some .directory)
      (h : Listed fs depth (Path.join dir sub) path name) : Listed fs (depth + 1) dir path name

theorem mem_foldl_append (ds : List Discovery) (d : Discovery) :
    path ∈ (ds.foldl append d).files ↔ path ∈ d.files ∨ ∃ e ∈ ds, path ∈ e.files := by
  induction ds generalizing d with
  | nil => simp
  | cons e ds ih =>
    rw [List.foldl_cons, ih, append, List.mem_append, List.exists_mem_cons_iff, or_assoc]

theorem mem_join_files (ds : List Discovery) :
    path ∈ (join ds).files ↔ ∃ d ∈ ds, path ∈ d.files := by
  rw [join, mem_foldl_append]
  exact or_iff_right List.not_mem_nil

def entry (fs : Files Id) (depth : Nat) (dir name : String) : Discovery :=
  match fs.kind? (Path.join dir name) with
  | some .directory => scan fs depth (Path.join dir name)
  | _ => { files := if accepts name then [Path.join dir name] else [] }

theorem mem_entry_iff {sub : String} : path ∈ (entry fs depth dir sub).files ↔
    (fs.kind? (Path.join dir sub) = some .directory ∧
        path ∈ (scan fs depth (Path.join dir sub)).files) ∨
      fs.kind? (Path.join dir sub) ≠ some .directory ∧ path = Path.join dir sub ∧
        accepts sub = true := by
  unfold entry
  split
  · rename_i hkind
    exact ⟨fun h => .inl ⟨hkind, h⟩, fun h => h.elim (·.2) fun h => absurd hkind h.1⟩
  · rename_i hkind
    constructor
    · intro h
      dsimp only at h
      split at h
      · rename_i haccepts
        exact .inr ⟨hkind, List.mem_singleton.mp h, haccepts⟩
      · cases h
    · rintro (⟨hdirectory, -⟩ | ⟨-, rfl, haccepts⟩)
      · exact absurd hdirectory hkind
      · rw [haccepts]
        exact List.mem_singleton_self _

theorem scan_of_list {names : List String} (h : fs.list dir = .ok names) :
    scan fs (depth + 1) dir = join (names.mergeSort.map (entry fs depth dir)) := by
  unfold scan
  simp only [bind, pure]
  rw [h]
  exact congrArg join List.idRun_mapM

theorem scan_of_error {cause : String} (h : fs.list dir = .error cause) :
    (scan fs (depth + 1) dir).files = [] := by
  unfold scan
  simp only [bind, pure]
  rw [h]

theorem mem_scan_of_list {names : List String} (h : fs.list dir = .ok names) :
    path ∈ (scan fs (depth + 1) dir).files ↔
      ∃ sub ∈ names, path ∈ (entry fs depth dir sub).files := by
  rw [scan_of_list h, mem_join_files]
  constructor
  · rintro ⟨d, hd, hpath⟩
    obtain ⟨sub, hsub, rfl⟩ := List.mem_map.mp hd
    exact ⟨sub, List.mem_mergeSort.mp hsub, hpath⟩
  · rintro ⟨sub, hsub, hpath⟩
    exact ⟨_, List.mem_map_of_mem (List.mem_mergeSort.mpr hsub), hpath⟩

/-- **What is found**: of the files under a directory those with accepted names. -/
theorem mem_scan_iff : path ∈ (scan fs depth dir).files ↔
    ∃ name, Listed fs depth dir path name ∧ accepts name = true := by
  constructor
  · intro h
    induction depth generalizing dir with
    | zero => exact absurd h List.not_mem_nil
    | succ depth ih =>
      cases hlist : fs.list dir with
      | error cause =>
        rw [scan_of_error hlist] at h
        exact absurd h List.not_mem_nil
      | ok names =>
        obtain ⟨sub, hsub, hentry⟩ := (mem_scan_of_list hlist).mp h
        rcases mem_entry_iff.mp hentry with ⟨hkind, hscan⟩ | ⟨hkind, rfl, haccepts⟩
        · obtain ⟨name, hlisted, haccepts⟩ := ih hscan
          exact ⟨name, .inside hlist hsub hkind hlisted, haccepts⟩
        · exact ⟨sub, .here hlist hsub hkind, haccepts⟩
  · rintro ⟨name, hlisted, haccepts⟩
    induction hlisted with
    | here hlist hname hkind =>
      exact (mem_scan_of_list hlist).mpr
        ⟨_, hname, mem_entry_iff.mpr (.inr ⟨hkind, rfl, haccepts⟩)⟩
    | inside hlist hsub hkind _ ih =>
      exact (mem_scan_of_list hlist).mpr
        ⟨_, hsub, mem_entry_iff.mpr (.inl ⟨hkind, ih haccepts⟩)⟩

/-! ## What becomes of it -/

theorem Listed.exists_join (h : Listed fs depth dir path name) :
    ∃ up, path = Path.join up name := by
  induction h with
  | here => exact ⟨_, rfl⟩
  | inside _ _ _ _ ih => exact ih

/-- **The search and the pipeline agree.**  A name that one of the patterns stands for is accepted,
and these are exactly the names that tell an encoding.  So what is found under a directory is never
rejected for its name, whatever its bytes are, and what is passed over under a proper name would
have been. -/
theorem discovery_agrees (fs : Files Id) (depth : Nat) (dir : String) :
    (∀ name, (accepts name = true ↔
        ∃ pattern ∈ acceptedPatterns, Glob.Matches (.ofString pattern) name.toList) ∧
      accepts name = (Encoding.ofFileName? name).isSome) ∧
    (∀ path, path ∈ (scan fs depth dir).files ↔
      ∃ name, Listed fs depth dir path name ∧ (Encoding.ofFileName? name).isSome = true) ∧
    (∀ path ∈ (scan fs depth dir).files, ∀ (a : Analyzer) opened name,
      a.run (Attachment.ofPath fs path) opened
        ≠ .error (.stream (.unrecognizedAttachment name))) ∧
    ∀ path name, Listed fs depth dir path name → Path.IsName name →
      path ∉ (scan fs depth dir).files → ∀ (a : Analyzer) opened,
        a.run (Attachment.ofPath fs path) opened
          = .error (.stream (.unrecognizedAttachment name)) := by
  refine ⟨fun name => ⟨accepts_iff_matches name, accepts_eq name⟩, fun path => ?_,
    fun path hfound a opened name => ?_, fun path name hlisted hname hmissed a opened => ?_⟩
  · simp only [mem_scan_iff, accepts_eq]
  · rw [ne_eq, Analyzer.run_unrecognized_iff]
    rintro ⟨hnone, -⟩
    obtain ⟨name, hlisted, haccepts⟩ := mem_scan_iff.mp hfound
    obtain ⟨up, rfl⟩ := hlisted.exists_join
    rw [accepts_eq] at haccepts
    have hsome := isSome_ofFileName?_fileName (isSome_ofFileName?_join haccepts up)
    rw [Option.isSome_iff_ne_none] at hsome
    exact hsome hnone
  · rw [Analyzer.run_unrecognized_iff]
    obtain ⟨up, hup⟩ := hlisted.exists_join
    have hlast : (Attachment.ofPath fs path).fileName = name := by
      rw [hup]
      exact Path.fileName_join hname up
    refine ⟨?_, hlast.symm⟩
    rw [Attachment.encoding?, hlast, ← Option.not_isSome_iff_eq_none, ← accepts_eq]
    exact fun haccepts => hmissed (mem_scan_iff.mpr ⟨name, hlisted, haccepts⟩)

end Discovery

end LogTriage
