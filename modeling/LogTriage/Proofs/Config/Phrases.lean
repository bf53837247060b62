import LogTriage.Files.Tree
import LogTriage.Proofs.Phase.Library
import LogTriage.Proofs.Text.Trimmed
import LogTriage.SharedAnalyzer

/-!
# Banned phrases are replaced as a whole

The phrases come from the settings and from a file.  When the file cannot be used, the list that
stands in the store stays; otherwise the new list takes its place, for all analyzers that hold the
handle at once.  No phrase of it is blank.

* `readBannedPhrases_cases`  the file cannot be used, or its lines are the phrases;
* `bannedPhraseList_cases`   the same for all phrases of the settings;
* `reload_whole`             so a list is replaced as a whole or not at all.
-/

namespace LogTriage

/-! ## Files -/

/-- What can be read is a file, and of the size that is told. -/
def Files.Coherent (fs : Files Id) : Prop :=
  ∀ path bytes, fs.read path = .ok bytes → fs.kind? path = some (.file bytes.length)

theorem FileTree.coherent_files (root : FileTree) : root.files.Coherent := by
  intro path bytes hr
  cases hfind : root.find path with
  | error cause => simp [files, hfind] at hr
  | ok node =>
    cases node with
    | directory entries => simp [files, hfind] at hr
    | file content =>
      simp only [files, hfind] at hr
      cases hr
      simp [files, hfind]

namespace Config
variable {fs : Files Id} {path : String}

inductive Unusable (fs : Files Id) (path : String) : Prop where
  | unreadable {cause : String} (hr : fs.read path = .error cause)
  | notText {bytes : Bytes} (hr : fs.read path = .ok bytes) (ht : Text.ofUtf8? bytes = none)
  | tooLarge {bytes : Bytes} (hr : fs.read path = .ok bytes) (hs : 1024 * 1024 < bytes.length)

/-- The lines of the file that the settings name; there are none if they name none. -/
inductive FileLines (fs : Files Id) : Option String → List String → Prop where
  | unset : FileLines fs none []
  | read {path text : String} {bytes : Bytes} (hr : fs.read path = .ok bytes)
      (hs : bytes.length ≤ 1024 * 1024) (ht : Text.ofUtf8? bytes = some text) :
    FileLines fs (some path) ((Text.lines text.toList).map String.ofList)

/-- The phrases in some lines: blank lines and comments aside, without white space around them. -/
def phrasesIn (lines : List String) : List String :=
  (lines.map Text.trimmed).filter fun line => line ≠ "" ∧ line.toList.head? ≠ some '#'

theorem listed_eq (text : String) :
    BannedPhrases.listed text = phrasesIn ((Text.lines text.toList).map String.ofList) := by
  rw [BannedPhrases.listed]
  induction Text.lines text.toList with
  | nil => rfl
  | cons line lines ih =>
    have htrimmed : Text.trimmed (String.ofList line) = String.ofList (Text.trim line) := by
      rw [Text.trimmed, String.toList_ofList]
    rw [List.map_cons, List.filterMap_cons, ih, phrasesIn, phrasesIn, List.map_cons, List.map_cons,
      List.filter_cons, htrimmed, String.toList_ofList]
    by_cases hskip : Text.trim line = [] ∨ (Text.trim line).head? = some '#'
    · rcases hskip with hskip | hskip <;> simp [hskip]
    · obtain ⟨hnil, hmark⟩ := not_or.mp hskip
      simp [hnil, hmark]

theorem readBannedPhrases_eq (fs : Files Id) (path : String) : readBannedPhrases fs path
    = match (fs.readBounded maxBannedFile path : Except Files.BoundedError String) with
      | .ok text => .ok (BannedPhrases.listed text)
      | .error (.tooLarge size) => .error (.valueOutOfRange "moderation.banned_phrases_file"
          (path ++ " (" ++ toString size ++ " bytes)")
          ("at most " ++ toString maxBannedFile ++ " bytes"))
      | .error (.unreadable cause) => .error (.io path cause) := rfl

theorem statedSize_of_read (hfs : fs.Coherent) {bytes : Bytes} (hr : fs.read path = .ok bytes) :
    TableLibrary.statedSize fs path = bytes.length := by
  rw [TableLibrary.statedSize, hfs path bytes hr]

/-- **The file cannot be used, or its lines are the phrases.** -/
theorem readBannedPhrases_cases (hfs : fs.Coherent) (path : String) :
    (Unusable fs path ∧
      ∃ e, (readBannedPhrases fs path : Except ConfigError (List String)) = .error e) ∨
    (¬ Unusable fs path ∧ ∃ lines, FileLines fs (some path) lines ∧
      readBannedPhrases fs path = .ok (phrasesIn lines)) := by
  rw [readBannedPhrases_eq, TableLibrary.readBounded_eq, TableLibrary.readText_eq]
  cases hr : (fs.read path : Except String Bytes) with
  | error cause =>
    refine .inl ⟨.unreadable hr, ?_⟩
    by_cases hs : maxBannedFile < TableLibrary.statedSize fs path
    · rw [if_pos hs]
      exact ⟨_, rfl⟩
    · rw [if_neg hs]
      exact ⟨_, rfl⟩
  | ok bytes =>
    rw [statedSize_of_read hfs hr]
    by_cases hs : maxBannedFile < bytes.length
    · rw [if_pos hs]
      exact .inl ⟨.tooLarge hr hs, _, rfl⟩
    rw [if_neg hs]
    dsimp only
    cases ht : Text.ofUtf8? bytes with
    | none => exact .inl ⟨.notText hr ht, _, rfl⟩
    | some text =>
      refine .inr ⟨?_, _, .read hr (Nat.le_of_not_lt hs) ht, congrArg _ (listed_eq text)⟩
      intro h
      cases h with
      | unreadable hr' => cases hr.symm.trans hr'
      | notText hr' ht' =>
        cases hr.symm.trans hr'
        cases ht.symm.trans ht'
      | tooLarge hr' hs' =>
        cases hr.symm.trans hr'
        exact hs hs'

theorem bannedPhraseList_unset {c : Config} (h : c.bannedPhrasesFile = none) :
    c.bannedPhraseList fs = .ok (c.bannedPhrases.take maxBannedPhrases) := by
  simp only [bannedPhraseList, h, pure]

theorem bannedPhraseList_set {c : Config} (h : c.bannedPhrasesFile = some path) :
    c.bannedPhraseList fs
      = match (readBannedPhrases fs path : Except ConfigError (List String)) with
        | .ok phrases => .ok ((c.bannedPhrases ++ phrases).take maxBannedPhrases)
        | .error e => .error e := by
  simp only [bannedPhraseList, h, bind, pure]
  rfl

/-- **The settings name a file that cannot be used, or all their phrases are listed.** -/
theorem bannedPhraseList_cases (hfs : fs.Coherent) (c : Config) :
    ((∃ path, c.bannedPhrasesFile = some path ∧ Unusable fs path) ∧
      ∃ e, (c.bannedPhraseList fs : Except ConfigError (List String)) = .error e) ∨
    (¬ (∃ path, c.bannedPhrasesFile = some path ∧ Unusable fs path) ∧
      ∃ lines, FileLines fs c.bannedPhrasesFile lines ∧
        c.bannedPhraseList fs = .ok ((c.bannedPhrases ++ phrasesIn lines).take 10000)) := by
  cases hf : c.bannedPhrasesFile with
  | none =>
    refine .inr ⟨by simp, [], .unset, ?_⟩
    rw [bannedPhraseList_unset hf, phrasesIn, List.map_nil, List.filter_nil, List.append_nil]
    rfl
  | some path =>
    rw [bannedPhraseList_set hf]
    rcases readBannedPhrases_cases hfs path with ⟨hunusable, e, he⟩ | ⟨husable, lines, hlines, hl⟩
    · rw [he]
      exact .inl ⟨⟨path, rfl, hunusable⟩, e, rfl⟩
    · rw [hl]
      refine .inr ⟨?_, lines, hlines, rfl⟩
      rintro ⟨_, hpath, hunusable⟩
      cases hpath
      exact husable hunusable

end Config

/-! ## The list that stands -/

theorem PhraseStore.snapshot_replace (s : PhraseStore) (h h' : PhraseHandle)
    (phrases : List String) :
    (s.replace h phrases).snapshot h' = if h' = h then .ofList phrases else s.snapshot h' := by
  obtain ⟨place⟩ := h
  obtain ⟨place'⟩ := h'
  simp only [replace, set, snapshot, PhraseHandle.mk.injEq]

namespace SharedAnalyzer
open Config (Unusable FileLines phrasesIn)

theorem analyzer_replace (other : SharedAnalyzer) (s : PhraseStore) (h : PhraseHandle)
    (phrases : List String) : other.analyzer (s.replace h phrases)
      = if other.banned = h then { other.analyzer s with banned := .ofList phrases }
        else other.analyzer s := by
  rw [analyzer, PhraseStore.snapshot_replace]
  split <;> rfl

theorem reloadBanned_eq (fs : Files Id) (config : Config) (a : SharedAnalyzer) (s : PhraseStore) :
    a.reloadBanned fs config s
      = match (config.bannedPhraseList fs : Except ConfigError (List String)) with
        | .ok phrases =>
          (.ok (BannedPhrases.ofList phrases).phrases.length, s.replace a.banned phrases)
        | .error e => (.error e, s) := by
  have hlength : ∀ phrases, ((s.replace a.banned phrases).snapshot a.banned).phrases.length
      = (BannedPhrases.ofList phrases).phrases.length := by
    intro phrases
    rw [PhraseStore.snapshot_replace, if_pos rfl]
  simp only [reloadBanned, bind, pure, hlength]
  cases (config.bannedPhraseList fs : Except ConfigError (List String)) <;> rfl

theorem not_blank_of_mem_ofList {phrases : List String} :
    ∀ phrase ∈ (BannedPhrases.ofList phrases).phrases, Text.blank phrase = false := by
  intro phrase hmem
  obtain ⟨htrimmed, hne⟩ := List.mem_filter.mp hmem
  obtain ⟨given, -, rfl⟩ := List.mem_map.mp htrimmed
  rw [← Bool.not_eq_true, ← Text.trimmed_eq_empty_iff, Text.trimmed_trimmed]
  exact of_decide_eq_true hne

/-- **Banned phrases are replaced as a whole or not at all.**  That they cannot be loaded means that
the settings name a file which cannot be used; then no analyzer sees another list.  Otherwise all
analyzers that hold the handle see the phrases of the settings and then those of the file, as many
as may be banned, and the others see no change. -/
theorem reload_whole {fs : Files Id} (hfs : fs.Coherent) (config : Config) (a : SharedAnalyzer)
    (s : PhraseStore) :
    let out : Except ConfigError Nat × PhraseStore := a.reloadBanned fs config s
    ((∃ e, out.1 = .error e) ↔ ∃ path, config.bannedPhrasesFile = some path ∧ Unusable fs path) ∧
    (∀ e, out.1 = .error e → ∀ copy : SharedAnalyzer, copy.analyzer out.2 = copy.analyzer s) ∧
    ∀ n, out.1 = .ok n → ∃ lines, FileLines fs config.bannedPhrasesFile lines ∧
      let installed := (((config.bannedPhrases ++ phrasesIn lines).take 10000).map
        Text.trimmed).filter (· ≠ "")
      n = installed.length ∧ (∀ phrase ∈ installed, Text.blank phrase = false) ∧
      (∀ copy : SharedAnalyzer, copy.banned = a.banned →
        (copy.analyzer out.2).banned.phrases = installed) ∧
      ∀ other : SharedAnalyzer, other.banned ≠ a.banned →
        other.analyzer out.2 = other.analyzer s := by
  intro out
  have hout : out = _ := reloadBanned_eq fs config a s
  rcases Config.bannedPhraseList_cases hfs config with
    ⟨hunusable, e, he⟩ | ⟨husable, lines, hlines, hl⟩
  · rw [he] at hout
    refine ⟨iff_of_true ⟨e, by rw [hout]⟩ hunusable, fun _ _ copy => by rw [hout], fun n hn => ?_⟩
    rw [hout] at hn
    cases hn
  · rw [hl] at hout
    refine ⟨iff_of_false ?_ husable, fun e he => ?_, fun n hn => ⟨lines, hlines, ?_⟩⟩
    · rintro ⟨e, he⟩
      rw [hout] at he
      cases he
    · rw [hout] at he
      cases he
    · intro installed
      rw [hout] at hn
      refine ⟨(Except.ok.inj hn).symm, not_blank_of_mem_ofList, fun copy hcopy => ?_,
        fun other hother => ?_⟩
      · rw [hout, analyzer_replace, if_pos hcopy]
        rfl
      · rw [hout, analyzer_replace, if_neg hother]

/-- Three phrases stand in the place of one, for an analyzer and its copies: one from the settings,
which also have a blank one, and two from a file with a comment. -/
theorem reload_threePhrases :
    let text := "# list\nwarez\n\n  cracked by  \n"
    let fs := (FileTree.ofList [("banned.txt", Text.toUtf8 text)]).files
    let config : Config :=
      { bannedPhrases := ["cracktool", " "], bannedPhrasesFile := some "banned.txt" }
    let shared := ofAnalyzer { table := default, banned := .ofList ["old"] } {}
    let out : Except ConfigError Nat × PhraseStore := shared.1.reloadBanned fs config shared.2
    fs.Coherent ∧ out.1 = .ok 3 ∧ (shared.1.analyzer shared.2).banned.phrases = ["old"] ∧
      ∀ copy : SharedAnalyzer, copy.banned = shared.1.banned →
        (copy.analyzer out.2).banned.phrases = ["cracktool", "warez", "cracked by"] := by
  intro text fs config shared out
  have hfs : fs.Coherent := FileTree.coherent_files _
  have hout : out.1 = .ok 3 := by decide +kernel
  have hlist : (shared.1.analyzer out.2).banned.phrases = ["cracktool", "warez", "cracked by"] := by
    decide +kernel
  obtain ⟨lines, -, -, -, hcopies, -⟩ := (reload_whole hfs config shared.1 shared.2).2.2 3 hout
  refine ⟨hfs, hout, by decide +kernel, fun copy hcopy => ?_⟩
  rw [← hlist, hcopies copy hcopy, hcopies shared.1 rfl]

end SharedAnalyzer

end LogTriage
