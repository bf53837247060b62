import LogTriage.AnalysisRun
import LogTriage.Proofs.Stream.Encodings

/-!
# What opening an archive comes to

An archive can be wrong in several ways at once, and one of them is told: first that it is too long,
then that its directory or the head of an entry cannot be read, then that no entry has the name of a
log, and then that the first one that has is packed in a way that is not decoded.  Only of this last
one a run is made, in which nothing was analysed.

* `isLog_iff`         which entries are logs;
* `findLog_cases`     what the search among the entries comes to;
* `log_of_first`      what becomes of it;
* `opening_decided`   what opening an archive comes to, and the run after it.
-/

namespace LogTriage

namespace Zip

namespace Entry

/-- The name of a directory ends in a slash, or in one that leans the other way. -/
def IsDirectory (entry : Entry) : Prop :=
  ∃ path last, entry.name.toList = path ++ [last] ∧ (last = '/' ∨ last = '\\')

/-- The name ends in `.log`, in capitals or not. -/
def NamedLog (entry : Entry) : Prop :=
  ∃ stem suffix, entry.name.toList = stem ++ suffix ∧
    suffix.map Text.asciiLower = ['.', 'l', 'o', 'g']

variable {entry : Entry}

theorem isLog_iff_namedLog : entry.isLog = true ↔ entry.NamedLog := by
  have hsuffix : entry.isLog = true
      ↔ ['.', 'l', 'o', 'g'] <:+ entry.name.toList.map Text.asciiLower := List.isSuffixOf_iff_suffix
  rw [hsuffix]
  constructor
  · rintro ⟨stem, hname⟩
    obtain ⟨stem', suffix, hsplit, -, hlower⟩ := List.map_eq_append_iff.mp hname.symm
    exact ⟨stem', suffix, hsplit, hlower⟩
  · rintro ⟨stem, suffix, hsplit, hlower⟩
    exact ⟨stem.map Text.asciiLower, by rw [hsplit, List.map_append, hlower]⟩

theorem not_isDirectory_of_namedLog (h : entry.NamedLog) : ¬ entry.IsDirectory := by
  rintro ⟨path, last, hpath, hlast⟩
  obtain ⟨stem, suffix, hsplit, hlower⟩ := h
  have hg : Text.asciiLower last = 'g' := by
    have hends : (entry.name.toList.map Text.asciiLower).getLast?
        = some (Text.asciiLower last) := by
      rw [hpath, List.map_append, List.map_singleton, List.getLast?_concat]
    rw [hsplit, List.map_append, hlower] at hends
    rw [List.getLast?_append] at hends
    exact (Option.some.inj hends).symm
  rcases hlast with rfl | rfl
  · exact absurd hg (by decide)
  · exact absurd hg (by decide)

/-- **Which entries are logs**: those that are no directories and have the name of a log. -/
theorem isLog_iff : entry.isLog = true ↔ ¬ entry.IsDirectory ∧ entry.NamedLog := by
  rw [isLog_iff_namedLog]
  exact ⟨fun h => ⟨not_isDirectory_of_namedLog h, h⟩, fun h => h.2⟩

end Entry

namespace Archive
variable {a : Archive} {entry : Entry} {start : Nat} {entries before after : List Entry}

/-- What says that reading an archive failed for a cause that is not told apart. -/
def Broken (error : StreamError) : Prop :=
  (∃ cause, error = .archive cause) ∨ ∃ cause, error = .io "extracting archive entry" cause

/-! ## The first log -/

/-- An entry whose head cannot be read hides the logs after it. -/
theorem findLog_of_no_head (hbefore : ∀ other ∈ before, other.isLog = false)
    (hs : a.dataStart? entry = none) :
    a.findLog (before ++ entry :: after) = .error (unreadable "Invalid local file header") := by
  induction before with
  | nil => rw [List.nil_append, findLog, hs]
  | cons other before ih =>
    obtain ⟨hother, hbefore⟩ := List.forall_mem_cons.mp hbefore
    rw [List.cons_append, findLog]
    cases a.dataStart? other with
    | none => rfl
    | some place =>
      dsimp only
      rw [hother, if_neg Bool.false_ne_true, ih hbefore]

theorem findLog_of_no_log (hheads : ∀ other ∈ entries, (a.dataStart? other).isSome = true)
    (hnone : ∀ other ∈ entries, other.isLog = false) : a.findLog entries = .ok none := by
  induction entries with
  | nil => rfl
  | cons other entries ih =>
    obtain ⟨hhead, hheads⟩ := List.forall_mem_cons.mp hheads
    obtain ⟨hother, hnone⟩ := List.forall_mem_cons.mp hnone
    obtain ⟨place, hplace⟩ := Option.isSome_iff_exists.mp hhead
    rw [findLog, hplace]
    dsimp only
    rw [hother, if_neg Bool.false_ne_true, ih hheads hnone]

theorem findLog_cases (a : Archive) (entries : List Entry) :
    (∃ cause, a.findLog entries = .error (.archive cause)) ∨
    ((∀ other ∈ entries, other.isLog = false) ∧ a.findLog entries = .ok none) ∨
    ∃ entry start, FirstLog a entry start entries := by
  induction entries with
  | nil => exact .inr (.inl ⟨nofun, rfl⟩)
  | cons other entries ih =>
    rw [findLog]
    cases hs : a.dataStart? other with
    | none => exact .inl ⟨_, rfl⟩
    | some place =>
      have hhead : (a.dataStart? other).isSome = true := by rw [hs]; rfl
      cases hl : other.isLog with
      | true => exact .inr (.inr ⟨other, place, .here hs hl⟩)
      | false =>
        dsimp only
        rw [if_neg Bool.false_ne_true]
        obtain herror | ⟨hnone, hfind⟩ | ⟨entry, start, hfirst⟩ := ih
        · exact .inl herror
        · exact .inr (.inl ⟨List.forall_mem_cons.mpr ⟨hl, hnone⟩, hfind⟩)
        · exact .inr (.inr ⟨entry, start, .later hhead hl hfirst⟩)

/-! ## What is extracted -/

theorem log_of_no_directory (hentries : a.entries? = none) (limit : Nat) :
    a.log limit = .error (unreadable "Invalid Central Directory header") := by
  rw [Archive.log, hentries]

theorem log_of_findLog (hentries : a.entries? = some entries) {error : StreamError}
    (h : a.findLog entries = .error error) (limit : Nat) : a.log limit = .error error := by
  rw [Archive.log, hentries]
  dsimp only
  rw [h]
  rfl

theorem log_of_no_log (hentries : a.entries? = some entries) (h : a.findLog entries = .ok none)
    (limit : Nat) : a.log limit = .error (.noLogEntry entries.length) := by
  rw [Archive.log, hentries]
  dsimp only
  rw [h]
  rfl

theorem broken_of_unpack (hm : entry.method = .stored ∨ entry.method = .deflated) {limit : Nat}
    {error : StreamError} (h : a.unpack limit entry start = .error error) : Broken error := by
  unfold unpack at h
  rcases hm with hm | hm
  · rw [hm] at h
    dsimp only at h
    split at h
    · cases h
      exact .inr ⟨_, rfl⟩
    · cases h
  · rw [hm] at h
    dsimp only at h
    split at h
    · split at h
      · cases h
        exact .inr ⟨_, rfl⟩
      · cases h
    · cases h
      exact .inr ⟨_, rfl⟩

theorem log_of_decoded (hentries : a.entries? = some entries)
    (hfirst : FirstLog a entry start entries)
    (hm : entry.method = .stored ∨ entry.method = .deflated) (limit : Nat) :
    a.log limit = if entry.encrypted then
        .error (.archive "unsupported Zip archive: Password required to decrypt file")
      else a.unpack limit entry start := by
  rw [Archive.log, hentries]
  dsimp only
  rw [findLog_eq hfirst]
  simp only [bind, Except.bind]
  rcases hm with hm | hm
  · rw [hm]
    rfl
  · rw [hm]
    rfl

/-- **What becomes of the first log**: if it is packed in another way than those that are decoded,
that is told, and else it is unpacked, or it is broken. -/
theorem log_of_first (hentries : a.entries? = some entries)
    (hfirst : FirstLog a entry start entries) (limit : Nat) :
    ((entry.method ≠ .stored ∧ entry.method ≠ .deflated) ∧
      a.log limit = .error (.unsupportedCodec entry.name entry.method.label)) ∨
    (entry.method = .stored ∨ entry.method = .deflated) ∧
      ∀ error, a.log limit = .error error → Broken error := by
  by_cases hm : entry.method = .stored ∨ entry.method = .deflated
  · refine .inr ⟨hm, fun error h => ?_⟩
    rw [log_of_decoded hentries hfirst hm] at h
    split at h
    · cases h
      exact .inl ⟨_, rfl⟩
    · exact broken_of_unpack hm h
  · refine .inl ⟨not_or.mp hm, ?_⟩
    obtain ⟨code, hother⟩ : ∃ code, entry.method = .other code := by
      cases hmethod : entry.method with
      | other code => exact ⟨code, rfl⟩
      | stored => exact absurd (.inl hmethod) hm
      | deflated => exact absurd (.inr hmethod) hm
    rw [Archive.log, hentries]
    dsimp only
    rw [findLog_eq hfirst]
    simp only [bind, Except.bind]
    rw [hother]
    rfl

theorem log_error_cases {limit : Nat} {error : StreamError} (h : a.log limit = .error error) :
    Broken error ∨ (∃ n, error = .noLogEntry n) ∨
      ∃ name label, error = .unsupportedCodec name label := by
  cases hentries : a.entries? with
  | none =>
    rw [log_of_no_directory hentries] at h
    obtain rfl := Except.error.inj h
    exact .inl (.inl ⟨_, rfl⟩)
  | some entries =>
    obtain ⟨cause, herror⟩ | ⟨-, hnone⟩ | ⟨entry, start, hfirst⟩ := a.findLog_cases entries
    · rw [log_of_findLog hentries herror] at h
      obtain rfl := Except.error.inj h
      exact .inl (.inl ⟨cause, rfl⟩)
    · rw [log_of_no_log hentries hnone] at h
      obtain rfl := Except.error.inj h
      exact .inr (.inl ⟨_, rfl⟩)
    · obtain ⟨-, hother⟩ | ⟨-, hbroken⟩ := log_of_first hentries hfirst limit
      · rw [hother] at h
        obtain rfl := Except.error.inj h
        exact .inr (.inr ⟨_, _, rfl⟩)
      · exact .inl (hbroken _ h)

theorem log_ne_tooLarge (a : Archive) (limit n : Nat) : a.log limit ≠ .error (.tooLarge n) := by
  intro h
  have hcases := log_error_cases h
  simp [Broken] at hcases

end Archive

end Zip

open Zip (Entry)
open Zip.Archive
open ChunkStream (openWith ofSource)

variable {σ : Type} {config : StreamConfig} {source : Source} {z : Bytes} {a : Zip.Archive}

/-- What opening an archive that is not too long comes to, each case before those that stand after
it here. -/
structure Opening (a : Zip.Archive) (config : StreamConfig)
    (opened : Except StreamError (ChunkStream σ)) : Prop where
  /-- The directory cannot be read. -/
  unreadable : a.entries? = none → ∃ cause, opened = .error (.archive cause)
  /-- The head of an entry cannot be read, and none before it is a log. -/
  headless (before : List Entry) (entry : Entry) (after : List Entry) :
    a.entries? = some (before ++ entry :: after) → (∀ other ∈ before, other.isLog = false) →
    a.dataStart? entry = none → ∃ cause, opened = .error (.archive cause)
  /-- No entry is a log. -/
  noLogEntry (entries : List Entry) : a.entries? = some entries →
    (∀ entry ∈ entries, (a.dataStart? entry).isSome = true) →
    ∀ n, opened = .error (.noLogEntry n) ↔
      n = entries.length ∧ ∀ entry ∈ entries, entry.isLog = false
  /-- The first log is neither stored nor deflated, whatever comes after it. -/
  unsupportedCodec (entries : List Entry) (entry : Entry) (start : Nat) :
    a.entries? = some entries → FirstLog a entry start entries →
    ∀ name label, opened = .error (.unsupportedCodec name label) ↔
      (name = entry.name ∧ label = entry.method.label) ∧
        entry.method ≠ .stored ∧ entry.method ≠ .deflated
  /-- The first log cannot be read to its end. -/
  broken (entries : List Entry) (entry : Entry) (start : Nat) : a.entries? = some entries →
    FirstLog a entry start entries → entry.method = .stored ∨ entry.method = .deflated →
    ∀ error, opened = .error error → Broken error
  /-- It can be read, and is given out. -/
  delivered (entries : List Entry) (entry : Entry) (start : Nat) (log : Bytes) :
    a.entries? = some entries → FirstLog a entry start entries → entry.encrypted = false →
    Unpacked a entry start log → entry.checksum = Checksum.of log →
    ∃ stream, opened = .ok stream ∧ stream.Delivers config.maxLog log

theorem takeIn_eq (h : source.content = (z, none)) (limit : Nat) : takeIn source limit
    = if limit < z.length then .error (.tooLarge limit) else .ok z.toArray := by
  rw [takeIn, h]

theorem openWith_eq_error {error : StreamError} (d : StepDecoder σ)
    (h : takeIn source config.maxSpool = .ok a) :
    openWith d config source .zip = .error error ↔ a.log config.maxLog = .error error := by
  rw [openWith_takeIn d config h]
  cases a.log config.maxLog with
  | error other => exact ⟨fun h => congrArg Except.error (Except.error.inj h),
      fun h => congrArg Except.error (Except.error.inj h)⟩
  | ok log => exact ⟨nofun, nofun⟩

/-- **What opening an archive comes to**, once it is taken in. -/
theorem opening_openWith (d : StepDecoder σ) (h : takeIn source config.maxSpool = .ok a) :
    Opening a config (openWith d config source .zip) where
  unreadable hentries :=
    ⟨_, (openWith_eq_error d h).mpr (log_of_no_directory hentries config.maxLog)⟩
  headless before entry after hentries hbefore hs :=
    ⟨_, (openWith_eq_error d h).mpr
      (log_of_findLog hentries (findLog_of_no_head hbefore hs) config.maxLog)⟩
  noLogEntry entries hentries hheads n := by
    rw [openWith_eq_error d h]
    constructor
    · intro hlog
      obtain ⟨cause, herror⟩ | ⟨hnone, hfind⟩ | ⟨entry, start, hfirst⟩ :=
        a.findLog_cases entries
      · rw [log_of_findLog hentries herror] at hlog
        cases hlog
      · rw [log_of_no_log hentries hfind] at hlog
        cases hlog
        exact ⟨rfl, hnone⟩
      · obtain ⟨-, hother⟩ | ⟨-, hbroken⟩ := log_of_first hentries hfirst config.maxLog
        · rw [hother] at hlog
          cases hlog
        · exact absurd (hbroken _ hlog) (by simp [Broken])
    · rintro ⟨rfl, hnone⟩
      exact log_of_no_log hentries (findLog_of_no_log hheads hnone) config.maxLog
  unsupportedCodec entries entry start hentries hfirst name label := by
    rw [openWith_eq_error d h]
    obtain ⟨hmethod, hother⟩ | ⟨hmethod, hbroken⟩ := log_of_first hentries hfirst config.maxLog
    · rw [hother]
      constructor
      · intro hlog
        cases hlog
        exact ⟨⟨rfl, rfl⟩, hmethod⟩
      · rintro ⟨⟨rfl, rfl⟩, -⟩
        rfl
    · constructor
      · intro hlog
        exact absurd (hbroken _ hlog) (by simp [Broken])
      · rintro ⟨-, hstored, hdeflated⟩
        exact absurd hmethod (not_or.mpr ⟨hstored, hdeflated⟩)
  broken entries entry start hentries hfirst hmethod error hopen := by
    rw [openWith_eq_error d h] at hopen
    obtain ⟨⟨hstored, hdeflated⟩, -⟩ | ⟨-, hbroken⟩ := log_of_first hentries hfirst config.maxLog
    · exact absurd hmethod (not_or.mpr ⟨hstored, hdeflated⟩)
    · exact hbroken _ hopen
  delivered entries entry start log hentries hfirst hplain hunpacked hsum := by
    obtain ⟨hcontent, hspool⟩ := content_of_takeIn h
    have hholds : Holds a.toList.toArray log :=
      ⟨entries, entry, start, hentries, hfirst, hplain, hunpacked, hsum⟩
    exact delivers_archive config hcontent hspool hholds

/-- **What opening an archive comes to, and the run after it.**  That it is too long is told exactly
when it is, whatever its bytes are; else its entries decide, those that are files with the name of a
log.  When it does not open, a run is made only of a log that is packed in a way that is not
decoded, and nothing was analysed in it. -/
theorem Analyzer.opening_decided (analyzer : Analyzer) (source : Source) (z : Bytes)
    (h : source.content = (z, none)) (fileName : String) :
    (∀ n, openChunks analyzer.stream source .zip = .error (.tooLarge n) ↔
      n = analyzer.stream.maxSpool ∧ n < z.length) ∧
    (z.length ≤ analyzer.stream.maxSpool →
      Opening z.toArray analyzer.stream (openChunks analyzer.stream source .zip)) ∧
    (∀ entry : Entry, entry.isLog = true ↔ ¬ entry.IsDirectory ∧ entry.NamedLog) ∧
    ∀ error, openChunks analyzer.stream source .zip = .error error →
      (∀ name label, error = .unsupportedCodec name label →
        analyzer.runSource source .zip fileName = .ok {
          fileName, status := .unsupportedCodec error.message, sections := [], unfinished := none
          lines := 0 }) ∧
      ((∀ name label, error ≠ .unsupportedCodec name label) →
        analyzer.runSource source .zip fileName = .error (.stream error)) := by
  have htaken := takeIn_eq h analyzer.stream.maxSpool
  refine ⟨fun n => ?_, fun hspool => ?_, fun entry => Entry.isLog_iff, fun error herror => ⟨?_, ?_⟩⟩
  · by_cases hlong : analyzer.stream.maxSpool < z.length
    · rw [if_pos hlong] at htaken
      have hopen : openChunks analyzer.stream source .zip
          = .error (.tooLarge analyzer.stream.maxSpool) := by
        rw [openChunks, openWith, htaken]
        rfl
      rw [hopen]
      constructor
      · intro herror
        cases herror
        exact ⟨rfl, hlong⟩
      · rintro ⟨rfl, -⟩
        rfl
    · rw [if_neg hlong] at htaken
      rw [openChunks, openWith_eq_error Gzip.decoder htaken]
      constructor
      · intro hlog
        exact absurd hlog (log_ne_tooLarge _ _ n)
      · rintro ⟨rfl, hlt⟩
        exact absurd hlt hlong
  · rw [if_neg (Nat.not_lt.mpr hspool)] at htaken
    exact opening_openWith Gzip.decoder htaken
  · rintro name label rfl
    rw [Analyzer.runSource, herror]
  · intro hother
    unfold Analyzer.runSource
    rw [herror]
    split
    · rename_i hok
      cases hok
    · rename_i name label hunsupported
      exact absurd (Except.error.inj hunsupported) (hother name label)
    · rename_i other hne hunsupported
      rw [Except.error.inj hunsupported]

def bzippedArchive : Bytes := smallArchive.set 48 12

/-- Of it a run is made, in which nothing was analysed. -/
theorem run_of_bzippedArchive :
    openChunks {} (.ofBytes bzippedArchive) .zip = .error (.unsupportedCodec "a.LOG" "Bzip2") ∧
    ({ table := default } : Analyzer).runSource (.ofBytes bzippedArchive) .zip "log.zip" = .ok {
      fileName := "log.zip"
      status := .unsupportedCodec (StreamError.unsupportedCodec "a.LOG" "Bzip2").message } := by
  let entry : Entry := {
    name := "a.LOG", method := .other 12, encrypted := false
    checksum := 3904355907, size := 3, start := 0 }
  have hentries : entries? bzippedArchive.toArray = some [entry] := by decide +kernel
  have hstart : dataStart? bzippedArchive.toArray entry = some 35 := by decide +kernel
  have hfirst : FirstLog bzippedArchive.toArray entry 35 [entry] := .here hstart (by decide +kernel)
  obtain ⟨-, hopening, -, hrun⟩ := Analyzer.opening_decided { table := default }
    (.ofBytes bzippedArchive) bzippedArchive (Source.content_ofBytes _) "log.zip"
  have hopen : openChunks {} (.ofBytes bzippedArchive) .zip
      = .error (.unsupportedCodec "a.LOG" "Bzip2") :=
    ((hopening (by decide)).unsupportedCodec [entry] entry 35 hentries hfirst _ _).mpr
      ⟨⟨rfl, by decide +kernel⟩, nofun, nofun⟩
  exact ⟨hopen, (hrun _ hopen).1 _ _ rfl⟩

end LogTriage
