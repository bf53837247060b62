import LogTriage.Proofs.Deflate.Inflate
import LogTriage.Zip.Log

/-!
# Archives that hold a log

An archive holds a log when its first entry with the name of a log, read to its end, gives the bytes
of the log.  A reader of any patience then gets as many of them as it asks for.

* `unpack_unpacked`   an entry gives the beginning of what it holds;
* `log_of_holds`      so does an archive.
-/

namespace LogTriage.Zip.Archive
variable {a : Archive} {entry : Entry} {start : Nat} {log : Bytes}

/-- The data of an entry, read to its end, is `log`. -/
inductive Unpacked (a : Archive) (entry : Entry) (start : Nat) (log : Bytes) : Prop where
  | stored (hm : entry.method = .stored) (hp : a.packed entry start = log)
  /-- One who wants more bytes than there are reads to the end. -/
  | deflated (hm : entry.method = .deflated)
      (hp : Deflate.inflate (log.length + 1) (a.packed entry start) = some log)

/-- Among these entries the first one with the name of a log is `entry`, and its data begins at
`start`. -/
inductive FirstLog (a : Archive) (entry : Entry) (start : Nat) : List Entry → Prop where
  | here {entries : List Entry} (hs : a.dataStart? entry = some start) (hl : entry.isLog = true) :
      FirstLog a entry start (entry :: entries)
  | later {other : Entry} {entries : List Entry} (hs : (a.dataStart? other).isSome = true)
      (hl : other.isLog = false) (rest : FirstLog a entry start entries) :
      FirstLog a entry start (other :: entries)

/-- The archive can be read, and its log, stored or deflated, has these bytes. -/
def Holds (a : Archive) (log : Bytes) : Prop :=
  ∃ entries entry start, a.entries? = some entries ∧ FirstLog a entry start entries ∧
    entry.encrypted = false ∧ Unpacked a entry start log ∧ entry.checksum = Checksum.of log

theorem findLog_eq {entries : List Entry} (h : FirstLog a entry start entries) :
    a.findLog entries = .ok (some (entry, start)) := by
  induction h with
  | here hs hl =>
    rw [findLog, hs]
    exact if_pos hl
  | later hs hl rest ih =>
    obtain ⟨place, hplace⟩ := Option.isSome_iff_exists.mp hs
    rw [findLog, hplace]
    dsimp only
    rw [hl, if_neg Bool.false_ne_true, ih]

/-- **An entry gives the beginning of what it holds.** -/
theorem unpack_unpacked (h : Unpacked a entry start log) (hsum : entry.checksum = Checksum.of log)
    (limit : Nat) : a.unpack limit entry start = .ok (log.take (limit + 1)) := by
  -- the checksum is compared only when the whole entry has been read
  have hcheck : ¬ (decide ((log.take (limit + 1)).length ≤ limit)
      && decide (Checksum.of (log.take (limit + 1)) ≠ entry.checksum)) = true := by
    intro hbad
    obtain ⟨hlen, hne⟩ := (Bool.and_eq_true _ _).mp hbad
    have hlen := of_decide_eq_true hlen
    have hwhole : log.take (limit + 1) = log := by
      rw [List.length_take] at hlen
      exact List.take_of_length_le (by omega)
    rw [hwhole, hsum] at hne
    exact of_decide_eq_true hne rfl
  unfold unpack
  cases h with
  | stored hm hp =>
    rw [hm, hp]
    exact if_neg hcheck
  | deflated hm hp =>
    obtain ⟨data, hdata, htake⟩ := Deflate.inflate_whole hp (Nat.lt_succ_self _) (limit + 1)
    rw [hm]
    dsimp only
    rw [hdata]
    dsimp only
    rw [htake]
    exact if_neg hcheck

/-- **An archive gives the beginning of the log that it holds.** -/
theorem log_of_holds (h : Holds a log) (limit : Nat) :
    a.log limit = .ok (log.take (limit + 1)) := by
  obtain ⟨entries, entry, start, hentries, hfirst, hplain, hunpacked, hsum⟩ := h
  rw [Archive.log, hentries]
  dsimp only
  rw [findLog_eq hfirst]
  simp only [bind, Except.bind]
  split
  · rename_i hother
    cases hunpacked with
    | stored hm hp =>
      rw [hm] at hother
      cases hother
    | deflated hm hp =>
      rw [hm] at hother
      cases hother
  · rw [hplain, if_neg Bool.false_ne_true]
    exact unpack_unpacked hunpacked hsum limit

end LogTriage.Zip.Archive
