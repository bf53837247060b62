import LogTriage.Deflate.Inflater
import LogTriage.Stream.Error
import LogTriage.Text.Lowercase
import LogTriage.Zip.Directory

/-!
# The log of an archive

The log is the first entry whose name ends in `.log`, in capitals or not.  Only what a reader of
bounded patience asks for is unpacked: one byte beyond the bound.  The checksum is compared when
the whole entry has been read.
-/

namespace LogTriage.Zip

def Entry.isLog (entry : Entry) : Bool :=
  ".log".toList.isSuffixOf (entry.name.toList.map Text.asciiLower)

namespace Archive

def unreadable (cause : String) : StreamError := .archive ("invalid Zip archive: " ++ cause)

/-- The first log among some entries, and where its data begins.  The entries before it have to
have their heads where the directory says. -/
def findLog (a : Archive) : List Entry → Except StreamError (Option (Entry × Nat))
  | [] => .ok none
  | entry :: entries =>
    match a.dataStart? entry with
    | none => .error (unreadable "Invalid local file header")
    | some start => if entry.isLog then .ok (some (entry, start)) else findLog a entries

/-- Unpacks an entry, up to one byte beyond `limit`. -/
def unpack (a : Archive) (limit : Nat) (entry : Entry) (start : Nat) : Except StreamError Bytes :=
  let broken (cause : String) : StreamError := .io "extracting archive entry" cause
  let packed := a.packed entry start
  let check (bs : Bytes) : Except StreamError Bytes :=
    if bs.length ≤ limit && Checksum.of bs ≠ entry.checksum then .error (broken "Invalid checksum")
    else .ok bs
  match entry.method with
  | .stored => check (packed.take (limit + 1))
  | .deflated =>
    match Deflate.inflate (limit + 1) packed with
    | some bs => check (bs.take (limit + 1))
    | none => .error (broken "corrupt deflate stream")
  | .other _ => .error (.unsupportedCodec entry.name entry.method.label)

/-- The log of an archive, up to one byte beyond `limit`. -/
def log (a : Archive) (limit : Nat) : Except StreamError Bytes :=
  match a.entries? with
  | none => .error (unreadable "Invalid Central Directory header")
  | some entries => do
    match ← a.findLog entries with
    | none => .error (.noLogEntry entries.length)
    | some (entry, start) =>
      if entry.method matches .other _ then
        .error (.unsupportedCodec entry.name entry.method.label)
      else if entry.encrypted then
        .error (.archive "unsupported Zip archive: Password required to decrypt file")
      else a.unpack limit entry start

end Archive

end LogTriage.Zip
