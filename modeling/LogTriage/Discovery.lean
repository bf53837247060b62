import LogTriage.Attachment
import LogTriage.Files.Basic
import LogTriage.Glob
import LogTriage.Stream.Source

/-!
# Finding attachments

Paths that a user names become attachments.  A file that is named is always taken; of a directory
those files are taken whose names look like those of attachments, in the order of their names.
-/

namespace LogTriage

namespace Discovery

/-- The names that attachments have. -/
def acceptedPatterns : List String := ["*.log", "*.log.gz", "*.gz", "*.zip"]

def accepts (name : String) : Bool :=
  acceptedPatterns.any fun p => (Glob.Pattern.ofString p).acceptsName name

/-- Levels of directories that are searched at most. -/
def maxDepth : Nat := 10

end Discovery

/-- The files that were found, and what went wrong meanwhile. -/
structure Discovery where
  files : List String := []
  warnings : List String := []
deriving DecidableEq, Inhabited

namespace Discovery

def append (d e : Discovery) : Discovery := ⟨d.files ++ e.files, d.warnings ++ e.warnings⟩

/-- Everything found, in order. -/
def join (ds : List Discovery) : Discovery := ds.foldl append {}

section
variable {m : Type → Type} [Monad m]

/-- What is found in a directory, down to `depth` levels. -/
def scan (fs : Files m) : Nat → String → m Discovery
  | 0, _ => return {}
  | depth + 1, dir => do
    match ← fs.list dir with
    | .error cause =>
      return { warnings := ["Cannot access '" ++ dir ++ "': IO error for operation on " ++ dir
        ++ ": " ++ cause] }
    | .ok names =>
      return join (← names.mergeSort.mapM fun name => do
        let path := Path.join dir name
        match ← fs.kind? path with
        | some .directory => scan fs depth path
        | _ => return { files := if accepts name then [path] else [] })

/-- What is found under the paths; directories within directories only if `recursive`. -/
def collect (fs : Files m) (paths : List String) (recursive : Bool) (depth : Nat) :
    m Discovery := do
  return join (← paths.mapM fun path => do
    match ← fs.kind? path with
    | some .directory => scan fs (if recursive then max depth 1 else 1) path
    | some (.file _) => return { files := [path] }
    | none => return { warnings := ["'" ++ path ++ "' does not exist"] })

end

end Discovery

namespace Attachment
variable {m : Type → Type} [Monad m]

/-- The attachment that a file is. -/
def ofPath (fs : Files m) (path : String) : m Attachment := do
  let size :=
    match ← fs.kind? path with
    | some (.file size) => some size
    | _ => none
  return { locator := path, fileName := Path.fileName path, declaredSize := size }

/-- Bytes of a file that are read ahead. -/
def readAhead : Nat := 8192

/-- The bytes of the file that an attachment is, under a directory if one is given. -/
def openFile (fs : Files m) (root : Option String) (a : Attachment) :
    m (Except String Source) := do
  let path := match root with
    | some dir => Path.join dir a.locator
    | none => a.locator
  match ← fs.kind? path with
  | some .directory => return .ok { events := [.failed Files.isDirectory] }
  | _ =>
    match ← fs.read path with
    | .ok bytes => return .ok { events := [.piece bytes], buffer := readAhead }
    | .error cause => return .error cause

end Attachment

end LogTriage
