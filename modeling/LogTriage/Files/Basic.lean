import LogTriage.Text.Substring
import LogTriage.Text.Utf8

/-!
# Files

What the program asks of a file system: what stands under a path, the bytes of a file, the names
in a directory.  A file system is given by these three answers, in any monad, so that the same
code runs on the files of the machine and on a tree that is held in memory.
-/

namespace LogTriage

inductive FileKind where
  | file (size : Nat)
  | directory
deriving DecidableEq, Inhabited

structure Files (m : Type → Type) where
  kind? : String → m (Option FileKind)
  /-- The bytes of a file, or why they cannot be read. -/
  read : String → m (Except String Bytes)
  /-- The names in a directory, in any order. -/
  list : String → m (Except String (List String))

namespace Path

/-- The path of `name` in the directory `dir`; an absolute name stays as it is. -/
def join (dir name : String) : String :=
  if name.startsWith "/" || dir.isEmpty then name
  else if dir.endsWith "/" then dir ++ name
  else dir ++ "/" ++ name

/-- What stands between the slashes of a path. -/
def pieces (path : String) : List String := (Text.splitAt '/' path.toList).map String.ofList

/-- The parts of a path, without the empty ones and those that stay in place. -/
def parts (path : String) : List String :=
  (pieces path).filter fun part => part ≠ "" && part ≠ "."

/-- The last part of a path, unless it leads upwards or there is none. -/
def fileName (path : String) : String :=
  match (parts path).getLast? with
  | some part => if part = ".." then "" else part
  | none => ""

/-- What follows the last dot of a name; a dot that begins the name does not count. -/
def extension? (name : String) : Option String :=
  let cs := name.toList
  let tail := (cs.reverse.takeWhile (· ≠ '.')).reverse
  let stem := cs.take (cs.length - tail.length - 1)
  if tail.length = cs.length || stem.isEmpty then none else some (String.ofList tail)

end Path

namespace Files
variable {m : Type → Type} [Monad m]

def missing : String := "No such file or directory (os error 2)"
def notDirectory : String := "Not a directory (os error 20)"
def isDirectory : String := "Is a directory (os error 21)"
def notText : String := "stream did not contain valid UTF-8"

/-- The text of a file. -/
def readText (fs : Files m) (path : String) : m (Except String String) := do
  match ← fs.read path with
  | .error cause => return .error cause
  | .ok bytes =>
    match Text.ofUtf8? bytes with
    | some text => return .ok text
    | none => return .error notText

/-- Why a file of bounded size could not be read. -/
inductive BoundedError where
  | tooLarge (size : Nat)
  | unreadable (cause : String)
deriving DecidableEq

/-- The text of a file of at most `limit` bytes. -/
def readBounded (fs : Files m) (limit : Nat) (path : String) : m (Except BoundedError String) := do
  let size :=
    match ← fs.kind? path with
    | some (.file size) => size
    | _ => 0
  if limit < size then return .error (.tooLarge size)
  else
    match ← fs.readText path with
    | .ok text => return .ok text
    | .error cause => return .error (.unreadable cause)

end Files

end LogTriage
