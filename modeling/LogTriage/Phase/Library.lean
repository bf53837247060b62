import LogTriage.Phase.Builtin
import LogTriage.Files.Basic

/-!
# The table library

The tables at hand are the built-in ones and those of the user's directory.  A user's table takes
the place of an earlier one with its identifier.  A file that holds no usable table is an error
and changes nothing else.
-/

namespace LogTriage

namespace PhaseTable

/-- Tables that are held at once. -/
def maxTables : Nat := 32

/-- Bytes in the file of a table. -/
def maxFileSize : Nat := 65536

/-- The table takes the place of the one with its identifier, or comes last. -/
def install (tables : List PhaseTable) (table : PhaseTable) : List PhaseTable :=
  match tables with
  | [] => [table]
  | t :: ts => if t.id = table.id then table :: ts else t :: install ts table

/-- The table with an identifier. -/
def select (tables : List PhaseTable) (id : String) : Except TableError PhaseTable :=
  match tables.find? (·.id == id) with
  | some table => .ok table
  | none => .error (.unknownTable id)

end PhaseTable

/-- The tables that can be chosen from, and what went wrong on the way to them. -/
structure TableLibrary where
  tables : List PhaseTable
  errors : List TableError := []

namespace TableLibrary

/-- What each file has come to, put together: errors in order, tables over those before them. -/
def ofOutcomes (tables : List PhaseTable) (outcomes : List (Except TableError PhaseTable)) :
    TableLibrary where
  tables := (outcomes.filterMap Except.toOption).foldl PhaseTable.install tables
  errors := outcomes.filterMap fun
    | .ok _ => none
    | .error e => some e

/-- At most as many tables as are held at once. -/
def cut (l : TableLibrary) : TableLibrary :=
  if l.tables.length ≤ PhaseTable.maxTables then l
  else
    { tables := l.tables.take PhaseTable.maxTables
      errors := l.errors ++ [.tooManyTables l.tables.length PhaseTable.maxTables] }

def isTableName (name : String) : Bool := Path.extension? name == some "toml"

section
variable {m : Type → Type} [Monad m]

/-- The table in a file. -/
def readTable (fs : Files m) (path : String) : m (Except TableError PhaseTable) := do
  match ← fs.readBounded PhaseTable.maxFileSize path with
  | .error (.tooLarge size) => return .error (.fileTooLarge path size PhaseTable.maxFileSize)
  | .error (.unreadable cause) => return .error (.io path cause)
  | .ok text => return PhaseTable.parse path text false

/-- What the files of a directory come to, in the order of their names. -/
def readTables (fs : Files m) (dir : String) : m (List (Except TableError PhaseTable)) := do
  match ← fs.list dir with
  | .error cause => return [.error (.io dir cause)]
  | .ok names =>
    let names := (names.filter isTableName).mergeSort
    names.mapM fun name => readTable fs (Path.join dir name)

/-- The built-in tables and those of the user's directory, if there is one. -/
def load (fs : Files m) (dir : Option String) : m TableLibrary := do
  let outcomes ←
    match dir with
    | none => pure []
    | some dir =>
      match ← fs.kind? dir with
      | some .directory => readTables fs dir
      | _ => pure []
  return (ofOutcomes PhaseTable.builtins outcomes).cut

end

end TableLibrary

end LogTriage
