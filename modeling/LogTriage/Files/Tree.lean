import LogTriage.Files.Basic

/-!
# Trees of files

A file system that is held in memory, seen from its root.
-/

namespace LogTriage

inductive FileTree where
  | file (content : Bytes)
  | directory (entries : List (String × FileTree))
deriving Inhabited

namespace FileTree

def empty : FileTree := .directory []

/-- Replaces the entry of a name by what `change` makes of it, or adds it. -/
def alter (name : String) (change : Option FileTree → FileTree) :
    List (String × FileTree) → List (String × FileTree)
  | [] => [(name, change none)]
  | (n, t) :: rest =>
    if n = name then (n, change (some t)) :: rest else (n, t) :: alter name change rest

/-- The tree with a file, or with a directory when there is no content, at the end of a path; what
is missing on the way is made. -/
def put (content : Option Bytes) : List String → Option FileTree → FileTree
  | [], old =>
    match content, old with
    | some bytes, _ => .file bytes
    | none, some (.directory entries) => .directory entries
    | none, _ => empty
  | name :: path, old =>
    let entries := match old with
      | some (.directory entries) => entries
      | _ => []
    .directory (alter name (put content path) entries)

/-- The tree of some files; a path that ends in a slash is that of a directory. -/
def ofList (files : List (String × Bytes)) : FileTree :=
  files.foldl (fun tree (path, bytes) =>
    put (if path.endsWith "/" then none else some bytes) (Path.parts path) (some tree)) empty

/-- Walks down a path; `above` are the directories passed, nearest first. -/
def walk (above : List FileTree) (here : FileTree) : List String → Except String FileTree
  | [] => .ok here
  | name :: path =>
    match here with
    | .file _ => .error Files.notDirectory
    | .directory entries =>
      if name = "." then walk above here path
      else if name = ".." then
        match above with
        | up :: above => walk above up path
        | [] => walk [] here path
      else
        match entries.lookup name with
        | some next => walk (here :: above) next path
        | none => .error Files.missing

def find (root : FileTree) (path : String) : Except String FileTree :=
  if path.startsWith "/" then .error Files.missing
  else
    match walk [] root ((Path.pieces path).filter (· ≠ "")) with
    | .ok (.file bytes) =>
      if path.endsWith "/" then .error Files.notDirectory else .ok (.file bytes)
    | found => found

/-- The file system that has the tree as its working directory. -/
def files (root : FileTree) : Files Id where
  kind? path :=
    match root.find path with
    | .ok (.file bytes) => some (.file bytes.length)
    | .ok (.directory _) => some .directory
    | .error _ => none
  read path :=
    match root.find path with
    | .ok (.file bytes) => .ok bytes
    | .ok (.directory _) => .error Files.isDirectory
    | .error cause => .error cause
  list path :=
    match root.find path with
    | .ok (.directory entries) => .ok (entries.map (·.1))
    | .ok (.file _) => .error Files.notDirectory
    | .error cause => .error cause

end FileTree

end LogTriage
