/-!
# Options

The arguments of the program.  An option may stand anywhere among the paths; a value follows its
option, or an equals sign, or a letter.  After two dashes all arguments are paths.  Each option
may come once.  What is wrong with the arguments is only reported as such.
-/

namespace LogTriage.CommandLine

/-- How results are written. -/
inductive Format where
  | plain
  | structured
  | json
deriving DecidableEq, Inhabited

def Format.ofLabel? (label : String) : Option Format :=
  if label = "plain" then some .plain
  else if label = "structured" then some .structured
  else if label = "json" then some .json
  else none

structure Options where
  paths : List String := []
  recursive : Bool := false
  config : Option String := none
  table : Option String := none
  phaseDir : Option String := none
  banned : Option String := none
  catalog : Option String := none
  format : Format := .plain
  bestEffort : Bool := false
  debug : Bool := false
deriving DecidableEq, Inhabited

/-- The options by name. -/
inductive OptionName where
  | recursive
  | config
  | table
  | phaseDir
  | banned
  | catalog
  | format
  | bestEffort
  | debug
  | help
  | summary
  | version
deriving DecidableEq

namespace OptionName

def ofLong? (name : String) : Option OptionName :=
  [("recursive", recursive), ("config", config), ("table", table), ("phase-dir", phaseDir),
    ("banned", banned), ("catalog", catalog), ("format", format), ("best-effort", bestEffort),
    ("debug", debug), ("help", help), ("version", version)].lookup name

def ofLetter? (c : Char) : Option OptionName :=
  [('r', recursive), ('c', config), ('t', table), ('p', phaseDir), ('b', banned), ('f', format),
    ('d', debug), ('h', summary), ('V', version)].lookup c

def takesValue : OptionName → Bool
  | config | table | phaseDir | banned | catalog | format => true
  | _ => false

end OptionName

/-- What the arguments ask for. -/
inductive Request where
  | analyse (options : Options)
  | help
  /-- The short form of the help. -/
  | summary
  | version
  /-- The arguments cannot be understood. -/
  | usage
deriving DecidableEq

/-- The arguments as far as they have been read. -/
structure Parsing where
  options : Options := {}
  /-- The options that have come. -/
  seen : List OptionName := []

namespace Parsing

/-- What the next arguments lead to: more of them, or an answer. -/
abbrev Step := Except Request Parsing

def setPath (p : Parsing) (path : String) : Step :=
  if path.isEmpty then .error .usage
  else .ok { p with options := { p.options with paths := p.options.paths ++ [path] } }

/-- Marks an option as seen; it may not have come before. -/
def mark (p : Parsing) (name : OptionName) : Step :=
  if p.seen.contains name then .error .usage else .ok { p with seen := name :: p.seen }

/-- A path as a value, which may not be empty. -/
def pathValue (value : String) : Except Request (Option String) :=
  if value.isEmpty then .error .usage else .ok (some value)

/-- Sets an option that has a value. -/
def setValue (p : Parsing) (name : OptionName) (value : String) : Step := do
  let p ← p.mark name
  let o := p.options
  let options ←
    match name with
    | .config => do pure { o with config := ← pathValue value }
    | .table => pure { o with table := some value }
    | .phaseDir => do pure { o with phaseDir := ← pathValue value }
    | .banned => do pure { o with banned := ← pathValue value }
    | .catalog => do pure { o with catalog := ← pathValue value }
    | .format =>
      match Format.ofLabel? value with
      | some format => pure { o with format }
      | none => .error .usage
    | _ => .error .usage
  .ok { p with options }

/-- Sets an option that has no value. -/
def setFlag (p : Parsing) (name : OptionName) : Step :=
  match name with
  | .help => .error .help
  | .summary => .error .summary
  | .version => .error .version
  | _ => do
    let p ← p.mark name
    let o := p.options
    .ok { p with options := match name with
      | .recursive => { o with recursive := true }
      | .bestEffort => { o with bestEffort := true }
      | .debug => { o with debug := true }
      | _ => o }

/-- An argument that is read as a value or a path, not as options. -/
def isValue (arg : String) : Bool := !arg.startsWith "-" || arg = "-"

/-- Reads letters behind one dash.  An option that takes a value takes the rest of the letters;
if there are none, it is left over. -/
def readLetters (p : Parsing) : List Char → Except Request (Parsing × Option OptionName)
  | [] => .ok (p, none)
  | c :: cs =>
    match OptionName.ofLetter? c with
    | none => .error .usage
    | some name =>
      if name.takesValue then
        match cs with
        | [] => .ok (p, some name)
        | '=' :: value => do .ok (← p.setValue name (String.ofList value), none)
        | value => do .ok (← p.setValue name (String.ofList value), none)
      else do readLetters (← p.setFlag name) cs

/-- Reads a name behind two dashes, and the value after an equals sign if there is one; an option
that wants a value and has none is left over. -/
def readLong (p : Parsing) (text : List Char) : Except Request (Parsing × Option OptionName) :=
  let name := text.takeWhile (· ≠ '=')
  match OptionName.ofLong? (String.ofList name), text.drop name.length with
  | none, _ => .error .usage
  | some name, [] =>
    if name.takesValue then .ok (p, some name) else do .ok (← p.setFlag name, none)
  | some name, _ :: value =>
    if name.takesValue then do .ok (← p.setValue name (String.ofList value), none)
    else .error .usage

/-- Reads the arguments in order; `pending` is an option whose value comes next. -/
def read (p : Parsing) (pending : Option OptionName) : List String → Step
  | [] => if pending.isSome then .error .usage else .ok p
  | arg :: args =>
    match pending with
    | some name =>
      if isValue arg then do read (← p.setValue name arg) none args else .error .usage
    | none =>
      if isValue arg then do read (← p.setPath arg) none args
      else
        match arg.toList with
        | ['-', '-'] => args.foldlM setPath p
        | '-' :: '-' :: text => do
          let (p, pending) ← p.readLong text
          read p pending args
        | _ :: letters => do
          let (p, pending) ← p.readLetters letters
          read p pending args
        | [] => .error .usage

end Parsing

/-- What the arguments ask for. -/
def Request.ofArgs (args : List String) : Request :=
  match Parsing.read {} none args with
  | .error request => request
  | .ok p => if p.options.paths.isEmpty then .usage else .analyse p.options

end LogTriage.CommandLine
