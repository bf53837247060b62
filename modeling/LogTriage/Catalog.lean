import LogTriage.Files.Basic
import LogTriage.Json.Parser
import LogTriage.Product
import LogTriage.Text.Double
import LogTriage.Text.Lowercase

/-!
# The product catalog

An export of the compatibility database: under `results`, a record for each serial.  Serials are
compared in capitals and without white space around them; of two records under one serial the
later one counts.  A record of the wrong shape spoils the whole catalog, while fields that a record
does not have are passed over.

A record may be written as an object or, by the order of its fields, as an array.
-/

namespace LogTriage

inductive CatalogError where
  | json (path cause : String)
  | fileTooLarge (path : String) (size limit : Nat)
  | io (path cause : String)
deriving DecidableEq, Inhabited

namespace CatalogError

def message : CatalogError → String
  | json path cause => "Catalog parse error '" ++ path ++ "': " ++ cause
  | fileTooLarge path size limit =>
    "Catalog '" ++ path ++ "' is " ++ toString size ++ " bytes, exceeds maximum of "
      ++ toString limit ++ " bytes"
  | io path cause => "Catalog I/O error '" ++ path ++ "': " ++ cause

/-- The messages of the errors beneath this one, outermost first. -/
def causes : CatalogError → List String
  | json _ cause | io _ cause => [cause]
  | fileTooLarge .. => []

end CatalogError

/-- The products by their serials; of two under one serial the first one counts. -/
structure Catalog where
  products : List (String × Product) := []
deriving DecidableEq, Inhabited

namespace Catalog
open Json

/-- Bytes in the file of a catalog. -/
def maxFileSize : Nat := 67108864

/-- How deep a value within a record may be nested. -/
def maxDepth : Nat := 124

/-! ### Values within a record -/

/-- A number is an integer of 64 bits or a double that is read in steps. -/
def numberInRange (text : String) : Bool :=
  let mantissa := text.toList.takeWhile fun c => c ≠ 'e' && c ≠ 'E'
  let exponent := text.toList.drop (mantissa.length + 1)
  let whole := mantissa.takeWhile (· ≠ '.')
  let fraction := mantissa.drop (whole.length + 1)
  let e : Int := Text.digitsValue 10 (exponent.filter Text.isDigit)
  let e := if exponent.head? = some '-' then -e else e
  (Text.Scaled.ofParts (whole.filter Text.isDigit) fraction e).isFinite

mutual

/-- Nested `depth` deep at most, with strings that are texts and numbers in range. -/
def wellFormed (depth : Nat) : Json.Value → Bool
  | .null | .boolean _ => true
  | .number text => numberInRange text
  | .string text => text.isSome
  | .array items => 0 < depth && allWellFormed (depth - 1) items
  | .object entries => 0 < depth && entriesWellFormed (depth - 1) entries

def allWellFormed (depth : Nat) : List Json.Value → Bool
  | [] => true
  | v :: vs => wellFormed depth v && allWellFormed depth vs

def entriesWellFormed (depth : Nat) : List (Option String × Json.Value) → Bool
  | [] => true
  | (name, v) :: rest => name.isSome && wellFormed depth v && entriesWellFormed depth rest

end

/-- A number that identifies something, as a number or as a text. -/
def idNumber? : Json.Value → Option Nat
  | .number text =>
    if text.toList.all Text.isDigit then Text.natBelow? 18446744073709551616 text.toList else none
  | .string (some text) => Text.natBelow? 18446744073709551616 (Text.trim text.toList)
  | _ => none

/-! ### Records -/

/-- A record as it is exported. -/
structure Record where
  title : Option String
  status : Option String
  date : Option String
  thread : Option Json.Value
  commit : Option String
  pullRequest : Option Json.Value
deriving Inhabited

/-- A text, or nothing. -/
def text? : Json.Value → Option (Option String)
  | .null => some none
  | .string (some s) => some (some s)
  | _ => none

/-- A value of any shape, or nothing. -/
def any? (v : Json.Value) : Option (Option Json.Value) :=
  match v with
  | .null => some none
  | v => if wellFormed maxDepth v then some (some v) else none

/-- The value of a field that comes once at most; a missing one is null. -/
def field? (entries : List (Option String × Json.Value)) (name : String) : Option Json.Value :=
  match entries.filter (·.1 == some name) with
  | [] => some .null
  | [(_, v)] => some v
  | _ => none

def Record.ofFields? (title status date thread commit pullRequest : Json.Value) :
    Option Record := do
  return {
    title := ← text? title
    status := ← text? status
    date := ← text? date
    thread := ← any? thread
    commit := ← text? commit
    pullRequest := ← any? pullRequest }

def Record.ofJson? : Json.Value → Option Record
  | .object entries =>
    if entries.all (·.1.isSome) then do
      Record.ofFields? (← field? entries "title") (← field? entries "status")
        (← field? entries "date") (← field? entries "thread") (← field? entries "commit")
        (← field? entries "pr")
    else none
  | .array [title, status, date, thread, commit] =>
    Record.ofFields? title status date thread commit .null
  | .array [title, status, date, thread, commit, pullRequest] =>
    Record.ofFields? title status date thread commit pullRequest
  | _ => none

/-- The product of a record; a pull request of zero and an empty commit stand for none. -/
def Record.product (r : Record) (serial : String) : Product :=
  { serial := some serial
    title := r.title
    status := (r.status.map Compatibility.ofLabel).getD .unknown
    thread := r.thread.bind idNumber?
    pullRequest := (r.pullRequest.bind idNumber?).filter (· ≠ 0)
    commit := r.commit.filter (· ≠ "")
    updated := r.date.bind Date.parse? }

/-! ### Catalogs -/

/-- A serial as it is compared. -/
def serialKey (serial : String) : String := Text.asciiUppered (Text.trimmed serial)

def entry? (e : Option String × Json.Value) : Option (String × Product) := do
  let serial := serialKey (← e.1)
  return (serial, (← Record.ofJson? e.2).product serial)

def ofResults? : Json.Value → Option Catalog
  | .object entries => (entries.mapM entry?).map fun products => ⟨products.reverse⟩
  | _ => none

def ofJson? : Json.Value → Option Catalog
  | .object entries =>
    if entries.all (·.1.isSome) then
      match entries.filter (·.1 == some "results") with
      | [] => some {}
      | [(_, v)] => ofResults? v
      | _ => none
    else none
  | .array [] => some {}
  | .array [v] => ofResults? v
  | _ => none

/-- The catalog that a document holds. -/
def parse (path content : String) : Except CatalogError Catalog :=
  match (Json.parse? content).bind ofJson? with
  | some catalog => .ok catalog
  | none => .error (.json path "malformed catalog")

/-- The catalog in a file. -/
def load {m : Type → Type} [Monad m] (fs : Files m) (path : String) :
    m (Except CatalogError Catalog) := do
  match ← fs.readBounded maxFileSize path with
  | .ok text => return parse path text
  | .error (.tooLarge size) => return .error (.fileTooLarge path size maxFileSize)
  | .error (.unreadable cause) => return .error (.io path cause)

/-- How many serials have a product. -/
def size (c : Catalog) : Nat := (c.products.map (·.1)).eraseDups.length

def resolve (c : Catalog) : Resolver := fun serial =>
  (c.products.lookup (Text.asciiUppered serial)).getD (.unresolved serial)

end Catalog

end LogTriage
