/-!
# Table errors

Why a phase table cannot be used.
-/

namespace LogTriage

inductive TableError where
  | toml (path cause : String)
  | fileTooLarge (path : String) (size limit : Nat)
  /-- A field that is missing or blank. -/
  | missingField (tableId field : String)
  | invalidRegex (tableId phase pattern cause : String)
  | regexTooLong (tableId phase : String) (length limit : Nat)
  /-- A phase before the last one ends the section. -/
  | misplacedCompletion (tableId phase : String)
  | tooManyPhases (tableId : String) (count limit : Nat)
  | tooManyTriggers (tableId phase : String) (count limit : Nat)
  | tooManyTables (count limit : Nat)
  | unknownTable (id : String)
  | io (path cause : String)
deriving DecidableEq, Inhabited

namespace TableError

def message : TableError → String
  | toml path cause => "Failed to parse TOML '" ++ path ++ "': " ++ cause
  | fileTooLarge path size limit =>
    "Phase table '" ++ path ++ "' is " ++ toString size ++ " bytes, exceeds maximum of "
      ++ toString limit ++ " bytes"
  | missingField tableId field =>
    "Table '" ++ tableId ++ "': missing required field '" ++ field ++ "'"
  | invalidRegex tableId phase pattern cause =>
    "Table '" ++ tableId ++ "': invalid pattern in phase '" ++ phase ++ "' ('" ++ pattern
      ++ "'): " ++ cause
  | regexTooLong tableId phase length limit =>
    "Table '" ++ tableId ++ "': pattern in phase '" ++ phase ++ "' is " ++ toString length
      ++ " chars, exceeds maximum of " ++ toString limit
  | misplacedCompletion tableId phase =>
    "Table '" ++ tableId ++ "': phase '" ++ phase
      ++ "' declares stop/rearm but is not the last phase"
  | tooManyPhases tableId count limit =>
    "Table '" ++ tableId ++ "' declares " ++ toString count ++ " phases, maximum is "
      ++ toString limit
  | tooManyTriggers tableId phase count limit =>
    "Table '" ++ tableId ++ "': phase '" ++ phase ++ "' declares " ++ toString count
      ++ " triggers, maximum is " ++ toString limit
  | tooManyTables count limit =>
    "Too many phase tables loaded (" ++ toString count ++ "), maximum is " ++ toString limit
  | unknownTable id => "No phase table with id '" ++ id ++ "' is loaded"
  | io path cause => "Failed to read phase table '" ++ path ++ "': " ++ cause

/-- The messages of the errors beneath this one, outermost first. -/
def causes : TableError → List String
  | toml _ cause | invalidRegex _ _ _ cause | io _ cause => [cause]
  | _ => []

end TableError

end LogTriage
