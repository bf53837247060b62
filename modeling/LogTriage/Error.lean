import LogTriage.Catalog
import LogTriage.Config
import LogTriage.Line.Error
import LogTriage.Phase.Error

/-!
# Errors

Why a log could not be analysed at all, by the part of the program that says so.
-/

namespace LogTriage

inductive TriageError where
  | table (error : TableError)
  | stream (error : StreamError)
  | line (error : LineError)
  | catalog (error : CatalogError)
  | config (error : ConfigError)
  /-- Reading or writing under `path` failed during `operation`. -/
  | io (path operation cause : String)
deriving DecidableEq, Inhabited

namespace TriageError

def message : TriageError → String
  | table error => "Phase table error: " ++ error.message
  | stream error => "Stream error: " ++ error.message
  | line error => "Line error: " ++ error.message
  | catalog error => "Catalog error: " ++ error.message
  | config error => "Configuration error: " ++ error.message
  | io path operation cause =>
    "I/O error during " ++ operation ++ " on '" ++ path ++ "': " ++ cause

/-- The messages of the errors beneath this one, outermost first. -/
def causes : TriageError → List String
  | table error => error.message :: error.causes
  | stream error => error.message :: error.causes
  | line error => error.message :: error.causes
  | catalog error => error.message :: error.causes
  | config error => error.message :: error.causes
  | io _ _ cause => [cause]

end TriageError

end LogTriage
