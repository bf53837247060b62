import LogTriage.FieldMap
import LogTriage.Product
import LogTriage.Status

/-!
# Analyses

Everything that was extracted from one section of a log, safe to be shown.
-/

namespace LogTriage

structure Analysis where
  tableId : String
  /-- Place of the section in the log, from zero. -/
  index : Nat
  fields : FieldMap
  libraries : List String
  product : Product
  piracy : Option BannedHit
  /-- Whether the section was read to its end. -/
  complete : Bool
deriving DecidableEq, Inhabited

end LogTriage
