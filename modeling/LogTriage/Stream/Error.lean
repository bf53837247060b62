/-!
# Stream errors

What can go wrong between an attachment and its decoded bytes.
-/

namespace LogTriage

inductive StreamError where
  /-- Reading or writing failed during `operation`. -/
  | io (operation cause : String)
  /-- The archive's log is packed in a way that is not decoded. -/
  | unsupportedCodec (entry method : String)
  /-- The archive has entries, but no log. -/
  | noLogEntry (entries : Nat)
  /-- The archive is longer than it may be. -/
  | tooLarge (limit : Nat)
  /-- The decoded log goes on after `limit` bytes. -/
  | logTooLarge (limit : Nat)
  /-- The archive cannot be read. -/
  | archive (cause : String)
  /-- The name of the attachment says nothing of its encoding. -/
  | unrecognizedAttachment (fileName : String)
deriving DecidableEq, Inhabited

namespace StreamError

def message : StreamError → String
  | io operation cause => "I/O error during " ++ operation ++ ": " ++ cause
  | unsupportedCodec entry method =>
    "Archive entry '" ++ entry ++ "' uses unsupported compression method " ++ method
  | noLogEntry entries =>
    "Archive has " ++ toString entries ++ " entries but none is a .log file"
  | tooLarge limit => "Attachment exceeds the " ++ toString limit ++ "-byte spool limit"
  | logTooLarge limit => "Decoded log exceeds the " ++ toString limit ++ "-byte cap"
  | archive cause => "Unreadable archive: " ++ cause
  | unrecognizedAttachment fileName =>
    "Attachment '" ++ fileName ++ "' is not a .log, .log.gz, .gz or .zip file"

/-- The messages of the errors beneath this one, outermost first. -/
def causes : StreamError → List String
  | io _ cause | archive cause => [cause]
  | _ => []

end StreamError

end LogTriage
