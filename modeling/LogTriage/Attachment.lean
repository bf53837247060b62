import LogTriage.Text.Lowercase

/-!
# Attachments

A submitted file: where its bytes are, the name it was given, and what the name says of the way
the bytes are packed.
-/

namespace LogTriage

inductive Encoding where
  | plain
  | gzip
  | zip
deriving DecidableEq, Inhabited

namespace Encoding

def label : Encoding → String
  | plain => "plain"
  | gzip => "gzip"
  | zip => "zip"

/-- The encoding that a name ending in `.log`, `.gz` or `.zip` stands for, in capitals or not. -/
def ofFileName? (name : String) : Option Encoding :=
  let lower := name.toList.map Text.asciiLower
  if ".log".toList.isSuffixOf lower then some plain
  else if ".gz".toList.isSuffixOf lower then some gzip
  else if ".zip".toList.isSuffixOf lower then some zip
  else none

end Encoding

structure Attachment where
  /-- Where the bytes are. -/
  locator : String
  fileName : String
  declaredSize : Option Nat := none
deriving DecidableEq, Inhabited

def Attachment.encoding? (a : Attachment) : Option Encoding := Encoding.ofFileName? a.fileName

end LogTriage
