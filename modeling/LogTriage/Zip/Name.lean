import LogTriage.Text.Utf8

/-!
# Names in archives

Names are written in UTF-8 where the archive says so, and else in the old code page of the
machines that archives come from: ASCII below, and above it letters, frames and signs.
-/

namespace LogTriage.Zip

/-- The characters of the bytes from 128 on. -/
def upperHalf : Array Char :=
  ("ÇüéâäàåçêëèïîìÄÅÉæÆôöòûùÿÖÜ¢£¥₧ƒáíóúñÑªº¿⌐¬½¼¡«»"
    ++ "░▒▓│┤╡╢╖╕╣║╗╝╜╛┐└┴┬├─┼╞╟╚╔╩╦╠═╬╧╨╤╥╙╘╒╓╫╪┘┌█▄▌▐▀"
    ++ "αßΓπΣσµτΦΘΩδ∞φε∩≡±≥≤⌠⌡÷≈°∙·√ⁿ²■\u00A0").toList.toArray

def codePageChar (b : UInt8) : Char :=
  if b < 128 then Char.ofNat b.toNat else upperHalf.getD (b.toNat - 128) ' '

/-- The name that bytes stand for. -/
def name (isUtf8 : Bool) (bs : Bytes) : String :=
  if isUtf8 then Text.ofUtf8Lossy bs else String.ofList (bs.map codePageChar)

end LogTriage.Zip
