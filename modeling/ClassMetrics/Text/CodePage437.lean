import ClassMetrics.Prelude

/-!
Code page 437, the character set of archive entry names that are not marked as UTF-8: the
lower half is ASCII, the upper half the letters, box drawing and symbols below.
-/

namespace ClassMetrics.CodePage437

/-- The characters of the bytes `0x80` to `0xFF`, in order. -/
def upperHalf : List Char :=
  "ÇüéâäàåçêëèïîìÄÅÉæÆôöòûùÿÖÜ¢£¥₧ƒáíóúñÑªº¿⌐¬½¼¡«»░▒▓│┤╡╢╖╕╣║╗╝╜╛┐└┴┬├─┼╞╟╚╔╩╦╠═╬╧╨╤╥╙╘╒╓╫╪┘┌█▄▌▐▀αßΓπΣσµτΦΘΩδ∞φε∩≡±≥≤⌠⌡÷≈°∙·√ⁿ²■\u00a0".toList

/-- The character of a byte. -/
def decodeByte (b : UInt8) : Char :=
  if b < 0x80 then Char.ofNat b.toNat else upperHalf.getD (b.toNat - 0x80) ' '

/-- The text of some bytes. -/
def decode (bytes : List UInt8) : String := String.ofList (bytes.map decodeByte)

end ClassMetrics.CodePage437
