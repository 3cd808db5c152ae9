import DatasetHosting.Text.GraphemeExtend
import DatasetHosting.Text.NonPrinting

/-!
# Text/Quoted — text as messages quote it

A quoted text stands between double quotes. The double quote, the backslash and the common controls have
an escape of one letter; combining marks and everything without a printed form appear as their code
point in hexadecimal.
-/

namespace DatasetHosting.Text

/-- A code point in braces, in lower-case hexadecimal without leading zeros. -/
def quotedCode (c : Char) : List Char :=
  ['\\', 'u', '\x7b'] ++ Nat.toDigits 16 c.toNat ++ ['\x7d']

/-- One character of a quoted text. -/
def quotedChar (c : Char) : List Char :=
  if c = '"' then ['\\', '"']
  else if c = '\\' then ['\\', '\\']
  else if c = '\n' then ['\\', 'n']
  else if c = '\r' then ['\\', 'r']
  else if c = '\t' then ['\\', 't']
  else if c = '\x00' then ['\\', '0']
  else if graphemeExtendRanges.has c || nonPrintingRanges.has c then quotedCode c
  else [c]

/-- A text between double quotes, with everything escaped that would not show. -/
def quoted (s : String) : String :=
  String.ofList ('"' :: s.toList.flatMap quotedChar ++ ['"'])

end DatasetHosting.Text
