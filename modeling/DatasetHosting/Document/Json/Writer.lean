import DatasetHosting.Document.Json.Basic

/-!
# Document/Json/Writer — writing JSON text

Values are written without blanks. In a string the double quote, the backslash and the controls are
escaped, and everything else stands as it is.
-/

namespace DatasetHosting.Json

/-- A control character as an escape of four digits. -/
def escapeControl (c : Char) : List Char :=
  ['\\', 'u', '0', '0', Nat.digitChar (c.toNat / 16), Nat.digitChar (c.toNat % 16)]

/-- One character of a string. -/
def escapeChar (c : Char) : List Char :=
  if c = '"' then ['\\', '"']
  else if c = '\\' then ['\\', '\\']
  else if c = '\x08' then ['\\', 'b']
  else if c = '\x0C' then ['\\', 'f']
  else if c = '\n' then ['\\', 'n']
  else if c = '\r' then ['\\', 'r']
  else if c = '\t' then ['\\', 't']
  else if c.toNat < 0x20 then escapeControl c
  else [c]

/-- A string between its quotes. A text that is none is written as half of a pair. -/
def writeText : JsonText → List Char
  | some s => '"' :: s.toList.flatMap escapeChar ++ ['"']
  | none => "\"\\ud800\"".toList

/-- A minus sign where one belongs. -/
def writeSign (negative : Bool) : List Char :=
  if negative then ['-'] else []

/-- The digits behind the point, and the point in front of them. -/
def writeDecimals : List Char → List Char
  | [] => []
  | decimals => '.' :: decimals

/-- A number; one that is not whole is written with an exponent. -/
def writeNumber : JsonNumber → List Char
  | .whole negative magnitude => writeSign negative ++ (toString magnitude).toList
  | .scaled negative whole decimals exponent =>
    writeSign negative ++ whole ++ writeDecimals decimals ++ 'e' :: (toString exponent).toList

mutual

/-- The characters of a value. -/
def writeValue : Json → List Char
  | .null => "null".toList
  | .boolean true => "true".toList
  | .boolean false => "false".toList
  | .number value => writeNumber value
  | .text value => writeText value
  | .list [] => ['[', ']']
  | .list (item :: items) => '[' :: writeValue item ++ writeItems items
  | .object [] => ['\x7b', '\x7d']
  | .object ((key, value) :: entries) =>
    '\x7b' :: writeText key ++ ':' :: writeValue value ++ writeEntries entries

/-- The further items of a list and its closing bracket. -/
def writeItems : List Json → List Char
  | [] => [']']
  | item :: items => ',' :: writeValue item ++ writeItems items

/-- The further entries of an object and its closing brace. -/
def writeEntries : List (JsonText × Json) → List Char
  | [] => ['\x7d']
  | (key, value) :: entries => ',' :: writeText key ++ ':' :: writeValue value ++ writeEntries entries

end

/-- **The JSON text of a value.** -/
def write (value : Json) : String :=
  String.ofList (writeValue value)

end DatasetHosting.Json
