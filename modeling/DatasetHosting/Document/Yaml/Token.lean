import DatasetHosting.Document.Yaml.Scalar

/-!
# Document/Yaml/Token — the tokens of a YAML text

Signs, scalars and properties stand in the text. The starts and ends of block collections and the marks of
simple keys do not: the lexer puts them in where indentation and colons imply them.

A tag is made of bytes. Escapes in it may write any that have the form of UTF-8, also those that encode no
character, and what stands behind a zero byte does not count.
-/

namespace DatasetHosting.Yaml

/-- A tag, or a part of one: bytes. -/
abbrev Tag := List UInt8

namespace Tag

/-- A tag of ASCII characters. -/
def ofAscii (s : String) : Tag :=
  s.toList.map Char.toUInt8

/-- The bytes in front of the first zero. -/
def beforeZero (bytes : Tag) : Tag :=
  bytes.takeWhile (· != 0)

/-- The local tag without a name. -/
def bang : Tag := ofAscii "!"

end Tag

/-- A token. -/
inductive Token where
  /-- The version of the notation. -/
  | version (major minor : Nat)
  /-- A shorthand for tags and what it stands for. -/
  | tagShorthand (handle : String) (expansion : Tag)
  | documentStart
  | documentEnd
  | blockSequenceStart
  | blockMappingStart
  | blockEnd
  | flowSequenceStart
  | flowSequenceEnd
  | flowMappingStart
  | flowMappingEnd
  | blockEntry
  | flowEntry
  | key
  | value
  | alias (name : String)
  | anchor (name : String)
  /-- A tag: a shorthand, empty for a whole tag, and what follows it. -/
  | tag (handle : String) (suffix : Tag)
  | scalar (style : Style) (text : String)
  deriving DecidableEq, Repr, Inhabited

/-! ## Properties and directives -/

/-- The characters of names. -/
def isNameChar (c : Char) : Bool :=
  c.isAlphanum || c == '_' || c == '-'

/-- The signs that may follow a name without a gap. -/
def isNameEnd (c : Char) : Bool :=
  c == '?' || c == ':' || c == ',' || c == ']' || c == '\x7d' || c == '%' || c == '@' || c == '\x60'

/-- The name of an anchor or an alias, behind its sign. -/
def readName? (text : Text) : Option (String × Text) :=
  let name := takeWhere text isNameChar
  let rest := skipWhere text isNameChar
  if name.isEmpty || !(atGap rest || startsWhere rest isNameEnd) then none
  else some (String.ofList name, rest)

/-- The characters of tags besides those of names and escapes. -/
def isTagSign (c : Char) : Bool :=
  c == ';' || c == '/' || c == '?' || c == ':' || c == '@' || c == '&' || c == '=' || c == '+' ||
    c == '$' || c == '.' || c == '!' || c == '~' || c == '*' || c == '\'' || c == '(' || c == ')'

/-- The signs that only a whole tag may hold. -/
def isWholeTagSign (c : Char) : Bool :=
  c == ',' || c == '[' || c == ']'

/-- How many bytes follow the first byte of a character, by the form of that byte. -/
def followers? (byte : Nat) : Option Nat :=
  if byte < 0x80 then some 0
  else if 0xC0 ≤ byte ∧ byte ≤ 0xDF then some 1
  else if 0xE0 ≤ byte ∧ byte ≤ 0xEF then some 2
  else if 0xF0 ≤ byte ∧ byte ≤ 0xF7 then some 3
  else none

/-- How many bytes are still to follow behind one more byte, if it may stand there. -/
def stillToFollow? (byte : Nat) : Nat → Option Nat
  | 0 => followers? byte
  | left + 1 => if 0x80 ≤ byte ∧ byte ≤ 0xBF then some left else none

/-- The bytes of a tag: characters and escapes of two digits, and what follows them. While bytes of an
escaped character are still to follow, so many as `left` says, only escapes may stand. -/
def readTagBytes? (whole : Bool) (left : Nat) : Text → Option (Tag × Text)
  | [] => if left = 0 then some ([], []) else none
  | p :: rest =>
    if p.char = '%' then
      match rest with
      | a :: b :: rest => do
        let byte := 16 * (← Json.hexDigit? a.char) + (← Json.hexDigit? b.char)
        let (bytes, after) ← readTagBytes? whole (← stillToFollow? byte left) rest
        return (UInt8.ofNat byte :: bytes, after)
      | _ => none
    else if left ≠ 0 then none
    else if isNameChar p.char || isTagSign p.char || (whole && isWholeTagSign p.char) then do
      let (bytes, after) ← readTagBytes? whole 0 rest
      return (p.char.toUInt8 :: bytes, after)
    else some ([], p :: rest)

/-- A part of a tag that must not be empty. Bytes behind a zero count for that, but go. -/
def readTagPart? (whole : Bool) (text : Text) : Option (Tag × Text) := do
  let (bytes, rest) ← readTagBytes? whole 0 text
  if bytes.isEmpty then none
  return (bytes.beforeZero, rest)

/-- A shorthand at the front of a tag: an exclamation mark, a name, and one more mark. -/
def readHandle? (text : Text) : Option (String × Text) :=
  let name := takeWhere (text.drop 1) isNameChar
  let rest := skipWhere (text.drop 1) isNameChar
  if startsWith text '!' && startsWith rest '!' then
    some (String.ofList ('!' :: name ++ ['!']), rest.drop 1)
  else none

/-- **A tag**, from its exclamation mark on. A whole tag stands in angle brackets; any other starts with a
shorthand, or with the mark alone, which is the shorthand of local tags. -/
def readTag? (inFlow : Bool) (text : Text) : Option (Token × Text) := do
  let (token, rest) ←
    if startsWith (text.drop 1) '<' then do
      let (suffix, rest) ← readTagPart? true (text.drop 2)
      if !startsWith rest '>' then none
      some (Token.tag "" suffix, rest.drop 1)
    else
      match readHandle? text with
      | some (handle, rest) => do
        let (suffix, rest) ← readTagPart? false rest
        some (Token.tag handle suffix, rest)
      | none => do
        let (bytes, rest) ← readTagBytes? false 0 (text.drop 1)
        let suffix := bytes.beforeZero
        some (if suffix.isEmpty then Token.tag "" Tag.bang else Token.tag "!" suffix, rest)
  if atGap rest || (inFlow && startsWith rest ',') then some (token, rest) else none

/-- A number of at most nine digits. -/
def readVersionNumber? (text : Text) : Option (Nat × Text) :=
  let digits := takeWhere text Char.isDigit
  if digits.isEmpty || 9 < digits.length then none
  else some (DatasetHosting.Text.digitsValue 0 digits, skipWhere text Char.isDigit)

/-- The version behind its directive's name. -/
def readVersion? (text : Text) : Option (Token × Text) := do
  let (major, rest) ← readVersionNumber? (skipWhere text isBlank)
  if !startsWith rest '.' then none
  let (minor, rest) ← readVersionNumber? (rest.drop 1)
  return (.version major minor, rest)

/-- The shorthand in a directive: marks around a name, or a mark alone. -/
def readShorthand? (text : Text) : Option (String × Text) :=
  match readHandle? text with
  | some read => some read
  | none =>
    if startsWith text '!' && !startsWhere (text.drop 1) isNameChar then some ("!", text.drop 1)
    else none

/-- The shorthand and its expansion behind their directive's name. -/
def readTagShorthand? (text : Text) : Option (Token × Text) := do
  let (handle, rest) ← readShorthand? (skipWhere text isBlank)
  if !startsWhere rest isBlank then none
  let (expansion, rest) ← readTagPart? true (skipWhere rest isBlank)
  if !atGap rest then none
  return (.tagShorthand handle expansion, rest)

/-- **A directive**, behind its sign, with the rest of its line. -/
def readDirective? (text : Text) : Option (Token × Text) := do
  let name := takeWhere text isNameChar
  let rest := skipWhere text isNameChar
  if !atGap rest then none
  let (token, rest) ←
    if name = "YAML".toList then readVersion? rest
    else if name = "TAG".toList then readTagShorthand? rest
    else none
  return (token, ← skipToLineEnd? rest)

end DatasetHosting.Yaml
