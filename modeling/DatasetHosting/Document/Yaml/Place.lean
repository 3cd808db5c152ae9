/-!
# Document/Yaml/Place — characters with their places

Indentation carries meaning in YAML, so every character is kept with its line, its column and its offset.
Line ends of all spellings become one character here; the two Unicode separators end a line as well, but
stay what they are. A byte order mark takes a column like any other character, so that nothing behind it
stands at the start of its line. A text with a control character is no YAML.
-/

namespace DatasetHosting.Yaml

/-- A character of a text, and where it stands. -/
structure Placed where
  /-- The character. -/
  char : Char
  /-- How many line ends stand before it. -/
  line : Nat
  /-- How many characters of its line stand before it. -/
  column : Nat
  /-- How many bytes stand before it. -/
  offset : Nat
  deriving Repr, Inhabited

/-- A text, or what is left of it. -/
abbrev Text := List Placed

/-- The byte order mark. -/
def byteOrderMark : Char := '\uFEFF'

/-- Whether the character may stand in a text. -/
def isAllowed (c : Char) : Bool :=
  c == '\t' || c == '\n' || c == '\r' || (' ' ≤ c && c ≤ '~') || c == '\x85' ||
    ('\xA0' ≤ c && c ≤ '\uFFFD') || 0x10000 ≤ c.toNat

/-- Whether the character ends a line, once line ends are one character. -/
def isBreak (c : Char) : Bool :=
  c == '\n' || c == '\u2028' || c == '\u2029'

/-- Whether the character is a blank: a space or a tab. -/
def isBlank (c : Char) : Bool :=
  c == ' ' || c == '\t'

/-- The places of the characters of a text that goes on from the given place. -/
def placeFrom (line column offset : Nat) : List Char → Text
  | [] => []
  | '\r' :: '\n' :: rest => ⟨'\n', line, column, offset⟩ :: placeFrom (line + 1) 0 (offset + 2) rest
  | c :: rest =>
    let behind := offset + c.utf8Size
    let c := if c = '\r' ∨ c = '\x85' then '\n' else c
    ⟨c, line, column, offset⟩ ::
      if isBreak c then placeFrom (line + 1) 0 behind rest
      else placeFrom line (column + 1) behind rest

/-- **The text with its places**, if all its characters may stand in one. -/
def place? (cs : List Char) : Option Text :=
  if cs.all isAllowed then some (placeFrom 0 0 0 cs) else none

/-- Whether the text starts with the character. -/
def startsWith (text : Text) (c : Char) : Bool :=
  text.head?.any (·.char == c)

/-- Whether the text starts with a character of the given kind. -/
def startsWhere (text : Text) (p : Char → Bool) : Bool :=
  text.head?.any fun placed => p placed.char

/-- Whether the text starts with a line end, or is over. -/
def atLineEnd (text : Text) : Bool :=
  text.head?.all (isBreak ·.char)

/-- Whether the text starts with a blank or a line end, or is over. -/
def atGap (text : Text) : Bool :=
  text.head?.all fun placed => isBlank placed.char || isBreak placed.char

/-- Whether a line starts here with the mark three times and then a gap. -/
def atMark (text : Text) (mark : Char) : Bool :=
  match text with
  | a :: b :: c :: rest =>
    a.column == 0 && a.char == mark && b.char == mark && c.char == mark && atGap rest
  | _ => false

/-- Whether a line starts here with the mark of a new document or of the end of one. -/
def atDocumentMark (text : Text) : Bool :=
  atMark text '-' || atMark text '.'

/-- The text behind its leading characters of a kind. -/
def skipWhere (text : Text) (p : Char → Bool) : Text :=
  text.dropWhile fun placed => p placed.char

/-- The leading characters of a kind. -/
def takeWhere (text : Text) (p : Char → Bool) : List Char :=
  (text.takeWhile fun placed => p placed.char).map Placed.char

/-- The text behind the blanks of this line and a comment, if nothing else is in the line. -/
def skipToLineEnd? (text : Text) : Option Text :=
  let rest := skipWhere text isBlank
  let rest := if startsWith rest '#' then skipWhere rest (!isBreak ·) else rest
  if atLineEnd rest then some (rest.drop 1) else none

end DatasetHosting.Yaml
