import DatasetHosting.Document.Json.Reader
import DatasetHosting.Document.Yaml.Place

/-!
# Document/Yaml/Scalar — the text of a scalar

A scalar is plain, between quotes of either kind, or a block of lines. In all but literal blocks, line
ends fold: one alone becomes a space, and of several the first is dropped. Every reader walks through the
text once and returns what it left.
-/

namespace DatasetHosting.Yaml

/-- How a scalar is written. -/
inductive Style where
  | plain
  | singleQuoted
  | doubleQuoted
  | literal
  | folded
  deriving DecidableEq, Repr, Inhabited

/-! ## Folding -/

/-- What stands between two words of a scalar. -/
inductive Gap where
  /-- Blanks within a line. -/
  | blanks (cs : List Char)
  /-- Line ends; the first is none if it is escaped. -/
  | breaks (first : Option Char) (more : List Char)

namespace Gap

/-- No gap. -/
def none : Gap := blanks []

/-- Whether there is no gap. -/
def isEmpty : Gap → Bool
  | blanks cs => cs.isEmpty
  | breaks .. => false

/-- Whether the gap reaches into another line. -/
def isBroken : Gap → Bool
  | blanks _ => false
  | breaks .. => true

/-- The gap with one more blank, which does not count behind a line end. -/
def addBlank (c : Char) : Gap → Gap
  | blanks cs => blanks (cs ++ [c])
  | gap => gap

/-- The gap with one more line end. Blanks before the first do not count. -/
def addBreak (c : Char) : Gap → Gap
  | blanks _ => breaks (some c) []
  | breaks first more => breaks first (more ++ [c])

/-- **What a gap becomes** in the text of the scalar. -/
def fold : Gap → List Char
  | blanks cs => cs
  | breaks (some '\n') [] => [' ']
  | breaks (some '\n') more => more
  | breaks first more => first.toList ++ more

end Gap

/-! ## Plain scalars -/

/-- The characters that end a plain scalar within brackets. -/
def isFlowEnd (c : Char) : Bool :=
  c == ',' || c == '[' || c == ']' || c == '\x7b' || c == '\x7d'

/-- A plain scalar, as it was read. -/
structure PlainRead where
  /-- Its text. -/
  value : List Char
  /-- Whether the gap behind it reaches into another line. -/
  broken : Bool
  /-- What follows it and the gap. -/
  rest : Text

/-- **Reads a plain scalar.** It ends before a colon and a gap, before a comment, before a document mark,
and before a line that is indented less than `least`; within brackets it ends before further signs, but
not before a line. `back` is what was read, last character first. -/
def readPlain? (inFlow : Bool) (least : Nat) (back : List Char) (gap : Gap) :
    Text → Option PlainRead
  | [] => some ⟨back.reverse, gap.isBroken, []⟩
  | p :: rest =>
    let stop : Option PlainRead := some ⟨back.reverse, gap.isBroken, p :: rest⟩
    if isBlank p.char then
      if gap.isBroken && p.column < least && p.char == '\t' then none
      else readPlain? inFlow least back (gap.addBlank p.char) rest
    else if isBreak p.char then readPlain? inFlow least back (gap.addBreak p.char) rest
    else if !inFlow && p.column < least && !gap.isEmpty then stop
    else if atDocumentMark (p :: rest) then stop
    else if p.char == '#' && !gap.isEmpty then stop
    else if inFlow && p.char == ':' &&
        startsWhere rest (fun c => isFlowEnd c || c == '?') then none
    else if p.char == ':' && atGap rest then stop
    else if inFlow && isFlowEnd p.char then stop
    else readPlain? inFlow least (p.char :: gap.fold.reverse ++ back) .none rest

/-! ## Quoted scalars -/

/-- **Reads a scalar in single quotes**, behind the first. A quote inside is written twice. -/
def readSingle? (back : List Char) (gap : Gap) : Text → Option (List Char × Text)
  | [] => none
  | p :: rest =>
    if isBlank p.char then readSingle? back (gap.addBlank p.char) rest
    else if isBreak p.char then readSingle? back (gap.addBreak p.char) rest
    else if atDocumentMark (p :: rest) then none
    else
      let back := gap.fold.reverse ++ back
      if p.char = '\'' then
        match rest with
        | q :: after =>
          if q.char = '\'' then readSingle? ('\'' :: back) .none after
          else some (back.reverse, rest)
        | [] => some (back.reverse, [])
      else readSingle? (p.char :: back) .none rest

/-- The character that a letter behind a backslash names in double quotes. -/
def namedEscape? (c : Char) : Option Char :=
  match c with
  | '0' => some '\x00'
  | 'a' => some '\x07'
  | 'b' => some '\x08'
  | 't' => some '\t'
  | '\t' => some '\t'
  | 'n' => some '\n'
  | 'v' => some '\x0B'
  | 'f' => some '\x0C'
  | 'r' => some '\r'
  | 'e' => some '\x1B'
  | ' ' => some ' '
  | '"' => some '"'
  | '/' => some '/'
  | '\\' => some '\\'
  | 'N' => some '\x85'
  | '_' => some '\xA0'
  | 'L' => some '\u2028'
  | 'P' => some '\u2029'
  | _ => none

/-- How many digits follow a letter that starts a code. -/
def codeLength? (c : Char) : Option Nat :=
  match c with
  | 'x' => some 2
  | 'u' => some 4
  | 'U' => some 8
  | _ => none

/-- The character of a code, if it is the code of one. -/
def charOfCode? (code : Nat) : Option Char :=
  if code.isValidChar then some (Char.ofNat code) else none

/-- Where the reader of a scalar in double quotes stands. -/
inductive DoubleState where
  /-- Outside escapes. -/
  | text
  /-- Behind a backslash. -/
  | escape
  /-- Inside a code, with so many more digits to come. -/
  | code (left value : Nat)

/-- **Reads a scalar in double quotes**, behind the first. An escaped line end joins the lines. -/
def readDouble? (state : DoubleState) (back : List Char) (gap : Gap) :
    Text → Option (List Char × Text)
  | [] => none
  | p :: rest =>
    match state with
    | .escape =>
      if isBreak p.char then readDouble? .text back (.breaks .none []) rest
      else
        match codeLength? p.char with
        | some left => readDouble? (.code left 0) back .none rest
        | none =>
          match namedEscape? p.char with
          | some c => readDouble? .text (c :: back) .none rest
          | none => none
    | .code left value =>
      match Json.hexDigit? p.char with
      | none => none
      | some digit =>
        let value := 16 * value + digit
        if left ≤ 1 then
          match charOfCode? value with
          | some c => readDouble? .text (c :: back) .none rest
          | none => none
        else readDouble? (.code (left - 1) value) back .none rest
    | .text =>
      if isBlank p.char then readDouble? .text back (gap.addBlank p.char) rest
      else if isBreak p.char then readDouble? .text back (gap.addBreak p.char) rest
      else if atDocumentMark (p :: rest) then none
      else
        let back := gap.fold.reverse ++ back
        if p.char = '"' then some (back.reverse, rest)
        else if p.char = '\\' then readDouble? .escape back .none rest
        else readDouble? .text (p.char :: back) .none rest

/-! ## Block scalars -/

/-- What becomes of the line ends behind a block. -/
inductive Chomping where
  /-- All are dropped. -/
  | strip
  /-- The first is kept. -/
  | clip
  /-- All are kept. -/
  | keep
  deriving DecidableEq

/-- The chomping that a sign asks for. -/
def chompingOf? (c : Char) : Option Chomping :=
  if c = '+' then some .keep else if c = '-' then some .strip else none

/-- The indentation that a digit asks for. -/
def indentOf? (c : Char) : Option Nat :=
  if c.isDigit then some (c.toNat - 48) else none

/-- A chomping sign and an indentation digit, in either order and each at most once. -/
def readHeader? (text : Text) : Option (Chomping × Option Nat × Text) :=
  let sign := fun text : Text => text.head?.bind (chompingOf? ·.char)
  let digit := fun text : Text => text.head?.bind (indentOf? ·.char)
  let (chomping, indent, rest) :=
    match sign text with
    | some chomping => (chomping, digit (text.drop 1),
        if (digit (text.drop 1)).isSome then text.drop 2 else text.drop 1)
    | none =>
      match digit text with
      | some indent => ((sign (text.drop 1)).getD .clip, some indent,
          if (sign (text.drop 1)).isSome then text.drop 2 else text.drop 1)
      | none => (.clip, none, text)
  if indent = some 0 then none else some (chomping, indent, rest)

/-- The line ends in front of a block whose indentation is not given, the deepest column reached among
them, and the rest. -/
def readLeading? (breaks : List Char) (deepest : Nat) : Text → Option (List Char × Nat × Text)
  | [] => some (breaks, deepest, [])
  | p :: rest =>
    if p.char = ' ' then readLeading? breaks deepest rest
    else if p.char = '\t' then none
    else if isBreak p.char then readLeading? (breaks ++ [p.char]) (max deepest p.column) rest
    else some (breaks, max deepest p.column, p :: rest)

/-- The lines of a block that have been read. -/
structure BlockRead where
  /-- The text up to the last line that is not empty, last character first. -/
  back : List Char := []
  /-- The line end of that line. -/
  lead : Option Char := none
  /-- The line ends behind it. -/
  trail : List Char := []
  /-- Whether that line starts with a blank. -/
  blankStart : Bool := false

namespace BlockRead

/-- A new line that starts with the given character. In a folded block the line end before it becomes a
space or goes, unless one of the two lines starts with a blank. -/
def startLine (block : BlockRead) (literal : Bool) (c : Char) : BlockRead :=
  let joined : List Char :=
    if !literal && block.lead == some '\n' && !block.blankStart && !isBlank c then
      if block.trail.isEmpty then [' '] else block.trail
    else block.lead.toList ++ block.trail
  { back := joined.reverse ++ block.back, lead := none, trail := [], blankStart := isBlank c }

/-- The text of a finished block. -/
def finish (block : BlockRead) (chomping : Chomping) : List Char :=
  let lead := if chomping = .strip then [] else block.lead.toList
  let trail := if chomping = .keep then block.trail else []
  block.back.reverse ++ lead ++ trail

end BlockRead

/-- Reads the lines of a block of the given indentation. -/
def readLines? (literal : Bool) (indent : Nat) (inLine : Bool) (block : BlockRead) :
    Text → Option (BlockRead × Text)
  | [] => some (block, [])
  | p :: rest =>
    if inLine then
      if isBreak p.char then
        readLines? literal indent false { block with lead := some p.char } rest
      else readLines? literal indent true { block with back := p.char :: block.back } rest
    else if p.char = ' ' ∧ p.column < indent then readLines? literal indent false block rest
    else if p.char = '\t' ∧ p.column < indent then none
    else if isBreak p.char then
      readLines? literal indent false { block with trail := block.trail ++ [p.char] } rest
    else if p.column = indent then
      let block := block.startLine literal p.char
      readLines? literal indent true { block with back := p.char :: block.back } rest
    else some (block, p :: rest)

/-- **Reads a block scalar** behind its sign, in a block that is indented by `outer` columns, or by none
at the top. -/
def readBlock? (literal : Bool) (outer : Option Nat) (text : Text) :
    Option (List Char × Text) := do
  let (chomping, given, rest) ← readHeader? text
  let rest ← skipToLineEnd? rest
  match given with
  | some more =>
    let (block, rest) ← readLines? literal (outer.getD 0 + more) false {} rest
    return (block.finish chomping, rest)
  | none =>
    let (breaks, deepest, rest) ← readLeading? [] 0 rest
    let least := match outer with
      | some column => column + 1
      | none => 0
    let indent := max (max deepest least) 1
    let (block, rest) ← readLines? literal indent false { trail := breaks } rest
    return (block.finish chomping, rest)

end DatasetHosting.Yaml
