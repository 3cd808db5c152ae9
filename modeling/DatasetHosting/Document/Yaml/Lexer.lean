import DatasetHosting.Document.Yaml.Token

/-!
# Document/Yaml/Lexer — from placed characters to tokens

The lexer keeps the columns of the open block collections and, for each open bracket and the block around
them, a token that may turn out to be a key. A deeper column opens a collection, a shallower one closes
collections, and a colon turns the candidate into a key: its mark, and the start of a mapping if its
column opens one, go in front of it. A candidate expires at the end of its line or 1024 bytes on.
-/

namespace DatasetHosting.Yaml

/-- A token that may be a key. -/
structure Candidate where
  /-- Whether nothing but a key can stand there. -/
  required : Bool
  /-- How many tokens stand before it. -/
  position : Nat
  /-- Where it starts. -/
  place : Placed

/-- Whether the candidate can no longer be a key when the lexer has come to the given place. -/
def Candidate.isExpired (candidate : Candidate) (here : Placed) : Bool :=
  candidate.place.line < here.line || candidate.place.offset + 1024 < here.offset

/-- **The state of the lexer.** -/
structure Lexer where
  /-- The tokens so far, last first. -/
  back : List Token := []
  /-- The columns of the open block collections, innermost first. -/
  indents : List Nat := []
  /-- How many brackets are open. -/
  depth : Nat := 0
  /-- Whether a key may start here. -/
  keyAllowed : Bool := true
  /-- The candidate in the block. -/
  blockCandidate : Option Candidate := none
  /-- The candidates in the open brackets, innermost first. -/
  flowCandidates : List (Option Candidate) := []

namespace Lexer

/-- Whether a bracket is open. -/
def inFlow (lexer : Lexer) : Bool :=
  lexer.depth != 0

/-- Whether the innermost open collection, if there is one, is indented less than the column. -/
def isDeeper (lexer : Lexer) (column : Nat) : Bool :=
  lexer.indents.head?.all (· < column)

/-- The lexer with one more token. -/
def push (lexer : Lexer) (token : Token) : Lexer :=
  { lexer with back := token :: lexer.back }

/-- The lexer with a token put in behind the first `position` ones. -/
def insertAt (lexer : Lexer) (position : Nat) (token : Token) : Lexer :=
  let later := lexer.back.length - position
  { lexer with back := lexer.back.take later ++ token :: lexer.back.drop later }

/-! ## Candidates -/

/-- The candidate in the innermost bracket, or in the block. -/
def candidate (lexer : Lexer) : Option Candidate :=
  match lexer.flowCandidates with
  | innermost :: _ => innermost
  | [] => lexer.blockCandidate

/-- The lexer with another candidate in the innermost bracket, or in the block. -/
def setCandidate (lexer : Lexer) (candidate : Option Candidate) : Lexer :=
  match lexer.flowCandidates with
  | _ :: outer => { lexer with flowCandidates := candidate :: outer }
  | [] => { lexer with blockCandidate := candidate }

/-- Gives the candidate up; refuses if it had to be a key. -/
def dropCandidate? (lexer : Lexer) : Option Lexer :=
  if lexer.candidate.any (·.required) then none else some (lexer.setCandidate none)

/-- Makes the next token a candidate, if a key may start here. -/
def offerCandidate? (lexer : Lexer) (here : Placed) : Option Lexer :=
  if lexer.keyAllowed then do
    let required := !lexer.inFlow && lexer.indents.head? == some here.column
    let lexer ← lexer.dropCandidate?
    return lexer.setCandidate (some ⟨required, lexer.back.length, here⟩)
  else some lexer

/-- Gives expired candidates up; refuses if one had to be a key. -/
def expire? (lexer : Lexer) (here : Placed) : Option Lexer :=
  let isExpired := fun candidate : Candidate => candidate.isExpired here
  let keep := fun candidate : Option Candidate => candidate.filter (!isExpired ·)
  if (lexer.blockCandidate :: lexer.flowCandidates).any (·.any fun c => isExpired c && c.required) then
    none
  else some { lexer with
    blockCandidate := keep lexer.blockCandidate
    flowCandidates := lexer.flowCandidates.map keep }

/-! ## Indentation -/

/-- Opens a block collection at a deeper column, with its start behind the first `position` tokens. -/
def openBlock (lexer : Lexer) (column position : Nat) (start : Token) : Lexer :=
  if !lexer.inFlow && lexer.isDeeper column then
    { lexer with indents := column :: lexer.indents }.insertAt position start
  else lexer

/-- Closes the block collections that `isOpen` does not hold open any more. -/
def closeBlocks (lexer : Lexer) (isOpen : Nat → Bool) : Lexer :=
  if lexer.inFlow then lexer
  else
    { lexer with
      back := (lexer.indents.takeWhile (!isOpen ·)).map (fun _ => Token.blockEnd) ++ lexer.back
      indents := lexer.indents.dropWhile (!isOpen ·) }

/-! ## Gaps -/

/-- Passes over blanks, comments and line ends. A tab is a blank only where no key may start; in a block, a
key may start after every line end. -/
def skipGaps (inFlow keyAllowed inComment : Bool) : Text → Bool × Text
  | [] => (keyAllowed, [])
  | p :: rest =>
    if isBreak p.char then skipGaps inFlow (keyAllowed || !inFlow) false rest
    else if inComment then skipGaps inFlow keyAllowed true rest
    else if p.char = ' ' || (p.char = '\t' && (inFlow || !keyAllowed)) ||
        (p.char = byteOrderMark && p.column = 0) then
      skipGaps inFlow keyAllowed false rest
    else if p.char = '#' then skipGaps inFlow keyAllowed true rest
    else (keyAllowed, p :: rest)

/-! ## Tokens -/

/-- A token of the document's structure: it closes all blocks. -/
def structural? (lexer : Lexer) (token : Token) : Option Lexer := do
  let lexer ← (lexer.closeBlocks fun _ => false).dropCandidate?
  return { lexer.push token with keyAllowed := false }

/-- An opening bracket. -/
def openFlow? (lexer : Lexer) (here : Placed) (token : Token) : Option Lexer := do
  let lexer ← lexer.offerCandidate? here
  return { lexer.push token with
    keyAllowed := true
    depth := lexer.depth + 1
    flowCandidates := none :: lexer.flowCandidates }

/-- A closing bracket. -/
def closeFlow? (lexer : Lexer) (token : Token) : Option Lexer := do
  let lexer ← lexer.dropCandidate?
  return { lexer.push token with
    keyAllowed := false
    depth := lexer.depth - 1
    flowCandidates := lexer.flowCandidates.drop 1 }

/-- A comma. -/
def flowEntry? (lexer : Lexer) : Option Lexer := do
  let lexer ← lexer.dropCandidate?
  return { lexer.push .flowEntry with keyAllowed := true }

/-- The dash of an item. -/
def blockEntry? (lexer : Lexer) (here : Placed) : Option Lexer := do
  if !lexer.inFlow && !lexer.keyAllowed then none
  let lexer := lexer.openBlock here.column lexer.back.length .blockSequenceStart
  let lexer ← lexer.dropCandidate?
  return { lexer.push .blockEntry with keyAllowed := true }

/-- The question mark of a key. -/
def explicitKey? (lexer : Lexer) (here : Placed) : Option Lexer := do
  if !lexer.inFlow && !lexer.keyAllowed then none
  let lexer := lexer.openBlock here.column lexer.back.length .blockMappingStart
  let lexer ← lexer.dropCandidate?
  return { lexer.push .key with keyAllowed := !lexer.inFlow }

/-- The colon of a value: it makes the candidate a key, if there is one. -/
def value? (lexer : Lexer) (here : Placed) : Option Lexer :=
  match lexer.candidate with
  | some key =>
    let lexer := lexer.insertAt key.position .key
    let lexer := lexer.openBlock key.place.column key.position .blockMappingStart
    some { (lexer.setCandidate none).push .value with keyAllowed := false }
  | none =>
    if !lexer.inFlow && !lexer.keyAllowed then none
    else
      let lexer := lexer.openBlock here.column lexer.back.length .blockMappingStart
      some { lexer.push .value with keyAllowed := !lexer.inFlow }

/-- A token that may start a key: a property, an alias or a scalar within a line. -/
def keyStart? (lexer : Lexer) (here : Placed) (token : Token) : Option Lexer := do
  let lexer ← lexer.offerCandidate? here
  return { lexer.push token with keyAllowed := false }

/-- A block scalar. -/
def blockScalar? (lexer : Lexer) (style : Style) (text : Text) : Option (Lexer × Text) := do
  let lexer ← lexer.dropCandidate?
  let (value, rest) ← readBlock? (style == .literal) lexer.indents.head? text
  return ({ lexer.push (.scalar style (String.ofList value)) with keyAllowed := true }, rest)

/-- A plain scalar. It is indented more than the block around it. -/
def plainScalar? (lexer : Lexer) (here : Placed) (text : Text) : Option (Lexer × Text) := do
  let least := match lexer.indents.head? with
    | some column => column + 1
    | none => 0
  let read ← readPlain? lexer.inFlow least [] .none text
  let lexer ← lexer.keyStart? here (.scalar .plain (String.ofList read.value))
  return ({ lexer with keyAllowed := lexer.keyAllowed || read.broken }, read.rest)

/-- Whether a plain scalar may start with the character, before the given rest. -/
def startsPlain (inFlow : Bool) (c : Char) (rest : Text) : Bool :=
  !(c == '-' || c == '?' || c == ':' || isFlowEnd c || c == '#' || c == '&' || c == '*' ||
      c == '!' || c == '|' || c == '>' || c == '\'' || c == '"' || c == '%' || c == '@' ||
      c == '\x60' || isBlank c) ||
    (c == '-' && !startsWhere rest isBlank) ||
    (!inFlow && (c == '?' || c == ':') && !atGap rest)

/-- The token at the given place and what follows it. -/
def next? (lexer : Lexer) (here : Placed) (rest : Text) : Option (Lexer × Text) :=
  let text : Text := here :: rest
  let c := here.char
  let inFlow := lexer.inFlow
  if here.column = 0 ∧ c = '%' then do
    let (token, after) ← readDirective? rest
    return (← lexer.structural? token, after)
  else if atMark text '-' then do return (← lexer.structural? .documentStart, rest.drop 2)
  else if atMark text '.' then do return (← lexer.structural? .documentEnd, rest.drop 2)
  else if c = '[' then do return (← lexer.openFlow? here .flowSequenceStart, rest)
  else if c = '\x7b' then do return (← lexer.openFlow? here .flowMappingStart, rest)
  else if c = ']' then do return (← lexer.closeFlow? .flowSequenceEnd, rest)
  else if c = '\x7d' then do return (← lexer.closeFlow? .flowMappingEnd, rest)
  else if c = ',' then do return (← lexer.flowEntry?, rest)
  else if c = '-' ∧ atGap rest then do return (← lexer.blockEntry? here, rest)
  else if c = '?' ∧ (inFlow ∨ atGap rest) then do return (← lexer.explicitKey? here, rest)
  else if c = ':' ∧ (inFlow ∨ atGap rest) then do return (← lexer.value? here, rest)
  else if c = '*' then do
    let (name, after) ← readName? rest
    return (← lexer.keyStart? here (.alias name), after)
  else if c = '&' then do
    let (name, after) ← readName? rest
    return (← lexer.keyStart? here (.anchor name), after)
  else if c = '!' then do
    let (token, after) ← readTag? inFlow text
    return (← lexer.keyStart? here token, after)
  else if c = '|' ∧ !inFlow then lexer.blockScalar? .literal rest
  else if c = '>' ∧ !inFlow then lexer.blockScalar? .folded rest
  else if c = '\'' then do
    let (value, after) ← readSingle? [] .none rest
    return (← lexer.keyStart? here (.scalar .singleQuoted (String.ofList value)), after)
  else if c = '"' then do
    let (value, after) ← readDouble? .text [] .none rest
    return (← lexer.keyStart? here (.scalar .doubleQuoted (String.ofList value)), after)
  else if startsPlain inFlow c rest then lexer.plainScalar? here text
  else none

/-- The state at the end of the text. -/
def finish? (lexer : Lexer) : Option (List Token) := do
  let lexer ← lexer.dropCandidate?
  let lexer ← { lexer with flowCandidates := [] }.dropCandidate?
  return (lexer.closeBlocks fun _ => false).back.reverse

/-- Reads tokens, in so many steps. -/
def run? : Nat → Lexer → Text → Option (List Token)
  | 0, _, _ => none
  | steps + 1, lexer, text =>
    match skipGaps lexer.inFlow lexer.keyAllowed false text with
    | (_, []) => lexer.finish?
    | (keyAllowed, here :: rest) => do
      let lexer ← { lexer with keyAllowed := keyAllowed }.expire? here
      let (lexer, after) ← (lexer.closeBlocks (· ≤ here.column)).next? here rest
      run? steps lexer after

end Lexer

/-- **All tokens of a text.** Each takes a character at least, so that one step for each character and one
for the end suffice. -/
def tokens? (text : Text) : Option (List Token) :=
  Lexer.run? (text.length + 1) {} text

end DatasetHosting.Yaml
