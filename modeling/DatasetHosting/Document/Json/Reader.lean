import DatasetHosting.Document.Json.Basic
import DatasetHosting.Text.Whole

/-!
# Document/Json/Reader — reading JSON text

The reader is strict: one value, with nothing but spaces, tabs and line ends around it. Each reader takes
its part off the front of the text and returns the rest. The readers of nested values count down a number
of steps that the length of the text bounds.
-/

namespace DatasetHosting.Json

open DatasetHosting.Text

/-- The blanks of the notation. -/
def isSpace (c : Char) : Bool :=
  c == ' ' || c == '\t' || c == '\n' || c == '\r'

/-- The text less its leading blanks. -/
def skipSpace (cs : List Char) : List Char :=
  cs.dropWhile isSpace

/-! ## Strings -/

/-- The value of a hexadecimal digit. -/
def hexDigit? (c : Char) : Option Nat :=
  if c.isDigit then some (c.toNat - 48)
  else if 'a' ≤ c ∧ c ≤ 'f' then some (c.toNat - 87)
  else if 'A' ≤ c ∧ c ≤ 'F' then some (c.toNat - 55)
  else none

/-- The value of hexadecimal digits. -/
def hexValue? (ds : List Char) : Option Nat :=
  ds.foldlM (fun n d => (hexDigit? d).map (16 * n + ·)) 0

/-- One piece of a string: a character, or half of a surrogate pair. -/
inductive Piece where
  | char (c : Char)
  | half (code : Nat)
  deriving DecidableEq, Repr

/-- The piece that a code of four digits names. -/
def Piece.ofCode (code : Nat) : Piece :=
  if 0xD800 ≤ code ∧ code ≤ 0xDFFF then half code else char (Char.ofNat code)

/-- The character that a letter behind a backslash names. -/
def simpleEscape? (c : Char) : Option Char :=
  if c = '"' ∨ c = '\\' ∨ c = '/' then some c
  else if c = 'b' then some '\x08'
  else if c = 'f' then some '\x0C'
  else if c = 'n' then some '\n'
  else if c = 'r' then some '\r'
  else if c = 't' then some '\t'
  else none

/-- The pieces of a string behind its opening quote, and what follows its closing quote. -/
def pieces? : List Char → Option (List Piece × List Char)
  | [] => none
  | '"' :: rest => some ([], rest)
  | '\\' :: 'u' :: a :: b :: c :: d :: rest => do
    let code ← hexValue? [a, b, c, d]
    let (ps, after) ← pieces? rest
    return (.ofCode code :: ps, after)
  | '\\' :: c :: rest => do
    let escaped ← simpleEscape? c
    let (ps, after) ← pieces? rest
    return (.char escaped :: ps, after)
  | c :: rest =>
    if c.toNat < 0x20 ∨ c = '\\' then none
    else do
      let (ps, after) ← pieces? rest
      return (.char c :: ps, after)

/-- The character that two halves of a surrogate pair write. -/
def joinHalves (high low : Nat) : Char :=
  Char.ofNat (0x10000 + (high - 0xD800) * 0x400 + (low - 0xDC00))

/-- The characters of some pieces, if every half of a pair stands in front of its other half. -/
def join? : List Piece → Option (List Char)
  | [] => some []
  | .char c :: rest => (join? rest).map (c :: ·)
  | .half high :: .half low :: rest =>
    if high < 0xDC00 ∧ 0xDC00 ≤ low then (join? rest).map (joinHalves high low :: ·) else none
  | .half _ :: _ => none

/-- A string behind its opening quote. -/
def readText? (cs : List Char) : Option (JsonText × List Char) := do
  let (ps, rest) ← pieces? cs
  return ((join? ps).map String.ofList, rest)

/-! ## Numbers -/

/-- One digit or more. -/
def readDigits? (cs : List Char) : Option (List Char × List Char) :=
  match cs.takeWhile Char.isDigit with
  | [] => none
  | ds => some (ds, cs.dropWhile Char.isDigit)

/-- The digits before the point: a zero alone, or digits that start with another. -/
def readWhole? : List Char → Option (List Char × List Char)
  | '0' :: rest => some (['0'], rest)
  | cs => readDigits? cs

/-- The fraction, if the text goes on with a point. -/
def readFraction? : List Char → Option (Option (List Char) × List Char)
  | '.' :: rest => (readDigits? rest).map fun (ds, after) => (some ds, after)
  | cs => some (none, cs)

/-- The digits of an exponent behind its optional sign. -/
def readSigned? : List Char → Option (Int × List Char)
  | '-' :: rest => (readDigits? rest).map fun (ds, after) => (-(digitsValue 0 ds : Int), after)
  | '+' :: rest => (readDigits? rest).map fun (ds, after) => ((digitsValue 0 ds : Int), after)
  | rest => (readDigits? rest).map fun (ds, after) => ((digitsValue 0 ds : Int), after)

/-- The exponent, if the text goes on with its letter. -/
def readExponent? : List Char → Option (Option Int × List Char)
  | 'e' :: rest => (readSigned? rest).map fun (n, after) => (some n, after)
  | 'E' :: rest => (readSigned? rest).map fun (n, after) => (some n, after)
  | cs => some (none, cs)

/-- A number without its sign. -/
def readUnsigned? (negative : Bool) (cs : List Char) : Option (JsonNumber × List Char) := do
  let (whole, cs) ← readWhole? cs
  let (fraction, cs) ← readFraction? cs
  let (exponent, cs) ← readExponent? cs
  match fraction, exponent with
  | none, none => return (.whole negative (digitsValue 0 whole), cs)
  | _, _ => return (.scaled negative whole (fraction.getD []) (exponent.getD 0), cs)

/-- A number. -/
def readNumber? : List Char → Option (JsonNumber × List Char)
  | '-' :: rest => readUnsigned? true rest
  | cs => readUnsigned? false cs

/-! ## Values -/

mutual

/-- The value at the front of a text, in so many steps. -/
def readValue? : Nat → List Char → Option (Json × List Char)
  | 0, _ => none
  | steps + 1, cs =>
    match skipSpace cs with
    | 'n' :: 'u' :: 'l' :: 'l' :: rest => some (.null, rest)
    | 't' :: 'r' :: 'u' :: 'e' :: rest => some (.boolean true, rest)
    | 'f' :: 'a' :: 'l' :: 's' :: 'e' :: rest => some (.boolean false, rest)
    | '"' :: rest => do
      let (value, after) ← readText? rest
      return (.text value, after)
    | '[' :: rest =>
      match skipSpace rest with
      | ']' :: after => some (.list [], after)
      | _ => do
        let (items, after) ← readItems? steps rest
        return (.list items, after)
    | '\x7b' :: rest =>
      match skipSpace rest with
      | '\x7d' :: after => some (.object [], after)
      | _ => do
        let (entries, after) ← readEntries? steps rest
        return (.object entries, after)
    | rest => do
      let (value, after) ← readNumber? rest
      return (.number value, after)

/-- One item or more, and what follows the closing bracket. -/
def readItems? : Nat → List Char → Option (List Json × List Char)
  | 0, _ => none
  | steps + 1, cs => do
    let (item, rest) ← readValue? steps cs
    match skipSpace rest with
    | ']' :: after => return ([item], after)
    | ',' :: more => do
      let (items, after) ← readItems? steps more
      return (item :: items, after)
    | _ => none

/-- One entry or more, and what follows the closing brace. -/
def readEntries? : Nat → List Char → Option (List (JsonText × Json) × List Char)
  | 0, _ => none
  | steps + 1, cs =>
    match skipSpace cs with
    | '"' :: start => do
      let (key, rest) ← readText? start
      match skipSpace rest with
      | ':' :: rest => do
        let (value, rest) ← readValue? steps rest
        match skipSpace rest with
        | '\x7d' :: after => return ([(key, value)], after)
        | ',' :: more => do
          let (entries, after) ← readEntries? steps more
          return ((key, value) :: entries, after)
        | _ => none
      | _ => none
    | _ => none

end

/-- The steps that suffice for a text: two for each character, and two. -/
def enoughSteps (cs : List Char) : Nat :=
  2 * cs.length + 2

/-- **The value that a JSON text writes.** -/
def read? (text : String) : Option Json := do
  let (value, rest) ← readValue? (enoughSteps text.toList) text.toList
  if skipSpace rest = [] then some value else none

end DatasetHosting.Json
