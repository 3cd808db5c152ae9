import DatasetHosting.Document.Basic
import DatasetHosting.Document.Decimal
import DatasetHosting.Document.Yaml.Node
import DatasetHosting.Text.Whole

/-!
# Document/Yaml/Plain — the type of a plain scalar

A plain scalar is null, a truth value, an integer in one of four bases, a floating-point number, or else a
text. Digits that start with a zero are a text, unless they are a single zero.
-/

namespace DatasetHosting.Yaml

open DatasetHosting.Text

/-- The spellings of null. -/
def isNull (s : String) : Bool :=
  ["~", "null", "Null", "NULL"].contains s

/-- The spellings of the truth values. -/
def boolean? (s : String) : Option Bool :=
  if ["true", "True", "TRUE"].contains s then some true
  else if ["false", "False", "FALSE"].contains s then some false
  else none

/-! ## Integers -/

/-- The value of digits in a base. -/
def baseValue? (base : Nat) (ds : List Char) : Option Nat :=
  if ds.isEmpty then none
  else ds.foldlM (fun n d => do
    let digit ← Json.hexDigit? d
    if digit < base then some (base * n + digit) else none) 0

/-- Whether the digits start with a zero that is not the whole number. -/
def hasLeadingZero : List Char → Bool
  | '0' :: rest => !rest.isEmpty && rest.all Char.isDigit
  | _ => false

/-- The magnitude of an integer behind its sign, in the base that its first characters name. -/
def magnitude? : List Char → Option Nat
  | '0' :: 'x' :: ds => baseValue? 16 ds
  | '0' :: 'o' :: ds => baseValue? 8 ds
  | '0' :: 'b' :: ds => baseValue? 2 ds
  | ds => if hasLeadingZero ds then none else baseValue? 10 ds

/-- A natural number, with or without a plus sign. -/
def natural? (s : String) : Option Nat :=
  match s.toList with
  | '+' :: ds => magnitude? ds
  | ds => magnitude? ds

/-! ## Floating-point numbers -/

/-- Whether the characters are a decimal in floating-point range: digits with at most one point among
them, and an exponent. -/
def isFiniteMagnitude (cs : List Char) : Bool :=
  let whole := cs.takeWhile Char.isDigit
  let rest := cs.dropWhile Char.isDigit
  let (fraction, rest) :=
    match rest with
    | '.' :: rest => (rest.takeWhile Char.isDigit, rest.dropWhile Char.isDigit)
    | rest => ([], rest)
  let digits := whole ++ fraction
  if digits.isEmpty then false
  else
    match Json.readExponent? rest with
    | some (exponent, []) =>
      isFiniteDecimal (digitsValue 0 digits) (exponent.getD 0 - fraction.length)
    | _ => false

/-- Whether the scalar is a floating-point number. Infinity has a spelling of its own, which takes a sign;
so has the value that is no number, which takes none. -/
def isFloat (s : String) : Bool :=
  [".nan", ".NaN", ".NAN"].contains s ||
  match s.toList with
  | '+' :: cs => isInfinity cs || isFiniteMagnitude cs
  | '-' :: cs => isInfinity cs || isFiniteMagnitude cs
  | cs => isInfinity cs || isFiniteMagnitude cs
where
  /-- The spellings of infinity. -/
  isInfinity (cs : List Char) : Bool :=
    [".inf", ".Inf", ".INF"].contains (String.ofList cs)

/-! ## Data -/

/-- An integer as data: one of more than 64 bits is refused. -/
def integerData? : Data → Option Data
  | .natural n => if n < UInt64.size then some (.natural n) else none
  | .negative n => if n ≤ UInt64.size / 2 then some (.negative n) else none
  | _ => none

/-- An integer of at most 128 bits. -/
def integer128? (s : String) : Option Data :=
  let size := UInt64.size * UInt64.size
  match s.toList with
  | '-' :: ds => ((magnitude? ds).filter (· ≤ size / 2)).map .negative
  | _ => ((natural? s).filter (· < size)).map .natural

/-- The text behind a sign. -/
def dropSign : List Char → List Char
  | '+' :: cs => cs
  | '-' :: cs => cs
  | cs => cs

/-- A plain scalar as data. -/
def plainData? (s : String) : Option Data :=
  if s.isEmpty || isNull s then some .null
  else
    match boolean? s, integer128? s with
    | some value, _ => some (.boolean value)
    | none, some n => integerData? n
    | none, none =>
      if !hasLeadingZero (dropSign s.toList) && isFloat s then some .fraction else some (.text s)

end DatasetHosting.Yaml
