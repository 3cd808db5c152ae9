import DatasetHosting.Document.Basic
import DatasetHosting.Document.Decimal
import DatasetHosting.Document.Json.Reader

/-!
# Document/Json/Document — JSON values as documents

Texts, truth values, numbers and lists are the values of these kinds. A record is an object or a list of
its fields in order; a constant is a string, or an object with the constant's name over `null`. Half a
surrogate pair is refused where the text counts, and so are numbers too large for a floating-point number
and nesting beyond `maxDepth` in a value with a tag.
-/

namespace DatasetHosting

/-- Whether the number is finite in 64-bit floating-point arithmetic. -/
def JsonNumber.isFinite : JsonNumber → Bool
  | whole _ magnitude => isFiniteProduct (Nat.toDigits 10 magnitude) [] 0
  | scaled _ digits decimals exponent => isFiniteProduct digits decimals exponent

namespace Json

/-- The deepest nesting of lists and objects in a value with a tag. -/
def maxDepth : Nat := 127

/-- A number as data. -/
def numberData? : JsonNumber → Option Data
  | n@(.whole negative magnitude) =>
    if !negative && magnitude < UInt64.size then some (.natural magnitude)
    else if negative && 0 < magnitude && magnitude ≤ UInt64.size / 2 then some (.negative magnitude)
    else if n.isFinite then some .fraction else none
  | n => if n.isFinite then some .fraction else none

mutual

/-- A value as data, with room for so many levels of nesting. -/
def toData? (room : Nat) : Json → Option Data
  | .null => some .null
  | .boolean value => some (.boolean value)
  | .number value => numberData? value
  | .text value => value.map .text
  | .list items =>
    if room = 0 then none else (itemsData? (room - 1) items).map .list
  | .object entries =>
    if room = 0 then none else (entriesData? (room - 1) entries).map .record

/-- Items as data. -/
def itemsData? (room : Nat) : List Json → Option (List Data)
  | [] => some []
  | item :: items => do
    return (← toData? room item) :: (← itemsData? room items)

/-- Entries as data. -/
def entriesData? (room : Nat) : List (JsonText × Json) → Option (List (Data × Data))
  | [] => some []
  | (key, value) :: entries => do
    return (.text (← key), ← toData? room value) :: (← entriesData? room entries)

end

/-- The text of a string. -/
def text? : Json → Option String
  | .text value => value
  | _ => none

/-- A value with its tag taken out. -/
def tagged? (tag : String) (above : Nat) : Json → Option (String × Data)
  | .object entries => do
    let isTag := fun entry : JsonText × Json => entry.1 == some tag
    match entries.filter isTag, maxDepth - above with
    | [(_, value)], room + 1 =>
      let others ← entriesData? room (entries.filter (!isTag ·))
      return (← value.text?, .record others)
    | _, _ => none
  | .list (value :: items) => do
    match maxDepth - above with
    | room + 1 => return (← value.text?, .list (← itemsData? room items))
    | 0 => none
  | _ => none

instance : Document Option Json where
  text? := text?
  boolean?
    | .boolean value => some value
    | _ => none
  natural?
    | .number (.whole false n) => some n
    | _ => none
  nullable?
    | .null => some none
    | json => some (some json)
  list?
    | .list items => some items
    | _ => none
  fields? names
    | .object entries => do
      let named ← entries.mapM fun (key, value) => key.map (·, value)
      Fields.ofEntries? names named
    | .list items => Fields.ofItems? names items
    | _ => none
  map?
    | .object entries => some (entries.map fun (key, value) => (.text key, value))
    | _ => none
  constant?
    | .text value => value
    | .object [(some name, .null)] => some name
    | _ => none
  tagged? := tagged?

end Json

end DatasetHosting
