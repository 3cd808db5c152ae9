/-!
# Dataset/Identifier — the identity a dataset carries in its name

A dataset is named `dataset-` followed by a UUID. The UUID may be written in four ways: 32 hexadecimal
digits, the same in groups of 8-4-4-4-12 joined by hyphens, that in braces, and that behind `urn:uuid:`
in any case. All of them denote the same 32 digits.
-/

namespace DatasetHosting

/-- A UUID as its hexadecimal digits in lower case, 32 of them. -/
structure Uuid where
  /-- The digits. -/
  digits : List Char
  deriving DecidableEq, Repr

namespace Uuid

/-- Whether the character is a hexadecimal digit of either case. -/
def isHexDigit (c : Char) : Bool :=
  c.isDigit || ('a' ≤ c && c ≤ 'f') || ('A' ≤ c && c ≤ 'F')

/-- Exactly 32 hexadecimal digits. -/
def ofPlain? (cs : List Char) : Option Uuid :=
  if cs.length = 32 ∧ cs.all isHexDigit then some ⟨cs.map Char.toLower⟩ else none

/-- The lengths of the groups in the hyphenated form. -/
def groupLengths : List Nat := [8, 4, 4, 4, 12]

/-- The text cut into groups of the given lengths, a hyphen after each group but the last. -/
def groups? : List Nat → List Char → Option (List (List Char))
  | [], cs => if cs = [] then some [] else none
  | [n], cs => if cs.length = n then some [cs] else none
  | n :: ns, cs =>
    match cs.drop n with
    | '-' :: rest => (groups? ns rest).map (cs.take n :: ·)
    | _ => none

/-- The hyphenated form. -/
def ofHyphenated? (cs : List Char) : Option Uuid :=
  (groups? groupLengths cs).bind fun groups => ofPlain? groups.flatten

/-- The name of the URN form. -/
def urnScheme : List Char := "urn:uuid:".toList

/-- **A UUID in any of its four forms.** -/
def ofText? (cs : List Char) : Option Uuid :=
  if cs.length = 32 then ofPlain? cs
  else if cs.length = 36 then ofHyphenated? cs
  else if cs.length = 38 ∧ cs.head? = some '\x7b' ∧ cs.getLast? = some '\x7d' then
    ofHyphenated? (cs.drop 1).dropLast
  else if cs.length = 45 ∧ (cs.take 9).map Char.toLower = urnScheme then ofHyphenated? (cs.drop 9)
  else none

/-- The digits from the given group on, in groups joined by hyphens. -/
def hyphenate : List Nat → List Char → List Char
  | [], _ => []
  | [_], ds => ds
  | n :: ns, ds => ds.take n ++ '-' :: hyphenate ns (ds.drop n)

/-- The hyphenated form in lower case. -/
def text (uuid : Uuid) : String :=
  String.ofList (hyphenate groupLengths uuid.digits)

end Uuid

/-- A text is refused as a UUID. What is wrong with it is worded by whoever reads UUIDs, not here. -/
structure UuidError where
  /-- The text. -/
  refused : String
  deriving DecidableEq, Repr

/-! ## Identifiers -/

/-- What the name of every dataset starts with. -/
def identifierStart : String := "dataset-"

/-- Why a name is no dataset identifier. -/
inductive IdentifierError where
  /-- It does not start like one. -/
  | missingStart (id : String)
  /-- What follows the start is no UUID. -/
  | notUuid (id : String) (error : UuidError)
  deriving DecidableEq, Repr

/-- The wording of an identifier error, which ends in that of a text refused as a UUID. -/
def IdentifierError.message (wording : UuidError → String) : IdentifierError → String
  | missingStart id => s!"identifier '{id}' lacks the '{identifierStart}' prefix"
  | notUuid id error => s!"identifier '{id}' is not a uuid: " ++ wording error

/-- **The UUID in a dataset identifier.** -/
def parseIdentifier (id : String) : Except IdentifierError Uuid :=
  if identifierStart.toList.isPrefixOf id.toList then
    let rest := id.toList.drop identifierStart.length
    match Uuid.ofText? rest with
    | some uuid => .ok uuid
    | none => .error (.notUuid id ⟨String.ofList rest⟩)
  else .error (.missingStart id)

end DatasetHosting
