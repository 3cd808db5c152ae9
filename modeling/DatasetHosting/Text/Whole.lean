/-!
# Text/Whole — whole numbers in decimal digits

Reading is strict: ASCII digits only, at least one of them, with an optional sign where a sign is
allowed, and no blanks. Leading zeros are digits like any other.
-/

namespace DatasetHosting.Text

/-- The number that decimal digits write, continuing from `acc`. -/
def digitsValue (acc : Nat) (ds : List Char) : Nat :=
  ds.foldl (fun n d => 10 * n + (d.toNat - 48)) acc

/-- A natural number in decimal digits. -/
def readNat? (cs : List Char) : Option Nat :=
  if cs ≠ [] ∧ cs.all Char.isDigit then some (digitsValue 0 cs) else none

/-- The largest signed number of 64 bits. -/
def maxInt64 : Int := 0x7FFFFFFFFFFFFFFF

/-- The smallest signed number of 64 bits. -/
def minInt64 : Int := -0x8000000000000000

/-- A signed whole number: digits after at most one sign. -/
def readInt? : List Char → Option Int
  | '-' :: ds => (readNat? ds).map fun n => -(n : Int)
  | '+' :: ds => (readNat? ds).map Int.ofNat
  | ds => (readNat? ds).map Int.ofNat

/-- A signed whole number that fits into 64 bits. -/
def readInt64? (cs : List Char) : Option Int :=
  (readInt? cs).filter fun n => minInt64 ≤ n && n ≤ maxInt64

end DatasetHosting.Text
