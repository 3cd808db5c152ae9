/-!
# Document/Decimal — decimal numbers beside floating point

Readers that turn decimals into 64-bit floating-point numbers refuse those that would become infinite.
There are two ways to find out. The exact one rounds the decimal itself. The quick one keeps as many digits
as fit into 64 bits, rounds them and a power of ten, and rounds the product; near the bound it differs.
-/

namespace DatasetHosting

/-! ## Rounding the decimal -/

/-- What rounds to infinity: 2^1024 less half a unit in the last place. -/
def infiniteFrom : Nat :=
  Nat.pow 2 1024 - Nat.pow 2 970

/-- **Whether the decimal, rounded to 64-bit floating point, is finite.** Only a number of 309 digits
has to be compared with the bound. -/
def isFiniteDecimal (digits : Nat) (exponent : Int) : Bool :=
  let size := (toString digits).length + exponent
  if digits = 0 ∨ size ≤ 308 then true
  else if 310 ≤ size then false
  else if 0 ≤ exponent then digits * Nat.pow 10 exponent.toNat < infiniteFrom
  else digits < infiniteFrom * Nat.pow 10 (-exponent).toNat

/-! ## Rounding a product -/

/-- The nearest number with 53 binary digits, of two equally near ones the even one. -/
def roundToDouble (n : Nat) : Nat :=
  let unit := Nat.pow 2 (n.log2 - 52)
  let low := n / unit
  let rest := 2 * (n % unit)
  if rest < unit ∨ (rest = unit ∧ low % 2 = 0) then low * unit else (low + 1) * unit

/-- Takes digits up as long as the number fits into 64 bits: the number, and the digits left over. -/
def takeDigits (n : Nat) : List Char → Nat × List Char
  | [] => (n, [])
  | d :: ds =>
    let next := 10 * n + (d.toNat - 48)
    if next < UInt64.size then takeDigits next ds else (n, d :: ds)

/-- **Whether the decimal is finite in quick arithmetic.** Digits of the whole that are left over raise the
exponent, decimals that are left over do not count. A negative exponent divides, which keeps any number
finite. -/
def isFiniteProduct (whole decimals : List Char) (exponent : Int) : Bool :=
  let (n, wholeLeft) := takeDigits 0 whole
  let (significand, decimalsLeft) := takeDigits n decimals
  let exponent := exponent + wholeLeft.length + decimalsLeft.length - decimals.length
  significand = 0 || exponent < 0 ||
    (exponent ≤ 308 &&
      roundToDouble (roundToDouble significand * roundToDouble (Nat.pow 10 exponent.toNat)) <
        Nat.pow 2 1024)

end DatasetHosting
