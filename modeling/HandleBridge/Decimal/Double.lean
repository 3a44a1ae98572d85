/-!
Doubles as their 64 bits in the binary64 interchange format. Two doubles are equal as terms exactly when their
bits agree; the numeric comparison, under which no NaN equals itself and both zeros are one, is a function.

A decimal is read as the double nearest to it. A tie goes to the even neighbour, a magnitude beyond the greatest double
is an infinity. A double is written as the shortest decimal that reads back as it; among the shortest ones the nearest is
taken, and of two equally near ones the greater.
-/

namespace HandleBridge

def Decimal.twoTo (k : Nat) : Nat := Nat.pow 2 k

def Decimal.tenTo (k : Nat) : Nat := Nat.pow 10 k

/-- A binary64 number, given by its bits: the sign, eleven exponent bits, 52 fraction bits. -/
structure Double where
  bits : UInt64
  deriving DecidableEq

namespace Double

def zero : Double := ⟨0⟩

def infinity : Double := ⟨0x7FF0000000000000⟩

/-- The quiet NaN with no payload. -/
def nan : Double := ⟨0x7FF8000000000000⟩

def negate (x : Double) : Double := ⟨x.bits ^^^ 0x8000000000000000⟩

/-- Whether the sign bit is set. -/
def isNegative (x : Double) : Bool := x.bits ≥ 0x8000000000000000

def exponentBits (x : Double) : Nat := x.bits.toNat / Decimal.twoTo 52 % Decimal.twoTo 11

def fractionBits (x : Double) : Nat := x.bits.toNat % Decimal.twoTo 52

/-- Whether the bits stand for no number at all. -/
def isNaN (x : Double) : Bool := x.exponentBits = 2047 ∧ x.fractionBits ≠ 0

def isInfinite (x : Double) : Bool := x.exponentBits = 2047 ∧ x.fractionBits = 0

def isZero (x : Double) : Bool := x.exponentBits = 0 ∧ x.fractionBits = 0

/-- Numeric equality: a NaN equals nothing, the zeros equal each other, and else the bits decide. -/
def numericEq (x y : Double) : Bool :=
  !x.isNaN && !y.isNaN && (x.bits = y.bits || x.isZero && y.isZero)

/-- Magnitude of a finite number as the pair of `m` and `q` in `m * 2 ^ q`. Normal numbers have an implicit
leading one, the others share the least exponent. -/
def magnitude (x : Double) : Nat × Int :=
  if x.exponentBits = 0 then (x.fractionBits,-1074)
  else (Decimal.twoTo 52 + x.fractionBits,(x.exponentBits : Int) - 1075)

end Double

end HandleBridge

namespace HandleBridge.Decimal

/-- The whole number nearest to a quotient; a half goes to the even neighbour. -/
def roundQuotient (numerator denominator : Nat) : Nat :=
  let floor := numerator / denominator
  let rest := 2 * (numerator % denominator)
  if rest < denominator then floor
  else if denominator < rest then floor + 1
  else floor + floor % 2

/-- Numerator and denominator after multiplication by `2 ^ shift`. -/
def shifted (numerator denominator : Nat) (shift : Int) : Nat × Nat :=
  (numerator * twoTo shift.toNat,denominator * twoTo (-shift).toNat)

/-- The greatest `k` with `2 ^ k ≤ numerator / denominator`, both being positive. -/
def binaryExponent (numerator denominator : Nat) : Int :=
  let guess : Int := (numerator.log2 : Int) - denominator.log2
  let (scaled,unit) := shifted numerator denominator (-guess)
  if unit ≤ scaled then guess else guess - 1

/-- Bits of the double nearest to a positive quotient. With `m * 2 ^ q` rounded to 53 digits, the fields of the
format are the sum of `m` and the exponent's place, so a carry out of the fraction raises the exponent. -/
def quotientBits (numerator denominator : Nat) : Nat :=
  let exponent := max (binaryExponent numerator denominator - 52) (-1074)
  let (scaled,unit) := shifted numerator denominator (-exponent)
  min ((exponent + 1074).toNat * twoTo 52 + roundQuotient scaled unit) (2047 * twoTo 52)

/-- Number of decimal digits, one for zero. -/
def digitCount (n : Nat) : Nat := (Nat.toDigits 10 n).length

/-- The double nearest to `digits * 10 ^ exponent`. Exponents far outside the range of doubles are answered
without computing the power. -/
def nearestDouble (digits : Nat) (exponent : Int) : Double :=
  let top := exponent + digitCount digits
  if digits = 0 ∨ top < -400 then .zero
  else if 400 < top then .infinity
  else ⟨UInt64.ofNat (quotientBits (digits * tenTo exponent.toNat) (tenTo (-exponent).toNat))⟩

/-- The double nearest to a whole number. -/
def ofInt (n : Int) : Double :=
  let magnitude := nearestDouble n.natAbs 0
  if n < 0 then magnitude.negate else magnitude

/-- The reals that round to a positive double, measured in quarters of its last binary digit. -/
structure Neighbourhood where
  low : Nat
  value : Nat
  high : Nat
  /-- Whether the two ends round to the double as well. -/
  closed : Bool
  /-- A quarter of the last binary digit is `2 ^ exponent`. -/
  exponent : Int

/-- Neighbourhood of `m * 2 ^ q`. Below a power of two the next double is only half as far. -/
def Neighbourhood.of (m : Nat) (q : Int) : Neighbourhood :=
  let below := if m = twoTo 52 ∧ -1074 < q then 1 else 2
  ⟨4 * m - below,4 * m,4 * m + 2,m % 2 = 0,q - 2⟩

/-- Numerator and denominator of the value. -/
def Neighbourhood.ratio (n : Neighbourhood) : Nat × Nat := shifted n.value 1 n.exponent

/-- Whether `digits * 10 ^ grid` lies in the neighbourhood. -/
def Neighbourhood.contains (n : Neighbourhood) (digits : Nat) (grid : Int) : Bool :=
  let unit := twoTo n.exponent.toNat * tenTo (-grid).toNat
  let point := digits * tenTo grid.toNat * twoTo (-n.exponent).toNat
  if n.closed then n.low * unit ≤ point && point ≤ n.high * unit
  else n.low * unit < point && point < n.high * unit

/-- The point of the grid of multiples of `10 ^ grid` that is nearest to the value among those in the
neighbourhood. Only the two points beside the value can be. -/
def Neighbourhood.pointOn? (n : Neighbourhood) (grid : Int) : Option Nat :=
  let (numerator,denominator) := n.ratio
  let scaled := numerator * tenTo (-grid).toNat
  let unit := denominator * tenTo grid.toNat
  let floor := scaled / unit
  let nearestFirst := if 2 * (scaled % unit) < unit then [floor,floor + 1] else [floor + 1,floor]
  nearestFirst.find? fun digits => digits != 0 && n.contains digits grid

/-- Searches ever finer grids, `fuel` of them, and answers the digits with their grid. -/
def Neighbourhood.search (n : Neighbourhood) : Nat → Int → Nat × Int
  | 0, grid => (n.ratio.1 * tenTo (-grid).toNat / (n.ratio.2 * tenTo grid.toNat),grid)
  | fuel + 1, grid =>
    match n.pointOn? grid with
    | some digits => (digits,grid)
    | none => n.search fuel (grid - 1)

/-- Digits and exponent of the shortest decimal that rounds to `m * 2 ^ q`, which is positive. Seventeen digits
always suffice; the first grid is coarser than the value by at most two places. -/
def shortest (m : Nat) (q : Int) : Nat × Int :=
  let n := Neighbourhood.of m q
  n.search 20 ((digitCount n.ratio.1 : Int) - digitCount n.ratio.2 + 1)

/-- Positional text of `digits * 10 ^ exponent`, without an exponent part. -/
def positional (digits : Nat) (exponent : Int) : List Char :=
  let text := Nat.toDigits 10 digits
  if 0 ≤ exponent then text ++ List.replicate exponent.toNat '0'
  else
    let places := (-exponent).toNat
    let filled := text.leftpad (places + 1) '0'
    filled.take (filled.length - places) ++ '.' :: filled.drop (filled.length - places)

end HandleBridge.Decimal

/-- Text of a double: its shortest decimal, with a minus sign wherever the sign bit is set. -/
def HandleBridge.Double.display (x : HandleBridge.Double) : String :=
  if x.isNaN then "NaN"
  else
    let sign := if x.isNegative then "-" else ""
    if x.isInfinite then sign ++ "inf"
    else if x.isZero then sign ++ "0"
    else
      let (digits,exponent) := HandleBridge.Decimal.shortest x.magnitude.1 x.magnitude.2
      sign ++ String.ofList (HandleBridge.Decimal.positional digits exponent)
