/-! # Double-precision numbers

A document may hold numbers with a fraction. They are numbers of the binary interchange format
with 53 bits of precision, kept as sign, integer significand and power of two, so that rounding,
comparison and printing are exact arithmetic on natural numbers.
-/

namespace ParameterDrift

/-- A number of double precision. A finite one is `significand * 2 ^ exponent`, negated when
`negative` holds; zero has both signs. -/
inductive Double
  | finite (negative : Bool) (significand : Nat) (exponent : Int)
  | infinity (negative : Bool)
  | nan
  deriving DecidableEq, Repr

namespace Double

/-- The least exponent of a significand. -/
def minExponent : Int := -1074

/-- The greatest exponent of a significand. -/
def maxExponent : Int := 971

/-- The bits of a significand. -/
def precision : Nat := 53

/-- The quotient rounded to the nearest integer, a half to the even neighbour. -/
def roundHalfEven (num den : Nat) : Nat :=
  let quotient := num / den
  let remainder := num % den
  if 2 * remainder < den then quotient
  else if den < 2 * remainder then quotient + 1
  else if quotient % 2 = 0 then quotient else quotient + 1

/-- A power of two as a quotient of naturals. -/
def twoPow (e : Int) : Nat × Nat :=
  match e with
  | .ofNat n => (Nat.pow 2 n, 1)
  | .negSucc n => (1, Nat.pow 2 (n + 1))

/-- The integer `e` with `2 ^ e ≤ num / den < 2 ^ (e + 1)`, for positive arguments. -/
def binaryExponent (num den : Nat) : Int :=
  let estimate : Int := (Nat.log2 num : Int) - Nat.log2 den
  let (up, down) := twoPow estimate
  if den * up ≤ num * down then estimate else estimate - 1

/-- The number nearest to `num / den`, a tie to the even significand. -/
def ofRatio (negative : Bool) (num den : Nat) : Double :=
  if num = 0 then .finite negative 0 minExponent
  else
    let exponent := max (binaryExponent num den - (precision - 1 : Nat)) minExponent
    let (up, down) := twoPow exponent
    let rounded := roundHalfEven (num * down) (den * up)
    let (significand, exponent) :=
      if rounded = Nat.pow 2 precision then (Nat.pow 2 (precision - 1), exponent + 1)
      else (rounded, exponent)
    if maxExponent < exponent then .infinity negative else .finite negative significand exponent

/-- The number nearest to an integer. -/
def ofInt (n : Int) : Double :=
  ofRatio (n < 0) n.natAbs 1

/-- A power of ten that leaves no finite number but zero on one side of it. -/
def decimalReach : Int := 400

/-- The number nearest to `digits * 10 ^ exponent`. Decimals beyond the reach of the format are
told by their exponent and their number of bits, so that no power is computed for them. -/
def ofDecimal (negative : Bool) (digits : Nat) (exponent : Int) : Double :=
  if digits = 0 then .finite negative 0 minExponent
  else if decimalReach < exponent then .infinity negative
  else if exponent + Nat.log2 digits + 1 < -decimalReach then .finite negative 0 minExponent
  else match exponent with
    | .ofNat n => ofRatio negative (digits * Nat.pow 10 n) 1
    | .negSucc n => ofRatio negative digits (Nat.pow 10 (n + 1))

/-- The integer that a number is equal to, if there is one. -/
def toInt? : Double → Option Int
  | .finite negative significand exponent =>
    let (up, down) := twoPow exponent
    if significand * up % down = 0 then
      let size : Int := (significand * up / down : Nat)
      some (if negative then -size else size)
    else none
  | _ => none

/-- Both zeros. -/
def isZero : Double → Bool
  | .finite _ significand _ => significand = 0
  | _ => false

/-- The value of a finite number as a signed quotient. -/
def toRatio? : Double → Option (Int × Nat)
  | .finite negative significand exponent =>
    let (up, down) := twoPow exponent
    let size : Int := (significand * up : Nat)
    some (if negative then -size else size, down)
  | _ => none

/-- The number nearest to a signed quotient. -/
def ofSignedRatio (num : Int) (den : Nat) : Double :=
  ofRatio (num < 0) num.natAbs den

/-- The sum of two numbers, rounded once. -/
def add : Double → Double → Double
  | .infinity left, .infinity right => if left = right then .infinity left else .nan
  | .infinity left, .finite .. => .infinity left
  | .finite .., .infinity right => .infinity right
  | left@(.finite ..), right@(.finite ..) =>
    match left.toRatio?, right.toRatio? with
    | some (leftNum, leftDen), some (rightNum, rightDen) =>
      ofSignedRatio (leftNum * rightDen + rightNum * leftDen) (leftDen * rightDen)
    | _, _ => .nan
  | _, _ => .nan

/-- The product of a number with a positive integer, rounded once. -/
def scale (x : Double) (factor : Nat) : Double :=
  match x with
  | .finite negative significand exponent =>
    let (up, down) := twoPow exponent
    ofRatio negative (significand * up * factor) down
  | other => other

/-- The number with the opposite sign. -/
def neg : Double → Double
  | .finite negative significand exponent => .finite (!negative) significand exponent
  | .infinity negative => .infinity (!negative)
  | .nan => .nan

end Double

end ParameterDrift
