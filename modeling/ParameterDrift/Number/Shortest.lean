import ParameterDrift.Number.Double
import ParameterDrift.Text.Blank
/-! # The shortest decimal of a number

A number of double precision is written with the fewest digits that read back as the same number,
and with the decimal nearest to its value among those. The search tries one digit, two digits, and
so on: on the grid of decimals with that many digits it looks at the two neighbours of the value.
-/

namespace ParameterDrift.Double

/-- The integer `k` with `10 ^ k ≤ num / den < 10 ^ (k + 1)`, for positive arguments. -/
def decimalExponent (num den : Nat) : Int :=
  let atLeast (k : Int) : Bool :=
    match k with
    | .ofNat n => den * Nat.pow 10 n ≤ num
    | .negSucc n => den ≤ num * Nat.pow 10 (n + 1)
  let estimate : Int := ((Nat.log2 num : Int) - Nat.log2 den) * 30103 / 100000
  if atLeast (estimate + 1) then estimate + 1
  else if atLeast estimate then estimate
  else if atLeast (estimate - 1) then estimate - 1
  else estimate - 2

/-- A positive decimal, `digits * 10 ^ scale`. -/
structure Decimal where
  digits : Nat
  scale : Int
  deriving DecidableEq, Repr

/-- The reals that round to `significand * 2 ^ exponent`, in quarters of the last place: from
`4 * significand - below` to `4 * significand + 2`, with both ends when the significand is even. -/
structure Interval where
  value : Nat
  below : Nat
  closed : Bool

/-- The interval of a positive number. Below a power of two the next number is half as far. -/
def interval (significand : Nat) (exponent : Int) : Interval where
  value := 4 * significand
  below := if significand = Nat.pow 2 (precision - 1) && exponent != minExponent then 1 else 2
  closed := significand % 2 = 0

/-- The candidate with `count` digits, if a decimal of that many digits reads back. The value is
`num / den` quarters times a power of two that both sides of each comparison share. -/
def candidate? (range : Interval) (exponent : Int) (leading : Int) (count : Nat) : Option Decimal :=
  let scale := leading + 1 - count
  let (up, down) := twoPow (exponent - 2)
  let (tenUp, tenDown) := match scale with
    | .ofNat n => (Nat.pow 10 n, 1)
    | .negSucc n => (1, Nat.pow 10 (n + 1))
  -- A grid point `d` is compared with a number of quarters `q` as `d * grid` with `q * unit`.
  let grid := tenUp * down
  let unit := up * tenDown
  let inside (d : Nat) : Bool :=
    let low := (range.value - range.below) * unit
    let high := (range.value + 2) * unit
    if range.closed then low ≤ d * grid && d * grid ≤ high else low < d * grid && d * grid < high
  let lower := range.value * unit / grid
  let toLower := range.value * unit - lower * grid
  let toUpper := (lower + 1) * grid - range.value * unit
  let nearer := toLower < toUpper || (toLower == toUpper && lower % 2 == 0)
  let first := if nearer then lower else lower + 1
  let second := if nearer then lower + 1 else lower
  if inside first then some ⟨first, scale⟩
  else if inside second then some ⟨second, scale⟩
  else none

/-- The shortest decimal of a positive number; seventeen digits always suffice. -/
def shortest (significand : Nat) (exponent : Int) : Decimal :=
  let (up, down) := twoPow exponent
  let leading := decimalExponent (significand * up) down
  let range := interval significand exponent
  ((List.range 17).findSome? fun n => candidate? range exponent leading (n + 1)).getD
    ⟨significand * up / down, 0⟩

/-- How a number is laid out as text. The point position of a decimal is the number of its digits
before the point, which may be zero or negative. -/
structure Layout where
  /-- The least point position that is written without an exponent. -/
  lowestPoint : Int
  /-- The greatest point position that is written without an exponent. -/
  highestPoint : Int
  /-- The least number of digits of an exponent. -/
  exponentDigits : Nat
  infinityText : String
  nanText : String

/-- Numbers are written without an exponent from a ten-thousandth up to sixteen digits before the
point, always with a digit after the point; exponents have a sign and two digits or more. -/
def plainLayout : Layout where
  lowestPoint := -3
  highestPoint := 16
  exponentDigits := 2
  infinityText := "inf"
  nanText := "nan"

/-- Decimal digits padded with zeros in front. -/
def paddedDigits (width n : Nat) : List Char :=
  let digits := Nat.toDigits 10 n
  List.replicate (width - digits.length) '0' ++ digits

/-- The text of significant digits, without trailing zeros, with the point after `point` of them. -/
def Layout.digitsText (layout : Layout) (digits : List Char) (point : Int) : List Char :=
  if layout.lowestPoint ≤ point && point ≤ layout.highestPoint then
    if point ≤ 0 then '0' :: '.' :: List.replicate (-point).toNat '0' ++ digits
    else
      let whole := digits.take point.toNat
      let fraction := digits.drop point.toNat
      whole ++ List.replicate (point.toNat - whole.length) '0' ++
        '.' :: (if fraction.isEmpty then ['0'] else fraction)
  else
    let fraction := digits.drop 1
    let shown := digits.take 1 ++ (if fraction.isEmpty then [] else '.' :: fraction)
    let exponent := point - 1
    shown ++ 'e' :: (if exponent < 0 then '-' else '+') ::
      paddedDigits layout.exponentDigits exponent.natAbs

/-- The text of a number under a layout. -/
def Layout.text (layout : Layout) : Double → String
  | .nan => layout.nanText
  | .infinity negative => (if negative then "-" else "") ++ layout.infinityText
  | .finite negative significand exponent =>
    let sign := if negative then "-" else ""
    if significand = 0 then sign ++ "0.0"
    else
      let decimal := shortest significand exponent
      let digits := Nat.toDigits 10 decimal.digits
      let point := digits.length + decimal.scale
      let significant := Text.dropEndWhile (· == '0') digits
      sign ++ String.ofList (layout.digitsText significant point)

end ParameterDrift.Double
