/-!
# The shortest decimal of a double

Of the decimals that read back as a given double, the one with the fewest digits, and of those the
nearest. A positive double is `mantissa * 2 ^ exponent`; the numbers that round to it lie between
the middles to its two neighbours, which count if the mantissa is even. All arithmetic is exact.
-/

namespace ExpiringCache

/-- A decimal number: digits without a point, and the power of ten that they are multiplied by. -/
structure Decimal where
  digits : Nat
  exponent : Int
  deriving DecidableEq, Repr

namespace Decimal

/-- The numbers between two bounds around a value, as numerators over one denominator. -/
structure Interval where
  low : Nat
  value : Nat
  high : Nat
  denominator : Nat
  closed : Bool

/-- One past the largest fraction, the low 52 of the bits of a double. -/
def fractionBound : Nat := 4503599627370496

/-- The interval of the numbers that round to a positive double, given by its bits. -/
def Interval.ofBits (bits : Nat) : Interval :=
  let field := bits / fractionBound % 2048
  let fraction := bits % fractionBound
  let mantissa := if field = 0 then fraction else fractionBound + fraction
  let exponent : Int := (if field = 0 then 1 else field : Nat) - 1075 - 2
  let below := if fraction = 0 ∧ 1 < field then 1 else 2
  let factor := Nat.pow 2 exponent.toNat
  ⟨(4 * mantissa - below) * factor, 4 * mantissa * factor, (4 * mantissa + 2) * factor,
    Nat.pow 2 (-exponent).toNat, mantissa % 2 = 0⟩

/-- The numerator and the denominator over a power of ten. -/
def scaled (n denominator : Nat) (exponent : Int) : Nat × Nat :=
  (n * Nat.pow 10 (-exponent).toNat, denominator * Nat.pow 10 exponent.toNat)

/-- Whether a multiple of a power of ten lies in the interval. -/
def Interval.holds (i : Interval) (digits : Nat) (exponent : Int) : Bool :=
  let (low, unit) := scaled i.low i.denominator exponent
  let (high, _) := scaled i.high i.denominator exponent
  let n := digits * unit
  if i.closed then decide (low ≤ n) && decide (n ≤ high)
  else decide (low < n) && decide (n < high)

/-- The multiple of a power of ten nearest to the value, of the two next to it that lie in the
interval. -/
def Interval.nearest? (i : Interval) (exponent : Int) : Option Decimal :=
  let (n, unit) := scaled i.value i.denominator exponent
  let d := n / unit
  let r := n % unit
  let downHolds := i.holds d exponent
  let upHolds := i.holds (d + 1) exponent
  if downHolds && (! upHolds || decide (2 * r < unit) || (2 * r == unit && d % 2 == 0)) then
    some ⟨d, exponent⟩
  else if upHolds then some ⟨d + 1, exponent⟩
  else none

/-- The exponent of the leading digit of a value below one, sought from a given power on. -/
def leadingBelowOne (n denominator : Nat) : Nat → Nat → Int
  | 0, j => -(j : Int)
  | fuel + 1, j =>
    if denominator ≤ n * Nat.pow 10 j then -(j : Int)
    else leadingBelowOne n denominator fuel (j + 1)

/-- The exponent of the leading digit of a value. -/
def Interval.leading (i : Interval) : Int :=
  if i.denominator ≤ i.value then ((Nat.repr (i.value / i.denominator)).length : Int) - 1
  else leadingBelowOne i.value i.denominator 400 1

/-- The decimal with the fewest digits, at most seventeen, that lies in the interval. -/
def Interval.shortest (i : Interval) : Decimal :=
  let first := i.leading
  ((List.range 17).findSome? fun (n : Nat) => i.nearest? (first - n)).getD
    ⟨i.value / i.denominator, 0⟩

/-- A decimal without zeros at its end. -/
def trimmed (digits : Nat) (exponent : Int) : Nat → Decimal
  | 0 => ⟨digits, exponent⟩
  | fuel + 1 =>
    if digits % 10 = 0 ∧ digits ≠ 0 then trimmed (digits / 10) (exponent + 1) fuel
    else ⟨digits, exponent⟩

/-- The shortest decimal of a positive finite double. -/
def ofFloat (x : Float) : Decimal :=
  let d := (Interval.ofBits x.toBits.toNat).shortest
  trimmed d.digits d.exponent 20

end Decimal

end ExpiringCache
