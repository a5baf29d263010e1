import Calculator.Double.Arithmetic

/-!
# Sine, cosine, tangent and decimal logarithm

The functions are computed on fixed-point integers with `1280` binary places, far more than a
double has digits, and rounded once. The place count covers the smallest doubles, and the circle
constant is taken to enough further places that the reduction of the largest double to an eighth of
a turn is still exact to the last place. So a result is the double nearest to the true value, unless
that value lies within about `2 ^ -1200` of the middle between two doubles.

A mathematical library of a system may give a neighbour of the nearest double instead, so the digits of
these functions can differ from those of a program that calls one. No theorem about the calculator uses
more of them than that they are functions of a double.
-/

namespace Calculator

/-! ### Fixed-point series -/

namespace Fixed

/-- The number of binary places. -/
def places : Nat := 1280

/-- The number one. -/
def one : Nat := 2 ^ places

/-- The further binary places of the circle constant that the reduction of an argument of up to
`2 ^ 1024` needs. -/
def guardPlaces : Nat := 1100

/-- The binary places that take up the rounding of a long series. -/
def sparePlaces : Nat := 64

/-- The first terms of `power - power / k² / 3 + power / k⁴ / 5 - …`, divided by `odd` onwards. -/
def arctanSeries (square : Nat) : Nat → Int → Nat → Int
  | 0, _, _ => 0
  | terms + 1, power, odd =>
    power / odd - arctanSeries square terms (power / square) (odd + 2)

/-- The arc tangent of `1 / k`, to all places and guard places, times `unit`. -/
def arctanInverse (unit : Nat) (k : Nat) : Int :=
  arctanSeries (k * k) 530 (unit / k : Nat) 1

/-- A quarter turn with guard places: twice the eighth of a turn `4 arctan (1/5) - arctan (1/239)`. -/
def quarterTurn : Int :=
  let unit : Nat := 2 ^ (places + guardPlaces + sparePlaces)
  (8 * arctanInverse unit 5 - 2 * arctanInverse unit 239) / 2 ^ sparePlaces

/-- The product of two fixed-point numbers. -/
def mul (a b : Int) : Int := a * b / one

/-- The series `1 - y / k(k+1) + y² / k(k+1)(k+2)(k+3) - …` in nested form. With `k = 1` it is the
cosine of the root of `y`, with `k = 2` the sine divided by that root. -/
def circularSeries (y : Int) : Nat → Nat → Int
  | 0, _ => one
  | terms + 1, k => one - mul y (circularSeries y terms (k + 2)) / (k * (k + 1) : Nat)

/-- The series `power / odd + power z² / (odd + 2) + …` with `z² = square`. -/
def artanhSeries (square : Int) : Nat → Int → Nat → Int
  | 0, _, _ => 0
  | terms + 1, power, odd =>
    power / odd + artanhSeries square terms (mul power square) (odd + 2)

/-- The inverse hyperbolic tangent of a number of at most one third. -/
def artanh (z : Int) : Int := artanhSeries (mul z z) 420 z 1

/-- The natural logarithm of two. -/
def logTwo : Int := 2 * artanh (one / 3 : Nat)

/-- The natural logarithm of ten: that of eight and that of five quarters. -/
def logTen : Int := 3 * logTwo + 2 * artanh (one / 9 : Nat)

/-- The sine and the cosine of a magnitude in radians. The angle is brought to at most half a
quarter turn, where the series converge quickly, and the quarter turns taken off decide which of the
two series is which. -/
def sineCosine (m : Magnitude) : Int × Int :=
  let angle : Int := m.steps * 2 ^ (places + guardPlaces - Magnitude.scale)
  let quarter := quarterTurn
  let turns := (2 * angle + quarter) / (2 * quarter)
  let rest := (angle - turns * quarter) / 2 ^ guardPlaces
  let square := mul rest rest
  let sine := mul rest (circularSeries square 110 2)
  let cosine := circularSeries square 110 1
  match (turns % 4).toNat with
  | 0 => (sine, cosine)
  | 1 => (cosine, -sine)
  | 2 => (-sine, -cosine)
  | _ => (-cosine, sine)

/-- The natural logarithm of a magnitude other than zero: the power of two below it, and the rest
between one and two as `2 artanh ((x - 1) / (x + 1))`. -/
def log (m : Magnitude) : Int :=
  let exponent := m.steps.log2
  let rest : Int := m.steps * one / 2 ^ exponent
  (exponent - Magnitude.scale : Int) * logTwo + 2 * artanh ((rest - one) * one / (rest + one))

end Fixed

/-! ### The functions -/

namespace Double

/-- The double nearest to the quotient of two integers, the second of which is not zero. -/
def ofQuotient (num den : Int) : Double :=
  ofRatio ((num < 0) != (den < 0)) num.natAbs den.natAbs

/-- The sine of an angle in radians. -/
def sin : Double → Double
  | .finite negative m =>
    if m.steps = 0 then .finite negative m
    else
      let value := ofQuotient (Fixed.sineCosine m).1 Fixed.one
      if negative then value.neg else value
  | _ => .nan

/-- The cosine of an angle in radians. -/
def cos : Double → Double
  | .finite _ m => ofQuotient (Fixed.sineCosine m).2 Fixed.one
  | _ => .nan

/-- The tangent of an angle in radians. -/
def tan : Double → Double
  | .finite negative m =>
    if m.steps = 0 then .finite negative m
    else
      let (sine, cosine) := Fixed.sineCosine m
      let value := ofQuotient sine cosine
      if negative then value.neg else value
  | _ => .nan

/-- The decimal logarithm. It is defined above zero. -/
def log10 : Double → Double
  | .finite false m =>
    if m.steps = 0 then .infinite true else ofQuotient (Fixed.log m) Fixed.logTen
  | .infinite false => .infinite false
  | _ => .nan

end Double

end Calculator
