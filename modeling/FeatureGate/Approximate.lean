import FeatureGate.Text.Integer

namespace FeatureGate.Approximate

-- The number that digits write when the decimal point is moved. Beyond the
-- clamped exponents it is out of every range or too small to be told from zero.
def scaled (digits : List Char) (exponent : Int) : Rat :=
  let low : Int := -(400 + digits.length)
  let power : Int := max low (min 400 exponent)
  (Text.decimalValue digits : Rat) * (10 : Rat) ^ power

def limit : Rat := (2 : Rat) ^ (1024 : Int)

def roundHalfEven (q : Rat) : Int :=
  let low := q.floor
  let rest := q - low
  if rest < 1 / 2 then low
  else if rest > 1 / 2 then low + 1
  else if low % 2 = 0 then low else low + 1

-- The nearest number with 53 binary digits to a positive one, ties to the even
-- one. What is too large stands as the limit.
def magnitude (q : Rat) : Rat :=
  let guess : Int := (q.num.natAbs.log2 : Int) - q.den.log2
  let top : Int := if q < (2 : Rat) ^ guess then guess - 1 else guess
  let unit : Int := max (top - 52) (-1074)
  let near : Rat := roundHalfEven (q / (2 : Rat) ^ unit) * (2 : Rat) ^ unit
  if near < limit then near else limit

def nearest (q : Rat) : Rat :=
  if q = 0 then 0 else if q < 0 then -magnitude (-q) else magnitude q

def isFinite (q : Rat) : Bool := -limit < nearest q && nearest q < limit

end FeatureGate.Approximate
