namespace FeatureGate.Text

def minInteger : Int := -9223372036854775808
def maxInteger : Int := 9223372036854775807

def isDigit (c : Char) : Bool := '0' ≤ c && c ≤ '9'

def digitValue (c : Char) : Nat := c.toNat - '0'.toNat

def decimalValue (digits : List Char) : Nat :=
  digits.foldl (fun n c => 10 * n + digitValue c) 0

def decimal? (digits : List Char) : Option Nat :=
  if digits ≠ [] ∧ digits.all isDigit then some (decimalValue digits) else none

def signed : List Char → Bool × List Char
  | '-' :: rest => (true, rest)
  | '+' :: rest => (false, rest)
  | rest => (false, rest)

-- An optional sign and one or more digits, of a value that fits in 64 bits with
-- sign. Nothing else is an integer: no blanks, no lone sign, no empty text.
def integer? (text : List Char) : Option Int :=
  (decimal? (signed text).2).bind fun magnitude =>
    let value : Int := if (signed text).1 then -magnitude else magnitude
    if minInteger ≤ value ∧ value ≤ maxInteger then some value else none

end FeatureGate.Text
