import FeatureGate.Approximate

namespace FeatureGate.Sql

structure Numeral where
  value : Rat
  whole : Bool
deriving DecidableEq, Repr

namespace Numeral

def isGap (c : Char) : Bool := c = ' ' || (9 ≤ c.toNat && c.toNat ≤ 13)

def exponent? (cs : List Char) : Option Int :=
  (Text.decimal? (Text.signed cs).2).map fun magnitude =>
    if (Text.signed cs).1 then -magnitude else magnitude

def unsigned? (cs : List Char) : Option Numeral :=
  let whole := cs.takeWhile Text.isDigit
  let afterWhole := cs.dropWhile Text.isDigit
  let point := afterWhole.head? = some '.'
  let afterPoint := if point then afterWhole.tail else afterWhole
  let fraction := if point then afterPoint.takeWhile Text.isDigit else []
  let rest := if point then afterPoint.dropWhile Text.isDigit else afterPoint
  let digits := whole ++ fraction
  let scaled (exponent : Int) := Approximate.scaled digits (exponent - fraction.length)
  if digits.isEmpty then none
  else match rest with
    | [] => some ⟨scaled 0, !point⟩
    | e :: power => if e = 'e' ∨ e = 'E' then (exponent? power).map (⟨scaled ·, false⟩) else none

-- Blanks around the number are no part of it; blanks inside make it no number.
def ofText? (text : String) : Option Numeral :=
  let cs := ((text.toList.dropWhile isGap).reverse.dropWhile isGap).reverse
  let negative := (Text.signed cs).1
  (unsigned? (Text.signed cs).2).map fun n => if negative then { n with value := -n.value } else n

end Numeral

end FeatureGate.Sql
