import FeatureGate.Sql.Numeral
import FeatureGate.Table.Layout

namespace FeatureGate.Sql
open Table (Value Kind)

-- What a database holds in one place. A column of whole numbers also takes texts
-- that write no number, and approximate numbers.
inductive Cell where
  | integer (value : Int)
  | approximate (value : Rat)
  | text (value : String)
deriving DecidableEq, Repr

namespace Cell

def isStorable (value : Int) : Bool := Text.minInteger ≤ value && value ≤ Text.maxInteger

def ofNumeral (n : Numeral) : Cell :=
  if n.whole ∧ isStorable n.value.num then integer n.value.num
  else
    let near := Approximate.nearest n.value
    if near.isInt ∧ Text.minInteger < near.num ∧ near.num < Text.maxInteger then integer near.num
    else approximate near

def ofValue : Value → Cell
  | .integer value => integer value
  | .text value => text value

def numeric : Value → Cell
  | .integer value => integer value
  | .text value => match Numeral.ofText? value with
      | some n => ofNumeral n
      | none => text value

def textual : Value → Cell
  | .integer value => text (toString value)
  | .text value => text value

-- A column of texts turns numbers into texts, and a column of whole numbers turns
-- texts that write a number into that number.
def stored : Kind → Value → Cell
  | .text, value => textual value
  | .key, value | .integer, value => numeric value

def key? (value : Value) : Option Int :=
  match numeric value with
  | integer key => some key
  | _ => none

def same : Cell → Cell → Bool
  | integer a, integer b => a = b
  | integer a, approximate b => (a : Rat) = b
  | approximate a, integer b => a = (b : Rat)
  | approximate a, approximate b => a = b
  | text a, text b => a = b
  | _, _ => false

def precedes : Cell → Cell → Bool
  | integer a, integer b => a ≤ b
  | integer a, approximate b => (a : Rat) ≤ b
  | approximate a, integer b => a ≤ (b : Rat)
  | approximate a, approximate b => a ≤ b
  | text a, text b => a ≤ b
  | text _, _ => false
  | _, text _ => true

end Cell
end FeatureGate.Sql
