import FeatureGate.Assoc

namespace FeatureGate.Table

inductive Value where
  | integer (value : Int)
  | text (value : String)
deriving DecidableEq, Repr

-- Values under column names. One shape serves for what is inserted, what an
-- update assigns, what a filter asks for and what a selection returns.
abbrev Row := Assoc Value

namespace Row

def text? (row : Row) (column : String) : Option String :=
  match row.get? column with
  | some (.text value) => some value
  | _ => none

def integer? (row : Row) (column : String) : Option Int :=
  match row.get? column with
  | some (.integer value) => some value
  | _ => none

def answers (row filter : Row) : Bool := row.includes filter

def assign (row assignment : Row) : Row := row.putAll assignment.pairs

end Row
end FeatureGate.Table
