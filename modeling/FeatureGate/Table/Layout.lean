import FeatureGate.Table.Fault
import FeatureGate.Table.Row

namespace FeatureGate.Table

inductive Kind where
  | key
  | text
  | integer
deriving DecidableEq, Repr

namespace Kind

def accepts : Kind → Value → Bool
  | text, .text _ => true
  | key, .integer _ | integer, .integer _ => true
  | _, _ => false

def name : Kind → String
  | text => "text"
  | key | integer => "integer"

end Kind

def isNameStart (c : Char) : Bool := c.isAlpha || c = '_'

def isNamePart (c : Char) : Bool := c.isAlphanum || c = '_'

def isIdentifier (name : String) : Bool :=
  match name.toList with
  | [] => false
  | first :: rest => isNameStart first && rest.all isNamePart

-- Column names with their kinds. The order of declaration is the order in which
-- rows show their columns. A name may be declared twice; the first kind counts.
structure Layout where
  columns : List (String × Kind)
deriving DecidableEq, Repr

namespace Layout

def kind? (layout : Layout) (column : String) : Option Kind :=
  Assoc.lookup column layout.columns

def nameFault (layout : Layout) (table : String) : Option Fault :=
  ((table :: layout.columns.map (·.1)).find? (fun name => !isIdentifier name)).map .invalidIdentifier

def cellFault (layout : Layout) (table : String) (cell : String × Value) : Option Fault :=
  match layout.kind? cell.1 with
  | none => some (.unknownColumn table cell.1)
  | some kind => if kind.accepts cell.2 then none else some (.typeMismatch table cell.1 kind.name)

def cellsFault (layout : Layout) (table : String) (row : Row) : Option Fault :=
  row.pairs.findSome? (layout.cellFault table)

def isMissing (row : Row) (column : String × Kind) : Bool :=
  column.2 ≠ .key && (row.get? column.1).isNone

def missingFault (layout : Layout) (table : String) (row : Row) : Option Fault :=
  (layout.columns.find? (isMissing row)).map fun column => .missingColumn table column.1

def insertFault (layout : Layout) (table : String) (row : Row) : Option Fault :=
  layout.cellsFault table row <|> layout.missingFault table row

-- All of the assignment is looked at before any of the filter.
def updateFault (layout : Layout) (table : String) (assignment filter : Row) : Option Fault :=
  layout.cellsFault table assignment <|> layout.cellsFault table filter

end Layout
end FeatureGate.Table
