import FeatureGate.Json.Reading
import FeatureGate.Json.Writing
import FeatureGate.Sql.Database

namespace FeatureGate.Sql.Image
open Table (Kind)
open Json (Value)

-- A database as text. Numbers are written as strings of digits, so nothing of
-- them is lost.
def ofInteger (number : Int) : Value := .ofText (toString number)

def ofCell : Cell → Value
  | .integer number => .array [.ofText "integer", ofInteger number]
  | .approximate number => .array [.ofText "approximate", ofInteger number.num, ofInteger number.den]
  | .text text => .array [.ofText "text", .ofText text]

def kindName : Kind → String
  | .key => "key"
  | .text => "text"
  | .integer => "integer"

def ofColumn (column : String × Kind) : Value :=
  .array [.ofText column.1, .ofText (kindName column.2)]

def ofStored (row : Stored) : Value :=
  .array [ofInteger row.number, .array (row.cells.map ofCell)]

def ofTable (table : TableData) : Value :=
  .array [.ofText table.name, .array (table.columns.map ofColumn), .array (table.rows.map ofStored),
    ofInteger table.highest]

def text (database : Database) : String :=
  (Value.array (database.tables.map ofTable)).text .compact

def integer? : Value → Option Int
  | .string (some text) => text.toInt?
  | _ => none

def list? (item? : Value → Option α) : Value → Option (List α)
  | .array items => items.mapM item?
  | _ => none

def cell? : Value → Option Cell
  | .array [.string (some "integer"), number] => (integer? number).map .integer
  | .array [.string (some "approximate"), upper, lower] => do
      return .approximate ((← integer? upper : Int) / (← integer? lower : Int) : Rat)
  | .array [.string (some "text"), .string (some text)] => some (.text text)
  | _ => none

def kind? : String → Option Kind
  | "key" => some .key
  | "text" => some .text
  | "integer" => some .integer
  | _ => none

def column? : Value → Option (String × Kind)
  | .array [.string (some name), .string (some kind)] => (kind? kind).map fun kind => (name, kind)
  | _ => none

def stored? : Value → Option Stored
  | .array [number, cells] => do return ⟨← integer? number, ← list? cell? cells⟩
  | _ => none

def table? : Value → Option TableData
  | .array [.string (some name), columns, rows, highest] => do
      return ⟨name, ← list? column? columns, ← list? stored? rows, ← integer? highest⟩
  | _ => none

def read? (text : String) : Option Database := do
  return ⟨← list? table? (← Json.parse text)⟩

end FeatureGate.Sql.Image
