import FeatureGate.Sql.Database
import FeatureGate.Table.Store

namespace FeatureGate.Sql
open Table

-- A database with the layouts that were registered through this connection,
-- under their exact names. The database itself outlives the connection; the
-- layouts do not.
structure Connection where
  database : Database := {}
  layouts : Assoc Layout := Assoc.empty
deriving DecidableEq, Repr

namespace Connection

def reopened (connection : Connection) : Connection := { database := connection.database }

def run (statement : Statement) (values : List Value) : Action Connection Fault Reply :=
  ((Database.run statement values).mapError .database).within (·.database)
    fun database connection => { connection with database }

def checked (table : String) (fault : Layout → Option Fault) : Action Connection Fault Layout :=
  fun connection =>
    match connection.layouts.get? table with
    | none => (.failed (.unknownTable table), connection)
    | some layout => match fault layout with
        | some fault => (.failed fault, connection)
        | none => (.done layout, connection)

def createTable (table : String) (layout : Layout) : Action Connection Fault Unit := do
  Action.refuse (layout.nameFault table)
  let _ ← run (.createTable table layout.columns) []
  Action.modify fun connection =>
    { connection with layouts := connection.layouts.put table layout }

def insert (table : String) (row : Row) : Action Connection Fault Unit := do
  let _ ← checked table (·.insertFault table row)
  let _ ← run (.insert table row.names) row.values

def countOf : Reply → Nat
  | .changed rows => rows
  | _ => 0

def update (table : String) (assignment filter : Row) : Action Connection Fault Nat := do
  let _ ← checked table (·.updateFault table assignment filter)
  if assignment.isEmpty then return 0
  return countOf (← run (.update table assignment.names filter.names) (assignment.values ++ filter.values))

def delete (table : String) (filter : Row) : Action Connection Fault Nat := do
  let _ ← checked table (·.cellsFault table filter)
  return countOf (← run (.delete table filter.names) filter.values)

def read? : Kind → Cell → Option Value
  | .text, .text value => some (.text value)
  | .key, .integer value | .integer, .integer value => some (.integer value)
  | _, _ => none

def cell? (column : String × Kind) (cell : Cell) : Option (String × Value) :=
  (read? column.2 cell).map fun value => (column.1, value)

def row? (layout : Layout) (cells : List Cell) : Option Row :=
  ((layout.columns.zip cells).mapM fun pair => cell? pair.1 pair.2).map Assoc.ofList

def rows? (layout : Layout) : Reply → Option (List Row)
  | .found rows => rows.mapM (row? layout)
  | _ => none

def select (table : String) (filter : Row) : Action Connection Fault (List Row) := do
  let layout ← checked table (·.cellsFault table filter)
  let reply ← run (.select table (layout.columns.map (·.1)) filter.names) filter.values
  match rows? layout reply with
  | some rows => return rows
  | none => Action.fail (.database .unspecified)

def store : Store Connection where
  createTable := createTable
  insert := insert
  update := update
  delete := delete
  select := select

end Connection
end FeatureGate.Sql
