import FeatureGate.Outcome
import FeatureGate.Sql.Cell
import FeatureGate.Sql.Statement
import FeatureGate.Text.Blank

namespace FeatureGate.Sql
open Table (Value Kind)

structure Stored where
  number : Int
  cells : List Cell
deriving DecidableEq, Repr

-- A table as it was first created. Rows stand in ascending order of their
-- numbers, no number twice; `highest` is the largest number that an insertion
-- ever used, and at least zero.
structure TableData where
  name : String
  columns : List (String × Kind)
  rows : List Stored := []
  highest : Int := 0
deriving DecidableEq, Repr

structure Database where
  tables : List TableData := []
deriving DecidableEq, Repr

def sameName (a b : String) : Bool := Text.lower a.toList = Text.lower b.toList

def meansNumber (name : String) : Bool :=
  sameName name "rowid" || sameName name "oid" || sameName name "_rowid_"

-- What a quoted name stands for when values are compared or shown. A name that
-- means nothing in the table is the text of itself.
inductive Reference where
  | column (index : Nat) (kind : Kind)
  | number
  | literal (text : String)
deriving DecidableEq, Repr

inductive Target where
  | column (index : Nat)
  | number
deriving DecidableEq, Repr

namespace TableData

def column? (table : TableData) (name : String) : Option (Nat × Kind) :=
  (table.columns.findIdx? (sameName name ·.1)).bind fun index =>
    (table.columns[index]?).map fun column => (index, column.2)

def keyColumn? (table : TableData) : Option String :=
  (table.columns.find? (·.2 = .key)).map (·.1)

def reference (table : TableData) (name : String) : Reference :=
  match table.column? name with
  | some (index, kind) => .column index kind
  | none => if meansNumber name then .number else .literal name

def target? (table : TableData) (name : String) : Option Target :=
  match table.column? name with
  | some (_, .key) => some .number
  | some (index, _) => some (.column index)
  | none => if meansNumber name then some .number else none

def look (row : Stored) : Reference → Cell
  | .column index _ => row.cells.getD index (.integer row.number)
  | .number => .integer row.number
  | .literal text => .text text

def holds (row : Stored) (reference : Reference) (value : Value) : Bool :=
  match reference with
  | .column _ .text => (look row reference).same (.textual value)
  | .column .. | .number => (look row reference).same (.numeric value)
  | .literal _ => (look row reference).same (.ofValue value)

def selects (table : TableData) (filter : List (String × Value)) (row : Stored) : Bool :=
  filter.all fun pair => holds row (table.reference pair.1) pair.2

def has (table : TableData) (number : Int) : Bool := table.rows.any (·.number = number)

def clash (table : TableData) : Failure := .unique table.name (table.keyColumn?.getD "rowid")

def putBefore (goesBefore : Stored → Stored → Bool) (row : Stored) : List Stored → List Stored
  | [] => [row]
  | first :: rest =>
      if goesBefore row first then row :: first :: rest else first :: putBefore goesBefore row rest

def place (row : Stored) (rows : List Stored) : List Stored := putBefore (·.number < ·.number) row rows

theorem place_cons (row first : Stored) (rest : List Stored) : place row (first :: rest) =
    if row.number < first.number then row :: first :: rest else first :: place row rest := by
  simp [place, putBefore]

def renumber (table : TableData) (number : Int) (row : Stored) : Stored :=
  { number, cells := (table.columns.zip row.cells).map fun (column, cell) =>
      if column.2 = .key then .integer number else cell }

def gap? (table : TableData) : Option Int :=
  ((List.range (table.rows.length + 1)).map fun (i : Nat) => (i : Int) + 1).find? (!table.has ·)

-- The number for a row that brings none. With a key column it exceeds every
-- number ever inserted and every number present, and there may be none left;
-- without one, a used-up range is searched from below for a gap.
def freshNumber (table : TableData) : Except Failure Int :=
  let last := table.rows.getLast?.map (·.number)
  let next := (last.map (· + 1)).getD 1
  if table.keyColumn?.isSome then
    if table.highest = Text.maxInteger ∨ last = some Text.maxInteger then .error .full
    else .ok (max next (table.highest + 1))
  else if last = some Text.maxInteger then table.gap?.elim (.error .full) .ok
  else .ok next

-- Of several values for one column the first counts, of several for the number
-- the last. The number is settled before missing values are looked for, and its
-- uniqueness is looked at last.
def insert (table : TableData) (given : List (String × Value)) : Except Failure TableData := do
  let targets ← given.mapM fun pair =>
    (table.target? pair.1).elim (.error .unspecified) fun target => .ok (target, pair.2)
  let number ← match (targets.filter (·.1 = .number)).getLast? with
    | some (_, value) => (Cell.key? value).elim (.error .keyMismatch) .ok
    | none => table.freshNumber
  let cells ← table.columns.mapIdx (fun index column => (index, column)) |>.mapM fun (index, column) =>
    if column.2 = .key then .ok (Cell.integer number)
    else match targets.find? (·.1 = .column index) with
      | some (_, value) => .ok (Cell.stored column.2 value)
      | none => .error (.notNull table.name column.1)
  if table.has number then .error table.clash
  else .ok { table with
    rows := place { number, cells } table.rows
    highest := max table.highest number }

def assignCells (table : TableData) (targets : List (Target × Value)) (row : Stored) : Stored :=
  targets.foldl (fun row assigned => match assigned.1 with
    | .number => row
    | .column index => { row with
        cells := row.cells.set index (.stored ((table.columns[index]?.map (·.2)).getD .text) assigned.2) })
    row

def updateRow (targets : List (Target × Value)) (table : TableData) (row : Stored) :
    Except Failure TableData := do
  let assigned := table.assignCells targets row
  let number ← match (targets.filter (·.1 = .number)).getLast? with
    | some (_, value) => (Cell.key? value).elim (.error .keyMismatch) .ok
    | none => .ok row.number
  if number ≠ row.number ∧ table.has number then .error table.clash
  else .ok { table with
    rows := place (table.renumber number assigned) (table.rows.filter (·.number ≠ row.number)) }

-- The rows to change are found first and then changed in ascending order of
-- their numbers; a clash on the way undoes all of it.
def update (table : TableData) (assigned filter : List (String × Value)) :
    Except Failure (Nat × TableData) := do
  let targets ← assigned.mapM fun pair =>
    (table.target? pair.1).elim (.error .unspecified) fun target => .ok (target, pair.2)
  let found := table.rows.filter (table.selects filter)
  let changed ← found.foldlM (updateRow targets) table
  return (found.length, changed)

def delete (table : TableData) (filter : List (String × Value)) : Nat × TableData :=
  ((table.rows.filter (table.selects filter)).length,
    { table with rows := table.rows.filter fun row => !table.selects filter row })

def precedes (table : TableData) (a b : Stored) : Bool :=
  (look a (table.reference "rowid")).precedes (look b (table.reference "rowid"))

def enter (table : TableData) (row : Stored) (rows : List Stored) : List Stored := putBefore table.precedes row rows

theorem enter_cons (table : TableData) (row first : Stored) (rest : List Stored) : table.enter row (first :: rest) =
    if table.precedes row first then row :: first :: rest else first :: table.enter row rest := rfl

def inOrder (table : TableData) (rows : List Stored) : List Stored := rows.foldr table.enter []

def select (table : TableData) (shown : List String) (filter : List (String × Value)) :
    List (List Cell) :=
  (table.inOrder (table.rows.filter (table.selects filter))).map fun row =>
    shown.map fun name => look row (table.reference name)

end TableData

inductive Reply where
  | done
  | changed (rows : Nat)
  | found (rows : List (List Cell))
deriving DecidableEq, Repr

def hasRepeatedName : List String → Bool
  | [] => false
  | name :: rest => rest.any (sameName name) || hasRepeatedName rest

namespace Database

def table? (database : Database) (name : String) : Option TableData :=
  database.tables.find? (sameName name ·.name)

def withTable (database : Database) (table : TableData) : Database :=
  ⟨database.tables.map fun held => if sameName table.name held.name then table else held⟩

-- A table needs a column, and its name must not be one of the reserved ones. On a
-- table that exists nothing else is looked at; a new one has no column name
-- twice and at most one key.
def createTable (database : Database) (name : String) (columns : List (String × Kind)) :
    Except Failure Database :=
  if columns.isEmpty ∨ isReserved name then .error .unspecified
  else if (database.table? name).isSome then .ok database
  else if hasRepeatedName (columns.map (·.1)) ∨ 1 < (columns.filter (·.2 = .key)).length then
    .error .unspecified
  else .ok ⟨database.tables ++ [{ name := name, columns := columns }]⟩
where
  isReserved (name : String) : Bool :=
    sameName (String.ofList (name.toList.take 7)) "sqlite_"

def run (statement : Statement) (values : List Value) : Action Database Failure Reply := fun database =>
  match attempt database with
  | .ok (reply, after) => (.done reply, after)
  | .error failure => (.failed failure, database)
where
  onTable (database : Database) (name : String)
      (step : TableData → Except Failure (Reply × TableData)) : Except Failure (Reply × Database) :=
    match database.table? name with
    | none => .error .unspecified
    | some table => (step table).map fun result => (result.1, database.withTable result.2)
  attempt (database : Database) : Except Failure (Reply × Database) :=
    match statement with
    | .createTable name columns => (database.createTable name columns).map ((.done, ·))
    | .insert name columns =>
        onTable database name fun table => (table.insert (columns.zip values)).map ((.done, ·))
    | .update name assigned filter =>
        onTable database name fun table =>
          (table.update (assigned.zip values) (filter.zip (values.drop assigned.length))).map
            fun result => (.changed result.1, result.2)
    | .delete name filter =>
        onTable database name fun table =>
          let result := table.delete (filter.zip values)
          .ok (.changed result.1, result.2)
    | .select name shown filter =>
        onTable database name fun table =>
          .ok (.found (table.select shown (filter.zip values)), table)

end Database
end FeatureGate.Sql
