import FeatureGate.Table.Layout

namespace FeatureGate.Sql
open Table (Kind)

-- A statement knows names only. The values that belong to it are bound to its
-- placeholders and are no part of its text.
inductive Statement where
  | createTable (table : String) (columns : List (String × Kind))
  | insert (table : String) (columns : List String)
  | update (table : String) (assigned filter : List String)
  | delete (table : String) (filter : List String)
  | select (table : String) (shown filter : List String)
deriving DecidableEq, Repr

inductive Piece where
  | words (fixed : String)
  | name (quoted : String)
  | placeholder (number : Nat)
deriving DecidableEq, Repr

def Piece.text : Piece → String
  | .words fixed => fixed
  | .name quoted => "\"" ++ quoted ++ "\""
  | .placeholder number => "?" ++ toString number

namespace Statement

def separated (separator : String) : List (List Piece) → List Piece
  | [] => []
  | [last] => last
  | first :: rest => first ++ .words separator :: separated separator rest

def declaration : Kind → String
  | .key => " INTEGER PRIMARY KEY AUTOINCREMENT"
  | .text => " TEXT NOT NULL"
  | .integer => " INTEGER NOT NULL"

def equations (first : Nat) (columns : List String) : List (List Piece) :=
  columns.mapIdx fun i column => [.name column, .words " = ", .placeholder (first + i)]

def condition (first : Nat) (filter : List String) : List Piece :=
  if filter.isEmpty then [] else .words " WHERE " :: separated " AND " (equations first filter)

def names (columns : List String) : List Piece :=
  separated ", " (columns.map fun column => [.name column])

def placeholders (count : Nat) : List Piece :=
  separated ", " ((List.range count).map fun i => [.placeholder (i + 1)])

def pieces : Statement → List Piece
  | createTable table columns =>
      [.words "CREATE TABLE IF NOT EXISTS ", .name table, .words " ("] ++
        separated ", " (columns.map fun column => [.name column.1, .words (declaration column.2)]) ++
        [.words ");"]
  | insert table columns =>
      if columns.isEmpty then [.words "INSERT INTO ", .name table, .words " DEFAULT VALUES"]
      else [.words "INSERT INTO ", .name table, .words " ("] ++ names columns ++
        [.words ") VALUES ("] ++ placeholders columns.length ++ [.words ")"]
  | update table assigned filter =>
      [.words "UPDATE ", .name table, .words " SET "] ++ separated ", " (equations 1 assigned) ++
        condition (assigned.length + 1) filter
  | delete table filter => [.words "DELETE FROM ", .name table] ++ condition 1 filter
  | select table shown filter =>
      [.words "SELECT "] ++ names shown ++ [.words " FROM ", .name table] ++ condition 1 filter ++
        [.words " ORDER BY rowid"]

def text (statement : Statement) : String := String.join (statement.pieces.map Piece.text)

end Statement
end FeatureGate.Sql
