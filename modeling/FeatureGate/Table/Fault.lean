import FeatureGate.Sql.Failure
import FeatureGate.Text.Quoted

namespace FeatureGate.Table

inductive Fault where
  | database (failure : Sql.Failure)
  | unknownTable (table : String)
  | unknownColumn (table column : String)
  | missingColumn (table column : String)
  | typeMismatch (table column expected : String)
  | invalidIdentifier (name : String)
  | poisoned
deriving DecidableEq, Repr

-- The text of a fault; a database failure without a text of its own has none.
def Fault.message? : Fault → Option String
  | database failure => failure.message?.map ("database error: " ++ ·)
  | unknownTable table => some ("unknown table: " ++ table)
  | unknownColumn table column => some ("unknown column " ++ column ++ " in table " ++ table)
  | missingColumn table column =>
      some ("missing required column " ++ column ++ " in table " ++ table)
  | typeMismatch table column expected =>
      some ("type mismatch for column " ++ column ++ " in table " ++ table ++ ": expected " ++ expected)
  | invalidIdentifier name => some ("invalid identifier: " ++ Text.quoted name)
  | poisoned => some "store lock poisoned"

end FeatureGate.Table
