namespace FeatureGate.Sql

-- Why a database refused. `unspecified` is a statement that does not compile or
-- an answer that cannot be read as the registered kinds; it has no text of its own.
inductive Failure where
  | unique (table column : String)
  | notNull (table column : String)
  | full
  | keyMismatch
  | notADatabase
  | cannotOpen (path : String)
  | zeroByte (position : Nat)
  | unspecified
deriving DecidableEq, Repr

def Failure.message? : Failure → Option String
  | unique table column => some ("UNIQUE constraint failed: " ++ table ++ "." ++ column)
  | notNull table column => some ("NOT NULL constraint failed: " ++ table ++ "." ++ column)
  | full => some "database or disk is full"
  | keyMismatch => some "datatype mismatch"
  | notADatabase => some "file is not a database"
  | cannotOpen path => some ("unable to open database file: " ++ path)
  | zeroByte position =>
      some ("nul byte found in provided data at position: " ++ toString position)
  | unspecified => none

end FeatureGate.Sql
