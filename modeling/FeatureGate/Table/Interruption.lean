import FeatureGate.Table.Store

namespace FeatureGate.Table

inductive Ending where
  | poisoned
  | unknownTable
  | abort
deriving DecidableEq, Repr

-- A standing order that calls of one method, on one table or on all of them, do
-- not get through.
structure Interruption where
  method : Method
  table : Option String
  ending : Ending
deriving DecidableEq, Repr

namespace Interruption

def concerns (order : Interruption) (method : Method) (table : String) : Bool :=
  order.method = method && order.table.all (· = table)

def outcome (order : Interruption) (table : String) : Outcome Fault Empty :=
  match order.ending with
  | .poisoned => .failed .poisoned
  | .unknownTable => .failed (.unknownTable table)
  | .abort => .aborted

def fate (orders : List Interruption) (method : Method) (table : String) :
    Option (Outcome Fault Empty) :=
  (orders.find? (·.concerns method table)).map (·.outcome table)

end Interruption
end FeatureGate.Table
