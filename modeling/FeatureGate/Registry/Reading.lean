import FeatureGate.Registry.Tables

namespace FeatureGate.Registry
open Table

def rowsOf (store : Store σ) (table : String) (key : Row) : Action σ Error (List Row) :=
  (store.select table key).mapError .store

def understood (result : Except Invalid α) : Action σ Error α :=
  Action.ofExcept (result.mapError .validation)

-- Of several rows under one key the first one speaks.
def firstOf (read : Row → Except Invalid α) : List Row → Except Invalid (Option α)
  | [] => .ok none
  | row :: _ => (read row).map some

def isSuperuser (store : Store σ) (user : String) : Action σ Error Bool := do
  return !(← rowsOf store superusers (superuserKey user)).isEmpty

def allSuperusers (store : Store σ) : Action σ Error (List String) := do
  return (← rowsOf store superusers Assoc.empty).filterMap (Row.text? · "user_id")

def defaults? (store : Store σ) (plugin feature : String) : Action σ Error (Option Defaults) := do
  understood (firstOf defaultsOf (← rowsOf store features (featureKey plugin feature)))

def state? (store : Store σ) (table : String) (key : Row) : Action σ Error (Option Permission) := do
  understood (firstOf (permissionOf · "state") (← rowsOf store table key))

def groupOverride? (store : Store σ) (plugin feature group : String) :
    Action σ Error (Option Permission) :=
  state? store groups (groupKey plugin feature group)

def userOverride? (store : Store σ) (plugin feature user : String) :
    Action σ Error (Option Permission) :=
  state? store users (userKey plugin feature user)

def allFeatures (store : Store σ) : Action σ Error (List Entry) := do
  understood ((← rowsOf store features Assoc.empty).mapM entryOf)

end FeatureGate.Registry
