import FeatureGate.Registry.Reading

namespace FeatureGate.Registry
open Table

def createTables (store : Store σ) : Action σ Error Unit :=
  tables.forM fun (name, layout) => (store.createTable name layout).mapError .setup

inductive Mutation where
  | setSuperuser (user : String)
  | removeSuperuser (user : String)
  | updateFeature (plugin feature : String) (update : Update)
  | updateGroup (plugin feature group : String) (state : Permission)
  | updateUser (plugin feature user : String) (state : Permission)
deriving DecidableEq, Repr

-- Looks first and then either inserts or updates, so that a key that has no row
-- gets one and a key that has rows gets no more.
def writeUnder (store : Store σ) (table : String) (key cells : Row) : Action σ Error Unit := do
  if (← rowsOf store table key).isEmpty then
    (store.insert table (key.assign cells)).mapError .store
  else
    let _ ← (store.update table cells key).mapError .store

namespace Mutation

def invalid : Mutation → Option Invalid
  | setSuperuser user | removeSuperuser user => emptyName .userId user
  | updateFeature plugin feature _ => emptyKey plugin feature
  | updateGroup plugin feature group _ => emptyKey plugin feature <|> emptyName .groupId group
  | updateUser plugin feature user _ => emptyKey plugin feature <|> emptyName .userId user

def isIdle : Mutation → Bool
  | updateFeature _ _ update => update.isEmpty
  | _ => false

-- Every mutation reads before it writes, writes once at most, and writes last.
def apply (store : Store σ) : Mutation → Action σ Error Unit
  | setSuperuser user => do
      if (← rowsOf store superusers (superuserKey user)).isEmpty then
        (store.insert superusers (superuserKey user)).mapError .store
  | removeSuperuser user => do
      if !(← rowsOf store superusers (superuserKey user)).isEmpty then
        let _ ← (store.delete superusers (superuserKey user)).mapError .store
  | updateFeature plugin feature update => do
      let base := (← defaults? store plugin feature).getD {}
      writeUnder store features (featureKey plugin feature) (defaultCells (update.apply base))
  | updateGroup plugin feature group state =>
      writeUnder store groups (groupKey plugin feature group) (stateCells state)
  | updateUser plugin feature user state =>
      writeUnder store users (userKey plugin feature user) (stateCells state)

end Mutation
end FeatureGate.Registry
