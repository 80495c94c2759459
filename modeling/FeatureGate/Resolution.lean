import FeatureGate.Actor
import FeatureGate.Registry.Reading

namespace FeatureGate.Resolution
open Table Registry

def groupGate (store : Store σ) (plugin feature : String) (defaults : Defaults) (group : String)
    (role : Role) : Action σ Error Permission :=
  if role.isAdmin then pure defaults.admin
  else do return (← groupOverride? store plugin feature group).getD defaults.group

-- Behind the kill switch both gates must be open. The override of the user is
-- read even when the group gate is shut already.
def groupDecision (store : Store σ) (plugin feature : String) (defaults : Defaults)
    (user group : String) (role : Role) : Action σ Error Bool := do
  if !defaults.group.isAllowed then return false
  let groupGate ← groupGate store plugin feature defaults group role
  let userGate := (← userOverride? store plugin feature user).getD defaults.user
  return groupGate.isAllowed && userGate.isAllowed

-- In private the user default is a kill switch; once it is open a missing
-- override allows.
def privateDecision (store : Store σ) (plugin feature : String) (defaults : Defaults)
    (user : String) : Action σ Error Bool := do
  if !defaults.user.isAllowed then return false
  return ((← userOverride? store plugin feature user).getD .allow).isAllowed

def decide (store : Store σ) (actor : Actor) (plugin feature : String) : Action σ Error Bool := do
  Action.refuse ((emptyKey plugin feature).map .validation)
  if ← isSuperuser store actor.user then return true
  match ← defaults? store plugin feature with
  | none => return false
  | some defaults => match actor with
      | .group user group role => groupDecision store plugin feature defaults user group role
      | .alone user => privateDecision store plugin feature defaults user

def isAdmin (store : Store σ) (actor : Actor) : Action σ Error Bool :=
  match actor with
  | .group user _ role => if role.isAdmin then return true else isSuperuser store user
  | .alone user => isSuperuser store user

end FeatureGate.Resolution
