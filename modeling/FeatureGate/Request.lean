import FeatureGate.Chat.Execution

namespace FeatureGate
open Table Registry

variable {σ : Type}

inductive Request where
  | init (superuser : Option String)
  | isInitialized
  | createTables
  | mutate (mutation : Mutation)
  | isSuperuser (user : String)
  | superusers
  | defaults (plugin feature : String)
  | groupOverride (plugin feature group : String)
  | userOverride (plugin feature user : String)
  | features
  | decide (actor : Actor) (plugin feature : String)
  | isAdmin (actor : Actor)
  | registerManagement
  | command (command : ChatCommand) (actor : Actor)
deriving DecidableEq, Repr

inductive Response where
  | nothing
  | truth (value : Bool)
  | names (values : List String)
  | defaults (value : Option Defaults)
  | permission (value : Option Permission)
  | entries (values : List Entry)
  | text (value : String)
deriving DecidableEq, Repr

-- The store is the one that an `init` hands over; every other request uses the
-- store that the service holds.
def Request.handle (store : Store σ) : Request → Action (Running σ) Error Response
  | init superuser => do Service.init store superuser; return .nothing
  | isInitialized => Action.gets fun running => .truth running.service.isInitialized
  | createTables => do Service.reading Registry.createTables; return .nothing
  | mutate mutation => do Service.mutate mutation; return .nothing
  | isSuperuser user => return .truth (← Service.reading (Registry.isSuperuser · user))
  | superusers => return .names (← Service.reading allSuperusers)
  | defaults plugin feature => return .defaults (← Service.reading (defaults? · plugin feature))
  | groupOverride plugin feature group =>
      return .permission (← Service.reading (groupOverride? · plugin feature group))
  | userOverride plugin feature user =>
      return .permission (← Service.reading (userOverride? · plugin feature user))
  | features => return .entries (← Service.reading allFeatures)
  | decide actor plugin feature => return .truth (← Service.decide actor plugin feature)
  | isAdmin actor => return .truth (← Service.reading (Resolution.isAdmin · actor))
  | registerManagement => do ChatCommand.registerManagement; return .nothing
  | command asked actor => return .text (← asked.execute actor)

end FeatureGate
