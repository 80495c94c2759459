import FeatureGate.Registry.Mutation
import FeatureGate.Rule

namespace FeatureGate
open Table Registry

variable {σ E α ε : Type}

-- What a service holds once it is set up: the store it was given, and whether a
-- writer died while it held the write lock. Only reading goes on after that.
structure Ledger (σ : Type) where
  store : Store σ
  poisoned : Bool := false

structure Service (σ : Type) where
  ledger : Option (Ledger σ) := none

structure Running (σ : Type) where
  service : Service σ
  world : σ

namespace Service

def isInitialized (service : Service σ) : Bool := service.ledger.isSome

def held : Action (Running σ) Error (Ledger σ) := fun running =>
  match running.service.ledger with
  | some ledger => (.done ledger, running)
  | none => (.failed .uninitialized, running)

def onWorld (action : Action σ ε α) : Action (Running σ) ε α :=
  action.within (·.world) fun world running => { running with world }

def reading (read : Store σ → Action σ Error α) : Action (Running σ) Error α := do
  onWorld (read (← held).store)

-- Tables first, then the superuser. A refused superuser leaves the tables behind.
def setUp (store : Store σ) (superuser : Option String) : Action σ Error Unit := do
  createTables store
  match superuser with
  | none => return ()
  | some user =>
      Action.refuse ((Mutation.setSuperuser user).invalid.map .validation)
      (Mutation.setSuperuser user).apply store

def init (store : Store σ) (superuser : Option String) : Action (Running σ) Error Unit :=
  fun running =>
    match running.service.ledger with
    | some _ => (.failed .alreadyInitialized, running)
    | none => match setUp store superuser running.world with
        | (.done (), world) => (.done (), ⟨⟨some { store }⟩, world⟩)
        | (.failed error, world) => (.failed error, { running with world })
        | (.aborted, world) => (.aborted, { running with world })

def locked (body : Store σ → Action σ Error Unit) : Action (Running σ) Error Unit := do
  let ledger ← held
  if ledger.poisoned then Action.fail (.store .poisoned)
  else fun running =>
    match body ledger.store running.world with
    | (.aborted, world) => (.aborted, ⟨⟨some { ledger with poisoned := true }⟩, world⟩)
    | (outcome, world) => (outcome, { running with world })

def mutate (mutation : Mutation) : Action (Running σ) Error Unit := do
  let _ ← held
  Action.refuse (mutation.invalid.map .validation)
  if mutation.isIdle then return ()
  locked mutation.apply

def decide (actor : Actor) (plugin feature : String) : Action (Running σ) Error Bool :=
  reading fun store => Resolution.decide store actor plugin feature

def checker (actorOf : E → Option Actor) (plugin feature : String) :
    Action (Running σ) Error (Rule σ E) := do
  let ledger ← held
  Action.refuse ((emptyKey plugin feature).map .validation)
  return Rule.of fun event => Rule.allows ledger.store plugin feature (actorOf event)

end Service

structure Generator (σ E : Type) where
  plugin : String
  defaults : Defaults
  gate : Rule σ E

namespace Service

-- Any feature name would do here: the plugin's is the one that is looked at.
def generator (plugin : String) (defaults : Defaults) (gate : Rule σ E) :
    Action (Running σ) Error (Generator σ E) := do
  let _ ← held
  Action.refuse ((emptyKey plugin "any").map .validation)
  return { plugin, defaults, gate }

def generate (actorOf : E → Option Actor) (generator : Generator σ E) (feature : String) :
    Action (Running σ) Error (Rule σ E) := do
  mutate (.updateFeature generator.plugin feature generator.defaults.asUpdate)
  return (← checker actorOf generator.plugin feature).and generator.gate.clone

end Service
end FeatureGate
