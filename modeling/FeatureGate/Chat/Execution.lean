import FeatureGate.Chat.Command
import FeatureGate.Service

namespace FeatureGate.ChatCommand
open Registry

variable {σ : Type}

def registerManagement : Action (Running σ) Error Unit := do
  Service.mutate (.updateFeature plugin "group" ({} : Defaults).asUpdate)
  Service.mutate (.updateFeature plugin "user" ({ group := .deny, user := .deny } : Defaults).asUpdate)

-- What a command changes on behalf of an actor, and what is said about it. A
-- group command means the actor's own group and no other.
def effect : ChatCommand → Actor → Option (Mutation × String)
  | group target state, .group _ own _ =>
      some (.updateGroup target.plugin target.feature own state,
        target.text ++ " permission in group " ++ own ++ " set to " ++ state.word)
  | group .., .alone _ => none
  | user target state named, actor =>
      let who := named.getD actor.user
      some (.updateUser target.plugin target.feature who state,
        target.text ++ " permission for user " ++ who ++ " set to " ++ state.word)

def execute (command : ChatCommand) (actor : Actor) : Action (Running σ) Error String := do
  if !(← Service.decide actor plugin command.kind) then Action.fail (.command .denied)
  else match command.effect actor with
    | none => Action.fail (.command .outsideGroup)
    | some (mutation, said) => do
        Service.mutate mutation
        return said

end FeatureGate.ChatCommand
