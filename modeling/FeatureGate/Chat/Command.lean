import FeatureGate.Feature

namespace FeatureGate

inductive ChatCommand where
  | group (target : FeatureName) (state : Permission)
  | user (target : FeatureName) (state : Permission) (user : Option String)
deriving DecidableEq, Repr

namespace ChatCommand

-- From the words after the kind. Missing words come before a bad target, that
-- before a bad level, and an unknown kind last; words that are too many are ignored.
def ofWords (kind : String) : List String → Except CommandProblem ChatCommand
  | target :: level :: more =>
      match FeatureName.ofText? target with
      | none => .error .feature
      | some target => match Permission.ofToggle? level with
          | none => .error .level
          | some state =>
              if kind = "group" then .ok (group target state)
              else if kind = "user" then .ok (user target state more.head?)
              else .error (.unknownKind kind)
  | _ => .error .tooFewWords

def parse (kind arguments : String) : Except CommandProblem ChatCommand :=
  ofWords kind (Text.words arguments)

def kind : ChatCommand → String
  | group .. => "group"
  | user .. => "user"

def target : ChatCommand → FeatureName
  | group target _ | user target _ _ => target

def state : ChatCommand → Permission
  | group _ state | user _ state _ => state

def arguments : ChatCommand → String
  | group target state => target.text ++ " " ++ state.word
  | user target state none => target.text ++ " " ++ state.word
  | user target state (some who) => target.text ++ " " ++ state.word ++ " " ++ who

def plugin : String := "permission_plugin"

end ChatCommand
end FeatureGate
