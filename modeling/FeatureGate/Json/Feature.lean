import FeatureGate.Actor
import FeatureGate.Feature
import FeatureGate.Json.Reading
import FeatureGate.Json.Writing

namespace FeatureGate.Json

def ofPermission (permission : Permission) : Value := .ofText permission.word

def ofRole (role : Role) : Value := .ofText role.word

def defaultMembers (defaults : Defaults) : List (String × Value) :=
  [("admin", ofPermission defaults.admin), ("group", ofPermission defaults.group),
   ("user", ofPermission defaults.user)]

def ofDefaults (defaults : Defaults) : Value := .ofMembers (defaultMembers defaults)

def ofEntry (entry : Entry) : Value :=
  .ofMembers ([("plugin", .ofText entry.plugin), ("feature", .ofText entry.feature)] ++
    defaultMembers entry.defaults)

-- A choice among words is a string, or an object whose only member has the word
-- as its name and nothing as its value. What counts as nothing depends on where
-- the choice stands.
def word? (isNothing : Value → Bool) : Value → Option String
  | .string text => text
  | .object [(name, value)] => if isNothing value then name else none
  | _ => none

def isNull : Value → Bool
  | .null => true
  | _ => false

def isNullOrEmpty : Value → Bool
  | .null | .object [] => true
  | _ => false

def permissionNamed? (word : String) : Option Permission :=
  if word = "allow" then some .allow else if word = "deny" then some .deny else none

def roleNamed? (word : String) : Option Role :=
  if word = "member" then some .member else if word = "admin" then some .admin
  else if word = "owner" then some .owner else none

def permission? (value : Value) : Option Permission := (word? isNull value).bind permissionNamed?

def role? (value : Value) : Option Role := (word? isNull value).bind roleNamed?

def member? (name : String) (members : List (Option String × Value)) : Option Value :=
  match members.filter (·.1 = some name) with
  | [(_, value)] => some value
  | _ => none

def defaultsAmong? (permission? : Value → Option Permission)
    (members : List (Option String × Value)) : Option Defaults := do
  let admin ← permission? (← member? "admin" members)
  let group ← permission? (← member? "group" members)
  let user ← permission? (← member? "user" members)
  return { admin, group, user }

def defaults? : Value → Option Defaults
  | .object members =>
      if members.all (·.1.isSome) then defaultsAmong? permission? members else none
  | .array [admin, group, user] => do
      return ⟨← permission? admin, ← permission? group, ← permission? user⟩
  | _ => none

def text? : Value → Option String
  | .string text => text
  | _ => none

def deepest : Nat := 127

-- By name only. Everything in an entry is read before it is understood, other
-- names included, so all of it must be sound and not too deep.
def entry? (value : Value) : Option Entry :=
  match value with
  | .object members => do
      if !value.isSound || deepest < value.depth then none
      let plugin ← text? (← member? "plugin" members)
      let feature ← text? (← member? "feature" members)
      let defaults ← defaultsAmong?
        (fun value => (word? isNullOrEmpty value).bind permissionNamed?) members
      return { plugin, feature, defaults }
  | _ => none

def entries? : Value → Option (List Entry)
  | .array items => items.mapM entry?
  | _ => none

end FeatureGate.Json
