import FeatureGate.Actor
import FeatureGate.CommandLine.Grammar
import FeatureGate.Feature

namespace FeatureGate.CommandLine

inductive Directive where
  | addSuperuser (user : String)
  | removeSuperuser (user : String)
  | listSuperusers
  | setDefaults (plugin feature : String) (update : Update)
  | showDefaults (plugin feature : String) (asJson : Bool)
  | listFeatures (asJson : Bool)
  | overrideGroup (target : FeatureName) (group : String) (state : Permission)
  | overrideUser (target : FeatureName) (user : String) (state : Permission)
  | check (actor : Actor) (plugin feature : String)
  | chat (actor : Actor) (kind : String) (arguments : List String)
deriving DecidableEq, Repr

structure Invocation where
  settings : Option String
  database : Option String
  directive : Directive
deriving DecidableEq, Repr

def permission? (word : String) : Option Permission := (Permission.ofWord word).toOption

def role? (word : String) : Option Role := (Role.ofWord word).toOption

def isPermission (word : String) : Bool := (permission? word).isSome

def isRole (word : String) : Bool := (role? word).isSome

def isFeatureName (text : String) : Bool := (FeatureName.ofText? text).isSome

def common : List Switch :=
  [{ long := "help", short := 'h', effect := .help },
   { long := "config", short := 'c', accepts := (· != "") },
   { long := "database", short := 'd', accepts := (· != "") }]

def actorSwitches : List Switch :=
  [{ long := "user", short := 'u', required := true }, { long := "group", short := 'g' },
   { long := "role", short := 'r', accepts := isRole }]

def branch (commands : List (String × Grammar)) : Grammar := .level common [] commands

def leaf (switches : List Switch) (places : List Place) : Grammar :=
  .level (common ++ switches) places []

def permissionSwitch (long : String) : Switch := { long, accepts := isPermission }

def asJson : Switch := { long := "json", effect := .flag }

def featurePlaces : List Place := [{ name := "plugin" }, { name := "feature" }]

def overrideGrammar (subject : String) : Grammar :=
  leaf [] [{ name := "target", accepts := isFeatureName }, { name := subject },
    { name := "state", accepts := isPermission }]

def grammar : Grammar :=
  .level (common ++ [{ long := "version", short := 'V', effect := .version }]) []
    [("superuser", branch
        [("add", leaf [] [{ name := "user" }]), ("remove", leaf [] [{ name := "user" }]),
         ("list", leaf [] [])]),
     ("feature", branch
        [("set", leaf (["admin", "group", "user"].map permissionSwitch) featurePlaces),
         ("show", leaf [asJson] featurePlaces), ("list", leaf [asJson] [])]),
     ("group", overrideGrammar "group"),
     ("user", overrideGrammar "user"),
     ("check", leaf actorSwitches featurePlaces),
     ("perm", leaf actorSwitches [{ name := "kind" }, { name := "arguments", repeats := true }])]

namespace Sentence

def has (sentence : Sentence) (long : String) : Bool := (sentence.value? long).isSome

def permission? (sentence : Sentence) (long : String) : Option Permission :=
  (sentence.value? long).bind CommandLine.permission?

def actor? (sentence : Sentence) : Option Actor := do
  let user ← sentence.value? "user"
  let role ← role? ((sentence.value? "role").getD "member")
  match sentence.value? "group" with
  | some group => return .group user group role
  | none => return .alone user

def directive? (sentence : Sentence) : Option Directive :=
  match sentence.commands, sentence.arguments with
  | ["superuser", "add"], [user] => some (.addSuperuser user)
  | ["superuser", "remove"], [user] => some (.removeSuperuser user)
  | ["superuser", "list"], [] => some .listSuperusers
  | ["feature", "set"], [plugin, feature] =>
      some (.setDefaults plugin feature
        ⟨sentence.permission? "admin", sentence.permission? "group", sentence.permission? "user"⟩)
  | ["feature", "show"], [plugin, feature] =>
      some (.showDefaults plugin feature (sentence.has "json"))
  | ["feature", "list"], [] => some (.listFeatures (sentence.has "json"))
  | ["group"], [target, group, state] => do
      return .overrideGroup (← FeatureName.ofText? target) group (← CommandLine.permission? state)
  | ["user"], [target, user, state] => do
      return .overrideUser (← FeatureName.ofText? target) user (← CommandLine.permission? state)
  | ["check"], [plugin, feature] => do return .check (← sentence.actor?) plugin feature
  | ["perm"], kind :: arguments => do return .chat (← sentence.actor?) kind arguments
  | _, _ => none

end Sentence

-- What the grammar admits always names a directive.
def Invocation.parse (arguments : List String) : Except Ending Invocation :=
  match grammar.read arguments with
  | .error ending => .error ending
  | .ok sentence => match sentence.directive? with
      | some directive => .ok ⟨sentence.value? "config", sentence.value? "database", directive⟩
      | none => .error .refused

end FeatureGate.CommandLine
