import FeatureGate.Chat.Execution
import FeatureGate.CommandLine.Invocation
import FeatureGate.Json.Feature

namespace FeatureGate.Console
open CommandLine Registry

variable {σ : Type}

def lines (texts : List String) : String := String.join (texts.map (· ++ "\n"))

def padded (width : Nat) (text : String) : String :=
  text ++ String.ofList (List.replicate (width - text.length) ' ')

def headings : String :=
  padded 40 "FEATURE" ++ "  " ++ padded 6 "ADMIN" ++ "  " ++ padded 6 "GROUP" ++ "  USER"

-- Only the name is filled up; the words stand as long as they are.
def entryRow (entry : Entry) : String :=
  padded 40 (FeatureName.text ⟨entry.plugin, entry.feature⟩) ++ "  " ++ entry.defaults.admin.word ++
    "  " ++ entry.defaults.group.word ++ "  " ++ entry.defaults.user.word

def featureTable (entries : List Entry) : String :=
  if entries.isEmpty then lines ["No features registered."]
  else lines ([headings, String.ofList (List.replicate 66 '-')] ++ entries.map entryRow)

def entriesJson (entries : List Entry) : String :=
  (Json.Value.array (entries.map Json.ofEntry)).text .lines

def superuserList (users : List String) : String :=
  lines (if users.isEmpty then ["No superusers."] else users)

def defaultsText (name : FeatureName) (asJson : Bool) : Option Defaults → String
  | none => name.text ++ " is not registered"
  | some defaults =>
      if asJson then (Json.ofDefaults defaults).text .lines
      else name.text ++ "  admin=" ++ defaults.admin.word ++ "  group=" ++ defaults.group.word ++
        "  user=" ++ defaults.user.word

def printDefaults (plugin feature : String) (asJson : Bool) : Action (Running σ) Error String := do
  let found ← Service.reading (defaults? · plugin feature)
  return lines [defaultsText ⟨plugin, feature⟩ asJson found]

def carryOut : Directive → Action (Running σ) Error String
  | .addSuperuser user => do
      Service.mutate (.setSuperuser user)
      return lines [user ++ " is a superuser"]
  | .removeSuperuser user => do
      Service.mutate (.removeSuperuser user)
      return lines [user ++ " is not a superuser"]
  | .listSuperusers => return superuserList (← Service.reading allSuperusers)
  | .setDefaults plugin feature update => do
      if update.isEmpty then return lines ["Nothing to update."]
      Service.mutate (.updateFeature plugin feature update)
      printDefaults plugin feature false
  | .showDefaults plugin feature asJson => printDefaults plugin feature asJson
  | .listFeatures asJson => do
      let entries ← Service.reading allFeatures
      return if asJson then lines [entriesJson entries] else featureTable entries
  | .overrideGroup target group state => do
      Service.mutate (.updateGroup target.plugin target.feature group state)
      return lines [target.text ++ " in group " ++ group ++ ": " ++ state.word]
  | .overrideUser target user state => do
      Service.mutate (.updateUser target.plugin target.feature user state)
      return lines [target.text ++ " for user " ++ user ++ ": " ++ state.word]
  | .check actor plugin feature => do
      return lines [(Permission.ofBool (← Service.decide actor plugin feature)).word]
  | .chat actor kind arguments => do
      ChatCommand.registerManagement
      let command ← Action.ofExcept ((ChatCommand.parse kind (" ".intercalate arguments)).mapError .command)
      return lines [← command.execute actor]

def session (store : Table.Store σ) (superuser : Option String) (directive : Directive) :
    Action (Running σ) Error String := do
  Service.init store superuser
  carryOut directive

end FeatureGate.Console
