import FeatureGate.Feature
import FeatureGate.Table.Store

namespace FeatureGate.Registry
open Table

-- The four tables. The group default has a column name of its own because the
-- plain word means something else to databases.
def features : String := "features"
def groups : String := "groups"
def users : String := "users"
def superusers : String := "superusers"

def keyed (columns : List (String × Kind)) : Layout :=
  ⟨[("id", .key), ("plugin", .text), ("feature", .text)] ++ columns⟩

def tables : List (String × Layout) :=
  [(features, keyed [("admin", .integer), ("group_perm", .integer), ("user", .integer)]),
   (groups, keyed [("group_id", .text), ("state", .integer)]),
   (users, keyed [("user_id", .text), ("state", .integer)]),
   (superusers, ⟨[("id", .key), ("user_id", .text)]⟩)]

-- The cells that pick out the rows of one feature, of one override, of one user.
-- There is to be one such row at most; no table enforces it.
def featureKey (plugin feature : String) : Row :=
  (Assoc.empty.put "plugin" (.text plugin)).put "feature" (.text feature)

def groupKey (plugin feature group : String) : Row :=
  (featureKey plugin feature).put "group_id" (.text group)

def userKey (plugin feature user : String) : Row :=
  (featureKey plugin feature).put "user_id" (.text user)

def superuserKey (user : String) : Row := Assoc.empty.put "user_id" (.text user)

def defaultCells (defaults : Defaults) : Row :=
  ((Assoc.empty.put "admin" (.integer defaults.admin.toInteger)).put
    "group_perm" (.integer defaults.group.toInteger)).put "user" (.integer defaults.user.toInteger)

def stateCells (state : Permission) : Row := Assoc.empty.put "state" (.integer state.toInteger)

def textOf (row : Row) (column : String) : Except Invalid String :=
  (Row.text? row column).elim (.error (.noText column)) .ok

def permissionOf (row : Row) (column : String) : Except Invalid Permission :=
  (Row.integer? row column).elim (.error (.noInteger column)) Permission.ofInteger

def defaultsOf (row : Row) : Except Invalid Defaults := do
  return ⟨← permissionOf row "admin", ← permissionOf row "group_perm", ← permissionOf row "user"⟩

def entryOf (row : Row) : Except Invalid Entry := do
  return ⟨← textOf row "plugin", ← textOf row "feature", ← defaultsOf row⟩

def emptyName (subject : Subject) (name : String) : Option Invalid :=
  if name.isEmpty then some (.empty subject) else none

def emptyKey (plugin feature : String) : Option Invalid :=
  emptyName .pluginName plugin <|> emptyName .featureName feature

end FeatureGate.Registry
