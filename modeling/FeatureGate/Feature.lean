import FeatureGate.Permission

namespace FeatureGate

-- The permissions a feature was registered with: `admin` for admins and owners of
-- groups, `group` and `user` as kill switch and fallback of their branches.
structure Defaults where
  admin : Permission := .allow
  group : Permission := .allow
  user : Permission := .allow
deriving DecidableEq, Repr

structure Update where
  admin : Option Permission := none
  group : Option Permission := none
  user : Option Permission := none
deriving DecidableEq, Repr

namespace Update

def isEmpty (update : Update) : Bool :=
  update.admin.isNone && update.group.isNone && update.user.isNone

def apply (update : Update) (base : Defaults) : Defaults where
  admin := update.admin.getD base.admin
  group := update.group.getD base.group
  user := update.user.getD base.user

end Update

def Defaults.asUpdate (defaults : Defaults) : Update :=
  ⟨some defaults.admin, some defaults.group, some defaults.user⟩

theorem Defaults.apply_asUpdate (defaults base : Defaults) : defaults.asUpdate.apply base = defaults := rfl

structure Entry where
  plugin : String
  feature : String
  defaults : Defaults
deriving DecidableEq, Repr

structure FeatureName where
  plugin : String
  feature : String
deriving DecidableEq, Repr

namespace FeatureName

def text (name : FeatureName) : String := name.plugin ++ "." ++ name.feature

-- The text is cut at its first dot, and both parts must hold something. So no
-- plugin named like this holds a dot, while a feature may.
def ofText? (text : String) : Option FeatureName :=
  let plugin := text.toList.takeWhile (· != '.')
  match text.toList.dropWhile (· != '.') with
  | _ :: feature =>
      if plugin.isEmpty || feature.isEmpty then none
      else some ⟨String.ofList plugin, String.ofList feature⟩
  | [] => none

end FeatureName
end FeatureGate
