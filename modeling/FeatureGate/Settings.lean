import FeatureGate.Toml.Document

namespace FeatureGate

structure Settings where
  superuser : Option String := none
  database : Option String := none
  level : String := "warn"
deriving DecidableEq, Repr

inductive SettingsError where
  | malformed
  | emptySuperuser
deriving DecidableEq, Repr

def SettingsError.message : SettingsError → String
  | malformed => "failed to parse config:"
  | emptySuperuser => "superuser must not be empty"

namespace Settings
open Toml

def text? : Option Value → Option (Option String)
  | none => some none
  | some (.text value) => some (some value)
  | some _ => none

def restIsSound (known : List String) (pairs : Pairs) : Bool :=
  pairs.all fun pair => known.contains pair.1 || pair.2.isSound

-- A part of the settings that holds one text. It may be a table or, with the text
-- in first place, an array; a moment passes for a table without the name. Whether
-- an array may be empty depends on the part.
def part? (name : String) (mayBeEmpty : Bool) : Option Value → Option (Option String)
  | none => some none
  | some (.table _ pairs) =>
      if restIsSound [name] pairs then text? (Assoc.lookup name pairs) else none
  | some (.array []) | some (.tables []) => if mayBeEmpty then some none else none
  | some (.array (first :: _)) | some (.tables (first :: _)) => text? (some first)
  | some (.scalar .moment) => some none
  | some _ => none

def ofPairs? (pairs : Pairs) : Option Settings := do
  let superuser ← text? (Assoc.lookup "superuser" pairs)
  let database ← part? "path" false (Assoc.lookup "database" pairs)
  let level ← part? "level" true (Assoc.lookup "log" pairs)
  if restIsSound ["superuser", "database", "log"] pairs then
    some { superuser, database, level := level.getD "warn" }
  else none

def parse (text : String) : Except SettingsError Settings :=
  match (document? text).bind ofPairs? with
  | none => .error .malformed
  | some settings => if settings.superuser = some "" then .error .emptySuperuser else .ok settings

end Settings
end FeatureGate
