import FeatureGate.Error
import FeatureGate.Text.Blank
import FeatureGate.Text.Integer

namespace FeatureGate

inductive Permission where
  | deny
  | allow
deriving DecidableEq, Repr

namespace Permission

def isAllowed : Permission → Bool
  | allow => true
  | deny => false

def ofBool : Bool → Permission
  | true => allow
  | false => deny

def word : Permission → String
  | allow => "allow"
  | deny => "deny"

def toInteger : Permission → Int
  | allow => 1
  | deny => 0

def ofInteger (number : Int) : Except Invalid Permission :=
  if number = 1 then .ok allow else if number = 0 then .ok deny else .error (.permissionNumber number)

def allowWords : List String := ["true", "yes", "1", "on", "enable", "allow"]
def denyWords : List String := ["false", "no", "0", "off", "disable", "deny"]

-- The words of people: blanks around them and the case of letters do not matter,
-- and any integer but zero allows.
def ofToggle? (toggle : String) : Option Permission :=
  let plain := Text.lower (Text.trim toggle.toList)
  if allowWords.contains (String.ofList plain) then some allow
  else if denyWords.contains (String.ofList plain) then some deny
  else (Text.integer? plain).map fun number => ofBool (number != 0)

def ofWord (toggle : String) : Except Invalid Permission :=
  (ofToggle? toggle).elim (.error (.permissionWord toggle)) .ok

end Permission

end FeatureGate
