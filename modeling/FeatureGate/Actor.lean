import FeatureGate.Error
import FeatureGate.Text.Blank

namespace FeatureGate

inductive Role where
  | member
  | admin
  | owner
deriving DecidableEq, Repr

namespace Role

def isAdmin : Role → Bool
  | member => false
  | admin | owner => true

def word : Role → String
  | member => "member"
  | admin => "admin"
  | owner => "owner"

-- The case of letters does not matter; blanks do.
def ofWord (text : String) : Except Invalid Role :=
  match String.ofList (Text.lower text.toList) with
  | "member" => .ok member
  | "admin" => .ok admin
  | "owner" => .ok owner
  | _ => .error (.role text)

end Role

inductive Actor where
  | group (user group : String) (role : Role)
  | alone (user : String)
deriving DecidableEq, Repr

def Actor.user : Actor → String
  | group user _ _ | alone user => user

end FeatureGate
