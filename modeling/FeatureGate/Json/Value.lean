namespace FeatureGate.Json

-- A text of this format as it is written. Of a number only whether it is finite
-- is kept; a string that does not decode to characters has no text. Objects keep
-- the order and the repetitions of their members.
inductive Value where
  | null
  | boolean (value : Bool)
  | number (isFinite : Bool)
  | string (text : Option String)
  | array (items : List Value)
  | object (members : List (Option String × Value))
deriving Repr

namespace Value

def ofText (text : String) : Value := .string (some text)

def ofMembers (members : List (String × Value)) : Value :=
  .object (members.map fun member => (some member.1, member.2))

mutual

def depth : Value → Nat
  | .array items => depthOfItems items + 1
  | .object members => depthOfMembers members + 1
  | _ => 0

def depthOfItems : List Value → Nat
  | [] => 0
  | item :: rest => max (depth item) (depthOfItems rest)

def depthOfMembers : List (Option String × Value) → Nat
  | [] => 0
  | (_, value) :: rest => max (depth value) (depthOfMembers rest)

end

mutual

def isSound : Value → Bool
  | .number isFinite => isFinite
  | .string text => text.isSome
  | .array items => areSoundItems items
  | .object members => areSoundMembers members
  | _ => true

def areSoundItems : List Value → Bool
  | [] => true
  | item :: rest => isSound item && areSoundItems rest

def areSoundMembers : List (Option String × Value) → Bool
  | [] => true
  | (name, value) :: rest => name.isSome && isSound value && areSoundMembers rest

end

end Value
end FeatureGate.Json
