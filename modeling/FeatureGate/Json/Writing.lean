import FeatureGate.Json.Value

namespace FeatureGate.Json

def hexPair (n : Nat) : List Char := [Nat.digitChar (n / 16), Nat.digitChar (n % 16)]

def escapedChar (c : Char) : List Char :=
  if c = '"' then ['\\', '"']
  else if c = '\\' then ['\\', '\\']
  else if c = '\x08' then ['\\', 'b']
  else if c = '\x0c' then ['\\', 'f']
  else if c = '\n' then ['\\', 'n']
  else if c = '\r' then ['\\', 'r']
  else if c = '\t' then ['\\', 't']
  else if c < ' ' then ['\\', 'u', '0', '0'] ++ hexPair c.toNat
  else [c]

def quotedChars (cs : List Char) : List Char := ['"'] ++ cs.flatMap escapedChar ++ ['"']

def quotedText (text : Option String) : List Char := quotedChars (text.getD "").toList

-- Where line breaks and indentation go: nowhere, or one item to a line with two
-- blanks for each level.
inductive Form where
  | compact
  | lines
deriving DecidableEq, Repr

def Form.lineBreak (form : Form) (level : Nat) : List Char :=
  match form with
  | .compact => []
  | .lines => '\n' :: List.replicate (2 * level) ' '

def Form.colon : Form → List Char
  | .compact => [':']
  | .lines => [':', ' ']

mutual

def written (form : Form) (level : Nat) : Value → List Char
  | .null => "null".toList
  | .boolean true => "true".toList
  | .boolean false => "false".toList
  | .number _ => ['0']
  | .string text => quotedText text
  | .array [] => ['[', ']']
  | .array items => ['['] ++ writtenItems form (level + 1) items ++ form.lineBreak level ++ [']']
  | .object [] => ['\x7b', '\x7d']
  | .object members =>
      ['\x7b'] ++ writtenMembers form (level + 1) members ++ form.lineBreak level ++ ['\x7d']

def writtenItems (form : Form) (level : Nat) : List Value → List Char
  | [] => []
  | [item] => form.lineBreak level ++ written form level item
  | item :: rest =>
      form.lineBreak level ++ written form level item ++ [','] ++ writtenItems form level rest

def writtenMembers (form : Form) (level : Nat) : List (Option String × Value) → List Char
  | [] => []
  | [(name, value)] =>
      form.lineBreak level ++ quotedText name ++ form.colon ++ written form level value
  | (name, value) :: rest =>
      form.lineBreak level ++ quotedText name ++ form.colon ++ written form level value ++ [','] ++
        writtenMembers form level rest

end

def Value.text (form : Form) (value : Value) : String := String.ofList (written form 0 value)

end FeatureGate.Json
