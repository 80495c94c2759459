import FeatureGate.Json.Literal
import FeatureGate.Json.Value

namespace FeatureGate.Json

def after? (word : List Char) (cs : List Char) : Option (List Char) :=
  if word.isPrefixOf cs then some (cs.drop word.length) else none

mutual

-- One value at the beginning of a text, and what follows it. The first argument
-- bounds the nesting and is never reached when it starts at the text's length.
def value? : Nat → List Char → Option (Value × List Char)
  | 0, _ => none
  | fuel + 1, cs =>
      match cs with
      | '"' :: rest => (string? rest).map fun (text, after) => (.string text, after)
      | '[' :: rest =>
          match skipSpace rest with
          | ']' :: after => some (.array [], after)
          | inner => (items? fuel inner).map fun (items, after) => (.array items, after)
      | '\x7b' :: rest =>
          match skipSpace rest with
          | '\x7d' :: after => some (.object [], after)
          | inner => (members? fuel inner).map fun (members, after) => (.object members, after)
      | '-' :: rest => (number? rest).map fun (isFinite, after) => (.number isFinite, after)
      | 'n' :: rest => (after? ['u', 'l', 'l'] rest).map fun after => (.null, after)
      | 't' :: rest => (after? ['r', 'u', 'e'] rest).map fun after => (.boolean true, after)
      | 'f' :: rest => (after? ['a', 'l', 's', 'e'] rest).map fun after => (.boolean false, after)
      | _ => (number? cs).map fun (isFinite, after) => (.number isFinite, after)

def items? : Nat → List Char → Option (List Value × List Char)
  | 0, _ => none
  | fuel + 1, cs =>
      match value? fuel cs with
      | none => none
      | some (item, after) =>
          match skipSpace after with
          | ']' :: rest => some ([item], rest)
          | ',' :: rest => (items? fuel (skipSpace rest)).map fun (items, rest) => (item :: items, rest)
          | _ => none

def members? : Nat → List Char → Option (List (Option String × Value) × List Char)
  | 0, _ => none
  | fuel + 1, cs =>
      match cs with
      | '"' :: named =>
          match string? named with
          | none => none
          | some (name, after) =>
              match skipSpace after with
              | ':' :: rest =>
                  match value? fuel (skipSpace rest) with
                  | none => none
                  | some (value, after) =>
                      match skipSpace after with
                      | '\x7d' :: rest => some ([(name, value)], rest)
                      | ',' :: rest =>
                          (members? fuel (skipSpace rest)).map fun (members, rest) =>
                            ((name, value) :: members, rest)
                      | _ => none
              | _ => none
      | _ => none

end

def parse (text : String) : Option Value :=
  let cs := text.toList
  match value? (2 * cs.length + 2) (skipSpace cs) with
  | some (value, after) => if (skipSpace after).isEmpty then some value else none
  | none => none

end FeatureGate.Json
