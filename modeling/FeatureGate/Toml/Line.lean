import FeatureGate.Toml.Scalar

namespace FeatureGate.Toml

inductive Expression where
  | text (value : String)
  | scalar (value : Scalar)
  | array (items : List Expression)
  | inlineTable (pairs : List (List String × Expression))
deriving Repr

inductive Line where
  | table (path : List String)
  | element (path : List String)
  | pair (path : List String) (value : Expression)
deriving Repr

def isBare (c : Char) : Bool := c.isAlphanum || c = '_' || c = '-'

def key? (cs : List Char) : Option (String × List Char) :=
  match cs with
  | '"' :: rest => (basic rest).map fun (name, after) => (String.ofList name, after)
  | '\'' :: rest => (literal rest).map fun (name, after) => (String.ofList name, after)
  | _ =>
      let name := cs.takeWhile isBare
      if name.isEmpty then none else some (String.ofList name, cs.dropWhile isBare)

def path? : Nat → List Char → Option (List String × List Char)
  | 0, _ => none
  | fuel + 1, cs => do
      let (name, after) ← key? cs
      match skipGap after with
      | '.' :: rest => (path? fuel (skipGap rest)).map fun (names, rest) => (name :: names, rest)
      | rest => some ([name], rest)

def pathOf? (cs : List Char) : Option (List String × List Char) := path? (cs.length + 1) cs

def quoted? (cs : List Char) : Option (String × List Char) :=
  let found := match cs with
    | '"' :: '"' :: '"' :: rest => basicLines false (dropLineEnd rest)
    | '"' :: rest => basic rest
    | '\'' :: '\'' :: '\'' :: rest => literalLines (dropLineEnd rest)
    | '\'' :: rest => literal rest
    | _ => none
  found.map fun (value, after) => (String.ofList value, after)

mutual

-- A value at the beginning of a text, and what follows it. `depth` is how many
-- more arrays and inline tables may be opened inside each other; `fuel` is never
-- used up when it starts above the length of the text.
def value? : Nat → Nat → List Char → Option (Expression × List Char)
  | 0, _, _ => none
  | fuel + 1, depth, cs =>
      match cs with
      | '[' :: rest =>
          if depth = 0 then none
          else (items? fuel (depth - 1) (skipAll rest)).map fun (items, after) => (.array items, after)
      | '\x7b' :: rest =>
          if depth = 0 then none
          else (pairs? fuel (depth - 1) (skipAll rest)).map fun (pairs, after) => (.inlineTable pairs, after)
      | c :: _ =>
          if c = '"' ∨ c = '\'' then (quoted? cs).map fun (value, after) => (.text value, after)
          else (scalar? (scalarPart cs).1).map fun value => (.scalar value, (scalarPart cs).2)
      | [] => none

def items? : Nat → Nat → List Char → Option (List Expression × List Char)
  | 0, _, _ => none
  | fuel + 1, depth, cs =>
      match cs with
      | ']' :: rest => some ([], rest)
      | _ => do
          let (item, after) ← value? fuel depth cs
          match skipAll after with
          | ']' :: rest => some ([item], rest)
          | ',' :: rest => (items? fuel depth (skipAll rest)).map fun (items, rest) => (item :: items, rest)
          | _ => none

def pairs? : Nat → Nat → List Char → Option (List (List String × Expression) × List Char)
  | 0, _, _ => none
  | fuel + 1, depth, cs =>
      match cs with
      | '\x7d' :: rest => some ([], rest)
      | _ => do
          let (path, after) ← pathOf? cs
          match skipGap after with
          | '=' :: rest => do
              let (value, after) ← value? fuel depth (skipGap rest)
              match skipAll after with
              | '\x7d' :: rest => some ([(path, value)], rest)
              | ',' :: rest =>
                  (pairs? fuel depth (skipAll rest)).map fun (pairs, rest) => ((path, value) :: pairs, rest)
              | _ => none
          | _ => none

end

def deepest : Nat := 80

def content? (cs : List Char) : Option (Option Line × List Char) :=
  match cs with
  | [] => some (none, [])
  | '[' :: '[' :: rest => do
      let (path, after) ← pathOf? (skipGap rest)
      match after with
      | ']' :: ']' :: rest => some (some (.element path), rest)
      | _ => none
  | '[' :: rest => do
      let (path, after) ← pathOf? (skipGap rest)
      match after with
      | ']' :: rest => some (some (.table path), rest)
      | _ => none
  | '#' :: _ | '\n' :: _ | '\r' :: _ => some (none, cs)
  | _ => do
      let (path, after) ← pathOf? cs
      match after with
      | '=' :: rest => do
          let (value, after) ← value? (2 * rest.length + 2) deepest (skipGap rest)
          some (some (.pair path value), after)
      | _ => none

def lines? : Nat → List Char → Option (List Line)
  | 0, _ => none
  | fuel + 1, cs => do
      let (line, after) ← content? (skipGap cs)
      let rest := skipComment (skipGap after)
      if rest.isEmpty then some line.toList
      else do
        let next ← lineEnd? rest
        return line.toList ++ (← lines? fuel next)

def linesOf? (text : String) : Option (List Line) :=
  let cs := match text.toList with
    | '\ufeff' :: rest => rest
    | cs => cs
  lines? (cs.length + 1) cs

end FeatureGate.Toml
