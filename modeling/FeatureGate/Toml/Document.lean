import FeatureGate.Assoc
import FeatureGate.Toml.Line

namespace FeatureGate.Toml

-- How a table came to be, which decides what may still be added to it: by a line
-- of its own, on the way to another table's line, on the way of a dotted name, or
-- written out in one piece.
inductive Origin where
  | declared
  | passed
  | dotted
  | inline
deriving DecidableEq, Repr

inductive Value where
  | text (value : String)
  | scalar (value : Scalar)
  | array (items : List Value)
  | tables (elements : List Value)
  | table (origin : Origin) (pairs : List (String × Value))
deriving Repr

namespace Value

mutual

def isSound : Value → Bool
  | .scalar (.integer inRange) => inRange
  | .scalar (.float isFinite) => isFinite
  | .array items => areSound items
  | .tables elements => areSound elements
  | .table _ pairs => areSoundPairs pairs
  | _ => true

def areSound : List Value → Bool
  | [] => true
  | value :: rest => isSound value && areSound rest

def areSoundPairs : List (String × Value) → Bool
  | [] => true
  | (_, value) :: rest => isSound value && areSoundPairs rest

end

end Value

abbrev Pairs := List (String × Value)

def add (name : String) (value : Value) (pairs : Pairs) : Option Pairs :=
  if (Assoc.lookup name pairs).isSome then none else some (pairs ++ [(name, value)])

def addPath (value : Value) : List String → Pairs → Option Pairs
  | [], _ => none
  | [name], pairs => add name value pairs
  | name :: next :: path, pairs =>
      match Assoc.lookup name pairs with
      | none => (addPath value (next :: path) []).map fun inner =>
          pairs ++ [(name, .table .dotted inner)]
      | some (.table origin inner) =>
          if origin = .dotted ∨ (origin = .passed ∧ !path.isEmpty) then
            (addPath value (next :: path) inner).map fun inner =>
              Assoc.replace name (.table origin inner) pairs
          else none
      | some _ => none

-- A table's line. What was only passed on the way to another table is declared
-- now; what was made in any other way is not declared again.
def declare (name : String) (pairs : Pairs) : Option Pairs :=
  match Assoc.lookup name pairs with
  | none => some (pairs ++ [(name, .table .declared [])])
  | some (.table .passed inner) => some (Assoc.replace name (.table .declared inner) pairs)
  | some _ => none

def addElement (name : String) (pairs : Pairs) : Option Pairs :=
  match Assoc.lookup name pairs with
  | none => some (pairs ++ [(name, .tables [.table .declared []])])
  | some (.tables elements) =>
      some (Assoc.replace name (.tables (elements ++ [.table .declared []])) pairs)
  | some _ => none

-- Changes the table that a path leads to. Tables that are missing on the way are
-- made; of an array of tables the last one is meant; a table written out in one
-- piece is closed, and so is everything that is no table.
def atPath (change : Pairs → Option Pairs) : List String → Pairs → Option Pairs
  | [], pairs => change pairs
  | name :: path, pairs =>
      match Assoc.lookup name pairs with
      | none => (atPath change path []).map fun inner => pairs ++ [(name, .table .passed inner)]
      | some (.table .inline _) => none
      | some (.table origin inner) => (atPath change path inner).map fun inner =>
          Assoc.replace name (.table origin inner) pairs
      | some (.tables elements) =>
          match elements.getLast? with
          | some (.table origin inner) => (atPath change path inner).map fun inner =>
              Assoc.replace name (.tables (elements.dropLast ++ [.table origin inner])) pairs
          | _ => none
      | some _ => none

mutual

def evaluate : Expression → Option Value
  | .text value => some (.text value)
  | .scalar value => some (.scalar value)
  | .array items => (evaluateItems items).map .array
  | .inlineTable pairs => (evaluatePairs pairs []).map (.table .inline)

def evaluateItems : List Expression → Option (List Value)
  | [] => some []
  | item :: rest => do return (← evaluate item) :: (← evaluateItems rest)

def evaluatePairs : List (List String × Expression) → Pairs → Option Pairs
  | [], pairs => some pairs
  | (path, expression) :: rest, pairs => do
      let value ← evaluate expression
      evaluatePairs rest (← addPath value path pairs)

end

structure Draft where
  pairs : Pairs := []
  path : List String := []

def withLine (draft : Draft) : Line → Option Draft
  | .table path => do
      let name ← path.getLast?
      let pairs ← atPath (declare name) path.dropLast draft.pairs
      return { pairs, path }
  | .element path => do
      let name ← path.getLast?
      let pairs ← atPath (addElement name) path.dropLast draft.pairs
      return { pairs, path }
  | .pair path expression => do
      let value ← evaluate expression
      let pairs ← atPath (addPath value path) draft.path draft.pairs
      return { draft with pairs }

def document? (text : String) : Option Pairs := do
  let lines ← linesOf? text
  let draft ← lines.foldlM withLine {}
  return draft.pairs

end FeatureGate.Toml
