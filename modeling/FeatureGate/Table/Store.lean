import FeatureGate.Outcome
import FeatureGate.Table.Layout

namespace FeatureGate.Table

-- The five calls through which everything is kept, as steps on a world of type
-- σ. Two stores may work on the same world, and on different parts of it.
structure Store (σ : Type) where
  createTable : String → Layout → Action σ Fault Unit
  insert : String → Row → Action σ Fault Unit
  update : String → Row → Row → Action σ Fault Nat
  delete : String → Row → Action σ Fault Nat
  select : String → Row → Action σ Fault (List Row)

inductive Call where
  | createTable (table : String) (layout : Layout)
  | insert (table : String) (row : Row)
  | update (table : String) (assignment filter : Row)
  | delete (table : String) (filter : Row)
  | select (table : String) (filter : Row)
deriving DecidableEq, Repr

inductive Answer where
  | nothing
  | count (rows : Nat)
  | rows (found : List Row)
deriving DecidableEq, Repr

inductive Method where
  | createTable
  | insert
  | update
  | delete
  | select
deriving DecidableEq, Repr

def Call.method : Call → Method
  | createTable .. => .createTable
  | insert .. => .insert
  | update .. => .update
  | delete .. => .delete
  | select .. => .select

def Call.table : Call → String
  | createTable table _ | insert table _ | update table _ _ | delete table _ | select table _ => table

namespace Store

def perform (store : Store σ) : Call → Action σ Fault Answer
  | .createTable table layout => do store.createTable table layout; return .nothing
  | .insert table row => do store.insert table row; return .nothing
  | .update table assignment filter => return .count (← store.update table assignment filter)
  | .delete table filter => return .count (← store.delete table filter)
  | .select table filter => return .rows (← store.select table filter)

def history (store : Store σ) : List Call → σ → List (Outcome Fault Answer) × σ
  | [], s => ([], s)
  | call :: rest, s =>
      let step := store.perform call s
      let later := store.history rest step.2
      (step.1 :: later.1, later.2)

def reached (store : Store σ) (calls : List Call) (s : σ) : σ := (store.history calls s).2

theorem reached_snoc (store : Store σ) (calls : List Call) (call : Call) (s : σ) :
    store.reached (calls ++ [call]) s = (store.perform call (store.reached calls s)).2 := by
  induction calls generalizing s with
  | nil => rfl
  | cons first rest ih => exact ih _

def noted (store : Store σ) (note : σ → Call → List β) : List Call → σ → List β
  | [], _ => []
  | call :: rest, s => note s call ++ store.noted note rest (store.perform call s).2

theorem noted_snoc (store : Store σ) (note : σ → Call → List β) (calls : List Call) (call : Call) (s : σ) :
    store.noted note (calls ++ [call]) s = store.noted note calls s ++ note (store.reached calls s) call := by
  induction calls generalizing s with
  | nil => exact List.append_nil _
  | cons first rest ih =>
      simp only [List.cons_append, noted, ih, List.append_assoc]
      rfl

def within (part : τ → σ) (place : σ → τ → τ) (store : Store σ) : Store τ where
  createTable table layout := (store.createTable table layout).within part place
  insert table row := (store.insert table row).within part place
  update table assignment filter := (store.update table assignment filter).within part place
  delete table filter := (store.delete table filter).within part place
  select table filter := (store.select table filter).within part place

-- A store that does not get its calls through: each ends as the world says for
-- its method and table, and reaches the store only when the world is silent.
def interrupted (fate : σ → Method → String → Option (Outcome Fault Empty)) (store : Store σ) :
    Store σ where
  createTable table layout := guarded .createTable table (store.createTable table layout)
  insert table row := guarded .insert table (store.insert table row)
  update table assignment filter := guarded .update table (store.update table assignment filter)
  delete table filter := guarded .delete table (store.delete table filter)
  select table filter := guarded .select table (store.select table filter)
where
  guarded {α : Type} (method : Method) (table : String) (action : Action σ Fault α) :
      Action σ Fault α := fun s =>
    match fate s method table with
    | none => action s
    | some (.failed fault) => (.failed fault, s)
    | some .aborted => (.aborted, s)

end Store
end FeatureGate.Table
