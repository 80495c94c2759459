import FeatureGate.Proofs.Agreement
import FeatureGate.Proofs.Atomicity

namespace FeatureGate
open Table Registry FeatureGate.Action

namespace Table

structure Store.Alive (store : Store σ) : Prop where
  createTable : ∀ table layout s, (store.createTable table layout s).1 ≠ .aborted
  insert : ∀ table row s, (store.insert table row s).1 ≠ .aborted
  update : ∀ table assignment filter s, (store.update table assignment filter s).1 ≠ .aborted
  delete : ∀ table filter s, (store.delete table filter s).1 ≠ .aborted
  select : ∀ table filter s, (store.select table filter s).1 ≠ .aborted

theorem Shelf.onSheet_alive (table : String) (fault : Layout → Option Fault) (step : Sheet → α × Sheet)
    (shelf : Shelf) : (onSheet table fault step shelf).1 ≠ .aborted := by
  simp only [onSheet]
  split
  · simp
  · split <;> simp

theorem Shelf.store_alive : Shelf.store.Alive where
  createTable table layout shelf := by
    simp only [Shelf.store, Shelf.createTable]
    split
    · simp
    · split <;> simp
  insert _ _ := onSheet_alive _ _ _
  update _ _ _ := onSheet_alive _ _ _
  delete _ _ := onSheet_alive _ _ _
  select _ _ := onSheet_alive _ _ _

end Table

def Behind (clear : τ → Prop) (view : τ → σ) (s : σ) (t : τ) : Prop := view t = s ∧ clear t

section Line
variable {clear : τ → Prop} {view : τ → σ} {store : Store τ} {ideal : Store σ}

theorem Action.Follows.agrees {action : Action τ ε α} {meant : Action σ ε α}
    (follows : Follows blamed clear view action meant) (alive : ∀ s, (meant s).1 ≠ .aborted) :
    Agrees (Behind clear view) (fun _ => False) meant action := by
  refine ⟨?_, fun _ never => never⟩
  rintro s t ⟨rfl, free⟩
  rcases follows t with ⟨same, seen, goesOn⟩ | ⟨_, _, blocked⟩
  · exact .inr ⟨same.symm, alive _, seen, goesOn free⟩
  · exact (blocked free).elim

theorem Table.Store.Lossy.agrees (lossy : store.Lossy clear view ideal) (alive : ideal.Alive)
    (declared : String → Layout → Prop) : ideal.Agrees (Behind clear view) (fun _ => False) declared store where
  createTable _ _ _ := (lossy.createTable _ _).agrees (alive.createTable _ _)
  insert _ _ _ := (lossy.insert _ _).agrees (alive.insert _ _)
  update _ _ _ _ := (lossy.update _ _ _).agrees (alive.update _ _ _)
  delete _ _ := (lossy.delete _ _).agrees (alive.delete _ _)
  select _ _ := (lossy.select _ _).follows.agrees (alive.select _ _)

structure Coincides (store : Store τ) (ideal : Store σ) (view : τ → σ) (ended : Outcome ε α × Running τ)
    (meant : Outcome ε α × Running σ) : Prop where
  outcome : ended.1 = meant.1
  world : view ended.2.world = meant.2.world
  lock : ∃ lock, ended.2.service = .holding store lock ∧ meant.2.service = .holding ideal lock

theorem Running.Paired.of_lock {lock : Option Bool} (whole : lock ≠ some true) (free : clear t) :
    Running.Paired ideal store (Behind clear view) ⟨.holding ideal lock, view t⟩ ⟨.holding store lock, t⟩ :=
  match lock, whole with
  | none, _ => .fresh ⟨rfl, free⟩
  | some false, _ => .set ⟨rfl, free⟩
  | some true, whole => (whole rfl).elim

-- With the lock whole, a service on a clear line is as good as one on the ideal
-- store, and nobody dies.
theorem Action.Agrees.coincides {action : Action (Running τ) ε α} {meant : Action (Running σ) ε α} {lock : Option Bool}
    (agrees : Agrees (Running.Paired ideal store (Behind clear view)) (Running.Sound store fun _ => False) meant action)
    (whole : lock ≠ some true) (free : clear t) :
    Coincides store ideal view (action ⟨.holding store lock, t⟩) (meant ⟨.holding ideal lock, view t⟩) ∧
      (action ⟨.holding store lock, t⟩).2.service ≠ .holding store (some true) ∧
      clear (action ⟨.holding store lock, t⟩).2.world := by
  rcases agrees.alike _ _ (.of_lock whole free) with never | ⟨same, _, still⟩
  · exact never.2.elim
  · generalize action ⟨.holding store lock, t⟩ = ended at same still ⊢
    generalize meant ⟨.holding ideal lock, view t⟩ = expected at same still
    obtain ⟨outcome, after⟩ := ended
    obtain ⟨outcome', after'⟩ := expected
    cases still with
    | fresh worlds => exact ⟨⟨same.symm, worlds.1, none, rfl, rfl⟩, nofun, worlds.2⟩
    | set worlds => exact ⟨⟨same.symm, worlds.1, some false, rfl, rfl⟩, nofun, worlds.2⟩

end Line
end FeatureGate
