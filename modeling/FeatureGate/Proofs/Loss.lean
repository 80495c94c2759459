import FeatureGate.Chat.Execution
import FeatureGate.Table.Shelf

namespace FeatureGate
open Table Registry

def Outcome.Lost (blamed : ε → Prop) : Outcome ε α → Prop
  | .done _ => False
  | .failed error => blamed error
  | .aborted => True

def Outcome.map (f : α → β) : Outcome ε α → Outcome ε β
  | .done answer => .done (f answer)
  | .failed error => .failed error
  | .aborted => .aborted

theorem Outcome.Lost.map {outcome : Outcome ε α} (lost : outcome.Lost blamed) (f : α → β) :
    (outcome.map f).Lost blamed := by
  cases outcome with
  | done answer => exact lost.elim
  | failed error => exact lost
  | aborted => trivial

theorem Outcome.Lost.mapError {outcome : Outcome ε α} {f : ε → δ} {blamed' : δ → Prop} (lost : outcome.Lost blamed)
    (turned : ∀ error, blamed error → blamed' (f error)) : (outcome.mapError f).Lost blamed' := by
  cases outcome with
  | done answer => exact lost.elim
  | failed error => exact turned error lost
  | aborted => trivial

namespace Action

theorem answer_apply (action : Action σ ε α) (f : α → β) (s : σ) :
    (action >>= fun answer => Pure.pure (f answer)) s = ((action s).1.map f, (action s).2) := by
  rw [bind_apply]
  cases ended : action s with
  | mk outcome after => cases outcome <;> rfl

theorem answer_after (action : Action σ ε α) (f : α → β) (s : σ) :
    ((action >>= fun answer => Pure.pure (f answer)) s).2 = (action s).2 := congrArg Prod.snd (answer_apply action f s)

variable {view : τ → σ} {blamed : ε → Prop} {clear : τ → Prop}

def Quiet (action : Action σ ε α) : Prop := ∀ s, (action s).2 = s

-- The step does what the ideal one does with the part of the world that is seen,
-- or it comes to nothing and that part is as before. While the line is clear it
-- does not come to nothing, and the line stays clear.
def Follows (blamed : ε → Prop) (clear : τ → Prop) (view : τ → σ) (action : Action τ ε α)
    (ideal : Action σ ε α) : Prop :=
  ∀ t, ((action t).1 = (ideal (view t)).1 ∧ view (action t).2 = (ideal (view t)).2 ∧
      (clear t → clear (action t).2)) ∨
    (((action t).1).Lost blamed ∧ view (action t).2 = view t ∧ ¬clear t)

structure Observes (blamed : ε → Prop) (clear : τ → Prop) (view : τ → σ) (action : Action τ ε α)
    (ideal : Action σ ε α) : Prop where
  follows : Follows blamed clear view action ideal
  quiet : Quiet ideal

-- Looking may come in any number before the rest: a look that is lost stops the
-- whole while nothing is changed yet. Two writes in a row would not do.
theorem Follows.bind {first : Action τ ε α} {first' : Action σ ε α} {next : α → Action τ ε β}
    {next' : α → Action σ ε β} (looks : Observes blamed clear view first first')
    (rest : ∀ answer, Follows blamed clear view (next answer) (next' answer)) :
    Follows blamed clear view (first >>= next) (first' >>= next') := by
  intro t
  have still := looks.quiet (view t)
  have step := looks.follows t
  rw [bind_apply, bind_apply]
  cases ended : first t with
  | mk outcome t' =>
      cases meant : first' (view t) with
      | mk outcome' s' =>
          rw [meant] at still
          cases still
          rw [ended, meant] at step
          rcases step with ⟨same, seen, goesOn⟩ | ⟨lost, seen, blocked⟩
          · cases same
            cases outcome with
            | done answer =>
                -- The look left what is seen as it was, so the rest starts from there.
                have later := rest answer t'
                rw [show view t' = view t from seen] at later
                rcases later with ⟨same', seen', goesOn'⟩ | ⟨lost', seen', blocked'⟩
                · exact .inl ⟨same', seen', fun free => goesOn' (goesOn free)⟩
                · exact .inr ⟨lost', seen', fun free => blocked' (goesOn free)⟩
            | failed error => exact .inl ⟨rfl, seen, goesOn⟩
            | aborted => exact .inl ⟨rfl, seen, goesOn⟩
          · cases outcome with
            | done answer => exact lost.elim
            | failed error => exact .inr ⟨lost, seen, blocked⟩
            | aborted => exact .inr ⟨lost, seen, blocked⟩

theorem Follows.answer {action : Action τ ε α} {ideal : Action σ ε α} (follows : Follows blamed clear view action ideal)
    (f : α → β) : Follows blamed clear view (action >>= fun answer => Pure.pure (f answer))
      (ideal >>= fun answer => Pure.pure (f answer)) := by
  intro t
  rw [answer_apply, answer_apply]
  rcases follows t with ⟨same, seen, goesOn⟩ | ⟨lost, seen, blocked⟩
  · exact .inl ⟨congrArg (Outcome.map f) same, seen, goesOn⟩
  · exact .inr ⟨lost.map f, seen, blocked⟩

theorem Follows.mapError {action : Action τ ε α} {ideal : Action σ ε α} {f : ε → δ} {blamed' : δ → Prop}
    (follows : Follows blamed clear view action ideal) (turned : ∀ error, blamed error → blamed' (f error)) :
    Follows blamed' clear view (action.mapError f) (ideal.mapError f) := by
  intro t
  rcases follows t with ⟨same, seen, goesOn⟩ | ⟨lost, seen, blocked⟩
  · exact .inl ⟨congrArg (Outcome.mapError f) same, seen, goesOn⟩
  · exact .inr ⟨lost.mapError turned, seen, blocked⟩

theorem Observes.ofOutcome (outcome : Outcome ε α) :
    Observes blamed clear view (Action.ofOutcome outcome) (Action.ofOutcome outcome) :=
  ⟨fun _ => .inl ⟨rfl, rfl, id⟩, fun _ => rfl⟩

theorem Observes.pure (answer : α) : Observes blamed clear view (Pure.pure answer) (Pure.pure answer) :=
  Observes.ofOutcome (.done answer)

theorem Observes.refuse (objection : Option ε) :
    Observes blamed clear view (Action.refuse objection) (Action.refuse objection) := by
  cases objection with
  | none => exact Observes.ofOutcome (.done ())
  | some error => exact Observes.ofOutcome (.failed error)

theorem Observes.bind {first : Action τ ε α} {first' : Action σ ε α} {next : α → Action τ ε β}
    {next' : α → Action σ ε β} (looks : Observes blamed clear view first first')
    (rest : ∀ answer, Observes blamed clear view (next answer) (next' answer)) :
    Observes blamed clear view (first >>= next) (first' >>= next') := by
  refine ⟨Follows.bind looks fun answer => (rest answer).follows, ?_⟩
  intro s
  have still := looks.quiet s
  rw [bind_apply]
  cases ended : first' s with
  | mk outcome s' =>
      rw [ended] at still
      cases still
      cases outcome with
      | done answer => exact (rest answer).quiet _
      | failed error => rfl
      | aborted => rfl

theorem Observes.mapError {action : Action τ ε α} {ideal : Action σ ε α} {f : ε → δ} {blamed' : δ → Prop}
    (looks : Observes blamed clear view action ideal) (turned : ∀ error, blamed error → blamed' (f error)) :
    Observes blamed' clear view (action.mapError f) (ideal.mapError f) :=
  ⟨looks.follows.mapError turned, looks.quiet⟩

theorem Observes.choose {c : Prop} [Decidable c] {yes no : Action τ ε α} {yes' no' : Action σ ε α}
    (one : Observes blamed clear view yes yes') (other : Observes blamed clear view no no') :
    Observes blamed clear view (if c then yes else no) (if c then yes' else no') := by
  by_cases holds : c <;> simpa [holds]

theorem Observes.still {action : Action τ ε α} {ideal : Action σ ε α} (looks : Observes blamed clear view action ideal)
    (t : τ) : view (action t).2 = view t := by
  rcases looks.follows t with ⟨_, seen, _⟩ | ⟨_, seen, _⟩
  · exact seen.trans (looks.quiet (view t))
  · exact seen

end Action

open FeatureGate.Action

namespace Table

def anyFault (_ : Fault) : Prop := True

-- A store that stands for another one but may lose calls, any of them and for any
-- reason. A lost call has no effect on what is seen.
structure Store.Lossy (clear : τ → Prop) (view : τ → σ) (store : Store τ) (ideal : Store σ) : Prop where
  createTable : ∀ table layout,
    Follows anyFault clear view (store.createTable table layout) (ideal.createTable table layout)
  insert : ∀ table row, Follows anyFault clear view (store.insert table row) (ideal.insert table row)
  update : ∀ table assignment filter,
    Follows anyFault clear view (store.update table assignment filter) (ideal.update table assignment filter)
  delete : ∀ table filter, Follows anyFault clear view (store.delete table filter) (ideal.delete table filter)
  select : ∀ table filter, Observes anyFault clear view (store.select table filter) (ideal.select table filter)

namespace Store

def planned (plan : Nat → Option (Outcome Fault Empty)) (store : Store σ) : Store (Nat × σ) where
  createTable table layout := carried (store.createTable table layout)
  insert table row := carried (store.insert table row)
  update table assignment filter := carried (store.update table assignment filter)
  delete table filter := carried (store.delete table filter)
  select table filter := carried (store.select table filter)
where
  carried {α : Type} (call : Action σ Fault α) : Action (Nat × σ) Fault α := fun (number, s) =>
    match plan number with
    | none => ((call s).1, (number + 1, (call s).2))
    | some (.failed fault) => (.failed fault, (number + 1, s))
    | some .aborted => (.aborted, (number + 1, s))

def Silent (plan : Nat → Option (Outcome Fault Empty)) (point : Nat × σ) : Prop :=
  ∀ number, point.1 ≤ number → plan number = none

theorem carried_follows (plan : Nat → Option (Outcome Fault Empty)) (call : Action σ Fault α) :
    Follows anyFault (Silent plan) Prod.snd (planned.carried plan call) call := by
  intro t
  obtain ⟨number, s⟩ := t
  simp only [planned.carried]
  cases fate : plan number with
  | none => exact .inl ⟨rfl, rfl, fun silent later ahead => silent later (by simp only at ahead ⊢; omega)⟩
  | some ending =>
      have loud : ¬Silent plan (number, s) := fun silent => by
        have mute := silent number (Nat.le_refl _)
        rw [fate] at mute
        cases mute
      cases ending with
      | done answer => exact answer.elim
      | failed fault => exact .inr ⟨trivial, rfl, loud⟩
      | aborted => exact .inr ⟨trivial, rfl, loud⟩

theorem planned_lossy (plan : Nat → Option (Outcome Fault Empty)) {store : Store σ}
    (quiet : ∀ table filter, Quiet (store.select table filter)) :
    (store.planned plan).Lossy (Silent plan) Prod.snd store :=
  ⟨fun _ _ => carried_follows _ _, fun _ _ => carried_follows _ _, fun _ _ _ => carried_follows _ _,
    fun _ _ => carried_follows _ _, fun table filter => ⟨carried_follows _ _, quiet table filter⟩⟩

end Store

theorem Shelf.select_quiet (table : String) (filter : Row) : Quiet (Shelf.store.select table filter) := by
  intro shelf
  simp only [Shelf.store, Shelf.select, Shelf.onSheet]
  split
  · rfl
  · rename_i sheet held
    split
    · rfl
    · exact congrArg Shelf.mk (Assoc.put_held held)

end Table

def Error.FromStore : Error → Prop
  | .store _ => True
  | _ => False

section Registry
variable {clear : τ → Prop} {view : τ → σ} {store : Store τ} {ideal : Store σ} (lossy : store.Lossy clear view ideal)
include lossy

theorem rowsOf_observes (table : String) (key : Row) :
    Observes Error.FromStore clear view (rowsOf store table key) (rowsOf ideal table key) :=
  (lossy.select table key).mapError fun _ _ => trivial

theorem isSuperuser_observes (user : String) :
    Observes Error.FromStore clear view (isSuperuser store user) (isSuperuser ideal user) :=
  Observes.bind (rowsOf_observes lossy _ _) fun _ => Observes.pure _

theorem allSuperusers_observes :
    Observes Error.FromStore clear view (allSuperusers store) (allSuperusers ideal) :=
  Observes.bind (rowsOf_observes lossy _ _) fun _ => Observes.pure _

theorem defaults?_observes (plugin feature : String) :
    Observes Error.FromStore clear view (defaults? store plugin feature) (defaults? ideal plugin feature) :=
  Observes.bind (rowsOf_observes lossy _ _) fun _ => Observes.ofOutcome _

theorem state?_observes (table : String) (key : Row) :
    Observes Error.FromStore clear view (state? store table key) (state? ideal table key) :=
  Observes.bind (rowsOf_observes lossy _ _) fun _ => Observes.ofOutcome _

theorem allFeatures_observes : Observes Error.FromStore clear view (allFeatures store) (allFeatures ideal) :=
  Observes.bind (rowsOf_observes lossy _ _) fun _ => Observes.ofOutcome _

theorem writeUnder_follows (table : String) (key cells : Row) :
    Follows Error.FromStore clear view (writeUnder store table key cells) (writeUnder ideal table key cells) := by
  refine Follows.bind (rowsOf_observes lossy _ _) fun rows => ?_
  cases empty : rows.isEmpty with
  | true => exact (lossy.insert _ _).mapError fun _ _ => trivial
  | false => exact ((lossy.update _ _ _).mapError fun _ _ => trivial).answer _

theorem apply_follows (mutation : Mutation) :
    Follows Error.FromStore clear view (mutation.apply store) (mutation.apply ideal) := by
  cases mutation with
  | setSuperuser user =>
      refine Follows.bind (rowsOf_observes lossy _ _) fun rows => ?_
      cases empty : rows.isEmpty with
      | true => exact (lossy.insert _ _).mapError fun _ _ => trivial
      | false => exact (Observes.pure _).follows
  | removeSuperuser user =>
      refine Follows.bind (rowsOf_observes lossy _ _) fun rows => ?_
      cases empty : rows.isEmpty with
      | true => exact (Observes.pure _).follows
      | false => exact ((lossy.delete _ _).mapError fun _ _ => trivial).answer _
  | updateFeature plugin feature update =>
      exact Follows.bind (defaults?_observes lossy _ _) fun _ => writeUnder_follows lossy _ _ _
  | updateGroup plugin feature group state => exact writeUnder_follows lossy _ _ _
  | updateUser plugin feature user state => exact writeUnder_follows lossy _ _ _

end Registry

namespace Resolution
variable {clear : τ → Prop} {view : τ → σ} {store : Store τ} {ideal : Store σ} (lossy : store.Lossy clear view ideal)
include lossy

theorem groupGate_observes (plugin feature : String) (defaults : Defaults) (group : String) (role : Role) :
    Observes Error.FromStore clear view (groupGate store plugin feature defaults group role)
      (groupGate ideal plugin feature defaults group role) :=
  Observes.choose (Observes.pure _)
    (Observes.bind (state?_observes lossy _ _) fun _ => Observes.pure _)

theorem groupDecision_observes (plugin feature : String) (defaults : Defaults) (user group : String)
    (role : Role) :
    Observes Error.FromStore clear view (groupDecision store plugin feature defaults user group role)
      (groupDecision ideal plugin feature defaults user group role) :=
  Observes.choose (Observes.pure _) (Observes.bind (groupGate_observes lossy _ _ _ _ _) fun _ =>
    Observes.bind (state?_observes lossy _ _) fun _ => Observes.pure _)

theorem privateDecision_observes (plugin feature : String) (defaults : Defaults) (user : String) :
    Observes Error.FromStore clear view (privateDecision store plugin feature defaults user)
      (privateDecision ideal plugin feature defaults user) :=
  Observes.choose (Observes.pure _)
    (Observes.bind (state?_observes lossy _ _) fun _ => Observes.pure _)

theorem decide_observes (actor : Actor) (plugin feature : String) :
    Observes Error.FromStore clear view (decide store actor plugin feature) (decide ideal actor plugin feature) := by
  refine Observes.bind (Observes.refuse _) fun _ => ?_
  refine Observes.bind (isSuperuser_observes lossy _) fun standing => ?_
  refine Observes.choose (Observes.pure _) ?_
  refine Observes.bind (defaults?_observes lossy _ _) fun registered => ?_
  cases registered with
  | none => exact Observes.pure _
  | some defaults => cases actor with
      | group user group role => exact groupDecision_observes lossy _ _ _ _ _ _
      | alone user => exact privateDecision_observes lossy _ _ _ _

theorem isAdmin_observes (actor : Actor) :
    Observes Error.FromStore clear view (isAdmin store actor) (isAdmin ideal actor) := by
  cases actor with
  | group user group role => exact Observes.choose (Observes.pure _) (isSuperuser_observes lossy _)
  | alone user => exact isSuperuser_observes lossy _

end Resolution
end FeatureGate
