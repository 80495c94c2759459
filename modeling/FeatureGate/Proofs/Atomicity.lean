import FeatureGate.Proofs.Escalation
import FeatureGate.Proofs.Stillness

namespace FeatureGate
open Table Registry FeatureGate.Action

namespace Action

def Atomic (action : Action σ ε α) : Prop := ∀ s, (∃ answer, (action s).1 = .done answer) ∨ (action s).2 = s

end Action

namespace Table

structure Store.Atomic (store : Store σ) : Prop where
  insert : ∀ table row, Action.Atomic (store.insert table row)
  update : ∀ table assignment filter, Action.Atomic (store.update table assignment filter)
  delete : ∀ table filter, Action.Atomic (store.delete table filter)
  select : ∀ table filter, Quiet (store.select table filter)

theorem Shelf.store_atomic : Shelf.store.Atomic :=
  ⟨fun _ _ => onSheet_spares id _ _ _, fun _ _ _ => onSheet_spares id _ _ _, fun _ _ => onSheet_spares id _ _ _,
    Shelf.select_quiet⟩

end Table

namespace Registry
variable {store : Store σ} (atomic : store.Atomic)
include atomic

theorem defaults?_quiet (plugin feature : String) : Quiet (defaults? store plugin feature) :=
  (defaults?_observes (Store.planned_lossy (fun _ => none) atomic.select) plugin feature).quiet

theorem apply_atomic (mutation : Mutation) : Action.Atomic (mutation.apply store) := by
  have reads (table : String) (filter : Row) : Still id (store.select table filter) := atomic.select table filter
  exact apply_spares reads atomic.insert atomic.update atomic.delete mutation

end Registry

def Service.holding (store : Store σ) (lock : Option Bool) : Service σ :=
  ⟨lock.map fun poisoned => { store, poisoned }⟩

-- What comes to an answer does to the tables what it would do on the ideal store,
-- answer included. What does not leaves them as they were.
structure Settles (store : Store τ) (ideal : Store σ) (view : τ → σ) (action : Action (Running τ) ε α)
    (meant : Action (Running σ) ε α) : Prop where
  done : ∀ lock world answer after, action ⟨.holding store lock, world⟩ = (.done answer, after) →
    after.service = .holding store lock ∧
      meant ⟨.holding ideal lock, view world⟩ = (.done answer, ⟨.holding ideal lock, view after.world⟩)
  undone : ∀ lock world, (∀ answer, (action ⟨.holding store lock, world⟩).1 ≠ .done answer) →
    view (action ⟨.holding store lock, world⟩).2.world = view world

section Settles
variable {store : Store τ} {ideal : Store σ} {view : τ → σ}

theorem Settles.fail (error : ε) :
    Settles (α := α) store ideal view (Action.fail error) (Action.fail error) := by
  refine ⟨?_, fun _ _ _ => rfl⟩
  intro lock world answer after ended
  cases ended

theorem Settles.choose {c : Prop} [Decidable c] {yes no : Action (Running τ) ε α}
    {yes' no' : Action (Running σ) ε α} (one : Settles store ideal view yes yes')
    (other : Settles store ideal view no no') :
    Settles store ideal view (if c then yes else no) (if c then yes' else no') := by
  by_cases holds : c <;> simpa [holds]

theorem Settles.answer {action : Action (Running τ) ε α} {meant : Action (Running σ) ε α}
    (settles : Settles store ideal view action meant) (f : α → β) :
    Settles store ideal view (action >>= fun answer => Pure.pure (f answer))
      (meant >>= fun answer => Pure.pure (f answer)) := by
  refine ⟨?_, ?_⟩
  · intro lock world answer after ended
    obtain ⟨between, middle, first, last⟩ := bind_parts ended
    cases last
    obtain ⟨kept, same⟩ := settles.done lock world between after first
    exact ⟨kept, bind_done same⟩
  · intro lock world lost
    rw [answer_after]
    refine settles.undone lock world fun answer done => lost (f answer) ?_
    rw [answer_apply, done]
    rfl

-- Only what changes nothing may come before something else.
theorem Settles.bind {first : Action (Running τ) ε α} {first' : Action (Running σ) ε α}
    {next : α → Action (Running τ) ε β} {next' : α → Action (Running σ) ε β}
    (looks : Settles store ideal view first first')
    (still : ∀ lock world, view (first ⟨.holding store lock, world⟩).2.world = view world)
    (rest : ∀ answer, Settles store ideal view (next answer) (next' answer)) :
    Settles store ideal view (first >>= next) (first' >>= next') := by
  refine ⟨?_, ?_⟩
  · intro lock world answer after ended
    obtain ⟨between, ⟨service, middle⟩, one, two⟩ := bind_parts ended
    obtain ⟨kept, same⟩ := looks.done lock world between _ one
    change service = .holding store lock at kept
    subst kept
    obtain ⟨keptAfter, sameAfter⟩ := (rest between).done lock middle answer after two
    exact ⟨keptAfter, (bind_done same).trans sameAfter⟩
  · intro lock world lost
    have seen := still lock world
    rw [bind_apply] at lost ⊢
    cases ended : first ⟨.holding store lock, world⟩ with
    | mk outcome middle =>
        rw [ended] at lost seen
        cases outcome with
        | failed error => exact seen
        | aborted => exact seen
        | done between =>
            obtain ⟨kept, _⟩ := looks.done lock world between middle ended
            obtain ⟨service, middle⟩ := middle
            change service = .holding store lock at kept
            subst kept
            exact ((rest between).undone lock middle lost).trans seen

variable {clear : τ → Prop} (lossy : store.Lossy clear view ideal)
include lossy

theorem decide_still (actor : Actor) (plugin feature : String) (lock : Option Bool) (world : τ) :
    view (Service.decide actor plugin feature ⟨.holding store lock, world⟩).2.world = view world := by
  cases lock with
  | none => rfl
  | some poisoned => exact (Resolution.decide_observes lossy actor plugin feature).still world

theorem decide_settles (actor : Actor) (plugin feature : String) :
    Settles store ideal view (Service.decide actor plugin feature) (Service.decide actor plugin feature) := by
  refine ⟨?_, fun lock world _ => decide_still lossy actor plugin feature lock world⟩
  intro lock world allowed after ended
  cases lock with
  | none => cases ended
  | some poisoned =>
      have read : Service.decide actor plugin feature ⟨.holding store (some poisoned), world⟩ = _ :=
        Service.reading_some rfl _
      have meant : Service.decide actor plugin feature ⟨.holding ideal (some poisoned), view world⟩ = _ :=
        Service.reading_some rfl _
      rw [ended] at read
      obtain ⟨answered, rfl⟩ := Prod.mk.inj read
      refine ⟨rfl, meant.trans ?_⟩
      rcases (Resolution.decide_observes lossy actor plugin feature).follows world with ⟨same, seen, _⟩ | ⟨lost, _⟩
      · exact Prod.ext (same.symm.trans answered.symm) (congrArg (Running.mk _) seen.symm)
      · rw [← answered] at lost
        exact lost.elim

omit lossy in
theorem locked_settles {body : Store τ → Action τ Error Unit} {body' : Store σ → Action σ Error Unit}
    (follows : Follows blamed clear view (body store) (body' ideal)) (atomic : Action.Atomic (body' ideal)) :
    Settles store ideal view (Service.locked body) (Service.locked body') := by
  refine ⟨?_, ?_⟩
  · intro lock world answer after ended
    match lock with
    | none => cases ended
    | some true => cases ended
    | some false =>
        rw [Service.locked_open rfl rfl] at ended ⊢
        have step := follows world
        cases applied : body store world with
        | mk outcome last =>
            simp only [applied] at ended step
            cases outcome with
            | failed error => cases ended
            | aborted => cases ended
            | done reached =>
                cases ended
                rcases step with ⟨same, seen, _⟩ | ⟨lost, _⟩
                · have meant : body' ideal (view world) = (.done answer, view last) := Prod.ext same.symm seen.symm
                  simp only [meant, and_true, Service.holding, Option.map_some]
                · exact lost.elim
  · intro lock world lost
    match lock with
    | none => rfl
    | some true => rfl
    | some false =>
        rw [Service.locked_open rfl rfl] at lost ⊢
        have step := follows world
        cases applied : body store world with
        | mk outcome last =>
            simp only [applied] at lost step
            -- Without an answer here there is none there, and so no change.
            have seen : view last = view world := by
              rcases step with ⟨same, seen, _⟩ | ⟨_, seen, _⟩
              · rcases atomic (view world) with ⟨reached, done⟩ | still
                · rw [done] at same
                  cases same
                  exact (lost reached rfl).elim
                · exact seen.trans still
              · exact seen
            cases outcome with
            | done reached => exact seen
            | failed error => exact seen
            | aborted => exact seen

theorem mutate_settles (atomic : ideal.Atomic) (mutation : Mutation) :
    Settles store ideal view (Service.mutate mutation) (Service.mutate mutation) := by
  have writes : Settles store ideal view (Service.locked mutation.apply) (Service.locked mutation.apply) :=
    locked_settles (apply_follows lossy mutation) (apply_atomic atomic mutation)
  -- Up to the lock the two look at the arguments only.
  refine ⟨?_, ?_⟩
  · intro lock world answer after ended
    cases lock with
    | none => cases ended
    | some poisoned =>
        cases right : mutation.invalid with
        | some invalid =>
            rw [Service.mutate_refused rfl right] at ended
            cases ended
        | none =>
            rw [Service.mutate_begun rfl right] at ended ⊢
            by_cases idle : mutation.isIdle = true
            · rw [if_pos idle] at ended ⊢
              cases ended
              exact ⟨rfl, rfl⟩
            · rw [if_neg idle] at ended ⊢
              exact writes.done (some poisoned) world answer after ended
  · intro lock world lost
    cases lock with
    | none => rfl
    | some poisoned =>
        cases right : mutation.invalid with
        | some invalid => rw [Service.mutate_refused rfl right]
        | none =>
            rw [Service.mutate_begun rfl right] at lost ⊢
            by_cases idle : mutation.isIdle = true
            · rw [if_pos idle]
              rfl
            · rw [if_neg idle] at lost ⊢
              exact writes.undone (some poisoned) world lost

theorem execute_settles (atomic : ideal.Atomic) (command : ChatCommand) (actor : Actor) :
    Settles store ideal view (command.execute actor) (command.execute actor) := by
  refine Settles.bind (decide_settles lossy actor _ _) (decide_still lossy actor _ _) fun allowed => ?_
  refine Settles.choose (Settles.fail _) ?_
  cases command.effect actor with
  | none => exact Settles.fail _
  | some effect => exact (mutate_settles lossy atomic effect.1).answer fun _ => effect.2

end Settles

section Generate
variable {E : Type} {running : Running σ}

theorem checker_some (holds : running.service.ledger = some ledger) (named : emptyKey plugin feature = none)
    (actorOf : E → Option Actor) :
    Service.checker actorOf plugin feature running =
      (.done (Rule.of fun event => Rule.allows ledger.store plugin feature (actorOf event)), running) := by
  refine (bind_done (Service.held_some holds)).trans ?_
  rw [named]
  rfl

def Generator.registration (maker : Generator σ E) (feature : String) : Mutation :=
  .updateFeature maker.plugin feature maker.defaults.asUpdate

theorem generate_answer (actorOf : E → Option Actor) (maker : Generator σ E) (feature : String) :
    (Service.generate actorOf maker feature >>= fun _ => Pure.pure ()) =
      Service.mutate (maker.registration feature) := by
  funext running
  cases holds : running.service.ledger with
  | none => exact (bind_failed (bind_failed (Service.mutate_none holds _))).trans (Service.mutate_none holds _).symm
  | some ledger =>
      cases right : emptyKey maker.plugin feature with
      | some invalid =>
          have refused : Service.mutate (maker.registration feature) running = _ := Service.mutate_refused holds right
          exact (bind_failed (bind_failed refused)).trans refused.symm
      | none =>
          have still := mutate_set (maker.registration feature) running
            (by simp [Running.Set, Service.isInitialized, holds])
          cases ended : Service.mutate (maker.registration feature) running with
          | mk outcome after =>
              rw [ended] at still
              cases outcome with
              | failed error => exact bind_failed (bind_failed ended)
              | aborted => exact bind_aborted (bind_aborted ended)
              | done answer =>
                  obtain ⟨kept, still⟩ := Option.isSome_iff_exists.mp still
                  exact bind_done ((bind_done ended).trans (bind_done (checker_some still right actorOf)))

end Generate

-- On any contents, with the lock whole or poisoned, and whichever calls fail or
-- die: a change is made as a whole, as it would be on a store without failures,
-- or not at all, and then there is no answer.
theorem changes_undivided {E F : Type} (plan : Nat → Option (Outcome Fault Empty)) :
    let store := Shelf.store.planned plan
    (∀ mutation, Settles store Shelf.store Prod.snd (Service.mutate mutation) (Service.mutate mutation)) ∧
      (∀ (command : ChatCommand) actor,
        Settles store Shelf.store Prod.snd (command.execute actor) (command.execute actor)) ∧
      ∀ (actorOf : E → Option Actor) (actorOf' : F → Option Actor) plugin defaults gate gate' feature,
        Settles store Shelf.store Prod.snd
          (Service.generate actorOf ⟨plugin, defaults, gate⟩ feature >>= fun _ => Pure.pure ())
          (Service.generate actorOf' ⟨plugin, defaults, gate'⟩ feature >>= fun _ => Pure.pure ()) := by
  intro store
  have lossy := Store.planned_lossy plan Shelf.select_quiet
  refine ⟨mutate_settles lossy Shelf.store_atomic, execute_settles lossy Shelf.store_atomic, ?_⟩
  intro actorOf actorOf' plugin defaults gate gate' feature
  rw [generate_answer, generate_answer]
  exact mutate_settles lossy Shelf.store_atomic _

example :
    let store := Shelf.store.planned fun number => if number = 1 then some .aborted else none
    Service.mutate (.setSuperuser "u") ⟨.holding store (some false), (0, ({} : Book).shelf)⟩ =
      (.aborted, ⟨.holding store (some true), (2, ({} : Book).shelf)⟩) := rfl

end FeatureGate
