import FeatureGate.Proofs.Loss
import FeatureGate.Request
import Mathlib.Logic.Function.Basic

namespace FeatureGate
open Table Registry FeatureGate.Action

-- Any number of services over one world, under numbers. One that has not been used
-- yet is fresh, so a restart is going on with another number. What an earlier one
-- handed out still works with that one.
structure Fleet (σ : Type) where
  services : Nat → Service σ
  world : σ

namespace Fleet

def start (world : σ) : Fleet σ := ⟨fun _ => {}, world⟩

def running (fleet : Fleet σ) (number : Nat) : Running σ := ⟨fleet.services number, fleet.world⟩

def serve (number : Nat) (action : Action (Running σ) ε α) : Action (Fleet σ) ε α :=
  action.within (·.running number) fun running fleet =>
    ⟨Function.update fleet.services number running.service, running.world⟩

end Fleet

inductive Errand (σ E : Type) where
  | request (asked : Request)
  | checker (plugin feature : String)
  | generator (plugin : String) (defaults : Defaults) (gate : Rule σ E)
  | generate (maker : Generator σ E) (feature : String)

namespace Errand
variable {σ E : Type}

def perform (store : Store σ) (actorOf : E → Option Actor) : Errand σ E → Action (Running σ) Error Unit
  | request asked => do let _ ← asked.handle store; return ()
  | checker plugin feature => do let _ ← Service.checker actorOf plugin feature; return ()
  | generator plugin defaults gate => do let _ ← Service.generator plugin defaults gate; return ()
  | generate maker feature => do let _ ← Service.generate actorOf maker feature; return ()

end Errand

namespace Fleet
variable {σ E : Type}

def step (store : Store σ) (actorOf : E → Option Actor) (number : Nat) (errand : Errand σ E) :
    Action (Fleet σ) Error Unit := serve number (errand.perform store actorOf)

def after (store : Store σ) (actorOf : E → Option Actor) : List (Nat × Errand σ E) → Fleet σ → Fleet σ
  | [], fleet => fleet
  | (number, errand) :: rest, fleet => after store actorOf rest (step store actorOf number errand fleet).2

end Fleet

namespace Action
variable {good : σ → Prop}

def Keeps (good : σ → Prop) (action : Action σ ε α) : Prop := ∀ s, good s → good (action s).2

theorem Keeps.pure (answer : α) : Keeps good (Pure.pure answer : Action σ ε α) := fun _ held => held

theorem Keeps.fail (error : ε) : Keeps good (Action.fail error : Action σ ε α) := fun _ held => held

theorem Keeps.behind {objection : Option ε} {next : Action σ ε α} (keeps : objection = none → Keeps good next) :
    Keeps good (Action.refuse objection >>= fun _ => next) := by
  cases objection with
  | none => exact keeps rfl
  | some error => exact fun _ held => held

theorem Keeps.bind {first : Action σ ε α} {next : α → Action σ ε β} (keeps : Keeps good first)
    (rest : ∀ answer, Keeps good (next answer)) : Keeps good (first >>= next) := by
  intro s held
  have still := keeps s held
  rw [bind_apply]
  cases ended : first s with
  | mk outcome s' =>
      rw [ended] at still
      cases outcome with
      | done answer => exact rest answer s' still
      | failed error => exact still
      | aborted => exact still

theorem bind_parts {first : Action σ ε α} {next : α → Action σ ε β}
    (done : (first >>= next) s = (.done answer, last)) :
    ∃ between middle, first s = (.done between, middle) ∧ next between middle = (.done answer, last) := by
  rw [bind_apply] at done
  cases ended : first s with
  | mk outcome middle =>
      rw [ended] at done
      cases outcome with
      | done between => exact ⟨between, middle, rfl, done⟩
      | failed error => cases done
      | aborted => cases done

theorem mapError_parts {action : Action σ ε α} {f : ε → δ} (done : action.mapError f s = (.done answer, last)) :
    action s = (.done answer, last) := by
  unfold mapError at done
  cases ended : action s with
  | mk outcome after =>
      rw [ended] at done
      cases outcome with
      | done reached => cases done; rfl
      | failed error => cases done
      | aborted => cases done

theorem Keeps.choose {c : Prop} [Decidable c] {yes no : Action σ ε α} (one : Keeps good yes)
    (other : Keeps good no) : Keeps good (if c then yes else no) := by
  by_cases holds : c <;> simpa [holds]

theorem Keeps.each {f : α → Action σ ε PUnit} {xs : List α} (every : ∀ x ∈ xs, Keeps good (f x)) :
    Keeps good (xs.forM f) := by
  induction xs with
  | nil => exact Keeps.pure _
  | cons x rest ih =>
      exact Keeps.bind (every x List.mem_cons_self) fun _ =>
        ih fun other member => every other (List.mem_cons_of_mem _ member)

end Action

namespace Service
variable {running : Running σ} {ledger : Ledger σ}

theorem held_some (holds : running.service.ledger = some ledger) : held running = (.done ledger, running) := by
  simp [held, holds]

theorem held_none (holds : running.service.ledger = none) :
    held running = (.failed .uninitialized, running) := by
  simp [held, holds]

theorem reading_some (holds : running.service.ledger = some ledger) (read : Store σ → Action σ Error α) :
    reading read running =
      ((read ledger.store running.world).1, { running with world := (read ledger.store running.world).2 }) :=
  bind_done (held_some holds)

theorem reading_none (holds : running.service.ledger = none) (read : Store σ → Action σ Error α) :
    reading read running = (.failed .uninitialized, running) := bind_failed (held_none holds)

theorem locked_open (holds : running.service.ledger = some ledger) (whole : ledger.poisoned = false)
    (body : Store σ → Action σ Error Unit) :
    locked body running =
      match body ledger.store running.world with
      | (.aborted, world) => (.aborted, ⟨⟨some { ledger with poisoned := true }⟩, world⟩)
      | (outcome, world) => (outcome, { running with world }) := by
  unfold locked
  rw [bind_done (held_some holds), whole]
  rfl

theorem locked_broken (holds : running.service.ledger = some ledger) (broken : ledger.poisoned = true)
    (body : Store σ → Action σ Error Unit) : locked body running = (.failed (.store .poisoned), running) := by
  unfold locked
  rw [bind_done (held_some holds), broken]
  rfl

theorem locked_none (holds : running.service.ledger = none) (body : Store σ → Action σ Error Unit) :
    locked body running = (.failed .uninitialized, running) := bind_failed (held_none holds)

theorem init_some (holds : running.service.ledger = some ledger) (store : Store σ) (superuser : Option String) :
    init store superuser running = (.failed .alreadyInitialized, running) := by
  simp [init, holds]

theorem init_none (holds : running.service.ledger = none) {store : Store σ} {superuser : Option String}
    (ended : setUp store superuser running.world = (outcome, world)) :
    init store superuser running = (outcome, match outcome with
      | .done _ => ⟨⟨some { store }⟩, world⟩
      | _ => { running with world }) := by
  unfold init
  rw [holds]
  simp only [ended]
  cases outcome <;> rfl

theorem mutate_none (holds : running.service.ledger = none) (mutation : Mutation) :
    mutate mutation running = (.failed .uninitialized, running) := bind_failed (held_none holds)

theorem mutate_refused {mutation : Mutation} (holds : running.service.ledger = some ledger)
    (wrong : mutation.invalid = some invalid) :
    mutate mutation running = (.failed (.validation invalid), running) := by
  refine (bind_done (held_some holds)).trans (bind_failed ?_)
  rw [wrong]
  rfl

theorem mutate_begun {mutation : Mutation} (holds : running.service.ledger = some ledger)
    (right : mutation.invalid = none) :
    mutate mutation running = (if mutation.isIdle then Pure.pure () else locked mutation.apply) running := by
  refine (bind_done (held_some holds)).trans ?_
  rw [right]
  rfl

theorem mutate_ways (mutation : Mutation) (running : Running σ) :
    (∃ error, mutate mutation running = (.failed error, running)) ∨
      (mutation.isIdle = true ∧ mutate mutation running = (.done (), running)) ∨
      ∃ ledger, running.service.ledger = some ledger ∧ mutate mutation running =
        match mutation.apply ledger.store running.world with
        | (.aborted, world) => (.aborted, ⟨⟨some { ledger with poisoned := true }⟩, world⟩)
        | (outcome, world) => (outcome, { running with world }) := by
  cases holds : running.service.ledger with
  | none => exact .inl ⟨_, mutate_none holds mutation⟩
  | some ledger =>
      cases right : mutation.invalid with
      | some invalid => exact .inl ⟨_, mutate_refused holds right⟩
      | none =>
          rw [mutate_begun holds right]
          by_cases idle : mutation.isIdle = true
          · rw [if_pos idle]
            exact .inr (.inl ⟨idle, rfl⟩)
          · rw [if_neg idle]
            cases whole : ledger.poisoned with
            | true => exact .inl ⟨_, locked_broken holds whole mutation.apply⟩
            | false => exact .inr (.inr ⟨ledger, rfl, locked_open holds whole mutation.apply⟩)

end Service

theorem Errand.perform_none {E : Type} {running : Running σ} (holds : running.service.ledger = none)
    (store : Store σ) (actorOf : E → Option Actor) (errand : Errand σ E) :
    errand.perform store actorOf running = (.failed .uninitialized, running) ∨
      (errand = .request .isInitialized ∧ errand.perform store actorOf running = (.done (), running)) ∨
      ∃ superuser, errand = .request (.init superuser) := by
  cases errand with
  | request asked =>
      cases asked with
      | init superuser => exact .inr (.inr ⟨superuser, rfl⟩)
      | isInitialized => exact .inr (.inl ⟨rfl, rfl⟩)
      | createTables => exact .inl (bind_failed (bind_failed (Service.reading_none holds _)))
      | mutate mutation => exact .inl (bind_failed (bind_failed (Service.mutate_none holds _)))
      | isSuperuser user => exact .inl (bind_failed (bind_failed (Service.reading_none holds _)))
      | superusers => exact .inl (bind_failed (bind_failed (Service.reading_none holds _)))
      | defaults plugin feature => exact .inl (bind_failed (bind_failed (Service.reading_none holds _)))
      | groupOverride plugin feature group =>
          exact .inl (bind_failed (bind_failed (Service.reading_none holds _)))
      | userOverride plugin feature user =>
          exact .inl (bind_failed (bind_failed (Service.reading_none holds _)))
      | features => exact .inl (bind_failed (bind_failed (Service.reading_none holds _)))
      | decide actor plugin feature => exact .inl (bind_failed (bind_failed (Service.reading_none holds _)))
      | isAdmin actor => exact .inl (bind_failed (bind_failed (Service.reading_none holds _)))
      | registerManagement =>
          exact .inl (bind_failed (bind_failed (bind_failed (Service.mutate_none holds _))))
      | command asked actor =>
          exact .inl (bind_failed (bind_failed (bind_failed (Service.reading_none holds _))))
  | checker plugin feature => exact .inl (bind_failed (bind_failed (Service.held_none holds)))
  | generator plugin defaults gate => exact .inl (bind_failed (bind_failed (Service.held_none holds)))
  | generate maker feature => exact .inl (bind_failed (bind_failed (Service.mutate_none holds _)))

theorem Fleet.serve_still {fleet : Fleet σ} {action : Action (Running σ) ε α} (number : Nat)
    (still : action (fleet.running number) = (outcome, fleet.running number)) :
    Fleet.serve number action fleet = (outcome, fleet) := by
  simp only [Fleet.serve, Action.within, still]
  simp [Fleet.running]

theorem Fleet.serve_each {fleet : Fleet σ} {action : Action (Running σ) ε α} {number : Nat} {P : Service σ → Prop}
    (each : ∀ other, P (fleet.services other)) (served : P (action (fleet.running number)).2.service) (other : Nat) :
    P ((Fleet.serve number action fleet).2.services other) := by
  simp only [Fleet.serve, Action.within]
  by_cases same : other = number
  · subst same
    rw [Function.update_self]
    exact served
  · rw [Function.update_of_ne same]
    exact each other

-- What is true of a world and stays true under everything that the registry does to
-- it. Only mutations with sensible arguments get that far.
structure Stable (store : Store σ) (good : σ → Prop) : Prop where
  creates : ∀ declared ∈ tables, Keeps good (store.createTable declared.1 declared.2)
  mutates : ∀ mutation : Mutation, mutation.invalid = none → mutation.isIdle = false →
    Keeps good (mutation.apply store)

def Running.Sound (store : Store τ) (good : τ → Prop) (running : Running τ) : Prop :=
  (∀ ledger, running.service.ledger = some ledger → ledger.store = store) ∧ good running.world

def Fleet.Sound (store : Store τ) (good : τ → Prop) (fleet : Fleet τ) : Prop :=
  (∀ number ledger, (fleet.services number).ledger = some ledger → ledger.store = store) ∧ good fleet.world

section Keeping
variable {store : Store τ} {ideal : Store σ} {clear : τ → Prop} {view : τ → σ} {good : σ → Prop} {E : Type}

theorem Action.Follows.keeps {action : Action τ ε α} {ideal : Action σ ε α} (follows : Follows blamed clear view action ideal)
    (keeps : Keeps good ideal) : Keeps (good ∘ view) action := by
  intro t held
  rcases follows t with ⟨_, seen, _⟩ | ⟨_, seen, _⟩
  · show good (view (action t).2)
    rw [seen]; exact keeps (view t) held
  · show good (view (action t).2)
    rw [seen]; exact held

theorem Action.Observes.keeps {action : Action τ ε α} {ideal : Action σ ε α}
    (looks : Observes blamed clear view action ideal) : Keeps (good ∘ view) action := by
  intro t held
  show good (view (action t).2)
  rw [looks.still t]; exact held

theorem reading_keeps {good : τ → Prop} {read : Store τ → Action τ Error α} (keeps : Keeps good (read store)) :
    Keeps (Running.Sound store good) (Service.reading read) := by
  intro running sound
  cases holds : running.service.ledger with
  | none => rw [Service.reading_none holds]; exact sound
  | some ledger =>
      rw [Service.reading_some holds, sound.1 ledger holds]
      exact ⟨sound.1, keeps running.world sound.2⟩

theorem locked_keeps {good : τ → Prop} {body : Store τ → Action τ Error Unit} (keeps : Keeps good (body store)) :
    Keeps (Running.Sound store good) (Service.locked body) := by
  intro running sound
  cases holds : running.service.ledger with
  | none => rw [Service.locked_none holds]; exact sound
  | some ledger =>
      have same := sound.1 ledger holds
      have still := keeps running.world sound.2
      cases whole : ledger.poisoned with
      | true => rw [Service.locked_broken holds whole]; exact sound
      | false =>
          rw [Service.locked_open holds whole, same]
          cases ended : body store running.world with
          | mk outcome world =>
              rw [ended] at still
              cases outcome with
              | done answer => exact ⟨sound.1, still⟩
              | failed error => exact ⟨sound.1, still⟩
              | aborted =>
                  refine ⟨?_, still⟩
                  intro other broken
                  cases Option.some.inj broken
                  rfl

theorem init_through {good : τ → Prop} {superuser : Option String} (keeps : Keeps good (Service.setUp store superuser)) :
    Keeps (Running.Sound store good) (Service.init store superuser) := by
  intro running sound
  have still := keeps running.world sound.2
  cases holds : running.service.ledger with
  | some ledger => rw [Service.init_some holds]; exact sound
  | none =>
      cases ended : Service.setUp store superuser running.world with
      | mk outcome world =>
          rw [ended] at still
          rw [Service.init_none holds ended]
          cases outcome with
          | done answer =>
              refine ⟨?_, still⟩
              intro ledger is
              cases Option.some.inj is
              rfl
          | failed error => exact ⟨sound.1, still⟩
          | aborted => exact ⟨sound.1, still⟩

theorem held_keeps {good : Running τ → Prop} : Keeps good Service.held := by
  intro running sound
  cases holds : running.service.ledger with
  | none => rw [Service.held_none holds]; exact sound
  | some ledger => rw [Service.held_some holds]; exact sound

theorem checker_keeps {good : Running τ → Prop} (actorOf : E → Option Actor) (plugin feature : String) :
    Keeps good (Service.checker actorOf plugin feature) :=
  Keeps.bind held_keeps fun _ => Keeps.behind fun _ => Keeps.pure _

theorem generator_keeps {good : Running τ → Prop} (plugin : String) (defaults : Defaults) (gate : Rule τ E) :
    Keeps good (Service.generator plugin defaults gate) :=
  Keeps.bind held_keeps fun _ => Keeps.behind fun _ => Keeps.pure _

theorem mutate_through {good : Running τ → Prop} {mutation : Mutation}
    (writes : mutation.invalid = none → mutation.isIdle = false → Keeps good (Service.locked mutation.apply)) :
    Keeps good (Service.mutate mutation) := by
  refine Keeps.bind held_keeps fun _ => Keeps.behind fun right => ?_
  by_cases idle : mutation.isIdle = true
  · rw [if_pos idle]
    exact Keeps.pure _
  · rw [if_neg idle]
    exact writes (Option.map_eq_none_iff.mp right) (by simpa using idle)

theorem execute_through {good : Running τ → Prop} {command : ChatCommand} {actor : Actor}
    (decides : Keeps good (Service.decide actor ChatCommand.plugin command.kind))
    (mutates : ∀ mutation, Keeps good (Service.mutate mutation)) : Keeps good (command.execute actor) := by
  refine Keeps.bind decides fun allowed => Keeps.choose (Keeps.fail _) ?_
  cases command.effect actor with
  | none => exact Keeps.fail _
  | some effect => exact Keeps.bind (mutates effect.1) fun _ => Keeps.pure _

variable (lossy : store.Lossy clear view ideal) (stable : Stable ideal good)
include lossy stable

theorem createTables_keeps : Keeps (good ∘ view) (createTables store) := by
  refine Keeps.each fun declared member => ?_
  exact ((lossy.createTable _ _).keeps (stable.creates declared member))

theorem apply_keeps (mutation : Mutation) (right : mutation.invalid = none) (busy : mutation.isIdle = false) :
    Keeps (good ∘ view) (mutation.apply store) :=
  (apply_follows lossy mutation).keeps (stable.mutates mutation right busy)

theorem setUp_keeps (superuser : Option String) : Keeps (good ∘ view) (Service.setUp store superuser) := by
  refine Keeps.bind (createTables_keeps lossy stable) fun _ => ?_
  cases superuser with
  | none => exact Keeps.pure _
  | some user =>
      refine Keeps.behind fun right => ?_
      exact apply_keeps lossy stable _ (Option.map_eq_none_iff.mp right) rfl

theorem init_keeps (superuser : Option String) :
    Keeps (Running.Sound store (good ∘ view)) (Service.init store superuser) :=
  init_through (setUp_keeps lossy stable superuser)

theorem mutate_keeps (mutation : Mutation) :
    Keeps (Running.Sound store (good ∘ view)) (Service.mutate mutation) :=
  mutate_through fun right busy => locked_keeps (apply_keeps lossy stable mutation right busy)

omit stable in
theorem decide_keeps (actor : Actor) (plugin feature : String) :
    Keeps (Running.Sound store (good ∘ view)) (Service.decide actor plugin feature) :=
  reading_keeps (Resolution.decide_observes lossy actor plugin feature).keeps

theorem generate_keeps (actorOf : E → Option Actor) (maker : Generator τ E) (feature : String) :
    Keeps (Running.Sound store (good ∘ view)) (Service.generate actorOf maker feature) :=
  Keeps.bind (mutate_keeps lossy stable _) fun _ => Keeps.bind (checker_keeps _ _ _) fun _ => Keeps.pure _

theorem registerManagement_keeps :
    Keeps (Running.Sound store (good ∘ view)) ChatCommand.registerManagement :=
  Keeps.bind (mutate_keeps lossy stable _) fun _ => mutate_keeps lossy stable _

theorem execute_keeps (command : ChatCommand) (actor : Actor) :
    Keeps (Running.Sound store (good ∘ view)) (command.execute actor) :=
  execute_through (decide_keeps lossy actor _ _) (mutate_keeps lossy stable)

theorem handle_keeps (asked : Request) :
    Keeps (Running.Sound store (good ∘ view)) (asked.handle store) := by
  cases asked with
  | init superuser => exact Keeps.bind (init_keeps lossy stable superuser) fun _ => Keeps.pure _
  | isInitialized => exact fun _ sound => sound
  | createTables =>
      exact Keeps.bind (reading_keeps (createTables_keeps lossy stable)) fun _ => Keeps.pure _
  | mutate mutation => exact Keeps.bind (mutate_keeps lossy stable mutation) fun _ => Keeps.pure _
  | isSuperuser user =>
      exact Keeps.bind (reading_keeps (isSuperuser_observes lossy user).keeps) fun _ => Keeps.pure _
  | superusers => exact Keeps.bind (reading_keeps (allSuperusers_observes lossy).keeps) fun _ => Keeps.pure _
  | defaults plugin feature =>
      exact Keeps.bind (reading_keeps (defaults?_observes lossy plugin feature).keeps) fun _ => Keeps.pure _
  | groupOverride plugin feature group =>
      exact Keeps.bind (reading_keeps (state?_observes lossy _ _).keeps) fun _ => Keeps.pure _
  | userOverride plugin feature user =>
      exact Keeps.bind (reading_keeps (state?_observes lossy _ _).keeps) fun _ => Keeps.pure _
  | features => exact Keeps.bind (reading_keeps (allFeatures_observes lossy).keeps) fun _ => Keeps.pure _
  | decide actor plugin feature =>
      exact Keeps.bind (decide_keeps lossy actor plugin feature) fun _ => Keeps.pure _
  | isAdmin actor =>
      exact Keeps.bind (reading_keeps (Resolution.isAdmin_observes lossy actor).keeps) fun _ => Keeps.pure _
  | registerManagement => exact Keeps.bind (registerManagement_keeps lossy stable) fun _ => Keeps.pure _
  | command asked actor => exact Keeps.bind (execute_keeps lossy stable asked actor) fun _ => Keeps.pure _

theorem perform_keeps (actorOf : E → Option Actor) (errand : Errand τ E) :
    Keeps (Running.Sound store (good ∘ view)) (errand.perform store actorOf) := by
  cases errand with
  | request asked => exact Keeps.bind (handle_keeps lossy stable asked) fun _ => Keeps.pure _
  | checker plugin feature => exact Keeps.bind (checker_keeps _ _ _) fun _ => Keeps.pure _
  | generator plugin defaults gate => exact Keeps.bind (generator_keeps _ _ _) fun _ => Keeps.pure _
  | generate maker feature => exact Keeps.bind (generate_keeps lossy stable _ _ _) fun _ => Keeps.pure _

omit lossy stable in
theorem serve_keeps {good : τ → Prop} {action : Action (Running τ) ε α}
    (keeps : Keeps (Running.Sound store good) action) (number : Nat) :
    Keeps (Fleet.Sound store good) (Fleet.serve number action) := by
  intro fleet sound
  have still := keeps (fleet.running number) ⟨sound.1 number, sound.2⟩
  exact ⟨Fleet.serve_each (P := fun service => ∀ ledger, service.ledger = some ledger → ledger.store = store)
    sound.1 still.1, still.2⟩

theorem after_keeps (actorOf : E → Option Actor) (errands : List (Nat × Errand τ E)) (fleet : Fleet τ)
    (sound : fleet.Sound store (good ∘ view)) :
    (Fleet.after store actorOf errands fleet).Sound store (good ∘ view) := by
  induction errands generalizing fleet with
  | nil => exact sound
  | cons first rest ih =>
      obtain ⟨number, errand⟩ := first
      exact ih _ (serve_keeps (perform_keeps lossy stable actorOf errand) number fleet sound)

end Keeping
end FeatureGate
