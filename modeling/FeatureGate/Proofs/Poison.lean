import FeatureGate.Proofs.Lifecycle

namespace FeatureGate
open Table Registry FeatureGate.Action

variable {σ E : Type}

def Registry.Mutation.barred (mutation : Mutation) : Outcome Error Unit :=
  match mutation.invalid with
  | some invalid => .failed (.validation invalid)
  | none => if mutation.isIdle then .done () else .failed (.store .poisoned)

def ChatCommand.barred (command : ChatCommand) (actor : Actor) : Outcome Error Bool → Outcome Error String
  | .done false => .failed (.command .denied)
  | .done true => match command.effect actor with
      | none => .failed (.command .outsideGroup)
      | some (mutation, said) => mutation.barred.map fun _ => said
  | .failed error => .failed error
  | .aborted => .aborted

def Request.isLook : Request → Bool
  | mutate _ | registerManagement | command .. => false
  | _ => true

def Action.Unseen (store : Store σ) (action : Action σ ε α) : Prop :=
  ∀ (β : Type) (view : σ → β), store.Steady view → Still view action

def Action.Selecting (store : Store σ) (action : Action σ ε α) : Prop :=
  ∀ (paired : σ → σ → Prop) (spent : σ → Prop),
    (∀ table key, Action.Agrees paired spent (store.select table key) (store.select table key)) →
      Action.Agrees paired spent action action

theorem Action.Selecting.unseen {store : Store σ} {action : Action σ ε α} (selecting : Selecting store action) :
    Unseen store action :=
  fun _ _ steady => still_of_agrees fun seen => selecting _ _ fun table key => (steady.reads table key).agrees seen

section Selecting
variable (store : Store σ)

theorem Registry.isSuperuser_selecting (user : String) : Selecting store (isSuperuser store user) :=
  fun _ _ reads => isSuperuser_agrees reads user

theorem Registry.allSuperusers_selecting : Selecting store (allSuperusers store) :=
  fun _ _ reads => allSuperusers_agrees reads

theorem Registry.defaults?_selecting (plugin feature : String) : Selecting store (defaults? store plugin feature) :=
  fun _ _ reads => defaults?_agrees reads plugin feature

theorem Registry.allFeatures_selecting : Selecting store (allFeatures store) :=
  fun _ _ reads => allFeatures_agrees reads

theorem Resolution.decide_selecting (actor : Actor) (plugin feature : String) :
    Selecting store (Resolution.decide store actor plugin feature) :=
  fun _ _ reads => Resolution.decide_agrees reads actor plugin feature

end Selecting

namespace Action

-- The service stays as it is. What happens to the world is the same whether the lock is
-- whole or poisoned, and is not seen.
def Lockless (store : Store σ) (action : Action (Running σ) ε α) : Prop :=
  ∃ inner : Action σ ε α, Unseen store inner ∧ ∀ poisoned world,
    action ⟨.holding store (some poisoned), world⟩ = ((inner world).1, ⟨.holding store (some poisoned), (inner world).2⟩)

theorem Lockless.ofOutcome {store : Store σ} {action : Action (Running σ) ε α} (outcome : Outcome ε α)
    (same : ∀ poisoned world, action ⟨.holding store (some poisoned), world⟩ =
      (outcome, ⟨.holding store (some poisoned), world⟩)) : Lockless store action :=
  ⟨Action.ofOutcome outcome, fun _ _ _ _ => rfl, same⟩

theorem Lockless.answer {store : Store σ} {action : Action (Running σ) ε α} (lockless : Lockless store action)
    (f : α → β) : Lockless store (action >>= fun answer => Pure.pure (f answer)) := by
  obtain ⟨inner, unseen, same⟩ := lockless
  refine ⟨inner >>= fun answer => Pure.pure (f answer), fun β view steady s => ?_, fun poisoned world => ?_⟩
  · rw [answer_after]
    exact unseen β view steady s
  · rw [answer_apply, answer_apply, same]

theorem Lockless.reading {store : Store σ} (read : Store σ → Action σ Error α) (unseen : Unseen store (read store)) :
    Lockless store (Service.reading read) := ⟨read store, unseen, fun _ _ => rfl⟩

end Action

section Looks
variable (store : Store σ)

theorem init_lockless (offered : Store σ) (superuser : Option String) :
    Lockless store (Service.init offered superuser) := .ofOutcome (.failed .alreadyInitialized) fun _ _ => rfl

def Service.issued (actorOf : E → Option Actor) (plugin feature : String) : Outcome Error (Rule σ E) :=
  match emptyKey plugin feature with
  | some invalid => .failed (.validation invalid)
  | none => .done (Rule.of fun event => Rule.allows store plugin feature (actorOf event))

theorem checker_held (actorOf : E → Option Actor) (plugin feature : String) (poisoned : Bool) (world : σ) :
    Service.checker actorOf plugin feature ⟨.holding store (some poisoned), world⟩ =
      (Service.issued store actorOf plugin feature, ⟨.holding store (some poisoned), world⟩) := by
  refine (bind_done (Service.held_some rfl)).trans ?_
  unfold Service.issued
  cases emptyKey plugin feature <;> rfl

theorem checker_lockless (actorOf : E → Option Actor) (plugin feature : String) :
    Lockless store (Service.checker actorOf plugin feature) := .ofOutcome _ (checker_held store actorOf plugin feature)

theorem generator_lockless (plugin : String) (defaults : Defaults) (gate : Rule σ E) :
    Lockless store (Service.generator plugin defaults gate) := by
  refine .ofOutcome (match emptyKey plugin "any" with
    | some invalid => .failed (.validation invalid)
    | none => .done { plugin, defaults, gate }) fun poisoned world => ?_
  refine (bind_done (Service.held_some rfl)).trans ?_
  cases emptyKey plugin "any" <;> rfl

theorem handle_lockless {asked : Request} (looks : asked.isLook = true) (offered : Store σ) :
    Lockless store (asked.handle offered) := by
  cases asked with
  | init superuser => exact (init_lockless store offered superuser).answer fun _ => Response.nothing
  | isInitialized => exact .ofOutcome (.done (.truth true)) fun _ _ => rfl
  | createTables =>
      have unseen : Unseen store (Registry.createTables store) := fun _ _ steady => createTables_still steady
      exact (Lockless.reading _ unseen).answer fun _ => Response.nothing
  | isSuperuser user =>
      exact (Lockless.reading (Registry.isSuperuser · user)
        (isSuperuser_selecting store user).unseen).answer Response.truth
  | superusers =>
      exact (Lockless.reading _ (allSuperusers_selecting store).unseen).answer Response.names
  | defaults plugin feature =>
      exact (Lockless.reading (defaults? · plugin feature)
        (defaults?_selecting store plugin feature).unseen).answer Response.defaults
  | groupOverride plugin feature group =>
      exact (Lockless.reading (groupOverride? · plugin feature group)
        (Selecting.unseen fun _ _ reads => state?_agrees reads _ _)).answer Response.permission
  | userOverride plugin feature user =>
      exact (Lockless.reading (userOverride? · plugin feature user)
        (Selecting.unseen fun _ _ reads => state?_agrees reads _ _)).answer Response.permission
  | features =>
      exact (Lockless.reading _ (allFeatures_selecting store).unseen).answer Response.entries
  | decide actor plugin feature =>
      exact (Lockless.reading (Resolution.decide · actor plugin feature)
        (Resolution.decide_selecting store actor plugin feature).unseen).answer Response.truth
  | isAdmin actor =>
      exact (Lockless.reading (Resolution.isAdmin · actor)
        (Selecting.unseen fun _ _ reads => Resolution.isAdmin_agrees reads actor)).answer Response.truth
  | mutate mutation => cases looks
  | registerManagement => cases looks
  | command asked actor => cases looks

end Looks

namespace Service
variable (store : Store σ) (world : σ)

theorem mutate_barred (mutation : Mutation) : mutate mutation ⟨.holding store (some true), world⟩ =
    (mutation.barred, ⟨.holding store (some true), world⟩) := by
  unfold Mutation.barred
  cases right : mutation.invalid with
  | some invalid => exact mutate_refused rfl right
  | none =>
      rw [mutate_begun rfl right]
      cases mutation.isIdle with
      | true => rfl
      | false => exact locked_broken rfl rfl mutation.apply

theorem registerManagement_barred : ChatCommand.registerManagement ⟨.holding store (some true), world⟩ =
    (.failed (.store .poisoned), ⟨.holding store (some true), world⟩) := bind_failed (mutate_barred store world _)

theorem generate_barred (actorOf : E → Option Actor) (maker : Generator σ E) (feature : String) :
    generate actorOf maker feature ⟨.holding store (some true), world⟩ =
      (.failed (((emptyKey maker.plugin feature).map Error.validation).getD (.store .poisoned)),
        ⟨.holding store (some true), world⟩) := by
  refine bind_failed ((mutate_barred store world _).trans ?_)
  unfold Mutation.barred
  simp only [Mutation.invalid]
  cases emptyKey maker.plugin feature <;> rfl

theorem execute_barred (command : ChatCommand) (actor : Actor) :
    command.execute actor ⟨.holding store (some true), world⟩ =
      (command.barred actor (Resolution.decide store actor ChatCommand.plugin command.kind world).1,
        ⟨.holding store (some true), (Resolution.decide store actor ChatCommand.plugin command.kind world).2⟩) := by
  have decided : Service.decide actor ChatCommand.plugin command.kind ⟨.holding store (some true), world⟩ =
      ((Resolution.decide store actor ChatCommand.plugin command.kind world).1,
        ⟨.holding store (some true), (Resolution.decide store actor ChatCommand.plugin command.kind world).2⟩) := rfl
  generalize Resolution.decide store actor ChatCommand.plugin command.kind world = decision at decided
  obtain ⟨allowed | error | _, after⟩ := decision
  · refine (bind_done decided).trans ?_
    cases allowed with
    | false => rfl
    | true =>
        unfold ChatCommand.barred
        cases command.effect actor with
        | none => rfl
        | some effect =>
            refine (answer_apply (mutate effect.1) (fun _ => effect.2) _).trans ?_
            rw [mutate_barred]
  · exact bind_failed decided
  · exact bind_aborted decided

end Service

namespace Action
variable {store : Store σ}

def Barred (store : Store σ) (action : Action (Running σ) Error α) : Prop :=
  ∀ world, ∃ outcome after, action ⟨.holding store (some true), world⟩ = (outcome, ⟨.holding store (some true), after⟩) ∧
    (∀ (β : Type) (view : σ → β), store.Steady view → view after = view world) ∧
    (outcome ≠ .failed (.store .poisoned) →
      action ⟨.holding store (some false), world⟩ = (outcome, ⟨.holding store (some false), after⟩))

theorem Lockless.barred {action : Action (Running σ) Error α} (lockless : Lockless store action) :
    Barred store action := by
  obtain ⟨inner, unseen, same⟩ := lockless
  exact fun world => ⟨_, _, same true world, fun β view steady => unseen β view steady world, fun _ => same false world⟩

theorem Barred.fail (error : Error) : Barred store (Action.fail error : Action (Running σ) Error α) :=
  Lockless.barred (.ofOutcome (.failed error) fun _ _ => rfl)

theorem Barred.pure (answer : α) : Barred store (Pure.pure answer : Action (Running σ) Error α) :=
  Lockless.barred (.ofOutcome (.done answer) fun _ _ => rfl)

theorem Barred.bind {first : Action (Running σ) Error α} {next : α → Action (Running σ) Error β}
    (one : Barred store first) (rest : ∀ answer, Barred store (next answer)) : Barred store (first >>= next) := by
  intro world
  obtain ⟨outcome, middle, begun, still, same⟩ := one world
  cases outcome with
  | failed error =>
      refine ⟨_, middle, bind_failed begun, still, fun free => bind_failed (same fun broken => free ?_)⟩
      cases broken
      rfl
  | aborted => exact ⟨_, middle, bind_aborted begun, still, fun _ => bind_aborted (same nofun)⟩
  | done answer =>
      obtain ⟨outcome, last, went, stillMore, sameMore⟩ := rest answer middle
      exact ⟨outcome, last, (bind_done begun).trans went,
        fun β view steady => (stillMore β view steady).trans (still β view steady),
        fun free => (bind_done (same nofun)).trans (sameMore free)⟩

end Action

section Errands
variable (store : Store σ) (actorOf : E → Option Actor)

theorem mutate_bars (mutation : Mutation) : Action.Barred store (Service.mutate mutation) := by
  intro world
  refine ⟨_, world, Service.mutate_barred store world mutation, fun _ _ _ => rfl, fun free => ?_⟩
  unfold Mutation.barred at free ⊢
  cases right : mutation.invalid with
  | some invalid => exact Service.mutate_refused rfl right
  | none =>
      rw [Service.mutate_begun rfl right]
      cases idle : mutation.isIdle with
      | true => rfl
      | false => exact (free (by rw [right, idle]; rfl)).elim

theorem execute_bars (command : ChatCommand) (actor : Actor) : Action.Barred store (command.execute actor) := by
  refine Barred.bind (Lockless.reading _ (Resolution.decide_selecting store actor _ _).unseen).barred fun allowed => ?_
  cases allowed with
  | false => exact Barred.fail _
  | true =>
      cases means : command.effect actor with
      | none => exact Barred.fail _
      | some effect => exact Barred.bind (mutate_bars store effect.1) fun _ => Barred.pure _

theorem perform_bars (offered : Store σ) (errand : Errand σ E) : Action.Barred store (errand.perform offered actorOf) := by
  cases errand with
  | request asked =>
      refine Barred.bind ?_ fun _ => Barred.pure _
      cases asked with
      | mutate mutation => exact Barred.bind (mutate_bars store mutation) fun _ => Barred.pure _
      | registerManagement =>
          exact Barred.bind (Barred.bind (mutate_bars store _) fun _ => mutate_bars store _) fun _ => Barred.pure _
      | command asked actor => exact Barred.bind (execute_bars store asked actor) fun _ => Barred.pure _
      | _ => exact (handle_lockless store rfl offered).barred
  | checker plugin feature => exact Barred.bind (checker_lockless store actorOf plugin feature).barred fun _ => Barred.pure _
  | generator plugin defaults gate =>
      exact Barred.bind (generator_lockless store plugin defaults gate).barred fun _ => Barred.pure _
  | generate maker feature =>
      refine Barred.bind (Barred.bind (mutate_bars store _) fun _ => ?_) fun _ => Barred.pure _
      exact Barred.bind (checker_lockless store actorOf _ _).barred fun _ => Barred.pure _

end Errands

-- How a service goes on whose lock is poisoned: changes are refused once there is nothing
-- else to say about them, and everything else is as with a whole lock.
structure Service.Barren (actorOf : E → Option Actor) (store : Store σ) (service : Service σ) : Prop where
  mutates : ∀ mutation world, Service.mutate mutation ⟨service, world⟩ = (mutation.barred, ⟨service, world⟩)
  registers : ∀ world,
    ChatCommand.registerManagement ⟨service, world⟩ = (.failed (.store .poisoned), ⟨service, world⟩)
  generates : ∀ (maker : Generator σ E) feature world, Service.generate actorOf maker feature ⟨service, world⟩ =
    (.failed (((emptyKey maker.plugin feature).map Error.validation).getD (.store .poisoned)), ⟨service, world⟩)
  executes : ∀ (command : ChatCommand) actor world, command.execute actor ⟨service, world⟩ =
    let (decision, after) := Resolution.decide store actor ChatCommand.plugin command.kind world
    (command.barred actor decision, ⟨service, after⟩)
  asks : ∀ asked : Request, asked.isLook = true → ∀ offered world, asked.handle offered ⟨service, world⟩ =
    let (outcome, whole) := asked.handle offered ⟨.holding store (some false), world⟩
    (outcome, ⟨service, whole.world⟩)
  checks : ∀ plugin feature world, Service.checker actorOf plugin feature ⟨service, world⟩ =
    (Service.issued store actorOf plugin feature, ⟨service, world⟩)
  others : ∀ (errand : Errand σ E) offered world, ∃ outcome after,
    errand.perform offered actorOf ⟨service, world⟩ = (outcome, ⟨service, after⟩) ∧
    (∀ (β : Type) (view : σ → β), store.Steady view → view after = view world) ∧
    (outcome ≠ .failed (.store .poisoned) →
      errand.perform offered actorOf ⟨.holding store (some false), world⟩ = (outcome, ⟨.holding store (some false), after⟩))

theorem poisoned_barren (actorOf : E → Option Actor) (store : Store σ) :
    (Service.holding store (some true)).Barren actorOf store := by
  refine ⟨fun mutation world => Service.mutate_barred store world mutation, Service.registerManagement_barred store,
    fun maker feature world => Service.generate_barred store world actorOf maker feature,
    fun command actor world => Service.execute_barred store world command actor, fun asked looks offered world => ?_,
    fun plugin feature => checker_held store actorOf plugin feature true,
    fun errand offered => perform_bars store actorOf offered errand⟩
  obtain ⟨inner, _, same⟩ := handle_lockless store looks offered
  rw [same, same]

namespace Errand

def isLook : Errand σ E → Bool
  | request asked => asked.isLook
  | checker .. | generator .. => true
  | generate .. => false

def glance (store : Store σ) (actorOf : E → Option Actor) : Errand σ E → Action (Running σ) Error Unit
  | request (.command asked actor) => do let _ ← Service.decide actor ChatCommand.plugin asked.kind; return ()
  | errand => if errand.isLook then errand.perform store actorOf else return ()

end Errand

section Death
variable {running : Running σ}

theorem answer_aborted {action : Action σ ε α} {f : α → β} :
    ((action >>= fun answer => Pure.pure (f answer)) s).1 = .aborted ↔ (action s).1 = .aborted := by
  rw [answer_apply]
  cases (action s).1 <;> simp [Outcome.map]

theorem mutate_dies {mutation : Mutation} (died : (Service.mutate mutation running).1 = .aborted) :
    ∃ ledger, running.service.ledger = some ledger ∧
      (Service.mutate mutation running).2.service = .holding ledger.store (some true) := by
  rcases Service.mutate_ways mutation running with ⟨error, refused⟩ | ⟨_, done⟩ | ⟨ledger, holds, carried⟩
  · rw [refused] at died
    cases died
  · rw [done] at died
    cases died
  · refine ⟨ledger, holds, ?_⟩
    rw [carried] at died ⊢
    cases applied : mutation.apply ledger.store running.world with
    | mk outcome world =>
        rw [applied] at died
        cases outcome with
        | done answer => cases died
        | failed error => cases died
        | aborted => rfl

theorem mutate_steady {mutation : Mutation} (alive : (Service.mutate mutation running).1 ≠ .aborted) :
    (Service.mutate mutation running).2.service = running.service := by
  rcases Service.mutate_ways mutation running with ⟨error, refused⟩ | ⟨_, idle⟩ | ⟨ledger, holds, carried⟩
  · rw [refused]
  · rw [idle]
  · rw [carried] at alive ⊢
    cases applied : mutation.apply ledger.store running.world with
    | mk outcome world =>
        rw [applied] at alive
        cases outcome with
        | done answer => rfl
        | failed error => rfl
        | aborted => exact (alive rfl).elim

theorem mutate_stays {mutation : Mutation} (done : Service.mutate mutation running = (.done (), after)) :
    after.service = running.service := by
  have stays := mutate_steady (show (Service.mutate mutation running).1 ≠ .aborted by rw [done]; exact nofun)
  rwa [done] at stays

theorem registerManagement_dies (died : (ChatCommand.registerManagement running).1 = .aborted) :
    ∃ ledger, running.service.ledger = some ledger ∧
      (ChatCommand.registerManagement running).2.service = .holding ledger.store (some true) := by
  unfold ChatCommand.registerManagement at died ⊢
  rw [bind_apply] at died ⊢
  cases first : Service.mutate (.updateFeature ChatCommand.plugin "group" ({} : Defaults).asUpdate) running with
  | mk outcome middle =>
      rw [first] at died
      cases outcome with
      | failed error => cases died
      | aborted =>
          have dies := mutate_dies (congrArg Prod.fst first)
          rwa [first] at dies
      | done answer =>
          obtain ⟨ledger, holds, dies⟩ := mutate_dies died
          rw [mutate_stays first] at holds
          exact ⟨ledger, holds, dies⟩

theorem execute_dies {command : ChatCommand} {actor : Actor} (died : (command.execute actor running).1 = .aborted) :
    ((Service.decide actor ChatCommand.plugin command.kind running).1 = .aborted ∧
        (command.execute actor running).2.service = running.service) ∨
      ((Service.decide actor ChatCommand.plugin command.kind running).1 ≠ .aborted ∧ ∃ ledger,
        running.service.ledger = some ledger ∧
          (command.execute actor running).2.service = .holding ledger.store (some true)) := by
  have stays : (Service.decide actor ChatCommand.plugin command.kind running).2.service = running.service := by
    cases holds : running.service.ledger with
    | none => exact congrArg (fun run : _ × Running σ => run.2.service) (Service.reading_none holds _)
    | some ledger => exact congrArg (fun run : _ × Running σ => run.2.service) (Service.reading_some holds _)
  unfold ChatCommand.execute at died ⊢
  rw [bind_apply] at died ⊢
  cases decided : Service.decide actor ChatCommand.plugin command.kind running with
  | mk outcome middle =>
      rw [decided] at died stays
      cases outcome with
      | failed error => cases died
      | aborted => exact .inl ⟨rfl, stays⟩
      | done allowed =>
          refine .inr ⟨nofun, ?_⟩
          cases allowed with
          | false => cases died
          | true =>
              cases means : command.effect actor with
              | none => simp only [means] at died; cases died
              | some effect =>
                  simp only [means] at died ⊢
                  change ((Service.mutate effect.1 >>= fun _ => Pure.pure effect.2) middle).1 = .aborted at died
                  change ∃ ledger, _ ∧ ((Service.mutate effect.1 >>= fun _ => Pure.pure effect.2) middle).2.service = _
                  rw [answer_after, ← stays]
                  exact mutate_dies (answer_aborted.mp died)

theorem look_dies {errand : Errand σ E} (looks : errand.isLook = true) (offered : Store σ) (actorOf : E → Option Actor)
    (died : (errand.perform offered actorOf running).1 = .aborted) :
    (errand.perform offered actorOf running).2.service = running.service := by
  obtain ⟨⟨ledger⟩, world⟩ := running
  cases ledger with
  | none =>
      have unset : (⟨⟨none⟩, world⟩ : Running σ).service.ledger = none := rfl
      rcases Errand.perform_none unset offered actorOf errand with refused | ⟨_, asked⟩ | ⟨superuser, rfl⟩
      · rw [refused]
      · rw [asked]
      · rw [perform_init] at died ⊢
        cases begun : Service.setUp offered superuser world with
        | mk outcome after =>
            rw [Service.init_none unset begun] at died ⊢
            cases died
            rfl
  | some ledger =>
      have lockless : Lockless ledger.store (errand.perform offered actorOf) := by
        cases errand with
        | request asked => exact (handle_lockless ledger.store looks offered).answer fun _ => ()
        | checker plugin feature => exact (checker_lockless ledger.store actorOf plugin feature).answer fun _ => ()
        | generator plugin defaults gate =>
            exact (generator_lockless ledger.store plugin defaults gate).answer fun _ => ()
        | generate maker feature => cases looks
      obtain ⟨inner, _, same⟩ := lockless
      exact congrArg (fun run : _ × Running σ => run.2.service) (same ledger.poisoned world)

theorem perform_dies (offered : Store σ) (actorOf : E → Option Actor) (errand : Errand σ E)
    (died : (errand.perform offered actorOf running).1 = .aborted) :
    ((errand.glance offered actorOf running).1 = .aborted ∧
        (errand.perform offered actorOf running).2.service = running.service) ∨
      ((errand.glance offered actorOf running).1 ≠ .aborted ∧ ∃ ledger, running.service.ledger = some ledger ∧
        (errand.perform offered actorOf running).2.service = .holding ledger.store (some true)) := by
  cases errand with
  | request asked =>
      have dead : (asked.handle offered running).1 = .aborted := answer_aborted.mp died
      have world : ((Errand.request asked : Errand σ E).perform offered actorOf running).2 = (asked.handle offered running).2 :=
        answer_after (asked.handle offered) (fun _ => ()) running
      cases asked with
      | mutate mutation =>
          refine .inr ⟨nofun, ?_⟩
          rw [world, show (Request.mutate mutation).handle offered running = _ from answer_apply _ (fun _ => _) running]
          exact mutate_dies (answer_aborted.mp dead)
      | registerManagement =>
          refine .inr ⟨nofun, ?_⟩
          rw [world, show Request.registerManagement.handle offered running = _ from answer_apply _ (fun _ => _) running]
          exact registerManagement_dies (answer_aborted.mp dead)
      | command asked actor =>
          rw [world, show (Request.command asked actor).handle offered running = _ from answer_apply _ Response.text running]
          exact (execute_dies (answer_aborted.mp dead)).imp (fun dies => ⟨answer_aborted.mpr dies.1, dies.2⟩)
            fun dies => ⟨fun glance => dies.1 (answer_aborted.mp glance), dies.2⟩
      | _ => exact .inl ⟨died, look_dies rfl offered actorOf died⟩
  | checker plugin feature => exact .inl ⟨died, look_dies rfl offered actorOf died⟩
  | generator plugin defaults gate => exact .inl ⟨died, look_dies rfl offered actorOf died⟩
  | generate maker feature =>
      have same : (Errand.generate maker feature).perform offered actorOf = Service.mutate (maker.registration feature) :=
        generate_answer actorOf maker feature
      rw [same] at died ⊢
      exact .inr ⟨nofun, mutate_dies died⟩

end Death

namespace Fleet
variable {number : Nat} {one other : Fleet σ} {store : Store σ} {actorOf : E → Option Actor}

def Alike (number : Nat) (one other : Fleet σ) : Prop :=
  one.world = other.world ∧ ∀ elsewhere, elsewhere ≠ number → one.services elsewhere = other.services elsewhere

theorem Alike.running (alike : Alike number one other) (apart : elsewhere ≠ number) :
    one.running elsewhere = other.running elsewhere := by
  rw [Fleet.running, Fleet.running, alike.1, alike.2 elsewhere apart]

theorem serve_alike (alike : Alike number one other) (apart : elsewhere ≠ number) (action : Action (Running σ) ε α) :
    (serve elsewhere action one).1 = (serve elsewhere action other).1 ∧
      Alike number (serve elsewhere action one).2 (serve elsewhere action other).2 := by
  simp only [serve, Action.within, alike.running apart]
  refine ⟨trivial, rfl, fun third away => ?_⟩
  dsimp only
  by_cases here : third = elsewhere
  · rw [here, Function.update_self, Function.update_self]
  · rw [Function.update_of_ne here, Function.update_of_ne here, alike.2 third away]

theorem after_alike (store : Store σ) (actorOf : E → Option Actor) (errands : List (Nat × Errand σ E))
    (apart : ∀ asked ∈ errands, asked.1 ≠ number) (alike : Alike number one other) :
    Alike number (after store actorOf errands one) (after store actorOf errands other) := by
  induction errands generalizing one other with
  | nil => exact alike
  | cons first rest ih =>
      exact ih (fun asked member => apart asked (List.mem_cons_of_mem _ member))
        (serve_alike alike (apart first List.mem_cons_self) _).2

theorem after_uses (errands : List (Nat × Errand σ E)) {fleet : Fleet σ} (uses : fleet.Sound store fun _ => True) :
    (after store actorOf errands fleet).Sound store fun _ => True := by
  induction errands generalizing fleet with
  | nil => exact uses
  | cons first rest ih =>
      exact ih (serve_keeps (perform_within (fun _ _ _ => trivial) actorOf first.2) first.1 fleet uses)

theorem after_poisoned (errands : List (Nat × Errand σ E)) {fleet : Fleet σ}
    (poisoned : fleet.services number = .holding store (some true)) :
    (after store actorOf errands fleet).services number = .holding store (some true) := by
  induction errands generalizing fleet with
  | nil => exact poisoned
  | cons first rest ih =>
      refine ih ?_
      simp only [step, serve, Action.within]
      by_cases here : number = first.1
      · obtain ⟨outcome, after, same, _⟩ := perform_bars store actorOf store first.2 fleet.world
        rw [← here, Function.update_self, Fleet.running, poisoned, same]
      · rw [Function.update_of_ne here, poisoned]

theorem init_whole {fleet : Fleet σ} (unset : (fleet.running number).stores = [])
    (done : (serve number (Service.init store superuser) fleet).1 = .done ()) :
    (serve number (Service.init store superuser) fleet).2.services number = .holding store (some false) := by
  simp only [serve, Action.within, Function.update_self] at done ⊢
  rw [init_dormant unset] at done ⊢
  dsimp only at done ⊢
  rw [done]

end Fleet

-- Whoever dies before it has the lock harms nobody. Whoever dies with the lock in hand
-- poisons it for good, and then this service changes nothing any more, while it looks
-- as ever and all other services go on as if nothing had happened.
theorem poisoning_contained (store : Store σ) (actorOf : E → Option Actor) (world : σ)
    (before : List (Nat × Errand σ E)) (number : Nat) (errand : Errand σ E) :
    let reached := Fleet.after store actorOf before (.start world)
    let fatal := Fleet.step store actorOf number errand reached
    fatal.1 = .aborted →
      ((errand.glance store actorOf (reached.running number)).1 = .aborted → fatal.2.services = reached.services) ∧
      ((errand.glance store actorOf (reached.running number)).1 ≠ .aborted →
        (∀ later, ((Fleet.after store actorOf later fatal.2).services number).Barren actorOf store) ∧
        ∀ others : List (Nat × Errand σ E), (∀ asked ∈ others, asked.1 ≠ number) →
          let spoilt := Fleet.after store actorOf others fatal.2
          let whole := Fleet.after store actorOf others
            ⟨Function.update fatal.2.services number (.holding store (some false)), fatal.2.world⟩
          spoilt.world = whole.world ∧ ∀ other, other ≠ number → spoilt.services other = whole.services other ∧
            (∀ asked : Request, (Fleet.serve other (asked.handle store) spoilt).1 =
              (Fleet.serve other (asked.handle store) whole).1) ∧
            ∀ superuser, (spoilt.services other).ledger = none →
              (Fleet.serve other (Service.init store superuser) spoilt).1 = .done () →
              (Fleet.serve other (Service.init store superuser) spoilt).2.services other = .holding store (some false)) := by
  intro reached fatal died
  rcases perform_dies store actorOf errand died with ⟨glanced, stays⟩ | ⟨went, ledger, holds, poisoned⟩
  · refine ⟨fun _ => ?_, fun other => (other glanced).elim⟩
    show Function.update reached.services number _ = _
    rw [stays]
    exact Function.update_eq_self number reached.services
  · refine ⟨fun glanced => (went glanced).elim, fun _ => ⟨fun later => ?_, fun others apart => ?_⟩⟩
    · have uses : reached.Sound store fun _ => True := Fleet.after_uses before ⟨nofun, trivial⟩
      have now : fatal.2.services number = .holding store (some true) := by
        show Function.update reached.services number _ number = _
        rw [Function.update_self, poisoned, uses.1 number ledger holds]
      rw [Fleet.after_poisoned later now]
      exact poisoned_barren actorOf store
    · have begun : Fleet.Alike number fatal.2
          ⟨Function.update fatal.2.services number (.holding store (some false)), fatal.2.world⟩ :=
        ⟨rfl, fun elsewhere away => (Function.update_of_ne away _ _).symm⟩
      have alike := Fleet.after_alike store actorOf others apart begun
      refine ⟨alike.1, fun other away => ⟨alike.2 other away, fun asked => (Fleet.serve_alike alike away _).1, ?_⟩⟩
      exact fun superuser fresh done => Fleet.init_whole (stores_none.mpr fresh) done

def deadly (number : Nat) : Store (Nat × Shelf) :=
  Shelf.store.planned fun call => if call = number then some .aborted else none

def nobody (_ : Unit) : Option Actor := none

def opened (number : Nat) : Fleet (Nat × Shelf) :=
  Fleet.after (deadly number) nobody [(0, .request (.init none))] (.start (0, Shelf.empty))

-- The call after the four that set up the service is a look. Whoever only looks dies
-- alone; whoever looks with the lock in hand takes it along.
theorem deadly_contained :
    let die (errand : Errand (Nat × Shelf) Unit) := Fleet.step (deadly 4) nobody 0 errand (opened 4)
    (die (.request (.isSuperuser "eve"))).1 = .aborted ∧
      (die (.request (.isSuperuser "eve"))).2.services = (opened 4).services ∧
      (die (.request (.mutate (.setSuperuser "eve")))).1 = .aborted ∧
      ∀ later, ((Fleet.after (deadly 4) nobody later
        (die (.request (.mutate (.setSuperuser "eve")))).2).services 0).Barren nobody (deadly 4) := by
  intro die
  have looked : (die (.request (.isSuperuser "eve"))).1 = .aborted := by decide +kernel
  have changed : (die (.request (.mutate (.setSuperuser "eve")))).1 = .aborted := by decide +kernel
  have glanced : ((Errand.request (.isSuperuser "eve")).glance (deadly 4) nobody
      ((opened 4).running 0)).1 = .aborted := by decide +kernel
  have contained := poisoning_contained (deadly 4) nobody (0, Shelf.empty) [(0, .request (.init none))] 0
  exact ⟨looked, (contained _ looked).1 glanced, changed, ((contained _ changed).2 nofun).1⟩

end FeatureGate
