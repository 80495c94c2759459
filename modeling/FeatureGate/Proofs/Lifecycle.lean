import FeatureGate.Proofs.Continuity
import FeatureGate.Proofs.Vigilance

namespace FeatureGate
open Table Registry FeatureGate.Action

section Clear
variable {store : Store τ} {clear : τ → Prop} {view : τ → Shelf} (lossy : store.Lossy clear view Shelf.store)
include lossy

theorem createAll_clear (declarations : List (String × Layout))
    (named : ∀ declared ∈ declarations, declared.2.nameFault declared.1 = none) (free : clear t) :
    ∃ t', createAll store declarations t = (.done (), t') ∧ clear t' := by
  induction declarations generalizing t with
  | nil => exact ⟨t, rfl, free⟩
  | cons first rest ih =>
      have ideal := createTable_done (named first List.mem_cons_self) (view t)
      rcases lossy.createTable first.1 first.2 t with ⟨same, _, goesOn⟩ | ⟨_, _, blocked⟩
      · have created : store.createTable first.1 first.2 t = (.done (), _) := Prod.ext (same.trans ideal) rfl
        obtain ⟨last, later, still⟩ := ih (fun other member => named other (List.mem_cons_of_mem _ member)) (goesOn free)
        exact ⟨last, (bind_done (mapError_done created)).trans later, still⟩
      · exact (blocked free).elim

theorem setUp_clear (kept : Kept (view t)) (free : clear t) (named : superuser ≠ some "") :
    (Service.setUp store superuser t).1 = .done () := by
  obtain ⟨middle, created, freeMiddle⟩ := createAll_clear lossy tables declared_named free
  have begun : Service.setUp store none t = (.done (), middle) := bind_done created
  cases superuser with
  | none => rw [begun]
  | some user =>
      have right : (Mutation.setSuperuser user).invalid = none := emptyName_none.mpr fun empty => named (congrArg some empty)
      obtain ⟨after, applied, _⟩ := setSuperuser_filled (setUp_filled lossy kept begun) user
      rw [setUp_seeds created right]
      rcases apply_follows lossy (.setSuperuser user) middle with ⟨same, _, _⟩ | ⟨_, _, blocked⟩
      · rw [same, applied]
      · exact (blocked freeMiddle).elim

end Clear

variable {σ E : Type}

structure Visit (σ E : Type) where
  offered : Store σ
  errand : Errand σ E

namespace Visit

def perform (actorOf : E → Option Actor) (visit : Visit σ E) : Action (Running σ) Error Unit :=
  visit.errand.perform visit.offered actorOf

def handsOver (visit : Visit σ E) : Outcome Error Unit → List (Store σ)
  | .done () => match visit.errand with
      | .request (.init _) => [visit.offered]
      | _ => []
  | _ => []

def handedOver (visits : List (Visit σ E)) (outcomes : List (Outcome Error Unit)) : List (Store σ) :=
  (visits.zipWith handsOver outcomes).flatten

end Visit

def Running.stores (running : Running σ) : List (Store σ) := (running.service.ledger.map (·.store)).toList

theorem perform_init (offered : Store σ) (actorOf : E → Option Actor) (superuser : Option String) :
    (Errand.request (.init superuser)).perform offered actorOf = Service.init offered superuser := by
  funext running
  show (((Service.init offered superuser >>= fun _ => Pure.pure Response.nothing) >>= fun _ => Pure.pure ()) running) = _
  rw [answer_apply, answer_apply]
  cases Service.init offered superuser running with
  | mk outcome after => cases outcome <;> rfl

theorem perform_offered {running : Running σ} (holds : running.service.ledger = some ledger) (one other : Store σ)
    (actorOf : E → Option Actor) (errand : Errand σ E) :
    errand.perform one actorOf running = errand.perform other actorOf running := by
  cases errand with
  | request asked =>
      cases asked with
      | init superuser => rw [perform_init, perform_init, Service.init_some holds, Service.init_some holds]
      | _ => rfl
  | _ => rfl

theorem perform_within {store : Store σ} {good : σ → Prop} (calls : ∀ call : Call, Keeps good (store.perform call))
    (actorOf : E → Option Actor) (errand : Errand σ E) :
    Keeps (Running.Sound store good) (errand.perform store actorOf) := by
  have part {α : Type} (action : Action σ Fault α) (f : α → Answer)
      (keeps : Keeps good (action >>= fun answer => Pure.pure (f answer))) :
      Action.Agrees (fun (_ : σ) _ => False) good action action :=
    ⟨fun _ _ never => never.elim, fun s held => answer_after action f s ▸ keeps s held⟩
  have agree : store.Agrees (fun _ _ => False) good Declared store :=
    ⟨fun table layout _ => part _ (fun _ => .nothing) (calls (.createTable table layout)),
      fun table row _ => part _ (fun _ => .nothing) (calls (.insert table row)),
      fun table assignment filter _ => part _ .count (calls (.update table assignment filter)),
      fun table filter => part _ .count (calls (.delete table filter)),
      fun table filter => part _ .rows (calls (.select table filter))⟩
  cases errand with
  | request asked => exact Keeps.bind (handle_agrees agree asked).worn fun _ => Keeps.pure _
  | checker plugin feature => exact Keeps.bind (checker_keeps _ _ _) fun _ => Keeps.pure _
  | generator plugin defaults gate => exact Keeps.bind (generator_keeps _ _ _) fun _ => Keeps.pure _
  | generate maker feature =>
      have same : (Errand.generate maker feature).perform store actorOf = Service.mutate (maker.registration feature) :=
        generate_answer actorOf maker feature
      rw [same]
      exact (mutate_agrees agree _).worn

-- Not set up: nobody gets at a store, and a setting up is what it would be on a service
-- that nobody has tried to set up before. When it fails, nobody was seeded.
structure Running.Dormant (actorOf : E → Option Actor) (running : Running σ) : Prop where
  engine : Service.held running = (.failed .uninitialized, running)
  refuses : ∀ visit : Visit σ E, visit.perform actorOf running = (.failed .uninitialized, running) ∨
    visit.errand = .request .isInitialized ∨ ∃ superuser, visit.errand = .request (.init superuser)
  begins : ∀ offered superuser, Service.init offered superuser running =
    let (outcome, world) := Service.setUp offered superuser running.world
    (outcome, ⟨.holding offered (match outcome with | .done () => some false | _ => none), world⟩)
  nameless : ∀ offered, (Service.init offered (some "") running).1 ≠ .done ()
  harmless : ∀ (offered : Store σ) superuser, (Service.init offered superuser running).1 ≠ .done () →
    ∀ {β : Type} (view : σ → β), offered.Steady view →
      view (Service.init offered superuser running).2.world = view running.world
  ready : ∀ (offered : Store σ) {clear : σ → Prop} {view : σ → Shelf}, offered.Lossy clear view Shelf.store →
    Kept (view running.world) → ∀ superuser, Kept (view (Service.init offered superuser running).2.world) ∧
      (clear running.world → superuser ≠ some "" → (Service.init offered superuser running).1 = .done ())

-- Set up on this store: it is not set up again, and whatever is done is done through
-- this store alone.
structure Running.Settled (actorOf : E → Option Actor) (store : Store σ) (running : Running σ) : Prop where
  engine : ∃ poisoned, Service.held running = (.done { store, poisoned }, running)
  again : ∀ offered superuser, Service.init offered superuser running = (.failed .alreadyInitialized, running)
  anyway : ∀ (visit : Visit σ E) (other : Store σ), visit.perform actorOf running = visit.errand.perform other actorOf running
  stays : ∀ visit : Visit σ E, (visit.perform actorOf running).2.stores = [store]
  through : ∀ (visit : Visit σ E) (good : σ → Prop), (∀ call : Call, Keeps good (store.perform call)) →
    good running.world → good (visit.perform actorOf running).2.world

section Standing
variable {running : Running σ} {store : Store σ} (actorOf : E → Option Actor)

theorem stores_some : running.stores = [store] ↔ ∃ poisoned, running.service.ledger = some { store, poisoned } := by
  unfold Running.stores
  cases holds : running.service.ledger with
  | none => simp
  | some ledger =>
      obtain ⟨held, poisoned⟩ := ledger
      simp

theorem stores_none : running.stores = [] ↔ running.service.ledger = none := by
  unfold Running.stores
  cases running.service.ledger <;> simp

theorem stores_keeps (good : σ → Prop) (calls : ∀ call : Call, Keeps good (store.perform call))
    (holds : running.stores = [store]) (fine : good running.world) (visit : Visit σ E) :
    (visit.perform actorOf running).2.stores = [store] ∧ good (visit.perform actorOf running).2.world := by
  obtain ⟨poisoned, held⟩ := stores_some.mp holds
  have same : visit.perform actorOf running = visit.errand.perform store actorOf running :=
    perform_offered held _ _ _ _
  have sound : Running.Sound store good (visit.errand.perform store actorOf running).2 :=
    perform_within calls actorOf visit.errand running ⟨fun ledger is => by rw [held] at is; cases is; rfl, fine⟩
  have set := perform_set store actorOf visit.errand running (by simp [Running.Set, Service.isInitialized, held])
  obtain ⟨⟨kept, lock⟩, is⟩ := Option.isSome_iff_exists.mp set
  obtain rfl : kept = store := sound.1 _ is
  rw [same]
  exact ⟨stores_some.mpr ⟨lock, is⟩, sound.2⟩

theorem settled_of_stores (holds : running.stores = [store]) : running.Settled actorOf store := by
  obtain ⟨poisoned, held⟩ := stores_some.mp holds
  exact ⟨⟨poisoned, Service.held_some held⟩, Service.init_some held, fun _ _ => perform_offered held _ _ _ _,
    fun visit => (stores_keeps actorOf (fun _ => True) (fun _ _ _ => trivial) holds trivial visit).1,
    fun visit good calls fine => (stores_keeps actorOf good calls holds fine visit).2⟩

theorem init_dormant (holds : running.stores = []) (offered : Store σ) (superuser : Option String) :
    Service.init offered superuser running =
      let (outcome, world) := Service.setUp offered superuser running.world
      (outcome, ⟨.holding offered (match outcome with | .done () => some false | _ => none), world⟩) := by
  obtain ⟨⟨ledger⟩, world⟩ := running
  obtain rfl : ledger = none := stores_none.mp holds
  cases ended : Service.setUp offered superuser world with
  | mk outcome after =>
      rw [Service.init_none rfl ended]
      cases outcome <;> rfl

theorem setUp_nameless (offered : Store σ) (world : σ) : (Service.setUp offered (some "") world).1 ≠ .done () := by
  intro done
  obtain ⟨_, middle, _, seeded⟩ := bind_parts (Prod.ext done rfl)
  cases seeded

theorem dormant_of_stores (holds : running.stores = []) : running.Dormant actorOf := by
  have unset := stores_none.mp holds
  have begins := init_dormant holds
  refine ⟨Service.held_none unset, fun visit => ?_, begins, fun offered => ?_, fun offered superuser failed _ view steady => ?_,
    fun offered clear view lossy kept superuser => ?_⟩
  · rcases Errand.perform_none unset visit.offered actorOf visit.errand with refused | ⟨asked, _⟩ | begun
    · exact .inl refused
    · exact .inr (.inl asked)
    · exact .inr (.inr begun)
  · rw [begins]
    exact setUp_nameless offered running.world
  · rw [begins] at failed ⊢
    exact (setUp_spares steady superuser running.world).resolve_left fun ⟨_, done⟩ => failed done
  · rw [begins]
    exact ⟨setUp_keeps lossy kept_stable superuser running.world kept, fun free named => setUp_clear lossy kept free named⟩

theorem handsOver_other {visit : Visit σ E} (other : ∀ superuser, visit.errand ≠ .request (.init superuser))
    (outcome : Outcome Error Unit) : visit.handsOver outcome = [] := by
  unfold Visit.handsOver
  split
  · split
    · exact (other _ ‹_›).elim
    · rfl
  · rfl

theorem perform_stores (visit : Visit σ E) (running : Running σ) :
    running.stores ++ visit.handsOver (visit.perform actorOf running).1 = (visit.perform actorOf running).2.stores := by
  obtain ⟨offered, errand⟩ := visit
  by_cases begins : ∃ superuser, errand = .request (.init superuser)
  · obtain ⟨superuser, rfl⟩ := begins
    have begun : Visit.perform actorOf ⟨offered, .request (.init superuser)⟩ running = Service.init offered superuser running :=
      congrFun (perform_init offered actorOf superuser) running
    rw [begun]
    cases holds : running.service.ledger with
    | some ledger =>
        rw [Service.init_some holds]
        exact List.append_nil _
    | none =>
        rw [init_dormant (stores_none.mpr holds), stores_none.mpr holds]
        rcases Service.setUp offered superuser running.world with ⟨answer | error | _, world⟩ <;> rfl
  · rw [handsOver_other fun superuser same => begins ⟨superuser, same⟩, List.append_nil]
    cases holds : running.service.ledger with
    | some ledger =>
        have held : running.stores = [ledger.store] := stores_some.mpr ⟨ledger.poisoned, holds⟩
        rw [held]
        exact (stores_keeps actorOf (fun _ => True) (fun _ _ _ => trivial) held trivial ⟨offered, errand⟩).1.symm
    | none =>
        rcases Errand.perform_none holds offered actorOf errand with refused | ⟨_, asked⟩ | begun
        · exact congrArg (fun run : _ × Running σ => run.2.stores) refused.symm
        · exact congrArg (fun run : _ × Running σ => run.2.stores) asked.symm
        · exact (begins begun).elim

theorem replies_stores (visits : List (Visit σ E)) (running : Running σ) :
    running.stores ++ Visit.handedOver visits (replies (Visit.perform actorOf) visits running).1 =
      (replies (Visit.perform actorOf) visits running).2.stores := by
  induction visits generalizing running with
  | nil => exact List.append_nil _
  | cons first rest ih =>
      refine Eq.trans ?_ (ih (first.perform actorOf running).2)
      rw [← perform_stores actorOf first running, List.append_assoc]
      rfl

end Standing

-- However often it is tried, and whichever calls fail or die on the way: a service
-- holds the store of the one setting up that went well, from then on. Until then it
-- is nothing but a service that was never tried, and then it is closed to others.
theorem service_lifecycle (actorOf : E → Option Actor) (visits : List (Visit σ E)) (world : σ) :
    let run := replies (Visit.perform actorOf) visits ⟨{}, world⟩
    Visit.handedOver visits run.1 = run.2.stores ∧ (Visit.handedOver visits run.1).length ≤ 1 ∧
      run.2.service.isInitialized = !(Visit.handedOver visits run.1).isEmpty ∧
      (run.2.stores = [] → run.2.Dormant actorOf) ∧
      ∀ store, run.2.stores = [store] → run.2.Settled actorOf store := by
  intro run
  have handed : Visit.handedOver visits run.1 = run.2.stores := replies_stores actorOf visits ⟨{}, world⟩
  refine ⟨handed, ?_, ?_, dormant_of_stores actorOf, fun _ => settled_of_stores actorOf⟩
  · rw [handed]
    unfold Running.stores
    cases run.2.service.ledger <;> simp
  · rw [handed]
    unfold Running.stores Service.isInitialized
    cases run.2.service.ledger <;> rfl

theorem Running.Dormant.contents {actorOf : E → Option Actor} {running : Running (Nat × Shelf)}
    (dormant : running.Dormant actorOf) (plan : Nat → Option (Outcome Fault Empty)) (superuser : Option String)
    (failed : (Service.init (Shelf.store.planned plan) superuser running).1 ≠ .done ()) :
    (Service.init (Shelf.store.planned plan) superuser running).2.world.2.contents = running.world.2.contents :=
  dormant.harmless _ superuser failed _ (Shelf.store_steady.planned plan)

def faulty : Nat → Option (Outcome Fault Empty)
  | 5 => some (.failed .poisoned)
  | 11 => some (.failed (.unknownTable superusers))
  | _ => none

def attempts : List (Visit (Nat × Shelf) Unit) :=
  [⟨Shelf.store.planned faulty, .request (.mutate (.setSuperuser "eve"))⟩,
   ⟨Shelf.store.planned faulty, .request (.init (some ""))⟩,
   ⟨Shelf.store.planned faulty, .request (.init (some "ann"))⟩,
   ⟨Shelf.store.planned faulty, .request (.init (some "bob"))⟩,
   ⟨Shelf.store.planned faulty, .checker "p" "f"⟩]

def success : List (Visit (Nat × Shelf) Unit) :=
  [⟨Shelf.store.planned faulty, .request (.init (some "root"))⟩,
   ⟨Shelf.store.planned fun _ => none, .request (.init (some "eve"))⟩,
   ⟨Shelf.store.planned faulty, .request .superusers⟩]

theorem attempts_settled :
    let serve := replies (Visit.perform fun _ : Unit => none)
    let fresh : Running (Nat × Shelf) := ⟨{}, (0, Shelf.empty)⟩
    (serve attempts fresh).1 = [.failed .uninitialized, .failed (.validation (.empty .userId)),
      .failed (.setup .poisoned), .failed (.store (.unknownTable superusers)), .failed .uninitialized] ∧
    (serve attempts fresh).2.Dormant (fun _ : Unit => none) ∧
    (∀ superuser, (Service.init (Shelf.store.planned faulty) superuser (serve attempts fresh).2).1 ≠ .done () →
      (Service.init (Shelf.store.planned faulty) superuser (serve attempts fresh).2).2.world.2.contents =
        (serve attempts fresh).2.world.2.contents) ∧
    (serve (attempts ++ success) fresh).1 = (serve attempts fresh).1 ++ [.done (), .failed .alreadyInitialized, .done ()] ∧
    (serve (attempts ++ success) fresh).2.Settled (fun _ : Unit => none) (Shelf.store.planned faulty) := by
  intro serve fresh
  have failed : (serve attempts fresh).1 = [.failed .uninitialized, .failed (.validation (.empty .userId)),
      .failed (.setup .poisoned), .failed (.store (.unknownTable superusers)), .failed .uninitialized] := by
    decide +kernel
  have went : (serve (attempts ++ success) fresh).1 =
      (serve attempts fresh).1 ++ [.done (), .failed .alreadyInitialized, .done ()] := by
    decide +kernel
  have nothing := service_lifecycle (fun _ : Unit => none) attempts (0, Shelf.empty)
  have handed := service_lifecycle (fun _ : Unit => none) (attempts ++ success) (0, Shelf.empty)
  have dormant : (serve attempts fresh).2.Dormant (fun _ : Unit => none) := by
    refine nothing.2.2.2.1 (nothing.1.symm.trans ?_)
    exact (congrArg (Visit.handedOver attempts) failed).trans rfl
  refine ⟨failed, dormant, dormant.contents faulty, went, handed.2.2.2.2 _ (handed.1.symm.trans ?_)⟩
  rw [failed] at went
  exact (congrArg (Visit.handedOver (attempts ++ success)) went).trans rfl

end FeatureGate
