import FeatureGate.Proofs.Cascade
import FeatureGate.Proofs.Provision

namespace FeatureGate
open Table Registry FeatureGate.Action

def ChatCommand.Reaches (command : ChatCommand) (actor : Actor) (key : String × String × String) : Prop :=
  ∃ user own role, actor = .group user own role ∧ key = (command.target.plugin, command.target.feature, own)

namespace Registry.Book

def Guarded (book : Book) : Prop :=
  book.features.first? (ChatCommand.plugin, "user") = some (.of { group := .deny, user := .deny })

theorem write_defaults {book after : Book} {defaults : Defaults}
    (written : book.write (.updateFeature plugin feature defaults.asUpdate) = .ok after) :
    after = { book with features := book.features.write (plugin, feature) (.of defaults) } := by
  simp only [write] at written
  cases held : book.features.defaults? plugin feature with
  | error invalid => rw [held] at written; cases written
  | ok base =>
      rw [held] at written
      exact (Except.ok.inj written).symm

theorem write_guards {book after : Book}
    (written : book.write (.updateFeature ChatCommand.plugin "user" ({ group := .deny, user := .deny } : Defaults).asUpdate) =
      .ok after) : after.Guarded := by
  unfold Guarded
  rw [write_defaults written, Page.first?_write, if_pos rfl]

theorem Guarded.shut {book : Book} (guarded : book.Guarded) {actor : Actor}
    (plain : actor.user ∉ book.superusers.keys) : book.verdict actor ChatCommand.plugin "user" = .ok false := by
  have known : book.features.defaults? ChatCommand.plugin "user" =
      .ok (some { group := .deny, user := .deny }) := by
    unfold Page.defaults?
    rw [guarded]
    exact congrArg (Except.map some) (Marks.read_of _)
  unfold verdict
  rw [if_neg (by decide), if_neg (by decide), if_neg plain, known]
  cases actor with
  | group user group role => rfl
  | alone user => rfl

-- Nothing differs between the two but, at most, what the groups say about the
-- touched keys.
structure AlikeBut (touched : String × String × String → Prop) (before after : Book) : Prop where
  features : after.features = before.features
  users : after.users = before.users
  superusers : after.superusers = before.superusers
  groups : ∀ key, ¬touched key → after.groups.under key = before.groups.under key

theorem AlikeBut.refl (touched : String × String × String → Prop) (book : Book) : AlikeBut touched book book :=
  ⟨rfl, rfl, rfl, fun _ _ => rfl⟩

theorem AlikeBut.trans {one two both : String × String × String → Prop} {before middle after : Book}
    (left : AlikeBut one before middle) (right : AlikeBut two middle after)
    (covers : ∀ key, one key ∨ two key → both key) : AlikeBut both before after := by
  refine ⟨right.features.trans left.features, right.users.trans left.users,
    right.superusers.trans left.superusers, ?_⟩
  intro key spared
  have late := right.groups key fun touched => spared (covers key (.inr touched))
  have early := left.groups key fun touched => spared (covers key (.inl touched))
  exact late.trans early

def Carries (book : Book) (command : ChatCommand) (actor : Actor) (after : Book) : Prop :=
  after = book ∨
    (book.verdict actor ChatCommand.plugin command.kind = .ok true ∧
      ∃ mutation said, command.effect actor = some (mutation, said) ∧ book.write mutation = .ok after)

variable {book after : Book} {command : ChatCommand} {actor : Actor}

theorem Carries.kept (carries : book.Carries command actor after) :
    after.features = book.features ∧ after.superusers = book.superusers := by
  rcases carries with same | ⟨_, mutation, said, means, written⟩
  · rw [same]
    exact ⟨rfl, rfl⟩
  · cases command with
    | group target state => cases actor with
        | group user own role => cases means; cases written; exact ⟨rfl, rfl⟩
        | alone user => cases means
    | user target state named => cases means; cases written; exact ⟨rfl, rfl⟩

theorem Carries.denied (carries : book.Carries command actor after) (guarded : book.Guarded)
    (plain : actor.user ∉ book.superusers.keys) (kind : command.kind = "user") : after = book := by
  rcases carries with same | ⟨open_, _⟩
  · exact same
  · rw [kind, guarded.shut plain] at open_
    cases open_

theorem Carries.confined (carries : book.Carries command actor after) (guarded : book.Guarded)
    (plain : actor.user ∉ book.superusers.keys) : book.AlikeBut (command.Reaches actor) after := by
  cases command with
  | user target state named =>
      rw [carries.denied guarded plain rfl]
      exact .refl _ _
  | group target state =>
      rcases carries with same | ⟨_, mutation, said, means, written⟩
      · rw [same]
        exact .refl _ _
      · cases actor with
        | alone user => cases means
        | group user own role =>
            cases means
            cases written
            refine ⟨rfl, rfl, rfl, ?_⟩
            intro key spared
            have other : key ≠ (target.plugin, target.feature, own) :=
              fun same => spared ⟨user, own, role, rfl, same⟩
            exact Page.under_write other _

end Registry.Book

section Commands
variable {store : Store τ} {clear : τ → Prop} {view : τ → Shelf} {running : Running τ} {book : Book}
  (lossy : store.Lossy clear view Shelf.store)
include lossy

theorem apply_writes (on : book.On (view t)) (mutation : Mutation) :
    ∃ after : Book, after.On (view (mutation.apply store t).2) ∧
      (book.write mutation = .ok after ∨ (after = book ∧ (mutation.apply store t).1 ≠ .done ())) := by
  rcases apply_follows lossy mutation t with ⟨same, seen, _⟩ | ⟨lost, seen, _⟩
  · cases written : book.write mutation with
    | ok after =>
        obtain ⟨world, applied, onAfter⟩ := Book.apply_done on written
        rw [seen, applied]
        exact ⟨after, onAfter, .inl rfl⟩
    | error invalid =>
        have refused := Book.apply_failed on written
        rw [same, seen, refused]
        exact ⟨book, on, .inr ⟨rfl, fun done => by cases done⟩⟩
  · rw [seen]
    refine ⟨book, on, .inr ⟨rfl, ?_⟩⟩
    intro done
    rw [done] at lost
    exact lost

variable (stores : ∀ ledger, running.service.ledger = some ledger → ledger.store = store)
include stores

theorem mutate_writes (on : book.On (view running.world)) (mutation : Mutation) :
    ∃ after : Book, after.On (view (Service.mutate mutation running).2.world) ∧
      (book.write mutation = .ok after ∨
        (after = book ∧ ((Service.mutate mutation running).1 = .done () → mutation.isIdle = true))) := by
  rcases Service.mutate_ways mutation running with ⟨error, refused⟩ | ⟨idle, done⟩ | ⟨ledger, holds, carried⟩
  · rw [refused]
    exact ⟨book, on, .inr ⟨rfl, fun done => by cases done⟩⟩
  · rw [done]
    exact ⟨book, on, .inr ⟨rfl, fun _ => idle⟩⟩
  · obtain ⟨after, onAfter, wrote⟩ := apply_writes lossy on mutation
    rw [carried, stores ledger holds]
    cases ended : mutation.apply store running.world with
    | mk outcome world =>
        rw [ended] at onAfter wrote
        cases outcome with
        | done answer => exact ⟨after, onAfter, wrote.imp_right fun lost => (lost.2 rfl).elim⟩
        | failed error =>
            exact ⟨after, onAfter, wrote.imp_right fun lost => ⟨lost.1, fun done => by cases done⟩⟩
        | aborted =>
            exact ⟨after, onAfter, wrote.imp_right fun lost => ⟨lost.1, fun done => by cases done⟩⟩

theorem decide_seen (on : book.On (view running.world)) (actor : Actor) (plugin feature : String) :
    ∃ world, (Service.decide actor plugin feature running).2 = { running with world } ∧ view world = view running.world ∧
      ∀ allowed, (Service.decide actor plugin feature running).1 = .done allowed →
        book.verdict actor plugin feature = .ok allowed := by
  have looks := Resolution.decide_observes lossy actor plugin feature
  cases holds : running.service.ledger with
  | none =>
      have idle : Service.decide actor plugin feature running = (.failed .uninitialized, running) :=
        Service.reading_none holds _
      rw [idle]
      exact ⟨running.world, rfl, rfl, fun allowed done => by cases done⟩
  | some ledger =>
      have read : Service.decide actor plugin feature running = _ := Service.reading_some holds _
      rw [read, stores ledger holds]
      refine ⟨_, rfl, looks.still running.world, ?_⟩
      intro allowed done
      rcases looks.follows running.world with ⟨same, _, _⟩ | ⟨lost, _, _⟩
      · rw [Book.decide_on on] at same
        simp only at done
        rw [done] at same
        cases verdict : book.verdict actor plugin feature with
        | ok answer => rw [verdict] at same; cases same; rfl
        | error invalid => rw [verdict] at same; cases same
      · simp only at done
        rw [done] at lost
        exact lost.elim

theorem execute_carries (on : book.On (view running.world)) (command : ChatCommand) (actor : Actor) :
    ∃ after : Book, after.On (view (command.execute actor running).2.world) ∧ book.Carries command actor after := by
  obtain ⟨world, decided, seen, agrees⟩ := decide_seen lossy stores on actor ChatCommand.plugin command.kind
  have onWorld : book.On (view world) := by
    rw [seen]
    exact on
  unfold ChatCommand.execute
  rw [bind_apply]
  cases ended : Service.decide actor ChatCommand.plugin command.kind running with
  | mk outcome middle =>
      rw [ended] at decided agrees
      cases decided
      cases outcome with
      | failed error => exact ⟨book, onWorld, .inl rfl⟩
      | aborted => exact ⟨book, onWorld, .inl rfl⟩
      | done allowed => cases allowed with
          | false => exact ⟨book, onWorld, .inl rfl⟩
          | true =>
              cases means : command.effect actor with
              | none => exact ⟨book, by simpa [means] using onWorld, .inl rfl⟩
              | some change =>
                  obtain ⟨mutation, said⟩ := change
                  have same : ∀ ledger, ({ running with world } : Running τ).service.ledger = some ledger →
                      ledger.store = store := stores
                  obtain ⟨after, onAfter, wrote⟩ := mutate_writes lossy same onWorld mutation
                  refine ⟨after, ?_, ?_⟩
                  · rw [← answer_after (Service.mutate mutation) (fun _ => said)] at onAfter
                    exact onAfter
                  · rcases wrote with written | ⟨same, _⟩
                    · exact .inr ⟨agrees true rfl, mutation, said, means, written⟩
                    · exact .inl same

theorem execute_denied (on : book.On (view running.world)) (free : clear running.world)
    {command : ChatCommand} {actor : Actor}
    (shut : book.verdict actor ChatCommand.plugin command.kind = .ok false) :
    (command.execute actor running).1 =
        (if running.service.isInitialized then .failed (.command .denied) else .failed .uninitialized) ∧
      ∃ world, (command.execute actor running).2 = { running with world } ∧ view world = view running.world := by
  cases holds : running.service.ledger with
  | none =>
      have idle : command.execute actor running = (.failed .uninitialized, running) :=
        bind_failed (Service.reading_none holds _)
      rw [idle]
      exact ⟨by simp [Service.isInitialized, holds], running.world, rfl, rfl⟩
  | some ledger =>
      have looks := Resolution.decide_observes lossy actor ChatCommand.plugin command.kind
      have read : Service.decide actor ChatCommand.plugin command.kind running = _ := Service.reading_some holds _
      have answer : (Resolution.decide store actor ChatCommand.plugin command.kind running.world).1 = .done false := by
        rcases looks.follows running.world with ⟨same, _, _⟩ | ⟨_, _, blocked⟩
        · rw [same, Book.decide_on on, shut]
          rfl
        · exact (blocked free).elim
      rw [stores ledger holds, answer] at read
      have denied : command.execute actor running = (.failed (.command .denied), _) := bind_done read
      rw [denied]
      exact ⟨by simp [Service.isInitialized, holds], _, rfl, looks.still running.world⟩

end Commands

theorem Action.Follows.clears {action : Action τ ε α} {ideal : Action σ ε α}
    (follows : Follows blamed clear view action ideal) : Keeps clear action := by
  intro t free
  rcases follows t with ⟨_, _, goesOn⟩ | ⟨_, _, blocked⟩
  · exact goesOn free
  · exact (blocked free).elim

theorem execute_clears {store : Store τ} {clear : τ → Prop} {view : τ → σ} {ideal : Store σ}
    (lossy : store.Lossy clear view ideal) (command : ChatCommand) (actor : Actor) :
    Keeps (Running.Sound store clear) (command.execute actor) := by
  refine execute_through (reading_keeps (Resolution.decide_observes lossy actor _ _).follows.clears) ?_
  exact fun mutation => mutate_through fun _ _ => locked_keeps (apply_follows lossy mutation).clears

def Running.Set (running : Running τ) : Prop := running.service.isInitialized = true

theorem reading_set (read : Store τ → Action τ Error α) : Keeps Running.Set (Service.reading read) := by
  intro running set
  cases holds : running.service.ledger with
  | none => rw [Service.reading_none holds]; exact set
  | some ledger => rw [Service.reading_some holds]; exact set

theorem locked_set (body : Store τ → Action τ Error Unit) : Keeps Running.Set (Service.locked body) := by
  intro running set
  cases holds : running.service.ledger with
  | none => rw [Service.locked_none holds]; exact set
  | some ledger => cases whole : ledger.poisoned with
      | true => rw [Service.locked_broken holds whole]; exact set
      | false =>
          rw [Service.locked_open holds whole]
          cases ended : body ledger.store running.world with
          | mk outcome world => cases outcome with
              | done answer => exact set
              | failed error => exact set
              | aborted => rfl

theorem mutate_set (mutation : Mutation) : Keeps (Running.Set (τ := τ)) (Service.mutate mutation) :=
  mutate_through fun _ _ => locked_set _

theorem registerManagement_set : Keeps (Running.Set (τ := τ)) ChatCommand.registerManagement :=
  Keeps.bind (mutate_set _) fun _ => mutate_set _

theorem execute_set (command : ChatCommand) (actor : Actor) :
    Keeps (Running.Set (τ := τ)) (command.execute actor) := execute_through (reading_set _) mutate_set

theorem init_set (store : Store τ) (superuser : Option String) : Keeps Running.Set (Service.init store superuser) := by
  intro running set
  obtain ⟨ledger, holds⟩ := Option.isSome_iff_exists.mp set
  rw [Service.init_some holds]
  exact set

theorem handle_set (store : Store τ) (asked : Request) : Keeps Running.Set (asked.handle store) := by
  cases asked with
  | init superuser => exact Keeps.bind (init_set store superuser) fun _ => Keeps.pure _
  | isInitialized => exact fun _ set => set
  | mutate mutation => exact Keeps.bind (mutate_set mutation) fun _ => Keeps.pure _
  | registerManagement => exact Keeps.bind registerManagement_set fun _ => Keeps.pure _
  | command asked actor => exact Keeps.bind (execute_set asked actor) fun _ => Keeps.pure _
  | _ => exact Keeps.bind (reading_set _) fun _ => Keeps.pure _

theorem serve_set {action : Action (Running τ) ε α} (keeps : Keeps Running.Set action) (number other : Nat)
    (fleet : Fleet τ) (set : (fleet.services other).isInitialized = true) :
    ((Fleet.serve number action fleet).2.services other).isInitialized = true := by
  simp only [Fleet.serve, Action.within]
  by_cases same : other = number
  · subst same
    rw [Function.update_self]
    exact keeps (fleet.running other) set
  · rw [Function.update_of_ne same]
    exact set

def Fleet.obey : List (Nat × ChatCommand × Actor) → Fleet σ → Fleet σ
  | [], fleet => fleet
  | (number, command, actor) :: rest, fleet => obey rest (serve number (command.execute actor) fleet).2

-- What stays true of a fleet while nothing but orders is given: the line is clear,
-- and of the tables only the overrides have moved away from where they started.
structure Fleet.Watched (store : Store τ) (clear : τ → Prop) (view : τ → Shelf) (start book : Book)
    (fleet : Fleet τ) : Prop where
  sound : fleet.Sound store clear
  on : book.On (view fleet.world)
  features : book.features = start.features
  superusers : book.superusers = start.superusers

section Orders
variable {store : Store τ} {clear : τ → Prop} {view : τ → Shelf} {fleet : Fleet τ} {start book : Book}
  (lossy : store.Lossy clear view Shelf.store)

theorem watched_guarded (watched : fleet.Watched store clear view start book) (guarded : start.Guarded) :
    book.Guarded := by
  unfold Book.Guarded
  rw [watched.features]
  exact guarded

include lossy

theorem serve_watched (watched : fleet.Watched store clear view start book) (number : Nat) (command : ChatCommand)
    (actor : Actor) : ∃ after : Book,
      (Fleet.serve number (command.execute actor) fleet).2.Watched store clear view start after ∧
        book.Carries command actor after := by
  have on : book.On (view (fleet.running number).world) := watched.on
  obtain ⟨after, onAfter, carries⟩ := execute_carries lossy (watched.sound.1 number) on command actor
  have still := serve_keeps (execute_clears lossy command actor) number fleet watched.sound
  have kept := carries.kept
  exact ⟨after, ⟨still, onAfter, kept.1.trans watched.features, kept.2.trans watched.superusers⟩, carries⟩

omit lossy in
theorem obey_set (orders : List (Nat × ChatCommand × Actor)) (number : Nat) (fleet : Fleet τ)
    (set : (fleet.services number).isInitialized = true) :
    ((fleet.obey orders).services number).isInitialized = true := by
  induction orders generalizing fleet with
  | nil => exact set
  | cons first rest ih => exact ih _ (serve_set (execute_set first.2.1 first.2.2) first.1 number fleet set)

theorem obey_watched (guarded : start.Guarded) (orders : List (Nat × ChatCommand × Actor))
    (watched : fleet.Watched store clear view start book) :
    ∃ after : Book, (fleet.obey orders).Watched store clear view start after ∧
      ((∀ order ∈ orders, order.2.2.user ∉ start.superusers.keys) →
        book.AlikeBut (fun key => ∃ order ∈ orders, order.2.1.Reaches order.2.2 key) after) := by
  -- The book moves on with the orders while the start stays: the guard and the
  -- superusers are always those of the start.
  induction orders generalizing fleet book with
  | nil => exact ⟨book, watched, fun _ => .refl _ _⟩
  | cons first rest ih =>
      obtain ⟨number, command, actor⟩ := first
      obtain ⟨middle, stepped, carries⟩ := serve_watched lossy watched number command actor
      obtain ⟨after, obeyed, late⟩ := ih stepped
      refine ⟨after, obeyed, ?_⟩
      intro plain
      have plainFirst : actor.user ∉ book.superusers.keys := by
        rw [watched.superusers]
        exact plain _ List.mem_cons_self
      have early := carries.confined (watched_guarded watched guarded) plainFirst
      refine early.trans (late fun order member => plain order (List.mem_cons_of_mem _ member)) ?_
      intro key touched
      rcases touched with here | ⟨order, member, there⟩
      · exact ⟨_, List.mem_cons_self, here⟩
      · exact ⟨order, List.mem_cons_of_mem _ member, there⟩

theorem register_writes (ready : fleet.Ready store view) {number : Nat} {later : Fleet τ}
    (registered : Fleet.serve number ChatCommand.registerManagement fleet = (.done (), later)) :
    (∃ last, ChatCommand.registerManagement (fleet.running number) = (.done (), last) ∧
      later = ⟨Function.update fleet.services number last.service, last.world⟩) ∧
    ∃ before middle after : Book,
      before.write (.updateFeature ChatCommand.plugin "group" ({} : Defaults).asUpdate) = .ok middle ∧
      middle.write (.updateFeature ChatCommand.plugin "user" ({ group := .deny, user := .deny } : Defaults).asUpdate) =
        .ok after ∧ after.On (view later.world) := by
  cases ended : ChatCommand.registerManagement (fleet.running number) with
  | mk outcome last =>
      simp only [Fleet.serve, Action.within, ended, Prod.mk.injEq] at registered
      obtain ⟨rfl, rfl⟩ := registered
      refine ⟨⟨last, rfl, rfl⟩, ?_⟩
      obtain ⟨_, between, first, second⟩ := bind_parts ended
      cases holds : (fleet.running number).service.ledger with
      | none =>
          rw [Service.mutate_none holds] at first
          cases first
      | some ledger =>
          obtain ⟨before, onBefore⟩ : Filled (view (fleet.running number).world) := ready.filled number ledger holds
          have stores : ∀ ledger, (fleet.running number).service.ledger = some ledger → ledger.store = store :=
            ready.sound.1 number
          have uses := mutate_keeps lossy kept_stable
            (.updateFeature ChatCommand.plugin "group" ({} : Defaults).asUpdate) (fleet.running number)
            ⟨stores, ready.sound.2⟩
          obtain ⟨middle, onMiddle, opened⟩ := mutate_writes lossy stores onBefore
            (.updateFeature ChatCommand.plugin "group" ({} : Defaults).asUpdate)
          rw [first] at uses onMiddle opened
          obtain ⟨after, onAfter, shut⟩ := mutate_writes lossy uses.1 onMiddle
            (.updateFeature ChatCommand.plugin "user" ({ group := .deny, user := .deny } : Defaults).asUpdate)
          rw [second] at onAfter shut
          exact ⟨before, middle, after, opened.resolve_right fun lost => (by cases lost.2 rfl),
            shut.resolve_right fun lost => (by cases lost.2 rfl), onAfter⟩

theorem register_watched (ready : fleet.Ready store view) {number : Nat} {later : Fleet τ}
    (registered : Fleet.serve number ChatCommand.registerManagement fleet = (.done (), later))
    (free : clear later.world) : (later.services number).isInitialized = true ∧
      ∃ guard : Book, later.Watched store clear view guard guard ∧ guard.Guarded := by
  have kept := serve_keeps (registerManagement_keeps lossy kept_stable) number fleet ready.sound
  have stays := serve_set registerManagement_set number number fleet
  obtain ⟨⟨last, ended, _⟩, _, _, guard, _, written, onGuard⟩ := register_writes lossy ready registered
  rw [registered] at kept stays
  have set : (fleet.services number).isInitialized = true := by
    cases holds : (fleet.running number).service.ledger with
    | none => cases ended.symm.trans (bind_failed (Service.mutate_none holds _))
    | some ledger => simp [Service.isInitialized, show (fleet.services number).ledger = some ledger from holds]
  exact ⟨stays set, guard, ⟨⟨kept.1, free⟩, onGuard, rfl, rfl⟩, Book.write_guards written⟩

end Orders

-- However the tables got to where the management was registered: from there on no
-- order changes who is a superuser or what is registered, no one else gets a user
-- command through, and no one else reaches more than one override of the own group.
theorem management_confined {E : Type} (plan : Nat → Option (Outcome Fault Empty)) (actorOf : E → Option Actor)
    (errands : List (Nat × Errand (Nat × Shelf) E)) (registrar : Nat) (fleet : Fleet (Nat × Shelf))
    (registered : Fleet.serve registrar ChatCommand.registerManagement
      (Fleet.after (Shelf.store.planned plan) actorOf errands (Fleet.start (0, Shelf.empty))) = (.done (), fleet))
    (silent : Store.Silent plan fleet.world) (orders : List (Nat × ChatCommand × Actor)) :
    let reached := fleet.obey orders
    (reached.services registrar).isInitialized = true ∧
    ∃ start book : Book, start.On fleet.world.2 ∧ book.On reached.world.2 ∧
      book.superusers = start.superusers ∧ book.features = start.features ∧
      (∀ number (command : ChatCommand) (actor : Actor), actor.user ∉ start.superusers.keys →
        let ended := Fleet.serve number (command.execute actor) reached
        (command.kind = "user" →
          ended.1 = (if (reached.services number).isInitialized then .failed (.command .denied)
            else .failed .uninitialized) ∧
          ended.2.services = reached.services ∧ ended.2.world.2 = reached.world.2) ∧
        ∃ after : Book, after.On ended.2.world.2 ∧ book.AlikeBut (command.Reaches actor) after) ∧
      ((∀ order ∈ orders, order.2.2.user ∉ start.superusers.keys) →
        start.AlikeBut (fun key => ∃ order ∈ orders, order.2.1.Reaches order.2.2 key) book) := by
  intro reached
  have lossy := Store.planned_lossy plan Shelf.select_quiet
  have begun : (Fleet.start (0, Shelf.empty)).Ready (Shelf.store.planned plan) Prod.snd :=
    ⟨⟨fun _ _ is => (nomatch is), Kept.empty⟩, fun _ _ is => (nomatch is)⟩
  have ready := after_ready lossy actorOf errands begun
  obtain ⟨set, start, watched, guarded⟩ := register_watched lossy ready registered silent
  obtain ⟨book, obeyed, confined⟩ := obey_watched lossy guarded orders watched
  have guardedNow := watched_guarded obeyed guarded
  refine ⟨obey_set orders registrar fleet set, start, book, watched.on, obeyed.on, obeyed.superusers,
    obeyed.features, ?_, confined⟩
  intro number command actor plain
  have plainNow : actor.user ∉ book.superusers.keys := by
    rw [obeyed.superusers]
    exact plain
  refine ⟨?_, ?_⟩
  · intro kind
    have shut := guardedNow.shut plainNow
    rw [← kind] at shut
    have on : book.On (reached.running number).world.2 := obeyed.on
    have free : Store.Silent plan (reached.running number).world := obeyed.sound.2
    obtain ⟨answer, world, still, seen⟩ := execute_denied lossy (obeyed.sound.1 number) on free shut
    have after := serve_after still
    refine ⟨answer, ?_, ?_⟩
    · rw [after]
      exact Function.update_eq_self _ _
    · rw [after]
      exact seen
  · obtain ⟨after, stepped, carries⟩ := serve_watched lossy obeyed number command actor
    exact ⟨after, stepped.on, carries.confined guardedNow plainNow⟩

def stumble : Nat → Option (Outcome Fault Empty)
  | 1 => some .aborted
  | _ => none

def managed : Outcome Error Unit × Fleet (Nat × Shelf) :=
  Fleet.serve 0 ChatCommand.registerManagement (Fleet.after (Shelf.store.planned stumble) (some : Actor → _)
    [(0, .request (.init none)), (0, .request (.init (some "root")))] (Fleet.start (0, Shelf.empty)))

theorem managed_silent : Store.Silent stumble managed.2.world := by
  intro number ahead
  have late : 14 ≤ number := ahead
  match number, late with
  | number + 2, _ => rfl

-- An owner opens the guard of user commands as far as a group can, and then tries
-- the door.
def attempt : List (Nat × ChatCommand × Actor) :=
  [(0, .group ⟨"permission_plugin", "user"⟩ .allow, .group "mallory" "g" .owner),
   (0, .user ⟨"permission_plugin", "user"⟩ .allow none, .group "mallory" "g" .owner)]

theorem attempt_confined :
    managed.1 = .done () ∧ Store.Silent stumble managed.2.world ∧
      isSuperuser Shelf.store "mallory" managed.2.world.2 = (.done false, managed.2.world.2) ∧
      (managed.2.obey attempt).world.2 ≠ managed.2.world.2 ∧
      (Fleet.serve 0 ((ChatCommand.user ⟨"p", "f"⟩ .allow none).execute (.alone "mallory"))
        (managed.2.obey attempt)).1 = .failed (.command .denied) := by
  have registered : managed = (.done (), managed.2) := Prod.ext rfl rfl
  have plain : isSuperuser Shelf.store "mallory" managed.2.world.2 = (.done false, managed.2.world.2) := rfl
  obtain ⟨set, start, book, onStart, _, _, _, each, _⟩ :=
    management_confined stumble some _ 0 managed.2 registered managed_silent attempt
  have outside : "mallory" ∉ start.superusers.keys := by
    intro inside
    rw [isSuperuser_on onStart.superusers "mallory", decide_eq_true inside] at plain
    cases plain
  have denied := ((each 0 (.user ⟨"p", "f"⟩ .allow none) (.alone "mallory") outside).1 rfl).1
  rw [if_pos set] at denied
  exact ⟨rfl, managed_silent, plain, by decide, denied⟩

end FeatureGate
