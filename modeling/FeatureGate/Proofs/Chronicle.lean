import FeatureGate.Proofs.Fleet
import FeatureGate.Proofs.History

namespace FeatureGate
open Table Registry FeatureGate.Action

def Request.deeds : Request → History
  | .init (some user) => [.setSuperuser user]
  | .mutate mutation => [mutation]
  | .registerManagement =>
      [.updateFeature ChatCommand.plugin "group" ⟨some .allow, some .allow, some .allow⟩,
        .updateFeature ChatCommand.plugin "user" ⟨some .allow, some .deny, some .deny⟩]
  | .command (.group target state) (.group _ own _) =>
      [.updateGroup target.plugin target.feature own state]
  | .command (.user target state named) actor =>
      [.updateUser target.plugin target.feature (named.getD actor.user) state]
  | _ => []

def Errand.deeds : Errand σ E → History
  | .request asked => asked.deeds
  | .generate maker feature => [.updateFeature maker.plugin feature maker.defaults.asUpdate]
  | _ => []

def Outcome.counted (deeds : History) : Outcome ε α → History
  | .done _ => deeds
  | _ => []

def Fleet.chronicle (store : Store σ) (actorOf : E → Option Actor) :
    List (Nat × Errand σ E) → Fleet σ → History
  | [], _ => []
  | (number, errand) :: rest, fleet =>
      (step store actorOf number errand fleet).1.counted errand.deeds ++
        chronicle store actorOf rest (step store actorOf number errand fleet).2

def Told (past : History) (shelf : Shelf) : Prop := ∃ book : Book, book.On shelf ∧ book.Tells past

def Running.Open (past : History) (running : Running Shelf) : Prop :=
  Told past running.world ∧ ∀ ledger, running.service.ledger = some ledger → ledger = { store := Shelf.store }

def Records (deeds : History) (action : Action (Running Shelf) Error α) : Prop :=
  ∀ past running, running.Open past →
    (action running).2.Open (past ++ (action running).1.counted deeds)

section Records
variable {past : History} {running : Running Shelf}

theorem Records.still {action : Action (Running Shelf) Error α}
    (still : ∀ past running, running.Open past → (action running).2 = running) : Records [] action := by
  intro past running opened
  have nothing : (action running).1.counted [] = [] := by cases (action running).1 <;> rfl
  rw [nothing, still past running opened, List.append_nil]
  exact opened

theorem answer_records {action : Action (Running Shelf) Error α} (f : α → β)
    (step : (action running).2.Open (past ++ (action running).1.counted deeds)) :
    ((action >>= fun answer => Pure.pure (f answer)) running).2.Open
      (past ++ ((action >>= fun answer => Pure.pure (f answer)) running).1.counted deeds) := by
  have same : ((action running).1.map f).counted deeds = (action running).1.counted deeds := by
    cases (action running).1 <;> rfl
  rw [answer_apply, same]
  exact step

theorem Records.answer {action : Action (Running Shelf) Error α} (records : Records deeds action) (f : α → β) :
    Records deeds (action >>= fun answer => Pure.pure (f answer)) :=
  fun past running opened => answer_records f (records past running opened)

theorem open_failed {action : Action (Running Shelf) Error α} (opened : running.Open past)
    (failed : action running = (.failed error, running)) :
    (action running).2.Open (past ++ (action running).1.counted deeds) := by
  rw [failed]
  simpa [Outcome.counted] using opened

theorem reading_still {read : Store Shelf → Action Shelf Error α} (quiet : Quiet (read Shelf.store))
    (opened : running.Open past) : (Service.reading read running).2 = running := by
  cases holds : running.service.ledger with
  | none => rw [Service.reading_none holds]
  | some ledger =>
      rw [Service.reading_some holds, opened.2 ledger holds, quiet running.world]

theorem Records.reading {read : Store Shelf → Action Shelf Error α} (quiet : Quiet (read Shelf.store)) :
    Records [] (Service.reading read) :=
  Records.still fun _ _ opened => reading_still quiet opened

theorem shelf_lossy : (Shelf.store.planned fun _ => none).Lossy (Store.Silent fun _ => none) Prod.snd Shelf.store :=
  Store.planned_lossy _ Shelf.select_quiet

theorem createTables_on {book : Book} {shelf : Shelf} (on : book.On shelf) :
    createTables Shelf.store shelf = (.done (), shelf) := by
  refine (bind_done (mapError_done (Form.createTable_held on.features))).trans ?_
  refine (bind_done (mapError_done (Form.createTable_held on.groups))).trans ?_
  refine (bind_done (mapError_done (Form.createTable_held on.users))).trans ?_
  exact (bind_done (mapError_done (Form.createTable_held on.superusers))).trans rfl

theorem apply_told {shelf : Shelf} (told : Told past shelf) {mutation : Mutation} (busy : mutation.isIdle = false) :
    ∃ world, mutation.apply Shelf.store shelf = (.done (), world) ∧ Told (past ++ [mutation]) world := by
  obtain ⟨book, on, tells⟩ := told
  obtain ⟨after, written, tellsAfter⟩ := tells.write busy
  obtain ⟨world, applied, onAfter⟩ := Book.apply_done on written
  exact ⟨world, applied, after, onAfter, tellsAfter⟩

theorem mutate_done (opened : running.Open past) {mutation : Mutation} (holds : running.service.ledger = some ledger)
    (right : mutation.invalid = none) :
    ∃ world, Service.mutate mutation running = (.done (), { running with world }) ∧
      Told (past ++ [mutation]) world := by
  rw [Service.mutate_begun holds right]
  by_cases idle : mutation.isIdle = true
  · obtain ⟨book, on, tells⟩ := opened.1
    rw [if_pos idle]
    exact ⟨running.world, rfl, book, on, tells.idle idle⟩
  · obtain ⟨world, applied, told⟩ := apply_told opened.1 (by simpa using idle)
    have ideal := opened.2 ledger holds
    rw [if_neg idle, Service.locked_open holds (by rw [ideal]), ideal, applied]
    exact ⟨world, rfl, told⟩

theorem mutate_records (mutation : Mutation) : Records [mutation] (Service.mutate mutation) := by
  intro past running opened
  cases holds : running.service.ledger with
  | none => exact open_failed opened (Service.mutate_none holds mutation)
  | some ledger =>
      cases right : mutation.invalid with
      | some invalid => exact open_failed opened (Service.mutate_refused holds right)
      | none =>
          obtain ⟨world, done, told⟩ := mutate_done opened holds right
          rw [done]
          exact ⟨told, opened.2⟩

-- Of the two updates the second goes through whenever the first did.
theorem registerManagement_records :
    Records Request.registerManagement.deeds ChatCommand.registerManagement := by
  intro past running opened
  cases holds : running.service.ledger with
  | none => exact open_failed opened (bind_failed (Service.mutate_none holds _))
  | some ledger =>
      obtain ⟨middle, first, told⟩ := mutate_done opened holds
        (show (Mutation.updateFeature ChatCommand.plugin "group" ({} : Defaults).asUpdate).invalid = none from rfl)
      have still : Running.Open _ { running with world := middle } := ⟨told, opened.2⟩
      obtain ⟨last, second, toldLast⟩ := mutate_done still holds
        (show (Mutation.updateFeature ChatCommand.plugin "user"
          ({ group := .deny, user := .deny } : Defaults).asUpdate).invalid = none from rfl)
      have done : ChatCommand.registerManagement running = (.done (), { running with world := last }) :=
        (bind_done first).trans second
      rw [done]
      refine ⟨?_, opened.2⟩
      rw [List.append_assoc] at toldLast
      exact toldLast

theorem generate_records {E : Type} (actorOf : E → Option Actor) (maker : Generator Shelf E) (feature : String) :
    Records [.updateFeature maker.plugin feature maker.defaults.asUpdate]
      (Service.generate actorOf maker feature) := by
  intro past running opened
  cases holds : running.service.ledger with
  | none => exact open_failed opened (bind_failed (Service.mutate_none holds _))
  | some ledger =>
      cases right : emptyKey maker.plugin feature with
      | some invalid => exact open_failed opened (bind_failed (Service.mutate_refused holds right))
      | none =>
          obtain ⟨world, first, told⟩ := mutate_done opened holds
            (show (Mutation.updateFeature maker.plugin feature maker.defaults.asUpdate).invalid = none from right)
          have handed : Service.checker actorOf maker.plugin feature { running with world } =
              (.done (Rule.of fun event => Rule.allows ledger.store maker.plugin feature (actorOf event)),
                { running with world }) := by
            have kept : ({ running with world } : Running Shelf).service.ledger = some ledger := holds
            refine (bind_done (Service.held_some kept)).trans ?_
            rw [right]
            rfl
          have done : ∃ rule, Service.generate actorOf maker feature running = (.done rule, { running with world }) :=
            ⟨_, (bind_done first).trans (bind_done handed)⟩
          obtain ⟨rule, done⟩ := done
          rw [done]
          exact ⟨told, opened.2⟩

theorem effect_deeds {command : ChatCommand} {actor : Actor} (means : command.effect actor = some (mutation, said)) :
    (Request.command command actor).deeds = [mutation] := by
  cases command with
  | group target state => cases actor with
      | group user own role => cases means; rfl
      | alone user => cases means
  | user target state named => cases means; cases actor <;> rfl

theorem execute_records (command : ChatCommand) (actor : Actor) :
    Records (Request.command command actor).deeds (command.execute actor) := by
  intro past running opened
  have quiet := (Resolution.decide_observes shelf_lossy actor ChatCommand.plugin command.kind).quiet
  have still : (Service.decide actor ChatCommand.plugin command.kind running).2 = running :=
    reading_still quiet opened
  unfold ChatCommand.execute
  rw [bind_apply]
  cases ended : Service.decide actor ChatCommand.plugin command.kind running with
  | mk outcome after =>
      rw [ended] at still
      cases still
      cases outcome with
      | failed error => simpa [Outcome.counted] using opened
      | aborted => simpa [Outcome.counted] using opened
      | done allowed => cases allowed with
          | false => simpa [Outcome.counted] using opened
          | true =>
              cases means : command.effect actor with
              | none => simpa [Outcome.counted, means] using opened
              | some change =>
                  obtain ⟨mutation, said⟩ := change
                  rw [effect_deeds means]
                  exact (mutate_records mutation).answer _ past after opened

theorem createTables_records : Records [] (Service.reading (createTables (σ := Shelf))) := by
  refine Records.still fun past running opened => ?_
  obtain ⟨book, on, _⟩ := opened.1
  cases holds : running.service.ledger with
  | none => rw [Service.reading_none holds]
  | some ledger =>
      rw [Service.reading_some holds, opened.2 ledger holds, createTables_on on]

theorem init_opens {shelf : Shelf} (unset : running.service.ledger = none)
    (created : createTables Shelf.store running.world = (.done (), shelf)) (told : Told past shelf)
    (superuser : Option String) :
    (Service.init Shelf.store superuser running).2.Open
      (past ++ (Service.init Shelf.store superuser running).1.counted (Request.init superuser).deeds) := by
  have set : ∀ ledger : Ledger Shelf, some { store := Shelf.store } = some ledger → ledger = { store := Shelf.store } :=
    fun _ same => (Option.some.inj same).symm
  have ideal : ∀ ledger, running.service.ledger = some ledger → ledger = { store := Shelf.store } := by
    intro ledger holds
    rw [unset] at holds
    cases holds
  cases superuser with
  | none =>
      have done : Service.setUp Shelf.store none running.world = (.done (), shelf) := bind_done created
      rw [Service.init_none unset done]
      refine ⟨?_, set⟩
      simpa [Outcome.counted, Request.deeds] using told
  | some user =>
      have next : Service.setUp Shelf.store (some user) running.world = _ := bind_done created
      cases wrong : emptyName .userId user with
      | some invalid =>
          have failed : Service.setUp Shelf.store (some user) running.world =
              (.failed (.validation invalid), shelf) := by
            rw [next]
            simp only [Mutation.invalid, wrong]
            rfl
          rw [Service.init_none unset failed]
          refine ⟨?_, ideal⟩
          simpa [Outcome.counted] using told
      | none =>
          obtain ⟨world, applied, toldAfter⟩ := apply_told told (show (Mutation.setSuperuser user).isIdle = false from rfl)
          have done : Service.setUp Shelf.store (some user) running.world = (.done (), world) := by
            rw [next]
            simp only [Mutation.invalid, wrong]
            exact applied
          rw [Service.init_none unset done]
          exact ⟨toldAfter, set⟩

theorem init_records (superuser : Option String) :
    Records (Request.init superuser).deeds (Service.init Shelf.store superuser) := by
  intro past running opened
  cases holds : running.service.ledger with
  | some ledger => exact open_failed opened (Service.init_some holds _ _)
  | none =>
      obtain ⟨book, on, tells⟩ := opened.1
      exact init_opens holds (createTables_on on) ⟨book, on, tells⟩ superuser

theorem handle_records (asked : Request) : Records asked.deeds (asked.handle Shelf.store) := by
  cases asked with
  | init superuser => exact (init_records superuser).answer _
  | isInitialized => exact Records.still fun _ _ _ => rfl
  | createTables => exact createTables_records.answer _
  | mutate mutation => exact (mutate_records mutation).answer _
  | isSuperuser user => exact (Records.reading (isSuperuser_observes shelf_lossy user).quiet).answer _
  | superusers => exact (Records.reading (allSuperusers_observes shelf_lossy).quiet).answer _
  | defaults plugin feature =>
      exact (Records.reading (defaults?_observes shelf_lossy plugin feature).quiet).answer _
  | groupOverride plugin feature group =>
      exact (Records.reading (state?_observes shelf_lossy groups (groupKey plugin feature group)).quiet).answer _
  | userOverride plugin feature user =>
      exact (Records.reading (state?_observes shelf_lossy users (userKey plugin feature user)).quiet).answer _
  | features => exact (Records.reading (allFeatures_observes shelf_lossy).quiet).answer _
  | decide actor plugin feature =>
      exact (Records.reading (Resolution.decide_observes shelf_lossy actor plugin feature).quiet).answer _
  | isAdmin actor => exact (Records.reading (Resolution.isAdmin_observes shelf_lossy actor).quiet).answer _
  | registerManagement => exact registerManagement_records.answer _
  | command asked actor => exact (execute_records asked actor).answer _

theorem perform_records {E : Type} (actorOf : E → Option Actor) (errand : Errand Shelf E) :
    Records errand.deeds (errand.perform Shelf.store actorOf) := by
  cases errand with
  | request asked => exact (handle_records asked).answer _
  | checker plugin feature =>
      refine Records.answer (Records.still fun past running opened => ?_) _
      have kept : Keeps (· = running) (Service.checker actorOf plugin feature) := checker_keeps actorOf plugin feature
      exact kept running rfl
  | generator plugin defaults gate =>
      refine Records.answer (Records.still fun past running opened => ?_) _
      have kept : Keeps (· = running) (Service.generator plugin defaults gate) := generator_keeps plugin defaults gate
      exact kept running rfl
  | generate maker feature => exact (generate_records actorOf maker feature).answer _

end Records

section Run
variable {E : Type} {past : History} {fleet : Fleet Shelf}

def Fleet.Open (past : History) (fleet : Fleet Shelf) : Prop :=
  Told past fleet.world ∧
    ∀ number ledger, (fleet.services number).ledger = some ledger → ledger = { store := Shelf.store }

def Fleet.Recorded (past : History) (fleet : Fleet Shelf) : Prop :=
  (past = [] ∧ fleet = Fleet.start Shelf.empty) ∨ fleet.Open past

theorem serve_open {action : Action (Running Shelf) Error α} (number : Nat)
    (others : ∀ other ledger, (fleet.services other).ledger = some ledger → ledger = { store := Shelf.store })
    (opened : (action (fleet.running number)).2.Open past) : (Fleet.serve number action fleet).2.Open past :=
  ⟨opened.1, Fleet.serve_each (P := fun service => ∀ ledger, service.ledger = some ledger → ledger = { store := Shelf.store })
    others opened.2⟩

theorem step_recorded (actorOf : E → Option Actor) (number : Nat) (errand : Errand Shelf E)
    (recorded : fleet.Recorded past) :
    (Fleet.step Shelf.store actorOf number errand fleet).2.Recorded
      (past ++ (Fleet.step Shelf.store actorOf number errand fleet).1.counted errand.deeds) := by
  rcases recorded with ⟨rfl, rfl⟩ | opened
  · have unset : ((Fleet.start Shelf.empty).running number).service.ledger = none := rfl
    rcases Errand.perform_none unset Shelf.store actorOf errand with failed | ⟨rfl, done⟩ | ⟨superuser, rfl⟩
    · unfold Fleet.step
      rw [Fleet.serve_still number failed]
      exact .inl ⟨rfl, rfl⟩
    · unfold Fleet.step
      rw [Fleet.serve_still number done]
      exact .inl ⟨rfl, rfl⟩
    · have told : Told [] ({} : Book).shelf := ⟨{}, Book.shelf_on {}, Book.Tells.empty⟩
      have opened := init_opens unset (show createTables Shelf.store Shelf.empty = (.done (), ({} : Book).shelf) from rfl)
        told superuser
      exact .inr (serve_open number (fun _ _ is => (nomatch is)) (answer_records _ (answer_records _ opened)))
  · have step := perform_records actorOf errand past (fleet.running number) ⟨opened.1, opened.2 number⟩
    exact .inr (serve_open number opened.2 step)

theorem after_recorded (actorOf : E → Option Actor) (errands : List (Nat × Errand Shelf E))
    (recorded : fleet.Recorded past) :
    (Fleet.after Shelf.store actorOf errands fleet).Recorded
      (past ++ Fleet.chronicle Shelf.store actorOf errands fleet) := by
  induction errands generalizing fleet past with
  | nil =>
      rw [Fleet.chronicle, List.append_nil]
      exact recorded
  | cons first rest ih =>
      obtain ⟨number, errand⟩ := first
      have later := ih (step_recorded actorOf number errand recorded)
      rw [List.append_assoc] at later
      exact later

def Fleet.answers (fleet : Fleet Shelf) (number : Nat) (response : Response) : Outcome Error Response × Fleet Shelf :=
  if (fleet.services number).isInitialized then (.done response, fleet) else (.failed .uninitialized, fleet)

theorem reading_recorded (recorded : fleet.Recorded past) (number : Nat) {read : Store Shelf → Action Shelf Error α}
    (reads : ∀ book : Book, book.On fleet.world → book.Tells past →
      read Shelf.store fleet.world = (.done answer, fleet.world)) (f : α → Response) :
    Fleet.serve number (Service.reading read >>= fun answer => Pure.pure (f answer)) fleet =
      fleet.answers number (f answer) := by
  unfold Fleet.answers
  cases holds : (fleet.services number).ledger with
  | none =>
      have unset : (fleet.running number).service.ledger = none := holds
      rw [Fleet.serve_still number (bind_failed (Service.reading_none unset read))]
      simp [Service.isInitialized, holds]
  | some ledger =>
      rcases recorded with ⟨rfl, rfl⟩ | opened
      · cases holds
      · obtain ⟨book, on, tells⟩ := opened.1
        have set : (fleet.running number).service.ledger = some ledger := holds
        have read_world : Service.reading read (fleet.running number) = (.done answer, fleet.running number) := by
          rw [Service.reading_some set, opened.2 number ledger holds]
          exact congrArg (fun ended : Outcome Error α × Shelf => (ended.1, Running.mk _ ended.2)) (reads book on tells)
        rw [Fleet.serve_still number ((bind_done read_world).trans rfl)]
        simp [Service.isInitialized, holds]

end Run

-- Whatever was asked of any number of services over one store that began empty,
-- rightly or wrongly: each reading, asked of whichever service, answers with what
-- the list of changes that were done dictates, and changes nothing.
theorem run_history {E : Type} (actorOf : E → Option Actor) (errands : List (Nat × Errand Shelf E)) :
    let fleet := Fleet.after Shelf.store actorOf errands (Fleet.start Shelf.empty)
    let past := Fleet.chronicle Shelf.store actorOf errands (Fleet.start Shelf.empty)
    let ask := fun number (asked : Request) => Fleet.serve number (asked.handle Shelf.store) fleet
    (past.roster.Nodup ∧ ∀ user, user ∈ past.roster ↔ past.standing user = true) ∧
      (past.registered.Nodup ∧ ∀ key, key ∈ past.registered ↔ past.updates key ≠ []) ∧
      ∀ number,
        (∀ user, ask number (.isSuperuser user) = fleet.answers number (.truth (past.standing user))) ∧
        ask number .superusers = fleet.answers number (.names past.roster) ∧
        (∀ plugin feature, ask number (.defaults plugin feature) =
          fleet.answers number (.defaults (past.defaults? (plugin, feature)))) ∧
        ask number .features = fleet.answers number (.entries past.entries) ∧
        (∀ plugin feature group, ask number (.groupOverride plugin feature group) =
          fleet.answers number (.permission (past.last? (·.groupState? (plugin, feature, group))))) ∧
        ∀ plugin feature user, ask number (.userOverride plugin feature user) =
          fleet.answers number (.permission (past.last? (·.userState? (plugin, feature, user)))) := by
  intro fleet past ask
  have recorded : fleet.Recorded past := after_recorded actorOf errands (.inl ⟨rfl, rfl⟩)
  refine ⟨⟨History.roster_nodup past, fun user => History.mem_roster⟩,
    ⟨History.registered_nodup past, fun key => History.mem_registered⟩, ?_⟩
  intro number
  refine ⟨?_, ?_, ?_, ?_, ?_, ?_⟩
  · intro user
    refine reading_recorded recorded number (fun book on tells => ?_) _
    rw [isSuperuser_on on.superusers user, tells.superusers]
    simp only [History.mem_roster, Bool.decide_eq_true]
  · refine reading_recorded recorded number (fun book on tells => ?_) _
    rw [allSuperusers_on on.superusers, tells.superusers]
  · intro plugin feature
    refine reading_recorded recorded number (fun book on tells => ?_) _
    rw [defaults?_on on.features plugin feature, tells.defaults?_read]
    rfl
  · refine reading_recorded recorded number (fun book on tells => ?_) _
    rw [allFeatures_on on.features, tells.entries_read]
    rfl
  · intro plugin feature group
    refine reading_recorded recorded number (fun book on tells => ?_) _
    rw [groupOverride?_on on.groups plugin feature group, permission?_told (tells.groups _)]
    rfl
  · intro plugin feature user
    refine reading_recorded recorded number (fun book on tells => ?_) _
    rw [userOverride?_on on.users plugin feature user, permission?_told (tells.users _)]
    rfl

end FeatureGate
