import FeatureGate.Console.Run
import FeatureGate.Proofs.OverridePreservation

namespace FeatureGate
open Table Registry FeatureGate.Action Sql

section Decision
variable {seed : Option String} {before : Database}

theorem updateUser_leads (plugin feature user : String) (state : Permission) : Leads (Course seed before)
    ((Mutation.updateUser plugin feature user state).apply Connection.store) (fun _ _ => True) (Course seed before) := by
  intro now course
  have separate : Separate (userKey plugin feature user) (stateCells state) := by
    refine separate_of_names ?_
    show ["plugin", "feature", "user_id", "state"].Nodup
    decide
  have fresh : "id" ∉ ((userKey plugin feature user).assign (stateCells state)).names := by
    show "id" ∉ ["plugin", "feature", "user_id", "state"]
    decide
  have change : "id" ∉ (stateCells state).names := by
    show "id" ∉ ["state"]
    decide
  rcases writeUnder_ways course.shaped users separate rfl fresh change with
    ⟨error, failed⟩ | ⟨_, _, _, _, _, _, _, _, _, _, done⟩
  · rw [show (Mutation.updateUser plugin feature user state).apply Connection.store now = _ from failed]
    exact course
  · rw [show (Mutation.updateUser plugin feature user state).apply Connection.store now = _ from done]
    trivial

-- Where both kill switches are shut only a superuser gets through, and a superuser
-- is one who was listed from the start or who was seeded.
theorem decide_leads (actor : Actor) (plugin feature : String) {defaults : Defaults} (group : defaults.group = .deny)
    (user : defaults.user = .deny) :
    Leads (fun now => Course seed before now ∧ Shows plugin feature defaults now)
      (Resolution.decide Connection.store actor plugin feature)
      (fun allowed now => Course seed before now ∧ (allowed = true → seed = some actor.user ∨ before.Lists actor.user))
      (Course seed before) := by
  have looks := isSuperuser_leads
    (fun now (held : Course seed before now ∧ Shows plugin feature defaults now) => held.1.shaped) actor.user
  refine Leads.bind (Leads.refuse fun now held => held.1) fun _ => ?_
  refine Leads.bind (looks.imp (fun _ => id) (fun _ _ => id) fun now held => held.1) fun listed => ?_
  refine Leads.choose (fun yes => Leads.pure fun now held => ?_) fun _ => ?_
  · exact ⟨held.1.1, fun _ => held.1.1.spared.lists (held.2 yes)⟩
  · rintro now ⟨⟨course, shows⟩, _⟩
    rcases defaults?_ways course.shaped plugin feature with
      ⟨error, failed⟩ | ⟨layout, data, rows, found, known, _, there, read, first, looked⟩
    · rw [bind_failed failed]
      exact course
    · rw [bind_done looked]
      cases found with
      | none => exact ⟨course, nofun⟩
      | some held =>
          obtain rfl := shows_first course.shaped shows known there read first
          cases actor with
          | group _ own role =>
              simp only [Resolution.groupDecision, group]
              exact ⟨course, nofun⟩
          | alone _ =>
              simp only [Resolution.privateDecision, user]
              exact ⟨course, nofun⟩

end Decision

def Up (good : Connection → Prop) (running : Running Connection) : Prop :=
  running.service.ledger = some { store := Connection.store } ∧ good running.world

section Services
variable {start failed : Connection → Prop}

theorem reading_leads {read : Store Connection → Action Connection Error α} {done : α → Connection → Prop}
    (reads : Leads start (read Connection.store) done failed) :
    Leads (Up start) (Service.reading read) (fun answer => Up (done answer)) (failed ·.world) := by
  rintro running ⟨holds, held⟩
  have ends := reads running.world held
  rw [Service.reading_some holds]
  cases ended : read Connection.store running.world with
  | mk outcome world =>
      rw [ended] at ends
      cases outcome with
      | done answer => exact ⟨holds, ends⟩
      | failed error => exact ends
      | aborted => exact ends

theorem mutate_leads {mutation : Mutation} {done : Connection → Prop} (spared : ∀ now, start now → failed now)
    (busy : mutation.isIdle = false)
    (writes : Leads start (mutation.apply Connection.store) (fun _ => done) failed) :
    Leads (Up start) (Service.mutate mutation) (fun _ => Up done) (failed ·.world) := by
  rintro running ⟨holds, held⟩
  cases right : mutation.invalid with
  | some invalid =>
      rw [Service.mutate_refused holds right]
      exact spared _ held
  | none =>
      have ends := writes running.world held
      rw [Service.mutate_begun holds right, busy, if_neg Bool.false_ne_true, Service.locked_open holds rfl]
      cases ended : mutation.apply Connection.store running.world with
      | mk outcome world =>
          rw [ended] at ends
          cases outcome with
          | done answer => exact ⟨holds, ends⟩
          | failed error => exact ends
          | aborted => exact ends

theorem init_leads {superuser : Option String} {done : Connection → Prop}
    (sets : Leads start (Service.setUp Connection.store superuser) (fun _ => done) failed) :
    Leads (fun running => running.service.ledger = none ∧ start running.world)
      (Service.init Connection.store superuser) (fun _ => Up done) (failed ·.world) := by
  rintro running ⟨holds, held⟩
  have ends := sets running.world held
  cases ended : Service.setUp Connection.store superuser running.world with
  | mk outcome world =>
      rw [ended] at ends
      rw [Service.init_none holds ended]
      cases outcome with
      | done answer => exact ⟨rfl, ends⟩
      | failed error => exact ends
      | aborted => exact ends

end Services

def Barred (seed : Option String) (before : Database) (now : Connection) : Prop :=
  Course seed before now ∧ Shows ChatCommand.plugin "user" { group := .deny, user := .deny } now

section Chat
variable {seed : Option String} {before : Database}

theorem setUp_leads (superuser : Option String) : Leads (Course none before)
    (Service.setUp Connection.store superuser) (fun _ => Course superuser before) (Course none before) := by
  refine Leads.bind createTables_leads fun _ => ?_
  cases superuser with
  | none => exact Leads.pure fun _ => id
  | some user => exact Leads.bind (Leads.refuse fun _ => id) fun _ => setSuperuser_leads user

-- The guard is put back in each of its rows before anything is decided.
theorem registerManagement_leads : Leads (Up (Course seed before)) ChatCommand.registerManagement
    (fun _ => Up (Barred seed before)) (Course seed before ·.world) := by
  refine Leads.bind (mutate_leads (fun _ => id) rfl ((updateFeature_leads _ _ _).imp (fun _ => id)
    (fun _ _ => And.left) fun _ => id)) fun _ => ?_
  refine mutate_leads (fun _ => id) rfl ((updateFeature_leads _ _ _).imp (fun _ => id) ?_ fun _ => id)
  rintro _ now ⟨course, base, shows⟩
  rw [Defaults.apply_asUpdate] at shows
  exact ⟨course, shows⟩

theorem execute_leads {command : ChatCommand} (kind : command.kind = "user") (actor : Actor) :
    Leads (Up (Barred seed before)) (command.execute actor)
      (fun _ _ => seed = some actor.user ∨ before.Lists actor.user)
      (Course seed before ·.world) := by
  cases command with
  | group target state => simp [ChatCommand.kind] at kind
  | user target state named =>
      refine Leads.bind (reading_leads (decide_leads actor _ _ rfl rfl)) fun allowed => ?_
      refine Leads.choose (fun _ => Leads.fail (fun running held => held.2.1) _) fun open_ => ?_
      have writes : Leads (Up (Course seed before)) _ (fun _ => Up fun _ => True) (Course seed before ·.world) :=
        mutate_leads (fun _ => id) rfl (updateUser_leads target.plugin target.feature (named.getD actor.user) state)
      have through : allowed = true := by simpa using open_
      refine Leads.bind (Leads.imp (Leads.knowing (fun _ : seed = some actor.user ∨ before.Lists actor.user => writes))
        (fun running held => ⟨⟨held.1, held.2.1⟩, held.2.2 through⟩) (fun _ _ => And.right) (fun _ => id)) fun _ => ?_
      exact Leads.pure fun _ => id

theorem parse_kind (read : (ChatCommand.parse kind text).mapError Error.command = .ok command) :
    command.kind = kind := by
  unfold ChatCommand.parse at read
  generalize Text.words text = words at read
  cases words with
  | nil => cases read
  | cons target rest => cases rest with
      | nil => cases read
      | cons level more =>
          simp only [ChatCommand.ofWords] at read
          repeat' split at read
          all_goals cases read
          all_goals
            rename_i same
            exact same.symm

-- A user command that goes well was given by a superuser. One that does not go well
-- may have seeded the superuser, and that is all.
theorem session_leads (superuser : Option String) (actor : Actor) (words : List String) :
    Leads (fun running => running.service.ledger = none ∧ Course none before running.world)
      (Console.session Connection.store superuser (.chat actor "user" words))
      (fun _ _ => superuser = some actor.user ∨ before.Lists actor.user)
      (fun running => Spared superuser before running.world.database) := by
  have spared (running : Running Connection) (held : Course superuser before running.world) :
      Spared superuser before running.world.database := held.spared
  have begins := (init_leads (setUp_leads superuser)).imp (fun _ => id) (fun _ _ => id)
    fun running (held : Course none before running.world) => held.spared.unseeded superuser
  have reads : Leads (Up (Barred superuser before))
      (Action.ofExcept ((ChatCommand.parse "user" (" ".intercalate words)).mapError Error.command))
      (fun command running => Up (Barred superuser before) running ∧ command.kind = "user")
      (fun running => Spared superuser before running.world.database) :=
    Leads.ofExcept (fun running held => held.2.1.spared) fun command running read held => ⟨held, parse_kind read⟩
  refine Leads.bind begins fun _ => ?_
  refine Leads.bind (registerManagement_leads.imp (fun _ => id) (fun _ _ => id) spared) fun _ => ?_
  refine Leads.bind reads fun command => ?_
  refine Leads.bind ((Leads.knowing fun kind => execute_leads kind actor).imp (fun _ => id) (fun _ _ => And.left)
    spared) fun _ => ?_
  exact Leads.pure fun _ => id

end Chat

namespace Console
variable {paired : σ → τ → Prop} {spent : τ → Prop} {one : Store σ} {other : Store τ}
  (agree : one.Agrees paired spent Declared other)
include agree

theorem carryOut_agrees (directive : CommandLine.Directive) :
    Action.Agrees (Running.Paired one other paired) (Running.Sound other spent) (carryOut directive)
      (carryOut directive) := by
  have shows (plugin feature : String) (asJson : Bool) : Action.Agrees (Running.Paired one other paired)
      (Running.Sound other spent) (printDefaults plugin feature asJson) (printDefaults plugin feature asJson) :=
    Agrees.bind (reading_agrees (defaults?_agrees agree.select plugin feature)) fun _ => Agrees.pure _
  cases directive with
  | addSuperuser user => exact Agrees.bind (mutate_agrees agree _) fun _ => Agrees.pure _
  | removeSuperuser user => exact Agrees.bind (mutate_agrees agree _) fun _ => Agrees.pure _
  | listSuperusers => exact Agrees.bind (reading_agrees (allSuperusers_agrees agree.select)) fun _ => Agrees.pure _
  | setDefaults plugin feature update =>
      exact Agrees.choose (Agrees.pure _) (Agrees.bind (mutate_agrees agree _) fun _ => shows plugin feature false)
  | showDefaults plugin feature asJson => exact shows plugin feature asJson
  | listFeatures asJson =>
      exact Agrees.bind (reading_agrees (allFeatures_agrees agree.select)) fun _ => Agrees.pure _
  | overrideGroup target group state => exact Agrees.bind (mutate_agrees agree _) fun _ => Agrees.pure _
  | overrideUser target user state => exact Agrees.bind (mutate_agrees agree _) fun _ => Agrees.pure _
  | check actor plugin feature =>
      exact Agrees.bind (Service.decide_agrees agree.select actor plugin feature) fun _ => Agrees.pure _
  | chat actor kind words =>
      refine Agrees.bind (Agrees.bind (mutate_agrees agree _) fun _ => mutate_agrees agree _) fun _ => ?_
      have reads : Action.Agrees (Running.Paired one other paired) (Running.Sound other spent)
          (Action.ofExcept ((ChatCommand.parse kind (" ".intercalate words)).mapError Error.command))
          (Action.ofExcept ((ChatCommand.parse kind (" ".intercalate words)).mapError Error.command)) := by
        cases ChatCommand.parse kind (" ".intercalate words) with
        | ok command => exact Agrees.pure _
        | error problem => exact Agrees.fail _
      exact Agrees.bind reads fun command => Agrees.bind (execute_agrees agree command actor) fun _ => Agrees.pure _

theorem session_agrees (superuser : Option String) (directive : CommandLine.Directive) :
    Action.Agrees (Running.Paired one other paired) (Running.Sound other spent) (session one superuser directive)
      (session other superuser directive) :=
  Agrees.bind (init_agrees agree superuser) fun _ => carryOut_agrees agree directive

end Console

theorem Leads.agrees {good : σ → Prop} {action : Action σ ε α} (leads : Leads good action (fun _ => good) good) :
    Action.Agrees (fun s t => s = t ∧ good s) (fun _ => False) action action := by
  refine ⟨?_, fun _ => id⟩
  rintro s _ ⟨rfl, held⟩
  have ends := leads s held
  cases ended : action s with
  | mk outcome after =>
      rw [ended] at ends
      cases outcome with
      | done answer => exact .inr ⟨rfl, nofun, rfl, ends⟩
      | failed error => exact .inr ⟨rfl, nofun, rfl, ends⟩
      | aborted => exact ends.elim

theorem store_alike : Connection.store.Agrees (fun now after => now = after ∧ now.Shaped Declared) (fun _ => False)
    Declared Connection.store where
  createTable table layout known := by
    refine Leads.agrees fun now shaped => ?_
    rcases Connection.createTable_ways declared_catalogue shaped known with ⟨fault, failed⟩ | ⟨after, fits, done, _⟩
    · rw [show Connection.store.createTable table layout now = _ from failed]
      exact shaped
    · rw [show Connection.store.createTable table layout now = _ from done]
      exact fits
  insert table row writable := by
    refine Leads.agrees fun now shaped => ?_
    rcases Connection.insert_ways declared_catalogue shaped table row writable with
      ⟨fault, failed⟩ | ⟨layout, data, number, later, known, held, named, fits, _, _, _, done⟩
    · rw [show Connection.store.insert table row now = _ from failed]
      exact shaped
    · rw [show Connection.store.insert table row now = _ from done]
      exact shaped.exchange declared_catalogue known held named fits
  update table assignment filter writable := by
    refine Leads.agrees fun now shaped => ?_
    rcases Connection.update_ways declared_catalogue shaped table assignment filter writable with
      ⟨fault, failed⟩ | ⟨_, done⟩ | ⟨layout, data, later, count, known, held, named, fits, _, _, done⟩
    · rw [show Connection.store.update table assignment filter now = _ from failed]
      exact shaped
    · rw [show Connection.store.update table assignment filter now = _ from done]
      exact shaped
    · rw [show Connection.store.update table assignment filter now = _ from done]
      exact shaped.exchange declared_catalogue known held named fits
  delete table filter := by
    refine Leads.agrees fun now shaped => ?_
    rcases Connection.delete_ways shaped table filter with ⟨fault, failed⟩ | ⟨layout, data, count, known, held, done⟩
    · rw [show Connection.store.delete table filter now = _ from failed]
      exact shaped
    · rw [show Connection.store.delete table filter now = _ from done]
      obtain ⟨named, fits⟩ := delete_rows (shaped.shapes _ _ known _ held) filter.pairs
      exact shaped.exchange declared_catalogue known held named fits
  select table filter := by
    refine Leads.agrees fun now shaped => ?_
    rcases Connection.select_ways shaped table filter with ⟨fault, failed⟩ | ⟨layout, data, rows, _, _, _, _, done⟩
    · rw [show Connection.store.select table filter now = _ from failed]
      exact shaped
    · rw [show Connection.store.select table filter now = _ from done]
      exact shaped

theorem session_shaped (superuser : Option String) (directive : CommandLine.Directive) {now : Connection}
    (shaped : now.Shaped Declared) :
    (Console.session Connection.store superuser directive ⟨{}, now⟩).1 ≠ .aborted ∧
      (Console.session Connection.store superuser directive ⟨{}, now⟩).2.world.Shaped Declared := by
  rcases (Console.session_agrees store_alike superuser directive).alike _ _ (.fresh ⟨rfl, shaped⟩) with
    ⟨_, nothing⟩ | ⟨_, alive, still⟩
  · exact nothing.elim
  · refine ⟨alive, ?_⟩
    generalize (Console.session Connection.store superuser directive ⟨{}, now⟩).2 = after at still
    cases still with
    | fresh worlds => exact worlds.2
    | set worlds => exact worlds.2

end FeatureGate
