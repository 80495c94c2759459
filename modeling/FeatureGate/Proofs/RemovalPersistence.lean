import FeatureGate.Proofs.Revocation

namespace FeatureGate
open Table Registry FeatureGate.Action Sql

-- The decision without the bypass: superusers are looked up, and nothing comes of it.
def Resolution.unprivileged (store : Store σ) (actor : Actor) (plugin feature : String) : Action σ Error Bool := do
  Action.refuse ((emptyKey plugin feature).map .validation)
  let _ ← isSuperuser store actor.user
  match ← defaults? store plugin feature with
  | none => return false
  | some defaults => match actor with
      | .group user group role => groupDecision store plugin feature defaults user group role
      | .alone user => privateDecision store plugin feature defaults user

namespace ChatCommand

def obey (command : ChatCommand) (actor : Actor) (allowed : Bool) : Action (Running σ) Error String :=
  if !allowed then Action.fail (.command .denied)
  else match command.effect actor with
    | none => Action.fail (.command .outsideGroup)
    | some (mutation, said) => do
        Service.mutate mutation
        return said

def executeUnprivileged (command : ChatCommand) (actor : Actor) : Action (Running σ) Error String := do
  command.obey actor (← Service.reading (Resolution.unprivileged · actor plugin command.kind))

end ChatCommand

def CommandLine.Directive.actor? : CommandLine.Directive → Option Actor
  | .check actor .. | .chat actor .. => some actor
  | _ => none

def Console.carryOutUnprivileged : CommandLine.Directive → Action (Running σ) Error String
  | .check actor plugin feature => do
      return lines [(Permission.ofBool (← Service.reading (Resolution.unprivileged · actor plugin feature))).word]
  | .chat actor kind arguments => do
      ChatCommand.registerManagement
      let command ← Action.ofExcept ((ChatCommand.parse kind (" ".intercalate arguments)).mapError .command)
      return lines [← command.executeUnprivileged actor]
  | directive => carryOut directive

theorem Action.bind_onset {first first' : Action σ ε α} (same : first s = first' s) (next : α → Action σ ε β) :
    (first >>= next) s = (first' >>= next) s := by
  rw [bind_apply, bind_apply, same]

theorem Action.Leads.bind_same {first : Action σ ε α} {next next' : α → Action σ ε β} {between : α → σ → Prop}
    (leads : Leads start first between failed) (same : ∀ answer s, between answer s → next answer s = next' answer s)
    (held : start s) : (first >>= next) s = (first >>= next') s := by
  have middle := leads s held
  rw [bind_apply, bind_apply]
  cases ended : first s with
  | mk outcome s' =>
      rw [ended] at middle
      cases outcome with
      | done answer => exact same answer s' middle
      | failed error => rfl
      | aborted => rfl

section Decision
variable {user plugin feature : String} {actor : Actor} {now : Connection}

theorem decide_unprivileged (demoted : Demoted actor.user now) :
    Resolution.decide Connection.store actor plugin feature now =
      Resolution.unprivileged Connection.store actor plugin feature now := by
  have looks := isSuperuser_leads (fun after (same : after = now) => same ▸ demoted.shaped) actor.user
  have admitted : Leads (· = now) (Action.refuse ((emptyKey plugin feature).map Error.validation)) (fun _ => (· = now))
      (fun _ => True) := Leads.refuse fun _ _ => trivial
  refine admitted.bind_same (fun _ s (same : s = now) => ?_) rfl
  refine looks.bind_same (fun shown s held => ?_) same
  cases shown with
  | true => exact (demoted.unlisted (held.1 ▸ held.2 rfl)).elim
  | false => rfl

theorem service_unprivileged {running : Running Connection} (up : Up (Demoted actor.user) running) (plugin feature : String) :
    Service.decide actor plugin feature running =
      Service.reading (Resolution.unprivileged · actor plugin feature) running := by
  unfold Service.decide
  rw [Service.reading_some up.1, Service.reading_some up.1]
  rw [decide_unprivileged up.2]

theorem read_listed {cells : List Cell} (wide : cells.length = superuserForm.layout.columns.length) {shown : Row}
    (read : Connection.row? superuserForm.layout cells = some shown) (named : Row.text? shown "user_id" = some user) :
    cells[1]? = some (.text user) := by
  match cells, wide with
  | [key, name], _ =>
      cases key <;> cases name <;> cases read
      cases named
      rfl

theorem allSuperusers_unlists (user : String) : Leads (Demoted user) (allSuperusers Connection.store)
    (fun users _ => user ∉ users) (fun _ => True) := by
  intro now demoted
  rcases rowsOf_ways demoted.shaped superusers Assoc.empty with
    ⟨error, failed⟩ | ⟨layout, data, rows, known, _, there, read, looked⟩
  · rw [show allSuperusers Connection.store now = _ from bind_failed failed]
    trivial
  · rw [show allSuperusers Connection.store now = _ from bind_done looked]
    obtain rfl := declared_superusers known
    have fits := demoted.shaped.shapes _ _ known _ there
    intro member
    obtain ⟨shown, there', named⟩ := List.mem_filterMap.mp member
    obtain ⟨row, held, _, is⟩ := (select_parts (declared_catalogue.proper _ _ known) fits read).2 shown there'
    exact demoted.unlisted ⟨row, (Database.rowsUnder_held there).symm ▸ held, read_listed (fits.wide row held) is named⟩

end Decision

section Sessions
variable {actor : Actor}

theorem execute_unprivileged {running : Running Connection} (up : Up (Demoted actor.user) running) (command : ChatCommand) :
    command.execute actor running = command.executeUnprivileged actor running :=
  bind_onset (service_unprivileged up ChatCommand.plugin command.kind) (command.obey actor)

theorem carryOut_unprivileged {running : Running Connection} {directive : CommandLine.Directive}
    (asks : directive.actor? = some actor) (up : Up (Demoted actor.user) running) :
    Console.carryOut directive running = Console.carryOutUnprivileged directive running := by
  cases directive with
  | check actor plugin feature =>
      cases asks
      exact bind_onset (service_unprivileged up plugin feature) _
  | chat actor kind words =>
      cases asks
      have registers : Leads (Up (Demoted actor.user)) ChatCommand.registerManagement (fun _ => Up (Demoted actor.user))
          (fun running => Demoted actor.user running.world) := registerManagement_holds fun _ _ _ => apply_unlists nofun
      have reads : Leads (Up (Demoted actor.user))
          (Action.ofExcept ((ChatCommand.parse kind (" ".intercalate words)).mapError Error.command))
          (fun _ => Up (Demoted actor.user)) (fun running => Demoted actor.user running.world) :=
        Leads.ofExcept (fun _ held => held.2) fun _ _ _ => id
      exact registers.bind_same (fun _ _ up => reads.bind_same (fun command _ up =>
        bind_onset (execute_unprivileged up command) _) up) up
  | _ => cases asks

theorem session_unprivileged {superuser : Option String} {directive : CommandLine.Directive} {now : Connection}
    (unseeded : superuser ≠ some actor.user) (asks : directive.actor? = some actor) (demoted : Demoted actor.user now) :
    Console.session Connection.store superuser directive ⟨{}, now⟩ =
      (Service.init Connection.store superuser >>= fun _ => Console.carryOutUnprivileged directive) ⟨{}, now⟩ :=
  (init_leads (setUp_unlists superuser unseeded)).bind_same (fun _ _ up => carryOut_unprivileged asks up) ⟨rfl, demoted⟩

end Sessions

theorem listing_unlists {superuser : Option String} {user : String} (unseeded : superuser ≠ some user) :
    Leads (fun running => running.service.ledger = none ∧ Demoted user running.world)
      (Console.session Connection.store superuser .listSuperusers)
      (fun text _ => ∃ users, text = Console.superuserList users ∧ user ∉ users) (fun _ => True) := by
  have reads : Leads (Up (Demoted user)) (Service.reading allSuperusers) (fun users => Up fun _ => user ∉ users)
      (fun _ => True) := @reading_leads _ (fun _ => True) _ _ _ (allSuperusers_unlists user)
  refine Leads.bind ((init_leads (setUp_unlists superuser unseeded)).imp (fun _ => id) (fun _ _ => id) fun _ _ => trivial)
    fun _ => ?_
  exact Leads.bind reads fun users => Leads.pure fun _ held => ⟨users, rfl, held.2⟩

namespace Console
open CommandLine

section Database
variable {superuser : Option String} {directive : Directive} {content : Database} {user : String}

theorem onDatabase_done {start failed : Running Connection → Prop} {done : String → Running Connection → Prop}
    (leads : Leads start (session Connection.store superuser directive) done failed)
    (held : start ⟨{}, { database := content }⟩)
    (well : (Report.ofOutcome (onDatabase superuser directive content).1).code = 0) :
    ∃ text running, done text running ∧ running.world.database = (onDatabase superuser directive content).2 ∧
      Report.ofOutcome (onDatabase superuser directive content).1 = .printed text := by
  rcases onDatabase_ways leads held with ⟨text, running, is, ends⟩ | ⟨problem, running, is, _⟩
  · exact ⟨text, running, ends, by rw [is], by rw [is]; rfl⟩
  · rw [is] at well
    cases well

def onDatabaseUnprivileged (superuser : Option String) (directive : Directive) (database : Sql.Database) :
    Outcome Problem String × Sql.Database :=
  let result := (Service.init Connection.store superuser >>= fun _ => carryOutUnprivileged directive) ⟨{}, { database }⟩
  (result.1.mapError .permission, result.2.world.database)

theorem Demoted.reopened {now : Connection} (demoted : Demoted user now) : Demoted user { database := now.database } :=
  ⟨⟨demoted.shaped.apart, demoted.shaped.shapes, nofun⟩, demoted.unlisted⟩

theorem onDatabase_unprivileged {actor : Actor} (demoted : Demoted actor.user { database := content })
    (unseeded : superuser ≠ some actor.user) (asks : directive.actor? = some actor) :
    onDatabase superuser directive content = onDatabaseUnprivileged superuser directive content := by
  unfold onDatabase onDatabaseUnprivileged
  rw [session_unprivileged unseeded asks demoted]

theorem onDatabase_demotes (demoted : Demoted user { database := content }) (unseeded : superuser ≠ some user)
    (ungranted : directive = .addSuperuser user → (Report.ofOutcome (onDatabase superuser directive content).1).code ≠ 0) :
    Demoted user { database := (onDatabase superuser directive content).2 } := by
  rcases onDatabase_ways (session_unlists unseeded directive) ⟨rfl, demoted⟩ with
    ⟨text, running, is, ends⟩ | ⟨problem, running, is, kept⟩
  · rw [is] at ungranted ⊢
    rcases ends with asked | kept
    · exact (ungranted asked rfl).elim
    · exact Demoted.reopened kept
  · rw [is]
    exact Demoted.reopened kept

end Database

namespace Files
variable {user : String} {place : List String} {files : Files}

-- A run makes the user a superuser in the database at this place: at its start, as the
-- settings want it, or because it is asked to and goes well.
def Grants (files : Files) (arguments : List String) (place : List String) (user : String) : Prop :=
  ∃ invocation, Invocation.parse arguments = .ok invocation ∧ files.place? invocation = some place ∧
    (files.seed? invocation = some user ∨
      invocation.directive = .addSuperuser user ∧ (files.run arguments).1.code = 0)

-- What runs make of a tree of files while none of them grants the user anything at this
-- place. Between the runs everything else may change, the settings included.
inductive Since (user : String) (place : List String) (origin : Files) : Files → Prop where
  | start : Since user place origin origin
  | run {files : Files} (since : Since user place origin files) (arguments : List String)
      (ungranted : ¬files.Grants arguments place user) : Since user place origin (files.run arguments).2
  | edit {files edited : Files} (since : Since user place origin files)
      (kept : edited.contentAt place = files.contentAt place) : Since user place origin edited

theorem run_demotes (demoted : Demoted user { database := files.contentAt place })
    (ungranted : ¬files.Grants arguments place user) :
    Demoted user { database := (files.run arguments).2.contentAt place } := by
  cases parsed : Invocation.parse arguments with
  | error ending =>
      rw [run_unparsed parsed]
      exact demoted
  | ok invocation =>
      rcases run_ways parsed files with
        ⟨problem, after, ran, same⟩ | ⟨after, _, ran, same⟩ | ⟨place', after, stands, ran, contents⟩
      · rw [ran]
        exact same ▸ demoted
      · rw [ran]
        exact same ▸ demoted
      · rw [ran]
        show Demoted user { database := after.contentAt place }
        rw [contents]
        split
        · rename_i here
          subst here
          refine onDatabase_demotes demoted (fun seeded => ungranted ⟨invocation, parsed, stands, .inl seeded⟩)
            fun asked well => ungranted ⟨invocation, parsed, stands, .inr ⟨asked, ?_⟩⟩
          rw [ran]
          exact well
        · exact demoted

theorem Since.demoted {origin : Files} (since : Since user place origin files)
    (demoted : Demoted user { database := origin.contentAt place }) :
    Demoted user { database := files.contentAt place } := by
  induction since with
  | start => exact demoted
  | run _ arguments ungranted ih => exact run_demotes ih ungranted
  | edit _ kept ih => exact kept ▸ ih

theorem run_well (parsed : Invocation.parse arguments = .ok invocation) (stands : files.place? invocation = some place)
    (well : (files.run arguments).1.code = 0) :
    ∃ after, files.run arguments =
        (.ofOutcome (onDatabase (files.seed? invocation) invocation.directive (files.contentAt place)).1, after) ∧
      after.contentAt place = (onDatabase (files.seed? invocation) invocation.directive (files.contentAt place)).2 := by
  rcases run_ways parsed files with
    ⟨problem, after, ran, _⟩ | ⟨after, nowhere, _⟩ | ⟨place', after, stands', ran, contents⟩
  · rw [ran] at well
    cases well
  · cases nowhere.symm.trans stands
  · obtain rfl : place' = place := Option.some.inj (stands'.symm.trans stands)
    refine ⟨after, ran, ?_⟩
    rw [contents, if_pos rfl]

structure Unfavoured (files : Files) (arguments : List String) (place : List String) (invocation : Invocation)
    (user : String) : Prop where
  unlisted : invocation.directive = .listSuperusers → (files.run arguments).1.code = 0 →
    ∃ users, (files.run arguments).1 = .printed (superuserList users) ∧ user ∉ users
  undecided : ∀ actor, invocation.directive.actor? = some actor → actor.user = user →
    onDatabase (files.seed? invocation) invocation.directive (files.contentAt place) =
      onDatabaseUnprivileged (files.seed? invocation) invocation.directive (files.contentAt place)
  answered : ∀ actor, invocation.directive.actor? = some actor → actor.user = user → (files.run arguments).1.code = 0 →
    (files.run arguments).1 = .ofOutcome
      (onDatabaseUnprivileged (files.seed? invocation) invocation.directive (files.contentAt place)).1

theorem demoted_unfavoured (parsed : Invocation.parse arguments = .ok invocation)
    (stands : files.place? invocation = some place) (unseeded : files.seed? invocation ≠ some user)
    (demoted : Demoted user { database := files.contentAt place }) :
    files.Unfavoured arguments place invocation user := by
  have undecided (actor : Actor) (asks : invocation.directive.actor? = some actor) (same : actor.user = user) :
      onDatabase (files.seed? invocation) invocation.directive (files.contentAt place) =
        onDatabaseUnprivileged (files.seed? invocation) invocation.directive (files.contentAt place) := by
    subst same
    exact onDatabase_unprivileged demoted unseeded asks
  refine ⟨fun asks well => ?_, undecided, fun actor asks same well => ?_⟩
  · obtain ⟨_, ran, _⟩ := run_well parsed stands well
    rw [ran, asks] at well ⊢
    obtain ⟨_, _, ⟨users, rfl, out⟩, _, said⟩ := onDatabase_done (listing_unlists unseeded) ⟨rfl, demoted⟩ well
    exact ⟨users, said, out⟩
  · obtain ⟨_, ran, _⟩ := run_well parsed stands well
    rw [ran, undecided actor asks same]

-- Whoever was removed by a run that went well stays removed, whatever is run on the
-- database, until a run grants it again. No run that does not seed the user knows better.
theorem removal_lasts {later : Files} (shaped : Connection.Shaped Declared { database := files.contentAt place })
    (parsed : Invocation.parse arguments = .ok invocation) (asks : invocation.directive = .removeSuperuser user)
    (stands : files.place? invocation = some place) (well : (files.run arguments).1.code = 0)
    (since : Since user place (files.run arguments).2 later) :
    (files.run arguments).1 = .printed (lines [user ++ " is not a superuser"]) ∧
      ¬(later.contentAt place).Lists user ∧
      ∀ arguments invocation, Invocation.parse arguments = .ok invocation → later.place? invocation = some place →
        later.seed? invocation ≠ some user → later.Unfavoured arguments place invocation user := by
  obtain ⟨after, ran, content⟩ := run_well parsed stands well
  rw [ran] at well since ⊢
  rw [asks] at well content ⊢
  obtain ⟨_, running, ⟨demoted, rfl⟩, is, said⟩ :=
    onDatabase_done (removal_demotes (files.seed? invocation) user) ⟨rfl, shaped⟩ well
  have kept : Demoted user { database := later.contentAt place } := by
    refine since.demoted ?_
    rw [content, ← is]
    exact Demoted.reopened demoted
  exact ⟨said, kept.unlisted, fun _ _ parsed' stands' unseeded => demoted_unfavoured parsed' stands' unseeded kept⟩

def dismissal : List String := ["-d", "perm.db", "superuser", "remove", "root"]

def promotion : List String := ["-d", "perm.db", "superuser", "add", "eve"]

theorem root_dismissed :
    let later := ((ajar.run dismissal).2.run promotion).2
    (ajar.run dismissal).1 = .printed "root is not a superuser\n" ∧ ¬(later.contentAt ["perm.db"]).Lists "root" ∧
      later.Unfavoured ["-d", "perm.db", "superuser", "list"] ["perm.db"] ⟨none, some "perm.db", .listSuperusers⟩ "root" := by
  have shaped : Connection.Shaped Declared { database := ajar.contentAt ["perm.db"] } := worn_shaped
  have parsed : Invocation.parse dismissal = .ok ⟨none, some "perm.db", .removeSuperuser "root"⟩ := by decide +kernel
  have promotes : Invocation.parse promotion = .ok ⟨none, some "perm.db", .addSuperuser "eve"⟩ := by decide +kernel
  have since : Since "root" ["perm.db"] (ajar.run dismissal).2 ((ajar.run dismissal).2.run promotion).2 := by
    refine .run .start _ ?_
    rintro ⟨invocation, same, _, granted⟩
    cases promotes.symm.trans same
    rcases granted with seeded | ⟨asked, _⟩
    · have seedless : (ajar.run dismissal).2.seed? ⟨none, some "perm.db", .addSuperuser "eve"⟩ = none := by decide +kernel
      cases seedless.symm.trans seeded
    · exact absurd asked (by decide)
  obtain ⟨said, unlisted, rest⟩ := removal_lasts shaped parsed rfl (by decide +kernel) (by decide +kernel) since
  exact ⟨said, unlisted, rest _ _ (by decide +kernel) (by decide +kernel) (by decide +kernel)⟩

def reseeding : Files := { nodes := [(["gatekeeper.toml"], .text "superuser = \"u\"\n")] }

theorem removed_returns :
    let removed := reseeding.run ["-d", "perm.db", "superuser", "remove", "u"]
    removed.1 = .printed "u is not a superuser\n" ∧
      (removed.2.run ["-d", "perm.db", "superuser", "list"]).1 = .printed "u\n" := by
  decide +kernel

end Files
end Console
end FeatureGate
