import FeatureGate.Proofs.Upkeep

namespace FeatureGate
open Table Registry FeatureGate.Action Sql

namespace Sql

def Database.under (database : Database) (declared : String × Layout) : TableData :=
  (database.table? declared.1).getD { name := declared.1, columns := declared.2.columns }

namespace Database
variable {database after : Database}

theorem createTable_tables (created : database.createTable name columns = .ok after) :
    ∀ other, after.table? other = (database.table? other).or
      (if sameName other name then some { name := name, columns := columns } else none) := by
  intro other
  unfold createTable at created
  split at created
  · cases created
  split at created
  · cases created
    rename_i held
    by_cases same : sameName other name = true
    · obtain ⟨data, there⟩ := Option.isSome_iff_exists.mp held
      rw [table?_congr same, there, Option.some_or]
    · rw [if_neg same, Option.or_none]
  split at created
  · cases created
  · cases created
    exact table?_append other _

theorem createTable_rows (created : database.createTable name columns = .ok after) :
    after.rowsUnder = database.rowsUnder := by
  funext other
  unfold rowsUnder
  rw [createTable_tables created]
  cases database.table? other with
  | some data => rfl
  | none =>
      rw [Option.none_or]
      split <;> rfl

theorem createTable_under (member : Declared name layout)
    (created : database.createTable name layout.columns = .ok after) (known : declared ∈ Registry.tables) :
    after.under declared = database.under declared := by
  unfold under
  rw [createTable_tables created]
  cases database.table? declared.1 with
  | some data => rfl
  | none =>
      rw [Option.none_or]
      split
      · obtain ⟨same, alike⟩ := declared_catalogue.apart _ _ _ _ known member ‹_›
        rw [same, alike]
        rfl
      · rfl

theorem withTable_held {data : TableData} (held : database.table? table = some data) :
    (database.withTable data).table? = database.table? := by
  funext name
  rw [table?_withTable held rfl]
  split
  · rw [table?_congr ‹_›, held]
  · rfl

end Database

namespace Connection
variable {seen : Database → β}

def rowsUnder (name : String) (connection : Connection) : List Stored := connection.database.rowsUnder name

def under (declared : String × Layout) (connection : Connection) : TableData := connection.database.under declared

theorem checked_still (view : Connection → β) (table : String) (fault : Layout → Option Fault) :
    Still view (checked table fault) := by
  intro connection
  unfold checked
  split
  · rfl
  · split <;> rfl

theorem run_spares (seen : Database → β) (statement : Statement) (values : List Value) :
    Spares (seen ∘ Connection.database) (run statement values) := by
  intro connection
  rcases run_ways statement values connection with ⟨fault, failed⟩ | ⟨reply, database, _, done⟩
  · rw [failed]
    exact .inr rfl
  · rw [done]
    exact .inl ⟨reply, rfl⟩

theorem run_still {statement : Statement} {values : List Value} (still : ∀ database reply after,
    Database.run.attempt statement values database = .ok (reply, after) → seen after = seen database) :
    Still (seen ∘ Connection.database) (run statement values) := by
  intro connection
  rcases run_ways statement values connection with ⟨fault, failed⟩ | ⟨reply, database, ended, done⟩
  · rw [failed]
  · rw [done]
    exact still _ _ _ ended

theorem select_still (table : String) (filter : Row) :
    Still (Database.table? ∘ Connection.database) (Connection.store.select table filter) := by
  refine Still.bind (checked_still _ _ _) fun layout => Still.bind (run_still fun database reply after ended => ?_) ?_
  · obtain ⟨data, later, held, stepped, rfl⟩ := onTable_parts ended
    cases stepped
    exact Database.withTable_held held
  · intro reply
    split <;> exact fun _ => rfl

theorem steady_of (seen : (String → Option TableData) → β)
    (creates : ∀ declared ∈ Registry.tables, ∀ database after : Database,
      database.createTable declared.1 declared.2.columns = .ok after → seen after.table? = seen database.table?) :
    Connection.store.Steady (seen ∘ Database.table? ∘ Connection.database) := by
  refine ⟨fun declared member => ?_, fun table row => ?_, fun table assignment filter => ?_, fun table filter => ?_,
    fun table filter => (select_still table filter).through seen⟩
  · refine Still.bind (Still.refuse _) fun _ => Still.bind (@run_still _ (seen ∘ Database.table?) _ _
      fun database reply after ended => ?_) fun _ _ => rfl
    obtain ⟨created, done, is⟩ := Database.map_parts ended
    cases is
    exact creates declared member _ _ done
  · exact Spares.bind (checked_still _ _ _) fun _ => (run_spares (seen ∘ Database.table?) _ _).answer fun _ => ()
  · refine Spares.bind (checked_still _ _ _) fun _ => ?_
    split
    · exact fun _ => .inr rfl
    · exact (run_spares (seen ∘ Database.table?) _ _).answer countOf
  · exact Spares.bind (checked_still _ _ _) fun _ => (run_spares (seen ∘ Database.table?) _ _).answer countOf

theorem rows_steady (name : String) : Connection.store.Steady (rowsUnder name) :=
  steady_of (fun tables => ((tables name).map TableData.rows).getD []) fun _ _ _ _ created =>
    congrFun (Database.createTable_rows created) name

theorem under_steady (known : declared ∈ Registry.tables) : Connection.store.Steady (under declared) :=
  steady_of (fun tables => (tables declared.1).getD { name := declared.1, columns := declared.2.columns })
    fun _ member _ _ created => Database.createTable_under member created known

theorem perform_elsewhere {call : Call} (writes : call.Writes table) (apart : sameName name table = false) :
    Still (fun connection : Connection => connection.database.table? name) (Connection.store.perform call) := by
  show Still ((·.table? name) ∘ Connection.database) _
  have away {database : Database} {data later : TableData} (held : database.table? table = some data)
      (grows : later.name = data.name) : (database.withTable later).table? name = database.table? name := by
    rw [Database.table?_withTable held grows, apart]
    rfl
  cases call with
  | createTable held layout => exact writes.elim
  | select held filter => exact writes.elim
  | insert held row =>
      obtain rfl := writes
      refine Still.bind (Still.bind (checked_still _ _ _) fun _ => Still.bind (run_still fun database reply after ended => ?_)
        fun _ _ => rfl) fun _ _ => rfl
      obtain ⟨data, later, there, stepped, rfl⟩ := onTable_parts ended
      obtain ⟨_, inserted, is⟩ := Database.map_parts stepped
      cases is
      exact away there (TableData.insert_grows inserted).1
  | update held assignment filter =>
      obtain rfl := writes
      refine Still.bind (Still.bind (checked_still _ _ _) fun _ => ?_) fun _ _ => rfl
      split
      · exact fun _ => rfl
      · refine Still.bind (run_still fun database reply after ended => ?_) fun _ _ => rfl
        obtain ⟨data, later, there, stepped, rfl⟩ := onTable_parts ended
        obtain ⟨_, updated, is⟩ := Database.map_parts stepped
        cases is
        exact away there (TableData.update_grows updated).1
  | delete held filter =>
      obtain rfl := writes
      refine Still.bind (Still.bind (checked_still _ _ _) fun _ => Still.bind (run_still fun database reply after ended => ?_)
        fun _ _ => rfl) fun _ _ => rfl
      obtain ⟨data, later, there, stepped, rfl⟩ := onTable_parts ended
      cases stepped
      exact away there rfl

theorem agrees_of_alive {action : Action σ ε α} (alive : ∀ s, (action s).1 ≠ .aborted) :
    Action.Agrees Eq (fun _ => False) action action := by
  refine ⟨?_, fun _ => id⟩
  rintro s _ rfl
  exact .inr ⟨rfl, alive s, rfl⟩

theorem checked_alive (table : String) (fault : Layout → Option Fault) :
    Action.Agrees Eq (fun _ => False) (checked table fault) (checked table fault) := by
  refine agrees_of_alive fun connection => ?_
  unfold checked
  split
  · exact nofun
  · split <;> exact nofun

theorem run_alive (statement : Statement) (values : List Value) :
    Action.Agrees Eq (fun _ => False) (run statement values) (run statement values) := by
  refine agrees_of_alive fun connection => ?_
  rcases run_ways statement values connection with ⟨fault, failed⟩ | ⟨reply, database, _, done⟩
  · rw [failed]
    exact nofun
  · rw [done]
    exact nofun

theorem store_alive : Connection.store.Agrees Eq (fun _ => False) Declared Connection.store where
  createTable table layout _ :=
    Agrees.bind (Agrees.refuse _) fun _ => Agrees.bind (run_alive _ _) fun _ => agrees_of_alive fun _ => nofun
  insert table row _ := Agrees.bind (checked_alive _ _) fun _ => Agrees.bind (run_alive _ _) fun _ => Agrees.pure _
  update table assignment filter _ := Agrees.bind (checked_alive _ _) fun _ =>
    Agrees.choose (Agrees.pure _) (Agrees.bind (run_alive _ _) fun _ => Agrees.pure _)
  delete table filter := Agrees.bind (checked_alive _ _) fun _ => Agrees.bind (run_alive _ _) fun _ => Agrees.pure _
  select table filter := by
    refine Agrees.bind (checked_alive _ _) fun layout => Agrees.bind (run_alive _ _) fun reply => ?_
    cases rows? layout reply with
    | some rows => exact Agrees.pure _
    | none => exact Agrees.fail _

end Connection
end Sql

theorem apply_apart {mutation : Mutation} (apart : sameName name mutation.table = false) :
    Still (fun connection : Connection => connection.database.table? name) (mutation.apply Connection.store) :=
  apply_elsewhere (fun table filter => (Connection.select_still table filter).through (· name)) fun _ writes =>
    Connection.perform_elsewhere writes apart

theorem apply_rows {mutation : Mutation} (apart : sameName name mutation.table = false) :
    Still (Connection.rowsUnder name) (mutation.apply Connection.store) :=
  (apply_apart apart).through fun table => (table.map TableData.rows).getD []

section Leading
variable {view : Connection → β} (good : β → Prop)

theorem leads_of_spares {action : Action Connection ε α} (spares : Spares view action)
    (alive : Action.Agrees Eq (fun _ => False) action action) :
    Leads (good ∘ view) action (fun _ _ => True) (good ∘ view) := by
  intro s held
  rcases alive.alike s s rfl with never | ⟨_, alive, _⟩
  · exact never.elim
  · have ends := spares s
    cases ended : action s with
    | mk outcome after =>
        rw [ended] at ends alive
        cases outcome with
        | done answer => trivial
        | failed error =>
            rcases ends with ⟨_, done⟩ | still
            · cases done
            · show good (view after)
              rw [show view after = view s from still]
              exact held
        | aborted => exact (alive rfl).elim

theorem leads_of_still {action : Action Connection ε α} (still : Still view action)
    (alive : Action.Agrees Eq (fun _ => False) action action) :
    Leads (good ∘ view) action (fun _ => good ∘ view) (good ∘ view) := by
  intro s held
  have kept : good (view (action s).2) := (still s).symm ▸ held
  rcases alive.alike s s rfl with never | ⟨_, alive, _⟩
  · exact never.elim
  · cases ended : action s with
    | mk outcome after =>
        rw [ended] at kept alive
        cases outcome with
        | done answer => exact kept
        | failed error => exact kept
        | aborted => exact (alive rfl).elim

end Leading

section Console
variable {β : Type} {view : Connection → β} (steady : Connection.store.Steady view) (good : β → Prop)
include steady

theorem lasting_steady : Lasting (good ∘ view) := fun selecting =>
  leads_of_still good (selecting.unseen _ view steady) (selecting _ _ Connection.store_alive.select)

theorem apply_leads (mutation : Mutation) :
    Leads (good ∘ view) (mutation.apply Connection.store) (fun _ _ => True) (good ∘ view) :=
  leads_of_spares good (apply_spares steady.reads steady.inserts steady.updates steady.deletes mutation)
    (apply_agrees Connection.store_alive mutation)

-- A directive that fails is not seen by whoever does not see the defaults that it may
-- have written down before.
theorem carryOut_spares {directive : CommandLine.Directive} (calm : directive.defines = false ∨
      ∀ plugin feature update, Still view ((Mutation.updateFeature plugin feature update).apply Connection.store)) :
    Leads (Up (good ∘ view)) (Console.carryOut directive) (fun _ _ => True) (fun running => good (view running.world)) :=
  (carryOut_leads (lasting_steady steady good) (fun mutation _ => apply_leads steady good mutation)
    (calm.imp_right fun still _ _ _ => leads_of_still good (still _ _ _) (apply_agrees Connection.store_alive _))).imp
    (fun _ => id) (fun _ _ _ => trivial) fun _ => id

omit steady in
theorem setUp_still (steady : Connection.store.Steady view)
    (apart : ∀ user, Still view ((Mutation.setSuperuser user).apply Connection.store)) (superuser : Option String) :
    Still view (Service.setUp Connection.store superuser) := by
  refine Still.bind (createTables_still steady) fun _ => ?_
  cases superuser with
  | none => exact fun _ => rfl
  | some user => exact Still.bind (Still.refuse _) fun _ => apart user

theorem session_spares (apart : ∀ user, Still view ((Mutation.setSuperuser user).apply Connection.store))
    (superuser : Option String) (directive : CommandLine.Directive) (calm : directive.defines = false ∨
      ∀ plugin feature update, Still view ((Mutation.updateFeature plugin feature update).apply Connection.store)) :
    Leads (fun running => running.service.ledger = none ∧ good (view running.world))
      (Console.session Connection.store superuser directive) (fun _ _ => True)
      (fun running => good (view running.world)) := by
  have begins := leads_of_still good (setUp_still steady apart superuser) (setUp_agrees Connection.store_alive superuser)
  exact Leads.bind (init_leads begins) fun _ => carryOut_spares steady good calm

end Console

def Seeded (seed : Option String) (before after : TableData) : Prop :=
  after = before ∨ ∃ user, seed = some user ∧ before.insert (superuserKey user).pairs = .ok after

def Registry.standing : String × Layout := (superusers, superuserForm.layout)

theorem Registry.standing_declared : standing ∈ Registry.tables := .tail _ (.tail _ (.tail _ (.head _)))

theorem insert_standing (user : String) (before : TableData) :
    Leads (fun now => now.under standing = before) (Connection.insert superusers (superuserKey user))
      (fun _ now => Seeded (some user) before (now.under standing)) (fun now => now.under standing = before) := by
  intro now held
  rcases Connection.checked_ways superusers (·.insertFault superusers (superuserKey user)) _ now with
    ⟨fault, failed⟩ | ⟨layout, _, _, goesOn⟩
  · rw [show Connection.insert superusers (superuserKey user) now = _ from failed]
    exact held
  rcases Connection.run_ways (.insert superusers (superuserKey user).names) (superuserKey user).values now with
    ⟨fault, failed⟩ | ⟨reply, _, ended, ran⟩
  · rw [show Connection.insert superusers (superuserKey user) now = _ from goesOn.trans (bind_failed failed)]
    exact held
  · rw [show Connection.insert superusers (superuserKey user) now = _ from goesOn.trans (bind_done ran)]
    obtain ⟨data, later, there, stepped, rfl⟩ := Connection.onTable_parts ended
    rw [zip_pairs] at stepped
    obtain ⟨_, inserted, is⟩ := Database.map_parts stepped
    cases is
    have is : data = before := by
      rw [← held]
      simp [Connection.under, Database.under, standing, there]
    refine .inr ⟨user, rfl, ?_⟩
    rw [← is, inserted]
    simp [Connection.under, Database.under, standing, Database.table?_withTable there (TableData.insert_grows inserted).1,
      sameName_refl]

theorem setUp_standing (superuser : Option String) (before : TableData) :
    Leads (fun now => now.under standing = before) (Service.setUp Connection.store superuser)
      (fun _ now => Seeded superuser before (now.under standing)) (fun now => now.under standing = before) := by
  have steady := Connection.under_steady standing_declared
  refine Leads.bind (leads_of_still (· = before) (createTables_still steady) (createTables_agrees Connection.store_alive))
    fun _ => ?_
  cases superuser with
  | none => exact Leads.pure fun _ => .inl
  | some user =>
      refine Leads.bind (Leads.refuse fun _ => id) fun _ => ?_
      refine Leads.bind (leads_of_still (· = before) (steady.reads superusers (superuserKey user))
        (Connection.store_alive.select superusers (superuserKey user)) |>.mapError Error.store) fun rows => ?_
      exact Leads.choose (fun _ => (insert_standing user before).mapError _) fun _ => Leads.pure fun _ => .inl

-- Of the superusers a failing run leaves everything but, maybe, that the one of the
-- settings has become one.
theorem session_standing (superuser : Option String) (directive : CommandLine.Directive) (before : TableData) :
    Leads (fun running => running.service.ledger = none ∧ running.world.under standing = before)
      (Console.session Connection.store superuser directive) (fun _ _ => True)
      (fun running => Seeded superuser before (running.world.under standing)) := by
  refine Leads.bind ((init_leads (setUp_standing superuser before)).imp (fun _ => id) (fun _ _ => id) fun _ => .inl) fun _ => ?_
  have apart : sameName superusers features = false := by decide +kernel
  have calm (plugin feature : String) (update : Update) : Still (Connection.under standing)
      ((Mutation.updateFeature plugin feature update).apply Connection.store) :=
    (apply_apart apart).through (·.getD { name := superusers, columns := superuserForm.layout.columns })
  exact carryOut_spares (Connection.under_steady standing_declared) (Seeded superuser before) (.inr calm)

end FeatureGate
