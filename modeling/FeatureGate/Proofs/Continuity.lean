import FeatureGate.Proofs.Backends
import FeatureGate.Proofs.Escalation

namespace FeatureGate
open Table Registry FeatureGate.Action Sql

inductive Turn where
  | ask (asked : Request)
  | restart (superuser : Option String)
deriving DecidableEq, Repr

namespace Turn

def onFile : Turn → Action (Running Connection) Error Response
  | ask asked => asked.handle Connection.store
  | restart superuser => fun running =>
      (Request.init superuser).handle Connection.store ⟨{}, running.world.reopened⟩

-- In memory nobody ever restarts. All that is left of a restart is that its superuser
-- becomes one.
def inMemory : Turn → Action (Running Shelf) Error Response
  | ask asked => asked.handle Shelf.store
  | restart none => Pure.pure .nothing
  | restart (some user) => (Request.mutate (.setSuperuser user)).handle Shelf.store

end Turn

theorem declared_catalogue : Catalogue Declared := by
  have free : ∀ one ∈ tables, Database.createTable.isReserved one.1 = false := by decide +kernel
  have apart : ∀ one ∈ tables, ∀ other ∈ tables, sameName one.1 other.1 = true → one = other := by decide +kernel
  refine ⟨fun table layout known => free (table, layout) known, ?_, ?_⟩
  · intro a b one other known known' same
    exact Prod.mk.inj (apart (a, one) known (b, other) known' same)
  · intro table layout known
    simp only [Declared, tables, List.mem_cons, List.not_mem_nil, or_false, Prod.mk.injEq] at known
    rcases known with ⟨_, rfl⟩ | ⟨_, rfl⟩ | ⟨_, rfl⟩ | ⟨_, rfl⟩ <;>
      exact ⟨by decide +kernel, by decide +kernel, by decide +kernel, by decide +kernel⟩

theorem service_agrees : Shelf.store.Agrees (Paired Declared) Connection.Spent Declared Connection.store :=
  store_agrees declared_catalogue

theorem present_on [DecidableEq κ] {form : Form κ ν} (on : form.On page shelf) : Present form.table shelf := by
  rw [Present, show shelf.sheets.get? form.table = _ from on]
  simp

theorem Filled.present (filled : Filled shelf) : ∀ declared ∈ tables, Present declared.1 shelf := by
  obtain ⟨book, on⟩ := filled
  simp only [tables, List.mem_cons, List.not_mem_nil, or_false, forall_eq_or_imp, forall_eq]
  exact ⟨present_on on.features, present_on on.groups, present_on on.users, present_on on.superusers⟩

section Reopening
variable {shelf : Shelf} {connection : Connection}

theorem createAll_held {database : Database} (declarations : List (String × Layout))
    (known : ∀ declared ∈ declarations, Declared declared.1 declared.2)
    (there : ∀ declared ∈ declarations, (database.table? declared.1).isSome = true) (layouts : Assoc Layout) :
    List.forM declarations (fun declared => (Connection.createTable declared.1 declared.2).mapError Error.setup)
      ⟨database, layouts⟩ = (.done (), ⟨database, layouts.putAll declarations⟩) := by
  induction declarations generalizing layouts with
  | nil => rfl
  | cons first rest ih =>
      have declared := known first List.mem_cons_self
      have created := createTable_proper database (declared_catalogue.proper _ _ declared)
        (declared_catalogue.free _ _ declared)
      rw [if_pos (there first List.mem_cons_self)] at created
      have done : Connection.createTable first.1 first.2 ⟨database, layouts⟩ = _ :=
        Connection.createTable_done (declared_named _ declared) created
      exact (bind_done (mapError_done done)).trans (ih (fun other member => known other (List.mem_cons_of_mem _ member))
        (fun other member => there other (List.mem_cons_of_mem _ member)) _)

theorem createTables_reopened (filled : Filled shelf) (pairs : Paired Declared shelf connection) :
    ∃ after, createTables Connection.store connection.reopened = (.done (), after) ∧ Paired Declared shelf after := by
  have there : ∀ declared ∈ tables, (connection.database.table? declared.1).isSome = true := by
    intro declared member
    obtain ⟨sheet, held⟩ := Option.ne_none_iff_exists'.mp (filled.present declared member)
    obtain ⟨table, _, found, _⟩ := pairs.mirrors.copied _ _ held
    rw [found]
    rfl
  refine ⟨_, createAll_held tables (fun _ member => member) there Assoc.empty, pairs.mirrors, ?_⟩
  have distinct : (tables.map (·.1)).Nodup := by decide
  intro name
  rw [show Assoc.empty.putAll tables = ⟨tables⟩ from Assoc.ofList_distinct distinct]
  cases held : shelf.sheets.get? name with
  | some sheet => exact Assoc.lookup_of_mem distinct (pairs.mirrors.known _ _ held)
  | none =>
      cases found : Assoc.lookup name tables with
      | none => exact found
      | some layout => exact (filled.present _ (Assoc.lookup_mem found) held).elim

end Reopening

theorem Shelf.store_lossless : Shelf.store.Lossy (fun _ => True) id Shelf.store := by
  have same {α : Type} (call : Action Shelf Fault α) : Follows anyFault (fun _ => True) id call call :=
    fun _ => .inl ⟨rfl, rfl, fun _ => trivial⟩
  exact ⟨fun _ _ => same _, fun _ _ => same _, fun _ _ _ => same _, fun _ _ => same _,
    fun table filter => ⟨same _, Shelf.select_quiet table filter⟩⟩

inductive Live : Running Shelf → Running Connection → Prop where
  | both (filled : Filled shelf) (pairs : Paired Declared shelf connection) :
      Live ⟨⟨some { store := Shelf.store }⟩, shelf⟩ ⟨⟨some { store := Connection.store }⟩, connection⟩

theorem Live.of_paired {running : Running Shelf} {other : Running Connection}
    (pairs : Running.Paired Shelf.store Connection.store (Paired Declared) running other) (set : running.Set)
    (filled : Filled running.world) : Live running other := by
  cases pairs with
  | fresh worlds => cases set
  | set worlds => exact .both filled worlds

abbrev Overrun (running : Running Connection) : Prop := running.Sound Connection.store Connection.Spent

theorem ask_agrees (asked : Request) :
    Action.Agrees Live Overrun (asked.handle Shelf.store) (asked.handle Connection.store) := by
  have agree := handle_agrees service_agrees asked
  refine ⟨?_, agree.worn⟩
  intro running other live
  cases live with
  | @both shelf connection filled pairs =>
      rcases agree.alike _ _ (.set pairs) with spent | ⟨same, alive, still⟩
      · exact .inl spent
      · have set := handle_set Shelf.store asked ⟨⟨some { store := Shelf.store }⟩, shelf⟩ rfl
        have kept := handle_keeps Shelf.store_lossless filled_stable asked ⟨⟨some { store := Shelf.store }⟩, shelf⟩
          ⟨fun ledger is => Option.some.inj is ▸ rfl, filled⟩
        exact .inr ⟨same, alive, .of_paired still set kept.2⟩

theorem setSuperuser_filled (filled : Filled shelf) (user : String) :
    ∃ after, (Mutation.setSuperuser user).apply Shelf.store shelf = (.done (), after) ∧ Filled after := by
  obtain ⟨book, on⟩ := filled
  have written : book.write (.setSuperuser user) = .ok { book with superusers := book.superusers.write user () } := rfl
  obtain ⟨after, applied, onAfter⟩ := Book.apply_done on written
  exact ⟨after, applied, _, onAfter⟩

section Seeding
variable {store : Store σ} {s s' : σ} (created : createTables store s = (.done (), s'))
include created

theorem setUp_some (user : String) : Service.setUp store (some user) s =
    (Action.refuse ((Mutation.setSuperuser user).invalid.map Error.validation) >>= fun _ =>
      (Mutation.setSuperuser user).apply store) s' := bind_done created

theorem setUp_seeds (right : (Mutation.setSuperuser user).invalid = none) :
    Service.setUp store (some user) s = (Mutation.setSuperuser user).apply store s' := by
  rw [setUp_some created, right]
  rfl

theorem setUp_refused (wrong : (Mutation.setSuperuser user).invalid = some invalid) :
    Service.setUp store (some user) s = (.failed (.validation invalid), s') := by
  rw [setUp_some created, wrong]
  rfl

end Seeding

theorem restart_begun (other : Running Connection)
    (begun : Service.setUp Connection.store superuser other.world.reopened = (outcome, connection)) :
    (Turn.restart superuser).onFile other = (outcome.map fun _ => .nothing, match outcome with
      | .done _ => ⟨⟨some { store := Connection.store }⟩, connection⟩
      | _ => ⟨{}, connection⟩) := by
  have fresh : (⟨{}, other.world.reopened⟩ : Running Connection).service.ledger = none := rfl
  show (Service.init Connection.store superuser >>= fun _ => Pure.pure Response.nothing) ⟨{}, other.world.reopened⟩ = _
  rw [answer_apply, Service.init_none fresh begun]
  cases outcome <;> rfl

theorem restart_agrees (superuser : Option String) (named : superuser ≠ some "") :
    Action.Agrees Live Overrun (Turn.restart superuser).inMemory (Turn.restart superuser).onFile := by
  refine ⟨?_, ?_⟩
  · intro running other live
    cases live with
    | @both shelf connection filled pairs =>
        obtain ⟨middle, created, pairsMiddle⟩ := createTables_reopened filled pairs
        cases superuser with
        | none =>
            have begun : Service.setUp Connection.store none connection.reopened = (.done (), middle) := bind_done created
            rw [restart_begun ⟨⟨some { store := Connection.store }⟩, connection⟩ begun]
            exact .inr ⟨rfl, nofun, .both filled pairsMiddle⟩
        | some user =>
            have right : (Mutation.setSuperuser user).invalid = none := by
              refine emptyName_none.mpr fun empty => named (congrArg some empty)
            obtain ⟨after, applied, filledAfter⟩ := setSuperuser_filled filled user
            have mutated : Service.mutate (.setSuperuser user) ⟨⟨some { store := Shelf.store }⟩, shelf⟩ =
                (.done (), ⟨⟨some { store := Shelf.store }⟩, after⟩) := by
              rw [Service.mutate_begun rfl right, if_neg (by simp [Mutation.isIdle]), Service.locked_open rfl rfl, applied]
            have remembered : (Turn.restart (some user)).inMemory ⟨⟨some { store := Shelf.store }⟩, shelf⟩ =
                (.done .nothing, ⟨⟨some { store := Shelf.store }⟩, after⟩) := bind_done mutated
            have step := (apply_agrees service_agrees (.setSuperuser user)).alike _ _ pairsMiddle
            cases there : (Mutation.setSuperuser user).apply Connection.store middle with
            | mk outcome last =>
                rw [applied, there] at step
                have begun : Service.setUp Connection.store (some user) connection.reopened = (outcome, last) :=
                  (setUp_seeds created right).trans there
                rw [remembered, restart_begun ⟨⟨some { store := Connection.store }⟩, connection⟩ begun]
                rcases step with used | ⟨same, _, still⟩
                · refine .inl ?_
                  cases outcome with
                  | done answer => exact ⟨fun ledger is => Option.some.inj is ▸ rfl, used⟩
                  | failed error => exact ⟨nofun, used⟩
                  | aborted => exact ⟨nofun, used⟩
                · cases same
                  exact .inr ⟨rfl, nofun, .both filledAfter still⟩
  · intro running spent
    have worn : Keeps Connection.Spent (Service.setUp Connection.store superuser) :=
      (setUp_agrees service_agrees superuser).worn
    exact (Keeps.bind (init_through worn) fun _ => Keeps.pure _) ⟨{}, running.world.reopened⟩ ⟨nofun, spent.2⟩

theorem turn_agrees (turn : Turn) (named : turn ≠ .restart (some "")) :
    Action.Agrees Live Overrun turn.inMemory turn.onFile := by
  cases turn with
  | ask asked => exact ask_agrees asked
  | restart superuser => exact restart_agrees superuser fun empty => named (congrArg Turn.restart empty)

theorem first_setUp (named : superuser ≠ some "") :
    ∃ world, Service.setUp Shelf.store superuser Shelf.empty = (.done (), world) ∧ Filled world := by
  have created : createTables Shelf.store Shelf.empty = (.done (), ({} : Book).shelf) := rfl
  have filled : Filled ({} : Book).shelf := ⟨{}, Book.shelf_on {}⟩
  cases superuser with
  | none => exact ⟨_, bind_done created, filled⟩
  | some user =>
      have right : (Mutation.setSuperuser user).invalid = none :=
        emptyName_none.mpr fun empty => named (congrArg some empty)
      obtain ⟨world, applied, filledAfter⟩ := setSuperuser_filled filled user
      exact ⟨world, (setUp_seeds created right).trans applied, filledAfter⟩

theorem first_agrees (named : superuser ≠ some "") :
    Overrun ((Request.init superuser).handle Connection.store ⟨{}, {}⟩).2 ∨
      (((Request.init superuser).handle Shelf.store ⟨{}, Shelf.empty⟩).1 =
          ((Request.init superuser).handle Connection.store ⟨{}, {}⟩).1 ∧
        Live ((Request.init superuser).handle Shelf.store ⟨{}, Shelf.empty⟩).2
          ((Request.init superuser).handle Connection.store ⟨{}, {}⟩).2) := by
  have agree := handle_agrees service_agrees (.init superuser)
  rcases agree.alike _ _ (.fresh (fresh_paired Declared)) with spent | ⟨same, _, still⟩
  · exact .inl spent
  · obtain ⟨world, done, filled⟩ := first_setUp named
    have begun : (Request.init superuser).handle Shelf.store ⟨{}, Shelf.empty⟩ =
        (.done .nothing, ⟨⟨some { store := Shelf.store }⟩, world⟩) := bind_done (Service.init_none rfl done)
    refine .inr ⟨same, .of_paired still ?_ ?_⟩
    · rw [begun]
      rfl
    · rw [begun]
      exact filled

-- Wherever a run is cut by restarts, a database answers everything as a memory that
-- was never given up, the order of names and features included.
theorem restarts_unseen {superuser : Option String} {turns : List Turn} (named : superuser ≠ some "")
    (renamed : Turn.restart (some "") ∉ turns)
    (room : (replies Turn.onFile (.ask (.init superuser) :: turns) ⟨{}, {}⟩).2.world.database.HasRoom) :
    (replies Turn.onFile (.ask (.init superuser) :: turns) ⟨{}, {}⟩).1 =
      (replies Turn.inMemory (.ask (.init superuser) :: turns) ⟨{}, Shelf.empty⟩).1 := by
  have agree : ∀ turn ∈ turns, Action.Agrees Live Overrun turn.inMemory turn.onFile :=
    fun turn member => turn_agrees turn fun same => renamed (same ▸ member)
  rcases first_agrees named with spent | ⟨same, live⟩
  · have still := replies_keeps (fun turn member => (agree turn member).worn) _ spent
    exact (room.unspent still.2).elim
  · rcases replies_agree agree live with spent | ⟨answers, _⟩
    · exact (room.unspent spent.2).elim
    · exact (congrArg₂ List.cons same answers).symm

def cutRun : List Turn :=
  [.ask (.mutate (.setSuperuser "ann")), .ask (.mutate (.updateFeature "p" "f" { group := some .deny })),
   .restart none, .ask (.mutate (.removeSuperuser "root")), .restart (some "ann"), .restart (some "root"),
   .ask .superusers, .ask .features, .ask (.decide (.group "bob" "g" .member) "p" "f"), .ask (.init none)]

theorem cutRun_unseen :
    Turn.restart (some "") ∉ cutRun ∧
      (replies Turn.onFile (.ask (.init (some "root")) :: cutRun) ⟨{}, {}⟩).2.world.database.HasRoom ∧
      (replies Turn.onFile (.ask (.init (some "root")) :: cutRun) ⟨{}, {}⟩).1 =
        [.done .nothing, .done .nothing, .done .nothing, .done .nothing, .done .nothing, .done .nothing, .done .nothing,
         .done (.names ["ann", "root"]), .done (.entries [⟨"p", "f", ⟨.allow, .deny, .allow⟩⟩]), .done (.truth false),
         .failed .alreadyInitialized] := by
  have renamed : Turn.restart (some "") ∉ cutRun := by decide
  have room : (replies Turn.onFile (.ask (.init (some "root")) :: cutRun) ⟨{}, {}⟩).2.world.database.HasRoom := by
    decide +kernel
  exact ⟨renamed, room, (restarts_unseen (by decide) renamed room).trans rfl⟩

end FeatureGate
