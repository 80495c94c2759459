import FeatureGate.Proofs.Refusal
import FeatureGate.Proofs.StatementSlots

namespace FeatureGate
open Table FeatureGate.Action

namespace Table
variable {layout : Layout} {table : String} {call other : Call} {declared : Option Layout}
  {statement statement' : Sql.Statement} {values values' : List Value}

-- What a call asks of the database, where its table has the declared layout: a statement, and
-- the values for its placeholders. An update that assigns nothing asks nothing.
def Call.query? (declared : Option Layout) : Call → Option (Sql.Statement × List Value)
  | .createTable table layout => some (.createTable table layout.columns, [])
  | .insert table row => some (.insert table row.names, row.values)
  | .update table assignment filter =>
      if assignment.isEmpty then none
      else some (.update table assignment.names filter.names, assignment.values ++ filter.values)
  | .delete table filter => some (.delete table filter.names, filter.values)
  | .select table filter =>
      declared.map fun layout => (.select table (layout.columns.map (·.1)) filter.names, filter.values)

inductive Call.Alike : Call → Call → Prop
  | createTable {table : String} {layout : Layout} : Alike (.createTable table layout) (.createTable table layout)
  | insert {table : String} {row row' : Row} : row.names = row'.names → Alike (.insert table row) (.insert table row')
  | update {table : String} {assignment assignment' filter filter' : Row} : assignment.names = assignment'.names →
      filter.names = filter'.names → Alike (.update table assignment filter) (.update table assignment' filter')
  | delete {table : String} {filter filter' : Row} : filter.names = filter'.names →
      Alike (.delete table filter) (.delete table filter')
  | select {table : String} {filter filter' : Row} : filter.names = filter'.names →
      Alike (.select table filter) (.select table filter')

theorem Call.Alike.about (alike : Call.Alike call other) : other.table = call.table := by
  cases alike <;> rfl

inductive Queried (declared : Option Layout) : Call → Sql.Statement → List Value → Prop
  | createTable {table : String} {layout : Layout} :
      Queried declared (.createTable table layout) (.createTable table layout.columns) []
  | insert {table : String} {row : Row} : Queried declared (.insert table row) (.insert table row.names) row.values
  | update {table : String} {assignment filter : Row} : ¬assignment.isEmpty = true →
      Queried declared (.update table assignment filter) (.update table assignment.names filter.names)
        (assignment.values ++ filter.values)
  | delete {table : String} {filter : Row} : Queried declared (.delete table filter) (.delete table filter.names) filter.values
  | select {table : String} {filter : Row} {layout : Layout} : declared = some layout →
      Queried declared (.select table filter) (.select table (layout.columns.map (·.1)) filter.names) filter.values

theorem Queried.of_query (asked : call.query? declared = some (statement, values)) :
    Queried declared call statement values := by
  cases call with
  | createTable | insert | delete =>
      cases asked
      constructor
  | update table assignment filter =>
      simp only [Call.query?, Option.ite_none_left_eq_some, Option.some.injEq, Prod.mk.injEq] at asked
      obtain ⟨busy, rfl, rfl⟩ := asked
      exact .update busy
  | select table filter =>
      simp only [Call.query?, Option.map_eq_some_iff, Prod.mk.injEq] at asked
      obtain ⟨layout, known, rfl, rfl⟩ := asked
      exact .select known

theorem Call.Alike.asks (alike : Call.Alike call other) (queried : Queried declared call statement values)
    (queried' : Queried declared other statement' values') : statement' = statement := by
  cases alike with
  | createTable =>
      cases queried
      cases queried'
      rfl
  | insert names | delete names =>
      cases queried
      cases queried'
      rw [names]
  | update names names' =>
      cases queried
      cases queried'
      rw [names, names']
  | select names =>
      cases queried with
      | select known =>
          cases queried' with
          | select known' =>
              cases known.symm.trans known'
              rw [names]

theorem Queried.cells (queried : Queried declared call statement values) :
    Sql.Lexis.placed statement = call.cells.map (·.1) ∧ values = call.cells.map (·.2) := by
  cases queried with
  | createTable | insert | delete | select => exact ⟨rfl, rfl⟩
  | update => exact ⟨List.map_append.symm, List.map_append.symm⟩

theorem nameFault_none : layout.nameFault table = none ↔ ∀ name ∈ table :: layout.columns.map (·.1), Plain name := by
  simp only [Layout.nameFault, Option.map_eq_none_iff, List.find?_eq_none, Bool.not_eq_true', Bool.not_eq_false,
    isIdentifier_plain]

theorem declared_of_fine (creates : call.method ≠ .createTable) (fine : call.objection (some layout) = none) :
    ∀ cell ∈ call.cells, cell.1 ∈ layout.columns.map (·.1) := by
  rw [objection_declared creates, Option.or_eq_none_iff, List.findSome?_eq_none_iff] at fine
  intro cell member
  have right := fine.1 cell member
  unfold Layout.cellFault at right
  split at right
  · cases right
  · rename_i kind known
    exact List.mem_map_of_mem (f := (·.1)) (Assoc.lookup_mem known)

theorem Queried.mentions (queried : Queried (some layout) call statement values) (creates : call.method ≠ .createTable)
    (fine : call.objection (some layout) = none) :
    ∀ name ∈ Sql.Lexis.mentioned statement, name ∈ call.table :: layout.columns.map (·.1) := by
  have known : ∀ name ∈ call.cells.map (·.1), name ∈ call.table :: layout.columns.map (·.1) := by
    intro name member
    obtain ⟨cell, listed, rfl⟩ := List.mem_map.mp member
    exact List.mem_cons_of_mem _ (declared_of_fine creates fine cell listed)
  rw [← queried.cells.1] at known
  cases queried with
  | createTable => exact absurd rfl creates
  | insert | update | delete => exact List.forall_mem_cons.mpr ⟨List.mem_cons_self, known⟩
  | select declared =>
      cases declared
      refine List.forall_mem_append.mpr ⟨fun name member => List.mem_cons_of_mem _ member, ?_⟩
      exact List.forall_mem_cons.mpr ⟨List.mem_cons_self, known⟩

theorem declares?_some : call.declares? table = some layout ↔ call = .createTable table layout := by
  cases call with
  | createTable => simp [Call.declares?]
  | insert | update | delete | select => simp [Call.declares?]

theorem Store.heard_some {store : Store σ} {s : σ}
    (heard : (store.heard s call).findSome? (Call.declares? table) = some layout) :
    (∃ answer, (store.perform call s).1 = .done answer) ∧ call = .createTable table layout := by
  unfold Store.heard at heard
  split at heard
  · rename_i answer done
    exact ⟨⟨answer, done⟩, declares?_some.mp (by simpa using heard)⟩
  · cases heard

end Table

namespace Sql.Connection
variable {connection : Connection} {call : Call} {table : String} {statement : Statement} {values : List Value}

def sent? (connection : Connection) (call : Call) : Option (Statement × List Value) :=
  match call.objection (connection.layouts.get? call.table) with
  | some _ => none
  | none => call.query? (connection.layouts.get? call.table)

theorem sent?_some (sent : connection.sent? call = some (statement, values)) :
    call.objection (connection.layouts.get? call.table) = none ∧
      Queried (connection.layouts.get? call.table) call statement values := by
  unfold sent? at sent
  split at sent
  · cases sent
  · rename_i fine
    exact ⟨fine, .of_query sent⟩

def Named (connection : Connection) : Prop :=
  ∀ table layout, connection.layouts.get? table = some layout → layout.nameFault table = none

theorem perform_named (named : connection.Named) (call : Call) : (store.perform call connection).2.Named := by
  intro table layout known
  rw [perform_layout, Option.or_eq_some_iff] at known
  rcases known with heard | ⟨_, old⟩
  · obtain ⟨⟨answer, done⟩, rfl⟩ := Store.heard_some heard
    cases wrong : layout.nameFault table with
    | none => rfl
    | some fault =>
        have objected : (Call.createTable table layout).objection (connection.layouts.get? table) = some fault := wrong
        rw [perform_refused objected] at done
        cases done
  · exact named table layout old

theorem reached_named (calls : List Call) (database : Database) : (store.reached calls { database }).Named := by
  induction calls using List.reverseRecOn with
  | nil => exact fun table layout known => nomatch known
  | append_singleton calls call ih =>
      rw [Store.reached_snoc]
      exact perform_named ih call

def Settled (action : Action Connection Fault α) : Prop :=
  ∃ outcome, ∀ connection, (action connection).1 = outcome ∧ (action connection).2.database = connection.database

theorem Settled.pure (answer : α) : Settled (Pure.pure answer) := ⟨.done answer, fun _ => ⟨rfl, rfl⟩⟩

def Answers (statement : Statement) (values : List Value) (action : Action Connection Fault α) : Prop :=
  ∃ reading : Outcome Failure Reply → Outcome Fault α, ∀ connection,
    (action connection).1 = reading (Database.run statement values connection.database).1 ∧
    (action connection).2.database = (Database.run statement values connection.database).2

theorem Answers.run (statement : Statement) (values : List Value) : Answers statement values (run statement values) :=
  ⟨(·.mapError .database), fun _ => ⟨rfl, rfl⟩⟩

theorem Answers.bind {first : Action Connection Fault α} {next : α → Action Connection Fault β}
    (answers : Answers statement values first) (settled : ∀ answer, Settled (next answer)) :
    Answers statement values (first >>= next) := by
  obtain ⟨reading, is⟩ := answers
  choose outcome ends using settled
  refine ⟨fun reply => match reading reply with
    | .done answer => outcome answer
    | .failed fault => .failed fault
    | .aborted => .aborted, fun connection => ?_⟩
  obtain ⟨read, left⟩ := is connection
  cases ended : first connection with
  | mk result after =>
      simp only [ended] at read left
      simp only [bind_apply, ended, ← read, ← left]
      cases result with
      | done answer => exact ends answer after
      | failed fault => exact ⟨rfl, rfl⟩
      | aborted => exact ⟨rfl, rfl⟩

theorem perform_answers (creates : call.method ≠ .createTable) : ∃ next : Layout → Action Connection Fault Answer,
    store.perform call = checked call.table (fun layout => call.objection (some layout)) >>= next ∧
      ∀ layout statement values, Queried (some layout) call statement values → Answers statement values (next layout) := by
  cases call with
  | createTable => exact absurd rfl creates
  | insert table row =>
      refine ⟨_, bind_assoc _ _ _, fun layout statement values queried => ?_⟩
      cases queried
      exact .bind (.bind (.run ..) fun _ => .pure _) fun _ => .pure _
  | update table assignment filter =>
      refine ⟨_, bind_assoc _ _ _, fun layout statement values queried => ?_⟩
      cases queried with
      | update busy =>
          rw [if_neg busy]
          exact .bind (.bind (.run ..) fun _ => .pure _) fun _ => .pure _
  | delete table filter =>
      refine ⟨_, bind_assoc _ _ _, fun layout statement values queried => ?_⟩
      cases queried
      exact .bind (.bind (.run ..) fun _ => .pure _) fun _ => .pure _
  | select table filter =>
      refine ⟨_, bind_assoc _ _ _, fun layout statement values queried => ?_⟩
      cases queried with
      | select same =>
          cases same
          refine .bind (.bind (.run ..) fun reply => ?_) fun _ => .pure _
          split
          · exact .pure _
          · exact ⟨_, fun _ => ⟨rfl, rfl⟩⟩

theorem createTable_answers {layout : Layout} (named : layout.nameFault table = none) :
    Answers (.createTable table layout.columns) [] (createTable table layout) := by
  have sends : createTable table layout = run (.createTable table layout.columns) [] >>= fun _ =>
      Action.modify fun connection => { connection with layouts := connection.layouts.put table layout } := by
    unfold createTable
    rw [named]
    rfl
  rw [sends]
  exact .bind (.run ..) fun _ => ⟨_, fun _ => ⟨rfl, rfl⟩⟩

theorem perform_sent (sent : connection.sent? call = some (statement, values)) :
    ∃ action : Action Connection Fault Answer, Answers statement values action ∧
      ∀ database, store.perform call { connection with database } = action { connection with database } := by
  obtain ⟨fine, queried⟩ := sent?_some sent
  rcases call.creates_or with ⟨table, layout, rfl⟩ | creates
  · cases queried
    exact ⟨_, .bind (createTable_answers fine) fun _ => .pure _, fun _ => rfl⟩
  · rw [objection_elim creates] at fine
    obtain ⟨layout, known, passed⟩ := elim_none fine
    obtain ⟨next, is, answers⟩ := perform_answers creates
    rw [known] at queried
    refine ⟨next layout, answers layout statement values queried, fun database => ?_⟩
    rw [is]
    exact bind_done (checked_done known passed)

theorem perform_unsent (unsent : connection.sent? call = none) :
    ∃ outcome, ∀ database, store.perform call { connection with database } = (outcome, { connection with database }) := by
  cases refused : call.objection (connection.layouts.get? call.table) with
  | some fault =>
      refine ⟨.failed fault, fun database => perform_refused ?_⟩
      exact refused
  | none =>
      unfold sent? at unsent
      rw [refused] at unsent
      cases call with
      | createTable | insert | delete => cases unsent
      | update table assignment filter =>
          have nothing : assignment.isEmpty = true := by simpa [Call.query?] using unsent
          have none : assignment = Assoc.empty := congrArg Assoc.mk (List.isEmpty_iff.mp nothing)
          subst none
          refine ⟨.done (.count 0), fun database => update_idle ?_⟩
          exact refused
      | select table filter =>
          obtain ⟨layout, known, _⟩ := elim_none refused
          have absent : connection.layouts.get? (Call.select table filter).table = none := by
            simpa [Call.query?] using unsent
          cases known.symm.trans absent

theorem sent?_plain (named : connection.Named) (sent : connection.sent? call = some (statement, values)) :
    ∀ name ∈ Lexis.mentioned statement, Plain name := by
  obtain ⟨fine, queried⟩ := sent?_some sent
  rcases call.creates_or with ⟨table, layout, rfl⟩ | creates
  · cases queried
    exact nameFault_none.mp fine
  · rw [objection_elim creates] at fine
    obtain ⟨layout, known, passed⟩ := elim_none fine
    rw [known] at queried
    have plain := nameFault_none.mp (named _ layout known)
    exact fun name member => plain name (queried.mentions creates passed name member)

end Sql.Connection

namespace Sql

structure Bound (call : Call) (statement : Statement) (values : List Value) : Prop where
  -- The text is read as the names and numbers that were meant: no name has a character that
  -- could close its quotes, and each number stands at the column whose value it is.
  readable : ∃ read, Lexis.read? statement.text = some read ∧ Lexis.names read = Lexis.mentioned statement ∧
    (∀ name ∈ Lexis.names read, Plain name) ∧ Lexis.parameters read = List.range' 1 values.length ∧
    Lexis.slots statement read = (call.cells.map (·.1)).zip (List.range' 1 values.length)
  cells : values = call.cells.map (·.2)

structure Binding (connection : Connection) (call : Call) : Prop where
  -- A call that sends nothing comes to the same end whatever is in the database, and leaves it.
  unsent : connection.sent? call = none → ∃ outcome, ∀ database,
    Connection.store.perform call { connection with database } = (outcome, { connection with database })
  sent : ∀ statement values, connection.sent? call = some (statement, values) →
    ∃ reading : Outcome Failure Reply → Outcome Fault Answer, ∀ database,
      (Connection.store.perform call { connection with database }).1 = reading (Database.run statement values database).1 ∧
        (Connection.store.perform call { connection with database }).2.database = (Database.run statement values database).2
  bound : ∀ statement values, connection.sent? call = some (statement, values) → Bound call statement values
  alike : ∀ other (elsewhere : Connection) statement values statement' values', call.Alike other →
    elsewhere.layouts.get? call.table = connection.layouts.get? call.table →
    connection.sent? call = some (statement, values) → elsewhere.sent? other = some (statement', values') →
    statement'.text = statement.text

theorem plain_closed (plain : Plain name) : '"' ∉ name.toList := by
  obtain ⟨first, rest, is, begins, others⟩ := plain
  rw [is, List.mem_cons, not_or]
  refine ⟨fun same => ?_, fun member => ?_⟩
  · subst same
    revert begins
    unfold Letter
    decide
  · have wrong := others _ member
    revert wrong
    unfold Letter
    decide

theorem Connection.Named.bound {connection : Connection} (named : connection.Named)
    (sent : connection.sent? call = some (statement, values)) : Bound call statement values := by
  have plain := Connection.sent?_plain named sent
  obtain ⟨placed, cells⟩ := (Connection.sent?_some sent).2.cells
  have count : (Lexis.placed statement).length = values.length := by rw [placed, cells, List.length_map, List.length_map]
  have read := Lexis.read?_text fun name member => plain_closed (plain name member)
  refine ⟨⟨_, read, Lexis.names_pieces statement, ?_, ?_, ?_⟩, cells⟩
  · rw [Lexis.names_pieces]
    exact plain
  · rw [Lexis.parameters_pieces, count]
  · rw [Lexis.slots_pieces, count, placed]

theorem statements_bound (calls : List Call) (database : Database) (call : Call) :
    Binding (Connection.store.reached calls { database }) call where
  unsent := Connection.perform_unsent
  sent statement values sent := by
    obtain ⟨action, ⟨reading, is⟩, performed⟩ := Connection.perform_sent sent
    exact ⟨reading, fun database => performed database ▸ is _⟩
  bound _ _ := (Connection.reached_named calls database).bound
  alike other elsewhere statement values statement' values' alike same sent sent' := by
    have queried := (Connection.sent?_some sent').2
    rw [alike.about, same] at queried
    rw [alike.asks (Connection.sent?_some sent).2 queried]

example : (Connection.store.reached [.createTable "t" ⟨[("a", .text), ("b", .integer)]⟩] {}).sent?
    (.update "t" ⟨[("a", .text "\" --")]⟩ ⟨[("b", .integer 1)]⟩) =
      some (.update "t" ["a"] ["b"], [.text "\" --", .integer 1]) := by decide +kernel

end Sql
end FeatureGate
