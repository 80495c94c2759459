import FeatureGate.Proofs.Declaration

namespace FeatureGate
open Table FeatureGate.Action

namespace Table
variable {table : String}

def Call.onto : Call → Sheet → Answer × Sheet
  | .createTable .., sheet => (.nothing, sheet)
  | .insert _ row, sheet => (.nothing, sheet.insert row)
  | .update _ assignment filter, sheet => (sheet.update assignment filter).map .count id
  | .delete _ filter, sheet => (sheet.delete filter).map .count id
  | .select _ filter, sheet => (.rows (sheet.select filter), sheet)

-- A store that asks a call whether it fits the declared layout before anything else. What is
-- refused changes nothing; what is not refused can fail only for what lies beyond the store.
structure Asks (store : Store σ) (beyond : Fault → Prop) (s : σ) (declared : Option Layout) (call : Call) : Prop where
  refuses : ∀ fault, Refused declared call fault → store.perform call s = (.failed fault, s)
  passes : (∀ fault, ¬Refused declared call fault) →
    (∃ answer, (store.perform call s).1 = .done answer) ∨ ∃ fault, beyond fault ∧ (store.perform call s).1 = .failed fault
  idles : ∀ table filter, call = .update table Assoc.empty filter → (∀ fault, ¬Refused declared call fault) →
    store.perform call s = (.done (.count 0), s)

theorem unrefused {declared : Option Layout} {call : Call} (clear : ∀ fault, ¬Refused declared call fault) :
    call.objection declared = none :=
  Option.eq_none_iff_forall_ne_some.mpr fun fault objected => clear fault (.of_objection objected)

theorem elim_none {declared : Option Layout} {asked : Layout → Option Fault}
    (fine : declared.elim (some (.unknownTable table)) asked = none) :
    ∃ layout, declared = some layout ∧ asked layout = none := by
  cases declared with
  | none => cases fine
  | some layout => exact ⟨layout, rfl, fine⟩

namespace Shelf
variable {shelf : Shelf} {table : String} {asked : Layout → Option Fault} {step : Sheet → α × Sheet}

theorem onSheet_refused {wrong : Fault} (objected : (layout? table shelf).elim (some (.unknownTable table)) asked = some wrong) :
    onSheet table asked step shelf = (.failed wrong, shelf) := by
  unfold layout? at objected
  unfold onSheet
  cases there : shelf.sheets.get? table with
  | none => simp_all
  | some sheet => simp_all

theorem onSheet_passed (fine : (layout? table shelf).elim (some (.unknownTable table)) asked = none) :
    ∃ sheet, shelf.sheets.get? table = some sheet ∧
      onSheet table asked step shelf = (.done (step sheet).1, ⟨shelf.sheets.put table (step sheet).2⟩) := by
  obtain ⟨layout, known, passed⟩ := elim_none fine
  obtain ⟨sheet, there, rfl⟩ := Option.map_eq_some_iff.mp known
  exact ⟨sheet, there, Registry.onSheet_held there passed⟩

theorem onSheet_answer (table : String) (asked : Layout → Option Fault) (step : Sheet → α × Sheet) (f : α → β) :
    (onSheet table asked step >>= fun answer => Pure.pure (f answer)) =
      onSheet table asked fun sheet => (f (step sheet).1, (step sheet).2) := by
  funext shelf
  rw [answer_apply]
  unfold onSheet
  split
  · rfl
  · split <;> rfl

theorem perform_sheet {call : Call} (other : call.method ≠ .createTable) :
    store.perform call = onSheet call.table (fun layout => call.objection (some layout)) call.onto := by
  cases call with
  | createTable => exact absurd rfl other
  | insert table row =>
      exact onSheet_answer table (·.insertFault table row) (fun sheet => ((), sheet.insert row)) fun _ => Answer.nothing
  | update table assignment filter =>
      exact onSheet_answer table (·.updateFault table assignment filter) (·.update assignment filter) Answer.count
  | delete table filter => exact onSheet_answer table (·.cellsFault table filter) (·.delete filter) Answer.count
  | select table filter =>
      exact onSheet_answer table (·.cellsFault table filter) (fun sheet => (sheet.select filter, sheet)) Answer.rows

theorem perform_refused {call : Call} {fault : Fault} (objected : call.objection (layout? call.table shelf) = some fault) :
    store.perform call shelf = (.failed fault, shelf) := by
  rcases call.creates_or with ⟨table, layout, rfl⟩ | creates
  · have wrong : layout.nameFault table = some fault := objected
    simp [Store.perform_parts, store, createTable, wrong, Outcome.map]
  · rw [objection_elim creates] at objected
    rw [perform_sheet creates, onSheet_refused objected]

theorem perform_step {call : Call} (other : call.method ≠ .createTable)
    (fine : call.objection (layout? call.table shelf) = none) : ∃ sheet, shelf.sheets.get? call.table = some sheet ∧
      store.perform call shelf = (.done (call.onto sheet).1, ⟨shelf.sheets.put call.table (call.onto sheet).2⟩) := by
  rw [objection_elim other] at fine
  rw [perform_sheet other]
  exact onSheet_passed fine

theorem perform_passed {call : Call} (fine : call.objection (layout? call.table shelf) = none) :
    ∃ answer, (store.perform call shelf).1 = .done answer := by
  rcases call.creates_or with ⟨table, layout, rfl⟩ | creates
  · have named : layout.nameFault table = none := fine
    simp only [Store.perform_parts, store, createTable, named]
    cases shelf.sheets.get? table <;> exact ⟨_, rfl⟩
  · obtain ⟨sheet, _, done⟩ := perform_step creates fine
    exact ⟨_, congrArg Prod.fst done⟩

theorem perform_failed {call : Call} {fault : Fault} :
    (store.perform call shelf).1 = .failed fault ↔ Refused (layout? call.table shelf) call fault := by
  rw [refused_exact]
  cases objected : call.objection (layout? call.table shelf) with
  | some wrong => simp [perform_refused objected]
  | none =>
      obtain ⟨answer, done⟩ := perform_passed objected
      simp [done]

theorem update_idle {filter : Row} (fine : (Call.update table Assoc.empty filter).objection (layout? table shelf) = none) :
    store.perform (.update table Assoc.empty filter) shelf = (.done (.count 0), shelf) := by
  have other : (Call.update table Assoc.empty filter).method ≠ .createTable := by simp [Call.method]
  obtain ⟨sheet, there, done⟩ := perform_step other fine
  rw [done]
  have still : shelf.sheets.put table sheet = shelf.sheets := Assoc.put_held there
  exact congrArg (fun sheets => (Outcome.done (Answer.count 0), Shelf.mk sheets)) still

theorem store_asks (shelf : Shelf) (call : Call) :
    Asks store (fun _ => False) shelf (layout? call.table shelf) call := by
  refine ⟨fun fault refused => perform_refused refused.objection, fun clear => .inl (perform_passed (unrefused clear)), ?_⟩
  rintro table filter rfl clear
  exact update_idle (unrefused clear)

end Shelf
end Table

namespace Sql.Connection
variable {connection : Connection} {call : Call} {table : String} {asked : Layout → Option Fault}

def Sends (action : Action Connection Fault α) : Prop := ∀ connection,
  (∃ answer, (action connection).1 = .done answer) ∨
    ∃ fault, (∃ failure, fault = .database failure) ∧ (action connection).1 = .failed fault

theorem Sends.pure (answer : α) : Sends (Pure.pure answer) := fun _ => .inl ⟨answer, rfl⟩

theorem Sends.bind {first : Action Connection Fault α} {next : α → Action Connection Fault β} (one : Sends first)
    (rest : ∀ answer, Sends (next answer)) : Sends (first >>= next) := by
  intro connection
  cases ended : first connection with
  | mk outcome after =>
      have comes := one connection
      rw [ended] at comes
      rcases comes with ⟨answer, rfl⟩ | ⟨fault, beyond, rfl⟩
      · rw [bind_done ended]
        exact rest answer after
      · rw [bind_failed ended]
        exact .inr ⟨fault, beyond, rfl⟩

theorem Sends.run (statement : Statement) (values : List Value) : Sends (run statement values) := by
  intro connection
  cases ended : Database.run.attempt statement values connection.database with
  | error failure =>
      refine .inr ⟨_, ⟨failure, rfl⟩, ?_⟩
      simp [Connection.run, Action.within, Action.mapError, Database.run, ended, Outcome.mapError]
  | ok result => exact .inl ⟨result.1, congrArg Prod.fst (run_done ended)⟩

theorem perform_checked (other : call.method ≠ .createTable) : ∃ next : Layout → Action Connection Fault Answer,
    (∀ layout, Sends (next layout)) ∧
      store.perform call = checked call.table (fun layout => call.objection (some layout)) >>= next := by
  cases call with
  | createTable => exact absurd rfl other
  | insert table row =>
      refine ⟨_, fun _ => ?_, bind_assoc _ _ _⟩
      exact .bind (.bind (.run _ _) fun _ => .pure _) fun _ => .pure _
  | update table assignment filter =>
      refine ⟨_, fun _ => .bind ?_ fun _ => .pure _, bind_assoc _ _ _⟩
      split
      · exact .pure _
      · exact .bind (.run _ _) fun _ => .pure _
  | delete table filter =>
      refine ⟨_, fun _ => ?_, bind_assoc _ _ _⟩
      exact .bind (.bind (.run _ _) fun _ => .pure _) fun _ => .pure _
  | select table filter =>
      refine ⟨_, fun layout => .bind (.bind (.run _ _) fun reply => ?_) fun _ => .pure _, bind_assoc _ _ _⟩
      split
      · exact .pure _
      · exact fun _ => .inr ⟨_, ⟨_, rfl⟩, rfl⟩

theorem perform_refused {fault : Fault} (objected : call.objection (connection.layouts.get? call.table) = some fault) :
    store.perform call connection = (.failed fault, connection) := by
  rcases call.creates_or with ⟨table, layout, rfl⟩ | creates
  · have wrong : layout.nameFault table = some fault := objected
    have refused : createTable table layout connection = (.failed fault, connection) := by
      unfold createTable
      rw [wrong]
      rfl
    simp only [Store.perform_parts, store, refused, Outcome.map]
  · obtain ⟨next, _, is⟩ := perform_checked creates
    rw [objection_elim creates] at objected
    rw [is]
    cases known : connection.layouts.get? call.table with
    | none =>
        rw [known] at objected
        cases objected
        exact bind_failed (checked_none known)
    | some layout =>
        rw [known] at objected
        exact bind_failed (checked_refused known objected)

theorem perform_passed (fine : call.objection (connection.layouts.get? call.table) = none) :
    (∃ answer, (store.perform call connection).1 = .done answer) ∨
      ∃ fault, (∃ failure, fault = .database failure) ∧ (store.perform call connection).1 = .failed fault := by
  rcases call.creates_or with ⟨table, layout, rfl⟩ | creates
  · have named : layout.nameFault table = none := fine
    have sends : Sends (createTable table layout) := by
      unfold createTable
      rw [named]
      exact .bind (.pure ()) fun _ => .bind (.run _ _) fun _ _ => .inl ⟨(), rfl⟩
    exact sends.bind (fun _ => .pure Answer.nothing) connection
  · obtain ⟨next, sends, is⟩ := perform_checked creates
    rw [objection_elim creates] at fine
    obtain ⟨layout, known, passed⟩ := elim_none fine
    rw [is, bind_done (checked_done known passed)]
    exact sends layout connection

theorem update_idle {filter : Row} (fine : (Call.update table Assoc.empty filter).objection (connection.layouts.get? table) = none) :
    store.perform (.update table Assoc.empty filter) connection = (.done (.count 0), connection) := by
  obtain ⟨layout, known, passed⟩ := elim_none fine
  have idle : update table Assoc.empty filter connection = (.done 0, connection) := bind_done (checked_done known passed)
  simp only [Store.perform_parts, store, idle, Outcome.map]

theorem store_asks (connection : Connection) (call : Call) :
    Asks store (fun fault => ∃ failure, fault = .database failure) connection (connection.layouts.get? call.table) call := by
  refine ⟨fun fault refused => perform_refused refused.objection, fun clear => perform_passed (unrefused clear), ?_⟩
  rintro table filter rfl clear
  exact update_idle (unrefused clear)

end Sql.Connection

namespace Table

structure Judged (calls : List Call) (call : Call) : Prop where
  -- A shelf judges by the layout with which the table was created first, if it ever was. A
  -- call that fits it does not fail at all.
  memory : Asks Shelf.store (fun _ => False) (Shelf.store.reached calls Shelf.empty)
    ((Shelf.store.accepted calls Shelf.empty).findSome? (Call.declares? call.table)) call
  unknown : (Shelf.store.perform call (Shelf.store.reached calls Shelf.empty)).1 = .failed (.unknownTable call.table) ↔
    call.method ≠ .createTable ∧ ∀ layout, .createTable call.table layout ∉ Shelf.store.accepted calls Shelf.empty
  -- A connection judges by the layout that it has registered, whatever there is in the
  -- database: a call that does not fit never gets to it.
  database : ∀ connection, Asks Sql.Connection.store (fun fault => ∃ failure, fault = .database failure) connection
    (connection.layouts.get? call.table) call
  registered : ∀ database, (Sql.Connection.store.reached calls { database }).layouts.get? call.table =
    (Sql.Connection.store.accepted calls { database }).reverse.findSome? (Call.declares? call.table)

theorem calls_judged (calls : List Call) (call : Call) : Judged calls call := by
  refine ⟨?_, ?_, fun connection => Sql.Connection.store_asks connection call,
    fun database => Sql.Connection.reached_layout call.table calls database⟩
  · rw [← Shelf.reached_layout]
    exact Shelf.store_asks _ call
  · rw [Shelf.perform_failed, refused_unknown, Shelf.reached_layout, declares?_none]

end Table
end FeatureGate
