import FeatureGate.Proofs.Declaration

namespace FeatureGate
open Table FeatureGate.Action

namespace Table
variable {shelf one other : Shelf} {table named : String} {call : Call} {layout : Layout} {row : Row}

theorem Layout.cellsFault_renamed (sound : layout.cellsFault table row = none) : layout.cellsFault named row = none := by
  rw [cellsFault_flawless] at sound ⊢
  intro cell member fault flaw
  cases flaw with
  | unknown absent => exact sound _ member _ (.unknown absent)
  | mistyped known refused => exact sound _ member _ (.mistyped known refused)

namespace Shelf

theorem onSheet_away (apart : table ≠ named) (fault : Layout → Option Fault) (step : Sheet → α × Sheet) :
    (onSheet named fault step shelf).2.sheets.get? table = shelf.sheets.get? table := by
  rcases onSheet_ways named fault step shelf with ⟨wrong, failed⟩ | ⟨sheet, _, _, done⟩
  · rw [failed]
  · rw [done, Assoc.get?_put, if_neg apart]

theorem createTable_away (apart : table ≠ named) (layout : Layout) :
    (createTable named layout shelf).2.sheets.get? table = shelf.sheets.get? table := by
  unfold createTable
  split
  · rfl
  split
  · rfl
  · rw [Assoc.get?_put, if_neg apart]

theorem perform_away (apart : table ≠ call.table) (shelf : Shelf) :
    (store.perform call shelf).2.sheets.get? table = shelf.sheets.get? table := by
  rw [Store.perform_parts]
  cases call with
  | createTable named layout => exact createTable_away apart layout
  | insert | update | delete | select => exact onSheet_away apart _ _

theorem reached_away {calls : List Call} (apart : ∀ call ∈ calls, table ≠ call.table) (shelf : Shelf) :
    (store.reached calls shelf).sheets.get? table = shelf.sheets.get? table :=
  store.reached_still (·.sheets.get? table) (fun call member => perform_away (apart call member)) shelf

theorem select_seen (same : one.sheets.get? table = other.sheets.get? table) (filter : Row) :
    (select table filter one).1 = (select table filter other).1 := by
  unfold select onSheet
  rw [same]
  cases other.sheets.get? table with
  | none => rfl
  | some sheet => cases wrong : sheet.layout.cellsFault table filter <;> simp [wrong]

end Shelf
end Table

namespace Sql
namespace Connection
variable {connection one other : Connection} {table named : String} {call : Call} {layout : Layout} {filter : Row} {data : TableData}

-- What a connection makes of a name: the layout that is registered under it, and the table
-- of the database that is meant by it.
def window (table : String) (connection : Connection) : Option Layout × Option TableData :=
  (connection.layouts.get? table, connection.database.table? table)

theorem window_exchange {data later : TableData} (apart : sameName table named = false)
    (held : connection.database.table? named = some data) (still : later.name = data.name) :
    window table { connection with database := connection.database.withTable later } = window table connection := by
  simp only [window, Database.table?_withTable held still, apart, Bool.false_eq_true, if_false]

theorem createTable_away (apart : sameName table named = false) (layout : Layout) (connection : Connection) :
    window table (createTable named layout connection).2 = window table connection := by
  rcases createTable_ends named layout connection with ⟨fault, failed⟩ | ⟨database, created, done⟩
  · rw [failed]
  · have different : table ≠ named := fun same => by simp [same, sameName_refl] at apart
    simp [done, window, Database.createTable_tables created, apart, different]

theorem perform_away (apart : sameName table call.table = false) (connection : Connection) :
    window table (store.perform call connection).2 = window table connection := by
  rw [Store.perform_parts]
  cases call with
  | createTable named layout => exact createTable_away apart layout connection
  | insert named given =>
      rcases insert_ends named given connection with ⟨fault, failed⟩ | ⟨_, _, _, _, _, held, inserted, done⟩
      · simp only [store, failed]
      · simp only [store, done]
        exact window_exchange apart held (TableData.insert_grows inserted).1
  | update named assignment filter =>
      rcases update_ends named assignment filter connection with
        ⟨fault, failed⟩ | ⟨_, idle⟩ | ⟨_, _, _, _, _, _, _, held, updated, done⟩
      · simp only [store, failed]
      · simp only [store, idle]
      · simp only [store, done]
        exact window_exchange apart held (TableData.update_grows updated).1
  | delete named filter =>
      rcases delete_ends named filter connection with ⟨fault, failed⟩ | ⟨_, _, _, _, held, done⟩
      · simp only [store, failed]
      · simp only [store, done]
        exact window_exchange apart held rfl
  | select named filter =>
      rcases select_ends named filter connection with ⟨fault, failed⟩ | ⟨_, _, _, held, done⟩
      · simp only [store, failed]
      · simp only [store, done]
        exact window_exchange apart held rfl

theorem reached_away {calls : List Call} (apart : ∀ call ∈ calls, sameName table call.table = false)
    (connection : Connection) : window table (store.reached calls connection) = window table connection :=
  store.reached_still (window table) (fun call member => perform_away (apart call member)) connection

def told (table : String) (filter : Row) : Option Layout × Option TableData → Outcome Fault (List Row)
  | (none, _) => .failed (.unknownTable table)
  | (some layout, held) => match layout.cellsFault table filter, held with
      | some fault, _ => .failed fault
      | none, none => .failed (.database .unspecified)
      | none, some data => (rows? layout (.found (data.select (layout.columns.map (·.1)) filter.pairs))).elim
          (.failed (.database .unspecified)) .done

theorem run_select (held : connection.database.table? table = some data) (shown : List String) :
    run (.select table shown filter.names) filter.values connection =
      (.done (.found (data.select shown filter.pairs)),
        { connection with database := connection.database.withTable data }) :=
  run_done (by simp [Database.run.attempt, Database.run.onTable, held, zip_pairs, Except.map])

theorem run_select_absent (absent : connection.database.table? table = none) (shown : List String) :
    run (.select table shown filter.names) filter.values connection = (.failed (.database .unspecified), connection) := by
  simp [run, Action.within, Action.mapError, Database.run, Database.run.attempt, Database.run.onTable, absent,
    Outcome.mapError]

theorem select_told (table : String) (filter : Row) (connection : Connection) :
    (select table filter connection).1 = told table filter (window table connection) := by
  unfold select window
  cases registered : connection.layouts.get? table with
  | none =>
      rw [bind_failed (checked_none registered)]
      rfl
  | some layout => cases sound : layout.cellsFault table filter with
      | some fault =>
          rw [bind_failed (checked_refused registered sound)]
          simp [told, sound]
      | none =>
          have looked : checked table (·.cellsFault table filter) connection = (.done layout, connection) :=
            checked_done registered sound
          rw [bind_done looked]
          cases held : connection.database.table? table with
          | none =>
              rw [bind_failed (run_select_absent held _)]
              simp [told, sound]
          | some data =>
              rw [bind_done (run_select held _)]
              simp only [told, sound]
              cases rows? layout (.found (data.select (layout.columns.map (·.1)) filter.pairs)) <;> rfl

theorem told_rows {rows : List Row} {held : Option Layout × Option TableData} :
    told table filter held = .done rows ↔ ∃ layout data, held = (some layout, some data) ∧
      layout.cellsFault table filter = none ∧
      rows? layout (.found (data.select (layout.columns.map (·.1)) filter.pairs)) = some rows := by
  obtain ⟨_ | layout, held⟩ := held
  · simp [told]
  · cases sound : layout.cellsFault table filter with
    | some fault => simp [told, sound]
    | none => cases held with
        | none => simp [told, sound]
        | some data =>
            simp only [told, sound]
            cases read : rows? layout (.found (data.select (layout.columns.map (·.1)) filter.pairs)) <;> simp [sound, read]

theorem select_seen (same : window table one = window table other) (filter : Row) :
    (select table filter one).1 = (select table filter other).1 := by
  rw [select_told, select_told, same]

theorem select_twin (twin : sameName table named = true)
    (alike : connection.layouts.get? table = connection.layouts.get? named) {rows : List Row}
    (read : (select table filter connection).1 = .done rows) : (select named filter connection).1 = .done rows := by
  rw [select_told, told_rows] at read ⊢
  obtain ⟨layout, data, held, sound, shown⟩ := read
  rw [window, alike, Database.table?_congr twin] at held
  exact ⟨layout, data, held, Layout.cellsFault_renamed sound, shown⟩

end Connection

structure Separate (table : String) (calls : List Call) : Prop where
  shelf : (∀ call ∈ calls, table ≠ call.table) → ∀ shelf filter,
    (Shelf.select table filter (Shelf.store.reached calls shelf)).1 = (Shelf.select table filter shelf).1
  database : (∀ call ∈ calls, sameName table call.table = false) → ∀ connection filter,
    (Connection.select table filter (Connection.store.reached calls connection)).1 =
      (Connection.select table filter connection).1
  -- Names that differ in the case of letters only are two names of one table.
  twins : ∀ twin, sameName table twin = true → ∀ connection,
    (Connection.store.reached calls connection).layouts.get? table =
      (Connection.store.reached calls connection).layouts.get? twin → ∀ filter rows,
    (Connection.select table filter (Connection.store.reached calls connection)).1 = .done rows ↔
      (Connection.select twin filter (Connection.store.reached calls connection)).1 = .done rows

theorem tables_separate (table : String) (calls : List Call) : Separate table calls := by
  refine ⟨?_, ?_, ?_⟩
  · intro apart shelf filter
    exact Shelf.select_seen (Shelf.reached_away apart shelf) filter
  · intro apart connection filter
    exact Connection.select_seen (Connection.reached_away apart connection) filter
  · intro twin same connection alike filter rows
    exact ⟨Connection.select_twin same alike, Connection.select_twin (sameName_comm.trans same) alike.symm⟩

def notes : Layout := ⟨[("id", .key), ("text", .text)]⟩

def crossing : List Call :=
  [.createTable "notes" notes, .createTable "Notes" notes, .select "notes" Assoc.empty,
    .insert "Notes" ⟨[("text", .text "a")]⟩, .select "notes" Assoc.empty]

theorem other_case_seen :
    (Shelf.store.history crossing Shelf.empty).1 =
        [.done .nothing, .done .nothing, .done (.rows []), .done .nothing, .done (.rows [])] ∧
      (Connection.store.history crossing {}).1 =
        [.done .nothing, .done .nothing, .done (.rows []), .done .nothing,
          .done (.rows [⟨[("id", .integer 1), ("text", .text "a")]⟩])] := by
  decide +kernel

end Sql
end FeatureGate
