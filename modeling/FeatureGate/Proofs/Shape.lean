import FeatureGate.Proofs.Continuity
import Mathlib.Data.List.Pairwise

namespace FeatureGate

theorem mapM_parts {f : α → Option β} {xs : List α} {ys : List β} (all : xs.mapM f = some ys) :
    List.Forall₂ (fun x y => f x = some y) xs ys := by
  induction xs generalizing ys with
  | nil => cases all; exact .nil
  | cons x rest ih =>
      rw [List.mapM_cons] at all
      cases first : f x with
      | none => rw [first] at all; cases all
      | some y =>
          cases later : rest.mapM f with
          | none => rw [first, later] at all; cases all
          | some more =>
              rw [first, later] at all
              cases all
              exact .cons first (ih later)

namespace Sql
open Table Layout

section Tables
variable {layout : Layout} {table after : TableData} {row : Stored} {cells filter : List (String × Value)}

-- The columns are those of the layout, and every row is as wide as they are. What the
-- cells hold is open, and so is how the rows are numbered.
structure Shaped (layout : Layout) (table : TableData) : Prop where
  columns : table.columns = layout.columns
  wide : ∀ row ∈ table.rows, row.cells.length = layout.columns.length

def Tells (layout : Layout) (cells : List (String × Value)) (row : Stored) : Prop :=
  ∀ cell ∈ cells, row.cells[layout.position cell.1]? = some (.ofValue cell.2)

namespace TableData

theorem putBefore_perm (goesBefore : Stored → Stored → Bool) (new : Stored) (rows : List Stored) :
    (putBefore goesBefore new rows).Perm (new :: rows) := by
  induction rows with
  | nil => exact .refl _
  | cons first rest ih =>
      unfold putBefore
      split
      · exact .refl _
      · exact (ih.cons first).trans (.swap _ _ _)

theorem mem_putBefore {goesBefore : Stored → Stored → Bool} {new : Stored} {rows : List Stored} :
    row ∈ putBefore goesBefore new rows ↔ row = new ∨ row ∈ rows :=
  (putBefore_perm goesBefore new rows).mem_iff.trans List.mem_cons

theorem mem_inOrder {rows : List Stored} : row ∈ table.inOrder rows ↔ row ∈ rows := by
  induction rows with
  | nil => rfl
  | cons first rest ih =>
      rw [show table.inOrder (first :: rest) = putBefore table.precedes first (table.inOrder rest) from rfl,
        mem_putBefore, ih, List.mem_cons]

theorem selects_columns (same : after.columns = table.columns) : after.selects = table.selects := by
  funext filter row
  simp only [selects, reference, column?, same]

end TableData

section Update
variable (proper : layout.Proper) (takes : layout.Takes cells)

theorem assignCells_wide (row : Stored) :
    (table.assignCells (cells.map (target layout)) row).cells.length = row.cells.length := by
  induction cells generalizing row with
  | nil => rfl
  | cons cell rest ih => exact (ih _).trans List.length_set

include proper takes

theorem assignCells_apart {name : String} {kind : Kind} (known : layout.kind? name = some kind)
    (apart : name ∉ cells.map (·.1)) (row : Stored) :
    (table.assignCells (cells.map (target layout)) row).cells[layout.position name]? =
      row.cells[layout.position name]? := by
  induction cells generalizing row with
  | nil => rfl
  | cons cell rest ih =>
      obtain ⟨kind', known', _, _⟩ := takes cell List.mem_cons_self
      simp only [List.map_cons, List.mem_cons, not_or] at apart
      have away : layout.position cell.1 ≠ layout.position name :=
        fun together => apart.1 (position_injective proper known' known together).symm
      refine (ih (fun other member => takes other (List.mem_cons_of_mem _ member)) apart.2 _).trans ?_
      exact List.getElem?_set_ne away

variable (columns : table.columns = layout.columns)
include columns

theorem assignCells_tells (distinct : (cells.map (·.1)).Nodup) (row : Stored)
    (wide : row.cells.length = layout.columns.length) :
    Tells layout cells (table.assignCells (cells.map (target layout)) row) := by
  induction cells generalizing row with
  | nil => nofun
  | cons cell rest ih =>
      have takesRest : layout.Takes rest := fun other member => takes other (List.mem_cons_of_mem _ member)
      obtain ⟨once, distinctRest⟩ := List.nodup_cons.mp distinct
      intro other member
      rcases List.mem_cons.mp member with rfl | later
      · obtain ⟨kind, known, _, accepted⟩ := takes other List.mem_cons_self
        have there := position_known proper known
        have bound : layout.position other.1 < row.cells.length := wide ▸ (List.getElem?_eq_some_iff.mp there).1
        refine (assignCells_apart proper takesRest known once _).trans ?_
        simp [target, columns, there, stored_accepted accepted, List.getElem?_set_self bound]
      · exact ih takesRest distinctRest _ (List.length_set.trans wide) other later

theorem updateRow_rows (wide : row.cells.length = layout.columns.length)
    (updated : TableData.updateRow (cells.map (target layout)) table row = .ok after) :
    ∃ new : Stored, new.cells.length = layout.columns.length ∧ ((cells.map (·.1)).Nodup → Tells layout cells new) ∧
      after = { table with rows := TableData.place new (table.rows.filter (·.number ≠ row.number)) } := by
  refine ⟨table.rewritten (cells.map (target layout)) row, ?_, ?_, ?_⟩
  · simp [TableData.rewritten, TableData.renumber, assignCells_wide, columns, wide]
  · intro distinct cell member
    obtain ⟨kind, known, plain, _⟩ := takes cell member
    have there : (layout.columns.zip (table.assignCells (cells.map (target layout)) row).cells)[
        layout.position cell.1]? = some ((cell.1, kind), .ofValue cell.2) :=
      List.getElem?_zip_eq_some.mpr ⟨position_known proper known,
        assignCells_tells proper takes columns distinct row wide cell member⟩
    simp only [TableData.rewritten, TableData.renumber, columns, List.getElem?_map, there, Option.map_some,
      if_neg plain]
  · rw [updateRow_plain] at updated
    cases updated
    rfl

omit columns in
-- The induction is on the rows that are still to be changed. Every other row tells
-- the new by now, or was never among them.
theorem updateRows_rows {rest : List Stored} (shaped : Shaped layout table)
    (wide : ∀ row ∈ rest, row.cells.length = layout.columns.length)
    (folded : rest.foldlM (TableData.updateRow (cells.map (target layout))) table = .ok after) :
    after.name = table.name ∧ Shaped layout after ∧ ∀ row ∈ after.rows,
      ((cells.map (·.1)).Nodup → Tells layout cells row) ∨ (row ∈ table.rows ∧ row ∉ rest) := by
  induction rest generalizing table with
  | nil =>
      cases folded
      exact ⟨rfl, shaped, fun row member => .inr ⟨member, List.not_mem_nil⟩⟩
  | cons first rest ih =>
      rw [List.foldlM_cons] at folded
      cases stepped : TableData.updateRow (cells.map (target layout)) table first with
      | error failure => rw [stepped] at folded; cases folded
      | ok middle =>
          rw [stepped] at folded
          obtain ⟨new, wideNew, tells, rfl⟩ :=
            updateRow_rows proper takes shaped.columns (wide first List.mem_cons_self) stepped
          have shapedMiddle : Shaped layout
              { table with rows := TableData.place new (table.rows.filter (·.number ≠ first.number)) } := by
            refine ⟨shaped.columns, fun row member => ?_⟩
            rcases TableData.mem_putBefore.mp member with rfl | old
            · exact wideNew
            · exact shaped.wide row (List.mem_of_mem_filter old)
          obtain ⟨named, shapedAfter, rows⟩ :=
            ih shapedMiddle (fun row member => wide row (List.mem_cons_of_mem _ member)) folded
          refine ⟨named, shapedAfter, fun row member => ?_⟩
          rcases rows row member with told | ⟨there, spared⟩
          · exact .inl told
          · rcases TableData.mem_putBefore.mp there with rfl | old
            · exact .inl tells
            · obtain ⟨held, apart⟩ := List.mem_filter.mp old
              refine .inr ⟨held, fun again => ?_⟩
              rcases List.mem_cons.mp again with rfl | later
              · simp at apart
              · exact spared later

end Update

theorem update_rows (proper : layout.Proper) (shaped : Shaped layout table) (takes : layout.Takes cells)
    (updated : table.update cells filter = .ok (count, after)) :
    after.name = table.name ∧ Shaped layout after ∧ ∀ row ∈ after.rows,
      ((cells.map (·.1)).Nodup → Tells layout cells row) ∨ (row ∈ table.rows ∧ table.selects filter row = false) := by
  unfold TableData.update at updated
  rw [targets_known shaped.columns proper takes] at updated
  simp only [bind, Except.bind] at updated
  split at updated
  · cases updated
  rename_i changed folded
  cases updated
  obtain ⟨named, shapedAfter, rows⟩ := updateRows_rows proper takes shaped
    (fun row member => shaped.wide row (List.mem_of_mem_filter member)) folded
  refine ⟨named, shapedAfter, fun row member => (rows row member).imp_right fun old => ⟨old.1, ?_⟩⟩
  simpa [old.1] using old.2

theorem insert_rows (proper : layout.Proper) (shaped : Shaped layout table) {given : Row}
    (sound : layout.insertFault name given = none) (keyless : layout.Keyless given)
    (inserted : table.insert given.pairs = .ok after) :
    ∃ number, table.freshNumber = .ok number ∧ Shaped layout after ∧ after.name = table.name ∧
      after.rows = TableData.place (Slip.stored ⟨number, layout.laid given number⟩) table.rows := by
  obtain ⟨fine, complete⟩ := (Option.orElse_eq_none _ _).mp sound
  have takes := takes_sound fine keyless
  have supplied := supplied_of_sound complete proper keyless
  cases fresh : table.freshNumber with
  | error failure =>
      unfold TableData.insert at inserted
      rw [targets_known shaped.columns proper takes] at inserted
      simp only [bind, Except.bind] at inserted
      rw [targets_plain] at inserted
      simp [fresh] at inserted
  | ok number =>
      rw [insert_laid proper shaped.columns supplied takes fresh] at inserted
      split at inserted
      · cases inserted
      · cases inserted
        refine ⟨number, rfl, ⟨shaped.columns, fun row member => ?_⟩, rfl, rfl⟩
        rcases TableData.mem_putBefore.mp member with rfl | old
        · simp [Slip.stored, Assoc.values, laid]
        · exact shaped.wide row old

theorem laid_tells (proper : layout.Proper) {given : Row} (takes : layout.Takes given.pairs)
    (found : given.get? name = some value) (number : Int) :
    (Slip.stored ⟨number, layout.laid given number⟩).cells[layout.position name]? = some (.ofValue value) := by
  obtain ⟨kind, known, plain, _⟩ := takes _ (Assoc.lookup_mem found)
  simp [Slip.stored, Assoc.values, laid, Layout.cell, position_known proper known, plain, found]

theorem delete_rows (shaped : Shaped layout table) (filter : List (String × Value)) :
    (table.delete filter).2.name = table.name ∧ Shaped layout (table.delete filter).2 :=
  ⟨rfl, shaped.columns, fun row member => shaped.wide row (List.mem_of_mem_filter member)⟩

section Reading
variable (proper : layout.Proper) (shaped : Shaped layout table)
include proper shaped

theorem shown_cells (member : row ∈ table.rows) :
    (layout.columns.map (·.1)).map (fun name => TableData.look row (table.reference name)) = row.cells := by
  have wide := shaped.wide row member
  refine List.ext_getElem? fun index => ?_
  cases there : layout.columns[index]? with
  | none =>
      have outside : row.cells[index]? = none := by
        rw [List.getElem?_eq_none_iff] at there ⊢
        omega
      simp [there, outside]
  | some column =>
      obtain ⟨name, kind⟩ := column
      have shown := reference_known shaped.columns proper (kind?_of_mem proper (List.mem_of_getElem? there))
      rw [position_at proper there] at shown
      have bound : index < row.cells.length := wide ▸ (List.getElem?_eq_some_iff.mp there).1
      simp [there, shown, TableData.look, bound]

theorem select_parts {rows : List Row}
    (read : Connection.rows? layout (.found (table.select (layout.columns.map (·.1)) filter)) = some rows) :
    (rows = [] → ∀ row ∈ table.rows, table.selects filter row = false) ∧
      ∀ shown ∈ rows, ∃ row ∈ table.rows, table.selects filter row = true ∧
        Connection.row? layout row.cells = some shown := by
  have chosen (row : Stored) : row ∈ table.inOrder (table.rows.filter (table.selects filter)) ↔
      row ∈ table.rows ∧ table.selects filter row = true := TableData.mem_inOrder.trans List.mem_filter
  obtain ⟨long, each⟩ := List.forall₂_iff_get.mp (mapM_parts read)
  refine ⟨?_, ?_⟩
  · rintro rfl row member
    refine Bool.eq_false_iff.mpr fun selected => ?_
    have none : table.inOrder (table.rows.filter (table.selects filter)) = [] :=
      List.map_eq_nil_iff.mp (List.length_eq_zero_iff.mp long)
    have there := (chosen row).mpr ⟨member, selected⟩
    rw [none] at there
    cases there
  · intro shown member
    obtain ⟨index, bound, rfl⟩ := List.mem_iff_getElem.mp member
    have read := each index (long ▸ bound) bound
    have within : index < (table.inOrder (table.rows.filter (table.selects filter))).length := by
      rw [TableData.select, List.length_map] at long
      omega
    obtain ⟨there, selected⟩ := (chosen _).mp (List.getElem_mem within)
    refine ⟨_, there, selected, ?_⟩
    rw [← shown_cells proper shaped there]
    simpa [TableData.select] using read

end Reading

theorem row?_tells (proper : layout.Proper) (wide : row.cells.length = layout.columns.length) {shown : Row}
    (read : Connection.row? layout row.cells = some shown) (known : layout.kind? name = some kind)
    (accepted : kind.accepts value = true) (tells : row.cells[layout.position name]? = some (.ofValue value)) :
    shown.get? name = some value := by
  obtain ⟨pairs, zipped, rfl⟩ := Option.map_eq_some_iff.mp read
  have each := mapM_parts zipped
  have shows : (layout.columns.zip row.cells).map (·.1.1) = pairs.map (·.1) := by
    refine List.forall₂_eq_eq_eq ▸ List.forall₂_map_left_iff.mpr (List.forall₂_map_right_iff.mpr (each.imp ?_))
    intro one pair is
    obtain ⟨_, _, rfl⟩ := Option.map_eq_some_iff.mp is
    rfl
  have names : pairs.map (·.1) = layout.columns.map (·.1) := calc
    pairs.map (·.1) = (layout.columns.zip row.cells).map (·.1.1) := shows.symm
    _ = ((layout.columns.zip row.cells).map (·.1)).map (·.1) := List.map_map.symm
    _ = layout.columns.map (·.1) := by rw [List.map_fst_zip (Nat.le_of_eq wide.symm)]
  have distinct : (pairs.map (·.1)).Nodup := names ▸ proper.distinct
  rw [Assoc.ofList_distinct distinct]
  refine Assoc.lookup_of_mem distinct ?_
  have there : (layout.columns.zip row.cells)[layout.position name]? = some ((name, kind), .ofValue value) :=
    List.getElem?_zip_eq_some.mpr ⟨position_known proper known, tells⟩
  obtain ⟨bound, is⟩ := List.getElem?_eq_some_iff.mp there
  obtain ⟨long, all⟩ := List.forall₂_iff_get.mp each
  have cell := all _ bound (long ▸ bound)
  simp only [List.get_eq_getElem, is, Connection.cell?, read_accepted accepted, Option.map_some, Option.some.injEq] at cell
  rw [cell]
  exact List.getElem_mem _

end Tables

namespace Database
variable {database : Database} {data later : TableData}

def Apart (database : Database) : Prop := database.tables.Pairwise fun a b => sameName a.name b.name = false

theorem Apart.withTable_held (apart : database.Apart) (held : database.table? name = some data) :
    database.withTable data = database := by
  refine congrArg Database.mk ((List.map_congr_left fun other member => ?_).trans (List.map_id _))
  split
  · rename_i same
    by_contra different
    have symm : Std.Symm fun a b : TableData => sameName a.name b.name = false :=
      ⟨fun a b away => sameName_comm.trans away⟩
    have away := apart.forall (List.mem_of_find?_eq_some held) member different
    rw [same] at away
    cases away
  · rfl

theorem Apart.withTable (apart : database.Apart) (later : TableData) : (database.withTable later).Apart := by
  have renamed (held : TableData) (other : String) :
      sameName (if sameName later.name held.name then later else held).name other = sameName held.name other := by
    split
    · rename_i same
      rw [sameName_comm, sameName_congr same, sameName_comm]
    · rfl
  refine List.pairwise_map.mpr (apart.imp fun {a b} away => ?_)
  rw [renamed, sameName_comm, renamed, sameName_comm]
  exact away

theorem Apart.append (apart : database.Apart) (free : database.table? new.name = none) :
    Apart ⟨database.tables ++ [new]⟩ := by
  refine List.pairwise_append.mpr ⟨apart, List.pairwise_singleton _ _, fun held member other only => ?_⟩
  rw [List.mem_singleton.mp only, sameName_comm]
  exact Bool.eq_false_iff.mpr (List.find?_eq_none.mp free held member)

end Database

namespace Connection
open FeatureGate.Action
variable {connection : Connection} {database after : Database} {data later : TableData}

theorem run_ways (statement : Statement) (values : List Value) (connection : Connection) :
    (∃ fault, run statement values connection = (.failed fault, connection)) ∨
      ∃ reply database, Database.run.attempt statement values connection.database = .ok (reply, database) ∧
        run statement values connection = (.done reply, { connection with database }) := by
  cases ended : Database.run.attempt statement values connection.database with
  | error failure =>
      refine .inl ⟨.database failure, ?_⟩
      simp [run, Action.within, Action.mapError, Database.run, ended, Outcome.mapError]
  | ok result => exact .inr ⟨result.1, result.2, rfl, run_done ended⟩

theorem onTable_parts {step : TableData → Except Failure (Reply × TableData)}
    (done : Database.run.onTable database name step = .ok (reply, after)) :
    ∃ data later, database.table? name = some data ∧ step data = .ok (reply, later) ∧
      after = database.withTable later := by
  unfold Database.run.onTable at done
  cases held : database.table? name with
  | none => rw [held] at done; cases done
  | some data =>
      rw [held] at done
      obtain ⟨⟨_, later⟩, stepped, is⟩ := Database.map_parts done
      cases is
      exact ⟨data, later, rfl, stepped, rfl⟩

theorem checked_ways (table : String) (asked : Layout → Option Fault) (next : Layout → Action Connection Fault α)
    (connection : Connection) :
    (∃ fault, (checked table asked >>= next) connection = (.failed fault, connection)) ∨
      ∃ layout, connection.layouts.get? table = some layout ∧ asked layout = none ∧
        (checked table asked >>= next) connection = next layout connection := by
  cases known : connection.layouts.get? table with
  | none => exact .inl ⟨_, bind_failed (checked_none known)⟩
  | some layout => cases right : asked layout with
      | some fault => exact .inl ⟨fault, bind_failed (checked_refused known right)⟩
      | none => exact .inr ⟨layout, rfl, right, bind_done (checked_done known right)⟩

-- How a call ends: it comes to nothing, or its statement goes through, on the table that
-- is there and with the layout that is registered.
theorem createTable_ends (table : String) (layout : Layout) (connection : Connection) :
    (∃ fault, createTable table layout connection = (.failed fault, connection)) ∨
      ∃ database, connection.database.createTable table layout.columns = .ok database ∧
        createTable table layout connection = (.done (), ⟨database, connection.layouts.put table layout⟩) := by
  cases wrong : layout.nameFault table with
  | some fault =>
      refine .inl ⟨fault, ?_⟩
      unfold createTable
      rw [wrong]
      rfl
  | none =>
      rcases run_ways (.createTable table layout.columns) [] connection with ⟨fault, failed⟩ | ⟨reply, _, ended, _⟩
      · refine .inl ⟨fault, ?_⟩
        unfold createTable
        rw [wrong]
        exact (bind_done rfl).trans (bind_failed failed)
      · obtain ⟨_, created, is⟩ := Database.map_parts ended
        cases is
        exact .inr ⟨_, created, createTable_done wrong created⟩

theorem insert_ends (table : String) (row : Row) (connection : Connection) :
    (∃ fault, insert table row connection = (.failed fault, connection)) ∨
      ∃ layout data later, connection.layouts.get? table = some layout ∧ layout.insertFault table row = none ∧
        connection.database.table? table = some data ∧ data.insert row.pairs = .ok later ∧
        insert table row connection =
          (.done (), { connection with database := connection.database.withTable later }) := by
  rcases checked_ways table (·.insertFault table row) _ connection with failed | ⟨layout, registered, right, goesOn⟩
  · exact .inl failed
  · rcases run_ways (.insert table row.names) row.values connection with ⟨fault, failed⟩ | ⟨reply, _, ended, ran⟩
    · exact .inl ⟨fault, goesOn.trans (bind_failed failed)⟩
    · obtain ⟨data, later, held, stepped, rfl⟩ := onTable_parts ended
      rw [zip_pairs] at stepped
      obtain ⟨_, inserted, is⟩ := Database.map_parts stepped
      cases is
      exact .inr ⟨layout, data, later, registered, right, held, inserted, goesOn.trans (bind_done ran)⟩

theorem update_ends (table : String) (assignment filter : Row) (connection : Connection) :
    (∃ fault, update table assignment filter connection = (.failed fault, connection)) ∨
      (assignment.isEmpty = true ∧ update table assignment filter connection = (.done 0, connection)) ∨
      ∃ layout data later count, connection.layouts.get? table = some layout ∧
        layout.updateFault table assignment filter = none ∧ assignment.isEmpty = false ∧
        connection.database.table? table = some data ∧
        data.update assignment.pairs filter.pairs = .ok (count, later) ∧
        update table assignment filter connection =
          (.done count, { connection with database := connection.database.withTable later }) := by
  rcases checked_ways table (·.updateFault table assignment filter) _ connection with
    failed | ⟨layout, registered, right, goesOn⟩
  · exact .inl failed
  · cases empty : assignment.isEmpty with
    | true =>
        refine .inr (.inl ⟨rfl, goesOn.trans ?_⟩)
        simp [empty]
    | false =>
        have busy : update table assignment filter connection =
            (run (.update table assignment.names filter.names) (assignment.values ++ filter.values) >>= fun reply =>
              Pure.pure (countOf reply)) connection := goesOn.trans (by simp [empty])
        rcases run_ways (.update table assignment.names filter.names) (assignment.values ++ filter.values) connection
          with ⟨fault, failed⟩ | ⟨reply, _, ended, ran⟩
        · exact .inl ⟨fault, busy.trans (bind_failed failed)⟩
        · obtain ⟨data, later, held, stepped, rfl⟩ := onTable_parts ended
          have second : filter.names.zip ((assignment.values ++ filter.values).drop assignment.names.length) =
              filter.pairs := by
            have long : assignment.names.length = assignment.values.length := by simp [Assoc.names, Assoc.values]
            rw [long, List.drop_left, zip_pairs]
          rw [zip_values, second] at stepped
          obtain ⟨⟨count, _⟩, updated, is⟩ := Database.map_parts stepped
          cases is
          exact .inr (.inr ⟨layout, data, _, count, registered, right, rfl, held, updated, busy.trans (bind_done ran)⟩)

theorem delete_ends (table : String) (filter : Row) (connection : Connection) :
    (∃ fault, delete table filter connection = (.failed fault, connection)) ∨
      ∃ layout data count, connection.layouts.get? table = some layout ∧
        connection.database.table? table = some data ∧
        delete table filter connection = (.done count,
          { connection with database := connection.database.withTable (data.delete filter.pairs).2 }) := by
  rcases checked_ways table (·.cellsFault table filter) _ connection with failed | ⟨layout, registered, right, goesOn⟩
  · exact .inl failed
  · rcases run_ways (.delete table filter.names) filter.values connection with ⟨fault, failed⟩ | ⟨reply, _, ended, ran⟩
    · exact .inl ⟨fault, goesOn.trans (bind_failed failed)⟩
    · obtain ⟨data, later, held, stepped, rfl⟩ := onTable_parts ended
      rw [zip_pairs] at stepped
      cases stepped
      exact .inr ⟨layout, data, _, registered, held, goesOn.trans (bind_done ran)⟩

theorem select_ends (table : String) (filter : Row) (connection : Connection) :
    (∃ fault, select table filter connection = (.failed fault, connection)) ∨
      ∃ layout data, connection.layouts.get? table = some layout ∧ connection.database.table? table = some data ∧
        select table filter connection =
          ((rows? layout (.found (data.select (layout.columns.map (·.1)) filter.pairs))).elim
              (.failed (.database .unspecified)) .done,
            { connection with database := connection.database.withTable data }) := by
  rcases checked_ways table (·.cellsFault table filter) _ connection with failed | ⟨layout, registered, right, goesOn⟩
  · exact .inl failed
  · rcases run_ways (.select table (layout.columns.map (·.1)) filter.names) filter.values connection with
      ⟨fault, failed⟩ | ⟨reply, _, ended, ran⟩
    · exact .inl ⟨fault, goesOn.trans (bind_failed failed)⟩
    · obtain ⟨data, later, held, stepped, rfl⟩ := onTable_parts ended
      rw [zip_pairs] at stepped
      cases stepped
      refine .inr ⟨layout, data, registered, held, (goesOn.trans (bind_done ran)).trans ?_⟩
      cases rows? layout (.found (data.select (layout.columns.map (·.1)) filter.pairs)) <;> rfl

structure Shaped (declared : String → Layout → Prop) (connection : Connection) : Prop where
  apart : connection.database.Apart
  shapes : ∀ name layout, declared name layout → ∀ data, connection.database.table? name = some data →
    Sql.Shaped layout data
  layouts : ∀ name layout, connection.layouts.get? name = some layout → declared name layout

variable {declared : String → Layout → Prop} (catalogue : Catalogue declared) (shaped : connection.Shaped declared)
include catalogue shaped

theorem Shaped.exchange (known : declared name layout) (held : connection.database.table? name = some data)
    (named : later.name = data.name) (fits : Sql.Shaped layout later) :
    Shaped declared { connection with database := connection.database.withTable later } := by
  refine ⟨shaped.apart.withTable later, ?_, shaped.layouts⟩
  intro other layout' known' data' found
  simp only [Database.table?_withTable held named] at found
  by_cases same : sameName other name = true
  · rw [if_pos same] at found
    cases found
    obtain ⟨_, rfl⟩ := catalogue.apart _ _ _ _ known' known same
    exact fits
  · rw [if_neg same] at found
    exact shaped.shapes _ _ known' _ found

theorem insert_ways (table : String) (row : Row) (writable : Writable declared table row) :
    (∃ fault, insert table row connection = (.failed fault, connection)) ∨
      ∃ layout data number later, declared table layout ∧ connection.database.table? table = some data ∧
        later.name = data.name ∧ Sql.Shaped layout later ∧ layout.Takes row.pairs ∧ data.freshNumber = .ok number ∧
        later.rows = TableData.place (Slip.stored ⟨number, layout.laid row number⟩) data.rows ∧
        insert table row connection =
          (.done (), { connection with database := connection.database.withTable later }) := by
  rcases insert_ends table row connection with failed | ⟨layout, data, later, registered, right, held, inserted, done⟩
  · exact .inl failed
  · have known := shaped.layouts _ _ registered
    obtain ⟨number, fresh, fits, named, rows⟩ := insert_rows (catalogue.proper _ _ known)
      (shaped.shapes _ _ known _ held) right (writable _ known) inserted
    have takes := takes_sound ((Option.orElse_eq_none _ _).mp right).1 (writable _ known)
    exact .inr ⟨layout, data, number, later, known, held, named, fits, takes, fresh, rows, done⟩

theorem update_ways (table : String) (assignment filter : Row) (writable : Writable declared table assignment) :
    (∃ fault, update table assignment filter connection = (.failed fault, connection)) ∨
      (assignment.isEmpty = true ∧ update table assignment filter connection = (.done 0, connection)) ∨
      ∃ layout data later count, declared table layout ∧ connection.database.table? table = some data ∧
        later.name = data.name ∧ Sql.Shaped layout later ∧
        data.update assignment.pairs filter.pairs = .ok (count, later) ∧
        (∀ row ∈ later.rows, ((assignment.pairs.map (·.1)).Nodup → Tells layout assignment.pairs row) ∨
          (row ∈ data.rows ∧ data.selects filter.pairs row = false)) ∧
        update table assignment filter connection =
          (.done count, { connection with database := connection.database.withTable later }) := by
  rcases update_ends table assignment filter connection with
    failed | idle | ⟨layout, data, later, count, registered, right, _, held, updated, done⟩
  · exact .inl failed
  · exact .inr (.inl idle)
  · have known := shaped.layouts _ _ registered
    have takes := takes_sound ((Option.orElse_eq_none _ _).mp right).1 (writable _ known)
    obtain ⟨named, fits, rows⟩ := update_rows (catalogue.proper _ _ known) (shaped.shapes _ _ known _ held)
      takes updated
    exact .inr (.inr ⟨layout, data, later, count, known, held, named, fits, updated, rows, done⟩)

omit catalogue in
theorem delete_ways (table : String) (filter : Row) :
    (∃ fault, delete table filter connection = (.failed fault, connection)) ∨
      ∃ layout data count, declared table layout ∧ connection.database.table? table = some data ∧
        delete table filter connection = (.done count,
          { connection with database := connection.database.withTable (data.delete filter.pairs).2 }) :=
  (delete_ends table filter connection).imp_right fun ⟨layout, data, count, registered, held, done⟩ =>
    ⟨layout, data, count, shaped.layouts _ _ registered, held, done⟩

omit catalogue in
theorem select_ways (table : String) (filter : Row) :
    (∃ fault, select table filter connection = (.failed fault, connection)) ∨
      ∃ layout data rows, declared table layout ∧ connection.layouts.get? table = some layout ∧
        connection.database.table? table = some data ∧
        rows? layout (.found (data.select (layout.columns.map (·.1)) filter.pairs)) = some rows ∧
        select table filter connection = (.done rows, connection) := by
  rcases select_ends table filter connection with failed | ⟨layout, data, registered, held, read⟩
  · exact .inl failed
  · rw [shaped.apart.withTable_held held] at read
    cases shown : rows? layout (.found (data.select (layout.columns.map (·.1)) filter.pairs)) with
    | none =>
        rw [shown] at read
        exact .inl ⟨_, read⟩
    | some rows =>
        rw [shown] at read
        exact .inr ⟨layout, data, rows, shaped.layouts _ _ registered, registered, held, shown, read⟩

theorem createTable_ways (known : declared name layout) :
    (∃ fault, createTable name layout connection = (.failed fault, connection)) ∨
      ∃ after, Shaped declared after ∧ createTable name layout connection = (.done (), after) ∧
        ∀ other, after.database.table? other = (connection.database.table? other).or
          (if sameName other name then some { name := name, columns := layout.columns } else none) := by
  cases named : layout.nameFault name with
  | some fault =>
      refine .inl ⟨fault, ?_⟩
      unfold createTable
      rw [named]
      rfl
  | none =>
      have created := createTable_proper connection.database (catalogue.proper _ _ known) (catalogue.free _ _ known)
      have done := createTable_done named created
      have registers (other : String) (layout' : Layout)
          (found : (connection.layouts.put name layout).get? other = some layout') : declared other layout' := by
        rw [Assoc.get?_put] at found
        by_cases here : other = name
        · rw [if_pos here] at found
          cases found
          rw [here]
          exact known
        · rw [if_neg here] at found
          exact shaped.layouts _ _ found
      cases held : connection.database.table? name with
      | some data =>
          simp only [held, Option.isSome_some, if_true] at done
          refine .inr ⟨_, ?_, done, fun other => ?_⟩
          · exact ⟨shaped.apart, shaped.shapes, registers⟩
          · by_cases same : sameName other name = true
            · simp [Database.table?_congr same, held]
            · simp [same]
      | none =>
          simp only [held, Option.isSome_none, Bool.false_eq_true, if_false] at done
          refine .inr ⟨_, ⟨shaped.apart.append held, ?_, registers⟩, done, fun other => Database.table?_append other _⟩
          intro other layout' known' data found
          rw [Database.table?_append] at found
          cases there : connection.database.table? other with
          | some data' =>
              rw [there] at found
              cases found
              exact shaped.shapes _ _ known' _ there
          | none =>
              rw [there, Option.none_or] at found
              split at found
              · rename_i same
                cases found
                obtain ⟨_, rfl⟩ := catalogue.apart _ _ _ _ known' known same
                exact ⟨rfl, nofun⟩
              · cases found

end Connection
end Sql
end FeatureGate
