import FeatureGate.Proofs.Arrival
import FeatureGate.Proofs.Placement

namespace FeatureGate
open Table FeatureGate.Action

namespace Sql

theorem Database.rowsUnder_congr {database : Database} {table named : String} (same : sameName table named = true) :
    database.rowsUnder table = database.rowsUnder named := by
  unfold rowsUnder
  rw [table?_congr same]

def rowsAt (held : Option TableData) : List Stored := (held.map (·.rows)).getD []

namespace Connection

def deed? (table : String) (connection : Connection) : Call → Option (Deed Stored)
  | .insert named given =>
      if sameName table named then
        (newcomer? (connection.database.rowsUnder table)
          ((insert named given connection).2.database.rowsUnder table)).map .enters
      else none
  | .update named assignment filter =>
      if sameName table named ∧ assignment.isEmpty = false then
        (connection.database.table? table).map fun data => .rewrites fun row =>
          if data.selects filter.pairs row then data.revised assignment.pairs row else row
      else none
  | .delete named filter =>
      if sameName table named then
        (connection.database.table? table).map fun data => .strikes (data.selects filter.pairs)
      else none
  | .createTable .. | .select .. => none

def arrivals (calls : List Call) (table : String) : List Stored :=
  Deed.left (store.deeds (deed? table) calls {})

end Connection

inductive Moves (table : String) : Option TableData → Call → List (Deed Stored) → Option TableData → Prop
  | still {held call} : Moves table held call [] held
  | created {named layout} : sameName table named = true →
      Moves table none (.createTable named layout) [] (some { name := named, columns := layout.columns })
  | inserted {data named given row} : sameName table named = true → data.has row.number = false →
      (data.Spares given.pairs → data.freshNumber = .ok row.number) →
      Moves table (some data) (.insert named given) [.enters row] (some { data with
        rows := TableData.place row data.rows, highest := max data.highest row.number })
  | updated {data named assignment filter later count} : sameName table named = true →
      data.update assignment.pairs filter.pairs = .ok (count, later) →
      Moves table (some data) (.update named assignment filter) [.rewrites fun row =>
        if data.selects filter.pairs row then data.revised assignment.pairs row else row] (some later)
  | deleted {data named filter} : sameName table named = true →
      Moves table (some data) (.delete named filter) [.strikes (data.selects filter.pairs)]
        (some (data.delete filter.pairs).2)

section Calls
variable {table named : String} {connection : Connection} {call : Call} {calls : List Call} {held later : Option TableData}
  {data : TableData} {deeds deed : List (Deed Stored)} {filter : Row}

theorem createTable_moves (table named : String) (layout : Layout) (connection : Connection) :
    Moves table (connection.database.table? table) (.createTable named layout) []
      ((Connection.createTable named layout connection).2.database.table? table) := by
  rcases Connection.createTable_ends named layout connection with ⟨fault, failed⟩ | ⟨database, created, done⟩
  · rw [failed]
    exact .still
  · rw [done, Database.createTable_tables created]
    cases connection.database.table? table with
    | some data => exact .still
    | none =>
        rw [Option.none_or]
        split
        · exact .created ‹_›
        · exact .still

theorem insert_moves (table named : String) (given : Row) (connection : Connection) :
    Moves table (connection.database.table? table) (.insert named given)
      (Connection.store.deed (Connection.deed? table) connection (.insert named given))
      ((Connection.store.perform (.insert named given) connection).2.database.table? table) := by
  have performed : Connection.store.perform (.insert named given) connection =
      (Connection.insert named given >>= fun _ => Pure.pure .nothing) connection := rfl
  unfold Store.deed
  rw [performed, answer_apply]
  rcases Connection.insert_ends named given connection with
    ⟨fault, failed⟩ | ⟨layout, data, later, _, _, there, inserted, done⟩
  · rw [failed]
    exact .still
  · obtain ⟨row, free, fresh, is⟩ := TableData.insert_adds inserted
    have still : later.name = data.name := (TableData.insert_grows inserted).1
    simp only [Connection.deed?, done, Outcome.map]
    rw [Database.table?_withTable there still, Database.rowsUnder_withTable there still]
    by_cases same : sameName table named = true
    · rw [Database.rowsUnder_congr same, Database.rowsUnder_held there, Database.table?_congr same, there]
      simp only [if_pos same, is, TableData.newcomer?_place (TableData.has_none free)]
      exact .inserted same free fresh
    · simp only [if_neg same]
      exact .still

theorem update_moves (table named : String) (assignment filter : Row) (connection : Connection) :
    Moves table (connection.database.table? table) (.update named assignment filter)
      (Connection.store.deed (Connection.deed? table) connection (.update named assignment filter))
      ((Connection.store.perform (.update named assignment filter) connection).2.database.table? table) := by
  have performed : Connection.store.perform (.update named assignment filter) connection =
      (Connection.update named assignment filter >>= fun changed => Pure.pure (.count changed)) connection := rfl
  unfold Store.deed
  rw [performed, answer_apply]
  rcases Connection.update_ends named assignment filter connection with
    ⟨fault, failed⟩ | ⟨nothing, idle⟩ | ⟨layout, data, later, count, _, _, something, there, updated, done⟩
  · rw [failed]
    exact .still
  · simp only [Connection.deed?, idle, Outcome.map, nothing, Bool.true_eq_false, and_false, if_false]
    exact .still
  · simp only [Connection.deed?, done, Outcome.map, something, and_true]
    rw [Database.table?_withTable there (TableData.update_grows updated).1]
    by_cases same : sameName table named = true
    · rw [Database.table?_congr same, there]
      simp only [if_pos same]
      exact .updated same updated
    · simp only [if_neg same]
      exact .still

theorem delete_moves (table named : String) (filter : Row) (connection : Connection) :
    Moves table (connection.database.table? table) (.delete named filter)
      (Connection.store.deed (Connection.deed? table) connection (.delete named filter))
      ((Connection.store.perform (.delete named filter) connection).2.database.table? table) := by
  have performed : Connection.store.perform (.delete named filter) connection =
      (Connection.delete named filter >>= fun gone => Pure.pure (.count gone)) connection := rfl
  unfold Store.deed
  rw [performed, answer_apply]
  rcases Connection.delete_ends named filter connection with ⟨fault, failed⟩ | ⟨layout, data, count, _, there, done⟩
  · rw [failed]
    exact .still
  · simp only [Connection.deed?, done, Outcome.map]
    rw [Database.table?_withTable there (show (data.delete filter.pairs).2.name = data.name from rfl)]
    by_cases same : sameName table named = true
    · rw [Database.table?_congr same, there]
      simp only [if_pos same]
      exact .deleted same
    · simp only [if_neg same]
      exact .still

theorem perform_moves (table : String) (connection : Connection) (call : Call) :
    Moves table (connection.database.table? table) call
      (Connection.store.deed (Connection.deed? table) connection call)
      ((Connection.store.perform call connection).2.database.table? table) := by
  cases call with
  | createTable named layout =>
      rw [Store.deed_none rfl, show (Connection.store.perform (.createTable named layout) connection).2 =
        (Connection.createTable named layout connection).2 from answer_after _ _ _]
      exact createTable_moves table named layout connection
  | insert named given => exact insert_moves table named given connection
  | update named assignment filter => exact update_moves table named assignment filter connection
  | delete named filter => exact delete_moves table named filter connection
  | select named filter =>
      have looked : (Connection.select named filter connection).2.database.table? table = connection.database.table? table :=
        congrFun (Connection.select_still named filter connection) table
      rw [Store.deed_none rfl, show (Connection.store.perform (.select named filter) connection).2 =
        (Connection.select named filter connection).2 from answer_after _ _ _, looked]
      exact .still

theorem Moves.sorts (moves : Moves table held call deed later) (ascending : Ascending (rowsAt held))
    (same : (rowsAt held).Perm (Deed.left deeds)) :
    Ascending (rowsAt later) ∧ (rowsAt later).Perm (Deed.left (deeds ++ deed)) := by
  cases moves with
  | still => exact ⟨ascending, (List.append_nil deeds).symm ▸ same⟩
  | created => exact ⟨.nil, (List.append_nil deeds).symm ▸ same⟩
  | inserted _ free _ =>
      rw [Deed.left_append]
      refine ⟨TableData.place_ascending ascending (TableData.has_none free), ?_⟩
      exact (TableData.putBefore_perm _ _ _).trans ((List.perm_append_singleton _ _).symm.trans (same.append_right _))
  | updated _ updated =>
      obtain ⟨rows, rfl, ascends, all⟩ := TableData.update_perm ascending updated
      rw [Deed.left_append]
      exact ⟨ascends, all.trans (same.map _)⟩
  | deleted =>
      rw [Deed.left_append]
      exact ⟨ascending.filter _, same.filter _⟩

theorem reached_sorts (table : String) (calls : List Call) :
    Ascending (rowsAt ((Connection.store.reached calls {}).database.table? table)) ∧
      (rowsAt ((Connection.store.reached calls {}).database.table? table)).Perm (Connection.arrivals calls table) := by
  induction calls using List.reverseRecOn with
  | nil => exact ⟨.nil, .refl _⟩
  | append_singleton calls call ih =>
      unfold Connection.arrivals
      rw [Store.reached_snoc, Store.deeds_snoc]
      exact (perform_moves table _ call).sorts ih.1 ih.2

def written : Call → List (String × Value)
  | .insert _ row => row.pairs
  | .update _ assignment _ => assignment.pairs
  | .createTable .. | .delete .. | .select .. => []

def Declares (calls : List Call) (table : String) (data : TableData) : Prop :=
  ∃ named layout, .createTable named layout ∈ calls ∧ sameName table named = true ∧ data.columns = layout.columns

theorem Declares.onward (declares : Declares calls table data) (call : Call) : Declares (calls ++ [call]) table data := by
  obtain ⟨named, layout, member, rest⟩ := declares
  exact ⟨named, layout, List.mem_append_left _ member, rest⟩

theorem Moves.declares (moves : Moves table held call deed later) (ascending : Ascending (rowsAt held))
    (declared : ∀ data, held = some data → Declares calls table data) :
    ∀ data, later = some data → Declares (calls ++ [call]) table data := by
  intro data is
  cases moves with
  | still => exact (declared data is).onward call
  | created same =>
      cases is
      exact ⟨_, _, List.mem_append_right _ List.mem_cons_self, same, rfl⟩
  | inserted =>
      cases is
      exact (declared _ rfl).onward _
  | updated _ updated =>
      obtain ⟨rows, rfl, _, _⟩ := TableData.update_perm ascending updated
      cases is
      exact (declared _ rfl).onward _
  | deleted =>
      cases is
      exact (declared _ rfl).onward _

theorem reached_declares (table : String) (calls : List Call) : ∀ data,
    (Connection.store.reached calls {}).database.table? table = some data → Declares calls table data := by
  induction calls using List.reverseRecOn with
  | nil => exact nofun
  | append_singleton calls call ih =>
      rw [Store.reached_snoc]
      exact (perform_moves table _ call).declares (reached_sorts table calls).1 ih

-- A run that leaves it to the database to number the rows of a table. However the table is
-- declared, none of its columns takes the place of the number, and nothing is written to
-- the number or to the key that shows it. The run is not so long that numbers give out.
structure Unnumbered (calls : List Call) (table : String) : Prop where
  unnamed : ∀ data, Declares calls table data → data.column? "rowid" = none
  spares : ∀ data, Declares calls table data → ∀ call ∈ calls, sameName table call.table = true →
    data.Spares (written call)
  room : calls.length < Text.maxInteger

theorem Unnumbered.before (unnumbered : Unnumbered (calls ++ [call]) table) : Unnumbered calls table := by
  refine ⟨fun data known => unnumbered.unnamed data (known.onward call), fun data known earlier member =>
    unnumbered.spares data (known.onward call) earlier (List.mem_append_left _ member), ?_⟩
  have room := unnumbered.room
  simp only [List.length_append, List.length_singleton] at room
  omega

def roll : List Call :=
  [.createTable "t" ⟨[("id", .key), ("name", .text)]⟩, .insert "t" ⟨[("name", .text "a")]⟩,
    .update "t" ⟨[("name", .text "b")]⟩ ⟨[("id", .integer 1)]⟩]

theorem roll_unnumbered : Unnumbered roll "T" := by
  have declared : ∀ data, Declares roll "T" data → data.columns = [("id", .key), ("name", .text)] := by
    rintro data ⟨named, layout, member, _, columns⟩
    obtain ⟨_, rfl⟩ : named = "t" ∧ layout = ⟨[("id", .key), ("name", .text)]⟩ := by simpa [roll] using member
    exact columns
  have shown (data : TableData) (columns : data.columns = [("id", .key), ("name", .text)]) :
      data.column? "rowid" = none ∧ data.target? "name" = some (.column 1) := by
    simp only [TableData.target?, TableData.column?, columns]
    decide +kernel
  refine ⟨fun data known => (shown data (declared data known)).1, fun data known call member _ pair named => ?_, by decide⟩
  have is : pair.1 = "name" := by
    simp only [roll, List.mem_cons, List.not_mem_nil, or_false] at member
    rcases member with rfl | rfl | rfl <;> simp [written] at named <;> rw [named]
  rw [is, (shown data (declared data known)).2]
  simp

structure Within (steps : Nat) (data : TableData) : Prop where
  begun : 0 ≤ data.highest
  few : data.highest ≤ steps
  below : ∀ row ∈ data.rows, row.number ≤ data.highest

theorem Within.onward (within : Within steps data) : Within (steps + 1) data :=
  ⟨within.begun, by have few := within.few; omega, within.below⟩

-- While the database numbers the rows, one that comes in gets a number above all others and
-- keeps it: the order of the numbers is the order in which the rows came in.
theorem Moves.plain (moves : Moves table held call deed later) (ascending : Ascending (rowsAt held))
    (same : (rowsAt held).Perm (Deed.left deeds)) (plain : Ascending (Deed.left deeds))
    (within : ∀ data, held = some data → Within steps data) (room : steps < Text.maxInteger)
    (spares : sameName table call.table = true → ∀ data, held = some data → data.Spares (written call)) :
    Ascending (Deed.left (deeds ++ deed)) ∧ ∀ data, later = some data → Within (steps + 1) data := by
  cases moves with
  | still => exact ⟨(List.append_nil deeds).symm ▸ plain, fun data is => (within data is).onward⟩
  | created _ =>
      refine ⟨(List.append_nil deeds).symm ▸ plain, fun data is => ?_⟩
      cases is
      exact ⟨Int.le_refl _, Int.natCast_nonneg _, nofun⟩
  | @inserted data _ given row here _ fresh =>
      obtain ⟨begun, few, below⟩ := within data rfl
      obtain ⟨number, numbered, above, next, _⟩ :=
        TableData.freshNumber_room ascending below begun (by omega)
      have is : number = row.number := Except.ok.inj (numbered.symm.trans (fresh (spares here data rfl)))
      subst is
      rw [Deed.left_append]
      refine ⟨List.pairwise_append.mpr ⟨plain, List.pairwise_singleton _ _, fun old member new only => ?_⟩, ?_⟩
      · rw [List.mem_singleton.mp only]
        exact above old (same.mem_iff.mpr member)
      · rintro _ ⟨⟩
        refine ⟨Int.le_trans begun (Int.le_max_left _ _), ?_, fun held member => ?_⟩
        · show max data.highest row.number ≤ _
          omega
        · rcases TableData.mem_putBefore.mp member with rfl | old
          · exact Int.le_max_right _ _
          · exact Int.le_trans (below held old) (Int.le_max_left _ _)
  | @updated data _ assignment filter later _ here updated =>
      obtain ⟨begun, few, below⟩ := within data rfl
      have kept (row : Stored) : (if data.selects filter.pairs row then data.revised assignment.pairs row else row).number =
          row.number := by
        split
        · exact (spares here data rfl).revised_number row
        · rfl
      obtain ⟨rows, rfl, _, all⟩ := TableData.update_perm ascending updated
      rw [Deed.left_append]
      refine ⟨List.pairwise_map.mpr (plain.imp fun {a b} less => by rwa [kept, kept]), ?_⟩
      rintro _ ⟨⟩
      refine Within.onward ⟨begun, few, fun row member => ?_⟩
      obtain ⟨old, there, rfl⟩ := List.mem_map.mp (all.mem_iff.mp member)
      rw [kept]
      exact below old there
  | @deleted data _ filter here =>
      obtain ⟨begun, few, below⟩ := within data rfl
      rw [Deed.left_append]
      refine ⟨plain.filter _, ?_⟩
      rintro _ ⟨⟩
      exact Within.onward ⟨begun, few, fun row member => below row (List.mem_of_mem_filter member)⟩

theorem reached_plain (unnumbered : Unnumbered calls table) : Ascending (Connection.arrivals calls table) ∧
    ∀ data, (Connection.store.reached calls {}).database.table? table = some data → Within calls.length data := by
  induction calls using List.reverseRecOn with
  | nil => exact ⟨.nil, nofun⟩
  | append_singleton calls call ih =>
      obtain ⟨plain, within⟩ := ih unnumbered.before
      obtain ⟨ascending, same⟩ := reached_sorts table calls
      unfold Connection.arrivals
      rw [Store.reached_snoc, Store.deeds_snoc, List.length_append]
      refine (perform_moves table _ call).plain ascending same plain within unnumbered.before.room ?_
      intro here data there
      exact unnumbered.spares data ((reached_declares table calls data there).onward call) call
        (List.mem_append_right _ List.mem_cons_self) here

def TableData.shows (data : TableData) (layout : Layout) (rows : List Stored) : Reply :=
  .found (rows.map fun row => (layout.columns.map (·.1)).map fun name => TableData.look row (data.reference name))

theorem select_found {rows : List Row} (read : (Connection.select table filter connection).1 = .done rows) :
    ∃ layout data, connection.layouts.get? table = some layout ∧ connection.database.table? table = some data ∧
      Connection.rows? layout (data.shows layout (data.inOrder (data.rows.filter (data.selects filter.pairs)))) =
        some rows := by
  rcases Connection.select_ends table filter connection with ⟨fault, failed⟩ | ⟨layout, data, registered, there, done⟩
  · rw [failed] at read
    cases read
  · refine ⟨layout, data, registered, there, ?_⟩
    rw [done] at read
    change (Connection.rows? layout (.found (data.select (layout.columns.map (·.1)) filter.pairs))).elim _ _ = _ at read
    show Connection.rows? layout (.found (data.select (layout.columns.map (·.1)) filter.pairs)) = some rows
    cases shown : Connection.rows? layout (.found (data.select (layout.columns.map (·.1)) filter.pairs)) with
    | none => rw [shown] at read; cases read
    | some found => rw [shown] at read; cases read; rfl

end Calls
end Sql

namespace Registry

theorem rowsOf_read (store : Store σ) (read : (store.select table key s).1 = .done rows) :
    rowsOf store table key s = (.done rows, (store.select table key s).2) := by
  unfold rowsOf Action.mapError
  rw [read]
  rfl

structure Speaks (store : Store σ) (s : σ) (table : String) (key : Row) (rows : List Row) : Prop where
  state : (state? store table key s).1 = .ofExcept ((firstOf (permissionOf · "state") rows).mapError .validation)
  defaults : ∀ plugin feature, table = features → key = featureKey plugin feature →
    (defaults? store plugin feature s).1 = .ofExcept ((firstOf defaultsOf rows).mapError .validation)

theorem speaks_read (store : Store σ) (read : (store.select table key s).1 = .done rows) : Speaks store s table key rows := by
  have found := rowsOf_read store read
  refine ⟨?_, ?_⟩
  · unfold state?
    rw [bind_done found]
    rfl
  · rintro plugin feature rfl rfl
    unfold defaults?
    rw [bind_done found]
    rfl

end Registry

namespace Sql

structure Succession (calls : List Call) (table : String) : Prop where
  shelf : ∀ filter rows, (Shelf.select table filter (Shelf.store.reached calls Shelf.empty)).1 = .done rows →
    Registry.Speaks Shelf.store (Shelf.store.reached calls Shelf.empty) table filter rows ∧
      rows = (Deed.left (Shelf.store.deeds (Shelf.deed? table) calls Shelf.empty)).filter (Row.answers · filter)
  -- Not the order of arrival, unless every row is ahead of those that came in later.
  database : ∀ filter rows, (Connection.select table filter (Connection.store.reached calls {})).1 = .done rows →
    Registry.Speaks Connection.store (Connection.store.reached calls {}) table filter rows ∧
    ∃ layout data ordered, (Connection.store.reached calls {}).layouts.get? table = some layout ∧
      (Connection.store.reached calls {}).database.table? table = some data ∧
      Connection.rows? layout (data.shows layout ordered) = some rows ∧
      ordered.Perm ((Connection.arrivals calls table).filter (data.selects filter.pairs)) ∧
      ordered.Pairwise data.Ahead ∧
      (ordered = (Connection.arrivals calls table).filter (data.selects filter.pairs) ↔
        ((Connection.arrivals calls table).filter (data.selects filter.pairs)).Pairwise data.Ahead)
  plain : Unnumbered calls table → ∀ filter rows,
    (Connection.select table filter (Connection.store.reached calls {})).1 = .done rows →
    ∃ layout data, (Connection.store.reached calls {}).layouts.get? table = some layout ∧
      (Connection.store.reached calls {}).database.table? table = some data ∧
      Connection.rows? layout (data.shows layout
        ((Connection.arrivals calls table).filter (data.selects filter.pairs))) = some rows

theorem select_ahead {rows : List Row}
    (read : (Connection.select table filter (Connection.store.reached calls {})).1 = .done rows) :
    ∃ layout data ordered, (Connection.store.reached calls {}).layouts.get? table = some layout ∧
      (Connection.store.reached calls {}).database.table? table = some data ∧
      Connection.rows? layout (data.shows layout ordered) = some rows ∧
      ordered.Perm ((Connection.arrivals calls table).filter (data.selects filter.pairs)) ∧
      ordered.Pairwise data.Ahead := by
  obtain ⟨layout, data, registered, there, shown⟩ := select_found read
  obtain ⟨ascending, same⟩ := reached_sorts table calls
  rw [there] at ascending same
  exact ⟨layout, data, _, registered, there, shown, (TableData.inOrder_perm _).trans (same.filter _),
    TableData.inOrder_ahead (ascending.filter _)⟩

theorem successions (calls : List Call) (table : String) : Succession calls table := by
  refine ⟨?_, ?_, ?_⟩
  · intro filter rows read
    refine ⟨Registry.speaks_read Shelf.store read, ?_⟩
    rw [Shelf.select_rows read, Shelf.rows_left]
  · intro filter rows read
    obtain ⟨layout, data, ordered, registered, there, shown, same, ahead⟩ := select_ahead read
    exact ⟨Registry.speaks_read Connection.store read, layout, data, ordered, registered, there, shown, same, ahead,
      fun is => is ▸ ahead, fun came => TableData.ahead_unique ahead came same⟩
  · intro unnumbered filter rows read
    obtain ⟨layout, data, ordered, registered, there, shown, same, ahead⟩ := select_ahead read
    have unnamed := unnumbered.unnamed data (reached_declares table calls data there)
    have came : ((Connection.arrivals calls table).filter (data.selects filter.pairs)).Pairwise data.Ahead :=
      ((reached_plain unnumbered).1.filter _).imp fun less => TableData.ahead_number unnamed less
    rw [TableData.ahead_unique ahead came same] at shown
    exact ⟨layout, data, registered, there, shown⟩

-- Two rows of one override, brought in by someone else under keys of their own.
def twin (id : Int) (state : Int) : Row :=
  ⟨[("id", .integer id), ("plugin", .text "p"), ("feature", .text "f"), ("group_id", .text "g"), ("state", .integer state)]⟩

def twins : List Call :=
  [.createTable Registry.groups (Registry.keyed [("group_id", .text), ("state", .integer)]),
    .insert Registry.groups (twin 2 0), .insert Registry.groups (twin 1 1)]

theorem later_twin_heard :
    (Shelf.select Registry.groups (Registry.groupKey "p" "f" "g") (Shelf.store.reached twins Shelf.empty)).1 =
        .done [twin 2 0, twin 1 1] ∧
      (Connection.select Registry.groups (Registry.groupKey "p" "f" "g") (Connection.store.reached twins {})).1 =
        .done [twin 1 1, twin 2 0] ∧
      (Registry.groupOverride? Shelf.store "p" "f" "g" (Shelf.store.reached twins Shelf.empty)).1 = .done (some .deny) ∧
      (Registry.groupOverride? Connection.store "p" "f" "g" (Connection.store.reached twins {})).1 =
        .done (some .allow) := by
  decide +kernel

end Sql
end FeatureGate
