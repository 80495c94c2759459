import FeatureGate.Proofs.TableAgreement

namespace FeatureGate.Sql
open Table Layout

theorem sameName_trans (one : sameName a b = true) (other : sameName b c = true) : sameName a c = true :=
  sameName_iff.mpr ((sameName_iff.mp one).trans (sameName_iff.mp other))

theorem sameName_congr (same : sameName a b = true) (other : String) : sameName other a = sameName other b := by
  refine Bool.eq_iff_iff.mpr ⟨fun left => sameName_trans left same, fun right => sameName_trans right ?_⟩
  rw [sameName_comm]
  exact same

namespace Database
variable {database : Database} {table after : TableData}

theorem table?_named (held : database.table? name = some table) : sameName name table.name = true := by
  simpa using List.find?_some held

theorem table?_congr (same : sameName a b = true) : database.table? a = database.table? b := by
  refine congrArg (List.find? · database.tables) (funext fun held => ?_)
  rw [sameName_comm, sameName_congr same, sameName_comm]

theorem table?_withTable (held : database.table? name = some table) (named : after.name = table.name) (other : String) :
    (database.withTable after).table? other = if sameName other name then some after else database.table? other := by
  have is := table?_named held
  have asked : (database.withTable after).table? other = (database.table? other).map fun held =>
      if sameName after.name held.name then after else held := by
    unfold table? withTable
    rw [List.find?_map]
    refine congrArg (Option.map _) (congrArg (List.find? · database.tables) (funext fun held => ?_))
    simp only [Function.comp_apply]
    split
    · exact sameName_congr ‹_› other
    · rfl
  rw [asked]
  by_cases same : sameName other name = true
  · rw [if_pos same, table?_congr same, held, Option.map_some, named, if_pos (sameName_refl _)]
  · rw [if_neg same]
    cases found : database.table? other with
    | none => rfl
    | some third =>
        have apart : ¬sameName after.name third.name = true := by
          intro together
          rw [named, ← sameName_congr (table?_named found), sameName_comm, ← sameName_congr is] at together
          exact same together
        rw [Option.map_some, if_neg apart]

theorem table?_append (other : String) (new : TableData) :
    (⟨database.tables ++ [new]⟩ : Database).table? other =
      (database.table? other).or (if sameName other new.name then some new else none) := by
  unfold table?
  rw [List.find?_append, List.find?_singleton]

end Database

def Grows (table after : TableData) : Prop := after.name = table.name ∧ table.highest ≤ after.highest

namespace TableData
variable {table after : TableData}

theorem insert_grows (inserted : table.insert given = .ok after) : Grows table after := by
  unfold insert at inserted
  simp only [bind, Except.bind] at inserted
  repeat' split at inserted
  all_goals cases inserted
  all_goals exact ⟨rfl, Int.le_max_left _ _⟩

theorem updateRow_grows (updated : updateRow targets table row = .ok after) : Grows table after := by
  unfold updateRow at updated
  simp only [bind, Except.bind] at updated
  repeat' split at updated
  all_goals cases updated
  all_goals exact ⟨rfl, Int.le_refl _⟩

theorem update_grows (updated : table.update assigned filter = .ok (count, after)) : Grows table after := by
  unfold update at updated
  simp only [bind, Except.bind] at updated
  split at updated
  · cases updated
  split at updated
  · cases updated
  rename_i targets known _ changed folded
  clear known
  cases updated
  generalize table.rows.filter (table.selects filter) = rows at folded
  induction rows generalizing table with
  | nil => cases folded; exact ⟨rfl, Int.le_refl _⟩
  | cons row rest ih =>
      rw [List.foldlM_cons] at folded
      cases first : updateRow targets table row with
      | error failure => rw [first] at folded; cases folded
      | ok middle =>
          rw [first] at folded
          have early := updateRow_grows first
          have late := ih folded
          exact ⟨late.1.trans early.1, Int.le_trans early.2 late.2⟩

end TableData

def Connection.Spent (connection : Connection) : Prop :=
  ∃ name table, connection.database.table? name = some table ∧ Text.maxInteger ≤ table.highest

namespace Database
variable {database after : Database}

def Older (database after : Database) : Prop :=
  ∀ name table, database.table? name = some table → ∃ later, after.table? name = some later ∧ Grows table later

theorem withTable_older (held : database.table? name = some table) (grows : Grows table later) :
    Older database (database.withTable later) := by
  intro other third found
  rw [table?_withTable held grows.1]
  by_cases same : sameName other name = true
  · rw [if_pos same]
    rw [table?_congr same, held] at found
    cases found
    exact ⟨later, rfl, grows⟩
  · rw [if_neg same]
    exact ⟨third, found, rfl, Int.le_refl _⟩

theorem createTable_older {columns : List (String × Kind)}
    (created : database.createTable name columns = .ok after) : Older database after := by
  have still : Older database database := fun _ table found => ⟨table, found, rfl, Int.le_refl _⟩
  unfold createTable at created
  repeat' split at created
  all_goals cases created
  · exact still
  · intro other table found
    rw [table?_append, found]
    exact ⟨table, rfl, rfl, Int.le_refl _⟩

theorem onTable_older {step : TableData → Except Failure (Reply × TableData)}
    (grows : ∀ table reply later, step table = .ok (reply, later) → Grows table later)
    (done : run.onTable database name step = .ok (reply, after)) : Older database after := by
  unfold run.onTable at done
  cases held : database.table? name with
  | none => rw [held] at done; cases done
  | some table =>
      cases stepped : step table with
      | error failure => simp only [held, stepped] at done; cases done
      | ok result =>
          simp only [held, stepped] at done
          cases done
          exact withTable_older held (grows table _ _ stepped)

theorem map_parts {result : Except Failure α} {f : α → β} (done : result.map f = .ok reached) :
    ∃ answer, result = .ok answer ∧ f answer = reached := by
  cases result with
  | error failure => cases done
  | ok answer => exact ⟨answer, rfl, Except.ok.inj done⟩

theorem run_older (statement : Statement) (values : List Value) (database : Database) :
    Older database (run statement values database).2 := by
  cases ended : run.attempt statement values database with
  | error failure =>
      simp only [run, ended]
      exact fun _ table found => ⟨table, found, rfl, Int.le_refl _⟩
  | ok result =>
      obtain ⟨reply, after⟩ := result
      simp only [run, ended]
      cases statement with
      | createTable name columns =>
          obtain ⟨_, created, is⟩ := map_parts ended
          cases is
          exact createTable_older created
      | insert name columns =>
          refine onTable_older (fun table reply later done => ?_) ended
          obtain ⟨_, inserted, is⟩ := map_parts done
          cases is
          exact TableData.insert_grows inserted
      | update name assigned filter =>
          refine onTable_older (fun table reply later done => ?_) ended
          obtain ⟨⟨_, _⟩, updated, is⟩ := map_parts done
          cases is
          exact TableData.update_grows updated
      | delete name filter =>
          refine onTable_older (fun table reply later done => ?_) ended
          cases done
          exact ⟨rfl, Int.le_refl _⟩
      | select name shown filter =>
          refine onTable_older (fun table reply later done => ?_) ended
          cases done
          exact ⟨rfl, Int.le_refl _⟩

end Database

namespace Connection
open FeatureGate.Action

theorem run_worn (statement : Statement) (values : List Value) : Keeps Spent (run statement values) := by
  intro connection spent
  obtain ⟨name, table, held, full⟩ := spent
  obtain ⟨later, still, grows⟩ := Database.run_older statement values connection.database name table held
  exact ⟨name, later, still, Int.le_trans full grows.2⟩

theorem checked_worn (table : String) (fault : Layout → Option Fault) : Keeps Spent (checked table fault) := by
  intro connection spent
  unfold checked
  repeat' split
  all_goals exact spent

theorem createTable_worn (table : String) (layout : Layout) : Keeps Spent (createTable table layout) := by
  refine Keeps.behind fun _ => Keeps.bind (run_worn _ _) fun _ => ?_
  exact fun _ spent => spent

end Connection

-- Layouts under the names of the tables they are for: no name is one of those that a
-- database keeps for itself, and no two names differ in the case of letters only.
structure Catalogue (declared : String → Layout → Prop) : Prop where
  free : ∀ table layout, declared table layout → Database.createTable.isReserved table = false
  apart : ∀ a b one other, declared a one → declared b other → sameName a b = true → a = b ∧ one = other
  proper : ∀ table layout, declared table layout → layout.Proper

-- Every sheet has its table, and no declared name has a table without a sheet.
structure Mirrors (declared : String → Layout → Prop) (shelf : Shelf) (database : Database) : Prop where
  known : ∀ name sheet, shelf.sheets.get? name = some sheet → declared name sheet.layout
  copied : ∀ name sheet, shelf.sheets.get? name = some sheet →
    ∃ table slips, database.table? name = some table ∧ Copies slips sheet table
  absent : ∀ name layout, declared name layout → shelf.sheets.get? name = none → database.table? name = none

structure Paired (declared : String → Layout → Prop) (shelf : Shelf) (connection : Connection) : Prop where
  mirrors : Mirrors declared shelf connection.database
  layouts : ∀ name, connection.layouts.get? name = (shelf.sheets.get? name).map (·.layout)

section Pairing
variable {declared : String → Layout → Prop} (catalogue : Catalogue declared) {shelf : Shelf} {database : Database}
  {sheet after : Sheet} {table later : TableData} {layout : Layout}
include catalogue

theorem Mirrors.put (mirrors : Mirrors declared shelf database) (held : shelf.sheets.get? name = some sheet)
    (there : database.table? name = some table) (same : after.layout = sheet.layout) (named : later.name = table.name)
    (copies : Copies slips after later) :
    Mirrors declared ⟨shelf.sheets.put name after⟩ (database.withTable later) := by
  have apart : ∀ other layout, declared other layout → other ≠ name → ¬sameName other name = true :=
    fun other layout known different together =>
      different (catalogue.apart _ _ _ _ known (mirrors.known _ _ held) together).1
  refine ⟨?_, ?_, ?_⟩
  · intro other third found
    rw [Assoc.get?_put] at found
    by_cases here : other = name
    · rw [if_pos here] at found
      cases found
      rw [here, same]
      exact mirrors.known _ _ held
    · rw [if_neg here] at found
      exact mirrors.known _ _ found
  · intro other third found
    rw [Assoc.get?_put] at found
    rw [Database.table?_withTable there named]
    by_cases here : other = name
    · rw [if_pos here] at found
      cases found
      rw [here, if_pos (sameName_refl _)]
      exact ⟨later, slips, rfl, copies⟩
    · rw [if_neg here] at found
      rw [if_neg (apart _ _ (mirrors.known _ _ found) here)]
      exact mirrors.copied _ _ found
  · intro other layout known found
    rw [Assoc.get?_put] at found
    by_cases here : other = name
    · rw [if_pos here] at found
      cases found
    · rw [if_neg here] at found
      rw [Database.table?_withTable there named, if_neg (apart _ _ known here)]
      exact mirrors.absent _ _ known found

theorem Mirrors.add (mirrors : Mirrors declared shelf database) (known : declared name layout)
    (held : shelf.sheets.get? name = none) :
    Mirrors declared ⟨shelf.sheets.put name { layout }⟩
      ⟨database.tables ++ [{ name := name, columns := layout.columns }]⟩ := by
  have free := mirrors.absent _ _ known held
  refine ⟨?_, ?_, ?_⟩
  · intro other third found
    rw [Assoc.get?_put] at found
    by_cases here : other = name
    · rw [if_pos here] at found
      cases found
      rw [here]
      exact known
    · rw [if_neg here] at found
      exact mirrors.known _ _ found
  · intro other third found
    rw [Assoc.get?_put] at found
    rw [Database.table?_append]
    by_cases here : other = name
    · rw [if_pos here] at found
      cases found
      rw [here, free, if_pos (sameName_refl _)]
      exact ⟨_, [], rfl, Copies.fresh layout name⟩
    · rw [if_neg here] at found
      obtain ⟨table, slips, there, copies⟩ := mirrors.copied _ _ found
      rw [there]
      exact ⟨table, slips, rfl, copies⟩
  · intro other layout known' found
    rw [Assoc.get?_put] at found
    by_cases here : other = name
    · rw [if_pos here] at found
      cases found
    · rw [if_neg here] at found
      have apart : ¬sameName other name = true :=
        fun together => here (catalogue.apart _ _ _ _ known' known together).1
      rw [Database.table?_append, mirrors.absent _ _ known' found, if_neg apart]
      rfl

end Pairing

theorem repeats_none {names : List String} (apart : names.Pairwise fun a b => sameName a b = false) :
    hasRepeatedName names = false := by
  induction names with
  | nil => rfl
  | cons name rest ih =>
      obtain ⟨first, later⟩ := List.pairwise_cons.mp apart
      simpa [hasRepeatedName, ih later] using first

theorem createTable_proper (database : Database) {layout : Layout} (proper : layout.Proper)
    (free : Database.createTable.isReserved name = false) :
    database.createTable name layout.columns = .ok (if (database.table? name).isSome then database
      else ⟨database.tables ++ [{ name := name, columns := layout.columns }]⟩) := by
  have distinct : hasRepeatedName (layout.columns.map (·.1)) = false :=
    repeats_none (List.pairwise_map.mpr proper.apart)
  have single := proper.single
  unfold Database.createTable
  rw [if_neg (by simp [proper.inhabited, free])]
  split
  · rfl
  · rw [if_neg (by simp only [distinct, Bool.false_eq_true, false_or]; omega)]

namespace Connection
open FeatureGate.Action
variable {connection : Connection} {layout : Layout} {database : Database}

theorem run_done {statement : Statement} {values : List Value} {reply : Reply}
    (done : Database.run.attempt statement values connection.database = .ok (reply, database)) :
    run statement values connection = (.done reply, { connection with database }) := by
  simp [run, Action.within, Action.mapError, Database.run, done, Outcome.mapError]

theorem createTable_done (named : layout.nameFault table = none)
    (created : connection.database.createTable table layout.columns = .ok database) :
    createTable table layout connection = (.done (), ⟨database, connection.layouts.put table layout⟩) := by
  have ran : run (.createTable table layout.columns) [] connection = (.done .done, { connection with database }) :=
    run_done (by simp [Database.run.attempt, created, Except.map])
  unfold createTable
  rw [named]
  exact (bind_done rfl).trans ((bind_done ran).trans rfl)

theorem checked_none {fault : Layout → Option Fault} (absent : connection.layouts.get? table = none) :
    checked table fault connection = (.failed (.unknownTable table), connection) := by
  simp [checked, absent]

theorem checked_refused {asked : Layout → Option Fault} (known : connection.layouts.get? table = some layout)
    (wrong : asked layout = some fault) : checked table asked connection = (.failed fault, connection) := by
  simp [checked, known, wrong]

theorem checked_done {asked : Layout → Option Fault} (known : connection.layouts.get? table = some layout)
    (right : asked layout = none) : checked table asked connection = (.done layout, connection) := by
  simp [checked, known, right]

end Connection

theorem zip_values (row : Row) (others : List Value) : row.names.zip (row.values ++ others) = row.pairs := by
  unfold Assoc.names Assoc.values
  generalize row.pairs = pairs
  induction pairs with
  | nil => rfl
  | cons pair rest ih => simp [ih]

theorem zip_pairs (row : Row) : row.names.zip row.values = row.pairs := by
  simpa using zip_values row []

section Calls
open FeatureGate.Action
variable {declared : String → Layout → Prop} (catalogue : Catalogue declared)
include catalogue

theorem createTable_agrees (table : String) (layout : Layout) (known : declared table layout) :
    Action.Agrees (Paired declared) Connection.Spent (Shelf.store.createTable table layout)
      (Connection.store.createTable table layout) := by
  refine ⟨?_, Connection.createTable_worn table layout⟩
  intro shelf connection pairs
  refine .inr ?_
  simp only [Shelf.store, Shelf.createTable, Connection.store]
  cases named : layout.nameFault table with
  | some fault =>
      have failed : Connection.createTable table layout connection = (.failed fault, connection) := by
        unfold Connection.createTable
        rw [named]
        rfl
      rw [failed]
      exact ⟨rfl, by simp, pairs⟩
  | none =>
      have created := createTable_proper connection.database (catalogue.proper _ _ known) (catalogue.free _ _ known)
      rw [Connection.createTable_done named created]
      cases held : shelf.sheets.get? table with
      | some sheet =>
          obtain ⟨there, _, found, _⟩ := pairs.mirrors.copied _ _ held
          obtain ⟨_, rfl⟩ := catalogue.apart _ _ _ _ (pairs.mirrors.known _ _ held) known (sameName_refl _)
          have registered : connection.layouts.get? table = some sheet.layout := by rw [pairs.layouts, held]; rfl
          rw [found, Assoc.put_held registered]
          exact ⟨rfl, by simp, pairs⟩
      | none =>
          have mirrors := pairs.mirrors.add catalogue known held
          rw [pairs.mirrors.absent _ _ known held]
          refine ⟨rfl, by simp, mirrors, ?_⟩
          intro name
          rw [Assoc.get?_put, Assoc.get?_put]
          split
          · rfl
          · exact pairs.layouts name

-- The four other calls look at the layout first, and then do to the sheet what they
-- do to the table.
theorem checked_agrees {fault : Layout → Option Fault} {step : Sheet → α × Sheet}
    {next : Layout → Action Connection Fault α} (table : String) (worn : ∀ layout, Keeps Connection.Spent (next layout))
    (same : ∀ sheet, (step sheet).2.layout = sheet.layout)
    (steps : ∀ connection sheet data slips, declared table sheet.layout → fault sheet.layout = none →
      connection.database.table? table = some data → Copies slips sheet data → Text.maxInteger ≤ data.highest ∨
        (next sheet.layout connection = (.done (step sheet).1, connection) ∧ (step sheet).2 = sheet) ∨
        ∃ slips' later, next sheet.layout connection =
            (.done (step sheet).1, { connection with database := connection.database.withTable later }) ∧
          Copies slips' (step sheet).2 later ∧ later.name = data.name) :
    Action.Agrees (Paired declared) Connection.Spent (Shelf.onSheet table fault step)
      (Connection.checked table fault >>= next) := by
  refine ⟨?_, Keeps.bind (Connection.checked_worn _ _) worn⟩
  intro shelf connection pairs
  have registered := pairs.layouts table
  unfold Shelf.onSheet
  cases held : shelf.sheets.get? table with
  | none =>
      rw [held] at registered
      rw [bind_failed (Connection.checked_none registered)]
      exact .inr ⟨rfl, nofun, pairs⟩
  | some sheet =>
      rw [held] at registered
      cases answered : fault sheet.layout with
      | some wrong =>
          simp only [answered]
          rw [bind_failed (Connection.checked_refused registered answered)]
          exact .inr ⟨rfl, nofun, pairs⟩
      | none =>
          simp only [answered]
          rw [bind_done (Connection.checked_done registered answered)]
          obtain ⟨data, slips, there, copies⟩ := pairs.mirrors.copied _ _ held
          rcases steps connection sheet data slips (pairs.mirrors.known _ _ held) answered there copies with
            full | ⟨done, still⟩ | ⟨slips', later, done, copiesAfter, named⟩
          · exact .inl (worn _ connection ⟨table, data, there, full⟩)
          · rw [done, still, Assoc.put_held held]
            exact .inr ⟨rfl, nofun, pairs⟩
          · rw [done]
            refine .inr ⟨rfl, nofun, pairs.mirrors.put catalogue held there (same sheet) named copiesAfter, ?_⟩
            intro name
            rw [Assoc.get?_put]
            split
            · subst name
              rw [pairs.layouts, held, Option.map_some, Option.map_some, same]
            · exact pairs.layouts name

theorem insert_agrees (table : String) (row : Row) (writable : Writable declared table row) :
    Action.Agrees (Paired declared) Connection.Spent (Shelf.store.insert table row)
      (Connection.store.insert table row) := by
  simp only [Shelf.store, Connection.store, Shelf.insert, Connection.insert]
  refine checked_agrees catalogue table ?_ (fun _ => rfl) ?_
  · exact fun _ => Keeps.bind (Connection.run_worn _ _) fun _ => Keeps.pure _
  · intro connection sheet data slips known right there copies
    by_cases room : data.highest < Text.maxInteger
    · obtain ⟨slips', later, inserted, copiesAfter, named⟩ :=
        copies.insert (catalogue.proper _ _ known) right (writable _ known) room
      have ran : Connection.run (.insert table row.names) row.values connection =
          (.done .done, { connection with database := connection.database.withTable later }) :=
        Connection.run_done (by simp [Database.run.attempt, Database.run.onTable, there, zip_pairs, inserted, Except.map])
      exact .inr (.inr ⟨slips', later, bind_done ran, copiesAfter, named⟩)
    · exact .inl (by omega)

theorem update_agrees (table : String) (assignment filter : Row) (writable : Writable declared table assignment) :
    Action.Agrees (Paired declared) Connection.Spent (Shelf.store.update table assignment filter)
      (Connection.store.update table assignment filter) := by
  simp only [Shelf.store, Connection.store, Shelf.update, Connection.update]
  refine checked_agrees catalogue table ?_ ?_ ?_
  · intro _
    exact Keeps.choose (Keeps.pure _) (Keeps.bind (Connection.run_worn _ _) fun _ => Keeps.pure _)
  · intro sheet
    rw [Sheet.update_snd]
    rfl
  · intro connection sheet data slips known right there copies
    simp only [Sheet.update_eq]
    cases empty : assignment.isEmpty with
    | true => exact .inr (.inl ⟨rfl, rfl⟩)
    | false =>
        obtain ⟨slips', later, updated, copiesAfter, named⟩ :=
          copies.update (catalogue.proper _ _ known) right (writable _ known)
        have second : filter.names.zip ((assignment.values ++ filter.values).drop assignment.names.length) =
            filter.pairs := by
          have long : assignment.names.length = assignment.values.length := by simp [Assoc.names, Assoc.values]
          rw [long, List.drop_left, zip_pairs]
        have first : assignment.names.zip (assignment.values ++ filter.values) = assignment.pairs :=
          zip_values assignment filter.values
        have ran : Connection.run (.update table assignment.names filter.names)
            (assignment.values ++ filter.values) connection = (.done (.changed (sheet.select filter).length),
              { connection with database := connection.database.withTable later }) :=
          Connection.run_done (by
            simp [Database.run.attempt, Database.run.onTable, there, first, second, updated, Except.map])
        exact .inr (.inr ⟨slips', later, bind_done ran, copiesAfter, named⟩)

theorem delete_agrees (table : String) (filter : Row) :
    Action.Agrees (Paired declared) Connection.Spent (Shelf.store.delete table filter)
      (Connection.store.delete table filter) := by
  simp only [Shelf.store, Connection.store, Shelf.delete, Connection.delete]
  refine checked_agrees catalogue table ?_ (fun _ => rfl) ?_
  · exact fun _ => Keeps.bind (Connection.run_worn _ _) fun _ => Keeps.pure _
  · intro connection sheet data slips known right there copies
    simp only [Sheet.delete_eq]
    obtain ⟨slips', later, deleted, copiesAfter, named⟩ := copies.delete (catalogue.proper _ _ known) right
    have ran : Connection.run (.delete table filter.names) filter.values connection =
        (.done (.changed (sheet.select filter).length),
          { connection with database := connection.database.withTable later }) :=
      Connection.run_done (by simp [Database.run.attempt, Database.run.onTable, there, zip_pairs, deleted, Except.map])
    exact .inr (.inr ⟨slips', later, bind_done ran, copiesAfter, named⟩)

theorem select_agrees (table : String) (filter : Row) :
    Action.Agrees (Paired declared) Connection.Spent (Shelf.store.select table filter)
      (Connection.store.select table filter) := by
  simp only [Shelf.store, Connection.store, Shelf.select, Connection.select]
  refine checked_agrees catalogue table ?_ (fun _ => rfl) ?_
  · intro layout
    refine Keeps.bind (Connection.run_worn _ _) fun reply => ?_
    cases Connection.rows? layout reply with
    | none => exact Keeps.fail _
    | some rows => exact Keeps.pure _
  · intro connection sheet data slips known right there copies
    have read := copies.select (catalogue.proper _ _ known) right
    have ran : Connection.run (.select table (sheet.layout.columns.map (·.1)) filter.names) filter.values connection =
        (.done (.found (data.select (sheet.layout.columns.map (·.1)) filter.pairs)),
          { connection with database := connection.database.withTable data }) :=
      Connection.run_done (by simp [Database.run.attempt, Database.run.onTable, there, zip_pairs, Except.map])
    refine .inr (.inr ⟨slips, data, (bind_done ran).trans ?_, copies, rfl⟩)
    rw [read]
    rfl

theorem store_agrees : Shelf.store.Agrees (Paired declared) Connection.Spent declared Connection.store :=
  ⟨createTable_agrees catalogue, insert_agrees catalogue, update_agrees catalogue, delete_agrees catalogue,
    select_agrees catalogue⟩

end Calls
end FeatureGate.Sql
