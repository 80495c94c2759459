import FeatureGate.Proofs.Untouched

namespace FeatureGate
open Table Registry FeatureGate.Action Sql

theorem Registry.declared_features : Declared features featureForm.layout := .head _

theorem Registry.features_proper : featureForm.layout.Proper := declared_catalogue.proper _ _ declared_features

theorem Registry.defaultCells_pairs (defaults : Defaults) : (defaultCells defaults).pairs =
    [("admin", .integer defaults.admin.toInteger), ("group_perm", .integer defaults.group.toInteger),
      ("user", .integer defaults.user.toInteger)] := rfl

namespace Sql

theorem Connection.select_done {connection : Connection} {data : TableData} (apart : connection.database.Apart)
    (known : connection.layouts.get? table = some layout) (fine : layout.cellsFault table filter = none)
    (held : connection.database.table? table = some data)
    (read : Connection.rows? layout (.found (data.select (layout.columns.map (·.1)) filter.pairs)) = some rows) :
    Connection.select table filter connection = (.done rows, connection) := by
  have ended : Database.run.attempt (.select table (layout.columns.map (·.1)) filter.names) filter.values
      connection.database = .ok (.found (data.select (layout.columns.map (·.1)) filter.pairs), connection.database) := by
    simp only [Database.run.attempt, Database.run.onTable, held, zip_pairs, Except.map, apart.withTable_held held]
  have goesOn : Connection.select table filter connection = _ := bind_done (checked_done known fine)
  rw [goesOn, bind_done (run_done ended), read]
  rfl

def featureRow (plugin feature : String) (defaults : Defaults) (number : Int) : Stored :=
  ⟨number, [.integer number, .text plugin, .text feature, .integer defaults.admin.toInteger,
    .integer defaults.group.toInteger, .integer defaults.user.toInteger]⟩

def Stored.isUnder (plugin feature : String) (row : Stored) : Bool :=
  row.cells[1]? = some (.text plugin) && row.cells[2]? = some (.text feature)

-- The rows of features once these defaults are registered: every row under the name
-- tells them, in its old place, or there was none and a new one stands last.
inductive Registered (plugin feature : String) (defaults : Defaults) (before : List Stored) : List Stored → Prop where
  | again (known : ∃ row ∈ before, row.isUnder plugin feature = true) :
      Registered plugin feature defaults before (before.map fun row =>
        if row.isUnder plugin feature then featureRow plugin feature defaults row.number else row)
  | new (number : Int) (unknown : ∀ row ∈ before, row.isUnder plugin feature = false)
      (above : ∀ row ∈ before, row.number < number) :
      Registered plugin feature defaults before (before ++ [featureRow plugin feature defaults number])

section Rows
variable {plugin feature : String} {defaults : Defaults} {before after : List Stored} {table data later : TableData}

theorem Registered.ascending (registered : Registered plugin feature defaults before after)
    (ascending : before.Pairwise (·.number < ·.number)) : after.Pairwise (·.number < ·.number) := by
  cases registered with
  | again known =>
      refine ascending_of_numbers ?_ ascending
      rw [List.map_map]
      refine List.map_congr_left fun row _ => ?_
      simp only [Function.comp_apply]
      split <;> rfl
  | new number unknown above =>
      refine List.pairwise_append.mpr ⟨ascending, List.pairwise_singleton _ _, fun row member other only => ?_⟩
      rw [List.mem_singleton.mp only]
      exact above row member

theorem Registered.told (registered : Registered plugin feature defaults before after) :
    ∀ row ∈ after, row.isUnder plugin feature = true → row = featureRow plugin feature defaults row.number := by
  intro row member under
  cases registered with
  | again known =>
      obtain ⟨old, _, rfl⟩ := List.mem_map.mp member
      by_cases mine : old.isUnder plugin feature = true
      · rw [if_pos mine]
        rfl
      · rw [if_neg mine] at under
        exact (mine under).elim
  | new number unknown above =>
      rcases List.mem_append.mp member with old | new
      · rw [unknown row old] at under
        cases under
      · rw [List.mem_singleton.mp new]
        rfl

theorem selects_under (columns : table.columns = featureForm.layout.columns) (row : Stored) :
    table.selects (featureKey plugin feature).pairs row = row.isUnder plugin feature := by
  have first : table.reference "plugin" = .column 1 .text :=
    reference_known columns features_proper (show featureForm.layout.kind? "plugin" = some .text from rfl)
  have second : table.reference "feature" = .column 2 .text :=
    reference_known columns features_proper (show featureForm.layout.kind? "feature" = some .text from rfl)
  show (TableData.holds row (table.reference "plugin") (.text plugin) &&
    (TableData.holds row (table.reference "feature") (.text feature) && true)) = _
  rw [first, second, holds_text, holds_text, Bool.and_true]
  rfl

theorem fresh_above (keyed : table.keyColumn?.isSome = true) (ascending : table.rows.Pairwise (·.number < ·.number))
    (fresh : table.freshNumber = .ok number) : ∀ row ∈ table.rows, row.number < number := by
  unfold TableData.freshNumber at fresh
  simp only [keyed, if_true] at fresh
  split at fresh
  · cases fresh
  · cases fresh
    exact fun row member => Int.lt_of_lt_of_le (next_above ascending row member) (Int.le_max_left _ _)

variable (shaped : Shaped featureForm.layout table)
include shaped

theorem rewritten_under {row : Stored} (member : row ∈ table.rows) (under : row.isUnder plugin feature = true) :
    table.rewritten ((defaultCells defaults).pairs.map (target featureForm.layout)) row =
      featureRow plugin feature defaults row.number := by
  obtain ⟨one, other⟩ := (Bool.and_eq_true _ _).mp under
  have wide := shaped.wide row member
  obtain ⟨number, cells⟩ := row
  match cells, wide with
  | [_, _, _, _, _, _], _ =>
      obtain rfl := Option.some.inj (of_decide_eq_true one)
      obtain rfl := Option.some.inj (of_decide_eq_true other)
      have targets : (defaultCells defaults).pairs.map (target featureForm.layout) =
          [(.column 3, .integer defaults.admin.toInteger), (.column 4, .integer defaults.group.toInteger),
            (.column 5, .integer defaults.user.toInteger)] := by
        have third : featureForm.layout.position "admin" = 3 := by decide +kernel
        have fourth : featureForm.layout.position "group_perm" = 4 := by decide +kernel
        have fifth : featureForm.layout.position "user" = 5 := by decide +kernel
        rw [← third, ← fourth, ← fifth]
        rfl
      unfold TableData.rewritten TableData.renumber TableData.assignCells
      rw [shaped.columns, targets]
      rfl

theorem written_registers (ascending : table.rows.Pairwise (·.number < ·.number))
    (written : Written featureForm.layout (featureKey plugin feature) (defaultCells defaults) table later) :
    Registered plugin feature defaults table.rows later.rows := by
  have selects (row : Stored) : table.selects (featureKey plugin feature).pairs row = row.isUnder plugin feature :=
    selects_under shaped.columns row
  cases written with
  | inserted number unknown fresh placed =>
      have above := fresh_above (keyColumn_hasKey shaped.columns) ascending fresh
      rw [placed, place_last above]
      exact .new number (fun row member => (selects row).symm.trans (unknown row member)) above
  | updated count known done =>
      have takes : featureForm.layout.Takes (defaultCells defaults).pairs := by
        intro cell member
        rw [defaultCells_pairs] at member
        simp only [List.mem_cons, List.not_mem_nil, or_false] at member
        rcases member with rfl | rfl | rfl <;> exact ⟨.integer, rfl, nofun, rfl⟩
      rw [update_each features_proper shaped.columns takes ascending] at done
      cases done
      obtain ⟨row, member, chosen⟩ := known
      rw [List.map_congr_left (g := fun row =>
        if row.isUnder plugin feature then featureRow plugin feature defaults row.number else row)]
      · exact .again ⟨row, member, (selects row).symm.trans chosen⟩
      · intro row member
        rw [selects]
        split
        · exact rewritten_under shaped member ‹_›
        · rfl

end Rows

structure Connection.Ordered (now : Connection) : Prop where
  shaped : now.Shaped Declared
  ascending : (now.rowsUnder features).Pairwise (·.number < ·.number)

structure Connection.Stands (before : List Stored) (now : Connection) : Prop extends now.Ordered where
  same : now.rowsUnder features = before

structure Connection.Enrolled (plugin feature : String) (defaults : Defaults) (before : List Stored) (now : Connection) :
    Prop extends now.Ordered where
  known : now.layouts.get? features = some featureForm.layout
  there : (now.database.table? features).isSome
  rows : Registered plugin feature defaults before (now.rowsUnder features)

end Sql

namespace Registry
variable {plugin feature : String} {defaults : Defaults} {before : List Stored}

theorem updateFeature_enrols (plugin feature : String) (update : Update) (before : List Stored) :
    Leads (Connection.Stands before) ((Mutation.updateFeature plugin feature update).apply Connection.store)
      (fun _ now => ∃ base, now.Enrolled plugin feature (update.apply base) before) (Connection.Stands before) := by
  rintro now ⟨ordered, is⟩
  rcases updateFeature_ways ordered.shaped plugin feature update with
    ⟨error, failed⟩ | ⟨data, later, base, known, there, named, written, _, shaped, done⟩
  · rw [failed]
    exact ⟨ordered, is⟩
  · rw [done]
    have rows : now.rowsUnder features = data.rows := Database.rowsUnder_held there
    have rowsAfter : (now.database.withTable later).rowsUnder features = later.rows := by
      rw [Database.rowsUnder_withTable there named, if_pos (sameName_refl _)]
    have ascending := ordered.ascending
    rw [rows] at ascending
    have registered := written_registers (ordered.shaped.shapes _ _ declared_features _ there) ascending written
    rw [← rows, is, ← rowsAfter] at registered
    refine ⟨base, ⟨shaped, registered.ascending (is ▸ ordered.ascending)⟩, known, ?_, registered⟩
    simp [Database.table?_withTable there named, sameName_refl]

theorem defaults?_enrolled {now : Connection} (enrolled : now.Enrolled plugin feature defaults before) :
    ∃ found, defaults? Connection.store plugin feature now = (.done found, now) := by
  obtain ⟨data, there⟩ := Option.isSome_iff_exists.mp enrolled.there
  have fits := enrolled.shaped.shapes _ _ declared_features _ there
  let asked := data.select (featureForm.layout.columns.map (·.1)) (featureKey plugin feature).pairs
  let shown (cells : List Cell) : Row := (Connection.row? featureForm.layout cells).getD Assoc.empty
  have told : ∀ cells ∈ asked, ∃ number, cells = (featureRow plugin feature defaults number).cells := by
    intro cells member
    obtain ⟨row, chosen, rfl⟩ := List.mem_map.mp member
    obtain ⟨old, selected⟩ := List.mem_filter.mp (TableData.mem_inOrder.mp chosen)
    rw [selects_under fits.columns] at selected
    have member : row ∈ now.database.rowsUnder features := (Database.rowsUnder_held there).symm ▸ old
    have is := enrolled.rows.told row member selected
    refine ⟨row.number, ?_⟩
    rw [shown_cells features_proper fits old, is]
    rfl
  have read : Connection.rows? featureForm.layout (.found asked) = some (asked.map shown) := by
    refine mapM_each fun cells member => ?_
    obtain ⟨number, rfl⟩ := told cells member
    rfl
  have looked : rowsOf Connection.store features (featureKey plugin feature) now = (.done (asked.map shown), now) :=
    mapError_done (Connection.select_done enrolled.shaped.apart enrolled.known rfl there read)
  have goesOn : defaults? Connection.store plugin feature now = _ := bind_done looked
  rw [goesOn]
  cases is : asked with
  | nil => exact ⟨none, rfl⟩
  | cons first rest =>
      obtain ⟨number, rfl⟩ := told first (is ▸ List.mem_cons_self)
      have tells : defaultsOf (shown (featureRow plugin feature defaults number).cells) = .ok defaults := by
        refine defaultsOf_shows fun cell member => ?_
        rw [defaultCells_pairs] at member
        simp only [List.mem_cons, List.not_mem_nil, or_false] at member
        rcases member with rfl | rfl | rfl <;> rfl
      refine ⟨some defaults, ?_⟩
      rw [understood_apply, List.map_cons, firstOf, tells]
      rfl

end Registry

-- How a chat command may leave the features: as they were, or with the guard of the
-- group commands registered, and maybe that of the user commands as well.
inductive Posted (before after : List Stored) : Prop where
  | untouched (same : after = before)
  | registered (middle : List Stored) (group : Registered ChatCommand.plugin "group" {} before middle)
      (user : after = middle ∨ Registered ChatCommand.plugin "user" { group := .deny, user := .deny } middle after)

section Sessions
variable {before : List Stored}

theorem still_stands {action : Action Connection ε α} (still : Still (Connection.rowsUnder features) action)
    (alive : Action.Agrees Eq (fun _ => False) action action)
    (shapes : Leads (·.Shaped Declared) action (fun _ => (·.Shaped Declared)) (·.Shaped Declared)) :
    Leads (Connection.Stands before) action (fun _ => Connection.Stands before) (Connection.Stands before) := by
  have rows := leads_of_still (fun rows => rows.Pairwise (·.number < ·.number) ∧ rows = before) still alive
  exact (shapes.both rows).imp (fun _ held => ⟨held.shaped, held.ascending, held.same⟩)
    (fun _ _ held => ⟨⟨held.1, held.2.1⟩, held.2.2⟩) fun _ held => ⟨⟨held.1, held.2.1⟩, held.2.2⟩

theorem setUp_stands (superuser : Option String) : Leads (Connection.Stands before)
    (Service.setUp Connection.store superuser) (fun _ => Connection.Stands before) (Connection.Stands before) :=
  still_stands (setUp_still (Connection.rows_steady features)
    (fun _ => apply_rows (show sameName features superusers = false by decide +kernel)) superuser)
    (setUp_agrees Connection.store_alive superuser) (setUp_shaped superuser)

theorem apply_ordered (mutation : Mutation) : Leads Connection.Ordered (mutation.apply Connection.store)
    (fun _ => Connection.Ordered) Connection.Ordered := by
  intro now ordered
  have elsewhere (apart : sameName features mutation.table = false) :=
    (@still_stands (now.rowsUnder features) _ _ _ (apply_rows apart) (apply_agrees Connection.store_alive mutation)
      (apply_shaped mutation)).imp (fun _ => id) (fun _ _ held => held.toOrdered) (fun _ held => held.toOrdered) now
      ⟨ordered, rfl⟩
  cases mutation with
  | updateFeature plugin feature update =>
      exact (updateFeature_enrols plugin feature update (now.rowsUnder features)).imp (fun _ => id)
        (fun _ _ ⟨_, enrolled⟩ => enrolled.toOrdered) (fun _ held => held.toOrdered) now ⟨ordered, rfl⟩
  | setSuperuser user => exact elsewhere (show sameName features superusers = false by decide +kernel)
  | removeSuperuser user => exact elsewhere (show sameName features superusers = false by decide +kernel)
  | updateGroup plugin feature group state => exact elsewhere (show sameName features groups = false by decide +kernel)
  | updateUser plugin feature user state => exact elsewhere (show sameName features users = false by decide +kernel)

theorem session_ordered (superuser : Option String) (directive : CommandLine.Directive) :
    Leads (fun running => running.service.ledger = none ∧ running.world.Ordered)
      (Console.session Connection.store superuser directive) (fun _ running => running.world.Ordered)
      (fun running => running.world.Ordered) := by
  have begins : Leads Connection.Ordered (Service.setUp Connection.store superuser) (fun _ => Connection.Ordered)
      Connection.Ordered := fun now ordered =>
    (@setUp_stands (now.rowsUnder features) superuser).imp (fun _ => id) (fun _ _ held => held.toOrdered)
      (fun _ held => held.toOrdered) now ⟨ordered, rfl⟩
  refine Leads.bind (init_leads begins) fun _ => ?_
  exact (carryOut_holds (lasting_shaped fun _ ordered => ordered.shaped) fun mutation _ => apply_ordered mutation).imp (fun _ => id)
    (fun _ _ held => held.2) fun _ => id

-- Defaults that have been written can be shown, so whoever sets some and fails has not
-- written them.
theorem setDefaults_stands (superuser : Option String) (plugin feature : String) (update : Update) :
    Leads (fun running => running.service.ledger = none ∧ running.world.Stands before)
      (Console.session Connection.store superuser (.setDefaults plugin feature update)) (fun _ _ => True)
      (fun running => running.world.Stands before) := by
  refine Leads.bind (init_leads (setUp_stands superuser)) fun _ => ?_
  refine Leads.choose (fun _ => Leads.pure fun _ _ => trivial) fun busy => ?_
  refine Leads.bind (mutate_leads (fun _ => id) (by simpa [Mutation.isIdle] using busy)
    (updateFeature_enrols plugin feature update before)) fun _ => ?_
  have shows : Leads (fun now => ∃ base, now.Enrolled plugin feature (update.apply base) before)
      (defaults? Connection.store plugin feature) (fun _ _ => True) (Connection.Stands before) := by
    rintro now ⟨base, enrolled⟩
    obtain ⟨found, done⟩ := defaults?_enrolled enrolled
    rw [done]
    trivial
  exact Leads.bind (@reading_leads _ _ _ (defaults? · plugin feature) _ shows) fun _ => Leads.pure fun _ _ => trivial

theorem registerManagement_guards : Leads (Up (Connection.Stands before))
    ChatCommand.registerManagement (fun _ => Up fun now => Posted before (now.rowsUnder features))
    (fun running => Posted before (running.world.rowsUnder features)) := by
  refine Leads.bind ((mutate_leads (fun _ => id) rfl (updateFeature_enrols ChatCommand.plugin "group" _ before)).imp
    (fun _ => id) (fun _ _ => id) fun _ stands => .untouched stands.same) fun _ => ?_
  rintro running ⟨holds, base, enrolled⟩
  have group := enrolled.rows
  rw [Defaults.apply_asUpdate] at group
  refine (mutate_leads (fun _ => id) rfl (updateFeature_enrols ChatCommand.plugin "user" _
    (running.world.rowsUnder features))).imp (fun _ => id) ?_ (fun _ stands => .registered _ group (.inl stands.same))
    running ⟨holds, enrolled.toOrdered, rfl⟩
  rintro _ after ⟨holds, base, enrolled⟩
  have user := enrolled.rows
  rw [Defaults.apply_asUpdate] at user
  exact ⟨holds, .registered _ group (.inr user)⟩

theorem chat_guards (superuser : Option String) (actor : Actor) (kind : String) (words : List String) :
    Leads (fun running => running.service.ledger = none ∧ running.world.Stands before)
      (Console.session Connection.store superuser (.chat actor kind words)) (fun _ _ => True)
      (fun running => Posted before (running.world.rowsUnder features)) := by
  refine Leads.bind ((init_leads (setUp_stands superuser)).imp (fun _ => id) (fun _ _ => id)
    fun _ stands => .untouched stands.same) fun _ => ?_
  have steady := Connection.rows_steady features
  refine Leads.bind registerManagement_guards fun _ => (command_leads (lasting_steady steady (Posted before)) actor kind
    words fun mutation _ => apply_leads steady (Posted before) mutation).imp (fun _ => id) (fun _ _ _ => trivial) fun _ => id

end Sessions
end FeatureGate
