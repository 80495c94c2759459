import FeatureGate.Proofs.KeyedWrites
import FeatureGate.Proofs.Shape

namespace FeatureGate
open Table Registry FeatureGate.Action Sql

namespace Action
variable {start : σ → Prop} {failed : σ → Prop}

-- From every such start it comes to an answer, and then the one holds, or it fails,
-- and then the other does. Nobody dies.
def Leads (start : σ → Prop) (action : Action σ ε α) (done : α → σ → Prop) (failed : σ → Prop) : Prop :=
  ∀ s, start s → match action s with
    | (.done answer, after) => done answer after
    | (.failed _, after) => failed after
    | (.aborted, _) => False

theorem Leads.pure {done : α → σ → Prop} (held : ∀ s, start s → done answer s) :
    Leads start (Pure.pure answer : Action σ ε α) done failed := held

theorem Leads.fail {done : α → σ → Prop} (held : ∀ s, start s → failed s) (error : ε) :
    Leads start (Action.fail error : Action σ ε α) done failed := held

theorem Leads.bind {first : Action σ ε α} {next : α → Action σ ε β} {between : α → σ → Prop} {done : β → σ → Prop}
    (leads : Leads start first between failed) (rest : ∀ answer, Leads (between answer) (next answer) done failed) :
    Leads start (first >>= next) done failed := by
  intro s held
  have middle := leads s held
  rw [bind_apply]
  cases ended : first s with
  | mk outcome s' =>
      rw [ended] at middle
      cases outcome with
      | done answer => exact rest answer s' middle
      | failed error => exact middle
      | aborted => exact middle

theorem Leads.mapError {action : Action σ ε α} {done : α → σ → Prop} (leads : Leads start action done failed)
    (f : ε → δ) : Leads start (action.mapError f) done failed := by
  intro s held
  have after := leads s held
  unfold Action.mapError
  cases ended : action s with
  | mk outcome s' =>
      rw [ended] at after
      cases outcome <;> exact after

theorem Leads.imp {action : Action σ ε α} {done done' : α → σ → Prop} {start' failed' : σ → Prop}
    (leads : Leads start action done failed) (before : ∀ s, start' s → start s)
    (after : ∀ answer s, done answer s → done' answer s) (lost : ∀ s, failed s → failed' s) :
    Leads start' action done' failed' := by
  intro s held
  have ends := leads s (before s held)
  cases ended : action s with
  | mk outcome s' =>
      rw [ended] at ends
      cases outcome with
      | done answer => exact after answer s' ends
      | failed error => exact lost s' ends
      | aborted => exact ends

theorem Leads.both {action : Action σ ε α} {done done' : α → σ → Prop} {start' failed' : σ → Prop}
    (one : Leads start action done failed) (other : Leads start' action done' failed') :
    Leads (fun s => start s ∧ start' s) action (fun answer s => done answer s ∧ done' answer s)
      (fun s => failed s ∧ failed' s) := by
  intro s held
  have first := one s held.1
  have second := other s held.2
  cases ended : action s with
  | mk outcome s' =>
      rw [ended] at first second
      cases outcome with
      | done answer => exact ⟨first, second⟩
      | failed error => exact ⟨first, second⟩
      | aborted => exact first

theorem Leads.knowing {p : Prop} {action : Action σ ε α} {done : α → σ → Prop}
    (leads : p → Leads start action done failed) :
    Leads (fun s => start s ∧ p) action (fun answer s => done answer s ∧ p) failed := by
  intro s held
  have ends := leads held.2 s held.1
  cases ended : action s with
  | mk outcome s' =>
      rw [ended] at ends
      cases outcome with
      | done answer => exact ⟨ends, held.2⟩
      | failed error => exact ends
      | aborted => exact ends

theorem Leads.each {f : α → Action σ ε PUnit} {xs : List α}
    (every : ∀ x ∈ xs, Leads start (f x) (fun _ => start) start) : Leads start (xs.forM f) (fun _ => start) start := by
  induction xs with
  | nil => exact Leads.pure fun _ => id
  | cons x rest ih =>
      exact Leads.bind (every x List.mem_cons_self) fun _ =>
        ih fun other member => every other (List.mem_cons_of_mem _ member)

theorem Leads.choose {c : Prop} [Decidable c] {yes no : Action σ ε α} {done : α → σ → Prop}
    (one : c → Leads start yes done failed) (other : ¬c → Leads start no done failed) :
    Leads start (if c then yes else no) done failed := by
  by_cases holds : c
  · rw [if_pos holds]; exact one holds
  · rw [if_neg holds]; exact other holds

theorem Leads.ofExcept {done : α → σ → Prop} {result : Except ε α} (held : ∀ s, start s → failed s)
    (goesOn : ∀ answer s, result = .ok answer → start s → done answer s) :
    Leads start (Action.ofExcept result) done failed := by
  intro s begun
  cases result with
  | ok answer => exact goesOn answer s rfl begun
  | error error => exact held s begun

theorem Leads.refuse {objection : Option ε} (held : ∀ s, start s → failed s) :
    Leads start (Action.refuse objection) (fun _ => start) failed := by
  cases objection with
  | none => exact Leads.pure fun _ => id
  | some error => exact Leads.fail held error

end Action

namespace Sql

def Database.rowsUnder (database : Database) (name : String) : List Stored :=
  ((database.table? name).map (·.rows)).getD []

theorem Database.rowsUnder_held {database : Database} (held : database.table? name = some data) :
    database.rowsUnder name = data.rows := by
  unfold rowsUnder
  rw [held]
  rfl

def Database.Lists (database : Database) (user : String) : Prop :=
  ∃ row ∈ database.rowsUnder superusers, row.cells[1]? = some (.text user)

-- Nothing is lost and nothing is new in the tables of overrides. Among the superusers
-- there may be one more row, for the one who is made superuser at every start.
structure Spared (seed : Option String) (before after : Database) : Prop where
  joint : after.rowsUnder groups = before.rowsUnder groups
  own : after.rowsUnder users = before.rowsUnder users
  standing : after.rowsUnder superusers = before.rowsUnder superusers ∨ ∃ user number, seed = some user ∧
    after.rowsUnder superusers =
      TableData.place ⟨number, [.integer number, .text user]⟩ (before.rowsUnder superusers)

variable {seed : Option String} {before database after : Database}

theorem Spared.refl (seed : Option String) (database : Database) : Spared seed database database :=
  ⟨rfl, rfl, .inl rfl⟩

theorem Spared.elsewhere (spared : Spared seed before database)
    (same : ∀ name, sameName name features = false → after.rowsUnder name = database.rowsUnder name) :
    Spared seed before after := by
  refine ⟨(same _ (by decide +kernel)).trans spared.joint, (same _ (by decide +kernel)).trans spared.own, ?_⟩
  rw [same _ (by decide +kernel)]
  exact spared.standing

theorem Spared.unseeded (spared : Spared none before after) (seed : Option String) : Spared seed before after :=
  ⟨spared.joint, spared.own, spared.standing.imp_right fun ⟨_, _, unseeded, _⟩ => nomatch unseeded⟩

theorem Spared.lists (spared : Spared seed before after) (listed : after.Lists user) :
    seed = some user ∨ before.Lists user := by
  obtain ⟨row, member, shown⟩ := listed
  rcases spared.standing with same | ⟨seeded, number, is, placed⟩
  · rw [same] at member
    exact .inr ⟨row, member, shown⟩
  · rw [placed] at member
    rcases TableData.mem_putBefore.mp member with rfl | old
    · cases shown
      exact .inl is
    · exact .inr ⟨row, old, shown⟩

theorem Database.rowsUnder_withTable {data later : TableData} (held : database.table? name = some data)
    (named : later.name = data.name) (other : String) : (database.withTable later).rowsUnder other =
      if sameName other name then later.rows else database.rowsUnder other := by
  unfold rowsUnder
  rw [table?_withTable held named]
  split <;> rfl

theorem holds_text (row : Stored) (index : Nat) (text : String) :
    TableData.holds row (.column index .text) (.text text) = decide (row.cells[index]? = some (.text text)) := by
  unfold TableData.holds TableData.look
  cases there : row.cells[index]? with
  | none => simp [there, List.getD_eq_getElem?_getD, Cell.same, Cell.textual]
  | some cell => cases cell <;> simp [there, List.getD_eq_getElem?_getD, Cell.same, Cell.textual]

theorem selects_text {layout : Layout} {table : TableData} {row : Stored} {filter : List (String × Value)}
    (proper : layout.Proper) (shaped : Shaped layout table) (known : layout.kind? name = some .text)
    (asked : (name, .text value) ∈ filter) (selected : table.selects filter row = true) :
    row.cells[layout.position name]? = some (.text value) := by
  have holds := List.all_eq_true.mp selected _ asked
  rw [reference_known shaped.columns proper known, holds_text] at holds
  exact of_decide_eq_true holds

end Sql

namespace Registry

theorem declared_unique (known : Declared table layout) (other : Declared table layout') : layout = layout' :=
  (declared_catalogue.apart _ _ _ _ known other (sameName_refl _)).2

theorem declared_superusers (known : Declared superusers layout) : layout = superuserForm.layout :=
  declared_unique known (.tail _ (.tail _ (.tail _ (.head _))))

section Writes
variable {connection : Connection} (shaped : connection.Shaped Declared)
include shaped

theorem rowsOf_ways (table : String) (key : Row) :
    (∃ error, rowsOf Connection.store table key connection = (.failed error, connection)) ∨
      ∃ layout data rows, Declared table layout ∧ connection.layouts.get? table = some layout ∧
        connection.database.table? table = some data ∧
        Connection.rows? layout (.found (data.select (layout.columns.map (·.1)) key.pairs)) = some rows ∧
        rowsOf Connection.store table key connection = (.done rows, connection) := by
  rcases Connection.select_ways shaped table key with
    ⟨fault, failed⟩ | ⟨layout, data, rows, known, registered, there, read, done⟩
  · exact .inl ⟨.store fault, mapError_failed failed⟩
  · exact .inr ⟨layout, data, rows, known, registered, there, read, mapError_done done⟩

inductive Written (layout : Layout) (key cells : Row) (data later : TableData) : Prop where
  | inserted (number : Int) (unknown : ∀ row ∈ data.rows, data.selects key.pairs row = false)
      (fresh : data.freshNumber = .ok number)
      (placed : later.rows = TableData.place (Slip.stored ⟨number, layout.laid (key.assign cells) number⟩) data.rows)
  | updated (count : Nat) (known : ∃ row ∈ data.rows, data.selects key.pairs row = true)
      (done : data.update cells.pairs key.pairs = .ok (count, later))

-- After a write under a key every row that is selected by it tells what was written,
-- one that is new as well as those that were there.
theorem writeUnder_ways (table : String) (separate : Separate key cells) (busy : cells.isEmpty = false)
    (fresh : "id" ∉ (key.assign cells).names) (change : "id" ∉ cells.names) :
    (∃ error, writeUnder Connection.store table key cells connection = (.failed error, connection)) ∨
      ∃ layout data later, Declared table layout ∧ connection.layouts.get? table = some layout ∧
        connection.database.table? table = some data ∧ later.name = data.name ∧ Sql.Shaped layout later ∧
        Written layout key cells data later ∧
        (∀ row ∈ later.rows, later.selects key.pairs row = true → Tells layout cells.pairs row) ∧
        writeUnder Connection.store table key cells connection =
          (.done (), { connection with database := connection.database.withTable later }) := by
  rcases rowsOf_ways shaped table key with
    ⟨error, failed⟩ | ⟨layout, data, rows, known, registered, there, read, looked⟩
  · exact .inl ⟨error, bind_failed failed⟩
  have proper := declared_catalogue.proper _ _ known
  have fits := shaped.shapes _ _ known _ there
  have goesOn : writeUnder Connection.store table key cells connection = _ := bind_done looked
  cases rows with
  | nil =>
      have unselected := (select_parts proper fits read).1 rfl
      rw [goesOn]
      rcases Connection.insert_ways declared_catalogue shaped table _ (writable_of_names fresh) with
        ⟨fault, failed⟩ | ⟨_, _, number, later, known', there', named, fitsAfter, takes, fresh, placed, done⟩
      · exact .inl ⟨.store fault, mapError_failed failed⟩
      · obtain rfl := declared_unique known known'
        cases there.symm.trans there'
        refine .inr ⟨layout, data, later, known, registered, there, named, fitsAfter,
          .inserted number unselected fresh placed, fun row member selected => ?_, ?_⟩
        · rw [TableData.selects_columns (fitsAfter.columns.trans fits.columns.symm)] at selected
          rw [placed] at member
          rcases TableData.mem_putBefore.mp member with rfl | old
          · exact fun cell there =>
              laid_tells proper takes (Assoc.get?_putAll_mem separate.cellsOnce there key) number
          · rw [unselected row old] at selected
            cases selected
        · exact mapError_done done
  | cons first rest =>
      rw [goesOn]
      rcases Connection.update_ways declared_catalogue shaped table cells key (writable_of_names change) with
        ⟨fault, failed⟩ | ⟨empty, _⟩ | ⟨_, _, later, count, known', there', named, fitsAfter, updated, told, done⟩
      · exact .inl ⟨.store fault, bind_failed (mapError_failed failed)⟩
      · rw [busy] at empty
        cases empty
      · obtain rfl := declared_unique known known'
        cases there.symm.trans there'
        obtain ⟨chosen, member, selected, _⟩ := (select_parts proper fits read).2 first List.mem_cons_self
        refine .inr ⟨layout, data, later, known, registered, there, named, fitsAfter,
          .updated count ⟨chosen, member, selected⟩ updated, fun row member selected => ?_, ?_⟩
        · rw [TableData.selects_columns (fitsAfter.columns.trans fits.columns.symm)] at selected
          rcases told row member with tells | ⟨_, other⟩
          · exact tells separate.cellsOnce
          · rw [other] at selected
            cases selected
        · exact bind_done (mapError_done done)

theorem setSuperuser_ways (user : String) :
    (∃ error, (Mutation.setSuperuser user).apply Connection.store connection = (.failed error, connection)) ∨
      (Mutation.setSuperuser user).apply Connection.store connection = (.done (), connection) ∨
      ∃ data number later, connection.database.table? superusers = some data ∧ later.name = data.name ∧
        Connection.Shaped Declared { connection with database := connection.database.withTable later } ∧
        later.rows = TableData.place ⟨number, [.integer number, .text user]⟩ data.rows ∧
        (Mutation.setSuperuser user).apply Connection.store connection =
          (.done (), { connection with database := connection.database.withTable later }) := by
  rcases rowsOf_ways shaped superusers (superuserKey user) with ⟨error, failed⟩ | ⟨_, _, rows, _, _, _, _, looked⟩
  · exact .inl ⟨error, bind_failed failed⟩
  have goesOn : (Mutation.setSuperuser user).apply Connection.store connection = _ := bind_done looked
  cases rows with
  | cons first rest => exact .inr (.inl goesOn)
  | nil =>
      have fresh : "id" ∉ (superuserKey user).names := by
        show "id" ∉ ["user_id"]
        decide
      rcases Connection.insert_ways declared_catalogue shaped superusers _ (writable_of_names fresh) with
        ⟨fault, failed⟩ | ⟨layout, data, number, later, known, there, named, fits, _, _, placed, done⟩
      · exact .inl ⟨.store fault, goesOn.trans (mapError_failed failed)⟩
      · obtain rfl := declared_superusers known
        exact .inr (.inr ⟨data, number, later, there, named,
          shaped.exchange declared_catalogue known there named fits, placed, goesOn.trans (mapError_done done)⟩)

theorem defaults?_ways (plugin feature : String) :
    (∃ error, defaults? Connection.store plugin feature connection = (.failed error, connection)) ∨
      ∃ layout data rows found, Declared features layout ∧ connection.layouts.get? features = some layout ∧
        connection.database.table? features = some data ∧
        Connection.rows? layout (.found (data.select (layout.columns.map (·.1)) (featureKey plugin feature).pairs)) =
          some rows ∧
        firstOf defaultsOf rows = .ok found ∧
        defaults? Connection.store plugin feature connection = (.done found, connection) := by
  rcases rowsOf_ways shaped features (featureKey plugin feature) with
    ⟨error, failed⟩ | ⟨layout, data, rows, known, registered, there, read, looked⟩
  · exact .inl ⟨error, bind_failed failed⟩
  · have goesOn : defaults? Connection.store plugin feature connection = _ := bind_done looked
    rw [goesOn, understood_apply]
    cases first : firstOf defaultsOf rows with
    | error invalid => exact .inl ⟨_, rfl⟩
    | ok found => exact .inr ⟨layout, data, rows, found, known, registered, there, read, first, rfl⟩

def Shows (plugin feature : String) (defaults : Defaults) (connection : Connection) : Prop :=
  ∀ layout data, Declared features layout → connection.database.table? features = some data →
    ∀ row ∈ data.rows, data.selects (featureKey plugin feature).pairs row = true →
      Tells layout (defaultCells defaults).pairs row

theorem updateFeature_ways (plugin feature : String) (update : Update) :
    (∃ error, (Mutation.updateFeature plugin feature update).apply Connection.store connection =
        (.failed error, connection)) ∨
      ∃ data later base, connection.layouts.get? features = some featureForm.layout ∧
        connection.database.table? features = some data ∧ later.name = data.name ∧
        Written featureForm.layout (featureKey plugin feature) (defaultCells (update.apply base)) data later ∧
        Shows plugin feature (update.apply base) { connection with database := connection.database.withTable later } ∧
        Connection.Shaped Declared { connection with database := connection.database.withTable later } ∧
        (Mutation.updateFeature plugin feature update).apply Connection.store connection =
          (.done (), { connection with database := connection.database.withTable later }) := by
  rcases defaults?_ways shaped plugin feature with ⟨error, failed⟩ | ⟨_, _, _, found, _, _, _, _, _, looked⟩
  · exact .inl ⟨error, bind_failed failed⟩
  have goesOn : (Mutation.updateFeature plugin feature update).apply Connection.store connection = _ := bind_done looked
  have separate : Separate (featureKey plugin feature) (defaultCells (update.apply (found.getD {}))) := by
    refine separate_of_names ?_
    show ["plugin", "feature", "admin", "group_perm", "user"].Nodup
    decide
  have fresh : "id" ∉ ((featureKey plugin feature).assign (defaultCells (update.apply (found.getD {})))).names := by
    show "id" ∉ ["plugin", "feature", "admin", "group_perm", "user"]
    decide
  have change : "id" ∉ (defaultCells (update.apply (found.getD {}))).names := by
    show "id" ∉ ["admin", "group_perm", "user"]
    decide
  rw [goesOn]
  rcases writeUnder_ways shaped features separate rfl fresh change with
    failed | ⟨layout, data, later, known, registered, there, named, fits, written, told, done⟩
  · exact .inl failed
  · obtain rfl : layout = featureForm.layout := declared_unique known (.head _)
    refine .inr ⟨data, later, found.getD {}, registered, there, named, written, ?_,
      shaped.exchange declared_catalogue known there named fits, done⟩
    intro layout' data' known' there'
    obtain rfl := declared_unique known known'
    rw [Database.table?_withTable there named, if_pos (sameName_refl _)] at there'
    cases there'
    exact told

end Writes

theorem isSuperuser_leads {good : Connection → Prop} (shaped : ∀ now, good now → now.Shaped Declared) (user : String) :
    Leads good (isSuperuser Connection.store user) (fun shown now => good now ∧ (shown = true → now.database.Lists user))
      good := by
  intro now held
  rcases rowsOf_ways (shaped now held) superusers (superuserKey user) with
    ⟨error, failed⟩ | ⟨layout, data, rows, known, _, there, read, looked⟩
  · rw [show isSuperuser Connection.store user now = _ from bind_failed failed]
    exact held
  · rw [show isSuperuser Connection.store user now = _ from bind_done looked]
    refine ⟨held, fun shown => ?_⟩
    obtain rfl := declared_superusers known
    have proper := declared_catalogue.proper _ _ known
    have fits := (shaped now held).shapes _ _ known _ there
    obtain ⟨first, more⟩ : ∃ first, first ∈ rows := by
      cases rows with
      | nil => cases shown
      | cons first rest => exact ⟨first, List.mem_cons_self⟩
    obtain ⟨row, member, selected, _⟩ := (select_parts proper fits read).2 first more
    refine ⟨row, (Database.rowsUnder_held there).symm ▸ member, ?_⟩
    exact selects_text proper fits rfl List.mem_cons_self selected

theorem shows_first {connection : Connection} (shaped : connection.Shaped Declared)
    (shows : Shows plugin feature defaults connection) (known : Declared features layout)
    (there : connection.database.table? features = some data)
    (read : Connection.rows? layout (.found (data.select (layout.columns.map (·.1)) (featureKey plugin feature).pairs)) =
      some rows) (first : firstOf defaultsOf rows = .ok (some held)) : held = defaults := by
  cases rows with
  | nil => cases first
  | cons row rest =>
      have proper := declared_catalogue.proper _ _ known
      have fits := shaped.shapes _ _ known _ there
      obtain ⟨stored, member, selected, shown⟩ := (select_parts proper fits read).2 row List.mem_cons_self
      have tells := shows layout data known there stored member selected
      have is : defaultsOf row = .ok defaults := by
        obtain rfl : layout = featureForm.layout := declared_unique known (.head _)
        have sound : featureForm.layout.cellsFault features (defaultCells defaults) = none := rfl
        refine defaultsOf_shows fun cell member' => ?_
        obtain ⟨kind, kindKnown, accepted⟩ := Layout.cellsFault_none sound member'
        exact row?_tells proper (fits.wide stored member) shown kindKnown accepted (tells cell member')
      simp only [firstOf, is] at first
      cases first
      rfl

end Registry

open Registry

structure Course (seed : Option String) (before : Database) (now : Connection) : Prop where
  shaped : now.Shaped Declared
  spared : Spared seed before now.database

section Course
variable {seed : Option String} {before : Database}

theorem createTables_leads : Leads (Course seed before) (createTables Connection.store) (fun _ => Course seed before)
    (Course seed before) := by
  refine Leads.each fun declared member => Leads.mapError (fun connection course => ?_) _
  rcases Connection.createTable_ways declared_catalogue course.shaped member with
    ⟨fault, failed⟩ | ⟨after, shaped, done, tables⟩
  · rw [show Connection.store.createTable declared.1 declared.2 connection = _ from failed]
    exact course
  · rw [show Connection.store.createTable declared.1 declared.2 connection = _ from done]
    refine ⟨shaped, course.spared.elsewhere fun name _ => ?_⟩
    unfold Database.rowsUnder
    rw [tables]
    cases connection.database.table? name with
    | some data => rfl
    | none =>
        rw [Option.none_or]
        split <;> rfl

theorem setSuperuser_leads (user : String) : Leads (Course none before)
    ((Mutation.setSuperuser user).apply Connection.store) (fun _ => Course (some user) before) (Course none before) := by
  intro connection course
  have kept : Spared (some user) before connection.database := course.spared.unseeded _
  rcases setSuperuser_ways course.shaped user with
    ⟨error, failed⟩ | done | ⟨data, number, later, there, named, shaped, placed, done⟩
  · rw [failed]
    exact course
  · rw [done]
    exact ⟨course.shaped, kept⟩
  · rw [done]
    have away (name : String) (apart : sameName name superusers = false) :
        (connection.database.withTable later).rowsUnder name = connection.database.rowsUnder name := by
      rw [Database.rowsUnder_withTable there named, apart]
      rfl
    refine ⟨shaped, (away _ (by decide +kernel)).trans kept.joint, (away _ (by decide +kernel)).trans kept.own,
      .inr ⟨user, number, rfl, ?_⟩⟩
    rw [Database.rowsUnder_withTable there named, if_pos (sameName_refl _), placed,
      ← course.spared.standing.resolve_right nofun]
    rw [Database.rowsUnder_held there]

theorem updateFeature_leads (plugin feature : String) (update : Update) : Leads (Course seed before)
    ((Mutation.updateFeature plugin feature update).apply Connection.store)
    (fun _ now => Course seed before now ∧ ∃ base, Shows plugin feature (update.apply base) now)
    (Course seed before) := by
  intro connection course
  rcases updateFeature_ways course.shaped plugin feature update with
    ⟨error, failed⟩ | ⟨data, later, base, _, there, named, _, shows, shaped, done⟩
  · rw [failed]
    exact course
  · rw [done]
    refine ⟨⟨shaped, course.spared.elsewhere fun name apart => ?_⟩, base, shows⟩
    rw [Database.rowsUnder_withTable there named, apart]
    rfl

end Course
end FeatureGate
