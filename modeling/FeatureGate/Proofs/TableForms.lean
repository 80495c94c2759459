import FeatureGate.Proofs.PageWrites
import FeatureGate.Registry.Mutation
import FeatureGate.Table.Shelf

namespace FeatureGate

namespace Table.Layout

theorem cellsFault_none {layout : Layout} {row : Row} (sound : layout.cellsFault table row = none) (member : cell ∈ row.pairs) :
    ∃ kind, layout.kind? cell.1 = some kind ∧ kind.accepts cell.2 = true := by
  have fine := List.findSome?_eq_none_iff.mp sound cell member
  unfold cellFault at fine
  cases known : layout.kind? cell.1 with
  | none => rw [known] at fine; cases fine
  | some kind =>
      rw [known] at fine
      refine ⟨kind, rfl, ?_⟩
      by_cases accepted : kind.accepts cell.2 = true
      · exact accepted
      · simp [accepted] at fine

end Table.Layout

namespace Registry
open Table

-- How a page is written down as a table: the layout, the cells that pick out a
-- key and those that state a value, and the row of a whole line. The laws say
-- that all these fit together, so that nothing below looks at a column.
structure Form (κ ν : Type) [DecidableEq κ] where
  table : String
  layout : Layout
  key : κ → Row
  cells : ν → Row
  row : Line κ ν → Row
  named : layout.nameFault table = none
  asks : ∀ k, layout.cellsFault table (key k) = none
  takes : ∀ k v, layout.insertFault table ((key k).assign (cells v)) = none
  changes : ∀ k v, layout.updateFault table (cells v) (key k) = none
  laidOut : ∀ rows next k v, Sheet.layOut ⟨layout, rows, next⟩ ((key k).assign (cells v)) =
    (row ⟨next, k, v⟩, next + 1)
  answers : ∀ line k, (row line).answers (key k) = decide (line.key = k)
  assigned : ∀ line v, (row line).assign (cells v) = row { line with value := v }

structure Marks where
  admin : Int
  group : Int
  user : Int
deriving DecidableEq, Repr

def Marks.cells (marks : Marks) : Row :=
  ⟨[("admin", .integer marks.admin), ("group_perm", .integer marks.group), ("user", .integer marks.user)]⟩

theorem max_next (n : Int) : max n (n + 1) = n + 1 := by omega

def featureForm : Form (String × String) Marks where
  table := features
  layout := keyed [("admin", .integer), ("group_perm", .integer), ("user", .integer)]
  key k := featureKey k.1 k.2
  cells := Marks.cells
  row line := ⟨[("id", .integer line.number), ("plugin", .text line.key.1), ("feature", .text line.key.2),
    ("admin", .integer line.value.admin), ("group_perm", .integer line.value.group),
    ("user", .integer line.value.user)]⟩
  named := rfl
  asks _ := rfl
  takes _ _ := rfl
  changes _ _ := rfl
  laidOut _ next _ _ := Prod.ext rfl (max_next next)
  answers line k := by
    show (decide (some (Value.text line.key.1) = some (.text k.1)) &&
      (decide (some (Value.text line.key.2) = some (.text k.2)) && true)) = decide (line.key = k)
    simp [Prod.ext_iff]
  assigned _ _ := rfl

def stateRow (number : Int) : Row := ⟨[("state", .integer number)]⟩

structure Apart (column : String) : Prop where
  number : column ≠ "id"
  plugin : column ≠ "plugin"
  feature : column ≠ "feature"
  state : column ≠ "state"

def overrideLayout (column : String) : Layout := keyed [(column, .text), ("state", .integer)]

def overrideKey (column : String) (k : String × String × String) : Row :=
  (featureKey k.1 k.2.1).put column (.text k.2.2)

section Override
variable {column : String} (apart : Apart column)
include apart

theorem overrideKey_pairs (k : String × String × String) :
    overrideKey column k = ⟨[("plugin", .text k.1), ("feature", .text k.2.1), (column, .text k.2.2)]⟩ := by
  simp [overrideKey, featureKey, Assoc.put, Assoc.replace, Assoc.empty, apart.plugin.symm, apart.feature.symm]

theorem overrideKey_assign (k : String × String × String) (number : Int) :
    (overrideKey column k).assign (stateRow number) =
      ⟨[("plugin", .text k.1), ("feature", .text k.2.1), (column, .text k.2.2), ("state", .integer number)]⟩ := by
  simp [overrideKey_pairs apart, stateRow, Row.assign, Assoc.putAll, Assoc.put, Assoc.replace, apart.state]

theorem override_kinds : (overrideLayout column).kind? "plugin" = some .text ∧
    (overrideLayout column).kind? "feature" = some .text ∧ (overrideLayout column).kind? column = some .text ∧
    (overrideLayout column).kind? "state" = some .integer := by
  simp [overrideLayout, keyed, Layout.kind?, Assoc.lookup, apart.number.symm, apart.plugin.symm, apart.feature.symm,
    apart.state]

theorem override_asks (table : String) (k : String × String × String) :
    (overrideLayout column).cellsFault table (overrideKey column k) = none := by
  obtain ⟨plugin, feature, holder, _⟩ := override_kinds apart
  simp [overrideKey_pairs apart, Layout.cellsFault, Layout.cellFault, plugin, feature, holder, Kind.accepts]

theorem override_takes (table : String) (k : String × String × String) (number : Int) :
    (overrideLayout column).insertFault table ((overrideKey column k).assign (stateRow number)) = none := by
  obtain ⟨plugin, feature, holder, state⟩ := override_kinds apart
  have sound : (overrideLayout column).cellsFault table ((overrideKey column k).assign (stateRow number)) = none := by
    simp [overrideKey_assign apart, Layout.cellsFault, Layout.cellFault, plugin, feature, holder, state, Kind.accepts]
  have complete : (overrideLayout column).missingFault table ((overrideKey column k).assign (stateRow number)) = none := by
    simp [overrideKey_assign apart, overrideLayout, keyed, Layout.missingFault, Layout.isMissing, Assoc.get?, Assoc.lookup,
      apart.plugin.symm, apart.feature.symm, apart.state]
  simp [Layout.insertFault, sound, complete]

theorem override_laidOut (rows : List Row) (next : Int) (k : String × String × String) (number : Int) :
    Sheet.layOut ⟨overrideLayout column, rows, next⟩ ((overrideKey column k).assign (stateRow number)) =
      (⟨[("id", .integer next), ("plugin", .text k.1), ("feature", .text k.2.1), (column, .text k.2.2),
        ("state", .integer number)]⟩, next + 1) := by
  rw [overrideKey_assign apart, ← max_next next]
  simp only [Sheet.layOut, Sheet.layOutBy, Assoc.empty, overrideLayout, keyed, List.cons_append, List.nil_append,
    List.foldl_cons, Sheet.placeBy, Assoc.get?, Assoc.lookup, String.reduceEq, ↓reduceIte, apart.number, Assoc.put,
    Assoc.replace, apart.plugin.symm, apart.feature.symm, apart.number.symm, apart.state, List.foldl_nil]

end Override

def overrideForm (table column : String) (named : (overrideLayout column).nameFault table = none) (apart : Apart column) :
    Form (String × String × String) Int where
  table := table
  layout := overrideLayout column
  key := overrideKey column
  cells := stateRow
  row line := ⟨[("id", .integer line.number), ("plugin", .text line.key.1), ("feature", .text line.key.2.1),
    (column, .text line.key.2.2), ("state", .integer line.value)]⟩
  named := named
  asks := override_asks apart table
  takes := override_takes apart table
  changes k v := by
    have assigns : (overrideLayout column).cellsFault table (stateRow v) = none := by
      simp [stateRow, Layout.cellsFault, Layout.cellFault, (override_kinds apart).2.2.2, Kind.accepts]
    simp [Layout.updateFault, assigns, override_asks apart]
  laidOut := override_laidOut apart
  answers line k := by
    simp [overrideKey_pairs apart, Row.answers, Assoc.includes, Assoc.get?, Assoc.lookup, apart.number.symm,
      apart.plugin.symm, apart.feature.symm, Prod.ext_iff]
  assigned line v := by
    simp [stateRow, Row.assign, Assoc.putAll, Assoc.put, Assoc.replace, apart.state]

def groupForm : Form (String × String × String) Int :=
  overrideForm groups "group_id" rfl ⟨by decide, by decide, by decide, by decide⟩

def userForm : Form (String × String × String) Int :=
  overrideForm users "user_id" rfl ⟨by decide, by decide, by decide, by decide⟩

def superuserForm : Form String Unit where
  table := superusers
  layout := ⟨[("id", .key), ("user_id", .text)]⟩
  key := superuserKey
  cells _ := Assoc.empty
  row line := ⟨[("id", .integer line.number), ("user_id", .text line.key)]⟩
  named := rfl
  asks _ := rfl
  takes _ _ := rfl
  changes _ _ := rfl
  laidOut _ next _ _ := Prod.ext rfl (max_next next)
  answers line k := by
    show (decide (some (Value.text line.key) = some (.text k)) && true) = decide (line.key = k)
    simp
  assigned _ _ := rfl

namespace Form
variable {κ ν : Type} [DecidableEq κ] {form : Form κ ν} {page : Page κ ν} {shelf : Shelf}

def sheet (form : Form κ ν) (page : Page κ ν) : Sheet where
  layout := form.layout
  rows := page.lines.map form.row
  nextKey := page.next

-- The shelf holds the page under the form's name. What else it holds is open.
def On (form : Form κ ν) (page : Page κ ν) (shelf : Shelf) : Prop :=
  shelf.sheets.get? form.table = some (form.sheet page)

def lay (form : Form κ ν) (page : Page κ ν) (shelf : Shelf) : Shelf :=
  ⟨shelf.sheets.put form.table (form.sheet page)⟩

theorem lay_on (form : Form κ ν) (page : Page κ ν) (shelf : Shelf) : form.On page (form.lay page shelf) := by
  simp [On, lay]

theorem lay_other {name : String} (apart : name ≠ form.table) (page : Page κ ν) (shelf : Shelf) :
    (form.lay page shelf).sheets.get? name = shelf.sheets.get? name := by
  simp [lay, apart]

theorem lay_held (on : form.On page shelf) : form.lay page shelf = shelf :=
  congrArg Table.Shelf.mk (Assoc.put_held on)

theorem sheet_select (form : Form κ ν) (page : Page κ ν) (k : κ) :
    (form.sheet page).select (form.key k) = (page.under k).map form.row := by
  simp only [Sheet.select, sheet, Page.under, List.filter_map]
  congr 2
  funext line
  exact form.answers line k

theorem sheet_insert (form : Form κ ν) (page : Page κ ν) (k : κ) (v : ν) :
    (form.sheet page).insertBy (· + 1) ((form.key k).assign (form.cells v)) = form.sheet (page.add k v) := by
  simp [Sheet.insertBy, sheet, Page.add, form.laidOut]

theorem sheet_rewritten (form : Form κ ν) (page : Page κ ν) (k : κ) (v : ν) :
    (form.sheet page).rewritten (form.cells v) (form.key k) = form.sheet (page.rewrite k v) := by
  simp only [Sheet.rewritten, sheet, Page.rewrite, List.map_map]
  congr 1
  refine List.map_congr_left fun line _ => ?_
  by_cases same : line.key = k <;> simp [form.answers, form.assigned, same]

theorem sheet_without (form : Form κ ν) (page : Page κ ν) (k : κ) :
    (form.sheet page).without (form.key k) = form.sheet (page.strike k) := by
  simp only [Sheet.without, sheet, Page.strike, List.filter_map]
  congr 2
  refine List.filter_congr fun line _ => ?_
  simp [form.answers]

end Form

theorem onSheet_held {fault : Layout → Option Fault} {step : Sheet → α × Sheet}
    (held : shelf.sheets.get? table = some sheet) (fine : fault sheet.layout = none) :
    Shelf.onSheet table fault step shelf = (.done (step sheet).1, ⟨shelf.sheets.put table (step sheet).2⟩) := by
  simp [Shelf.onSheet, held, fine]

namespace Form
variable {κ ν : Type} [DecidableEq κ] {form : Form κ ν} {page : Page κ ν} {shelf : Shelf}

theorem rowsOf_on (on : form.On page shelf) (k : κ) :
    rowsOf Shelf.store form.table (form.key k) shelf = (.done ((page.under k).map form.row), shelf) := by
  have found : Shelf.select form.table (form.key k) shelf = _ := onSheet_held on (form.asks k)
  have kept : (⟨shelf.sheets.put form.table (form.sheet page)⟩ : Shelf) = shelf := lay_held on
  simp only [rowsOf, Action.mapError, Shelf.store, found, Outcome.mapError, kept, sheet_select]

theorem rowsOf_all (on : form.On page shelf) :
    rowsOf Shelf.store form.table Assoc.empty shelf = (.done (page.lines.map form.row), shelf) := by
  have found : Shelf.select form.table Assoc.empty shelf = _ := onSheet_held on rfl
  have kept : (⟨shelf.sheets.put form.table (form.sheet page)⟩ : Shelf) = shelf := lay_held on
  have all : (form.sheet page).select Assoc.empty = page.lines.map form.row :=
    List.filter_eq_self.mpr fun _ _ => rfl
  simp only [rowsOf, Action.mapError, Shelf.store, found, Outcome.mapError, kept, all]

theorem insert_on (on : form.On page shelf) (k : κ) (v : ν) :
    Shelf.insert form.table ((form.key k).assign (form.cells v)) shelf =
      (.done (), form.lay (page.add k v) shelf) := by
  have done : Shelf.insert form.table ((form.key k).assign (form.cells v)) shelf = _ :=
    onSheet_held on (form.takes k v)
  rw [done, sheet_insert]
  rfl

theorem update_on (on : form.On page shelf) (k : κ) (v : ν) :
    ∃ count, Shelf.update form.table (form.cells v) (form.key k) shelf =
      (.done count, form.lay (page.rewrite k v) shelf) := by
  have done : Shelf.update form.table (form.cells v) (form.key k) shelf = _ :=
    onSheet_held on (form.changes k v)
  rw [done, Sheet.update_snd, sheet_rewritten]
  exact ⟨_, rfl⟩

theorem createTable_on (form : Form κ ν) (shelf : Shelf) :
    (Shelf.createTable form.table form.layout shelf).2 = shelf ∨
      (Shelf.createTable form.table form.layout shelf).2 = form.lay {} shelf := by
  simp only [Shelf.createTable, form.named]
  split
  · exact .inl rfl
  · exact .inr rfl

theorem createTable_held (on : form.On page shelf) :
    Shelf.createTable form.table form.layout shelf = (.done (), shelf) := by
  have held : shelf.sheets.get? form.table = some (form.sheet page) := on
  simp only [Shelf.createTable, form.named, held]

theorem delete_on (on : form.On page shelf) (k : κ) :
    ∃ count, Shelf.delete form.table (form.key k) shelf = (.done count, form.lay (page.strike k) shelf) := by
  have done : Shelf.delete form.table (form.key k) shelf = _ := onSheet_held on (form.asks k)
  rw [done, Sheet.delete_eq, sheet_without]
  exact ⟨_, rfl⟩

theorem empty_under (form : Form κ ν) (page : Page κ ν) (k : κ) :
    ((page.under k).map form.row).isEmpty = decide (k ∉ page.keys) := by
  simp only [← Page.under_nil, List.isEmpty_map]
  cases page.under k <;> rfl

theorem writeUnder_on (on : form.On page shelf) (k : κ) (v : ν) :
    writeUnder Shelf.store form.table (form.key k) (form.cells v) shelf =
      (.done (), form.lay (page.write k v) shelf) := by
  unfold writeUnder
  rw [Action.bind_done (rowsOf_on on k), empty_under]
  by_cases held : k ∈ page.keys
  · obtain ⟨count, updated⟩ := update_on on k v
    simp only [held, not_true, decide_false, Bool.false_eq_true, if_false, Page.write, if_true]
    exact Action.bind_done (Action.mapError_done updated)
  · simp only [held, not_false_eq_true, decide_true, if_true, Page.write, if_false]
    exact Action.mapError_done (insert_on on k v)

end Form
end Registry
end FeatureGate
