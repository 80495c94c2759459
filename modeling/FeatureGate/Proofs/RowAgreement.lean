import FeatureGate.Proofs.Agreement
import FeatureGate.Proofs.Conformity
import FeatureGate.Sql.Connection
import Mathlib.Data.Option.Basic

namespace FeatureGate
open Sql

theorem Assoc.replace_at {pairs : List (String × α)} (distinct : (pairs.map (·.1)).Nodup)
    (there : pairs[index]? = some (name, old)) (value : α) :
    replace name value pairs = pairs.set index (name, value) := by
  induction pairs generalizing index with
  | nil => cases there
  | cons pair rest ih =>
      obtain ⟨held, kept⟩ := pair
      simp only [List.map_cons, List.nodup_cons] at distinct
      cases index with
      | zero => cases there; simp [replace]
      | succ index =>
          have member : (name, old) ∈ rest := List.mem_of_getElem? there
          have other : held ≠ name := fun same => distinct.1 (same ▸ List.mem_map_of_mem (f := (·.1)) member)
          simp only [replace, if_neg other, List.set_cons_succ]
          rw [ih distinct.2 there]

theorem mapM_each {m : Type → Type} [Monad m] [LawfulMonad m] {α β : Type} {f : α → m β} {g : α → β} {xs : List α}
    (each : ∀ x ∈ xs, f x = pure (g x)) : xs.mapM f = pure (xs.map g) := by
  induction xs with
  | nil => rfl
  | cons x rest ih =>
      rw [List.mapM_cons, each x List.mem_cons_self, ih fun other member => each other (List.mem_cons_of_mem _ member)]
      simp

theorem forall₂_set {R : α → β → Prop} {xs : List α} {ys : List β} (all : List.Forall₂ R xs ys) {index : Nat}
    (there : xs[index]? = some x) (new : R x y) : List.Forall₂ R xs (ys.set index y) := by
  induction all generalizing index with
  | nil => cases there
  | cons first rest ih => cases index with
      | zero => cases there; exact .cons new rest
      | succ index => exact .cons first (ih there)

namespace Sql
open Table

theorem sameName_iff : sameName a b = true ↔ Text.lower a.toList = Text.lower b.toList := decide_eq_true_iff

theorem sameName_refl (name : String) : sameName name name = true := sameName_iff.mpr rfl

theorem sameName_comm : sameName a b = sameName b a := by
  rw [Bool.eq_iff_iff, sameName_iff, sameName_iff, eq_comm]

end Sql

namespace Table.Layout

-- A layout that a database takes as it is meant: some column is there, no two differ
-- in the case of letters only, one at most is the key, and no other column bears the
-- name that rows are ordered by.
structure Proper (layout : Layout) : Prop where
  inhabited : layout.columns ≠ []
  apart : layout.columns.Pairwise fun a b => sameName a.1 b.1 = false
  single : (layout.columns.filter (·.2 = .key)).length ≤ 1
  ordered : ∀ column ∈ layout.columns, sameName column.1 "rowid" = true → column.2 = .key

def position (layout : Layout) (name : String) : Nat := layout.columns.findIdx (sameName name ·.1)

variable {layout : Layout} {name : String} {kind : Kind} {index : Nat}

theorem Proper.distinct (proper : layout.Proper) : (layout.columns.map (·.1)).Nodup := by
  refine List.pairwise_map.mpr (proper.apart.imp fun {a b} apart same => ?_)
  rw [same, sameName_refl] at apart
  cases apart

theorem kind?_of_mem (proper : layout.Proper) (member : (name, kind) ∈ layout.columns) :
    layout.kind? name = some kind := Assoc.lookup_of_mem proper.distinct member

theorem position_known (proper : layout.Proper) (known : layout.kind? name = some kind) :
    layout.columns[layout.position name]? = some (name, kind) := by
  have apart := proper.apart
  unfold kind? at known
  unfold position
  generalize layout.columns = columns at known apart
  induction columns with
  | nil => cases known
  | cons column rest ih =>
      obtain ⟨held, other⟩ := column
      obtain ⟨away, apartRest⟩ := List.pairwise_cons.mp apart
      by_cases same : held = name
      · simp only [Assoc.lookup, if_pos same, Option.some.injEq] at known
        simp [List.findIdx_cons, same, known, sameName_refl]
      · simp only [Assoc.lookup, if_neg same] at known
        have different : sameName name held = false := by
          rw [sameName_comm]
          exact away _ (Assoc.lookup_mem known)
        simp [List.findIdx_cons, different, ih known apartRest]

theorem position_injective (proper : layout.Proper) (one : layout.kind? a = some kind) (other : layout.kind? b = some kind')
    (same : layout.position a = layout.position b) : a = b := by
  have here := position_known proper one
  rw [same, position_known proper other] at here
  cases here
  rfl

theorem position_at (proper : layout.Proper) (there : layout.columns[index]? = some (name, kind)) :
    layout.position name = index := by
  have here := position_known proper (kind?_of_mem proper (List.mem_of_getElem? there))
  have bound := (List.getElem?_eq_some_iff.mp here).1
  exact (List.getElem?_inj (by simpa using bound) proper.distinct).mp (by simp [here, there])

def Takes (layout : Layout) (cells : List (String × Value)) : Prop :=
  ∀ cell ∈ cells, ∃ kind, layout.kind? cell.1 = some kind ∧ kind ≠ .key ∧ kind.accepts cell.2 = true

theorem takes_sound {row : Row} (sound : layout.cellsFault table row = none) (keyless : layout.Keyless row) :
    layout.Takes row.pairs := by
  intro cell member
  obtain ⟨kind, known, accepted⟩ := cellsFault_none sound member
  refine ⟨kind, known, ?_, accepted⟩
  intro key
  exact keyless cell.1 (List.mem_map_of_mem member) (key ▸ known)

theorem Fits.names {row : Row} (fits : layout.Fits row) : row.pairs.map (·.1) = layout.columns.map (·.1) := by
  unfold Fits at fits
  generalize layout.columns = columns at fits
  generalize row.pairs = pairs at fits
  induction fits with
  | nil => rfl
  | cons first _ ih => simp [first.1, ih]

theorem Fits.at {row : Row} (fits : layout.Fits row) (there : layout.columns[index]? = some (name, kind)) :
    ∃ value, row.pairs[index]? = some (name, value) ∧ kind.accepts value = true := by
  obtain ⟨long, each⟩ := List.forall₂_iff_get.mp fits
  obtain ⟨bound, is⟩ := List.getElem?_eq_some_iff.mp there
  have cell := each index bound (long ▸ bound)
  simp only [List.get_eq_getElem, is] at cell
  exact ⟨_, List.getElem?_eq_some_iff.mpr ⟨long ▸ bound, Prod.ext cell.1 rfl⟩, cell.2⟩

end Table.Layout

namespace Sql
open Table Layout

variable {layout : Layout} {table : TableData} {name : String} {kind : Kind} {index : Nat} {value : Value}

-- What is kept of a row on both sides: its cells under their names, and the number
-- that a database knows it by.
structure Slip where
  number : Int
  row : Row

namespace Slip

def stored (slip : Slip) : Stored := ⟨slip.number, slip.row.values.map Cell.ofValue⟩

def put (slip : Slip) (name : String) (value : Value) : Slip := { slip with row := slip.row.put name value }

def assign (slip : Slip) (cells : List (String × Value)) : Slip :=
  cells.foldl (fun slip cell => slip.put cell.1 cell.2) slip

theorem assign_row (slip : Slip) (assignment : Row) :
    (slip.assign assignment.pairs).row = slip.row.assign assignment := by
  unfold assign Row.assign Assoc.putAll
  generalize assignment.pairs = cells
  induction cells generalizing slip with
  | nil => rfl
  | cons cell rest ih => exact ih (slip.put cell.1 cell.2)

@[simp] theorem assign_number (slip : Slip) (cells : List (String × Value)) :
    (slip.assign cells).number = slip.number := by
  induction cells generalizing slip with
  | nil => rfl
  | cons cell rest ih => exact ih (slip.put cell.1 cell.2)

structure Fits (layout : Layout) (slip : Slip) : Prop where
  row : layout.Fits slip.row
  key : ∀ name, layout.kind? name = some .key → slip.row.get? name = some (.integer slip.number)

variable {slip : Slip}

theorem Fits.distinct (fits : slip.Fits layout) (proper : layout.Proper) : (slip.row.pairs.map (·.1)).Nodup := by
  rw [Layout.Fits.names fits.row]
  exact proper.distinct

theorem Fits.cell (fits : slip.Fits layout) (proper : layout.Proper) (known : layout.kind? name = some kind) :
    ∃ value, slip.row.pairs[layout.position name]? = some (name, value) ∧ slip.row.get? name = some value ∧
      kind.accepts value = true := by
  obtain ⟨value, there, accepted⟩ := Layout.Fits.at fits.row (position_known proper known)
  exact ⟨value, there, Assoc.lookup_of_mem (fits.distinct proper) (List.mem_of_getElem? there), accepted⟩

end Slip

theorem column?_known (columns : table.columns = layout.columns)
    (proper : layout.Proper) (known : layout.kind? name = some kind) :
    table.column? name = some (layout.position name, kind) := by
  have there := position_known proper known
  have bound := (List.getElem?_eq_some_iff.mp there).1
  have found : layout.columns.findIdx? (sameName name ·.1) = some (layout.position name) :=
    List.findIdx?_eq_some_iff_findIdx_eq.mpr ⟨bound, rfl⟩
  unfold TableData.column?
  rw [columns, found]
  simp [there]

theorem reference_known (columns : table.columns = layout.columns)
    (proper : layout.Proper) (known : layout.kind? name = some kind) :
    table.reference name = .column (layout.position name) kind := by
  unfold TableData.reference
  rw [column?_known columns proper known]

theorem stored_accepted (accepted : kind.accepts value = true) : Cell.stored kind value = .ofValue value := by
  cases kind <;> cases value <;> first | rfl | cases accepted

theorem holds_known {row : Stored} {old : Value} (held : row.cells[index]? = some (.ofValue old))
    (accepted : kind.accepts old = true) (fine : kind.accepts value = true) :
    TableData.holds row (.column index kind) value = decide (old = value) := by
  have seen (kind : Kind) : TableData.look row (.column index kind) = .ofValue old := by
    simp [TableData.look, List.getD_eq_getElem?_getD, held]
  match kind, old, value, accepted, fine with
  | .text, .text old, .text value, _, _ =>
      simp [TableData.holds, seen, Cell.ofValue, Cell.textual, Cell.same]
  | .key, .integer old, .integer value, _, _ =>
      simp [TableData.holds, seen, Cell.ofValue, Cell.numeric, Cell.same]
  | .integer, .integer old, .integer value, _, _ =>
      simp [TableData.holds, seen, Cell.ofValue, Cell.numeric, Cell.same]

namespace Slip
variable {slip : Slip}

theorem cells_at (there : slip.row.pairs[index]? = some (name, value)) :
    slip.stored.cells[index]? = some (Cell.ofValue value) := by
  simp [stored, Assoc.values, there]

theorem Fits.selects (fits : slip.Fits layout) (proper : layout.Proper) (columns : table.columns = layout.columns)
    {filter : Row} (sound : layout.cellsFault name filter = none) :
    table.selects filter.pairs slip.stored = slip.row.answers filter := by
  unfold TableData.selects Row.answers Assoc.includes
  rw [Bool.eq_iff_iff, List.all_eq_true, List.all_eq_true]
  refine forall₂_congr fun cell member => ?_
  obtain ⟨kind, known, fine⟩ := cellsFault_none sound member
  obtain ⟨value, there, held, accepted⟩ := fits.cell proper known
  rw [reference_known columns proper known, holds_known (cells_at there) accepted fine, held]
  simp

end Slip

theorem target?_known (columns : table.columns = layout.columns) (proper : layout.Proper)
    (known : layout.kind? name = some kind) (plain : kind ≠ .key) :
    table.target? name = some (.column (layout.position name)) := by
  unfold TableData.target?
  rw [column?_known columns proper known]
  cases kind with
  | key => exact (plain rfl).elim
  | text => rfl
  | integer => rfl

def target (layout : Layout) (cell : String × Value) : Target × Value := (.column (layout.position cell.1), cell.2)

theorem targets_known (columns : table.columns = layout.columns) (proper : layout.Proper)
    {cells : List (String × Value)} (takes : layout.Takes cells) :
    cells.mapM (fun pair => (table.target? pair.1).elim (Except.error Failure.unspecified) fun target =>
        Except.ok (target, pair.2)) = .ok (cells.map (target layout)) := by
  refine mapM_each fun cell member => ?_
  obtain ⟨kind, known, plain, _⟩ := takes cell member
  rw [target?_known columns proper known plain]
  rfl

theorem targets_plain (cells : List (String × Value)) : (cells.map (target layout)).filter (·.1 = .number) = [] := by
  refine List.filter_eq_nil_iff.mpr fun assigned member => ?_
  obtain ⟨cell, _, rfl⟩ := List.mem_map.mp member
  simp [target]

namespace Slip
variable {slip : Slip}

theorem Fits.put (fits : slip.Fits layout) (proper : layout.Proper) (known : layout.kind? name = some kind)
    (plain : kind ≠ .key) (accepted : kind.accepts value = true) :
    (slip.put name value).Fits layout ∧ (slip.put name value).stored =
      { slip.stored with cells := slip.stored.cells.set (layout.position name) (.ofValue value) } := by
  obtain ⟨old, there, _, _⟩ := fits.cell proper known
  have written : (slip.put name value).row.pairs = slip.row.pairs.set (layout.position name) (name, value) :=
    Assoc.replace_at (fits.distinct proper) there value
  refine ⟨⟨?_, ?_⟩, ?_⟩
  · unfold Layout.Fits
    rw [written]
    exact forall₂_set fits.row (position_known proper known) ⟨rfl, accepted⟩
  · intro key isKey
    have other : key ≠ name := fun same => plain (Option.some.inj (known.symm.trans (same ▸ isKey)))
    show (slip.row.put name value).get? key = _
    rw [Assoc.get?_put, if_neg other]
    exact fits.key key isKey
  · simp [stored, Assoc.values, written, List.map_set]
    rfl

theorem Fits.assign (fits : slip.Fits layout) (proper : layout.Proper) (columns : table.columns = layout.columns)
    {cells : List (String × Value)} (takes : layout.Takes cells) :
    (slip.assign cells).Fits layout ∧
      table.assignCells (cells.map (target layout)) slip.stored = (slip.assign cells).stored := by
  induction cells generalizing slip with
  | nil => exact ⟨fits, rfl⟩
  | cons cell rest ih =>
      obtain ⟨kind, known, plain, accepted⟩ := takes cell List.mem_cons_self
      obtain ⟨fitsAfter, stored⟩ := fits.put proper known plain accepted
      have later := ih fitsAfter fun other member => takes other (List.mem_cons_of_mem _ member)
      refine ⟨later.1, ?_⟩
      have first : table.assignCells [target layout cell] slip.stored = (slip.put cell.1 cell.2).stored := by
        simp [TableData.assignCells, target, columns, position_known proper known, stored_accepted accepted, stored]
      exact (congrArg (table.assignCells (rest.map (target layout))) first).trans later.2

theorem Fits.renumber (fits : slip.Fits layout) (proper : layout.Proper) (columns : table.columns = layout.columns) :
    table.renumber slip.number slip.stored = slip.stored := by
  have long : layout.columns.length = slip.row.pairs.length := (List.forall₂_iff_get.mp fits.row).1
  refine congrArg (Stored.mk slip.number) (List.ext_getElem ?_ ?_)
  · simp [columns, stored, Assoc.values, long]
  · intro index bound bound'
    have here : index < layout.columns.length := by simpa [stored, Assoc.values, long] using bound'
    obtain ⟨value, there, _⟩ := Layout.Fits.at fits.row (List.getElem?_eq_getElem here)
    obtain ⟨_, cell⟩ := List.getElem?_eq_some_iff.mp there
    by_cases isKey : layout.columns[index].2 = .key
    · have known : layout.kind? layout.columns[index].1 = some .key :=
        kind?_of_mem proper (isKey ▸ List.getElem_mem here)
      have read : slip.row.get? layout.columns[index].1 = some value :=
        Assoc.lookup_of_mem (fits.distinct proper) (List.mem_of_getElem? there)
      obtain rfl : value = .integer slip.number := Option.some.inj (read.symm.trans (fits.key _ known))
      simp [columns, isKey, stored, Assoc.values, cell, Cell.ofValue]
    · simp [columns, isKey, stored]

end Slip
end Sql
end FeatureGate
