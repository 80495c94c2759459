import FeatureGate.Proofs.Declaration
import FeatureGate.Proofs.History
import FeatureGate.Proofs.Arrival
import FeatureGate.Proofs.Numbering
import Mathlib.Data.List.Forall2

namespace FeatureGate
open Table Registry.History

namespace Assoc
variable {m : Assoc α} {pairs : List (String × α)} {cell : String × α}

theorem mem_replace (member : cell ∈ replace name value pairs) : cell = (name, value) ∨ cell ∈ pairs := by
  induction pairs with
  | nil => exact .inl (List.mem_singleton.mp member)
  | cons pair rest ih =>
      obtain ⟨held, old⟩ := pair
      by_cases same : held = name
      · rw [replace, if_pos same] at member
        rcases List.mem_cons.mp member with rfl | later
        · exact .inl (Prod.ext same rfl)
        · exact .inr (List.mem_cons_of_mem _ later)
      · rw [replace, if_neg same] at member
        rcases List.mem_cons.mp member with rfl | later
        · exact .inr List.mem_cons_self
        · exact (ih later).imp_right (List.mem_cons_of_mem _)

theorem mem_put (member : cell ∈ (m.put name value).pairs) : cell = (name, value) ∨ cell ∈ m.pairs := mem_replace member

theorem mem_putAll (member : cell ∈ (m.putAll pairs).pairs) : cell ∈ pairs ∨ cell ∈ m.pairs := by
  induction pairs generalizing m with
  | nil => exact .inr member
  | cons pair rest ih =>
      rcases ih (m := m.put pair.1 pair.2) member with later | placed
      · exact .inl (List.mem_cons_of_mem _ later)
      · rcases mem_put placed with rfl | old
        · exact .inl List.mem_cons_self
        · exact .inr old

theorem names_putAll (held : ∀ pair ∈ pairs, pair.1 ∈ m.names) : (m.putAll pairs).names = m.names := by
  induction pairs generalizing m with
  | nil => rfl
  | cons pair rest ih =>
      have kept : (m.put pair.1 pair.2).names = m.names := by rw [names_put, if_pos (held pair List.mem_cons_self)]
      have later := ih (m := m.put pair.1 pair.2) fun other member => kept ▸ held other (List.mem_cons_of_mem _ member)
      exact later.trans kept

end Assoc

namespace Table
variable {layout : Layout} {table : String} {given row assignment filter : Row} {column : String × Kind}

theorem insertFault_none : layout.insertFault table given = none ↔
    layout.cellsFault table given = none ∧ layout.missingFault table given = none :=
  Option.orElse_eq_none _ _

theorem updateFault_none : layout.updateFault table assignment filter = none ↔
    layout.cellsFault table assignment = none ∧ layout.cellsFault table filter = none :=
  Option.orElse_eq_none _ _

theorem key_of_absent (complete : layout.missingFault table given = none) (member : column ∈ layout.columns)
    (absent : given.get? column.1 = none) : column.2 = .key := by
  have present := List.find?_eq_none.mp (Option.map_eq_none_iff.mp complete) column member
  simpa [Layout.isMissing, absent] using present

theorem kind_of_absent (complete : layout.missingFault table given = none) (member : column ∈ layout.columns)
    (absent : given.get? column.1 = none) : layout.kind? column.1 = some .key := by
  cases known : layout.kind? column.1 with
  | none => exact absurd (List.mem_map_of_mem member) (Assoc.lookup_none.mp known)
  | some kind => exact congrArg some (key_of_absent complete (Assoc.lookup_mem known) absent)

-- A row that shows the given columns, each name once, where it comes first among them. What
-- stands in a column is of the kind that the layout declares first for its name.
structure Layout.Fills (layout : Layout) (columns : List (String × Kind)) (row : Row) : Prop where
  names : row.names = (columns.map (·.1)).eraseDups
  kinds : ∀ cell ∈ row.pairs, ∃ kind, layout.kind? cell.1 = some kind ∧ kind.accepts cell.2 = true

namespace Sheet
variable {sheet : Sheet} {seen : List (String × Kind)}

theorem place_puts (following : Int → Int) (accepted : layout.insertFault table given = none)
    (member : column ∈ layout.columns) (laid : Row × Int) :
    ∃ value kind, layout.kind? column.1 = some kind ∧ kind.accepts value = true ∧
      (placeBy following given laid column).1 = laid.1.put column.1 value := by
  obtain ⟨sound, complete⟩ := insertFault_none.mp accepted
  have fits {value : Value} (found : given.get? column.1 = some value) :
      ∃ kind, layout.kind? column.1 = some kind ∧ kind.accepts value = true :=
    Layout.cellsFault_none sound (Assoc.lookup_mem found)
  rcases place_ways following given laid column with ⟨key, _, found, placed⟩ | ⟨_, absent, placed⟩ |
    ⟨value, found, _, placed⟩ | ⟨plain, absent, _⟩
  · obtain ⟨kind, known, accepts⟩ := fits found
    exact ⟨_, kind, known, accepts, congrArg Prod.fst placed⟩
  · exact ⟨_, .key, kind_of_absent complete member absent, rfl, congrArg Prod.fst placed⟩
  · obtain ⟨kind, known, accepts⟩ := fits found
    exact ⟨_, kind, known, accepts, congrArg Prod.fst placed⟩
  · exact absurd (key_of_absent complete member absent) plain

theorem place_fills (following : Int → Int) (accepted : layout.insertFault table given = none)
    (member : column ∈ layout.columns) {laid : Row × Int} (fills : layout.Fills seen laid.1) :
    layout.Fills (seen ++ [column]) (placeBy following given laid column).1 := by
  obtain ⟨value, kind, known, accepts, placed⟩ := place_puts following accepted member laid
  rw [placed]
  refine ⟨?_, fun cell shown => ?_⟩
  · rw [Assoc.names_put, fills.names, List.map_append]
    by_cases held : column.1 ∈ seen.map (·.1)
    · rw [if_pos (List.mem_eraseDups.mpr held)]
      exact (eraseDups_held held).symm
    · rw [if_neg fun there => held (List.mem_eraseDups.mp there)]
      exact (eraseDups_fresh held).symm
  · rcases Assoc.mem_put shown with rfl | old
    · exact ⟨kind, known, accepts⟩
    · exact fills.kinds cell old

theorem layOut_fills (accepted : sheet.layout.insertFault table given = none) :
    sheet.layout.Fills sheet.layout.columns (sheet.layOutBy following given).1 :=
  layOutBy_induct (motive := fun seen laid => sheet.layout.Fills seen laid.1) ⟨rfl, nofun⟩
    fun _ _ _ member fills => place_fills following accepted member fills

-- A name that is a key twice is numbered twice and shows the later number; of two kinds the first counts.
example : layOut ⟨⟨[("x", .key), ("y", .integer), ("x", .key), ("y", .text)]⟩, [], 1⟩ ⟨[("y", .integer 5)]⟩ =
    (⟨[("x", .integer 2), ("y", .integer 5)]⟩, 3) := by decide

end Sheet

theorem Layout.Fills.declared (fills : layout.Fills layout.columns row) (sound : layout.cellsFault table assignment = none) :
    ∀ cell ∈ assignment.pairs, cell.1 ∈ row.names := by
  intro cell member
  obtain ⟨kind, known, _⟩ := Layout.cellsFault_none sound member
  rw [fills.names, List.mem_eraseDups]
  exact List.mem_map_of_mem (f := (·.1)) (Assoc.lookup_mem known)

theorem Layout.Fills.assign (fills : layout.Fills layout.columns row) (sound : layout.cellsFault table assignment = none) :
    layout.Fills layout.columns (row.assign assignment) := by
  refine ⟨(Assoc.names_putAll (fills.declared sound)).trans fills.names, fun cell shown => ?_⟩
  rcases Assoc.mem_putAll shown with assigned | old
  · exact Layout.cellsFault_none sound assigned
  · exact fills.kinds cell old

variable {calls : List Call} {sheet : Sheet}

theorem reached_fills (calls : List Call) : ∀ {sheet : Sheet},
    (Shelf.store.reached calls Shelf.empty).sheets.get? table = some sheet →
    ∀ row ∈ sheet.rows, sheet.layout.Fills sheet.layout.columns row := by
  induction calls using List.reverseRecOn with
  | nil => exact fun held => nomatch held
  | append_singleton calls call ih =>
      intro sheet held
      rw [Store.reached_snoc] at held
      cases Shelf.turn held with
      | still there => exact ih there
      | created => exact nofun
      | inserted there fine =>
          intro row member
          rcases List.mem_append.mp member with old | new
          · exact ih there row old
          · exact List.mem_singleton.mp new ▸ Sheet.layOut_fills fine
      | updated there fine =>
          intro row member
          obtain ⟨old, present, rfl⟩ := List.mem_map.mp member
          split
          · exact (ih there old present).assign (updateFault_none.mp fine).1
          · exact ih there old present
      | deleted there => exact fun row member => ih there row (List.mem_filter.mp member).1

-- What becomes of a row in an update: it is left alone, or it shows what is assigned and is
-- otherwise as it was. An assignment that is built by putting names no column twice.
inductive Revised (assignment filter : Row) : Row → Row → Prop
  | left {row : Row} : row.answers filter = false → Revised assignment filter row row
  | changed {row after : Row} : row.answers filter = true → after.names = row.names →
      (assignment.names.Nodup → after.answers assignment = true) →
      (∀ name, name ∉ assignment.names → after.get? name = row.get? name) → Revised assignment filter row after

theorem Row.assign_revised (held : ∀ cell ∈ assignment.pairs, cell.1 ∈ row.names) (answers : row.answers filter = true) :
    Revised assignment filter row (row.assign assignment) := by
  refine .changed answers (Assoc.names_putAll held) (fun distinct => ?_) fun name apart => Assoc.get?_putAll_apart apart row
  exact Row.answers_exact.mpr fun cell member => Assoc.get?_putAll_mem distinct member row

theorem Sheet.rewritten_revised (fills : ∀ row ∈ sheet.rows, sheet.layout.Fills sheet.layout.columns row)
    (sound : sheet.layout.cellsFault table assignment = none) (filter : Row) :
    List.Forall₂ (Revised assignment filter) sheet.rows (sheet.rewritten assignment filter).rows := by
  refine List.forall₂_map_right_iff.mpr (List.forall₂_same.mpr fun row member => ?_)
  by_cases answers : row.answers filter = true
  · rw [if_pos answers]
    exact Row.assign_revised ((fills row member).declared sound) answers
  · rw [if_neg answers]
    exact .left (Bool.eq_false_iff.mpr answers)

namespace Shelf
variable {shelf after : Shelf}

theorem rowsUnder_held (there : shelf.sheets.get? table = some sheet) : rowsUnder table shelf = sheet.rows := by
  simp [rowsUnder, there]

def matching (table : String) (filter : Row) (shelf : Shelf) : List Row :=
  (rowsUnder table shelf).filter (Row.answers · filter)

theorem select_held (there : shelf.sheets.get? table = some sheet) (sound : sheet.layout.cellsFault table filter = none) :
    (select table filter shelf).1 = .done (matching table filter shelf) := by
  rw [matching, rowsUnder_held there]
  exact congrArg Prod.fst (Registry.onSheet_held there sound)

theorem matching_length (there : shelf.sheets.get? table = some sheet) :
    (matching table filter shelf).length = (sheet.select filter).length := by
  rw [matching, rowsUnder_held there, Sheet.select]

end Shelf

structure Accounts (table : String) (calls : List Call) : Prop where
  shape : ∀ sheet, (Shelf.store.reached calls Shelf.empty).sheets.get? table = some sheet →
    (Shelf.store.accepted calls Shelf.empty).findSome? (Call.declares? table) = some sheet.layout ∧
      ∀ row ∈ sheet.rows, sheet.layout.Fills sheet.layout.columns row
  update : ∀ assignment filter count after, assignment.isEmpty = false →
    Shelf.update table assignment filter (Shelf.store.reached calls Shelf.empty) = (.done count, after) →
    (Shelf.select table filter (Shelf.store.reached calls Shelf.empty)).1 =
        .done (Shelf.matching table filter (Shelf.store.reached calls Shelf.empty)) ∧
      count = (Shelf.matching table filter (Shelf.store.reached calls Shelf.empty)).length ∧
      List.Forall₂ (Revised assignment filter) (Shelf.rowsUnder table (Shelf.store.reached calls Shelf.empty))
        (Shelf.rowsUnder table after)
  delete : ∀ filter count after,
    Shelf.delete table filter (Shelf.store.reached calls Shelf.empty) = (.done count, after) →
    (Shelf.select table filter (Shelf.store.reached calls Shelf.empty)).1 =
        .done (Shelf.matching table filter (Shelf.store.reached calls Shelf.empty)) ∧
      count = (Shelf.matching table filter (Shelf.store.reached calls Shelf.empty)).length ∧
      Shelf.rowsUnder table after =
        (Shelf.rowsUnder table (Shelf.store.reached calls Shelf.empty)).filter (!Row.answers · filter)

theorem rows_accounted (table : String) (calls : List Call) : Accounts table calls := by
  refine ⟨fun sheet there => ⟨?_, reached_fills calls there⟩, ?_, ?_⟩
  · rw [← Shelf.reached_layout, Shelf.layout?, there]
    rfl
  · intro assignment filter count after assigns done
    obtain ⟨sheet, there, fine, counted, rfl⟩ := Shelf.onSheet_parts done
    obtain ⟨sound, asked⟩ := updateFault_none.mp fine
    rw [Sheet.update_eq, if_neg (Bool.eq_false_iff.mp assigns)] at counted
    refine ⟨Shelf.select_held there asked, counted.trans (Shelf.matching_length there).symm, ?_⟩
    rw [Shelf.rowsUnder_held there, Shelf.rowsUnder_put, if_pos rfl, Sheet.update_snd]
    exact Sheet.rewritten_revised (reached_fills calls there) sound filter
  · intro filter count after done
    obtain ⟨sheet, there, asked, counted, rfl⟩ := Shelf.onSheet_parts done
    rw [Sheet.delete_eq] at counted
    refine ⟨Shelf.select_held there asked, counted.trans (Shelf.matching_length there).symm, ?_⟩
    rw [Shelf.rowsUnder_held there, Shelf.rowsUnder_put, if_pos rfl, Sheet.delete_eq]
    rfl

end Table
end FeatureGate
