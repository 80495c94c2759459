import FeatureGate.Proofs.Untouched
import Mathlib.Algebra.Order.Ring.Cast
import Mathlib.Algebra.Order.Ring.Rat
import Mathlib.Data.Sum.Order
import Mathlib.Data.String.Basic

namespace FeatureGate.Sql
open Table

def Ascending (rows : List Stored) : Prop := rows.Pairwise (·.number < ·.number)

theorem Ascending.without {rows others rest : List Stored} {first : Stored} (ascending : Ascending rows)
    (stand : rows.Perm (others ++ first :: rest)) :
    (rows.filter (·.number ≠ first.number)).Perm (others ++ rest) := by
  have distinct : (others ++ first :: rest).Pairwise (·.number ≠ ·.number) :=
    (ascending.imp fun less => Int.ne_of_lt less).perm stand fun away => away.symm
  have apart := (List.pairwise_cons.mp (distinct.perm List.perm_middle fun away => away.symm)).1
  have parted : (others ++ first :: rest).filter (·.number ≠ first.number) = others ++ rest := by
    rw [List.filter_append, List.filter_cons, if_neg (by simp), ← List.filter_append]
    exact List.filter_eq_self.mpr fun held member => decide_eq_true (apart held member).symm
  exact parted ▸ stand.filter _

def newcomer? (before after : List Stored) : Option Stored :=
  after.find? fun row => !before.any (·.number = row.number)

namespace TableData
variable {table after : TableData} {row new : Stored} {rows before : List Stored} {given assigned : List (String × Value)}

theorem place_ascending (ascending : Ascending rows) (free : ∀ held ∈ rows, held.number ≠ new.number) :
    Ascending (place new rows) := by
  induction rows with
  | nil => exact List.pairwise_singleton _ _
  | cons first rest ih =>
      obtain ⟨least, later⟩ := List.pairwise_cons.mp ascending
      rw [place_cons]
      split
      · rename_i less
        refine List.pairwise_cons.mpr ⟨fun held member => ?_, ascending⟩
        rcases List.mem_cons.mp member with rfl | deeper
        · exact less
        · exact Int.lt_trans less (least held deeper)
      · rename_i more
        refine List.pairwise_cons.mpr ⟨fun held member => ?_, ih later fun held member =>
          free held (List.mem_cons_of_mem _ member)⟩
        rcases mem_putBefore.mp member with rfl | deeper
        · have apart := free first List.mem_cons_self
          omega
        · exact least held deeper

theorem newcomer?_place (free : ∀ held ∈ rows, held.number ≠ new.number) :
    newcomer? rows (place new rows) = some new := by
  have all : ∀ part : List Stored, (∀ held ∈ part, held ∈ rows) →
      (place new part).find? (fun row => !rows.any (·.number = row.number)) = some new := by
    have unknown : (!rows.any (·.number = new.number)) = true := by simpa using free
    intro part
    induction part with
    | nil => intro _; simp [place, putBefore, unknown]
    | cons first rest ih =>
        intro within
        have known : (!rows.any (·.number = first.number)) = false := by
          simpa using ⟨first, within first List.mem_cons_self, rfl⟩
        rw [place_cons]
        split
        · simp [unknown]
        · rw [List.find?_cons, known]
          exact ih fun held member => within held (List.mem_cons_of_mem _ member)
  exact all rows fun _ => id

theorem has_none {number : Int} (free : table.has number = false) : ∀ held ∈ table.rows, held.number ≠ number := by
  simpa [has] using free

def targets (table : TableData) (assigned : List (String × Value)) : List (Target × Value) :=
  assigned.filterMap fun pair => (table.target? pair.1).map fun target => (target, pair.2)

theorem targets_read {found : List (Target × Value)} (read : assigned.mapM (fun pair =>
    (table.target? pair.1).elim (Except.error Failure.unspecified) fun target => .ok (target, pair.2)) = .ok found) :
    found = table.targets assigned := by
  induction assigned generalizing found with
  | nil => cases read; rfl
  | cons pair rest ih =>
      rw [List.mapM_cons] at read
      cases known : table.target? pair.1 with
      | none => rw [known] at read; cases read
      | some target =>
          rw [known] at read
          cases later : rest.mapM fun pair => (table.target? pair.1).elim (Except.error Failure.unspecified)
              fun target => .ok (target, pair.2) with
          | error failure => rw [later] at read; cases read
          | ok more =>
              rw [later] at read
              cases read
              rw [ih later]
              simp [targets, known]

def newNumber? (targets : List (Target × Value)) : Option Int :=
  (targets.filter (·.1 = .number)).getLast?.bind fun written => Cell.key? written.2

def Spares (table : TableData) (assigned : List (String × Value)) : Prop :=
  ∀ pair ∈ assigned, table.target? pair.1 ≠ some .number

theorem Spares.targets (spares : table.Spares assigned) : (table.targets assigned).filter (·.1 = .number) = [] := by
  refine List.filter_eq_nil_iff.mpr fun written member => ?_
  obtain ⟨pair, named, is⟩ := List.mem_filterMap.mp member
  obtain ⟨target, known, rfl⟩ := Option.map_eq_some_iff.mp is
  have apart := spares pair named
  rw [known] at apart
  simpa using apart

theorem Spares.newNumber? (spares : table.Spares assigned) : newNumber? (table.targets assigned) = none := by
  unfold TableData.newNumber?
  rw [spares.targets]
  rfl

theorem insert_adds (inserted : table.insert given = .ok after) :
    ∃ row, table.has row.number = false ∧ (table.Spares given → table.freshNumber = .ok row.number) ∧
      after = { table with rows := place row table.rows, highest := max table.highest row.number } := by
  unfold insert at inserted
  simp only [bind, Except.bind] at inserted
  split at inserted
  · cases inserted
  rename_i found read
  rw [targets_read read] at inserted
  repeat' split at inserted
  all_goals cases inserted
  · rename_i written _ _ _ _ _ _ free
    refine ⟨⟨_, _⟩, Bool.eq_false_iff.mpr free, fun spares => ?_, rfl⟩
    rw [spares.targets] at written
    cases written
  · rename_i fresh _ _ _ free
    exact ⟨⟨_, _⟩, Bool.eq_false_iff.mpr free, fun _ => fresh, rfl⟩

def revised (table : TableData) (assigned : List (String × Value)) (row : Stored) : Stored :=
  table.renumber ((newNumber? (table.targets assigned)).getD row.number) (table.assignCells (table.targets assigned) row)

theorem Spares.revised_number (spares : table.Spares assigned) (row : Stored) :
    (table.revised assigned row).number = row.number := by
  simp [revised, renumber, spares.newNumber?]

theorem revised_columns (same : after.columns = table.columns) : after.revised assigned = table.revised assigned := by
  have targets : after.targets assigned = table.targets assigned := by simp [targets, target?, column?, same]
  funext row
  simp only [revised, targets, renumber, assignCells, same]

theorem updateRow_revises (updated : updateRow (table.targets assigned) table row = .ok after) :
    ((table.revised assigned row).number = row.number ∨ table.has (table.revised assigned row).number = false) ∧
      after = { table with
        rows := place (table.revised assigned row) (table.rows.filter (·.number ≠ row.number)) } := by
  unfold updateRow at updated
  simp only [bind, Except.bind] at updated
  repeat' split at updated
  all_goals cases updated
  · rename_i target value written _ number read clear
    have settled : newNumber? (table.targets assigned) = some number := by
      unfold newNumber?
      rw [written]
      cases key : Cell.key? value with
      | none => rw [key] at read; cases read
      | some _ => rw [key] at read; cases read; exact key
    rw [revised, settled]
    exact ⟨not_and_or.mp clear |>.imp Decidable.not_not.mp Bool.eq_false_iff.mpr, rfl⟩
  · rename_i unwritten _
    have kept : newNumber? (table.targets assigned) = none := by
      unfold newNumber?
      rw [unwritten]
      rfl
    rw [revised, kept]
    exact ⟨.inl rfl, rfl⟩

-- The induction is on the rows that are still to be changed; `others` are those that stay
-- and those that are done.
theorem updateRows_perm {others rest : List Stored} (stand : table.rows.Perm (others ++ rest))
    (ascending : Ascending table.rows)
    (folded : rest.foldlM (updateRow (table.targets assigned)) table = .ok after) :
    ∃ rows, after = { table with rows } ∧ Ascending rows ∧
      rows.Perm (others ++ rest.map (table.revised assigned)) := by
  induction rest generalizing table others with
  | nil =>
      cases folded
      exact ⟨_, rfl, ascending, stand⟩
  | cons first rest ih =>
      rw [List.foldlM_cons] at folded
      cases stepped : updateRow (table.targets assigned) table first with
      | error failure => rw [stepped] at folded; cases folded
      | ok middle =>
          rw [stepped] at folded
          obtain ⟨clear, rfl⟩ := updateRow_revises stepped
          let new := table.revised assigned first
          let spared := table.rows.filter (·.number ≠ first.number)
          have kept : spared.Perm (others ++ rest) := ascending.without stand
          have free : ∀ held ∈ spared, held.number ≠ new.number := by
            intro held member
            obtain ⟨there, other⟩ := List.mem_filter.mp member
            rcases clear with same | unused
            · rw [show new.number = first.number from same]
              exact of_decide_eq_true other
            · exact has_none unused held there
          have placed : (place new spared).Perm ((others ++ [new]) ++ rest) := by
            rw [List.append_assoc]
            exact (putBefore_perm _ new spared).trans ((kept.cons new).trans List.perm_middle.symm)
          obtain ⟨rows, is, ascends, all⟩ := @ih { table with rows := place new spared } (others ++ [new]) placed
            (place_ascending (ascending.filter _) free) folded
          refine ⟨rows, is, ascends, all.trans (.of_eq ?_)⟩
          have same : TableData.revised { table with rows := place new spared } assigned = table.revised assigned :=
            revised_columns rfl
          rw [same, List.append_assoc]
          rfl

theorem chosen_perm (chosen : Stored → Bool) (step : Stored → Stored) (rows : List Stored) :
    (rows.filter (!chosen ·) ++ (rows.filter chosen).map step).Perm
      (rows.map fun row => if chosen row then step row else row) := by
  induction rows with
  | nil => exact .refl _
  | cons row rest ih =>
      cases mine : chosen row with
      | true => simpa [mine] using List.perm_middle.trans (ih.cons (step row))
      | false => simpa [mine] using ih.cons row

theorem update_perm {filter : List (String × Value)} (ascending : Ascending table.rows)
    (updated : table.update assigned filter = .ok (count, after)) :
    ∃ rows, after = { table with rows } ∧ Ascending rows ∧ rows.Perm
      (table.rows.map fun row => if table.selects filter row then table.revised assigned row else row) := by
  unfold update at updated
  simp only [bind, Except.bind] at updated
  split at updated
  · cases updated
  rename_i found read
  rw [targets_read read] at updated
  split at updated
  · cases updated
  rename_i changed folded
  cases updated
  have parted := List.perm_append_comm.trans (List.filter_append_perm (table.selects filter) table.rows)
  obtain ⟨rows, is, ascends, all⟩ := updateRows_perm parted.symm ascending folded
  exact ⟨rows, is, ascends, all.trans (chosen_perm _ _ _)⟩

-- A row that stands before another in what is selected: by the column that is named `rowid`,
-- or by number; where that is no difference, by number.
def Ahead (table : TableData) (a b : Stored) : Prop :=
  table.precedes a b = true ∧ (table.precedes b a = true → a.number < b.number)

theorem inOrder_perm (rows : List Stored) : (table.inOrder rows).Perm rows := by
  induction rows with
  | nil => exact .refl _
  | cons first rest ih => exact (putBefore_perm table.precedes first _).trans (ih.cons first)

end TableData

namespace Cell

def rank : Cell → Lex (Rat ⊕ String)
  | integer value => toLex (.inl value)
  | approximate value => toLex (.inl value)
  | text value => toLex (.inr value)

theorem precedes_rank (a b : Cell) : a.precedes b = true ↔ a.rank ≤ b.rank := by
  cases a <;> cases b <;> simp [precedes, rank]

end Cell

namespace TableData
variable {table : TableData} {a b c row : Stored} {rows others : List Stored}

theorem precedes_total (table : TableData) (a b : Stored) : table.precedes a b = true ∨ table.precedes b a = true := by
  simp only [precedes, Cell.precedes_rank]
  exact le_total _ _

theorem precedes_trans (one : table.precedes a b = true) (other : table.precedes b c = true) :
    table.precedes a c = true := by
  simp only [precedes, Cell.precedes_rank] at *
  exact le_trans one other

theorem enter_ahead (sorted : rows.Pairwise table.Ahead) (least : ∀ held ∈ rows, row.number < held.number) :
    (table.enter row rows).Pairwise table.Ahead := by
  induction rows with
  | nil => exact List.pairwise_singleton _ _
  | cons first rest ih =>
      obtain ⟨before, later⟩ := List.pairwise_cons.mp sorted
      rw [enter_cons]
      split
      · rename_i goes
        refine List.pairwise_cons.mpr ⟨fun held member => ⟨?_, fun _ => least held member⟩, sorted⟩
        rcases List.mem_cons.mp member with rfl | deeper
        · exact goes
        · exact precedes_trans goes (before held deeper).1
      · rename_i stays
        refine List.pairwise_cons.mpr ⟨fun held member => ?_, ih later fun held member =>
          least held (List.mem_cons_of_mem _ member)⟩
        rcases mem_putBefore.mp member with rfl | deeper
        · exact ⟨(table.precedes_total first held).resolve_right stays, fun back => absurd back stays⟩
        · exact before held deeper

theorem inOrder_ahead (ascending : Ascending rows) : (table.inOrder rows).Pairwise table.Ahead := by
  induction rows with
  | nil => exact .nil
  | cons first rest ih =>
      obtain ⟨least, later⟩ := List.pairwise_cons.mp ascending
      exact enter_ahead (ih later) fun held member => least held (mem_inOrder.mp member)

-- There is one order only in which every row is ahead of all that follow.
theorem ahead_unique (sorted : rows.Pairwise table.Ahead) (sorted' : others.Pairwise table.Ahead)
    (same : rows.Perm others) : rows = others :=
  same.eq_of_pairwise (fun _ _ _ _ ahead behind =>
    absurd (ahead.2 behind.1) (Int.lt_asymm (behind.2 ahead.1))) sorted sorted'

theorem ahead_number (unnamed : table.column? "rowid" = none) (less : a.number < b.number) : table.Ahead a b := by
  have shown (row : Stored) : look row (table.reference "rowid") = .integer row.number := by
    unfold reference
    rw [unnamed]
    rfl
  refine ⟨?_, fun _ => less⟩
  rw [precedes, shown, shown]
  exact decide_eq_true (Int.le_of_lt less)

end TableData
end FeatureGate.Sql
