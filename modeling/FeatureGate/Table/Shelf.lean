import FeatureGate.Table.Store

namespace FeatureGate.Table

-- A table kept as a list: rows in the order of their insertion, and the key for
-- the next row that brings none.
structure Sheet where
  layout : Layout
  rows : List Row := []
  nextKey : Int := 1
deriving DecidableEq, Repr

namespace Sheet

-- The next column of a row that is laid out: what was given, else the next key.
-- A key that is used pushes the next key past itself. What follows a key is left
-- open, for a counter of 64 bits comes to an end.
def placeBy (following : Int → Int) (given : Row) (laid : Row × Int) (column : String × Kind) : Row × Int :=
  match column.2, given.get? column.1 with
  | .key, some (.integer key) => (laid.1.put column.1 (.integer key), max laid.2 (following key))
  | .key, none => (laid.1.put column.1 (.integer laid.2), max laid.2 (following laid.2))
  | _, some value => (laid.1.put column.1 value, laid.2)
  | _, none => laid

def layOutBy (following : Int → Int) (sheet : Sheet) (given : Row) : Row × Int :=
  sheet.layout.columns.foldl (placeBy following given) (Assoc.empty, sheet.nextKey)

def insertBy (following : Int → Int) (sheet : Sheet) (given : Row) : Sheet :=
  { sheet with
    rows := sheet.rows ++ [(sheet.layOutBy following given).1]
    nextKey := (sheet.layOutBy following given).2 }

-- Here the count has no end; what hangs on a counter that comes to its end is said of
-- `layOutBy` and `insertBy`.
abbrev layOut (sheet : Sheet) (given : Row) : Row × Int := sheet.layOutBy (· + 1) given

abbrev insert (sheet : Sheet) (given : Row) : Sheet := sheet.insertBy (· + 1) given

def select (sheet : Sheet) (filter : Row) : List Row := sheet.rows.filter (Row.answers · filter)

def revise (assignment filter : Row) (done : Nat × List Row) (row : Row) : Nat × List Row :=
  if row.answers filter then (done.1 + 1, done.2 ++ [row.assign assignment]) else (done.1, done.2 ++ [row])

def update (sheet : Sheet) (assignment filter : Row) : Nat × Sheet :=
  if assignment.isEmpty then (0, sheet)
  else
    let done := sheet.rows.foldl (revise assignment filter) (0, [])
    (done.1, { sheet with rows := done.2 })

def delete (sheet : Sheet) (filter : Row) : Nat × Sheet :=
  let kept := sheet.rows.filter fun row => !row.answers filter
  (sheet.rows.length - kept.length, { sheet with rows := kept })

def rewritten (sheet : Sheet) (assignment filter : Row) : Sheet :=
  { sheet with
    rows := sheet.rows.map fun row => if row.answers filter then row.assign assignment else row }

def without (sheet : Sheet) (filter : Row) : Sheet :=
  { sheet with rows := sheet.rows.filter fun row => !row.answers filter }

-- What is kept while one column after the other is laid out holds of the whole row.
theorem layOutBy_induct {following : Int → Int} {sheet : Sheet} {given : Row}
    {motive : List (String × Kind) → Row × Int → Prop} (begun : motive [] (Assoc.empty, sheet.nextKey))
    (placed : ∀ seen laid, ∀ column ∈ sheet.layout.columns, motive seen laid →
      motive (seen ++ [column]) (placeBy following given laid column)) :
    motive sheet.layout.columns (sheet.layOutBy following given) := by
  have onward (rest seen : List (String × Kind)) (laid : Row × Int) (within : ∀ column ∈ rest, column ∈ sheet.layout.columns)
      (held : motive seen laid) : motive (seen ++ rest) (rest.foldl (placeBy following given) laid) := by
    induction rest generalizing seen laid with
    | nil => exact (List.append_nil seen).symm ▸ held
    | cons column rest ih =>
        obtain ⟨here, later⟩ := List.forall_mem_cons.mp within
        simpa using ih _ _ later (placed seen laid column here held)
  exact onward sheet.layout.columns [] _ (fun _ member => member) begun

theorem revise_rows (assignment filter : Row) (rows : List Row) (done : Nat × List Row) :
    rows.foldl (revise assignment filter) done =
      (done.1 + (rows.filter (Row.answers · filter)).length,
        done.2 ++ rows.map fun row => if row.answers filter then row.assign assignment else row) := by
  induction rows generalizing done with
  | nil => simp
  | cons row rest ih =>
      rw [List.foldl_cons, ih]
      by_cases answers : row.answers filter = true
      · simp [revise, answers, Nat.add_assoc, Nat.add_comm]
      · simp [revise, answers]

theorem update_eq (sheet : Sheet) (assignment filter : Row) : sheet.update assignment filter =
    if assignment.isEmpty then (0, sheet) else ((sheet.select filter).length, sheet.rewritten assignment filter) := by
  simp [update, revise_rows, select, rewritten]

theorem rewritten_nothing {assignment : Row} (nothing : assignment.isEmpty = true) (sheet : Sheet) (filter : Row) :
    sheet.rewritten assignment filter = sheet := by
  have same : ∀ row : Row, row.assign assignment = row := fun row => by
    simp [Row.assign, Assoc.putAll, List.isEmpty_iff.mp nothing]
  simp [rewritten, same]

theorem update_snd (sheet : Sheet) (assignment filter : Row) :
    (sheet.update assignment filter).2 = sheet.rewritten assignment filter := by
  rw [update_eq]
  by_cases nothing : assignment.isEmpty = true
  · rw [if_pos nothing, rewritten_nothing nothing]
  · rw [if_neg nothing]

theorem delete_eq (sheet : Sheet) (filter : Row) :
    sheet.delete filter = ((sheet.select filter).length, sheet.without filter) := by
  have parted := sheet.rows.length_eq_countP_add_countP (Row.answers · filter)
  simp only [List.countP_eq_length_filter, Bool.not_eq_true, Bool.decide_eq_false] at parted
  refine Prod.ext ?_ rfl
  simp only [delete, select]
  omega

end Sheet

structure Shelf where
  sheets : Assoc Sheet := Assoc.empty
deriving DecidableEq, Repr

namespace Shelf

def empty : Shelf := {}

def onSheet (table : String) (fault : Layout → Option Fault) (step : Sheet → α × Sheet) :
    Action Shelf Fault α := fun shelf =>
  match shelf.sheets.get? table with
  | none => (.failed (.unknownTable table), shelf)
  | some sheet =>
      match fault sheet.layout with
      | some fault => (.failed fault, shelf)
      | none => (.done (step sheet).1, ⟨shelf.sheets.put table (step sheet).2⟩)

def createTable (table : String) (layout : Layout) : Action Shelf Fault Unit := fun shelf =>
  match layout.nameFault table with
  | some fault => (.failed fault, shelf)
  | none =>
      match shelf.sheets.get? table with
      | some _ => (.done (), shelf)
      | none => (.done (), ⟨shelf.sheets.put table { layout }⟩)

def insertBy (following : Int → Int) (table : String) (row : Row) : Action Shelf Fault Unit :=
  onSheet table (·.insertFault table row) fun sheet => ((), sheet.insertBy following row)

abbrev insert (table : String) (row : Row) : Action Shelf Fault Unit := insertBy (· + 1) table row

def update (table : String) (assignment filter : Row) : Action Shelf Fault Nat :=
  onSheet table (·.updateFault table assignment filter) (·.update assignment filter)

def delete (table : String) (filter : Row) : Action Shelf Fault Nat :=
  onSheet table (·.cellsFault table filter) (·.delete filter)

def select (table : String) (filter : Row) : Action Shelf Fault (List Row) :=
  onSheet table (·.cellsFault table filter) fun sheet => (sheet.select filter, sheet)

def store : Store Shelf where
  createTable := createTable
  insert := insert
  update := update
  delete := delete
  select := select

def storeBy (following : Int → Int) : Store Shelf := { store with insert := insertBy following }

end Shelf
end FeatureGate.Table
