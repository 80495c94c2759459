import FeatureGate.Proofs.SheetTransitions
import Mathlib.Data.List.Induction

namespace FeatureGate.Table
open FeatureGate.Action

-- What an accepted call does to the rows of a table. Rows come in one at a time, and each
-- is rewritten or struck for what it holds itself, wherever it stands.
inductive Deed (ρ : Type) where
  | enters (row : ρ)
  | rewrites (step : ρ → ρ)
  | strikes (gone : ρ → Bool)

namespace Deed
variable {ρ : Type}

def fate : List (Deed ρ) → ρ → Option ρ
  | [], row => some row
  | enters _ :: later, row => fate later row
  | rewrites step :: later, row => fate later (step row)
  | strikes gone :: later, row => if gone row then none else fate later row

def left : List (Deed ρ) → List ρ
  | [] => []
  | enters row :: later => (fate later row).toList ++ left later
  | rewrites _ :: later => left later
  | strikes _ :: later => left later

def on : Deed ρ → List ρ → List ρ
  | enters row, rows => rows ++ [row]
  | rewrites step, rows => rows.map step
  | strikes gone, rows => rows.filter (!gone ·)

theorem fate_append (before after : List (Deed ρ)) (row : ρ) :
    fate (before ++ after) row = (fate before row).bind (fate after) := by
  induction before generalizing row with
  | nil => rfl
  | cons deed later ih => cases deed with
      | enters => exact ih row
      | rewrites step => exact ih (step row)
      | strikes gone =>
          simp only [List.cons_append, fate]
          split
          · rfl
          · exact ih row

theorem on_append (deed : Deed ρ) (row : Option ρ) (rows : List ρ) :
    deed.on (row.toList ++ rows) = (row.bind (fate [deed])).toList ++ deed.on rows := by
  cases row with
  | none => rfl
  | some row => cases deed with
      | enters => rfl
      | rewrites => rfl
      | strikes gone => cases struck : gone row <;> simp [on, fate, struck]

theorem left_append (deeds : List (Deed ρ)) (deed : Deed ρ) : left (deeds ++ [deed]) = deed.on (left deeds) := by
  induction deeds with
  | nil => cases deed <;> rfl
  | cons first later ih => cases first with
      | enters row =>
          simp only [List.cons_append, left, fate_append, ih]
          exact (on_append deed _ _).symm
      | rewrites => exact ih
      | strikes => exact ih

end Deed

namespace Store
variable (store : Store σ) (deed? : σ → Call → Option (Deed ρ))

def deed (s : σ) (call : Call) : List (Deed ρ) :=
  match (store.perform call s).1 with
  | .done _ => (deed? s call).toList
  | _ => []

variable {store deed?} in
theorem deed_none {s : σ} {call : Call} (nothing : deed? s call = none) : store.deed deed? s call = [] := by
  unfold deed
  split
  · rw [nothing]
    rfl
  · rfl

def deeds (calls : List Call) (s : σ) : List (Deed ρ) := store.noted (store.deed deed?) calls s

theorem deeds_snoc (calls : List Call) (call : Call) (s : σ) :
    store.deeds deed? (calls ++ [call]) s = store.deeds deed? calls s ++ store.deed deed? (store.reached calls s) call :=
  store.noted_snoc (store.deed deed?) calls call s

end Store

namespace Shelf
variable {table named : String} {shelf : Shelf} {call : Call}

def rowsUnder (table : String) (shelf : Shelf) : List Row := ((shelf.sheets.get? table).map (·.rows)).getD []

def deed? (table : String) (shelf : Shelf) : Call → Option (Deed Row)
  | .insert named given =>
      if named = table then (shelf.sheets.get? table).map fun sheet => .enters (sheet.layOut given).1 else none
  | .update named assignment filter =>
      if named = table then some (.rewrites fun row => if row.answers filter then row.assign assignment else row)
      else none
  | .delete named filter => if named = table then some (.strikes (Row.answers · filter)) else none
  | .createTable .. | .select .. => none

theorem rowsUnder_put (named : String) (sheet : Sheet) :
    rowsUnder table ⟨shelf.sheets.put named sheet⟩ = if table = named then sheet.rows else rowsUnder table shelf := by
  unfold rowsUnder
  rw [Assoc.get?_put]
  split <;> rfl

-- A call on a sheet, step by step: where it is accepted the rows are those that its deed leaves.
theorem onSheet_deed (named : String) (fault : Layout → Option Fault) (step : Sheet → α × Sheet) (answer : α → Answer)
    (performed : Shelf.store.perform call shelf =
      (onSheet named fault step >>= fun found => Pure.pure (answer found)) shelf)
    (apart : table ≠ named → deed? table shelf call = none)
    (here : table = named → ∀ sheet, shelf.sheets.get? table = some sheet →
      (step sheet).2.rows = (deed? table shelf call).elim sheet.rows (·.on sheet.rows))
    {deeds : List (Deed Row)} (rows : rowsUnder table shelf = Deed.left deeds) :
    rowsUnder table (Shelf.store.perform call shelf).2 =
      Deed.left (deeds ++ Shelf.store.deed (deed? table) shelf call) := by
  have append (deed : Option (Deed Row)) :
      Deed.left (deeds ++ deed.toList) = deed.elim (Deed.left deeds) (·.on (Deed.left deeds)) := by
    cases deed with
    | none => exact congrArg Deed.left (List.append_nil deeds)
    | some deed => exact Deed.left_append deeds deed
  unfold Store.deed
  rw [performed, answer_apply]
  rcases onSheet_ways named fault step shelf with ⟨wrong, failed⟩ | ⟨sheet, there, fine, done⟩
  · simp only [failed, Outcome.map, List.append_nil]
    exact rows
  · simp only [done, Outcome.map, append, rowsUnder_put]
    split
    · rename_i same
      subst same
      have held : rowsUnder table shelf = sheet.rows := by simp [rowsUnder, there]
      rw [here rfl sheet there, ← rows, held]
    · rename_i different
      rw [apart different]
      exact rows

theorem perform_deed (call : Call) {deeds : List (Deed Row)} (rows : rowsUnder table shelf = Deed.left deeds) :
    rowsUnder table (Shelf.store.perform call shelf).2 =
      Deed.left (deeds ++ Shelf.store.deed (deed? table) shelf call) := by
  cases call with
  | createTable named layout =>
      rw [Store.deed_none rfl, List.append_nil, ← rows]
      refine Eq.trans ?_ (show rowsUnder table (createTable named layout shelf).2 = rowsUnder table shelf from ?_)
      · exact congrArg (rowsUnder table) (answer_after _ _ _)
      · unfold createTable
        split
        · rfl
        split
        · rfl
        · rename_i absent
          rw [rowsUnder_put]
          split
          · rename_i same
            rw [same, rowsUnder, absent]
            rfl
          · rfl
  | insert named given =>
      refine onSheet_deed named (·.insertFault named given) (fun sheet => ((), sheet.insert given)) (fun _ => .nothing)
        rfl (fun apart => by rw [deed?, if_neg apart.symm]) (fun same sheet there => ?_) rows
      simp [deed?, same.symm, there, Deed.on, Sheet.insertBy]
  | update named assignment filter =>
      refine onSheet_deed named (·.updateFault named assignment filter) (·.update assignment filter) .count rfl
        (fun apart => by rw [deed?, if_neg apart.symm]) (fun same sheet there => ?_) rows
      simp [deed?, same.symm, Deed.on, Sheet.update_snd, Sheet.rewritten]
  | delete named filter =>
      refine onSheet_deed named (·.cellsFault named filter) (·.delete filter) .count rfl
        (fun apart => by rw [deed?, if_neg apart.symm]) (fun same sheet there => ?_) rows
      simp [deed?, same.symm, Deed.on, Sheet.delete_eq, Sheet.without]
  | select named filter =>
      exact onSheet_deed named (·.cellsFault named filter) (fun sheet => (sheet.select filter, sheet)) .rows rfl
        (fun _ => rfl) (fun _ _ _ => rfl) rows

theorem rows_left (calls : List Call) : rowsUnder table (Shelf.store.reached calls Shelf.empty) =
    Deed.left (Shelf.store.deeds (deed? table) calls Shelf.empty) := by
  induction calls using List.reverseRecOn with
  | nil => rfl
  | append_singleton calls call ih =>
      rw [Store.reached_snoc, Store.deeds_snoc]
      exact perform_deed call ih

theorem select_rows {rows : List Row} (read : (Shelf.select table filter shelf).1 = .done rows) :
    rows = (rowsUnder table shelf).filter (Row.answers · filter) := by
  obtain ⟨sheet, there, _, found, _⟩ := onSheet_parts (Prod.ext read rfl)
  rw [found, rowsUnder, there]
  rfl

end Shelf
end FeatureGate.Table
