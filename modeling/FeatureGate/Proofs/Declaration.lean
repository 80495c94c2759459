import FeatureGate.Proofs.Verdict
import FeatureGate.Proofs.Untouched
import FeatureGate.Proofs.SheetTransitions
import Mathlib.Data.List.Induction

namespace FeatureGate
open Table FeatureGate.Action

namespace Table
variable {call : Call} {table : String}

namespace Store
variable (store : Store σ)

theorem perform_parts (call : Call) (s : σ) : store.perform call s = match call with
    | .createTable table layout =>
        ((store.createTable table layout s).1.map fun _ => .nothing, (store.createTable table layout s).2)
    | .insert table row => ((store.insert table row s).1.map fun _ => .nothing, (store.insert table row s).2)
    | .update table assignment filter =>
        ((store.update table assignment filter s).1.map .count, (store.update table assignment filter s).2)
    | .delete table filter => ((store.delete table filter s).1.map .count, (store.delete table filter s).2)
    | .select table filter => ((store.select table filter s).1.map .rows, (store.select table filter s).2) := by
  cases call <;> exact answer_apply ..

theorem reached_still (view : σ → β) {calls : List Call}
    (still : ∀ call ∈ calls, ∀ s, view (store.perform call s).2 = view s) (s : σ) :
    view (store.reached calls s) = view s := by
  induction calls generalizing s with
  | nil => rfl
  | cons call rest ih =>
      have later := ih (fun held member => still held (List.mem_cons_of_mem _ member)) (store.perform call s).2
      exact later.trans (still call List.mem_cons_self s)

def heard (s : σ) (call : Call) : List Call :=
  match (store.perform call s).1 with
  | .done _ => [call]
  | _ => []

def accepted (calls : List Call) (s : σ) : List Call := store.noted store.heard calls s

theorem accepted_snoc (calls : List Call) (call : Call) (s : σ) :
    store.accepted (calls ++ [call]) s = store.accepted calls s ++ store.heard (store.reached calls s) call :=
  store.noted_snoc store.heard calls call s

end Store

def Call.declares? (table : String) : Call → Option Layout
  | .createTable named layout => if named = table then some layout else none
  | .insert .. | .update .. | .delete .. | .select .. => none

theorem declares?_none {calls : List Call} :
    calls.findSome? (Call.declares? table) = none ↔ ∀ layout, .createTable table layout ∉ calls := by
  rw [List.findSome?_eq_none_iff]
  constructor
  · intro silent layout member
    simpa [Call.declares?] using silent _ member
  · intro never call member
    cases call with
    | createTable named layout =>
        have other : named ≠ table := by
          rintro rfl
          exact never layout member
        simp [Call.declares?, other]
    | insert | update | delete | select => rfl

theorem Store.heard_other (store : Store σ) {s : σ} (other : call.declares? table = none) :
    (store.heard s call).findSome? (Call.declares? table) = none := by
  unfold heard
  split <;> simp [other]

namespace Shelf
variable {shelf : Shelf} {named : String}

def layout? (table : String) (shelf : Shelf) : Option Layout := (shelf.sheets.get? table).map (·.layout)

theorem onSheet_layout {asked : Layout → Option Fault} {step : Sheet → α × Sheet}
    (keeps : ∀ sheet, (step sheet).2.layout = sheet.layout) (named : String) :
    layout? table (onSheet named asked step shelf).2 = layout? table shelf := by
  rcases onSheet_ways named asked step shelf with ⟨wrong, failed⟩ | ⟨sheet, there, _, done⟩
  · rw [failed]
  · rw [done, layout?, Assoc.get?_put]
    split
    · rename_i same
      simp [layout?, same, there, keeps]
    · rfl

theorem perform_layout (call : Call) (shelf : Shelf) : layout? table (store.perform call shelf).2 =
    (layout? table shelf).or ((store.heard shelf call).findSome? (Call.declares? table)) := by
  cases call with
  | createTable named layout =>
      simp only [Store.heard, Store.perform_parts, store, createTable]
      cases wrong : layout.nameFault named with
      | some fault => simp [Outcome.map]
      | none => cases there : shelf.sheets.get? named with
          | some sheet =>
              by_cases same : named = table
              · subst same
                simp [Outcome.map, layout?, there]
              · simp [Outcome.map, Call.declares?, same]
          | none =>
              by_cases same : named = table
              · subst same
                simp [Outcome.map, layout?, there, Call.declares?]
              · simp [Outcome.map, layout?, Call.declares?, same, Ne.symm same]
  | insert named given =>
      rw [Store.heard_other _ rfl, Option.or_none, Store.perform_parts]
      exact onSheet_layout (fun _ => rfl) named
  | update named assignment filter =>
      rw [Store.heard_other _ rfl, Option.or_none, Store.perform_parts]
      refine onSheet_layout (fun sheet => ?_) named
      rw [Sheet.update_snd]
      rfl
  | delete named filter =>
      rw [Store.heard_other _ rfl, Option.or_none, Store.perform_parts]
      exact onSheet_layout (fun _ => rfl) named
  | select named filter =>
      rw [Store.heard_other _ rfl, Option.or_none, Store.perform_parts]
      exact onSheet_layout (fun _ => rfl) named

theorem reached_layout (table : String) (calls : List Call) : layout? table (store.reached calls empty) =
    (store.accepted calls empty).findSome? (Call.declares? table) := by
  induction calls using List.reverseRecOn with
  | nil => rfl
  | append_singleton calls call ih =>
      rw [Store.reached_snoc, Store.accepted_snoc, List.findSome?_append, perform_layout, ih]

end Shelf
end Table

namespace Sql.Connection
variable {connection : Connection} {call : Call} {table : String} {layout : Layout}

theorem perform_registers (other : call.method ≠ .createTable) (connection : Connection) :
    (store.perform call connection).2.layouts = connection.layouts := by
  rw [Store.perform_parts]
  cases call with
  | createTable => exact absurd rfl other
  | insert named given =>
      rcases insert_ends named given connection with ⟨_, failed⟩ | ⟨_, _, _, _, _, _, _, done⟩
      · simp only [store, failed]
      · simp only [store, done]
  | update named assignment filter =>
      rcases update_ends named assignment filter connection with
        ⟨_, failed⟩ | ⟨_, idle⟩ | ⟨_, _, _, _, _, _, _, _, _, done⟩
      · simp only [store, failed]
      · simp only [store, idle]
      · simp only [store, done]
  | delete named filter =>
      rcases delete_ends named filter connection with ⟨_, failed⟩ | ⟨_, _, _, _, _, done⟩
      · simp only [store, failed]
      · simp only [store, done]
  | select named filter =>
      rcases select_ends named filter connection with ⟨_, failed⟩ | ⟨_, _, _, _, done⟩
      · simp only [store, failed]
      · simp only [store, done]

theorem perform_layout (call : Call) (connection : Connection) :
    (store.perform call connection).2.layouts.get? table =
      ((store.heard connection call).findSome? (Call.declares? table)).or (connection.layouts.get? table) := by
  rcases call.creates_or with ⟨named, layout, rfl⟩ | creates
  · rcases createTable_ends named layout connection with ⟨fault, failed⟩ | ⟨database, _, done⟩
    · simp [Store.heard, Store.perform_parts, store, failed, Outcome.map]
    · simp only [Store.heard, Store.perform_parts, store, done, Outcome.map]
      by_cases same : named = table
      · simp [Call.declares?, same]
      · simp [Call.declares?, same, Ne.symm same]
  · have other : call.declares? table = none := by
      cases call with
      | createTable => exact absurd rfl creates
      | insert | update | delete | select => rfl
    rw [perform_registers creates, Store.heard_other _ other, Option.none_or]

theorem reached_layout (table : String) (calls : List Call) (database : Database) :
    (store.reached calls { database }).layouts.get? table =
      (store.accepted calls { database }).reverse.findSome? (Call.declares? table) := by
  induction calls using List.reverseRecOn with
  | nil => rfl
  | append_singleton calls call ih =>
      have single : ((store.heard (store.reached calls { database }) call).reverse.findSome? (Call.declares? table)) =
          (store.heard (store.reached calls { database }) call).findSome? (Call.declares? table) := by
        unfold Store.heard
        split <;> rfl
      rw [Store.reached_snoc, Store.accepted_snoc, List.reverse_append, List.findSome?_append, perform_layout, ih, single]

end Sql.Connection

end FeatureGate
