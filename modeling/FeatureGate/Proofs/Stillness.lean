import FeatureGate.Proofs.Agreement
import FeatureGate.Proofs.Integrity

namespace FeatureGate
open Table Registry FeatureGate.Action

namespace Action
variable {view : σ → β}

def Still (view : σ → β) (action : Action σ ε α) : Prop := ∀ s, view (action s).2 = view s

def Spares (view : σ → β) (action : Action σ ε α) : Prop :=
  ∀ s, (∃ answer, (action s).1 = .done answer) ∨ view (action s).2 = view s

theorem Spares.answer {action : Action σ ε α} (spares : Spares view action) (f : α → β') :
    Spares view (action >>= fun answer => Pure.pure (f answer)) := by
  intro s
  rw [answer_apply]
  rcases spares s with ⟨answer, done⟩ | still
  · exact .inl ⟨f answer, congrArg (Outcome.map f) done⟩
  · exact .inr still

theorem Still.through {action : Action σ ε α} (still : Still view action) (f : β → γ) : Still (f ∘ view) action :=
  fun s => congrArg f (still s)

theorem still_iff {action : Action σ ε α} : Still view action ↔ ∀ seen, Keeps (view · = seen) action :=
  ⟨fun still _ s held => (still s).trans held, fun keeps s => keeps (view s) s rfl⟩

theorem Still.bind {first : Action σ ε α} {next : α → Action σ ε β'} (one : Still view first)
    (rest : ∀ answer, Still view (next answer)) : Still view (first >>= next) :=
  still_iff.mpr fun seen => Keeps.bind (still_iff.mp one seen) fun answer => still_iff.mp (rest answer) seen

theorem Still.refuse (objection : Option ε) : Still view (Action.refuse objection) := by
  cases objection <;> exact fun _ => rfl

theorem Spares.bind {first : Action σ ε α} {next : α → Action σ ε β'} (still : Still view first)
    (rest : ∀ answer, Spares view (next answer)) : Spares view (first >>= next) := by
  intro s
  have looked := still s
  rw [bind_apply]
  cases ended : first s with
  | mk outcome middle =>
      rw [ended] at looked
      cases outcome with
      | failed error => exact .inr looked
      | aborted => exact .inr looked
      | done answer => exact (rest answer middle).imp_right fun later => later.trans looked

theorem Still.agrees {action : Action σ ε α} (still : Still view action) (seen : β) :
    Agrees (fun (_ : σ) _ => False) (view · = seen) action action :=
  ⟨fun _ _ never => never.elim, still_iff.mp still seen⟩

theorem still_of_agrees {paired : β → σ → σ → Prop} {one : β → Action σ ε α} {action : Action σ ε α}
    (agree : ∀ seen, Agrees (paired seen) (view · = seen) (one seen) action) : Still view action :=
  still_iff.mpr fun seen => (agree seen).worn

end Action

namespace Table

def Call.Writes (table : String) : Call → Prop
  | .insert name _ | .update name _ _ | .delete name _ => name = table
  | .createTable .. | .select .. => False

namespace Store

inductive Looks (store : Store σ) : σ → σ → Prop where
  | here : Looks store s s
  | on (table : String) (filter : Row) (looks : Looks store s middle) :
      Looks store s (store.select table filter middle).2

theorem Looks.still {store : Store σ} {view : σ → β} (reads : ∀ table filter, Still view (store.select table filter))
    (looks : store.Looks s middle) : view middle = view s := by
  induction looks with
  | here => rfl
  | on table filter _ ih => exact (reads table filter _).trans ih

-- Selections may come in any number. Behind them there is one write on the table at
-- most, and nothing that could still fail.
def WritesOnce (store : Store σ) (table : String) (action : Action σ ε α) : Prop :=
  ∀ s, ∃ middle, store.Looks s middle ∧ ((∃ outcome, action s = (outcome, middle)) ∨
    ∃ call : Call, call.Writes table ∧ (action s).2 = (store.perform call middle).2 ∧
      ((∃ answer, (store.perform call middle).1 = .done answer) → ∃ answer, (action s).1 = .done answer))

section WritesOnce
variable {store : Store σ} {table : String}

theorem WritesOnce.ofOutcome (outcome : Outcome ε α) : store.WritesOnce table (Action.ofOutcome outcome) :=
  fun s => ⟨s, .here, .inl ⟨outcome, rfl⟩⟩

theorem WritesOnce.pure (answer : α) : store.WritesOnce table (Pure.pure answer : Action σ ε α) :=
  .ofOutcome (.done answer)

theorem WritesOnce.last (call : Call) (writes : call.Writes table) {action : Action σ ε α}
    (same : ∀ s, (action s).2 = (store.perform call s).2)
    (goesOn : ∀ s answer, (store.perform call s).1 = .done answer → ∃ answer, (action s).1 = .done answer) :
    store.WritesOnce table action :=
  fun s => ⟨s, .here, .inr ⟨call, writes, same s, fun ⟨answer, done⟩ => goesOn s answer done⟩⟩

theorem WritesOnce.look {next : α → Action σ ε β} {first : Action σ ε α}
    (looks : ∀ s, store.Looks s (first s).2) (rest : ∀ answer, store.WritesOnce table (next answer)) :
    store.WritesOnce table (first >>= next) := by
  intro s
  have looked := looks s
  rw [bind_apply]
  cases ended : first s with
  | mk outcome middle =>
      rw [ended] at looked
      cases outcome with
      | failed error => exact ⟨middle, looked, .inl ⟨_, rfl⟩⟩
      | aborted => exact ⟨middle, looked, .inl ⟨_, rfl⟩⟩
      | done answer =>
          obtain ⟨last, later, ways⟩ := rest answer middle
          have far : store.Looks s last := by
            clear ways
            induction later with
            | here => exact looked
            | on table filter _ ih => exact .on table filter ih
          exact ⟨last, far, ways⟩

end WritesOnce

-- Looks and new tables change nothing that is seen, and a write does so only when it
-- is done.
structure Steady (view : σ → β) (store : Store σ) : Prop where
  creates : ∀ declared ∈ Registry.tables, Still view (store.createTable declared.1 declared.2)
  inserts : ∀ table row, Spares view (store.insert table row)
  updates : ∀ table assignment filter, Spares view (store.update table assignment filter)
  deletes : ∀ table filter, Spares view (store.delete table filter)
  reads : ∀ table filter, Still view (store.select table filter)

end Store
end Table

namespace Registry
variable {store : Store σ}

theorem rowsOf_looks (store : Store σ) (table : String) (key : Row) (s : σ) : store.Looks s (rowsOf store table key s).2 :=
  .on table key .here

theorem insert_once (table : String) (row : Row) :
    store.WritesOnce table ((store.insert table row).mapError Error.store) := by
  refine .last (.insert table row) rfl (fun s => ?_) fun s answer done => ?_
  · exact (answer_after (store.insert table row) (fun _ => Answer.nothing) s).symm
  · obtain ⟨_, _, inserted, _⟩ := bind_parts (Prod.ext done rfl)
    exact ⟨_, congrArg Prod.fst (mapError_done inserted)⟩

theorem update_once (table : String) (cells key : Row) : store.WritesOnce table
    ((store.update table cells key).mapError Error.store >>= fun _ => Pure.pure ()) := by
  refine .last (.update table cells key) rfl (fun s => ?_) fun s answer done => ?_
  · exact (answer_after _ (fun _ => ()) s).trans (answer_after (store.update table cells key) Answer.count s).symm
  · obtain ⟨_, _, updated, _⟩ := bind_parts (Prod.ext done rfl)
    exact ⟨(), congrArg Prod.fst (bind_done (mapError_done updated))⟩

theorem delete_once (table : String) (key : Row) : store.WritesOnce table
    ((store.delete table key).mapError Error.store >>= fun _ => Pure.pure ()) := by
  refine .last (.delete table key) rfl (fun s => ?_) fun s answer done => ?_
  · exact (answer_after _ (fun _ => ()) s).trans (answer_after (store.delete table key) Answer.count s).symm
  · obtain ⟨_, _, deleted, _⟩ := bind_parts (Prod.ext done rfl)
    exact ⟨(), congrArg Prod.fst (bind_done (mapError_done deleted))⟩

theorem writeUnder_once (table : String) (key cells : Row) :
    store.WritesOnce table (writeUnder store table key cells) := by
  refine .look (rowsOf_looks store table key) fun rows => ?_
  cases empty : rows.isEmpty with
  | true => exact insert_once _ _
  | false => exact update_once _ _ _

theorem apply_once (store : Store σ) (mutation : Mutation) : store.WritesOnce mutation.table (mutation.apply store) := by
  cases mutation with
  | setSuperuser user =>
      refine .look (rowsOf_looks store _ _) fun rows => ?_
      cases empty : rows.isEmpty with
      | true => exact insert_once _ _
      | false => exact .pure _
  | removeSuperuser user =>
      refine .look (rowsOf_looks store _ _) fun rows => ?_
      cases empty : rows.isEmpty with
      | true => exact .pure _
      | false => exact delete_once _ _
  | updateFeature plugin feature update =>
      refine .look (fun s => ?_) fun base => writeUnder_once _ _ _
      have looked := rowsOf_looks store features (featureKey plugin feature) s
      unfold defaults?
      rw [bind_apply]
      cases ended : rowsOf store features (featureKey plugin feature) s with
      | mk outcome middle =>
          rw [ended] at looked
          cases outcome <;> exact looked
  | updateGroup plugin feature group state => exact writeUnder_once _ _ _
  | updateUser plugin feature user state => exact writeUnder_once _ _ _

section Seen
variable {view : σ → β} (reads : ∀ table filter, Still view (store.select table filter))
include reads

theorem apply_spares (inserts : ∀ table row, Spares view (store.insert table row))
    (updates : ∀ table assignment filter, Spares view (store.update table assignment filter))
    (deletes : ∀ table filter, Spares view (store.delete table filter)) (mutation : Mutation) :
    Spares view (mutation.apply store) := by
  have writes (table : String) (call : Call) (writing : call.Writes table) : Spares view (store.perform call) := by
    cases call with
    | insert name row => exact (inserts name row).answer fun _ => Answer.nothing
    | update name assignment filter => exact (updates name assignment filter).answer Answer.count
    | delete name filter => exact (deletes name filter).answer Answer.count
    | createTable name layout => exact writing.elim
    | select name filter => exact writing.elim
  intro s
  obtain ⟨middle, looks, ⟨outcome, ended⟩ | ⟨call, writing, world, goesOn⟩⟩ := apply_once store mutation s
  · rw [ended]
    exact .inr (looks.still reads)
  · rw [world]
    rcases writes _ call writing middle with done | still
    · exact .inl (goesOn done)
    · exact .inr (still.trans (looks.still reads))

theorem apply_elsewhere {mutation : Mutation}
    (apart : ∀ call : Call, call.Writes mutation.table → Still view (store.perform call)) :
    Still view (mutation.apply store) := by
  intro s
  obtain ⟨middle, looks, ⟨outcome, ended⟩ | ⟨call, writing, world, _⟩⟩ := apply_once store mutation s
  · rw [ended]
    exact looks.still reads
  · rw [world]
    exact (apart call writing middle).trans (looks.still reads)

end Seen

theorem createTables_still {view : σ → β} (steady : store.Steady view) : Still view (createTables store) :=
  still_iff.mpr fun _ => Keeps.each fun _ member => still_iff.mp (steady.creates _ member) _

end Registry

theorem setUp_spares {store : Store σ} {view : σ → β} (steady : store.Steady view) (superuser : Option String) :
    Spares view (Service.setUp store superuser) := by
  refine Spares.bind (createTables_still steady) fun _ => ?_
  cases superuser with
  | none => exact fun _ => .inr rfl
  | some user =>
      exact Spares.bind (Still.refuse _) fun _ =>
        apply_spares steady.reads steady.inserts steady.updates steady.deletes (.setSuperuser user)

namespace Table

def Shelf.contents (shelf : Shelf) (table : String) : List Row × Int :=
  ((shelf.sheets.get? table).map fun sheet => (sheet.rows, sheet.nextKey)).getD ([], 1)

theorem Shelf.createTable_still (table : String) (layout : Layout) : Still Shelf.contents (Shelf.createTable table layout) := by
  intro shelf
  unfold Shelf.createTable
  split
  · rfl
  · split
    · rfl
    · rename_i vacant
      funext other
      by_cases same : other = table
      · simp [Shelf.contents, same, vacant]
      · simp [Shelf.contents, same]

theorem Shelf.onSheet_spares (view : Shelf → β) (table : String) (fault : Layout → Option Fault)
    (step : Sheet → α × Sheet) : Spares view (Shelf.onSheet table fault step) := by
  intro shelf
  unfold Shelf.onSheet
  split
  · exact .inr rfl
  · split
    · exact .inr rfl
    · exact .inl ⟨_, rfl⟩

theorem Shelf.store_steady : Shelf.store.Steady Shelf.contents :=
  ⟨fun _ _ => Shelf.createTable_still _ _, fun _ _ => onSheet_spares _ _ _ _, fun _ _ _ => onSheet_spares _ _ _ _,
    fun _ _ => onSheet_spares _ _ _ _, fun table filter shelf => congrArg _ (Shelf.select_quiet table filter shelf)⟩

section Planned
variable {plan : Nat → Option (Outcome Fault Empty)} {view : σ → β}

theorem Store.carried_still {call : Action σ Fault α} (still : Still view call) :
    Still (view ∘ Prod.snd) (planned.carried plan call) := by
  rintro ⟨number, s⟩
  simp only [planned.carried]
  cases plan number with
  | none => exact still s
  | some ending => cases ending with
      | done answer => exact answer.elim
      | failed fault => rfl
      | aborted => rfl

theorem Store.carried_spares {call : Action σ Fault α} (spares : Spares view call) :
    Spares (view ∘ Prod.snd) (planned.carried plan call) := by
  rintro ⟨number, s⟩
  simp only [planned.carried]
  cases plan number with
  | none => exact spares s
  | some ending => cases ending with
      | done answer => exact answer.elim
      | failed fault => exact .inr rfl
      | aborted => exact .inr rfl

theorem Store.Steady.planned {store : Store σ} (steady : store.Steady view)
    (plan : Nat → Option (Outcome Fault Empty)) : (store.planned plan).Steady (view ∘ Prod.snd) :=
  ⟨fun _ member => carried_still (steady.creates _ member), fun _ _ => carried_spares (steady.inserts _ _),
    fun _ _ _ => carried_spares (steady.updates _ _ _), fun _ _ => carried_spares (steady.deletes _ _),
    fun _ _ => carried_still (steady.reads _ _)⟩

end Planned
end Table
end FeatureGate
