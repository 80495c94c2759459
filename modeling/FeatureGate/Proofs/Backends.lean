import FeatureGate.Proofs.CallAgreement

namespace FeatureGate.Sql
open Table FeatureGate.Action

-- What a history must keep to so that a database means the same by it as a shelf:
-- no table name that is kept for the database, none that differs from another in the
-- case of letters only, one layout for each table and every layout as it should be.
-- What is written names no key; what is asked for may.
structure Portable (calls : List Call) : Prop where
  free : ∀ table layout, .createTable table layout ∈ calls → Database.createTable.isReserved table = false
  apart : ∀ a b one other, .createTable a one ∈ calls → .createTable b other ∈ calls → sameName a b = true → a = b
  steady : ∀ table one other, .createTable table one ∈ calls → .createTable table other ∈ calls → one = other
  proper : ∀ table layout, .createTable table layout ∈ calls → layout.Proper
  inserts : ∀ table row layout, .insert table row ∈ calls → .createTable table layout ∈ calls → layout.Keyless row
  updates : ∀ table assignment filter layout, .update table assignment filter ∈ calls →
    .createTable table layout ∈ calls → layout.Keyless assignment

def Database.HasRoom (database : Database) : Prop := ∀ table ∈ database.tables, table.highest < Text.maxInteger

instance (database : Database) : Decidable database.HasRoom :=
  inferInstanceAs (Decidable (∀ table ∈ database.tables, table.highest < Text.maxInteger))

theorem Database.HasRoom.unspent {connection : Connection} (room : connection.database.HasRoom) : ¬connection.Spent := by
  intro spent
  obtain ⟨name, table, held, full⟩ := spent
  have below := room table (List.mem_of_find?_eq_some held)
  omega

section Portable
variable {calls : List Call} (portable : Portable calls)
include portable

theorem Portable.catalogue : Catalogue fun table layout => .createTable table layout ∈ calls := by
  refine ⟨portable.free, ?_, portable.proper⟩
  intro a b one other created created' same
  obtain rfl := portable.apart a b one other created created' same
  exact ⟨rfl, portable.steady a one other created created'⟩

theorem Portable.fits (member : call ∈ calls) : call.Fits fun table layout => .createTable table layout ∈ calls := by
  cases call with
  | createTable table layout => exact member
  | insert table row => exact fun layout created => portable.inserts table row layout member created
  | update table assignment filter =>
      exact fun layout created => portable.updates table assignment filter layout member created
  | delete table filter => trivial
  | select table filter => trivial

end Portable

theorem fresh_paired (declared : String → Layout → Prop) : Paired declared Shelf.empty {} :=
  ⟨⟨nofun, nofun, fun _ _ _ _ => rfl⟩, fun _ => rfl⟩

-- Call for call the same rows in the same order, the same keys, the same counts and
-- the same faults.
theorem backends_agree {calls : List Call} (portable : Portable calls)
    (room : (Connection.store.history calls {}).2.database.HasRoom) :
    (Shelf.store.history calls Shelf.empty).1 = (Connection.store.history calls {}).1 := by
  rw [Store.history_replies] at room ⊢
  rw [Store.history_replies]
  have agree : ∀ call ∈ calls, Action.Agrees (Paired fun table layout => .createTable table layout ∈ calls)
      Connection.Spent (Shelf.store.perform call) (Connection.store.perform call) :=
    fun call member => Store.perform_agrees (store_agrees portable.catalogue) call (portable.fits member)
  rcases replies_agree agree (fresh_paired _) with spent | ⟨answers, _⟩
  · exact (room.unspent spent).elim
  · exact answers

def ledgerLayout : Layout := ⟨[("id", .key), ("owner", .text), ("amount", .integer)]⟩

def entry (owner : String) (amount : Int) : Row := ⟨[("amount", .integer amount), ("owner", .text owner)]⟩

def trial : List Call :=
  [.createTable "ledger" ledgerLayout, .insert "ledger" (entry "a" 1), .insert "ledger" (entry "b" 2),
   .delete "ledger" ⟨[("id", .integer 2)]⟩, .insert "ledger" (entry "c" 3),
   .update "ledger" Assoc.empty Assoc.empty, .insert "ledger" ⟨[("owner", .integer 4)]⟩,
   .select "Ledger" Assoc.empty, .select "ledger" Assoc.empty]

theorem trial_portable : Portable trial := by
  have created : ∀ table layout, .createTable table layout ∈ trial → table = "ledger" ∧ layout = ledgerLayout := by
    intro table layout member
    simpa [trial] using member
  refine ⟨?_, ?_, ?_, ?_, ?_, ?_⟩
  · intro table layout member
    obtain ⟨rfl, _⟩ := created _ _ member
    decide
  · intro a b one other member member' _
    exact (created _ _ member).1.trans (created _ _ member').1.symm
  · intro table one other member member'
    exact (created _ _ member).2.trans (created _ _ member').2.symm
  · intro table layout member
    obtain ⟨_, rfl⟩ := created _ _ member
    exact ⟨by decide, by decide, by decide, by decide⟩
  · intro table row layout member member'
    obtain ⟨_, rfl⟩ := created _ _ member'
    simp only [trial, List.mem_cons, Call.insert.injEq, List.not_mem_nil, reduceCtorEq, false_or, or_false] at member
    rcases member with ⟨_, rfl⟩ | ⟨_, rfl⟩ | ⟨_, rfl⟩ | ⟨_, rfl⟩ <;> intro name named <;> revert name <;> decide
  · intro table assignment filter layout member member'
    simp only [trial, List.mem_cons, Call.update.injEq, List.not_mem_nil, reduceCtorEq, false_or, or_false] at member
    obtain ⟨_, rfl, _⟩ := member
    exact fun name named => nomatch named

theorem trial_agrees :
    Portable trial ∧ (Connection.store.history trial {}).2.database.HasRoom ∧
      (Connection.store.history trial {}).1 =
        [.done .nothing, .done .nothing, .done .nothing, .done (.count 1), .done .nothing, .done (.count 0),
         .failed (.typeMismatch "ledger" "owner" "text"), .failed (.unknownTable "Ledger"),
         .done (.rows [⟨[("id", .integer 1), ("owner", .text "a"), ("amount", .integer 1)]⟩,
           ⟨[("id", .integer 3), ("owner", .text "c"), ("amount", .integer 3)]⟩])] := by
  have room : (Connection.store.history trial {}).2.database.HasRoom := by decide +kernel
  exact ⟨trial_portable, room, (backends_agree trial_portable room).symm.trans rfl⟩

end FeatureGate.Sql
