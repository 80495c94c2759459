import FeatureGate.Proofs.KeyedWrites

namespace FeatureGate.Table
open FeatureGate.Action

-- How a sheet comes to be after a call: it was there and the call left it alone, or the
-- call made it, added a row to it, rewrote rows of it or struck rows from it.
inductive Turn (following : Int → Int) (table : String) (shelf : Shelf) : Call → Sheet → Prop
  | still {call sheet} : shelf.sheets.get? table = some sheet → Turn following table shelf call sheet
  | created {layout} : shelf.sheets.get? table = none → layout.nameFault table = none →
      Turn following table shelf (.createTable table layout) { layout }
  | inserted {sheet given} : shelf.sheets.get? table = some sheet → sheet.layout.insertFault table given = none →
      Turn following table shelf (.insert table given) (sheet.insertBy following given)
  | updated {sheet assignment filter} : shelf.sheets.get? table = some sheet →
      sheet.layout.updateFault table assignment filter = none → assignment.isEmpty = false →
      Turn following table shelf (.update table assignment filter) (sheet.rewritten assignment filter)
  | deleted {sheet filter} : shelf.sheets.get? table = some sheet → sheet.layout.cellsFault table filter = none →
      Turn following table shelf (.delete table filter) (sheet.without filter)

variable {table named : String} {call : Call} {shelf : Shelf} {after : Sheet} {following : Int → Int}

theorem Shelf.onSheet_ways (table : String) (fault : Layout → Option Fault) (step : Sheet → α × Sheet) (shelf : Shelf) :
    (∃ wrong, Shelf.onSheet table fault step shelf = (.failed wrong, shelf)) ∨
      ∃ sheet, shelf.sheets.get? table = some sheet ∧ fault sheet.layout = none ∧
        Shelf.onSheet table fault step shelf = (.done (step sheet).1, ⟨shelf.sheets.put table (step sheet).2⟩) := by
  unfold Shelf.onSheet
  cases there : shelf.sheets.get? table with
  | none => exact .inl ⟨_, rfl⟩
  | some sheet =>
      cases fine : fault sheet.layout with
      | some wrong => exact .inl ⟨wrong, by simp [fine]⟩
      | none => exact .inr ⟨sheet, rfl, fine, by simp [fine]⟩

theorem Shelf.onSheet_turn {fault : Layout → Option Fault} {step : Sheet → α × Sheet}
    (held : (Shelf.onSheet named fault step shelf).2.sheets.get? table = some after) :
    shelf.sheets.get? table = some after ∨ ∃ sheet, named = table ∧ shelf.sheets.get? table = some sheet ∧
      fault sheet.layout = none ∧ after = (step sheet).2 := by
  rcases onSheet_ways named fault step shelf with ⟨wrong, failed⟩ | ⟨sheet, there, fine, done⟩
  · rw [failed] at held
    exact .inl held
  · rw [done, Assoc.get?_put] at held
    by_cases same : table = named
    · rw [if_pos same, Option.some.injEq] at held
      subst same
      exact .inr ⟨sheet, rfl, there, fine, held.symm⟩
    · rw [if_neg same] at held
      exact .inl held

theorem Shelf.turnBy (held : ((Shelf.storeBy following).perform call shelf).2.sheets.get? table = some after) :
    Turn following table shelf call after := by
  cases call with
  | createTable named layout =>
      have made := answer_after (Shelf.createTable named layout) (fun _ => Answer.nothing) shelf
      have moved : (Shelf.createTable named layout shelf).2.sheets.get? table = some after := made ▸ held
      unfold createTable at moved
      split at moved
      · exact .still moved
      rename_i fine
      split at moved
      · exact .still moved
      rename_i free
      rw [Assoc.get?_put] at moved
      by_cases same : table = named
      · subst same
        rw [if_pos rfl, Option.some.injEq] at moved
        subst moved
        exact .created free fine
      · rw [if_neg same] at moved
        exact .still moved
  | insert named given =>
      have same := answer_after (Shelf.insertBy following named given) (fun _ => Answer.nothing) shelf
      rcases onSheet_turn (same ▸ held) with there | ⟨sheet, rfl, there, fine, rfl⟩
      · exact .still there
      · exact .inserted there fine
  | update named assignment filter =>
      have same := answer_after (Shelf.update named assignment filter) Answer.count shelf
      rcases onSheet_turn (same ▸ held) with there | ⟨sheet, rfl, there, fine, rfl⟩
      · exact .still there
      · rw [Sheet.update_snd]
        cases empty : assignment.isEmpty with
        | true => exact .still (by rw [Sheet.rewritten_nothing empty, there])
        | false => exact .updated there fine empty
  | delete named filter =>
      have same := answer_after (Shelf.delete named filter) Answer.count shelf
      rcases onSheet_turn (same ▸ held) with there | ⟨sheet, rfl, there, fine, rfl⟩
      · exact .still there
      · exact .deleted there fine
  | select named filter =>
      have same := answer_after (Shelf.select named filter) Answer.rows shelf
      rcases onSheet_turn (same ▸ held) with there | ⟨sheet, rfl, there, fine, rfl⟩
      · exact .still there
      · exact .still there

theorem Shelf.turn (held : (Shelf.store.perform call shelf).2.sheets.get? table = some after) :
    Turn (· + 1) table shelf call after := turnBy held

end FeatureGate.Table
