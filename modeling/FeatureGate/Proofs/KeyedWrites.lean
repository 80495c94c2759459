import FeatureGate.Proofs.Atomicity
import Mathlib.Data.Option.Basic

namespace FeatureGate

namespace Assoc

theorem get?_putAll_apart {pairs : List (String × α)} (apart : name ∉ pairs.map (·.1)) (m : Assoc α) :
    (m.putAll pairs).get? name = m.get? name := by
  induction pairs generalizing m with
  | nil => rfl
  | cons pair rest ih =>
      simp only [List.map_cons, List.mem_cons, not_or] at apart
      have put : (m.put pair.1 pair.2).get? name = m.get? name := by simp [apart.1]
      exact (ih apart.2 _).trans put

theorem get?_putAll_mem {pairs : List (String × α)} (distinct : (pairs.map (·.1)).Nodup)
    (member : (name, value) ∈ pairs) (m : Assoc α) : (m.putAll pairs).get? name = some value := by
  induction pairs generalizing m with
  | nil => cases member
  | cons pair rest ih =>
      obtain ⟨once, distinctRest⟩ := List.nodup_cons.mp distinct
      rcases List.mem_cons.mp member with rfl | later
      · exact (get?_putAll_apart once _).trans (by simp)
      · exact ih distinctRest later _

end Assoc

namespace Table

theorem Row.answers_exact {row key : Row} :
    row.answers key = true ↔ ∀ cell ∈ key.pairs, row.get? cell.1 = some cell.2 := by
  simp only [Row.answers, Assoc.includes, List.all_eq_true, decide_eq_true_eq]

theorem Row.assign_answers {key cells : Row} (apart : ∀ cell ∈ key.pairs, cell.1 ∉ cells.pairs.map (·.1))
    (row : Row) : (row.assign cells).answers key = row.answers key := by
  rw [Bool.eq_iff_iff, Row.answers_exact, Row.answers_exact]
  refine forall₂_congr fun cell member => ?_
  rw [Row.assign, Assoc.get?_putAll_apart (apart cell member)]

namespace Sheet
variable {sheet : Sheet} {given key cells : Row}

theorem place_given (found : given.get? name = some value) {laid : Row × Int} {column : String × Kind}
    (there : column.1 = name ∨ laid.1.get? name = some value) :
    (placeBy following given laid column).1.get? name = some value := by
  by_cases same : column.1 = name
  · subst same
    unfold placeBy
    split <;> simp_all
  · have held := there.resolve_left same
    unfold placeBy
    split <;> simp [held, Ne.symm same]

theorem layOut_given (found : given.get? name = some value) (declared : name ∈ sheet.layout.columns.map (·.1)) :
    (sheet.layOutBy following given).1.get? name = some value := by
  refine layOutBy_induct (motive := fun seen laid => name ∈ seen.map (·.1) → laid.1.get? name = some value)
    nofun (fun seen laid column _ earlier member => place_given found ?_) declared
  rw [List.map_append, List.mem_append] at member
  exact member.symm.imp (fun last => (List.mem_singleton.mp last).symm) earlier

theorem select_insert (answers : (sheet.layOut given).1.answers key = true) :
    (sheet.insert given).select key = sheet.select key ++ [(sheet.layOut given).1] := by
  simp [select, insertBy, answers]

theorem select_rewritten (apart : ∀ cell ∈ key.pairs, cell.1 ∉ cells.pairs.map (·.1)) :
    (sheet.rewritten cells key).select key = (sheet.select key).map (·.assign cells) := by
  have stays : (Row.answers · key) ∘ (fun row : Row => if row.answers key then row.assign cells else row) =
      (Row.answers · key) := by
    funext row
    by_cases answers : row.answers key = true <;> simp [answers, Row.assign_answers apart]
  simp only [select, rewritten, List.filter_map, stays]
  refine List.map_congr_left fun row chosen => ?_
  rw [if_pos (List.mem_filter.mp chosen).2]

end Sheet

theorem Shelf.onSheet_parts {fault : Layout → Option Fault} {step : Sheet → α × Sheet} {shelf after : Shelf}
    (done : Shelf.onSheet table fault step shelf = (.done answer, after)) :
    ∃ sheet, shelf.sheets.get? table = some sheet ∧ fault sheet.layout = none ∧ answer = (step sheet).1 ∧
      after = ⟨shelf.sheets.put table (step sheet).2⟩ := by
  unfold Shelf.onSheet at done
  split at done
  · cases done
  · rename_i sheet held
    split at done
    · cases done
    · rename_i fine
      cases done
      exact ⟨sheet, held, fine, rfl, rfl⟩

end Table

namespace Registry
open Table FeatureGate.Action

structure Separate (key cells : Row) : Prop where
  keyOnce : (key.pairs.map (·.1)).Nodup
  cellsOnce : (cells.pairs.map (·.1)).Nodup
  apart : ∀ cell ∈ key.pairs, cell.1 ∉ cells.pairs.map (·.1)

theorem separate_of_names {key cells : Row} (distinct : (key.names ++ cells.names).Nodup) : Separate key cells := by
  obtain ⟨once, distinct, apart⟩ := List.nodup_append.mp distinct
  exact ⟨once, distinct, fun cell member there => apart _ (List.mem_map_of_mem member) _ there rfl⟩

section Write
variable {shelf after : Shelf} {key cells : Row}

theorem rowsOf_parts (done : rowsOf Shelf.store table key shelf = (.done rows, after)) :
    after = shelf ∧ ∃ sheet, shelf.sheets.get? table = some sheet ∧ sheet.layout.cellsFault table key = none ∧
      rows = sheet.select key := by
  obtain ⟨sheet, held, fine, answer, rfl⟩ := Shelf.onSheet_parts (mapError_parts done)
  exact ⟨congrArg Table.Shelf.mk (Assoc.put_held held), sheet, held, fine, answer⟩

theorem rowsOf_held (held : shelf.sheets.get? table = some sheet) (fine : sheet.layout.cellsFault table key = none) :
    rowsOf Shelf.store table key shelf = (.done (sheet.select key), shelf) := by
  have found : Shelf.select table key shelf = _ := onSheet_held held fine
  refine (mapError_done found).trans ?_
  exact congrArg (Prod.mk _) (congrArg Table.Shelf.mk (Assoc.put_held held))

theorem update_parts {count : Nat} (done : Shelf.update table cells key shelf = (.done count, after)) :
    ∃ sheet, shelf.sheets.get? table = some sheet ∧
      after = ⟨shelf.sheets.put table (sheet.rewritten cells key)⟩ := by
  obtain ⟨sheet, held, _, _, rfl⟩ := Shelf.onSheet_parts done
  exact ⟨sheet, held, by rw [Sheet.update_snd]⟩

theorem declared_of_sound {layout : Layout} {row : Row} (sound : layout.cellsFault table row = none)
    (found : row.get? name = some value) : name ∈ layout.columns.map (·.1) := by
  obtain ⟨kind, known, _⟩ := Layout.cellsFault_none sound (Assoc.lookup_mem found)
  exact List.mem_map_of_mem (f := (·.1)) (Assoc.lookup_mem known)

theorem insert_shows {sheet : Sheet} (separate : Separate key cells)
    (sound : sheet.layout.insertFault table (key.assign cells) = none) (fresh : sheet.select key = []) :
    ∃ row, (sheet.insert (key.assign cells)).select key = [row] ∧
      ∀ cell ∈ cells.pairs, row.get? cell.1 = some cell.2 := by
  have takes : sheet.layout.cellsFault table (key.assign cells) = none := ((Option.orElse_eq_none _ _).mp sound).1
  have laid {name : String} {value : Value} (found : (key.assign cells).get? name = some value) :
      (sheet.layOut (key.assign cells)).1.get? name = some value :=
    Sheet.layOut_given found (declared_of_sound takes found)
  have shows : ∀ cell ∈ cells.pairs, (sheet.layOut (key.assign cells)).1.get? cell.1 = some cell.2 :=
    fun cell member => laid (Assoc.get?_putAll_mem separate.cellsOnce member key)
  have answers : (sheet.layOut (key.assign cells)).1.answers key = true := by
    refine Row.answers_exact.mpr fun cell member => laid ?_
    exact (Assoc.get?_putAll_apart (separate.apart cell member) key).trans (Assoc.lookup_of_mem separate.keyOnce member)
  refine ⟨_, ?_, shows⟩
  rw [Sheet.select_insert answers, fresh]
  rfl

theorem update_shows {sheet : Sheet} (separate : Separate key cells) (there : sheet.select key ≠ []) :
    ∃ row rest, (sheet.rewritten cells key).select key = row :: rest ∧
      ∀ cell ∈ cells.pairs, row.get? cell.1 = some cell.2 := by
  obtain ⟨row, rest, chosen⟩ := List.exists_cons_of_ne_nil there
  refine ⟨row.assign cells, rest.map (·.assign cells), ?_, ?_⟩
  · rw [Sheet.select_rewritten separate.apart, chosen]
    rfl
  · exact fun cell member => Assoc.get?_putAll_mem separate.cellsOnce member row

-- Whatever the shelf holds: after a write under a key the first row under it shows
-- what was written, and no other table has changed.
theorem writeUnder_shows (separate : Separate key cells)
    (done : writeUnder Shelf.store table key cells shelf = (.done (), after)) :
    (∃ row rest, rowsOf Shelf.store table key after = (.done (row :: rest), after) ∧
      ∀ cell ∈ cells.pairs, row.get? cell.1 = some cell.2) ∧
      ∀ other, other ≠ table → after.sheets.get? other = shelf.sheets.get? other := by
  obtain ⟨rows, middle, looked, wrote⟩ := bind_parts done
  obtain ⟨rfl, sheet, held, fine, rfl⟩ := rowsOf_parts looked
  by_cases empty : (sheet.select key).isEmpty = true
  · rw [if_pos empty] at wrote
    obtain ⟨_, same, sound, _, rfl⟩ := Shelf.onSheet_parts (mapError_parts wrote)
    cases Option.some.inj (held.symm.trans same)
    obtain ⟨row, selected, shows⟩ := insert_shows separate sound (List.isEmpty_iff.mp empty)
    refine ⟨⟨row, [], ?_, shows⟩, fun other apart => by simp [apart]⟩
    rw [← selected]
    exact rowsOf_held (by simp) fine
  · rw [if_neg empty] at wrote
    obtain ⟨_, _, updated, ended⟩ := bind_parts wrote
    cases ended
    obtain ⟨_, same, rfl⟩ := update_parts (mapError_parts updated)
    cases Option.some.inj (held.symm.trans same)
    obtain ⟨row, rest, selected, shows⟩ := update_shows separate fun none => empty (List.isEmpty_iff.mpr none)
    refine ⟨⟨row, rest, ?_, shows⟩, fun other apart => by simp [apart]⟩
    rw [← selected]
    exact rowsOf_held (by simp) fine

theorem defaultsOf_shows {row : Row} {defaults : Defaults}
    (shows : ∀ cell ∈ (defaultCells defaults).pairs, row.get? cell.1 = some cell.2) :
    defaultsOf row = .ok defaults := by
  have states {column : String} {state : Permission}
      (member : (column, .integer state.toInteger) ∈ (defaultCells defaults).pairs) :
      permissionOf row column = .ok state := by
    rw [permissionOf, Row.integer?, shows _ member]
    exact ofInteger_toInteger state
  have cells : (defaultCells defaults).pairs = [("admin", .integer defaults.admin.toInteger),
    ("group_perm", .integer defaults.group.toInteger), ("user", .integer defaults.user.toInteger)] := rfl
  have admin : permissionOf row "admin" = .ok defaults.admin := states (by simp [cells])
  have group : permissionOf row "group_perm" = .ok defaults.group := states (by simp [cells])
  have user : permissionOf row "user" = .ok defaults.user := states (by simp [cells])
  unfold defaultsOf
  rw [admin, group, user]
  rfl

theorem updateFeature_shows {update : Update}
    (done : (Mutation.updateFeature plugin feature update).apply Shelf.store shelf = (.done (), after)) :
    (∃ base, defaults? Shelf.store plugin feature shelf = (.done base, shelf) ∧
      defaults? Shelf.store plugin feature after = (.done (some (update.apply (base.getD {}))), after)) ∧
      ∀ table, table ≠ features → after.sheets.get? table = shelf.sheets.get? table := by
  obtain ⟨base, middle, looked, wrote⟩ := bind_parts done
  have still := defaults?_quiet Shelf.store_atomic plugin feature shelf
  rw [looked] at still
  cases still
  have separate : Separate (featureKey plugin feature) (defaultCells (update.apply (base.getD {}))) := by
    refine separate_of_names ?_
    show ["plugin", "feature", "admin", "group_perm", "user"].Nodup
    decide
  obtain ⟨⟨row, rest, found, shows⟩, elsewhere⟩ := writeUnder_shows separate wrote
  refine ⟨⟨base, looked, ?_⟩, elsewhere⟩
  unfold defaults?
  rw [bind_done found, firstOf, defaultsOf_shows shows]
  rfl

end Write
end Registry
end FeatureGate
