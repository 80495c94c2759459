import FeatureGate.Proofs.Untouched

namespace FeatureGate
open Table Registry FeatureGate.Action Sql

structure Demoted (user : String) (now : Connection) : Prop where
  shaped : now.Shaped Declared
  unlisted : ¬now.database.Lists user

section Writes
variable {user : String}

theorem lists_rows {before after : Database} (same : after.rowsUnder superusers = before.rowsUnder superusers) :
    after.Lists user ↔ before.Lists user := by
  unfold Database.Lists
  rw [same]

theorem setSuperuser_unlists {other : String} (apart : other ≠ user) :
    Leads (Demoted user) ((Mutation.setSuperuser other).apply Connection.store) (fun _ => Demoted user) (Demoted user) := by
  intro now demoted
  rcases setSuperuser_ways demoted.shaped other with
    ⟨error, failed⟩ | done | ⟨data, number, later, there, named, shaped, placed, done⟩
  · rw [failed]
    exact demoted
  · rw [done]
    exact demoted
  · rw [done]
    refine ⟨shaped, ?_⟩
    rintro ⟨row, member, shown⟩
    rw [Database.rowsUnder_withTable there named, if_pos (sameName_refl _), placed] at member
    rcases TableData.mem_putBefore.mp member with rfl | old
    · cases shown
      exact apart rfl
    · exact demoted.unlisted ⟨row, (Database.rowsUnder_held there).symm ▸ old, shown⟩

theorem selects_listed {table : TableData} (columns : table.columns = superuserForm.layout.columns) (row : Stored) :
    table.selects (superuserKey user).pairs row = decide (row.cells[1]? = some (.text user)) := by
  have proper := declared_catalogue.proper _ _ standing_declared
  have named : table.reference "user_id" = .column 1 .text :=
    reference_known columns proper (show superuserForm.layout.kind? "user_id" = some .text from rfl)
  show (TableData.holds row (table.reference "user_id") (.text user) && true) = _
  rw [named, holds_text, Bool.and_true]

theorem removeSuperuser_ways {now : Connection} (shaped : now.Shaped Declared) (other : String) :
    (∃ error, (Mutation.removeSuperuser other).apply Connection.store now = (.failed error, now)) ∨
      ∃ after, (Mutation.removeSuperuser other).apply Connection.store now = (.done (), after) ∧
        ¬after.database.Lists other ∧ ∀ user, after.database.Lists user → now.database.Lists user := by
  rcases rowsOf_ways shaped superusers (superuserKey other) with
    ⟨error, failed⟩ | ⟨layout, data, rows, known, _, there, read, looked⟩
  · exact .inl ⟨error, bind_failed failed⟩
  obtain rfl := declared_superusers known
  have fits := shaped.shapes _ _ known _ there
  have goesOn : (Mutation.removeSuperuser other).apply Connection.store now = _ := bind_done looked
  cases rows with
  | nil =>
      refine .inr ⟨now, goesOn, ?_, fun _ => id⟩
      rintro ⟨row, member, shown⟩
      have unselected := (select_parts (declared_catalogue.proper _ _ known) fits read).1 rfl row
        (Database.rowsUnder_held there ▸ member)
      rw [selects_listed fits.columns, decide_eq_false_iff_not] at unselected
      exact unselected shown
  | cons first rest =>
      rcases Connection.delete_ways shaped superusers (superuserKey other) with
        ⟨fault, failed⟩ | ⟨_, data', count, known', there', done⟩
      · exact .inl ⟨.store fault, goesOn.trans (bind_failed (mapError_failed failed))⟩
      · cases there.symm.trans there'
        have left : (now.database.withTable (data.delete (superuserKey other).pairs).2).rowsUnder superusers =
            data.rows.filter fun row => !data.selects (superuserKey other).pairs row := by
          rw [Database.rowsUnder_withTable there (delete_rows fits _).1, if_pos (sameName_refl _)]
          rfl
        refine .inr ⟨_, goesOn.trans (bind_done (mapError_done done)), ?_, ?_⟩
        · rintro ⟨row, member, shown⟩
          obtain ⟨_, unselected⟩ := List.mem_filter.mp (left ▸ member)
          rw [selects_listed fits.columns, shown] at unselected
          simp at unselected
        · rintro user ⟨row, member, shown⟩
          exact ⟨row, (Database.rowsUnder_held there).symm ▸ List.mem_of_mem_filter (left ▸ member), shown⟩

theorem removeSuperuser_demotes (user : String) : Leads (·.Shaped Declared)
    ((Mutation.removeSuperuser user).apply Connection.store) (fun _ => Demoted user) (fun _ => True) := by
  intro now shaped
  have shapes := apply_shaped (.removeSuperuser user) now shaped
  rcases removeSuperuser_ways shaped user with ⟨error, failed⟩ | ⟨after, done, unlisted, _⟩
  · rw [failed]
    trivial
  · rw [done] at shapes ⊢
    exact ⟨shapes, unlisted⟩

theorem still_unlists {action : Action Connection ε α} (still : Still (Connection.rowsUnder superusers) action)
    (alive : Action.Agrees Eq (fun _ => False) action action)
    (shapes : Leads (·.Shaped Declared) action (fun _ => (·.Shaped Declared)) (·.Shaped Declared)) :
    Leads (Demoted user) action (fun _ => Demoted user) (Demoted user) := by
  intro now demoted
  have rows := leads_of_still (· = now.rowsUnder superusers) still alive
  have unlisted {after : Connection} (same : after.rowsUnder superusers = now.rowsUnder superusers) :
      ¬after.database.Lists user := fun listed => demoted.unlisted ((lists_rows same).mp listed)
  exact (shapes.both rows).imp (fun _ => id) (fun _ _ held => ⟨held.1, unlisted held.2⟩)
    (fun _ held => ⟨held.1, unlisted held.2⟩) now ⟨demoted.shaped, rfl⟩

theorem apply_unlists {mutation : Mutation} (other : mutation ≠ .setSuperuser user) :
    Leads (Demoted user) (mutation.apply Connection.store) (fun _ => Demoted user) (Demoted user) := by
  have elsewhere (apart : sameName superusers mutation.table = false) :
      Leads (Demoted user) (mutation.apply Connection.store) (fun _ => Demoted user) (Demoted user) :=
    still_unlists (apply_rows apart) (apply_agrees Connection.store_alive mutation) (apply_shaped mutation)
  cases mutation with
  | setSuperuser user' => exact setSuperuser_unlists fun same => other (congrArg _ same)
  | removeSuperuser user' =>
      intro now demoted
      have shapes := apply_shaped (.removeSuperuser user') now demoted.shaped
      rcases removeSuperuser_ways demoted.shaped user' with ⟨error, failed⟩ | ⟨after, done, _, fewer⟩
      · rw [failed]
        exact demoted
      · rw [done] at shapes ⊢
        exact ⟨shapes, fun listed => demoted.unlisted (fewer _ listed)⟩
  | updateFeature plugin feature update => exact elsewhere (by show sameName superusers features = false; decide +kernel)
  | updateGroup plugin feature group state => exact elsewhere (by show sameName superusers groups = false; decide +kernel)
  | updateUser plugin feature own state => exact elsewhere (by show sameName superusers users = false; decide +kernel)

end Writes

section Sessions
variable {user : String}

theorem setUp_unlists (superuser : Option String) (unseeded : superuser ≠ some user) :
    Leads (Demoted user) (Service.setUp Connection.store superuser) (fun _ => Demoted user) (Demoted user) := by
  refine Leads.bind (still_unlists (createTables_still (Connection.rows_steady superusers))
    (createTables_agrees Connection.store_alive) (leads_of_agrees (createTables_agrees store_alike))) fun _ => ?_
  cases superuser with
  | none => exact Leads.pure fun _ => id
  | some seeded =>
      exact Leads.bind (Leads.refuse fun _ => id) fun _ => setSuperuser_unlists fun same => unseeded (congrArg some same)

theorem carryOut_unlists {directive : CommandLine.Directive} (other : directive ≠ .addSuperuser user) :
    Leads (Up (Demoted user)) (Console.carryOut directive) (fun _ => Up (Demoted user))
      (fun running => Demoted user running.world) :=
  carryOut_holds (lasting_shaped fun _ demoted => demoted.shaped) fun _ only => apply_unlists fun same => other (only user same)

-- A run that seeds somebody else, if anybody, lists the user only when it was asked to
-- and has done it.
theorem session_unlists {superuser : Option String} (unseeded : superuser ≠ some user)
    (directive : CommandLine.Directive) :
    Leads (fun running => running.service.ledger = none ∧ Demoted user running.world)
      (Console.session Connection.store superuser directive)
      (fun _ running => directive = .addSuperuser user ∨ Demoted user running.world)
      (fun running => Demoted user running.world) := by
  refine Leads.bind (init_leads (setUp_unlists superuser unseeded)) fun _ => ?_
  by_cases asked : directive = .addSuperuser user
  · subst asked
    have failing : Leads (Demoted user) ((Mutation.setSuperuser user).apply Connection.store) (fun _ _ => True)
        (Demoted user) := by
      intro now demoted
      rcases setSuperuser_ways demoted.shaped user with ⟨error, failed⟩ | done | ⟨_, _, _, _, _, _, _, done⟩
      · rw [failed]
        exact demoted
      · rw [done]
        trivial
      · rw [done]
        trivial
    exact Leads.bind (mutate_leads (fun _ => id) rfl failing) fun _ => Leads.pure fun _ _ => .inl rfl
  · exact (carryOut_unlists asked).imp (fun _ => id) (fun _ _ held => .inr held.2) fun _ => id

theorem removal_demotes (superuser : Option String) (user : String) :
    Leads (fun running => running.service.ledger = none ∧ running.world.Shaped Declared)
      (Console.session Connection.store superuser (.removeSuperuser user))
      (fun text running => Demoted user running.world ∧ text = Console.lines [user ++ " is not a superuser"])
      (fun _ => True) := by
  refine Leads.bind ((init_leads (setUp_shaped superuser)).imp (fun _ => id) (fun _ _ => id) fun _ _ => trivial) fun _ => ?_
  refine Leads.bind (mutate_leads (fun _ _ => trivial) rfl (removeSuperuser_demotes user)) fun _ => ?_
  exact Leads.pure fun _ held => ⟨held.2, rfl⟩

end Sessions
end FeatureGate
