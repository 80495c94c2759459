import FeatureGate.Proofs.FaultlessAgreement
import FeatureGate.Proofs.KeyedWrites
import FeatureGate.Proofs.Poison

namespace FeatureGate
open Table Registry FeatureGate.Action

namespace Table

theorem Row.assign_shown {row cells : Row} (shows : ∀ cell ∈ cells.pairs, row.get? cell.1 = some cell.2) :
    row.assign cells = row := by
  obtain ⟨pairs⟩ := cells
  simp only [Row.assign, Assoc.putAll] at shows ⊢
  induction pairs with
  | nil => rfl
  | cons cell rest ih =>
      rw [List.foldl_cons, Assoc.put_held (shows cell List.mem_cons_self)]
      exact ih fun other member => shows other (List.mem_cons_of_mem _ member)

theorem Sheet.rewritten_shown {sheet : Sheet} {cells key : Row}
    (shows : ∀ row ∈ sheet.select key, ∀ cell ∈ cells.pairs, row.get? cell.1 = some cell.2) :
    sheet.rewritten cells key = sheet := by
  have same : sheet.rows.map (fun row => if row.answers key then row.assign cells else row) = sheet.rows := by
    refine (List.map_congr_left fun row member => ?_).trans (List.map_id _)
    by_cases chosen : row.answers key = true
    · rw [if_pos chosen, Row.assign_shown (shows row (List.mem_filter.mpr ⟨member, chosen⟩))]
      rfl
    · rw [if_neg chosen]
      rfl
  simp only [Sheet.rewritten, same]

end Table

namespace Registry

structure Inscribed (table : String) (key cells : Row) (shelf : Shelf) (sheet : Sheet) : Prop where
  held : shelf.sheets.get? table = some sheet
  sound : sheet.layout.updateFault table cells key = none
  there : sheet.select key ≠ []
  shows : ∀ row ∈ sheet.select key, ∀ cell ∈ cells.pairs, row.get? cell.1 = some cell.2

section Write
variable {shelf after : Shelf} {table : String} {key cells : Row}

theorem laid_held (shelf : Shelf) (table : String) (sheet : Sheet) :
    (⟨shelf.sheets.put table sheet⟩ : Shelf).sheets.get? table = some sheet := by simp

theorem writeUnder_inscribes (separate : Separate key cells)
    (done : writeUnder Shelf.store table key cells shelf = (.done (), after)) :
    ∃ sheet, Inscribed table key cells after sheet := by
  obtain ⟨rows, middle, looked, wrote⟩ := bind_parts done
  obtain ⟨rfl, sheet, held, fine, rfl⟩ := rowsOf_parts looked
  by_cases empty : (sheet.select key).isEmpty = true
  · rw [if_pos empty] at wrote
    obtain ⟨_, same, sound, _, rfl⟩ := Shelf.onSheet_parts (mapError_parts wrote)
    cases Option.some.inj (held.symm.trans same)
    obtain ⟨row, selected, shows⟩ := insert_shows separate sound (List.isEmpty_iff.mp empty)
    have takes : sheet.layout.cellsFault table (key.assign cells) = none := ((Option.orElse_eq_none _ _).mp sound).1
    have fits : sheet.layout.cellsFault table cells = none := by
      refine List.findSome?_eq_none_iff.mpr fun cell member => List.findSome?_eq_none_iff.mp takes cell ?_
      exact Assoc.lookup_mem (Assoc.get?_putAll_mem separate.cellsOnce member key)
    refine ⟨sheet.insert (key.assign cells), laid_held _ _ _, (Option.orElse_eq_none _ _).mpr ⟨fits, fine⟩, ?_, ?_⟩
    · simp [selected]
    · rw [selected]
      intro other only
      rw [List.mem_singleton.mp only]
      exact shows
  · rw [if_neg empty] at wrote
    obtain ⟨_, _, updated, ended⟩ := bind_parts wrote
    cases ended
    have updates : Shelf.update table cells key middle = (.done _, after) := mapError_parts updated
    obtain ⟨_, same, sound, _⟩ := Shelf.onSheet_parts updates
    obtain ⟨_, again, rfl⟩ := update_parts updates
    cases Option.some.inj (held.symm.trans same)
    cases Option.some.inj (held.symm.trans again)
    refine ⟨sheet.rewritten cells key, laid_held _ _ _, sound, ?_, ?_⟩
    · rw [Sheet.select_rewritten separate.apart]
      exact fun none => empty (List.isEmpty_iff.mpr (List.map_eq_nil_iff.mp none))
    · rw [Sheet.select_rewritten separate.apart]
      intro row chosen cell member
      obtain ⟨old, _, rfl⟩ := List.mem_map.mp chosen
      exact Assoc.get?_putAll_mem separate.cellsOnce member old

theorem Inscribed.rewritten {sheet : Sheet} (inscribed : Inscribed table key cells shelf sheet) :
    writeUnder Shelf.store table key cells shelf = (.done (), shelf) := by
  have fine := ((Option.orElse_eq_none _ _).mp inscribed.sound).2
  have updated : Shelf.update table cells key shelf = _ := onSheet_held inscribed.held inscribed.sound
  refine (bind_done (rowsOf_held inscribed.held fine)).trans ?_
  rw [if_neg fun none => inscribed.there (List.isEmpty_iff.mp none)]
  refine (bind_done (mapError_done updated)).trans ?_
  rw [Sheet.update_snd, Sheet.rewritten_shown inscribed.shows]
  exact congrArg (Prod.mk _) (congrArg Table.Shelf.mk (Assoc.put_held inscribed.held))

theorem writeUnder_again (separate : Separate key cells)
    (done : writeUnder Shelf.store table key cells shelf = (.done (), after)) :
    writeUnder Shelf.store table key cells after = (.done (), after) := by
  obtain ⟨sheet, inscribed⟩ := writeUnder_inscribes separate done
  exact inscribed.rewritten

theorem setSuperuser_again (done : (Mutation.setSuperuser user).apply Shelf.store shelf = (.done (), after)) :
    (Mutation.setSuperuser user).apply Shelf.store after = (.done (), after) := by
  obtain ⟨rows, middle, looked, wrote⟩ := bind_parts done
  obtain ⟨rfl, sheet, held, fine, rfl⟩ := rowsOf_parts looked
  by_cases empty : (sheet.select (superuserKey user)).isEmpty = true
  · rw [if_pos empty] at wrote
    obtain ⟨_, same, sound, _, rfl⟩ := Shelf.onSheet_parts (mapError_parts wrote)
    cases Option.some.inj (held.symm.trans same)
    have separate : Separate (superuserKey user) Assoc.empty := by
      refine separate_of_names ?_
      show ["user_id"].Nodup
      decide
    obtain ⟨row, selected, _⟩ := insert_shows separate sound (List.isEmpty_iff.mp empty)
    refine (bind_done (rowsOf_held (laid_held _ _ (sheet.insert (superuserKey user))) fine)).trans ?_
    rw [show (sheet.insert (superuserKey user)).select (superuserKey user) = [row] from selected]
    rfl
  · rw [if_neg empty] at wrote
    cases wrote
    exact done

theorem removeSuperuser_again (done : (Mutation.removeSuperuser user).apply Shelf.store shelf = (.done (), after)) :
    (Mutation.removeSuperuser user).apply Shelf.store after = (.done (), after) := by
  obtain ⟨rows, middle, looked, wrote⟩ := bind_parts done
  obtain ⟨rfl, sheet, held, fine, rfl⟩ := rowsOf_parts looked
  by_cases there : (!(sheet.select (superuserKey user)).isEmpty) = true
  · rw [if_pos there] at wrote
    obtain ⟨_, _, deleted, ended⟩ := bind_parts wrote
    cases ended
    obtain ⟨_, same, sound, _, rfl⟩ := Shelf.onSheet_parts (mapError_parts deleted)
    cases Option.some.inj (held.symm.trans same)
    have gone : (sheet.without (superuserKey user)).select (superuserKey user) = [] := by
      simp [Sheet.without, Sheet.select, List.filter_filter]
    rw [Sheet.delete_eq]
    refine (bind_done (rowsOf_held (laid_held _ _ (sheet.without (superuserKey user))) fine)).trans ?_
    rw [gone]
    rfl
  · rw [if_neg there] at wrote
    cases wrote
    exact done

theorem apply_twice (update : Update) (base : Defaults) : update.apply (update.apply base) = update.apply base := by
  have kept (given : Option Permission) (held : Permission) : given.getD (given.getD held) = given.getD held := by
    cases given <;> rfl
  simp only [Update.apply, kept]

theorem apply_again (mutation : Mutation) (done : mutation.apply Shelf.store shelf = (.done (), after)) :
    mutation.apply Shelf.store after = (.done (), after) := by
  cases mutation with
  | setSuperuser user => exact setSuperuser_again done
  | removeSuperuser user => exact removeSuperuser_again done
  | updateFeature plugin feature update =>
      obtain ⟨⟨base, read, shown⟩, _⟩ := updateFeature_shows done
      obtain ⟨_, _, looked, wrote⟩ := bind_parts done
      cases read.symm.trans looked
      have separate : Separate (featureKey plugin feature) (defaultCells (update.apply (base.getD {}))) := by
        refine separate_of_names ?_
        show ["plugin", "feature", "admin", "group_perm", "user"].Nodup
        decide
      refine (bind_done shown).trans ?_
      rw [Option.getD_some, apply_twice]
      exact writeUnder_again separate wrote
  | updateGroup plugin feature group state =>
      refine writeUnder_again (separate_of_names ?_) done
      show ["plugin", "feature", "group_id", "state"].Nodup
      decide
  | updateUser plugin feature user state =>
      refine writeUnder_again (separate_of_names ?_) done
      show ["plugin", "feature", "user_id", "state"].Nodup
      decide

end Write

def created (declarations : List (String × Layout)) (shelf : Shelf) : Shelf :=
  declarations.foldl (fun shelf declared => (Shelf.store.createTable declared.1 declared.2 shelf).2) shelf

theorem createTable_stays (there : Present table shelf) (layout : Layout) :
    (Shelf.store.createTable table layout shelf).2 = shelf := by
  simp only [Shelf.store, Shelf.createTable]
  split
  · rfl
  · split
    · rfl
    · exact (there ‹_›).elim

theorem createAll_done (declarations : List (String × Layout))
    (named : ∀ declared ∈ declarations, declared.2.nameFault declared.1 = none) (shelf : Shelf) :
    createAll Shelf.store declarations shelf = (.done (), created declarations shelf) := by
  induction declarations generalizing shelf with
  | nil => rfl
  | cons first rest ih =>
      have here : Shelf.store.createTable first.1 first.2 shelf = (.done (), _) :=
        Prod.ext (createTable_done (named first List.mem_cons_self) shelf) rfl
      exact (bind_done (mapError_done here)).trans (ih (fun other member => named other (List.mem_cons_of_mem _ member)) _)

theorem createTables_done (shelf : Shelf) : createTables Shelf.store shelf = (.done (), created tables shelf) :=
  createAll_done tables declared_named shelf

section Line
variable {store : Store τ} {clear : τ → Prop} {view : τ → Shelf} (lossy : store.Lossy clear view Shelf.store)
include lossy

-- Wherever creating breaks off, the tables that are there are some of those that were
-- to be created, so creating all of them comes to the same as it did before.
theorem createAll_covers (declarations : List (String × Layout))
    (named : ∀ declared ∈ declarations, declared.2.nameFault declared.1 = none) (t : τ) :
    let ended := createAll store declarations t
    created declarations (view ended.2) = created declarations (view t) ∧
      (ended.1 = .done () → view ended.2 = created declarations (view t)) := by
  induction declarations generalizing t with
  | nil => exact ⟨rfl, fun _ => rfl⟩
  | cons first rest ih =>
      intro ended
      have right := named first List.mem_cons_self
      have step := lossy.createTable first.1 first.2 t
      cases here : store.createTable first.1 first.2 t with
      | mk outcome middle =>
          rw [here, createTable_done right] at step
          cases outcome with
          | done answer =>
              obtain ⟨_, seen, _⟩ := step.resolve_right fun lost => lost.1
              have goesOn : ended = createAll store rest middle := bind_done (mapError_done here)
              obtain ⟨covers, all⟩ := ih (fun other member => named other (List.mem_cons_of_mem _ member)) middle
              rw [← goesOn] at covers all
              -- The first table is there for good, so creating it once more does nothing.
              have there : Present first.1 (view ended.2) := by
                rw [goesOn]
                refine createAll_keeps lossy first.1 rest middle ?_
                show Present first.1 (view middle)
                rw [show view middle = _ from seen]
                exact createTable_present right _
              rw [show view middle = _ from seen] at covers all
              refine ⟨?_, all⟩
              show created rest (Shelf.store.createTable first.1 first.2 (view ended.2)).2 = _
              rw [createTable_stays there, covers]
              rfl
          | failed error =>
              obtain ⟨_, seen, _⟩ := step.resolve_left fun same => (by cases same.1)
              have stops : ended = (.failed (.setup error), middle) := bind_failed (mapError_failed here)
              rw [stops]
              exact ⟨congrArg _ seen, nofun⟩
          | aborted =>
              obtain ⟨_, seen, _⟩ := step.resolve_left fun same => (by cases same.1)
              have stops : ended = (.aborted, middle) := bind_aborted (mapError_aborted here)
              rw [stops]
              exact ⟨congrArg _ seen, nofun⟩

theorem apply_failed_still {mutation : Mutation} (failed : mutation.apply store t = (.failed error, t')) :
    view t' = view t := by
  rcases apply_follows lossy mutation t with ⟨same, seen, _⟩ | ⟨_, seen, _⟩
  · rw [failed] at same seen
    rcases apply_atomic Shelf.store_atomic mutation (view t) with ⟨answer, done⟩ | still
    · cases same.trans done
    · exact seen.trans still
  · rwa [failed] at seen

end Line
end Registry

theorem setUp_created (same : created tables one = created tables other) (superuser : Option String) :
    Service.setUp Shelf.store superuser one = Service.setUp Shelf.store superuser other := by
  unfold Service.setUp
  rw [bind_done (createTables_done one), bind_done (createTables_done other), same]

section SetUp
variable {store : Store τ} {clear : τ → Prop} {view : τ → Shelf} (lossy : store.Lossy clear view Shelf.store)
include lossy

theorem setUp_stops (begun : createTables store t = (.done (), middle))
    (failed : Service.setUp store superuser t = (.failed error, t')) : view t' = view middle := by
  cases superuser with
  | none => cases (bind_done begun).symm.trans failed
  | some user =>
      cases wrong : (Mutation.setSuperuser user).invalid with
      | some invalid =>
          cases (setUp_refused begun wrong).symm.trans failed
          rfl
      | none => exact apply_failed_still lossy ((setUp_seeds begun wrong).symm.trans failed)

theorem setUp_resumes (failed : Service.setUp store superuser t = (.failed error, t')) :
    Service.setUp Shelf.store superuser (view t') = Service.setUp Shelf.store superuser (view t) := by
  refine setUp_created ?_ superuser
  obtain ⟨covers, all⟩ := createAll_covers lossy tables declared_named t
  cases begun : createTables store t with
  | mk outcome middle =>
      rw [show createAll store tables t = _ from begun] at covers all
      cases outcome with
      | failed reason =>
          cases (bind_failed begun).symm.trans failed
          exact covers
      | aborted => cases (bind_aborted begun).symm.trans failed
      | done answer =>
          rw [setUp_stops lossy begun failed]
          exact covers

end SetUp

section Attempts
variable {store : Store τ} {view : τ → σ} {ideal : Store σ}

inductive Attempts (action : Action (Running τ) Error Unit) (start : Running τ) : Running τ → Prop
  | none : Attempts action start start
  | another {middle after error} : Attempts action start middle → action middle = (.failed error, after) →
      Attempts action start after

-- After an attempt that ended in an error the ideal service finds the same still to
-- be done as before.
def Resumes (store : Store τ) (ideal : Store σ) (view : τ → σ) (action : Action (Running τ) Error Unit)
    (meant : Action (Running σ) Error Unit) : Prop :=
  ∀ lock t error after, action ⟨.holding store lock, t⟩ = (.failed error, after) →
    after.service = .holding store lock ∧ meant ⟨.holding ideal lock, view after.world⟩ = meant ⟨.holding ideal lock, view t⟩

theorem Resumes.attempts {action : Action (Running τ) Error Unit} {meant : Action (Running σ) Error Unit}
    (resumes : Resumes store ideal view action meant) (tried : Attempts action ⟨.holding store lock, t⟩ after) :
    after.service = .holding store lock ∧ meant ⟨.holding ideal lock, view after.world⟩ = meant ⟨.holding ideal lock, view t⟩ := by
  induction tried with
  | none => exact ⟨rfl, rfl⟩
  | @another middle after error _ failed ih =>
      obtain ⟨service, world⟩ := middle
      obtain ⟨held, same⟩ := ih
      change service = .holding store lock at held
      subst held
      obtain ⟨kept, again⟩ := resumes lock world error after failed
      exact ⟨kept, again.trans same⟩

end Attempts

section Line
variable {store : Store τ} {clear : τ → Prop} {view : τ → Shelf} (lossy : store.Lossy clear view Shelf.store)

theorem init_same (same : Service.setUp Shelf.store superuser one = Service.setUp Shelf.store superuser other) :
    Service.init Shelf.store superuser ⟨.holding Shelf.store none, one⟩ =
      Service.init Shelf.store superuser ⟨.holding Shelf.store none, other⟩ := by
  simp only [Service.init, Service.holding, Option.map_none, same]

theorem mutate_again {mutation : Mutation} (done : Service.mutate mutation ⟨.holding Shelf.store lock, shelf⟩ =
      (.done (), ⟨.holding Shelf.store lock, after⟩)) :
    Service.mutate mutation ⟨.holding Shelf.store lock, after⟩ = (.done (), ⟨.holding Shelf.store lock, after⟩) := by
  match lock with
  | none => cases done
  | some true =>
      have still : shelf = after :=
        congrArg (fun ended => ended.2.world) ((Service.mutate_barred Shelf.store shelf mutation).symm.trans done)
      exact still ▸ done
  | some false =>
      cases right : mutation.invalid with
      | some invalid => cases (Service.mutate_refused rfl right).symm.trans done
      | none =>
          rw [Service.mutate_begun rfl right] at done ⊢
          by_cases idle : mutation.isIdle = true
          · rw [if_pos idle]
            rfl
          · rw [if_neg idle, Service.locked_open rfl rfl] at done ⊢
            cases applied : mutation.apply Shelf.store shelf with
            | mk outcome world =>
                simp only [applied] at done
                cases outcome with
                | done answer =>
                    cases done
                    rw [apply_again mutation applied]
                | failed error => cases done
                | aborted => cases done

include lossy

theorem init_resumes (superuser : Option String) :
    Resumes store Shelf.store view (Service.init store superuser) (Service.init Shelf.store superuser) := by
  intro lock t error after failed
  cases lock with
  | some poisoned =>
      cases (Service.init_some rfl store superuser).symm.trans failed
      exact ⟨rfl, rfl⟩
  | none =>
      cases ended : Service.setUp store superuser t with
      | mk outcome world =>
          have begun : Service.init store superuser ⟨.holding store none, t⟩ = _ := Service.init_none rfl ended
          cases outcome with
          | done answer => cases begun.symm.trans failed
          | aborted => cases begun.symm.trans failed
          | failed reason =>
              cases begun.symm.trans failed
              exact ⟨rfl, init_same (setUp_resumes lossy ended)⟩

theorem mutate_undone {mutation : Mutation}
    (failed : Service.mutate mutation ⟨.holding store lock, t⟩ = (.failed error, after)) :
    after.service = .holding store lock ∧ view after.world = view t := by
  have steady := mutate_steady (show (Service.mutate mutation ⟨.holding store lock, t⟩).1 ≠ .aborted by
    rw [failed]; exact nofun)
  have still := (mutate_settles lossy Shelf.store_atomic mutation).undone lock t (by rw [failed]; exact fun _ => nofun)
  rw [failed] at steady still
  exact ⟨steady, still⟩

theorem mutations_resume (one other : Mutation) :
    Resumes store Shelf.store view (Service.mutate one >>= fun _ => Service.mutate other)
      (Service.mutate one >>= fun _ => Service.mutate other) := by
  intro lock t error after failed
  cases first : Service.mutate one ⟨.holding store lock, t⟩ with
  | mk outcome middle =>
      cases outcome with
      | aborted => cases (bind_aborted first).symm.trans failed
      | failed reason =>
          cases (bind_failed first).symm.trans failed
          obtain ⟨held, still⟩ := mutate_undone lossy first
          exact ⟨held, by rw [still]⟩
      | done answer =>
          obtain ⟨kept, same⟩ := (mutate_settles lossy Shelf.store_atomic one).done lock t answer middle first
          obtain ⟨service, between⟩ := middle
          change service = .holding store lock at kept
          subst kept
          obtain ⟨held, still⟩ := mutate_undone lossy ((bind_done first).symm.trans failed)
          refine ⟨held, ?_⟩
          have spared : (Service.mutate one >>= fun _ => Service.mutate other) ⟨.holding Shelf.store lock, view t⟩ =
              Service.mutate other _ := bind_done same
          have repeated : (Service.mutate one >>= fun _ => Service.mutate other)
              ⟨.holding Shelf.store lock, view between⟩ = Service.mutate other _ := bind_done (mutate_again same)
          rw [still]
          exact repeated.trans spared.symm

end Line

theorem Resumes.coincides {store : Store τ} {ideal : Store σ} {view : τ → σ} {clear : τ → Prop}
    {action : Action (Running τ) Error Unit} {meant : Action (Running σ) Error Unit}
    (resumes : Resumes store ideal view action meant)
    (agrees : Agrees (Running.Paired ideal store (Behind clear view)) (Running.Sound store fun _ => False) meant action)
    (barred : ∀ t, Coincides store ideal view (action ⟨.holding store (some true), t⟩)
      (meant ⟨.holding ideal (some true), view t⟩))
    (tried : Attempts action ⟨.holding store lock, t⟩ after) (free : clear after.world) :
    Coincides store ideal view (action after) (meant ⟨.holding ideal lock, view t⟩) := by
  obtain ⟨held, same⟩ := resumes.attempts tried
  obtain ⟨service, world⟩ := after
  change service = .holding store lock at held
  subst held
  rw [← same]
  by_cases broken : lock = some true
  · subst broken
    exact barred world
  · exact (agrees.coincides broken free).1

-- Setting up and registering the management are all that makes several changes. After
-- any number of attempts at either that were cut short by failing calls, one that
-- nothing fails in ends with the answer and the tables of the very first one, had
-- nothing failed in it.
theorem interruptions_repaired (plan : Nat → Option (Outcome Fault Empty)) (lock : Option Bool) (number : Nat)
    (shelf : Shelf) :
    let store := Shelf.store.planned plan
    let begun : Running (Nat × Shelf) := ⟨.holding store lock, (number, shelf)⟩
    let spared : Running Shelf := ⟨.holding Shelf.store lock, shelf⟩
    (∀ superuser after, Attempts (Service.init store superuser) begun after → Store.Silent plan after.world →
      Coincides store Shelf.store Prod.snd (Service.init store superuser after) (Service.init Shelf.store superuser spared)) ∧
    ∀ after, Attempts ChatCommand.registerManagement begun after → Store.Silent plan after.world →
      Coincides store Shelf.store Prod.snd (ChatCommand.registerManagement after) (ChatCommand.registerManagement spared) := by
  intro store begun spared
  have lossy := Store.planned_lossy plan Shelf.select_quiet
  have agree := lossy.agrees Shelf.store_alive Declared
  refine ⟨fun superuser after tried free => ?_, fun after tried free => ?_⟩
  · refine (init_resumes lossy superuser).coincides (init_agrees agree superuser) (fun t => ?_) tried free
    exact ⟨rfl, rfl, some true, rfl, rfl⟩
  · refine (mutations_resume lossy _ _).coincides (Agrees.bind (mutate_agrees agree _) fun _ => mutate_agrees agree _)
      (fun t => ?_) tried free
    exact ⟨rfl, rfl, some true, rfl, rfl⟩

def hitches (lost : Nat) (number : Nat) : Option (Outcome Fault Empty) :=
  if number = lost then some (.failed (.database .full)) else none

theorem hitches_repaired :
    let store (lost : Nat) := Shelf.store.planned (hitches lost)
    let fresh : Running (Nat × Shelf) := ⟨.holding (store 2) none, (0, Shelf.empty)⟩
    let tried := Service.init (store 2) (some "root") fresh
    let begun : Running (Nat × Shelf) := ⟨.holding (store 5) (some false), (0, disputed.shelf)⟩
    let halved := ChatCommand.registerManagement begun
    tried.1 = .failed (.setup (.database .full)) ∧
      Coincides (store 2) Shelf.store Prod.snd (Service.init (store 2) (some "root") tried.2)
        (Service.init Shelf.store (some "root") ⟨.holding Shelf.store none, Shelf.empty⟩) ∧
      halved.1 = .failed (.store (.database .full)) ∧
      Coincides (store 5) Shelf.store Prod.snd (ChatCommand.registerManagement halved.2)
        (ChatCommand.registerManagement ⟨.holding Shelf.store (some false), disputed.shelf⟩) := by
  intro store fresh tried begun halved
  have silent (lost point : Nat) (past : lost < point) (shelf : Shelf) : Store.Silent (hitches lost) (point, shelf) :=
    fun number ahead => if_neg (by simp only at ahead; omega)
  have first : tried = (.failed (.setup (.database .full)), tried.2) := Prod.ext rfl rfl
  have second : halved = (.failed (.store (.database .full)), halved.2) := Prod.ext rfl rfl
  have set := (interruptions_repaired (hitches 2) none 0 Shelf.empty).1 (some "root") tried.2 (.another .none first)
    (silent 2 3 (by decide) _)
  have registered := (interruptions_repaired (hitches 5) (some false) 0 disputed.shelf).2 halved.2
    (.another .none second) (silent 5 6 (by decide) _)
  exact ⟨rfl, set, rfl, registered⟩

end FeatureGate
