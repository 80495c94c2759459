import FeatureGate.Proofs.Integrity

namespace FeatureGate
open Table Registry FeatureGate.Action

def Filled (shelf : Shelf) : Prop := ∃ book : Book, book.On shelf

theorem declared_named : ∀ declared ∈ tables, declared.2.nameFault declared.1 = none := by
  intro declared member
  simp only [tables, List.mem_cons, List.not_mem_nil, or_false] at member
  rcases member with rfl | rfl | rfl | rfl <;> rfl

theorem filled_stable : Stable Shelf.store Filled := by
  refine ⟨?_, ?_⟩
  · intro declared member shelf filled
    obtain ⟨book, on⟩ := filled
    have same : (Shelf.createTable declared.1 declared.2 shelf).2 = shelf := by
      simp only [tables, List.mem_cons, List.not_mem_nil, or_false] at member
      rcases member with rfl | rfl | rfl | rfl
      · exact congrArg Prod.snd (Form.createTable_held on.features)
      · exact congrArg Prod.snd (Form.createTable_held on.groups)
      · exact congrArg Prod.snd (Form.createTable_held on.users)
      · exact congrArg Prod.snd (Form.createTable_held on.superusers)
    exact ⟨book, same.symm ▸ on⟩
  · intro mutation _ _ shelf filled
    obtain ⟨book, on⟩ := filled
    cases written : book.write mutation with
    | ok after =>
        obtain ⟨world, applied, onAfter⟩ := Book.apply_done on written
        rw [applied]
        exact ⟨after, onAfter⟩
    | error invalid =>
        rw [Book.apply_failed on written]
        exact ⟨book, on⟩

def Present (name : String) (shelf : Shelf) : Prop := shelf.sheets.get? name ≠ none

theorem createTable_keeps (name table : String) (layout : Layout) :
    Keeps (Present name) (Shelf.store.createTable table layout) := by
  intro shelf there
  simp only [Present, Shelf.store, Shelf.createTable] at there ⊢
  split
  · exact there
  · split
    · exact there
    · by_cases same : name = table <;> simp [same, there]

theorem createTable_present {table : String} {layout : Layout} (named : layout.nameFault table = none) (shelf : Shelf) :
    Present table (Shelf.store.createTable table layout shelf).2 := by
  simp only [Present, Shelf.store, Shelf.createTable, named]
  cases held : shelf.sheets.get? table with
  | none => simp
  | some sheet => simp [held]

theorem createTable_done {table : String} {layout : Layout} (named : layout.nameFault table = none) (shelf : Shelf) :
    (Shelf.store.createTable table layout shelf).1 = .done () := by
  simp only [Shelf.store, Shelf.createTable, named]
  split <;> rfl

def Registry.createAll (store : Store σ) (declarations : List (String × Layout)) : Action σ Error Unit :=
  declarations.forM fun declared => (store.createTable declared.1 declared.2).mapError .setup

section Provision
variable {store : Store τ} {clear : τ → Prop} {view : τ → Shelf} (lossy : store.Lossy clear view Shelf.store)
include lossy

theorem createAll_keeps (table : String) (declarations : List (String × Layout)) :
    Keeps (Present table ∘ view) (createAll store declarations) :=
  Keeps.each fun _ _ => (lossy.createTable _ _).keeps (createTable_keeps table _ _)

theorem createAll_present (declarations : List (String × Layout))
    (named : ∀ declared ∈ declarations, declared.2.nameFault declared.1 = none)
    (done : createAll store declarations t = (.done (), t')) :
    ∀ declared ∈ declarations, Present declared.1 (view t') := by
  induction declarations generalizing t with
  | nil => intro declared member; cases member
  | cons first rest ih =>
      obtain ⟨_, middle, created, later⟩ := bind_parts done
      -- The first table is there after its own call and stays through the others.
      have here : Present first.1 (view middle) := by
        have follows := lossy.createTable first.1 first.2 t
        rw [mapError_parts created] at follows
        rcases follows with ⟨_, seen, _⟩ | ⟨lost, _⟩
        · rw [show view middle = _ from seen]
          exact createTable_present (named first List.mem_cons_self) _
        · exact lost.elim
      have goesOn : createAll store rest middle = (.done (), t') := later
      intro declared member
      rcases List.mem_cons.mp member with rfl | other
      · have still := createAll_keeps lossy declared.1 rest middle here
        rwa [goesOn] at still
      · exact ih (fun other there => named other (List.mem_cons_of_mem _ there)) goesOn declared other

omit lossy in
theorem filled_present {shelf : Shelf} (kept : Kept shelf) (present : ∀ declared ∈ tables, Present declared.1 shelf) :
    Filled shelf := by
  simp only [tables, List.mem_cons, List.not_mem_nil, or_false, forall_eq_or_imp, forall_eq] at present
  obtain ⟨features, groups, users, superusers⟩ := present
  rcases kept.features with absent | ⟨one, onFeatures, _⟩
  · exact (features absent).elim
  rcases kept.groups with absent | ⟨two, onGroups, _⟩
  · exact (groups absent).elim
  rcases kept.users with absent | ⟨three, onUsers, _⟩
  · exact (users absent).elim
  rcases kept.superusers with absent | ⟨four, onSuperusers, _⟩
  · exact (superusers absent).elim
  exact ⟨⟨one, two, three, four⟩, onFeatures, onGroups, onUsers, onSuperusers⟩

theorem setUp_filled (kept : Kept (view t)) (done : Service.setUp store superuser t = (.done (), t')) :
    Filled (view t') := by
  obtain ⟨_, middle, created, seeded⟩ := bind_parts done
  have keptMiddle := createTables_keeps lossy kept_stable t kept
  rw [created] at keptMiddle
  have filled : Filled (view middle) :=
    filled_present keptMiddle (createAll_present lossy tables declared_named created)
  cases superuser with
  | none => cases seeded; exact filled
  | some user =>
      have seeds : Keeps (Filled ∘ view) (do
          Action.refuse ((Mutation.setSuperuser user).invalid.map Error.validation)
          (Mutation.setSuperuser user).apply store) := by
        refine Keeps.behind fun right => ?_
        exact apply_keeps lossy filled_stable _ (Option.map_eq_none_iff.mp right) rfl
      have still := seeds middle filled
      change (Action.refuse _ >>= fun _ => (Mutation.setSuperuser user).apply store) middle = _ at seeded
      rw [seeded] at still
      exact still

omit lossy in
theorem serve_after {action : Action (Running τ) ε α} {fleet : Fleet τ} {number : Nat}
    (ended : (action (fleet.running number)).2 = ⟨service, world⟩) :
    (Fleet.serve number action fleet).2 = ⟨Function.update fleet.services number service, world⟩ := by
  simp only [Fleet.serve, Action.within, ended]

-- Besides what is kept anyway: as soon as one service is set up, the tables are
-- there for all of them.
structure Fleet.Ready (store : Store τ) (view : τ → Shelf) (fleet : Fleet τ) : Prop where
  sound : fleet.Sound store (Kept ∘ view)
  filled : ∀ number ledger, (fleet.services number).ledger = some ledger → Filled (view fleet.world)

variable {E : Type} {fleet : Fleet τ}

theorem init_filled (ready : fleet.Ready store view) (unset : ∀ number, (fleet.services number).ledger = none)
    (number : Nat) (superuser : Option String) (other : Nat) (ledger : Ledger τ)
    (set : ((Fleet.serve number (Service.init store superuser) fleet).2.services other).ledger = some ledger) :
    Filled (view (Fleet.serve number (Service.init store superuser) fleet).2.world) := by
  have idle : (fleet.running number).service.ledger = none := unset number
  cases ended : Service.setUp store superuser (fleet.running number).world with
  | mk outcome world =>
      have begun := Service.init_none idle ended
      have spared (empty : (Service.init store superuser (fleet.running number)).2.service.ledger = none) :
          Filled (view (Fleet.serve number (Service.init store superuser) fleet).2.world) := by
        have all := Fleet.serve_each (P := fun service => service.ledger = none) unset empty other
        rw [set] at all
        cases all
      cases outcome with
      | done answer =>
          rw [serve_after (congrArg Prod.snd begun)]
          exact setUp_filled lossy ready.sound.2 ended
      | failed error => exact spared (by rw [begun]; exact idle)
      | aborted => exact spared (by rw [begun]; exact idle)

theorem step_ready (actorOf : E → Option Actor) (number : Nat) (errand : Errand τ E)
    (ready : fleet.Ready store view) : (Fleet.step store actorOf number errand fleet).2.Ready store view := by
  refine ⟨serve_keeps (perform_keeps lossy kept_stable actorOf errand) number fleet ready.sound, ?_⟩
  -- Full tables stay full; where they are not, nobody is set up yet, and only a
  -- setting up could change that.
  by_cases filled : Filled (view fleet.world)
  · have still := serve_keeps (perform_keeps lossy filled_stable actorOf errand) number fleet ⟨ready.sound.1, filled⟩
    exact fun _ _ _ => still.2
  · have unset : ∀ number, (fleet.services number).ledger = none := by
      intro number
      cases holds : (fleet.services number).ledger with
      | none => rfl
      | some ledger => exact (filled (ready.filled number ledger holds)).elim
    have idle : (fleet.running number).service.ledger = none := unset number
    rcases Errand.perform_none idle store actorOf errand with failed | ⟨_, done⟩ | ⟨superuser, rfl⟩
    · unfold Fleet.step
      rw [Fleet.serve_still number failed]
      exact ready.filled
    · unfold Fleet.step
      rw [Fleet.serve_still number done]
      exact ready.filled
    · intro other ledger set
      have same : (Fleet.step store actorOf number (.request (.init superuser)) fleet).2 =
          (Fleet.serve number (Service.init store superuser) fleet).2 := by
        have ended : ((Errand.request (.init superuser)).perform store actorOf (fleet.running number)).2 =
            (Service.init store superuser (fleet.running number)).2 :=
          (answer_after _ _ _).trans (answer_after _ _ _)
        simp only [Fleet.step, Fleet.serve, Action.within, ended]
      rw [same] at set ⊢
      exact init_filled lossy ready unset number superuser other ledger set

theorem after_ready (actorOf : E → Option Actor) (errands : List (Nat × Errand τ E))
    (ready : fleet.Ready store view) : (Fleet.after store actorOf errands fleet).Ready store view := by
  induction errands generalizing fleet with
  | nil => exact ready
  | cons first rest ih => exact ih (step_ready lossy actorOf first.1 first.2 ready)

end Provision
end FeatureGate
