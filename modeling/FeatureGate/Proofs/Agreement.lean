import FeatureGate.Proofs.Fleet

namespace FeatureGate
open Table Registry FeatureGate.Action

namespace Action
variable {paired : σ → τ → Prop} {spent : τ → Prop}

-- From paired worlds the two come to the same answer or the same error, neither
-- dies, and the worlds stay paired; unless the other one has used up its world.
-- A world that is used up does not recover.
structure Agrees (paired : σ → τ → Prop) (spent : τ → Prop) (one : Action σ ε α) (other : Action τ ε α) : Prop where
  alike : ∀ s t, paired s t → spent (other t).2 ∨
    ((one s).1 = (other t).1 ∧ (one s).1 ≠ .aborted ∧ paired (one s).2 (other t).2)
  worn : Keeps spent other

theorem Agrees.pure (answer : α) :
    Agrees paired spent (Pure.pure answer : Action σ ε α) (Pure.pure answer) :=
  ⟨fun _ _ pairs => .inr ⟨rfl, nofun, pairs⟩, Keeps.pure _⟩

theorem Agrees.fail (error : ε) :
    Agrees paired spent (Action.fail error : Action σ ε α) (Action.fail error) :=
  ⟨fun _ _ pairs => .inr ⟨rfl, nofun, pairs⟩, Keeps.fail _⟩

theorem Agrees.refuse (objection : Option ε) :
    Agrees paired spent (Action.refuse objection) (Action.refuse objection) := by
  cases objection with
  | none => exact Agrees.pure ()
  | some error => exact Agrees.fail error

theorem Agrees.bind {first : Action σ ε α} {first' : Action τ ε α} {next : α → Action σ ε β}
    {next' : α → Action τ ε β} (one : Agrees paired spent first first')
    (rest : ∀ answer, Agrees paired spent (next answer) (next' answer)) :
    Agrees paired spent (first >>= next) (first' >>= next') := by
  refine ⟨?_, Keeps.bind one.worn fun answer => (rest answer).worn⟩
  intro s t pairs
  have step := one.alike s t pairs
  rw [bind_apply, bind_apply]
  cases here : first s with
  | mk outcome s' =>
      cases there : first' t with
      | mk outcome' t' =>
          rw [here, there] at step
          rcases step with used | ⟨same, alive, still⟩
          · -- What comes after cannot undo it.
            cases outcome' with
            | done answer => exact .inl ((rest answer).worn t' used)
            | failed error => exact .inl used
            | aborted => exact .inl used
          · cases same
            cases outcome with
            | done answer => exact (rest answer).alike s' t' still
            | failed error => exact .inr ⟨rfl, nofun, still⟩
            | aborted => exact (alive rfl).elim

theorem Agrees.mapError {one : Action σ ε α} {other : Action τ ε α} (agree : Agrees paired spent one other)
    (f : ε → δ) : Agrees paired spent (one.mapError f) (other.mapError f) := by
  refine ⟨?_, fun t used => agree.worn t used⟩
  intro s t pairs
  rcases agree.alike s t pairs with used | ⟨same, alive, still⟩
  · exact .inl used
  · refine .inr ⟨congrArg (Outcome.mapError f) same, ?_, still⟩
    show (one s).1.mapError f ≠ .aborted
    cases ended : (one s).1 with
    | done answer => exact nofun
    | failed error => exact nofun
    | aborted => exact (alive ended).elim

theorem Agrees.choose {c : Prop} [Decidable c] {yes no : Action σ ε α} {yes' no' : Action τ ε α}
    (one : Agrees paired spent yes yes') (other : Agrees paired spent no no') :
    Agrees paired spent (if c then yes else no) (if c then yes' else no') := by
  by_cases holds : c <;> simpa [holds]

theorem Agrees.each {f : α → Action σ ε PUnit} {f' : α → Action τ ε PUnit} {xs : List α}
    (every : ∀ x ∈ xs, Agrees paired spent (f x) (f' x)) : Agrees paired spent (xs.forM f) (xs.forM f') := by
  induction xs with
  | nil => exact Agrees.pure _
  | cons x rest ih =>
      exact Agrees.bind (every x List.mem_cons_self) fun _ =>
        ih fun other member => every other (List.mem_cons_of_mem _ member)

def replies (move : ι → Action σ ε α) : List ι → σ → List (Outcome ε α) × σ
  | [], s => ([], s)
  | first :: rest, s =>
      let later := replies move rest (move first s).2
      ((move first s).1 :: later.1, later.2)

variable {move : ι → Action σ ε α} {move' : ι → Action τ ε α}

theorem replies_keeps {good : τ → Prop} {moves : List ι} (keeps : ∀ one ∈ moves, Keeps good (move' one)) (t : τ)
    (held : good t) : good (replies move' moves t).2 := by
  induction moves generalizing t with
  | nil => exact held
  | cons first rest ih =>
      exact ih (fun one member => keeps one (List.mem_cons_of_mem _ member)) _
        (keeps first List.mem_cons_self t held)

theorem replies_agree {moves : List ι} (agree : ∀ one ∈ moves, Agrees paired spent (move one) (move' one))
    (pairs : paired s t) :
    spent (replies move' moves t).2 ∨
      ((replies move moves s).1 = (replies move' moves t).1 ∧
        paired (replies move moves s).2 (replies move' moves t).2) := by
  induction moves generalizing s t with
  | nil => exact .inr ⟨rfl, pairs⟩
  | cons first rest ih =>
      have later : ∀ one ∈ rest, Agrees paired spent (move one) (move' one) :=
        fun one member => agree one (List.mem_cons_of_mem _ member)
      rcases (agree first List.mem_cons_self).alike s t pairs with used | ⟨same, _, still⟩
      · exact .inl (replies_keeps (fun one member => (later one member).worn) _ used)
      · rcases ih later still with used | ⟨answers, ends⟩
        · exact .inl used
        · exact .inr ⟨congrArg₂ List.cons same answers, ends⟩

end Action

namespace Table

def Layout.Keyless (layout : Layout) (row : Row) : Prop := ∀ name ∈ row.names, layout.kind? name ≠ some .key

def Writable (declared : String → Layout → Prop) (table : String) (row : Row) : Prop :=
  ∀ layout, declared table layout → layout.Keyless row

-- Tables are created as declared, and what is written names no key. What is asked
-- for may name one.
def Call.Fits (declared : String → Layout → Prop) : Call → Prop
  | .createTable table layout => declared table layout
  | .insert table row => Writable declared table row
  | .update table assignment _ => Writable declared table assignment
  | _ => True

structure Store.Agrees (paired : σ → τ → Prop) (spent : τ → Prop) (declared : String → Layout → Prop)
    (one : Store σ) (other : Store τ) : Prop where
  createTable : ∀ table layout, declared table layout →
    Action.Agrees paired spent (one.createTable table layout) (other.createTable table layout)
  insert : ∀ table row, Writable declared table row →
    Action.Agrees paired spent (one.insert table row) (other.insert table row)
  update : ∀ table assignment filter, Writable declared table assignment →
    Action.Agrees paired spent (one.update table assignment filter) (other.update table assignment filter)
  delete : ∀ table filter, Action.Agrees paired spent (one.delete table filter) (other.delete table filter)
  select : ∀ table filter, Action.Agrees paired spent (one.select table filter) (other.select table filter)

namespace Store

theorem history_replies (store : Store σ) (calls : List Call) (s : σ) :
    store.history calls s = replies store.perform calls s := by
  induction calls generalizing s with
  | nil => rfl
  | cons call rest ih =>
      exact congrArg (fun later : List _ × σ => ((store.perform call s).1 :: later.1, later.2)) (ih _)

variable {paired : σ → τ → Prop} {spent : τ → Prop} {one : Store σ} {other : Store τ}
  {declared : String → Layout → Prop}

theorem perform_agrees (agree : one.Agrees paired spent declared other) (call : Call) (fits : call.Fits declared) :
    Action.Agrees paired spent (one.perform call) (other.perform call) := by
  cases call with
  | createTable table layout => exact Agrees.bind (agree.createTable _ _ fits) fun _ => Agrees.pure _
  | insert table row => exact Agrees.bind (agree.insert _ _ fits) fun _ => Agrees.pure _
  | update table assignment filter => exact Agrees.bind (agree.update _ _ _ fits) fun _ => Agrees.pure _
  | delete table filter => exact Agrees.bind (agree.delete _ _) fun _ => Agrees.pure _
  | select table filter => exact Agrees.bind (agree.select _ _) fun _ => Agrees.pure _

end Store
end Table

section Reading
variable {paired : σ → τ → Prop} {spent : τ → Prop} {one : Store σ} {other : Store τ}
  (reads : ∀ table key, Action.Agrees paired spent (one.select table key) (other.select table key))
include reads

namespace Registry

theorem rowsOf_agrees (table : String) (key : Row) :
    Action.Agrees paired spent (rowsOf one table key) (rowsOf other table key) := (reads table key).mapError _

omit reads in
theorem understood_agrees (result : Except Invalid α) :
    Action.Agrees paired spent (understood result) (understood result) := by
  cases result with
  | ok answer => exact Agrees.pure answer
  | error invalid => exact Agrees.fail (Error.validation invalid)

theorem isSuperuser_agrees (user : String) :
    Action.Agrees paired spent (isSuperuser one user) (isSuperuser other user) :=
  Agrees.bind (rowsOf_agrees reads _ _) fun _ => Agrees.pure _

theorem allSuperusers_agrees : Action.Agrees paired spent (allSuperusers one) (allSuperusers other) :=
  Agrees.bind (rowsOf_agrees reads _ _) fun _ => Agrees.pure _

theorem defaults?_agrees (plugin feature : String) :
    Action.Agrees paired spent (defaults? one plugin feature) (defaults? other plugin feature) :=
  Agrees.bind (rowsOf_agrees reads _ _) fun _ => understood_agrees _

theorem state?_agrees (table : String) (key : Row) :
    Action.Agrees paired spent (state? one table key) (state? other table key) :=
  Agrees.bind (rowsOf_agrees reads _ _) fun _ => understood_agrees _

theorem allFeatures_agrees : Action.Agrees paired spent (allFeatures one) (allFeatures other) :=
  Agrees.bind (rowsOf_agrees reads _ _) fun _ => understood_agrees _

end Registry

namespace Resolution

theorem groupGate_agrees (plugin feature : String) (defaults : Defaults) (group : String) (role : Role) :
    Action.Agrees paired spent (groupGate one plugin feature defaults group role)
      (groupGate other plugin feature defaults group role) :=
  Agrees.choose (Agrees.pure _) (Agrees.bind (state?_agrees reads _ _) fun _ => Agrees.pure _)

theorem groupDecision_agrees (plugin feature : String) (defaults : Defaults) (user group : String) (role : Role) :
    Action.Agrees paired spent (groupDecision one plugin feature defaults user group role)
      (groupDecision other plugin feature defaults user group role) :=
  Agrees.choose (Agrees.pure _) (Agrees.bind (groupGate_agrees reads _ _ _ _ _) fun _ =>
    Agrees.bind (state?_agrees reads _ _) fun _ => Agrees.pure _)

theorem privateDecision_agrees (plugin feature : String) (defaults : Defaults) (user : String) :
    Action.Agrees paired spent (privateDecision one plugin feature defaults user)
      (privateDecision other plugin feature defaults user) :=
  Agrees.choose (Agrees.pure _) (Agrees.bind (state?_agrees reads _ _) fun _ => Agrees.pure _)

theorem decide_agrees (actor : Actor) (plugin feature : String) :
    Action.Agrees paired spent (decide one actor plugin feature) (decide other actor plugin feature) := by
  refine Agrees.bind (Agrees.refuse _) fun _ => ?_
  refine Agrees.bind (isSuperuser_agrees reads _) fun standing => ?_
  refine Agrees.choose (Agrees.pure _) ?_
  refine Agrees.bind (defaults?_agrees reads _ _) fun registered => ?_
  cases registered with
  | none => exact Agrees.pure _
  | some defaults => cases actor with
      | group user group role => exact groupDecision_agrees reads _ _ _ _ _ _
      | alone user => exact privateDecision_agrees reads _ _ _ _

theorem isAdmin_agrees (actor : Actor) :
    Action.Agrees paired spent (isAdmin one actor) (isAdmin other actor) := by
  cases actor with
  | group user group role => exact Agrees.choose (Agrees.pure _) (isSuperuser_agrees reads _)
  | alone user => exact isSuperuser_agrees reads _

end Resolution
end Reading

namespace Registry

def Declared (table : String) (layout : Layout) : Prop := (table, layout) ∈ tables

theorem declared_key (known : Declared table layout) (key : layout.kind? name = some .key) : name = "id" := by
  simp only [Declared, tables, List.mem_cons, List.not_mem_nil, or_false, Prod.mk.injEq] at known
  rcases known with ⟨_, rfl⟩ | ⟨_, rfl⟩ | ⟨_, rfl⟩ | ⟨_, rfl⟩ <;>
  · simp only [Layout.kind?, keyed, List.cons_append, List.nil_append, Assoc.lookup] at key
    split at key
    · rename_i same
      exact same.symm
    · repeat' split at key
      all_goals cases key

theorem writable_of_names {row : Row} (clear : "id" ∉ row.names) : Writable Declared table row := by
  intro layout known name member key
  rw [declared_key known key] at member
  exact clear member

section Writing
variable {paired : σ → τ → Prop} {spent : τ → Prop} {one : Store σ} {other : Store τ}
  (agree : one.Agrees paired spent Declared other)
include agree

theorem createTables_agrees : Action.Agrees paired spent (createTables one) (createTables other) :=
  Agrees.each fun _ member => (agree.createTable _ _ member).mapError _

theorem writeUnder_agrees (table : String) {key cells : Row} (fresh : "id" ∉ (key.assign cells).names)
    (change : "id" ∉ cells.names) :
    Action.Agrees paired spent (writeUnder one table key cells) (writeUnder other table key cells) := by
  refine Agrees.bind (rowsOf_agrees agree.select _ _) fun rows => ?_
  refine Agrees.choose ((agree.insert _ _ (writable_of_names fresh)).mapError _) ?_
  exact Agrees.bind ((agree.update _ _ _ (writable_of_names change)).mapError _) fun _ => Agrees.pure _

theorem apply_agrees (mutation : Mutation) :
    Action.Agrees paired spent (mutation.apply one) (mutation.apply other) := by
  cases mutation with
  | setSuperuser user =>
      refine Agrees.bind (rowsOf_agrees agree.select _ _) fun rows => ?_
      have fresh : "id" ∉ (superuserKey user).names := by
        show "id" ∉ ["user_id"]
        decide
      exact Agrees.choose ((agree.insert _ _ (writable_of_names fresh)).mapError _) (Agrees.pure _)
  | removeSuperuser user =>
      refine Agrees.bind (rowsOf_agrees agree.select _ _) fun rows => ?_
      exact Agrees.choose (Agrees.bind ((agree.delete _ _).mapError _) fun _ => Agrees.pure _) (Agrees.pure _)
  | updateFeature plugin feature update =>
      refine Agrees.bind (defaults?_agrees agree.select _ _) fun base => writeUnder_agrees agree _ ?_ ?_
      · show "id" ∉ ["plugin", "feature", "admin", "group_perm", "user"]
        decide
      · show "id" ∉ ["admin", "group_perm", "user"]
        decide
  | updateGroup plugin feature group state =>
      refine writeUnder_agrees agree _ ?_ ?_
      · show "id" ∉ ["plugin", "feature", "group_id", "state"]
        decide
      · show "id" ∉ ["state"]
        decide
  | updateUser plugin feature user state =>
      refine writeUnder_agrees agree _ ?_ ?_
      · show "id" ∉ ["plugin", "feature", "user_id", "state"]
        decide
      · show "id" ∉ ["state"]
        decide

end Writing
end Registry

inductive Running.Paired (one : Store σ) (other : Store τ) (paired : σ → τ → Prop) : Running σ → Running τ → Prop where
  | fresh (worlds : paired s t) : Paired one other paired ⟨{}, s⟩ ⟨{}, t⟩
  | set (worlds : paired s t) :
      Paired one other paired ⟨⟨some { store := one }⟩, s⟩ ⟨⟨some { store := other }⟩, t⟩

section Services
variable {paired : σ → τ → Prop} {spent : τ → Prop} {one : Store σ} {other : Store τ}

theorem reading_agrees {read : Store σ → Action σ Error α} {read' : Store τ → Action τ Error α}
    (agree : Action.Agrees paired spent (read one) (read' other)) :
    Action.Agrees (Running.Paired one other paired) (Running.Sound other spent) (Service.reading read)
      (Service.reading read') := by
  refine ⟨?_, reading_keeps agree.worn⟩
  intro running running' pairs
  cases pairs with
  | fresh worlds =>
      rw [Service.reading_none rfl, Service.reading_none rfl]
      exact .inr ⟨rfl, nofun, .fresh worlds⟩
  | set worlds =>
      rw [Service.reading_some rfl, Service.reading_some rfl]
      rcases agree.alike _ _ worlds with used | ⟨same, alive, still⟩
      · exact .inl ⟨fun ledger is => Option.some.inj is ▸ rfl, used⟩
      · exact .inr ⟨same, alive, .set still⟩

theorem locked_agrees {body : Store σ → Action σ Error Unit} {body' : Store τ → Action τ Error Unit}
    (agree : Action.Agrees paired spent (body one) (body' other)) :
    Action.Agrees (Running.Paired one other paired) (Running.Sound other spent) (Service.locked body)
      (Service.locked body') := by
  refine ⟨?_, locked_keeps agree.worn⟩
  intro running running' pairs
  cases pairs with
  | fresh worlds =>
      rw [Service.locked_none rfl, Service.locked_none rfl]
      exact .inr ⟨rfl, nofun, .fresh worlds⟩
  | @set s t worlds =>
      rcases agree.alike s t worlds with used | ⟨same, alive, still⟩
      · have sound : Running.Sound other spent ⟨⟨some { store := other }⟩, (body' other t).2⟩ :=
          ⟨fun ledger is => Option.some.inj is ▸ rfl, used⟩
        refine .inl ?_
        rw [Service.locked_open rfl rfl]
        cases ended : body' other t with
        | mk outcome world =>
            rw [ended] at sound
            cases outcome with
            | done answer => exact sound
            | failed error => exact sound
            | aborted => exact ⟨fun ledger is => Option.some.inj is ▸ rfl, sound.2⟩
      · rw [Service.locked_open rfl rfl, Service.locked_open rfl rfl]
        cases here : body one s with
        | mk outcome world =>
            cases there : body' other t with
            | mk outcome' world' =>
                rw [here, there] at same still
                rw [here] at alive
                cases same
                cases outcome with
                | done answer => exact .inr ⟨rfl, nofun, .set still⟩
                | failed error => exact .inr ⟨rfl, nofun, .set still⟩
                | aborted => exact (alive rfl).elim

variable (agree : one.Agrees paired spent Declared other)
include agree

theorem setUp_agrees (superuser : Option String) :
    Action.Agrees paired spent (Service.setUp one superuser) (Service.setUp other superuser) := by
  refine Agrees.bind (createTables_agrees agree) fun _ => ?_
  cases superuser with
  | none => exact Agrees.pure _
  | some user => exact Agrees.bind (Agrees.refuse _) fun _ => apply_agrees agree _

theorem init_agrees (superuser : Option String) :
    Action.Agrees (Running.Paired one other paired) (Running.Sound other spent) (Service.init one superuser)
      (Service.init other superuser) := by
  have begun := setUp_agrees agree superuser
  refine ⟨?_, init_through begun.worn⟩
  intro running running' pairs
  cases pairs with
  | set worlds =>
      rw [Service.init_some rfl, Service.init_some rfl]
      exact .inr ⟨rfl, nofun, .set worlds⟩
  | @fresh s t worlds =>
      have step := begun.alike s t worlds
      cases here : Service.setUp one superuser s with
      | mk outcome world =>
          cases there : Service.setUp other superuser t with
          | mk outcome' world' =>
              rw [here, there] at step
              rw [Service.init_none rfl there, Service.init_none rfl here]
              rcases step with used | ⟨same, alive, still⟩
              · refine .inl ?_
                cases outcome' with
                | done answer => exact ⟨fun ledger is => Option.some.inj is ▸ rfl, used⟩
                | failed error => exact ⟨nofun, used⟩
                | aborted => exact ⟨nofun, used⟩
              · cases same
                cases outcome with
                | done answer => exact .inr ⟨rfl, nofun, .set still⟩
                | failed error => exact .inr ⟨rfl, nofun, .fresh still⟩
                | aborted => exact (alive rfl).elim

theorem mutate_agrees (mutation : Mutation) :
    Action.Agrees (Running.Paired one other paired) (Running.Sound other spent) (Service.mutate mutation)
      (Service.mutate mutation) := by
  have writes : Action.Agrees (Running.Paired one other paired) (Running.Sound other spent)
      (Service.locked mutation.apply) (Service.locked mutation.apply) := locked_agrees (apply_agrees agree mutation)
  refine ⟨?_, mutate_through fun _ _ => writes.worn⟩
  intro running running' pairs
  cases pairs with
  | fresh worlds =>
      rw [Service.mutate_none rfl, Service.mutate_none rfl]
      exact .inr ⟨rfl, nofun, .fresh worlds⟩
  | set worlds => cases right : mutation.invalid with
      | some invalid =>
          rw [Service.mutate_refused rfl right, Service.mutate_refused rfl right]
          exact .inr ⟨rfl, nofun, .set worlds⟩
      | none =>
          rw [Service.mutate_begun rfl right, Service.mutate_begun rfl right]
          exact (Agrees.choose (Agrees.pure _) writes).alike _ _ (.set worlds)

omit agree in
theorem Service.decide_agrees
    (reads : ∀ table key, Action.Agrees paired spent (one.select table key) (other.select table key))
    (actor : Actor) (plugin feature : String) :
    Action.Agrees (Running.Paired one other paired) (Running.Sound other spent) (Service.decide actor plugin feature)
      (Service.decide actor plugin feature) :=
  reading_agrees (Resolution.decide_agrees reads actor plugin feature)

theorem execute_agrees (command : ChatCommand) (actor : Actor) :
    Action.Agrees (Running.Paired one other paired) (Running.Sound other spent) (command.execute actor)
      (command.execute actor) := by
  refine Agrees.bind (Service.decide_agrees agree.select _ _ _) fun allowed => ?_
  refine Agrees.choose (Agrees.fail _) ?_
  cases command.effect actor with
  | none => exact Agrees.fail _
  | some effect => exact Agrees.bind (mutate_agrees agree effect.1) fun _ => Agrees.pure _

theorem handle_agrees (asked : Request) :
    Action.Agrees (Running.Paired one other paired) (Running.Sound other spent) (asked.handle one)
      (asked.handle other) := by
  cases asked with
  | init superuser => exact Agrees.bind (init_agrees agree superuser) fun _ => Agrees.pure _
  | isInitialized =>
      refine ⟨?_, fun _ sound => sound⟩
      intro running running' pairs
      cases pairs with
      | fresh worlds => exact .inr ⟨rfl, nofun, .fresh worlds⟩
      | set worlds => exact .inr ⟨rfl, nofun, .set worlds⟩
  | createTables => exact Agrees.bind (reading_agrees (createTables_agrees agree)) fun _ => Agrees.pure _
  | mutate mutation => exact Agrees.bind (mutate_agrees agree mutation) fun _ => Agrees.pure _
  | isSuperuser user =>
      exact Agrees.bind (reading_agrees (isSuperuser_agrees agree.select user)) fun _ => Agrees.pure _
  | superusers => exact Agrees.bind (reading_agrees (allSuperusers_agrees agree.select)) fun _ => Agrees.pure _
  | defaults plugin feature =>
      exact Agrees.bind (reading_agrees (defaults?_agrees agree.select plugin feature)) fun _ => Agrees.pure _
  | groupOverride plugin feature group =>
      exact Agrees.bind (reading_agrees (state?_agrees agree.select _ _)) fun _ => Agrees.pure _
  | userOverride plugin feature user =>
      exact Agrees.bind (reading_agrees (state?_agrees agree.select _ _)) fun _ => Agrees.pure _
  | features => exact Agrees.bind (reading_agrees (allFeatures_agrees agree.select)) fun _ => Agrees.pure _
  | decide actor plugin feature =>
      exact Agrees.bind (Service.decide_agrees agree.select actor plugin feature) fun _ => Agrees.pure _
  | isAdmin actor =>
      exact Agrees.bind (reading_agrees (Resolution.isAdmin_agrees agree.select actor)) fun _ => Agrees.pure _
  | registerManagement =>
      refine Agrees.bind ?_ fun _ => Agrees.pure _
      exact Agrees.bind (mutate_agrees agree _) fun _ => mutate_agrees agree _
  | command asked actor => exact Agrees.bind (execute_agrees agree asked actor) fun _ => Agrees.pure _

end Services
end FeatureGate
