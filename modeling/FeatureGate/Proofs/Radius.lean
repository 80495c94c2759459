import FeatureGate.Proofs.Escalation
import FeatureGate.Proofs.Independence

namespace FeatureGate
open Table Registry FeatureGate.Action

def Actor.group? : Actor → Option String
  | .group _ own _ => some own
  | .alone _ => none

namespace Registry

theorem Page.under_strike [DecidableEq κ] {page : Page κ ν} (other : asked ≠ key) :
    (page.strike key).under asked = page.under asked := by
  rw [under, under, strike, List.filter_filter]
  refine List.filter_congr fun line _ => ?_
  by_cases here : line.key = asked <;> simp [here, other]

theorem Form.answers_alike [DecidableEq κ] {form : Form κ ν} {page page' : Page κ ν} {shelf shelf' : Shelf} {k : κ}
    (on : form.On page shelf) (on' : form.On page' shelf') (same : page'.under k = page.under k) :
    Shelf.store.AnswersAlike (Only shelf shelf') Shelf.store (form.table, form.key k) := by
  intro s t start
  obtain ⟨rfl, rfl⟩ := start
  have here : Shelf.select form.table (form.key k) s = _ := onSheet_held on (form.asks k)
  have there : Shelf.select form.table (form.key k) t = _ := onSheet_held on' (form.asks k)
  refine ⟨?_, Shelf.select_quiet _ _ _, Shelf.select_quiet _ _ _⟩
  show (Shelf.select form.table (form.key k) s).1 = (Shelf.select form.table (form.key k) t).1
  rw [here, there, sheet_select, sheet_select, same]

def Plain (shelf : Shelf) (actor : Actor) : Prop := (isSuperuser Shelf.store actor.user shelf).1 = .done false

def Passes (shelf : Shelf) (actor : Actor) (plugin feature : String) : Prop :=
  ∃ defaults, (defaults? Shelf.store plugin feature shelf).1 = .done (some defaults) ∧ actor.switch defaults = .allow

-- Whose decisions a mutation may change, as the tables stand before it.
def Mutation.Touches (shelf : Shelf) (actor : Actor) (plugin feature : String) : Mutation → Prop
  | setSuperuser user | removeSuperuser user => actor.user = user
  | updateFeature plugin' feature' _ => (plugin, feature) = (plugin', feature') ∧ Plain shelf actor
  | updateGroup plugin' feature' group _ => (plugin, feature) = (plugin', feature') ∧
      (∃ user, actor = .group user group .member) ∧ Plain shelf actor ∧ Passes shelf actor plugin feature
  | updateUser plugin' feature' user _ => (plugin, feature) = (plugin', feature') ∧
      actor.user = user ∧ Plain shelf actor ∧ Passes shelf actor plugin feature

namespace Book
variable {book after : Book} {shelf shelf' : Shelf} {actor : Actor} {plugin feature : String}

theorem decide_alike (on : book.On shelf) (onAfter : after.On shelf')
    (standing : after.superusers.under actor.user = book.superusers.under actor.user)
    (registered : Plain shelf actor → after.features.under (plugin, feature) = book.features.under (plugin, feature))
    (own : Plain shelf actor → Passes shelf actor plugin feature →
      after.users.under (plugin, feature, actor.user) = book.users.under (plugin, feature, actor.user))
    (joint : ∀ user group, actor = .group user group .member → Plain shelf actor → Passes shelf actor plugin feature →
      after.groups.under (plugin, feature, group) = book.groups.under (plugin, feature, group)) :
    (Resolution.decide Shelf.store actor plugin feature shelf).1 =
      (Resolution.decide Shelf.store actor plugin feature shelf').1 := by
  have seen : (isSuperuser Shelf.store actor.user shelf).2 = shelf :=
    congrArg Prod.snd (isSuperuser_on on.superusers actor.user)
  refine Resolution.decide_same Only.start actor ?_ ?_ ?_
  · exact Form.answers_alike on.superusers onAfter.superusers standing
  · exact fun plain => Form.answers_alike on.features onAfter.features (registered plain)
  · intro defaults plain known opened look member
    rw [seen] at known
    have passes : Passes shelf actor plugin feature := ⟨defaults, known, opened⟩
    have users := Form.answers_alike on.users onAfter.users (own plain passes)
    by_cases inside : ∃ user group, actor = .group user group .member
    · obtain ⟨user, group, rfl⟩ := inside
      rcases List.mem_cons.mp member with rfl | other
      · exact Form.answers_alike on.groups onAfter.groups (joint user group rfl plain passes)
      · rw [List.mem_singleton.mp other]
        exact users
    · rw [Resolution.overrideLooks_outside fun user group is => inside ⟨user, group, is⟩] at member
      rw [List.mem_singleton.mp member]
      exact users

theorem write_updateFeature (written : book.write (.updateFeature plugin feature update) = .ok after) :
    ∃ base, book.features.defaults? plugin feature = .ok base ∧
      after = { book with features := book.features.write (plugin, feature) (.of (update.apply (base.getD {}))) } := by
  simp only [write] at written
  cases held : book.features.defaults? plugin feature with
  | error invalid => rw [held] at written; cases written
  | ok base => rw [held] at written; exact ⟨base, rfl, (Except.ok.inj written).symm⟩

theorem write_spares (on : book.On shelf) {mutation : Mutation} (written : book.write mutation = .ok after)
    (onAfter : after.On shelf') (spared : ¬mutation.Touches shelf actor plugin feature) :
    (Resolution.decide Shelf.store actor plugin feature shelf).1 =
      (Resolution.decide Shelf.store actor plugin feature shelf').1 := by
  cases mutation with
  | setSuperuser user =>
      cases written
      exact decide_alike on onAfter (Page.under_write spared _) (fun _ => rfl) (fun _ _ => rfl) fun _ _ _ _ _ => rfl
  | removeSuperuser user =>
      cases written
      exact decide_alike on onAfter (Page.under_strike spared) (fun _ => rfl) (fun _ _ => rfl) fun _ _ _ _ _ => rfl
  | updateFeature plugin' feature' update =>
      obtain ⟨base, held, rfl⟩ := write_updateFeature written
      refine decide_alike on onAfter rfl (fun plain => ?_) (fun _ _ => rfl) fun _ _ _ _ _ => rfl
      exact Page.under_write (fun same => spared ⟨same, plain⟩) _
  | updateGroup plugin' feature' group state =>
      cases written
      refine decide_alike on onAfter rfl (fun _ => rfl) (fun _ _ => rfl) fun user own is plain passes => ?_
      refine Page.under_write (fun same => spared ?_) _
      cases same
      exact ⟨rfl, ⟨user, is⟩, plain, passes⟩
  | updateUser plugin' feature' user state =>
      cases written
      refine decide_alike on onAfter rfl (fun _ => rfl) (fun plain passes => ?_) fun _ _ _ _ _ => rfl
      refine Page.under_write (fun same => spared ?_) _
      cases same
      exact ⟨rfl, rfl, plain, passes⟩

end Book
end Registry

theorem effect_spares {target : FeatureName} {state : Permission} {giver asker : Actor} {mutation : Mutation}
    (means : (ChatCommand.group target state).effect giver = some (mutation, said))
    (apart : asker.group? = none ∨ asker.group? ≠ giver.group?) : ¬mutation.Touches shelf asker plugin feature := by
  cases giver with
  | alone user => cases means
  | group user own role =>
      cases means
      intro touched
      obtain ⟨_, ⟨who, rfl⟩, _⟩ := touched
      rcases apart with outside | other
      · cases outside
      · exact other rfl

-- Whatever the tables hold, and whichever calls fail or die: what is decided about
-- an actor and a feature stays the same, errors included, unless the mutation is
-- about just that.
theorem changes_contained (plan : Nat → Option (Outcome Fault Empty)) {running : Running (Nat × Shelf)}
    (stores : ∀ ledger, running.service.ledger = some ledger → ledger.store = Shelf.store.planned plan)
    (conforms : Conforms running.world.2) :
    let decided := fun (now : Running (Nat × Shelf)) actor plugin feature =>
      (Resolution.decide Shelf.store actor plugin feature now.world.2).1
    (∀ (mutation : Mutation) actor plugin feature, ¬mutation.Touches running.world.2 actor plugin feature →
      decided (Service.mutate mutation running).2 actor plugin feature = decided running actor plugin feature) ∧
    ∀ target state (giver asker : Actor) plugin feature, asker.group? = none ∨ asker.group? ≠ giver.group? →
      decided ((ChatCommand.group target state).execute giver running).2 asker plugin feature =
        decided running asker plugin feature := by
  intro decided
  have lossy := Store.planned_lossy plan Shelf.select_quiet
  obtain ⟨book, on⟩ := conforms_exact.mp conforms
  have still {shelf' : Shelf} (actor : Actor) (plugin feature : String) (onStill : book.On shelf') :
      (Resolution.decide Shelf.store actor plugin feature shelf').1 = decided running actor plugin feature :=
    (Book.decide_alike on onStill rfl (fun _ => rfl) (fun _ _ => rfl) fun _ _ _ _ _ => rfl).symm
  refine ⟨?_, ?_⟩
  · intro mutation actor plugin feature spared
    obtain ⟨after, onAfter, written | ⟨rfl, _⟩⟩ := mutate_writes lossy stores on mutation
    · exact (Book.write_spares on written onAfter spared).symm
    · exact still actor plugin feature onAfter
  · intro target state giver asker plugin feature apart
    obtain ⟨after, onAfter, rfl | ⟨_, mutation, said, means, written⟩⟩ :=
      execute_carries lossy stores on (.group target state) giver
    · exact still asker plugin feature onAfter
    · exact (Book.write_spares on written onAfter (effect_spares means apart)).symm

theorem disputed_contained :
    let store := Shelf.store.planned fun _ => none
    let running : Running (Nat × Shelf) := ⟨⟨some { store }⟩, (0, disputed.shelf)⟩
    let shut := (Service.mutate (.updateGroup "p" "f" "g" .deny) running).2.world.2
    Conforms disputed.shelf ∧ shut ≠ disputed.shelf ∧
      (Resolution.decide Shelf.store (.group "u" "g" .owner) "p" "f" shut).1 =
        .failed (.validation (.permissionNumber 2)) ∧
      (Resolution.decide Shelf.store (.group "v" "h" .member) "p" "f" shut).1 = .done true ∧
      (Resolution.decide Shelf.store (.alone "v") "p" "f" shut).1 = .done true ∧
      (Resolution.decide Shelf.store (.group "v" "g" .member) "p" "f" shut).1 = .done false := by
  intro store running shut
  have conforms := conforms_exact.mpr ⟨disputed, disputed.shelf_on⟩
  have stores : ∀ ledger, running.service.ledger = some ledger → ledger.store = store := by
    intro ledger is
    cases is
    rfl
  have contained := (changes_contained (fun _ => none) stores conforms).1 (.updateGroup "p" "f" "g" .deny)
  refine ⟨conforms, by decide, ?_, ?_, ?_, rfl⟩
  · exact (contained (.group "u" "g" .owner) "p" "f" (by simp [Mutation.Touches])).trans rfl
  · exact (contained (.group "v" "h" .member) "p" "f" (by simp [Mutation.Touches])).trans rfl
  · exact (contained (.alone "v") "p" "f" (by simp [Mutation.Touches])).trans rfl

end FeatureGate
