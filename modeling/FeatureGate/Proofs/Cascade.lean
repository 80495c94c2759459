import FeatureGate.Proofs.Conformity
import FeatureGate.Resolution

namespace FeatureGate

theorem Permission.isAllowed_exact (state : Permission) : state.isAllowed = decide (state = .allow) := by
  cases state <;> rfl

namespace Registry
open Table

namespace Book

def groupGate (book : Book) (plugin feature group : String) (defaults : Defaults) :
    Role → Except Invalid Permission
  | .admin | .owner => .ok defaults.admin
  | .member => do return (← book.groups.permission? (plugin, feature, group)).getD defaults.group

-- In a group both gates must be open, and both are looked at before anything is
-- decided: a number that is no permission is noticed behind a shut gate too.
def groupVerdict (book : Book) (plugin feature user group : String) (role : Role) (defaults : Defaults) :
    Except Invalid Bool :=
  if defaults.group = .deny then .ok false
  else do
    let groupState ← book.groupGate plugin feature group defaults role
    let userState := (← book.users.permission? (plugin, feature, user)).getD defaults.user
    return groupState = .allow && userState = .allow

def privateVerdict (book : Book) (plugin feature user : String) (defaults : Defaults) : Except Invalid Bool :=
  if defaults.user = .deny then .ok false
  else do return (← book.users.permission? (plugin, feature, user)).getD .allow = .allow

def verdict (book : Book) (actor : Actor) (plugin feature : String) : Except Invalid Bool :=
  if plugin = "" then .error (.empty .pluginName)
  else if feature = "" then .error (.empty .featureName)
  else if actor.user ∈ book.superusers.keys then .ok true
  else do
    match ← book.features.defaults? plugin feature with
    | none => return false
    | some defaults => match actor with
        | .group user group role => book.groupVerdict plugin feature user group role defaults
        | .alone user => book.privateVerdict plugin feature user defaults

end Book

def Reads (s : σ) (action : Action σ Error α) (result : Except Invalid α) : Prop :=
  action s = (.ofExcept (result.mapError .validation), s)

theorem Reads.bind {first : Action σ Error α} {next : α → Action σ Error β} {after : α → Except Invalid β}
    (reads : Reads s first result) (goesOn : ∀ answer, Reads s (next answer) (after answer)) :
    Reads s (first >>= next) (result >>= after) := by
  cases result with
  | error invalid => exact Action.bind_failed reads
  | ok answer => exact (Action.bind_done reads).trans (goesOn answer)

theorem Reads.pure (answer : α) (s : σ) : Reads s (Pure.pure answer) (.ok answer) := rfl

namespace Book
variable {book : Book} {shelf : Shelf}

theorem groupGate_on (on : book.On shelf) (plugin feature group : String) (defaults : Defaults) (role : Role) :
    Reads shelf (Resolution.groupGate Shelf.store plugin feature defaults group role)
      (book.groupGate plugin feature group defaults role) := by
  cases role with
  | admin => exact Reads.pure _ _
  | owner => exact Reads.pure _ _
  | member => exact Reads.bind (groupOverride?_on on.groups plugin feature group) fun held => Reads.pure _ _

theorem groupDecision_on (on : book.On shelf) (plugin feature user group : String) (role : Role)
    (defaults : Defaults) :
    Reads shelf (Resolution.groupDecision Shelf.store plugin feature defaults user group role)
      (book.groupVerdict plugin feature user group role defaults) := by
  unfold Resolution.groupDecision groupVerdict
  cases switch : defaults.group with
  | deny => exact Reads.pure _ _
  | allow =>
      refine Reads.bind (groupGate_on on plugin feature group defaults role) fun groupState => ?_
      refine Reads.bind (userOverride?_on on.users plugin feature user) fun held => ?_
      simp only [Permission.isAllowed_exact]
      exact Reads.pure _ _

theorem privateDecision_on (on : book.On shelf) (plugin feature user : String) (defaults : Defaults) :
    Reads shelf (Resolution.privateDecision Shelf.store plugin feature defaults user)
      (book.privateVerdict plugin feature user defaults) := by
  unfold Resolution.privateDecision privateVerdict
  cases switch : defaults.user with
  | deny => exact Reads.pure _ _
  | allow =>
      refine Reads.bind (userOverride?_on on.users plugin feature user) fun held => ?_
      simp only [Permission.isAllowed_exact]
      exact Reads.pure _ _

theorem emptyKey_exact (plugin feature : String) :
    emptyKey plugin feature =
      if plugin = "" then some (.empty .pluginName)
      else if feature = "" then some (.empty .featureName) else none := by
  by_cases noPlugin : plugin = "" <;> by_cases noFeature : feature = "" <;>
    simp [emptyKey, emptyName, noPlugin, noFeature]

theorem decide_on (on : book.On shelf) (actor : Actor) (plugin feature : String) :
    Reads shelf (Resolution.decide Shelf.store actor plugin feature) (book.verdict actor plugin feature) := by
  unfold Resolution.decide verdict
  rw [emptyKey_exact]
  by_cases noPlugin : plugin = ""
  · rw [if_pos noPlugin, if_pos noPlugin]
    rfl
  · by_cases noFeature : feature = ""
    · rw [if_neg noPlugin, if_neg noPlugin, if_pos noFeature, if_pos noFeature]
      rfl
    · rw [if_neg noPlugin, if_neg noPlugin, if_neg noFeature, if_neg noFeature]
      refine (Action.bind_done (isSuperuser_on on.superusers actor.user)).trans ?_
      by_cases standing : actor.user ∈ book.superusers.keys
      · simp only [standing, decide_true, if_true]
        rfl
      · simp only [standing, decide_false, Bool.false_eq_true, if_false]
        refine Reads.bind (defaults?_on on.features plugin feature) fun registered => ?_
        cases registered with
        | none => exact Reads.pure _ _
        | some defaults => cases actor with
            | group user group role => exact groupDecision_on on plugin feature user group role defaults
            | alone user => exact privateDecision_on on plugin feature user defaults

end Book

-- For all conforming contents the decision is the verdict on them, errors
-- included, and no table is touched.
theorem decide_cascade (conforms : Conforms shelf) :
    (∃ book : Book, book.On shelf) ∧ ∀ book : Book, book.On shelf → ∀ actor plugin feature,
      Resolution.decide Shelf.store actor plugin feature shelf =
        (.ofExcept ((book.verdict actor plugin feature).mapError .validation), shelf) := by
  refine ⟨conforms_exact.mp conforms, ?_⟩
  intro book on actor plugin feature
  exact Book.decide_on on actor plugin feature

def disputed : Book where
  features := ⟨[⟨1, ("p", "f"), ⟨0, 1, 1⟩⟩, ⟨2, ("p", "f"), ⟨1, 9, 1⟩⟩], 3⟩
  users := ⟨[⟨1, ("p", "f", "u"), 2⟩], 2⟩

theorem decide_disputed : Conforms disputed.shelf ∧
    Resolution.decide Shelf.store (.group "u" "g" .owner) "p" "f" disputed.shelf =
      (.failed (.validation (.permissionNumber 2)), disputed.shelf) ∧
    Resolution.decide Shelf.store (.group "v" "g" .member) "p" "f" disputed.shelf =
      (.done true, disputed.shelf) := by
  have conforms := conforms_exact.mpr ⟨disputed, disputed.shelf_on⟩
  have decided := (decide_cascade conforms).2 disputed disputed.shelf_on
  exact ⟨conforms, (decided _ _ _).trans rfl, (decided _ _ _).trans rfl⟩

end Registry
end FeatureGate
