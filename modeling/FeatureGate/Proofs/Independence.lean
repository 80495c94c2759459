import FeatureGate.Proofs.Book
import FeatureGate.Proofs.Fleet
import FeatureGate.Resolution
import FeatureGate.Table.Interruption

namespace FeatureGate
open Table Registry FeatureGate.Action

namespace Action
variable {alike : σ → τ → Prop}

-- From worlds that are alike both come to the same end, be it an answer, an error
-- or a death, and the worlds are alike again.
def Matches (alike : σ → τ → Prop) (one : Action σ ε α) (other : Action τ ε α) : Prop :=
  ∀ s t, alike s t → (one s).1 = (other t).1 ∧ alike (one s).2 (other t).2

def Only (here : σ) (there : τ) (s : σ) (t : τ) : Prop := s = here ∧ t = there

theorem Only.start {here : σ} {there : τ} : Only here there here there := ⟨rfl, rfl⟩

theorem Matches.mapError {one : Action σ ε α} {other : Action τ ε α} (same : Matches alike one other) (f : ε → δ) :
    Matches alike (one.mapError f) (other.mapError f) := by
  intro s t start
  obtain ⟨ends, still⟩ := same s t start
  exact ⟨congrArg (Outcome.mapError f) ends, still⟩

theorem Matches.settle {one : Action σ ε α} {other : Action τ ε α} (same : Matches alike one other)
    (f : α → Outcome ε β) :
    Matches alike (one >>= fun answer => Action.ofOutcome (f answer))
      (other >>= fun answer => Action.ofOutcome (f answer)) := by
  intro s t start
  obtain ⟨ends, still⟩ := same s t start
  rw [bind_apply, bind_apply]
  cases here : one s with
  | mk outcome s' =>
      cases there : other t with
      | mk outcome' t' =>
          rw [here, there] at ends still
          cases ends
          cases outcome with
          | done answer => exact ⟨rfl, still⟩
          | failed error => exact ⟨rfl, still⟩
          | aborted => exact ⟨rfl, still⟩

theorem Matches.bind_same {first : Action σ ε α} {first' : Action τ ε α} {next : α → Action σ ε β}
    {next' : α → Action τ ε β} (same : Matches alike first first') (start : alike s t)
    (rest : ∀ answer s' t', first s = (.done answer, s') → alike s' t' → (next answer s').1 = (next' answer t').1) :
    ((first >>= next) s).1 = ((first' >>= next') t).1 := by
  obtain ⟨ends, still⟩ := same s t start
  rw [bind_apply, bind_apply]
  cases here : first s with
  | mk outcome s' =>
      cases there : first' t with
      | mk outcome' t' =>
          rw [here, there] at ends still
          cases ends
          cases outcome with
          | done answer => exact rest answer s' t' here still
          | failed error => rfl
          | aborted => rfl

end Action

def Actor.switch : Actor → Defaults → Permission
  | .group .., defaults => defaults.group
  | .alone _, defaults => defaults.user

def Table.Store.AnswersAlike (alike : σ → τ → Prop) (one : Store σ) (other : Store τ) (look : String × Row) : Prop :=
  Matches alike (one.select look.1 look.2) (other.select look.1 look.2)

namespace Resolution

def overrideLooks (plugin feature : String) : Actor → List (String × Row)
  | .group user group .member => [(groups, groupKey plugin feature group), (users, userKey plugin feature user)]
  | .group user _ _ | .alone user => [(users, userKey plugin feature user)]

def looks (actor : Actor) (plugin feature : String) : List (String × Row) :=
  (superusers, superuserKey actor.user) :: (features, featureKey plugin feature) :: overrideLooks plugin feature actor

section Looks
variable {one : Store σ} {other : Store τ} {alike : σ → τ → Prop} {plugin feature : String}

theorem rowsOf_matches {table : String} {key : Row} (agree : one.AnswersAlike alike other (table, key)) :
    Matches alike (rowsOf one table key) (rowsOf other table key) := Matches.mapError agree _

theorem isSuperuser_matches (agree : one.AnswersAlike alike other (superusers, superuserKey user)) :
    Matches alike (isSuperuser one user) (isSuperuser other user) := (rowsOf_matches agree).settle _

theorem defaults?_matches (agree : one.AnswersAlike alike other (features, featureKey plugin feature)) :
    Matches alike (defaults? one plugin feature) (defaults? other plugin feature) := (rowsOf_matches agree).settle _

theorem state?_matches {table : String} {key : Row} (agree : one.AnswersAlike alike other (table, key)) :
    Matches alike (state? one table key) (state? other table key) := (rowsOf_matches agree).settle _

theorem groupGate_matches {user group : String} {role : Role}
    (agree : ∀ look ∈ overrideLooks plugin feature (.group user group role), one.AnswersAlike alike other look)
    (defaults : Defaults) :
    Matches alike (groupGate one plugin feature defaults group role)
      (groupGate other plugin feature defaults group role) := by
  cases role with
  | member => exact (state?_matches (agree _ List.mem_cons_self)).settle _
  | admin => exact fun _ _ start => ⟨rfl, start⟩
  | owner => exact fun _ _ start => ⟨rfl, start⟩

theorem users_look (actor : Actor) : (users, userKey plugin feature actor.user) ∈ overrideLooks plugin feature actor := by
  cases actor with
  | alone user => exact List.mem_singleton_self _
  | group user group role => cases role <;> simp [overrideLooks, Actor.user]

theorem groupDecision_same {user group : String} {role : Role} (start : alike s t) (defaults : Defaults)
    (agree : defaults.group = .allow → ∀ look ∈ overrideLooks plugin feature (.group user group role),
      one.AnswersAlike alike other look) :
    (groupDecision one plugin feature defaults user group role s).1 =
      (groupDecision other plugin feature defaults user group role t).1 := by
  unfold groupDecision
  cases switch : defaults.group with
  | deny => rfl
  | allow =>
      have reads := agree switch
      refine Matches.bind_same (groupGate_matches reads defaults) start fun groupState s' t' _ still => ?_
      exact ((state?_matches (reads _ (users_look (.group user group role)))).settle _ s' t' still).1

theorem privateDecision_same {user : String} (start : alike s t) (defaults : Defaults)
    (agree : defaults.user = .allow → ∀ look ∈ overrideLooks plugin feature (.alone user),
      one.AnswersAlike alike other look) :
    (privateDecision one plugin feature defaults user s).1 = (privateDecision other plugin feature defaults user t).1 := by
  unfold privateDecision
  cases switch : defaults.user with
  | deny => rfl
  | allow => exact ((state?_matches (agree switch _ (users_look (.alone user)))).settle _ s t start).1

-- Each selection has to be answered alike only where the earlier ones lead to it.
theorem decide_same (start : alike s t) (actor : Actor)
    (standing : one.AnswersAlike alike other (superusers, superuserKey actor.user))
    (registered : (isSuperuser one actor.user s).1 = .done false →
      one.AnswersAlike alike other (features, featureKey plugin feature))
    (overridden : ∀ defaults, (isSuperuser one actor.user s).1 = .done false →
      (defaults? one plugin feature (isSuperuser one actor.user s).2).1 = .done (some defaults) →
      actor.switch defaults = .allow →
      ∀ look ∈ overrideLooks plugin feature actor, one.AnswersAlike alike other look) :
    (decide one actor plugin feature s).1 = (decide other actor plugin feature t).1 := by
  unfold decide
  cases named : emptyKey plugin feature with
  | some invalid => rfl
  | none =>
      refine Matches.bind_same (fun _ _ start => ⟨rfl, start⟩) start fun _ s t done start => ?_
      cases done
      refine Matches.bind_same (isSuperuser_matches standing) start fun standing s' t' plain still => ?_
      rw [plain] at registered overridden
      cases standing with
      | true => rfl
      | false =>
          refine Matches.bind_same (defaults?_matches (registered rfl)) still fun found s'' t'' known still => ?_
          rw [known] at overridden
          cases found with
          | none => rfl
          | some defaults => cases actor with
              | group user group role => exact groupDecision_same still defaults (overridden defaults rfl rfl)
              | alone user => exact privateDecision_same still defaults (overridden defaults rfl rfl)

theorem overrideLooks_outside {actor : Actor} (outside : ∀ user group, actor ≠ .group user group .member) :
    overrideLooks plugin feature actor = [(users, userKey plugin feature actor.user)] := by
  cases actor with
  | alone user => rfl
  | group user group role => cases role with
      | member => exact (outside user group rfl).elim
      | admin => rfl
      | owner => rfl

theorem looks_apart {actor : Actor} (outside : ∀ user group, actor ≠ .group user group .member)
    (member : look ∈ looks actor plugin feature) : look.1 ≠ groups := by
  rw [looks, overrideLooks_outside outside] at member
  simp only [List.mem_cons, List.not_mem_nil, or_false] at member
  rcases member with rfl | rfl | rfl
  · exact (by decide : superusers ≠ groups)
  · exact (by decide : features ≠ groups)
  · exact (by decide : users ≠ groups)

end Looks

-- A decision comes to the same on any two stores that answer these few selections
-- alike, whatever else they hold and whatever else of them cannot be read. A
-- superuser makes all but the first of them pointless, and a shut switch or a
-- missing registration those of the overrides.
theorem decision_confined {one : Store σ} {other : Store τ} {alike : σ → τ → Prop} (start : alike s t) (actor : Actor)
    (plugin feature : String) :
    let agree := fun look => one.AnswersAlike alike other look
    let standing := (superusers, superuserKey actor.user)
    let registered := (features, featureKey plugin feature)
    let same := (decide one actor plugin feature s).1 = (decide other actor plugin feature t).1
    ((∀ look ∈ looks actor plugin feature, agree look) → same) ∧
      (agree standing → (isSuperuser one actor.user s).1 = .done true → same) ∧
      (agree standing → agree registered →
        (∀ defaults, (defaults? one plugin feature (isSuperuser one actor.user s).2).1 = .done (some defaults) →
          actor.switch defaults = .deny) → same) ∧
      ((∀ user group, actor ≠ .group user group .member) →
        (∀ table key, table ≠ groups → agree (table, key)) → same) := by
  intro agree standing registered same
  have all (reads : ∀ look ∈ looks actor plugin feature, agree look) : same := by
    refine decide_same start actor (reads _ List.mem_cons_self) ?_ ?_
    · exact fun _ => reads _ (List.mem_cons_of_mem _ List.mem_cons_self)
    · intro defaults _ _ _ look member
      exact reads look (List.mem_cons_of_mem _ (List.mem_cons_of_mem _ member))
  refine ⟨all, ?_, ?_, ?_⟩
  · intro first shown
    refine decide_same start actor first ?_ ?_
    · exact fun plain => by rw [shown] at plain; cases plain
    · exact fun _ plain => by rw [shown] at plain; cases plain
  · intro first second shut
    refine decide_same start actor first (fun _ => second) ?_
    intro defaults _ known open_
    rw [shut defaults known] at open_
    cases open_
  · intro outside reads
    exact all fun look member => reads look.1 look.2 (looks_apart outside member)

end Resolution

open Resolution

def tidy : Book where
  features := ⟨[⟨1, ("p", "f"), ⟨0, 1, 1⟩⟩, ⟨2, ("p", "g"), ⟨1, 0, 1⟩⟩], 3⟩
  users := ⟨[⟨1, ("p", "f", "u"), 1⟩], 2⟩
  superusers := ⟨[⟨1, "root", ()⟩], 2⟩

def marred : Book := { tidy with groups := ⟨[⟨1, ("p", "f", "g"), 7⟩], 2⟩ }

def lethal : Store Shelf := Shelf.store.interrupted fun _ => Interruption.fate [⟨.select, some groups, .abort⟩]

theorem lethal_alike (apart : table ≠ groups) (key : Row) :
    Shelf.store.AnswersAlike (Only tidy.shelf marred.shelf) lethal (table, key) := by
  intro s t start
  obtain ⟨rfl, rfl⟩ := start
  have sheets : marred.shelf.sheets.get? table = tidy.shelf.sheets.get? table := by
    simp [marred, Book.shelf, Form.lay, apart, show groupForm.table = groups from rfl]
  have passed : lethal.select table key marred.shelf = Shelf.store.select table key marred.shelf := by
    simp [lethal, Store.interrupted, Store.interrupted.guarded, Interruption.fate, Interruption.concerns, apart.symm]
  have same : (Shelf.store.select table key tidy.shelf).1 = (Shelf.store.select table key marred.shelf).1 := by
    simp only [Shelf.store, Shelf.select, Shelf.onSheet, sheets]
    repeat' split
    all_goals rfl
  rw [passed]
  exact ⟨same, Shelf.select_quiet table key _, Shelf.select_quiet table key _⟩

theorem lethal_unnoticed :
    (decide lethal (.group "u" "g" .owner) "p" "f" marred.shelf).1 = .done false ∧
      (decide lethal (.group "root" "g" .member) "p" "f" marred.shelf).1 = .done true ∧
      (decide lethal (.group "u" "g" .member) "p" "g" marred.shelf).1 = .done false ∧
      (decide lethal (.alone "u") "p" "f" marred.shelf).1 = .done true ∧
      (decide lethal (.group "u" "g" .member) "p" "f" marred.shelf).1 = .aborted := by
  have confined (actor : Actor) (plugin feature : String) :=
    @decision_confined _ _ _ _ Shelf.store lethal (Only tidy.shelf marred.shelf) Only.start actor plugin feature
  have standing (user : String) := lethal_alike (by decide : superusers ≠ groups) (superuserKey user)
  have registered := lethal_alike (by decide : features ≠ groups) (featureKey "p" "g")
  refine ⟨?_, ?_, ?_, ?_, rfl⟩
  · exact ((confined (.group "u" "g" .owner) "p" "f").2.2.2 (by simp) fun _ key apart => lethal_alike apart key).symm
  · exact ((confined (.group "root" "g" .member) "p" "f").2.1 (standing "root") rfl).symm
  · refine ((confined (.group "u" "g" .member) "p" "g").2.2.1 (standing "u") registered ?_).symm
    intro defaults known
    cases known
    rfl
  · exact ((confined (.alone "u") "p" "f").2.2.2 (by simp) fun _ key apart => lethal_alike apart key).symm

end FeatureGate
