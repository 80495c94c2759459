import FeatureGate.Proofs.Book
import FeatureGate.Proofs.Fleet

namespace FeatureGate
namespace Registry
open Table FeatureGate.Action

def IsState (number : Int) : Prop := number = 0 ∨ number = 1

theorem toInteger_isState (state : Permission) : IsState state.toInteger := by
  cases state <;> simp [IsState, Permission.toInteger]

theorem ofInteger_isState (known : IsState number) : ∃ state, Permission.ofInteger number = .ok state := by
  rcases known with deny | allow
  · exact ⟨.deny, by rw [deny]; rfl⟩
  · exact ⟨.allow, by rw [allow]; rfl⟩

namespace Marks

structure Legal (marks : Marks) : Prop where
  admin : IsState marks.admin
  group : IsState marks.group
  user : IsState marks.user

theorem of_legal (defaults : Defaults) : (of defaults).Legal :=
  ⟨toInteger_isState _, toInteger_isState _, toInteger_isState _⟩

theorem read_legal {marks : Marks} (legal : marks.Legal) : ∃ defaults, marks.read = .ok defaults := by
  obtain ⟨admin, one⟩ := ofInteger_isState legal.admin
  obtain ⟨group, two⟩ := ofInteger_isState legal.group
  obtain ⟨user, three⟩ := ofInteger_isState legal.user
  exact ⟨⟨admin, group, user⟩, by rw [read, one, two, three]; rfl⟩

end Marks

def Form.Sound [DecidableEq κ] (form : Form κ ν) (fair : κ → Prop) (legal : ν → Prop) (shelf : Shelf) : Prop :=
  shelf.sheets.get? form.table = none ∨ ∃ page, form.On page shelf ∧ page.Sound fair legal

theorem Form.Sound.elsewhere [DecidableEq κ] [DecidableEq ι] {form : Form κ ν} {fair : κ → Prop}
    {legal : ν → Prop} {other : Form ι μ} (sound : form.Sound fair legal shelf)
    (apart : form.table ≠ other.table) (page : Page ι μ) : form.Sound fair legal (other.lay page shelf) := by
  have same := Form.lay_other apart page shelf
  rcases sound with absent | ⟨held, on, fine⟩
  · exact .inl (same.trans absent)
  · exact .inr ⟨held, same.trans on, fine⟩

theorem Form.Sound.laid [DecidableEq κ] {form : Form κ ν} {fair : κ → Prop} {legal : ν → Prop} {page : Page κ ν}
    (sound : page.Sound fair legal) (shelf : Shelf) : form.Sound fair legal (form.lay page shelf) :=
  .inr ⟨page, Form.lay_on _ _ _, sound⟩

def Named (key : String × String) : Prop := key.1 ≠ "" ∧ key.2 ≠ ""

def NamedFor (key : String × String × String) : Prop := key.1 ≠ "" ∧ key.2.1 ≠ "" ∧ key.2.2 ≠ ""

-- What the registry itself leaves behind, in each table: no key twice, no empty
-- name, no number but zero and one, and rows numbered upwards below the next one.
structure Kept (shelf : Shelf) : Prop where
  features : featureForm.Sound Named Marks.Legal shelf
  groups : groupForm.Sound NamedFor IsState shelf
  users : userForm.Sound NamedFor IsState shelf
  superusers : superuserForm.Sound (· ≠ "") (fun _ => True) shelf

namespace Kept
variable {shelf : Shelf}

theorem empty : Kept Shelf.empty := ⟨.inl rfl, .inl rfl, .inl rfl, .inl rfl⟩

theorem lay_features (kept : Kept shelf) (sound : page.Sound Named Marks.Legal) :
    Kept (featureForm.lay page shelf) :=
  ⟨.laid sound shelf, kept.groups.elsewhere (by decide) page, kept.users.elsewhere (by decide) page,
    kept.superusers.elsewhere (by decide) page⟩

theorem lay_groups (kept : Kept shelf) (sound : page.Sound NamedFor IsState) :
    Kept (groupForm.lay page shelf) :=
  ⟨kept.features.elsewhere (by decide) page, .laid sound shelf, kept.users.elsewhere (by decide) page,
    kept.superusers.elsewhere (by decide) page⟩

theorem lay_users (kept : Kept shelf) (sound : page.Sound NamedFor IsState) :
    Kept (userForm.lay page shelf) :=
  ⟨kept.features.elsewhere (by decide) page, kept.groups.elsewhere (by decide) page, .laid sound shelf,
    kept.superusers.elsewhere (by decide) page⟩

theorem lay_superusers (kept : Kept shelf) (sound : page.Sound (· ≠ "") fun _ => True) :
    Kept (superuserForm.lay page shelf) :=
  ⟨kept.features.elsewhere (by decide) page, kept.groups.elsewhere (by decide) page,
    kept.users.elsewhere (by decide) page, .laid sound shelf⟩

end Kept

theorem rowsOf_absent (absent : shelf.sheets.get? table = none) (key : Row) :
    rowsOf Shelf.store table key shelf = (.failed (.store (.unknownTable table)), shelf) := by
  simp [rowsOf, Action.mapError, Shelf.store, Shelf.select, Shelf.onSheet, absent, Outcome.mapError]

namespace Mutation

def table : Mutation → String
  | setSuperuser _ | removeSuperuser _ => Registry.superusers
  | updateFeature .. => Registry.features
  | updateGroup .. => Registry.groups
  | updateUser .. => Registry.users

theorem apply_absent (mutation : Mutation) (absent : shelf.sheets.get? mutation.table = none) :
    mutation.apply Shelf.store shelf = (.failed (.store (.unknownTable mutation.table)), shelf) := by
  cases mutation with
  | setSuperuser user => exact bind_failed (rowsOf_absent absent _)
  | removeSuperuser user => exact bind_failed (rowsOf_absent absent _)
  | updateFeature plugin feature update => exact bind_failed (bind_failed (rowsOf_absent absent _))
  | updateGroup plugin feature group state => exact bind_failed (rowsOf_absent absent _)
  | updateUser plugin feature user state => exact bind_failed (rowsOf_absent absent _)

end Mutation

theorem emptyName_none {subject : Subject} : emptyName subject name = none ↔ name ≠ "" := by
  simp [emptyName]

theorem emptyKey_none : emptyKey plugin feature = none ↔ Named (plugin, feature) := by
  simp [emptyKey, emptyName_none, Named]

theorem createTables_kept (member : declared ∈ tables) :
    Keeps Kept (Shelf.store.createTable declared.1 declared.2) := by
  intro shelf kept
  simp only [tables, List.mem_cons, List.not_mem_nil, or_false] at member
  rcases member with rfl | rfl | rfl | rfl
  · rcases featureForm.createTable_on shelf with same | laid
    · exact (congrArg Kept same).mpr kept
    · exact (congrArg Kept laid).mpr (kept.lay_features Page.empty_sound)
  · rcases groupForm.createTable_on shelf with same | laid
    · exact (congrArg Kept same).mpr kept
    · exact (congrArg Kept laid).mpr (kept.lay_groups Page.empty_sound)
  · rcases userForm.createTable_on shelf with same | laid
    · exact (congrArg Kept same).mpr kept
    · exact (congrArg Kept laid).mpr (kept.lay_users Page.empty_sound)
  · rcases superuserForm.createTable_on shelf with same | laid
    · exact (congrArg Kept same).mpr kept
    · exact (congrArg Kept laid).mpr (kept.lay_superusers Page.empty_sound)

section Legal
variable {page : Page (String × String) Marks}

theorem defaults?_legal (sound : page.Sound fair Marks.Legal) (plugin feature : String) :
    ∃ base, page.defaults? plugin feature = .ok base := by
  unfold Page.defaults?
  cases found : page.first? (plugin, feature) with
  | none => exact ⟨none, rfl⟩
  | some marks =>
      obtain ⟨defaults, read⟩ := Marks.read_legal (Page.first?_legal sound found)
      exact ⟨some defaults, congrArg (Except.map some) read⟩

theorem entries_legal (sound : page.Sound fair Marks.Legal) : ∃ entries, page.entries = .ok entries := by
  have reads : ∀ line ∈ page.lines, line.value.read = .ok (line.value.read.toOption.getD {}) := by
    intro line there
    obtain ⟨defaults, read⟩ := Marks.read_legal (sound.legal line there)
    rw [read]
    rfl
  exact ⟨_, Page.entries_ok reads⟩

theorem permission?_legal [DecidableEq κ] {page : Page κ Int} (sound : page.Sound fair IsState) (key : κ) :
    ∃ held, page.permission? key = .ok held := by
  unfold Page.permission?
  cases found : page.first? key with
  | none => exact ⟨none, rfl⟩
  | some number =>
      obtain ⟨state, read⟩ := ofInteger_isState (Page.first?_legal sound found)
      exact ⟨some state, congrArg (Except.map some) read⟩

end Legal

theorem apply_kept (mutation : Mutation) (right : mutation.invalid = none) :
    Keeps Kept (mutation.apply Shelf.store) := by
  intro shelf kept
  cases mutation with
  | setSuperuser user =>
      rcases kept.superusers with absent | ⟨page, on, sound⟩
      · rw [Mutation.apply_absent _ absent]; exact kept
      · rw [setSuperuser_on on]
        exact kept.lay_superusers (Page.write_sound sound (emptyName_none.mp right) trivial)
  | removeSuperuser user =>
      rcases kept.superusers with absent | ⟨page, on, sound⟩
      · rw [Mutation.apply_absent _ absent]; exact kept
      · rw [removeSuperuser_on on]
        exact kept.lay_superusers (Page.strike_sound sound)
  | updateFeature plugin feature update =>
      rcases kept.features with absent | ⟨page, on, sound⟩
      · rw [Mutation.apply_absent _ absent]; exact kept
      · obtain ⟨base, held⟩ := defaults?_legal sound plugin feature
        rw [updateFeature_done on held]
        exact kept.lay_features (Page.write_sound sound (emptyKey_none.mp right) (Marks.of_legal _))
  | updateGroup plugin feature group state =>
      have named : Named (plugin, feature) ∧ group ≠ "" := by
        simpa [Mutation.invalid, emptyKey_none, emptyName_none] using right
      rcases kept.groups with absent | ⟨page, on, sound⟩
      · rw [Mutation.apply_absent _ absent]; exact kept
      · rw [updateGroup_on on]
        exact kept.lay_groups
          (Page.write_sound sound ⟨named.1.1, named.1.2, named.2⟩ (toInteger_isState state))
  | updateUser plugin feature user state =>
      have named : Named (plugin, feature) ∧ user ≠ "" := by
        simpa [Mutation.invalid, emptyKey_none, emptyName_none] using right
      rcases kept.users with absent | ⟨page, on, sound⟩
      · rw [Mutation.apply_absent _ absent]; exact kept
      · rw [updateUser_on on]
        exact kept.lay_users
          (Page.write_sound sound ⟨named.1.1, named.1.2, named.2⟩ (toInteger_isState state))

theorem kept_stable : Stable Shelf.store Kept :=
  ⟨fun _ => createTables_kept, fun mutation right _ => apply_kept mutation right⟩

end Registry

def Outcome.Innocent : Outcome Error α → Prop
  | .failed error => error = .uninitialized ∨ error.FromStore
  | _ => True

namespace Registry
open Table FeatureGate.Action

def Candid (shelf : Shelf) (action : Action Shelf Error α) : Prop :=
  (action shelf).1.Innocent ∧ (action shelf).2 = shelf

section Candid
variable {shelf : Shelf}

theorem Candid.pure (answer : α) : Candid shelf (Pure.pure answer) := ⟨trivial, rfl⟩

theorem Candid.bind {first : Action Shelf Error α} {next : α → Action Shelf Error β} (candid : Candid shelf first)
    (rest : ∀ answer, Candid shelf (next answer)) : Candid shelf (first >>= next) := by
  obtain ⟨innocent, still⟩ := candid
  unfold Candid
  rw [bind_apply]
  cases ended : first shelf with
  | mk outcome after =>
      rw [ended] at innocent still
      cases still
      cases outcome with
      | done answer => exact rest answer
      | failed error => exact ⟨innocent, rfl⟩
      | aborted => exact ⟨trivial, rfl⟩

theorem Candid.choose {c : Prop} [Decidable c] {yes no : Action Shelf Error α} (one : Candid shelf yes)
    (other : Candid shelf no) : Candid shelf (if c then yes else no) := by
  by_cases holds : c <;> simpa [holds]

theorem Candid.absent (absent : shelf.sheets.get? table = none) (key : Row)
    (next : List Row → Action Shelf Error α) : Candid shelf (rowsOf Shelf.store table key >>= next) := by
  unfold Candid
  rw [bind_failed (rowsOf_absent absent key)]
  exact ⟨.inr trivial, rfl⟩

theorem Candid.answered {action : Action Shelf Error α} (read : action shelf = (.done answer, shelf)) :
    Candid shelf action := by
  unfold Candid
  rw [read]
  exact ⟨trivial, rfl⟩

theorem Candid.understood {action : Action Shelf Error α} {result : Except Invalid α}
    (read : action shelf = (.ofExcept (result.mapError .validation), shelf)) (fine : ∃ answer, result = .ok answer) :
    Candid shelf action := by
  obtain ⟨answer, rfl⟩ := fine
  exact Candid.answered read

variable (kept : Kept shelf)
include kept

theorem isSuperuser_candid (user : String) : Candid shelf (isSuperuser Shelf.store user) := by
  rcases kept.superusers with absent | ⟨page, on, _⟩
  · exact Candid.absent absent _ _
  · exact Candid.answered (isSuperuser_on on user)

theorem allSuperusers_candid : Candid shelf (allSuperusers Shelf.store) := by
  rcases kept.superusers with absent | ⟨page, on, _⟩
  · exact Candid.absent absent _ _
  · exact Candid.answered (allSuperusers_on on)

theorem defaults?_candid (plugin feature : String) : Candid shelf (defaults? Shelf.store plugin feature) := by
  rcases kept.features with absent | ⟨page, on, sound⟩
  · exact Candid.absent absent _ _
  · exact Candid.understood (defaults?_on on plugin feature) (defaults?_legal sound plugin feature)

theorem allFeatures_candid : Candid shelf (allFeatures Shelf.store) := by
  rcases kept.features with absent | ⟨page, on, sound⟩
  · exact Candid.absent absent _ _
  · exact Candid.understood (allFeatures_on on) (entries_legal sound)

omit kept in
theorem override?_candid {table column : String} {named : (overrideLayout column).nameFault table = none} {apart : Apart column}
    (sound : (overrideForm table column named apart).Sound NamedFor IsState shelf) (k : String × String × String) :
    Candid shelf (state? Shelf.store table (overrideKey column k)) := by
  rcases sound with absent | ⟨page, on, sound⟩
  · exact Candid.absent absent _ _
  · have states : ∀ line, permissionOf ((overrideForm table column named apart).row line) "state" =
        Permission.ofInteger line.value := fun line => by
      simp [overrideForm, permissionOf, Row.integer?, Assoc.get?, Assoc.lookup, apart.state]
    exact Candid.understood (state?_on on states k) (permission?_legal sound _)

theorem groupOverride?_candid (plugin feature group : String) :
    Candid shelf (groupOverride? Shelf.store plugin feature group) :=
  override?_candid kept.groups (plugin, feature, group)

theorem userOverride?_candid (plugin feature user : String) :
    Candid shelf (userOverride? Shelf.store plugin feature user) :=
  override?_candid kept.users (plugin, feature, user)

theorem groupGate_candid (plugin feature : String) (defaults : Defaults) (group : String) (role : Role) :
    Candid shelf (Resolution.groupGate Shelf.store plugin feature defaults group role) :=
  Candid.choose (Candid.pure _) (Candid.bind (groupOverride?_candid kept _ _ _) fun _ => Candid.pure _)

theorem groupDecision_candid (plugin feature : String) (defaults : Defaults) (user group : String) (role : Role) :
    Candid shelf (Resolution.groupDecision Shelf.store plugin feature defaults user group role) :=
  Candid.choose (Candid.pure _) (Candid.bind (groupGate_candid kept _ _ _ _ _) fun _ =>
    Candid.bind (userOverride?_candid kept _ _ _) fun _ => Candid.pure _)

theorem privateDecision_candid (plugin feature : String) (defaults : Defaults) (user : String) :
    Candid shelf (Resolution.privateDecision Shelf.store plugin feature defaults user) :=
  Candid.choose (Candid.pure _) (Candid.bind (userOverride?_candid kept _ _ _) fun _ => Candid.pure _)

theorem decide_candid (actor : Actor) (named : Named (plugin, feature)) :
    Candid shelf (Resolution.decide Shelf.store actor plugin feature) := by
  unfold Resolution.decide
  rw [emptyKey_none.mpr named]
  refine Candid.bind (Candid.pure _) fun _ => ?_
  refine Candid.bind (isSuperuser_candid kept _) fun standing => Candid.choose (Candid.pure _) ?_
  refine Candid.bind (defaults?_candid kept _ _) fun registered => ?_
  cases registered with
  | none => exact Candid.pure _
  | some defaults => cases actor with
      | group user group role => exact groupDecision_candid kept _ _ _ _ _ _
      | alone user => exact privateDecision_candid kept _ _ _ _

theorem isAdmin_candid (actor : Actor) : Candid shelf (Resolution.isAdmin Shelf.store actor) := by
  cases actor with
  | group user group role => exact Candid.choose (Candid.pure _) (isSuperuser_candid kept _)
  | alone user => exact isSuperuser_candid kept _

end Candid
end Registry

open Table Registry FeatureGate.Action

def Request.Looks : Request → Prop
  | .isInitialized | .isSuperuser _ | .superusers | .defaults .. | .groupOverride .. | .userOverride ..
  | .features | .isAdmin _ => True
  | .decide _ plugin feature => Named (plugin, feature)
  | _ => False

section Innocence
variable {store : Store τ} {clear : τ → Prop} {view : τ → Shelf} {running : Running τ}

theorem Outcome.Lost.innocent {outcome : Outcome Error α} (lost : outcome.Lost Error.FromStore) :
    outcome.Innocent := by
  cases outcome with
  | done answer => trivial
  | failed error => exact .inr lost
  | aborted => trivial

theorem Action.Observes.innocent {action : Action τ Error α} {ideal : Action Shelf Error α}
    (looks : Observes Error.FromStore clear view action ideal) (candid : Candid (view t) ideal) :
    (action t).1.Innocent := by
  rcases looks.follows t with ⟨same, _⟩ | ⟨lost, _⟩
  · rw [same]; exact candid.1
  · exact lost.innocent

theorem answer_innocent {action : Action σ Error α} (innocent : (action s).1.Innocent) (f : α → β) :
    ((action >>= fun answer => Pure.pure (f answer)) s).1.Innocent := by
  rw [answer_apply]
  cases ended : (action s).1 with
  | done answer => trivial
  | failed error => rw [ended] at innocent; exact innocent
  | aborted => trivial

theorem reading_innocent {good : τ → Prop} (sound : running.Sound store good)
    {read : Store τ → Action τ Error α} (innocent : (read store running.world).1.Innocent) :
    (Service.reading read running).1.Innocent := by
  cases holds : running.service.ledger with
  | none => rw [Service.reading_none holds]; exact .inl rfl
  | some ledger => rw [Service.reading_some holds, sound.1 ledger holds]; exact innocent

theorem handle_innocent (lossy : store.Lossy clear view Shelf.store) (sound : running.Sound store (Kept ∘ view))
    (asked : Request) (looks : asked.Looks) : (asked.handle store running).1.Innocent := by
  have kept : Kept (view running.world) := sound.2
  cases asked with
  | isInitialized => trivial
  | isSuperuser user =>
      have read := (isSuperuser_observes lossy user).innocent (isSuperuser_candid kept user)
      exact answer_innocent (reading_innocent sound read) _
  | superusers =>
      have read := (allSuperusers_observes lossy).innocent (allSuperusers_candid kept)
      exact answer_innocent (reading_innocent sound read) _
  | defaults plugin feature =>
      have read := (defaults?_observes lossy plugin feature).innocent (defaults?_candid kept plugin feature)
      exact answer_innocent (reading_innocent sound read) _
  | groupOverride plugin feature group =>
      have read := (state?_observes lossy groups (groupKey plugin feature group)).innocent
        (groupOverride?_candid kept plugin feature group)
      exact answer_innocent (reading_innocent sound read) _
  | userOverride plugin feature user =>
      have read := (state?_observes lossy users (userKey plugin feature user)).innocent
        (userOverride?_candid kept plugin feature user)
      exact answer_innocent (reading_innocent sound read) _
  | features =>
      have read := (allFeatures_observes lossy).innocent (allFeatures_candid kept)
      exact answer_innocent (reading_innocent sound read) _
  | decide actor plugin feature =>
      have read := (Resolution.decide_observes lossy actor plugin feature).innocent
        (decide_candid kept actor looks)
      exact answer_innocent (reading_innocent sound read) _
  | isAdmin actor =>
      have read := (Resolution.isAdmin_observes lossy actor).innocent (isAdmin_candid kept actor)
      exact answer_innocent (reading_innocent sound read) _
  | init superuser => exact looks.elim
  | createTables => exact looks.elim
  | mutate mutation => exact looks.elim
  | registerManagement => exact looks.elim
  | command asked actor => exact looks.elim

theorem checker_innocent {E : Type} (actorOf : E → Option Actor) (named : Named (plugin, feature)) :
    (Service.checker actorOf plugin feature running).1.Innocent := by
  unfold Service.checker
  rw [emptyKey_none.mpr named]
  cases holds : running.service.ledger with
  | none => rw [bind_failed (Service.held_none holds)]; exact .inl rfl
  | some ledger => rw [bind_done (Service.held_some holds)]; trivial

end Innocence

-- However the calls on the store fail or die, whatever is asked of whichever
-- service: the tables are as the registry keeps them, and a look at them is never
-- refused for what they hold.
theorem run_integrity {E : Type} (plan : Nat → Option (Outcome Fault Empty)) (actorOf : E → Option Actor)
    (errands : List (Nat × Errand (Nat × Shelf) E)) :
    let store := Shelf.store.planned plan
    let reached := Fleet.after store actorOf errands (Fleet.start (0, Shelf.empty))
    Kept reached.world.2 ∧
      (∀ number (asked : Request), asked.Looks →
        (Fleet.serve number (asked.handle store) reached).1.Innocent) ∧
      ∀ number plugin feature, Named (plugin, feature) →
        (Fleet.serve number (Service.checker actorOf plugin feature) reached).1.Innocent := by
  intro store reached
  have lossy : store.Lossy (Store.Silent plan) Prod.snd Shelf.store := Store.planned_lossy plan Shelf.select_quiet
  have begun : (Fleet.start (0, Shelf.empty)).Sound store (Kept ∘ Prod.snd) :=
    ⟨fun _ _ is => (nomatch is), Kept.empty⟩
  have sound : reached.Sound store (Kept ∘ Prod.snd) := after_keeps lossy kept_stable actorOf errands _ begun
  have each : ∀ number, (reached.running number).Sound store (Kept ∘ Prod.snd) :=
    fun number => ⟨sound.1 number, sound.2⟩
  exact ⟨sound.2, fun number asked looks => handle_innocent lossy (each number) asked looks,
    fun number _ _ named => checker_innocent actorOf named⟩

def strained : Nat → Option (Outcome Fault Empty)
  | 5 => some (.failed .poisoned)
  | 9 => some .aborted
  | _ => none

-- The first service is set up and then asked three times for the same override,
-- the last time to deny; then another one starts over.
def restart : List (Nat × Errand (Nat × Shelf) Actor) :=
  [(0, .request (.init none)), (0, .request (.mutate (.updateGroup "p" "f" "g" .allow))),
   (0, .request (.mutate (.updateGroup "p" "f" "g" .allow))),
   (0, .request (.mutate (.updateGroup "p" "f" "g" .deny))), (1, .request (.init (some "u")))]

theorem restart_integrity :
    let store := Shelf.store.planned strained
    let reached := Fleet.after store some restart (Fleet.start (0, Shelf.empty))
    Kept reached.world.2 ∧
      reached.world.2 = ({ groups := ⟨[⟨1, ("p", "f", "g"), 1⟩], 2⟩, superusers := ⟨[⟨1, "u", ()⟩], 2⟩ } : Book).shelf ∧
      (Fleet.serve 1 ((Request.decide (.alone "u") "p" "f").handle store) reached).1.Innocent ∧
      (Fleet.serve 2 (Service.checker (some : Actor → _) "p" "f") reached).1.Innocent := by
  have named : Named ("p", "f") := ⟨by decide, by decide⟩
  obtain ⟨kept, looks, hands⟩ := run_integrity strained some restart
  exact ⟨kept, rfl, looks 1 (.decide (.alone "u") "p" "f") named, hands 2 "p" "f" named⟩

end FeatureGate
