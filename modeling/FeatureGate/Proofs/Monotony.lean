import FeatureGate.Proofs.Radius
import Mathlib.Data.List.ReduceOption

namespace FeatureGate
open Table Registry FeatureGate.Action

def Update.supplied (update : Update) : List Permission := [update.admin, update.group, update.user].reduceOption

def Permission.Nears (state before after : Permission) : Prop := before = state → after = state

namespace Registry

def Mutation.Moves (state : Permission) : Mutation → Prop
  | setSuperuser _ => state = .allow
  | removeSuperuser _ => state = .deny
  | updateFeature _ _ update => ∀ given ∈ update.supplied, given = state
  | updateGroup _ _ _ given | updateUser _ _ _ given => given = state

-- The mutation is about to give this feature its first registration, and what it
-- leaves unset becomes a permission to all.
def Mutation.Registers (shelf : Shelf) (plugin feature : String) : Mutation → Prop
  | updateFeature plugin' feature' update => (plugin', feature') = (plugin, feature) ∧ update.isEmpty = false ∧
      (defaults? Shelf.store plugin feature shelf).1 = .done none
  | _ => False

section Gates
variable {state : Permission}

def Tends (state : Permission) (before after : Except Invalid Permission) : Prop :=
  ∀ held, before = .ok held → ∃ later, after = .ok later ∧ state.Nears held later

theorem Tends.refl (reading : Except Invalid Permission) : Tends state reading reading :=
  fun held read => ⟨held, read, id⟩

def Toward (state : Permission) (before after : Except Invalid (Option Permission)) : Prop :=
  after = before ∨ after = .ok (some state)

theorem Toward.gate {before after : Except Invalid (Option Permission)} (toward : Toward state before after)
    (fallback : state.Nears base base') :
    Tends state (before.map (·.getD base)) (after.map (·.getD base')) := by
  intro held read
  rcases toward with rfl | rfl
  · cases found : after with
    | error invalid => rw [found] at read; cases read
    | ok override =>
        rw [found] at read
        cases read
        refine ⟨_, rfl, ?_⟩
        cases override with
        | none => exact fallback
        | some given => exact id
  · exact ⟨state, rfl, fun _ => rfl⟩

def bothOpen (one other : Except Invalid Permission) : Except Invalid Bool := do
  return (← one) = .allow && (← other) = .allow

theorem bothOpen_parts (decided : bothOpen x y = .ok answer) :
    ∃ a b, x = .ok a ∧ y = .ok b ∧ answer = (a = .allow && b = .allow) := by
  cases x with
  | error invalid => cases decided
  | ok a => cases y with
      | error invalid => cases decided
      | ok b => cases decided; exact ⟨a, b, rfl, rfl, rfl⟩

theorem bothOpen_tends (one : Tends state x x') (other : Tends state y y')
    (decided : bothOpen x y = .ok state.isAllowed) : bothOpen x' y' = .ok state.isAllowed := by
  obtain ⟨a, b, first, second, both⟩ := bothOpen_parts decided
  obtain ⟨a', rfl, nearOne⟩ := one a first
  obtain ⟨b', rfl, nearOther⟩ := other b second
  refine congrArg Except.ok ?_
  cases state with
  | allow =>
      obtain ⟨isOne, isOther⟩ : a = .allow ∧ b = .allow := by simpa [Permission.isAllowed] using both
      simp [Permission.isAllowed, nearOne isOne, nearOther isOther]
  | deny =>
      have shut : a = .deny ∨ b = .deny := by cases a <;> cases b <;> simp_all [Permission.isAllowed]
      rcases shut with isOne | isOther
      · simp [Permission.isAllowed, nearOne isOne]
      · simp [Permission.isAllowed, nearOther isOther]

theorem switch_tends {switch switch' : Permission} {rest rest' : Except Invalid Bool} (near : state.Nears switch switch')
    (behind : rest = .ok state.isAllowed → rest' = .ok state.isAllowed)
    (decided : (if switch = .deny then .ok false else rest) = .ok state.isAllowed) :
    (if switch' = .deny then .ok false else rest') = .ok state.isAllowed := by
  cases switch with
  | allow => cases switch' with
      | allow => exact behind decided
      | deny => cases state with
          | allow => cases near rfl
          | deny => rfl
  | deny => cases state with
      | allow => cases decided
      | deny => rw [near rfl]; rfl

end Gates

-- Defaults drift toward a state, and are never lost. What is not registered gets
-- there only on the way to allowing.
inductive Drifts (state : Permission) : Option Defaults → Option Defaults → Prop where
  | unknown : Drifts state none none
  | registered (allows : state = .allow) : Drifts state none (some later)
  | known (admin : state.Nears held.admin later.admin) (group : state.Nears held.group later.group)
      (user : state.Nears held.user later.user) : Drifts state (some held) (some later)

theorem Drifts.refl (found : Option Defaults) : Drifts state found found := by
  cases found with
  | none => exact .unknown
  | some held => exact .known id id id

theorem Update.getD_nears {given : Option Permission} (moves : ∀ said, given = some said → said = state)
    (base : Permission) : state.Nears base (given.getD base) := by
  cases given with
  | none => exact id
  | some said => exact fun _ => moves said rfl

theorem Update.apply_drifts {update : Update} (moves : ∀ given ∈ update.supplied, given = state) (held : Defaults) :
    Drifts state (some held) (some (update.apply held)) := by
  have each (field : Option Permission) (member : field ∈ [update.admin, update.group, update.user]) :
      ∀ said, field = some said → said = state := by
    intro said is
    refine moves said ?_
    rw [Update.supplied, List.reduceOption_mem_iff, ← is]
    exact member
  exact .known (getD_nears (each _ (by simp)) _) (getD_nears (each _ (by simp)) _) (getD_nears (each _ (by simp)) _)

theorem Page.permission?_write [DecidableEq κ] (page : Page κ Int) (key asked : κ) (state : Permission) :
    Toward state (page.permission? asked) ((page.write key state.toInteger).permission? asked) := by
  by_cases here : asked = key
  · refine .inr ?_
    simp [permission?, first?_write, here, ofInteger_toInteger, Except.map]
  · refine .inl ?_
    simp [permission?, first?_write, here]

theorem Page.defaults?_write (page : Page (String × String) Marks) (defaults : Defaults) (plugin feature : String) :
    (page.write (plugin, feature) (.of defaults)).defaults? plugin feature = .ok (some defaults) := by
  simp [defaults?, first?_write, Marks.read_of, Except.map]

namespace Book
variable {book after : Book} {state : Permission} {actor : Actor} {plugin feature : String}

structure Tends (state : Permission) (actor : Actor) (plugin feature : String) (book after : Book) : Prop where
  standing : if state = .allow then actor.user ∈ book.superusers.keys → actor.user ∈ after.superusers.keys
    else actor.user ∈ after.superusers.keys → actor.user ∈ book.superusers.keys
  registered : ∀ found, book.features.defaults? plugin feature = .ok found →
    ∃ later, after.features.defaults? plugin feature = .ok later ∧ Drifts state found later
  joint : ∀ group, Toward state (book.groups.permission? (plugin, feature, group))
    (after.groups.permission? (plugin, feature, group))
  own : Toward state (book.users.permission? (plugin, feature, actor.user))
    (after.users.permission? (plugin, feature, actor.user))

theorem groupVerdict_open (book : Book) (plugin feature user group : String) (role : Role) (defaults : Defaults) :
    book.groupVerdict plugin feature user group role defaults =
      if defaults.group = .deny then .ok false
      else bothOpen (book.groupGate plugin feature group defaults role)
        ((book.users.permission? (plugin, feature, user)).map (·.getD defaults.user)) := by
  unfold groupVerdict bothOpen
  cases book.users.permission? (plugin, feature, user) <;> rfl

theorem privateVerdict_open (book : Book) (plugin feature user : String) (defaults : Defaults) :
    book.privateVerdict plugin feature user defaults =
      if defaults.user = .deny then .ok false
      else bothOpen (.ok .allow) ((book.users.permission? (plugin, feature, user)).map (·.getD .allow)) := by
  unfold privateVerdict bothOpen
  cases book.users.permission? (plugin, feature, user) <;> rfl

theorem groupGate_member (book : Book) (plugin feature group : String) (defaults : Defaults) :
    book.groupGate plugin feature group defaults .member =
      (book.groups.permission? (plugin, feature, group)).map (·.getD defaults.group) := by
  unfold groupGate
  cases book.groups.permission? (plugin, feature, group) <;> rfl

theorem groupGate_tends (joint : Toward state (book.groups.permission? (plugin, feature, group))
      (after.groups.permission? (plugin, feature, group)))
    (admin : state.Nears held.admin later.admin) (fallback : state.Nears held.group later.group) (role : Role) :
    Registry.Tends state (book.groupGate plugin feature group held role)
      (after.groupGate plugin feature group later role) := by
  cases role with
  | member =>
      rw [groupGate_member, groupGate_member]
      exact joint.gate fallback
  | admin => exact fun _ is => ⟨_, rfl, Except.ok.inj is ▸ admin⟩
  | owner => exact fun _ is => ⟨_, rfl, Except.ok.inj is ▸ admin⟩

theorem Tends.registered_verdict (tends : Tends state actor plugin feature book after)
    (admin : state.Nears held.admin later.admin) (group : state.Nears held.group later.group)
    (user : state.Nears held.user later.user) :
    let branch := fun (book : Book) (defaults : Defaults) => match actor with
      | .group user group role => book.groupVerdict plugin feature user group role defaults
      | .alone user => book.privateVerdict plugin feature user defaults
    branch book held = .ok state.isAllowed → branch after later = .ok state.isAllowed := by
  intro branch decided
  cases actor with
  | group user' group' role =>
      simp only [branch, groupVerdict_open] at decided ⊢
      exact switch_tends group (bothOpen_tends (groupGate_tends (tends.joint group') admin group role)
        (tends.own.gate user)) decided
  | alone user' =>
      simp only [branch, privateVerdict_open] at decided ⊢
      exact switch_tends user (bothOpen_tends (.refl _) (tends.own.gate id)) decided

theorem Tends.verdict (tends : Tends state actor plugin feature book after)
    (decided : book.verdict actor plugin feature = .ok state.isAllowed) :
    after.verdict actor plugin feature = .ok state.isAllowed := by
  unfold Book.verdict at decided ⊢
  by_cases noPlugin : plugin = ""
  · rw [if_pos noPlugin] at decided
    cases decided
  by_cases noFeature : feature = ""
  · rw [if_neg noPlugin, if_pos noFeature] at decided
    cases decided
  rw [if_neg noPlugin, if_neg noFeature] at decided ⊢
  by_cases stands : actor.user ∈ book.superusers.keys
  · rw [if_pos stands] at decided
    cases state with
    | allow => rw [if_pos (tends.standing stands)]; rfl
    | deny => cases decided
  rw [if_neg stands] at decided
  by_cases standsNow : actor.user ∈ after.superusers.keys
  · cases state with
    | allow => rw [if_pos standsNow]; rfl
    | deny => exact (stands (tends.standing standsNow)).elim
  rw [if_neg standsNow]
  cases found : book.features.defaults? plugin feature with
  | error invalid => rw [found] at decided; cases decided
  | ok held =>
      obtain ⟨later, foundNow, drifts⟩ := tends.registered held found
      rw [found] at decided
      rw [foundNow]
      cases drifts with
      | unknown => exact decided
      | registered allows => subst allows; cases decided
      | known admin group user => exact tends.registered_verdict admin group user decided

theorem write_tends {mutation : Mutation} (written : book.write mutation = .ok after) (moves : mutation.Moves state)
    (known : state = .deny → ∀ update, mutation = .updateFeature plugin feature update →
      book.features.defaults? plugin feature ≠ .ok none) : Tends state actor plugin feature book after := by
  have alike (found : Option Defaults) (held : book.features.defaults? plugin feature = .ok found) :
      ∃ later, book.features.defaults? plugin feature = .ok later ∧ Drifts state found later :=
    ⟨found, held, .refl found⟩
  cases mutation with
  | setSuperuser user =>
      cases written
      subst moves
      refine ⟨?_, alike, fun _ => .inl rfl, .inl rfl⟩
      intro stands
      rw [Page.keys_write]
      split
      · exact stands
      · exact List.mem_append_left _ stands
  | removeSuperuser user =>
      cases written
      subst moves
      refine ⟨?_, alike, fun _ => .inl rfl, .inl rfl⟩
      intro stands
      rw [Page.keys_strike] at stands
      exact (List.mem_filter.mp stands).1
  | updateFeature plugin' feature' update =>
      obtain ⟨base, held, rfl⟩ := write_updateFeature written
      refine ⟨by split <;> exact id, ?_, fun _ => .inl rfl, .inl rfl⟩
      by_cases here : (plugin, feature) = (plugin', feature')
      · cases here
        intro found same
        refine ⟨_, Page.defaults?_write _ _ _ _, ?_⟩
        rw [held] at same
        cases same
        cases base with
        | some defaults => exact Update.apply_drifts moves defaults
        | none => cases state with
            | allow => exact .registered rfl
            | deny => exact (known rfl update rfl held).elim
      · intro found same
        refine ⟨found, ?_, .refl found⟩
        rw [← same]
        simp only [Page.defaults?, Page.first?_write, if_neg here]
  | updateGroup plugin' feature' group given =>
      cases written
      subst moves
      exact ⟨by split <;> exact id, alike, fun _ => Page.permission?_write _ _ _ _, .inl rfl⟩
  | updateUser plugin' feature' user given =>
      cases written
      subst moves
      exact ⟨by split <;> exact id, alike, fun _ => .inl rfl, Page.permission?_write _ _ _ _⟩

end Book
end Registry

section Checks
variable {store : Store τ} {clear : τ → Prop} {view : τ → Shelf} {fleet : Fleet τ} {book : Book} {number : Nat}
  (lossy : store.Lossy clear view Shelf.store)
include lossy

theorem decided_parts (ready : fleet.Ready store view)
    (done : (Fleet.serve number (Service.decide actor plugin feature) fleet).1 = .done allowed) :
    (fleet.services number).isInitialized = true ∧ ∃ book : Book, ∃ world,
      (Fleet.serve number (Service.decide actor plugin feature) fleet).2 = { fleet with world } ∧
        view world = view fleet.world ∧ book.On (view world) ∧ book.verdict actor plugin feature = .ok allowed := by
  have answered : (Service.decide actor plugin feature (fleet.running number)).1 = .done allowed := done
  cases holds : (fleet.services number).ledger with
  | none =>
      have idle : Service.decide actor plugin feature (fleet.running number) = (.failed .uninitialized, _) :=
        Service.reading_none holds _
      rw [idle] at answered
      cases answered
  | some ledger =>
      obtain ⟨book, on⟩ := ready.filled number ledger holds
      have stores : ∀ ledger, (fleet.running number).service.ledger = some ledger → ledger.store = store :=
        ready.sound.1 number
      obtain ⟨world, still, seen, agrees⟩ := decide_seen lossy stores on actor plugin feature
      refine ⟨by simp [Service.isInitialized, holds], book, world, ?_, seen, by rw [seen]; exact on, agrees allowed answered⟩
      rw [serve_after still]
      exact congrArg (Fleet.mk · world) (Function.update_eq_self _ _)

theorem decide_clear {running : Running τ} (sound : running.Sound store clear) (on : book.On (view running.world))
    (set : running.service.isInitialized = true) (actor : Actor) (plugin feature : String) :
    (Service.decide actor plugin feature running).1 =
      .ofExcept ((book.verdict actor plugin feature).mapError .validation) := by
  obtain ⟨ledger, holds⟩ := Option.isSome_iff_exists.mp set
  have read : Service.decide actor plugin feature running = _ := Service.reading_some holds _
  rw [read, sound.1 ledger holds]
  rcases (Resolution.decide_observes lossy actor plugin feature).follows running.world with
    ⟨same, _, _⟩ | ⟨_, _, blocked⟩
  · rw [same, Book.decide_on on]
  · exact (blocked sound.2).elim

end Checks

theorem mutate_idle {running : Running τ} {mutation : Mutation} (idle : mutation.isIdle = true) :
    (Service.mutate mutation running).2 = running := by
  have keeps : Keeps (· = running) (Service.mutate mutation) :=
    mutate_through fun _ busy => by rw [idle] at busy; cases busy
  exact keeps running rfl

section Monotony
variable {E : Type} {store : Store τ} {clear : τ → Prop} {view : τ → Shelf} {fleet : Fleet τ}
  (lossy : store.Lossy clear view Shelf.store)
include lossy

theorem mutate_tends {running : Running τ} {book : Book}
    (stores : ∀ ledger, running.service.ledger = some ledger → ledger.store = store) (on : book.On (view running.world))
    {mutation : Mutation} (moves : mutation.Moves state)
    (known : state = .deny → ¬mutation.Registers (view running.world) plugin feature)
    (decided : book.verdict actor plugin feature = .ok state.isAllowed) :
    ∃ after : Book, after.On (view (Service.mutate mutation running).2.world) ∧
      after.verdict actor plugin feature = .ok state.isAllowed := by
  by_cases idle : mutation.isIdle = true
  · rw [mutate_idle idle]
    exact ⟨book, on, decided⟩
  · obtain ⟨after, onAfter, written | ⟨rfl, _⟩⟩ := mutate_writes lossy stores on mutation
    · refine ⟨after, onAfter, (Book.write_tends written moves ?_).verdict decided⟩
      rintro denies update rfl absent
      refine known denies ⟨rfl, by simpa [Mutation.isIdle] using idle, ?_⟩
      rw [defaults?_on on.features, absent]
      rfl
    · exact ⟨after, onAfter, decided⟩

theorem recheck (ready : fleet.Ready store view) {mutation : Mutation} (moves : mutation.Moves state)
    (known : state = .deny → ¬mutation.Registers (view fleet.world) plugin feature)
    (done : (Fleet.serve asker (Service.decide actor plugin feature) fleet).1 = .done state.isAllowed)
    (free : clear (Fleet.serve maker (Service.mutate mutation)
      (Fleet.serve asker (Service.decide actor plugin feature) fleet).2).2.world) :
    (Fleet.serve asker (Service.decide actor plugin feature) (Fleet.serve maker (Service.mutate mutation)
      (Fleet.serve asker (Service.decide actor plugin feature) fleet).2).2).1 = .done state.isAllowed := by
  obtain ⟨set, book, world, still, seen, on, decided⟩ := decided_parts lossy ready done
  rw [still] at free ⊢
  obtain ⟨changed, is⟩ : ∃ changed, changed = (Fleet.serve maker (Service.mutate mutation) { fleet with world }).2 :=
    ⟨_, rfl⟩
  obtain ⟨after, onAfter, later⟩ : ∃ after : Book, after.On (view (changed.running asker).world) ∧
      after.verdict actor plugin feature = .ok state.isAllowed := by
    have stores : ∀ ledger, (Fleet.running { fleet with world } maker).service.ledger = some ledger →
        ledger.store = store := ready.sound.1 maker
    rw [is]
    exact mutate_tends lossy stores on moves (by rw [← seen] at known; exact known) decided
  have kept : ({ fleet with world } : Fleet τ).Sound store (Kept ∘ view) :=
    ⟨ready.sound.1, by rw [Function.comp, seen]; exact ready.sound.2⟩
  have sound := serve_keeps (mutate_keeps lossy kept_stable mutation) maker _ kept
  have setNow := serve_set (mutate_set mutation) maker asker { fleet with world } set
  rw [← is] at free sound setNow ⊢
  refine (decide_clear lossy ⟨sound.1 asker, free⟩ onAfter setNow actor plugin feature).trans ?_
  rw [later]
  rfl

end Monotony

-- On every state that a run comes to, whichever calls failed on the way: a yes stays
-- a yes when all that is said is to allow, and a no stays a no when all that is said
-- is to deny, unless that registers the very feature. No call may fail at the end,
-- where the check is repeated.
theorem changes_monotone {E : Type} (plan : Nat → Option (Outcome Fault Empty)) (actorOf : E → Option Actor)
    (errands : List (Nat × Errand (Nat × Shelf) E)) (asker maker : Nat) (mutation : Mutation) (actor : Actor)
    (plugin feature : String) :
    let reached := Fleet.after (Shelf.store.planned plan) actorOf errands (Fleet.start (0, Shelf.empty))
    let asked := Fleet.serve asker (Service.decide actor plugin feature) reached
    let changed := (Fleet.serve maker (Service.mutate mutation) asked.2).2
    let again := Fleet.serve asker (Service.decide actor plugin feature) changed
    Store.Silent plan changed.world →
      (mutation.Moves .allow → asked.1 = .done true → again.1 = .done true) ∧
      (mutation.Moves .deny → ¬mutation.Registers reached.world.2 plugin feature →
        asked.1 = .done false → again.1 = .done false) := by
  intro reached asked changed again silent
  have lossy := Store.planned_lossy plan Shelf.select_quiet
  have begun : (Fleet.start (0, Shelf.empty)).Ready (Shelf.store.planned plan) Prod.snd :=
    ⟨⟨fun _ _ is => (nomatch is), Kept.empty⟩, fun _ _ is => (nomatch is)⟩
  have ready : reached.Ready (Shelf.store.planned plan) Prod.snd := after_ready lossy actorOf errands begun
  refine ⟨?_, ?_⟩
  · intro moves yes
    exact recheck lossy ready moves (by rintro ⟨⟩) yes silent
  · intro moves known no
    exact recheck lossy ready moves (fun _ => known) no silent

def unsettled : List (Nat × Errand (Nat × Shelf) Actor) :=
  [(0, .request (.init none)), (0, .request (.init none)), (1, .request (.init (some "root"))),
   (1, .request (.mutate (.updateFeature "p" "f" { admin := some .deny }))),
   (0, .request (.mutate (.updateUser "p" "f" "u" .deny)))]

-- More denial does not help the user, more permission does not harm a member, and a
-- first registration helps the member although all it says is to deny.
theorem unsettled_monotone :
    let reached := Fleet.after (Shelf.store.planned stumble) some unsettled (Fleet.start (0, Shelf.empty))
    let check := fun actor feature => Fleet.serve 0 (Service.decide actor "p" feature)
    let changed := fun mutation actor feature => (Fleet.serve 1 (Service.mutate mutation) (check actor feature reached).2).2
    let user := Actor.group "u" "g" .member
    let member := Actor.group "v" "g" .member
    (check user "f" (changed (.updateFeature "p" "f" { user := some .deny }) user "f")).1 = .done false ∧
      (check member "f" (changed (.updateGroup "p" "f" "g" .allow) member "f")).1 = .done true ∧
      (check member "new" reached).1 = .done false ∧
      (check member "new" (changed (.updateFeature "p" "new" { admin := some .deny }) member "new")).1 = .done true := by
  intro reached check changed user member
  have silent (point : Nat × Shelf) (late : 2 ≤ point.1) : Store.Silent stumble point := by
    intro number ahead
    match number, Nat.le_trans late ahead with
    | number + 2, _ => rfl
  have monotone (mutation : Mutation) (actor : Actor) (feature : String)
      (late : 2 ≤ (changed mutation actor feature).world.1) :=
    changes_monotone stumble some unsettled 0 1 mutation actor "p" feature (silent _ late)
  refine ⟨?_, ?_, ?_, ?_⟩
  · refine (monotone (.updateFeature "p" "f" { user := some .deny }) user "f" (by decide +kernel)).2 ?_ ?_ (by decide +kernel)
    · simp [Mutation.Moves, Update.supplied]
    · rintro ⟨_, _, unknown⟩
      exact absurd unknown (by decide +kernel)
  · exact (monotone (.updateGroup "p" "f" "g" .allow) member "f" (by decide +kernel)).1 rfl (by decide +kernel)
  · decide +kernel
  · decide +kernel

end FeatureGate
