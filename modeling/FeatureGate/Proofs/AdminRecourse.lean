import FeatureGate.Proofs.FaultlessAgreement
import FeatureGate.Proofs.Monotony
import FeatureGate.Proofs.CommandPhrases
import FeatureGate.Proofs.Poison

namespace FeatureGate
open Table Registry FeatureGate.Action

namespace Registry

theorem Page.permission?_written [DecidableEq κ] (page : Page κ Int) (key : κ) (state : Permission) :
    (page.write key state.toInteger).permission? key = .ok (some state) := by
  simp [Page.permission?, Page.first?_write, ofInteger_toInteger, Except.map]

namespace Book
variable {book : Book}

def Opened (book : Book) : Prop := book.features.first? (ChatCommand.plugin, "group") = some (.of {})

theorem Opened.carried {after : Book} (opened : book.Opened) (same : after.features = book.features) : after.Opened := by
  unfold Opened
  rw [same]
  exact opened

theorem writes_open {before middle after : Book}
    (opens : before.write (.updateFeature ChatCommand.plugin "group" ({} : Defaults).asUpdate) = .ok middle)
    (guards : middle.write (.updateFeature ChatCommand.plugin "user"
      ({ group := .deny, user := .deny } : Defaults).asUpdate) = .ok after) : after.Opened := by
  unfold Opened
  rw [write_defaults guards, Page.first?_write, if_neg (by decide), write_defaults opens, Page.first?_write, if_pos rfl]

theorem groupGate_admin {role : Role} (admin : role.isAdmin = true) (plugin feature group : String) (defaults : Defaults) :
    book.groupGate plugin feature group defaults role = .ok defaults.admin := by
  cases role with
  | member => cases admin
  | admin => rfl
  | owner => rfl

theorem groupGate_written (book : Book) (plugin feature group : String) (state : Permission) (defaults : Defaults) :
    ({ book with groups := book.groups.write (plugin, feature, group) state.toInteger } : Book).groupGate
      plugin feature group defaults .member = .ok state := by
  rw [groupGate_member, Page.permission?_written]
  rfl

-- The gate of the group and the override of the user are all that is left to keep
-- anyone away.
theorem Opened.lets (opened : book.Opened) {user own : String} {role : Role} {held : Option Permission}
    (gate : book.groupGate ChatCommand.plugin "group" own {} role = .ok .allow)
    (read : book.users.permission? (ChatCommand.plugin, "group", user) = .ok held) (undenied : held ≠ some .deny) :
    book.verdict (.group user own role) ChatCommand.plugin "group" = .ok true := by
  have known : book.features.defaults? ChatCommand.plugin "group" = .ok (some {}) := by
    unfold Page.defaults?
    rw [opened]
    exact congrArg (Except.map some) (Marks.read_of _)
  unfold verdict
  rw [if_neg (by decide), if_neg (by decide)]
  by_cases standing : user ∈ book.superusers.keys
  · exact if_pos standing
  · rw [if_neg (show (Actor.group user own role).user ∉ book.superusers.keys from standing), known]
    show book.groupVerdict ChatCommand.plugin "group" user own role {} = .ok true
    rw [groupVerdict_open, if_neg (by decide), gate, read]
    match held, undenied with
    | none, _ => rfl
    | some .allow, _ => rfl
    | some .deny, undenied => exact (undenied rfl).elim

end Book
end Registry

theorem registerManagement_whole {running after : Running σ}
    (done : ChatCommand.registerManagement running = (.done (), after)) :
    ∃ store, running.service = .holding store (some false) ∧ after.service = running.service := by
  obtain ⟨_, middle, first, second⟩ := bind_parts done
  have same := (mutate_stays second).trans (mutate_stays first)
  obtain ⟨⟨ledger⟩, world⟩ := running
  match ledger with
  | none => cases done.symm.trans (bind_failed (Service.mutate_none rfl _))
  | some ⟨store, true⟩ => cases done.symm.trans (Service.registerManagement_barred store world)
  | some ⟨store, false⟩ => exact ⟨store, rfl, same⟩

theorem execute_allowed {book after : Book} {command : ChatCommand} {actor : Actor} {mutation : Mutation} {said : String}
    (on : book.On shelf) (lets : book.verdict actor ChatCommand.plugin command.kind = .ok true)
    (means : command.effect actor = some (mutation, said)) (right : mutation.invalid = none)
    (busy : mutation.isIdle = false) (written : book.write mutation = .ok after) :
    ∃ world, command.execute actor ⟨.holding Shelf.store (some false), shelf⟩ =
      (.done said, ⟨.holding Shelf.store (some false), world⟩) ∧ after.On world := by
  obtain ⟨world, applied, onAfter⟩ := Book.apply_done on written
  refine ⟨world, ?_, onAfter⟩
  have decided : Service.decide actor ChatCommand.plugin command.kind ⟨.holding Shelf.store (some false), shelf⟩ =
      (.done true, ⟨.holding Shelf.store (some false), shelf⟩) := by
    refine (Service.reading_some rfl _).trans ?_
    rw [show Resolution.decide Shelf.store actor ChatCommand.plugin command.kind shelf = _ from Book.decide_on on _ _ _,
      lets]
    rfl
  have mutated : Service.mutate mutation ⟨.holding Shelf.store (some false), shelf⟩ =
      (.done (), ⟨.holding Shelf.store (some false), world⟩) := by
    rw [Service.mutate_begun rfl right, if_neg (by simp [busy]), Service.locked_open rfl rfl]
    simp only [applied]
  refine (bind_done decided).trans ?_
  rw [if_neg (by decide), means]
  exact bind_done mutated

section Orders
variable {store : Store τ} {clear : τ → Prop} {view : τ → Shelf} {fleet : Fleet τ}
  (lossy : store.Lossy clear view Shelf.store)

theorem obey_keeps {good : τ → Prop}
    (keeps : ∀ (command : ChatCommand) actor, Keeps (Running.Sound store good) (command.execute actor))
    (orders : List (Nat × ChatCommand × Actor)) (fleet : Fleet τ) (sound : fleet.Sound store good) :
    (fleet.obey orders).Sound store good := by
  induction orders generalizing fleet with
  | nil => exact sound
  | cons first rest ih => exact ih _ (serve_keeps (keeps first.2.1 first.2.2) first.1 fleet sound)

include lossy

theorem execute_coincides (command : ChatCommand) (actor : Actor) (free : clear t) :
    Coincides store Shelf.store view (command.execute actor ⟨.holding store (some false), t⟩)
        (command.execute actor ⟨.holding Shelf.store (some false), view t⟩) ∧
      (command.execute actor ⟨.holding store (some false), t⟩).2.service = .holding store (some false) := by
  have agrees := execute_agrees (lossy.agrees Shelf.store_alive Declared) command actor
  obtain ⟨coincided, unbroken, _⟩ := agrees.coincides (show some false ≠ some true from nofun) free
  refine ⟨coincided, ?_⟩
  obtain ⟨lock, kept, _⟩ := coincided.lock
  have set : Running.Set (command.execute actor ⟨.holding store (some false), t⟩).2 := execute_set command actor _ rfl
  match lock, kept with
  | none, kept => rw [Running.Set, kept] at set; cases set
  | some false, kept => exact kept
  | some true, kept => exact (unbroken kept).elim

theorem obey_whole (orders : List (Nat × ChatCommand × Actor)) (sound : fleet.Sound store clear) {number : Nat}
    (whole : fleet.services number = .holding store (some false)) :
    (fleet.obey orders).services number = .holding store (some false) := by
  induction orders generalizing fleet with
  | nil => exact whole
  | cons first rest ih =>
      obtain ⟨served, command, actor⟩ := first
      refine ih (serve_keeps (execute_clears lossy command actor) served fleet sound) ?_
      simp only [Fleet.serve, Action.within]
      by_cases same : number = served
      · subst same
        rw [Function.update_self, Fleet.running, whole]
        exact (execute_coincides lossy command actor sound.2).2
      · rw [Function.update_of_ne same]
        exact whole

theorem register_opens (ready : fleet.Ready store view) {number : Nat} {later : Fleet τ}
    (registered : Fleet.serve number ChatCommand.registerManagement fleet = (.done (), later))
    (free : clear later.world) : later.services number = .holding store (some false) ∧
      later.Sound store (Kept ∘ view) ∧
      ∃ guard : Book, later.Watched store clear view guard guard ∧ guard.Guarded ∧ guard.Opened := by
  have kept := serve_keeps (registerManagement_keeps lossy kept_stable) number fleet ready.sound
  obtain ⟨⟨last, ended, rfl⟩, before, middle, guard, opens, guards, on⟩ := register_writes lossy ready registered
  rw [registered] at kept
  obtain ⟨held, whole, stays⟩ := registerManagement_whole ended
  have same : held = store := ready.sound.1 number ⟨held, false⟩ (congrArg Service.ledger whole)
  refine ⟨?_, kept, guard, ⟨⟨kept.1, free⟩, on, rfl, rfl⟩, Book.write_guards guards, Book.writes_open opens guards⟩
  rw [← same, ← whole, ← stays]
  exact Function.update_self _ _ _

theorem execute_granted {book after : Book} {command : ChatCommand} {actor : Actor} {mutation : Mutation} {said : String}
    (free : clear t) (on : book.On (view t)) (lets : book.verdict actor ChatCommand.plugin command.kind = .ok true)
    (means : command.effect actor = some (mutation, said)) (right : mutation.invalid = none)
    (busy : mutation.isIdle = false) (written : book.write mutation = .ok after) :
    (command.execute actor ⟨.holding store (some false), t⟩).1 = .done said ∧
      after.On (view (command.execute actor ⟨.holding store (some false), t⟩).2.world) := by
  obtain ⟨world, meant, onAfter⟩ := execute_allowed on lets means right busy written
  have coincided := (execute_coincides lossy command actor free).1
  rw [meant] at coincided
  exact ⟨coincided.outcome, coincided.world.symm ▸ onAfter⟩

end Orders

theorem updateGroup_right (named : Named (plugin, feature)) (inside : own ≠ "") (state : Permission) :
    (Mutation.updateGroup plugin feature own state).invalid = none := by
  simp only [Mutation.invalid]
  rw [emptyKey_none.mpr named, emptyName_none.mpr inside]
  rfl

theorem parse_named {command : ChatCommand} {title : String} (parsed : ChatCommand.parse title arguments = .ok command) :
    Named (command.target.plugin, command.target.feature) := by
  obtain ⟨_, _, _, plugin, _, feature⟩ := ChatCommand.ofWords_spells parsed
  exact ⟨plugin, feature⟩

def Undenied (shelf : Shelf) (user : String) : Prop :=
  (userOverride? Shelf.store ChatCommand.plugin "group" user shelf).1 ≠ .done (some .deny)

theorem undenied_read {book : Book} (on : book.On shelf) (kept : Kept shelf) (undenied : Undenied shelf user) :
    ∃ held, book.users.permission? (ChatCommand.plugin, "group", user) = .ok held ∧ held ≠ some .deny := by
  have candid := (userOverride?_candid kept ChatCommand.plugin "group" user).1
  unfold Undenied at undenied
  rw [userOverride?_on on.users] at candid undenied
  cases read : book.users.permission? (ChatCommand.plugin, "group", user) with
  | error invalid => rw [read] at candid; rcases candid with other | other <;> cases other
  | ok held =>
      refine ⟨held, rfl, fun denied => undenied ?_⟩
      rw [read, denied]
      rfl

-- What a group command comes to that is heeded: it is confirmed, and its target now
-- has this state in the group. If it gives back the group commands themselves, no
-- member is kept from them but by an override of their own.
structure Heeded (target : FeatureName) (state : Permission) (own : String) (answer : Outcome Error String)
    (shelf : Shelf) : Prop where
  confirmed : answer = .done (target.text ++ " permission in group " ++ own ++ " set to " ++ state.word)
  shows : (groupOverride? Shelf.store target.plugin target.feature own shelf).1 = .done (some state)
  opens : target = ⟨ChatCommand.plugin, "group"⟩ → state = .allow → ∀ member, Undenied shelf member →
    (Resolution.decide Shelf.store (.group member own .member) ChatCommand.plugin "group" shelf).1 = .done true

theorem execute_heeded {store : Store τ} {clear : τ → Prop} {view : τ → Shelf}
    (lossy : store.Lossy clear view Shelf.store) {running : Running τ} {book : Book}
    (whole : running.service = .holding store (some false)) (free : clear running.world)
    (on : book.On (view running.world)) (kept : Kept (view running.world)) (opened : book.Opened)
    (admin : role.isAdmin = true) (inside : own ≠ "") (named : Named (target.plugin, target.feature))
    (undenied : Undenied (view running.world) user) (state : Permission) :
    Heeded target state own ((ChatCommand.group target state).execute (.group user own role) running).1
      (view ((ChatCommand.group target state).execute (.group user own role) running).2.world) := by
  obtain ⟨answer, unread, allowed⟩ := undenied_read on kept undenied
  have lets := opened.lets (Book.groupGate_admin admin _ _ own _) unread allowed
  have means : (ChatCommand.group target state).effect (.group user own role) = some (_, _) := rfl
  have written : book.write (.updateGroup target.plugin target.feature own state) = .ok _ := rfl
  have granted := execute_granted lossy free on lets means (updateGroup_right named inside state) rfl written
  have uses : running.Sound store (Kept ∘ view) := ⟨fun ledger holds => by rw [whole] at holds; cases holds; rfl, kept⟩
  have keptAfter := (execute_keeps lossy kept_stable (.group target state) (.group user own role) running uses).2
  rw [← whole] at granted
  obtain ⟨said, onAfter⟩ := granted
  refine ⟨said, ?_, ?_⟩
  · rw [show groupOverride? Shelf.store target.plugin target.feature own _ = _ from groupOverride?_on onAfter.groups _ _ _,
      Page.permission?_written]
    rfl
  · rintro rfl rfl member unheld
    obtain ⟨answer, unread, allowed⟩ := undenied_read onAfter keptAfter unheld
    have gate := book.groupGate_written ChatCommand.plugin "group" own .allow {}
    have back := Book.Opened.lets (opened.carried (by rfl)) gate unread allowed
    rw [show Resolution.decide Shelf.store _ ChatCommand.plugin "group" _ = _ from Book.decide_on onAfter _ _ _, back]
    rfl

-- Whatever anybody has ordered since the management was registered, and from every
-- service that nobody has died in: an admin or an owner whom no override of their
-- own denies gets every group command through that is understood.
theorem admins_keep_commands {E : Type} (plan : Nat → Option (Outcome Fault Empty)) (actorOf : E → Option Actor)
    (errands : List (Nat × Errand (Nat × Shelf) E)) (registrar : Nat) (fleet : Fleet (Nat × Shelf))
    (registered : Fleet.serve registrar ChatCommand.registerManagement
      (Fleet.after (Shelf.store.planned plan) actorOf errands (Fleet.start (0, Shelf.empty))) = (.done (), fleet))
    (silent : Store.Silent plan fleet.world) (orders : List (Nat × ChatCommand × Actor)) :
    let whole : Service (Nat × Shelf) := .holding (Shelf.store.planned plan) (some false)
    let reached := fleet.obey orders
    fleet.services registrar = whole ∧
    ∀ number, fleet.services number = whole → reached.services number = whole ∧
      ∀ user own role, role.isAdmin = true → own ≠ "" → Undenied reached.world.2 user →
      ∀ kind arguments target state, ChatCommand.parse kind arguments = .ok (.group target state) →
        let ended := Fleet.serve number ((ChatCommand.group target state).execute (.group user own role)) reached
        Heeded target state own ended.1 ended.2.world.2 := by
  intro whole reached
  have lossy := Store.planned_lossy plan Shelf.select_quiet
  have begun : (Fleet.start (0, Shelf.empty)).Ready (Shelf.store.planned plan) Prod.snd :=
    ⟨⟨fun _ _ is => (nomatch is), Kept.empty⟩, fun _ _ is => (nomatch is)⟩
  have ready := after_ready lossy actorOf errands begun
  obtain ⟨held, sound, start, watched, guarded, opened⟩ := register_opens lossy ready registered silent
  obtain ⟨book, obeyed, _⟩ := obey_watched lossy guarded orders watched
  have kept := obey_keeps (execute_keeps lossy kept_stable) orders fleet sound
  have openedNow : book.Opened := opened.carried obeyed.features
  refine ⟨held, fun number mine => ?_⟩
  have mineNow := obey_whole lossy orders watched.sound mine
  refine ⟨mineNow, ?_⟩
  intro user own role admin inside undenied kind arguments target state parsed ended
  have on : book.On (reached.running number).world.2 := obeyed.on
  have keptNow : Kept (reached.running number).world.2 := kept.2
  exact execute_heeded lossy mineNow obeyed.sound.2 on keptNow openedNow admin inside (parse_named parsed) undenied state

def lockout : List (Nat × ChatCommand × Actor) :=
  [(0, .group ⟨"permission_plugin", "group"⟩ .deny, .group "mallory" "g" .member),
   (0, .group ⟨"permission_plugin", "group"⟩ .allow, .group "eve" "g" .member)]

theorem lockout_undone :
    let reached := managed.2.obey lockout
    (Resolution.decide Shelf.store (.group "eve" "g" .member) "permission_plugin" "group" reached.world.2).1 = .done false ∧
    ChatCommand.parse "group" " permission_plugin.group  YES please" =
      .ok (.group ⟨"permission_plugin", "group"⟩ .allow) ∧
    let ended := Fleet.serve 0 ((ChatCommand.group ⟨"permission_plugin", "group"⟩ .allow).execute (.group "olga" "g" .owner)) reached
    Heeded ⟨"permission_plugin", "group"⟩ .allow "g" ended.1 ended.2.world.2 := by
  have registered : managed = (.done (), managed.2) := Prod.ext rfl rfl
  have parsed : ChatCommand.parse "group" " permission_plugin.group  YES please" =
      .ok (.group ⟨"permission_plugin", "group"⟩ .allow) := by decide +kernel
  have undenied : Undenied (managed.2.obey lockout).world.2 "olga" := by unfold Undenied; decide +kernel
  obtain ⟨held, each⟩ := admins_keep_commands stumble some _ 0 managed.2 registered managed_silent lockout
  have heeded := (each 0 held).2 "olga" "g" .owner rfl (by decide) undenied _ _ _ _ parsed
  exact ⟨rfl, parsed, heeded⟩

end FeatureGate
