import FeatureGate.Proofs.Admission
import FeatureGate.Proofs.Poison

namespace FeatureGate
open Table Registry FeatureGate.Action Sql

theorem leads_of_agrees {good : σ → Prop} {action : Action σ ε α}
    (agree : Action.Agrees (fun s t => s = t ∧ good s) (fun _ => False) action action) :
    Leads good action (fun _ => good) good := by
  intro s held
  rcases agree.alike s s ⟨rfl, held⟩ with never | ⟨_, alive, _, kept⟩
  · exact never.elim
  · cases ended : action s with
    | mk outcome after =>
        rw [ended] at alive kept
        cases outcome with
        | done answer => exact kept
        | failed error => exact kept
        | aborted => exact (alive rfl).elim

theorem apply_shaped (mutation : Mutation) : Leads (·.Shaped Declared) (mutation.apply Connection.store)
    (fun _ => (·.Shaped Declared)) (·.Shaped Declared) := leads_of_agrees (apply_agrees store_alike mutation)

theorem setUp_shaped (superuser : Option String) : Leads (·.Shaped Declared) (Service.setUp Connection.store superuser)
    (fun _ => (·.Shaped Declared)) (·.Shaped Declared) := leads_of_agrees (setUp_agrees store_alike superuser)

def Lasting (good : Connection → Prop) : Prop :=
  ∀ {α : Type} {action : Action Connection Error α}, Selecting Connection.store action →
    Leads good action (fun _ => good) good

theorem lasting_shaped {good : Connection → Prop} (shaped : ∀ now, good now → now.Shaped Declared) : Lasting good := by
  intro α action selecting
  refine leads_of_agrees (selecting _ _ fun table key => Leads.agrees fun now held => ?_)
  rcases Connection.select_ways (shaped now held) table key with ⟨fault, failed⟩ | ⟨_, _, rows, _, _, _, _, done⟩
  · rw [show Connection.store.select table key now = _ from failed]
    exact held
  · rw [show Connection.store.select table key now = _ from done]
    exact held

def CommandLine.Directive.defines : CommandLine.Directive → Bool
  | setDefaults .. | chat .. => true
  | _ => false

section Directives
variable {good done : Connection → Prop}

theorem registerManagement_holds (defines : ∀ plugin feature update,
      Leads good ((Mutation.updateFeature plugin feature update).apply Connection.store) (fun _ => good) good) :
    Leads (Up good) ChatCommand.registerManagement (fun _ => Up good) (good ·.world) :=
  Leads.bind (mutate_leads (fun _ => id) rfl (defines _ _ _)) fun _ => mutate_leads (fun _ => id) rfl (defines _ _ _)

variable (lasting : Lasting good)
include lasting

theorem look_leads {read : Store Connection → Action Connection Error α}
    (selecting : Selecting Connection.store (read Connection.store)) (said : α → String) :
    Leads (Up good) (Service.reading read >>= fun answer => Pure.pure (said answer))
      (fun _ => Up fun now => good now ∨ done now) (good ·.world) :=
  Leads.bind (reading_leads (lasting selecting)) fun _ => Leads.pure fun _ held => held.imp_right .inl

theorem execution_leads (command : ChatCommand) (actor : Actor) (writes : ∀ mutation : Mutation,
      (∀ user, mutation ≠ .setSuperuser user) → Leads good (mutation.apply Connection.store) (fun _ => done) good) :
    Leads (Up good) (command.execute actor) (fun _ => Up done) (good ·.world) := by
  refine Leads.bind (reading_leads (lasting (Resolution.decide_selecting _ actor _ _))) fun allowed => ?_
  refine Leads.choose (fun _ => Leads.fail (fun _ held => held.2) _) fun _ => ?_
  cases means : command.effect actor with
  | none => exact Leads.fail (fun _ held => held.2) _
  | some effect =>
      have busy : effect.1.isIdle = false ∧ ∀ user, effect.1 ≠ .setSuperuser user := by
        cases command <;> cases actor <;> cases means <;> exact ⟨rfl, fun _ same => by cases same⟩
      exact Leads.bind (mutate_leads (fun _ => id) busy.1 (writes _ busy.2)) fun _ => Leads.pure fun _ => id

theorem command_leads (actor : Actor) (kind : String) (words : List String) (writes : ∀ mutation : Mutation,
      (∀ user, mutation ≠ .setSuperuser user) → Leads good (mutation.apply Connection.store) (fun _ => done) good) :
    Leads (Up good)
      (Action.ofExcept ((ChatCommand.parse kind (" ".intercalate words)).mapError Error.command) >>= fun command =>
        command.execute actor >>= fun said => Pure.pure (Console.lines [said]))
      (fun _ => Up done) (good ·.world) := by
  have reads : Leads (Up good)
      (Action.ofExcept ((ChatCommand.parse kind (" ".intercalate words)).mapError Error.command))
      (fun _ => Up good) (good ·.world) := Leads.ofExcept (fun _ held => held.2) fun _ _ _ => id
  refine Leads.bind reads fun command => ?_
  exact Leads.bind (execution_leads lasting command actor writes) fun _ => Leads.pure fun _ => id

-- Most directives write last of all, and once. The others write down defaults of
-- features first. Nobody is made a superuser without being asked for.
theorem carryOut_leads {directive : CommandLine.Directive} (writes : ∀ mutation : Mutation,
      (∀ user, mutation = .setSuperuser user → directive = .addSuperuser user) →
      Leads good (mutation.apply Connection.store) (fun _ => done) good)
    (defines : directive.defines = false ∨ ∀ plugin feature update,
      Leads good ((Mutation.updateFeature plugin feature update).apply Connection.store) (fun _ => good) good) :
    Leads (Up good) (Console.carryOut directive) (fun _ => Up fun now => good now ∨ done now) (good ·.world) := by
  have change (mutation : Mutation) (busy : mutation.isIdle = false)
      (asked : ∀ user, mutation = .setSuperuser user → directive = .addSuperuser user) (said : String) :
      Leads (Up good) (Service.mutate mutation >>= fun _ => Pure.pure said)
        (fun _ => Up fun now => good now ∨ done now) (good ·.world) :=
    Leads.bind (mutate_leads (fun _ => id) busy (writes mutation asked)) fun _ =>
      Leads.pure fun _ held => held.imp_right .inr
  cases directive with
  | addSuperuser user => exact change (.setSuperuser user) rfl (fun _ same => by cases same; rfl) _
  | removeSuperuser user => exact change (.removeSuperuser user) rfl (fun _ same => by cases same) _
  | listSuperusers => exact look_leads lasting (allSuperusers_selecting _) _
  | setDefaults plugin feature update =>
      have defines := defines.resolve_left Bool.noConfusion
      refine Leads.choose (fun _ => Leads.pure fun _ held => held.imp_right .inl) fun busy => ?_
      refine Leads.bind (mutate_leads (fun _ => id) (by simpa [Mutation.isIdle] using busy) (defines _ _ _)) fun _ => ?_
      exact look_leads lasting (defaults?_selecting _ plugin feature) _
  | showDefaults plugin feature asJson => exact look_leads lasting (defaults?_selecting _ plugin feature) _
  | listFeatures asJson => exact look_leads lasting (allFeatures_selecting _) _
  | overrideGroup target group state => exact change (.updateGroup _ _ group state) rfl (fun _ same => by cases same) _
  | overrideUser target own state => exact change (.updateUser _ _ own state) rfl (fun _ same => by cases same) _
  | check actor plugin feature => exact look_leads lasting (Resolution.decide_selecting _ actor plugin feature) _
  | chat actor kind words =>
      refine Leads.bind (registerManagement_holds (defines.resolve_left Bool.noConfusion)) fun _ => ?_
      refine (command_leads lasting actor kind words fun mutation other => writes mutation fun user same => ?_).imp
        (fun _ => id) (fun _ _ held => held.imp_right .inr) fun _ => id
      exact (other user same).elim

theorem carryOut_holds {directive : CommandLine.Directive} (writes : ∀ mutation : Mutation,
      (∀ user, mutation = .setSuperuser user → directive = .addSuperuser user) →
      Leads good (mutation.apply Connection.store) (fun _ => good) good) :
    Leads (Up good) (Console.carryOut directive) (fun _ => Up good) (good ·.world) :=
  (carryOut_leads lasting writes (.inr fun _ _ _ => writes _ fun _ same => by cases same)).imp (fun _ => id)
    (fun _ _ held => held.imp_right (or_self_iff.mp ·)) fun _ => id

end Directives

namespace Console
variable {superuser : Option String} {directive : CommandLine.Directive} {content : Database}

theorem onDatabase_ways {start failed : Running Connection → Prop} {done : String → Running Connection → Prop}
    (leads : Leads start (session Connection.store superuser directive) done failed)
    (held : start ⟨{}, { database := content }⟩) :
    (∃ text running, onDatabase superuser directive content = (.done text, running.world.database) ∧ done text running) ∨
      ∃ problem running, onDatabase superuser directive content = (.failed problem, running.world.database) ∧
        failed running := by
  have ends := leads _ held
  unfold onDatabase
  cases ended : session Connection.store superuser directive ⟨{}, { database := content }⟩ with
  | mk outcome running =>
      rw [ended] at ends
      cases outcome with
      | done text => exact .inl ⟨text, running, rfl, ends⟩
      | failed error => exact .inr ⟨.permission error, running, rfl, ends⟩
      | aborted => exact ends.elim

end Console
end FeatureGate
