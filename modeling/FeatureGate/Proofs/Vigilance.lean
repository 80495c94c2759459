import FeatureGate.Proofs.Agreement
import FeatureGate.Proofs.KeyedWrites

namespace FeatureGate
open Table Registry FeatureGate.Action

namespace Rule
variable {σ E : Type}

theorem checkParts_append (event : E) (first second : List (E → Action σ Empty Bool)) :
    checkParts event (first ++ second) =
      (checkParts event first >>= fun holds => if holds then checkParts event second else Pure.pure false) := by
  induction first with
  | nil => rfl
  | cons part rest ih =>
      have split : (checkParts event (part :: rest) >>= fun holds =>
          if holds then checkParts event second else Pure.pure false) = _ := bind_assoc (part event) _ _
      refine Eq.trans ?_ split.symm
      refine congrArg (part event >>= ·) (funext fun holds => ?_)
      cases holds with
      | true => exact ih
      | false => rfl

theorem check_and (first second : Rule σ E) (event : E) :
    (first.and second).check event =
      (first.check event >>= fun holds => if holds then second.check event else Pure.pure false) :=
  checkParts_append event first.parts second.parts

theorem check_of (part : E → Action σ Empty Bool) (event : E) : (of part).check event = part event := by
  refine Eq.trans ?_ (bind_pure (part event))
  refine congrArg (part event >>= ·) (funext fun holds => ?_)
  cases holds <;> rfl

theorem check_and_yes {first : Rule σ E} (yes : first.check event world = (.done true, after)) (second : Rule σ E) :
    (first.and second).check event world = second.check event after := by
  rw [check_and]
  exact bind_done yes

theorem check_and_no {first : Rule σ E} (no : ∀ after, first.check event world ≠ (.done true, after))
    (second : Rule σ E) : (first.and second).check event world = first.check event world := by
  rw [check_and, bind_apply]
  cases ended : first.check event world with
  | mk outcome after => cases outcome with
      | done holds => cases holds with
          | true => exact (no after ended).elim
          | false => rfl
      | failed error => rfl
      | aborted => rfl

theorem allows_exact {store : Store σ} {actor : Option Actor} :
    allows store plugin feature actor world = (.done true, after) ↔
      ∃ known, actor = some known ∧ Resolution.decide store known plugin feature world = (.done true, after) := by
  cases actor with
  | none =>
      constructor
      · intro yes
        cases yes
      · rintro ⟨known, is, _⟩
        cases is
  | some actor =>
      simp only [allows, Option.some.injEq, exists_eq_left']
      cases ended : Resolution.decide store actor plugin feature world with
      | mk outcome last => cases outcome <;> simp

theorem allows_world (store : Store σ) (plugin feature : String) (actor : Actor) (world : σ) :
    (allows store plugin feature (some actor) world).2 = (Resolution.decide store actor plugin feature world).2 := by
  simp only [allows]
  cases ended : Resolution.decide store actor plugin feature world with
  | mk outcome after => cases outcome <;> rfl

theorem allows_answers {store : Store σ} {actor : Actor}
    (alive : (Resolution.decide store actor plugin feature world).1 ≠ .aborted) :
    ∃ answer, (allows store plugin feature (some actor) world).1 = .done answer := by
  simp only [allows]
  cases ended : Resolution.decide store actor plugin feature world with
  | mk outcome after =>
      rw [ended] at alive
      cases outcome with
      | done answer => exact ⟨answer, rfl⟩
      | failed error => exact ⟨false, rfl⟩
      | aborted => exact (alive rfl).elim

end Rule

namespace Table

def Store.Spared (plan : Nat → Option (Outcome Fault Empty)) (point : Nat × σ) : Prop :=
  ∀ number, point.1 ≤ number → plan number ≠ some .aborted

theorem Store.carried_spared {plan : Nat → Option (Outcome Fault Empty)} {call : Action σ Fault α}
    (alive : ∀ s, (call s).1 ≠ .aborted) :
    Action.Agrees (fun one other => one = other ∧ Spared plan one) (fun _ => False) (planned.carried plan call)
      (planned.carried plan call) := by
  refine ⟨?_, fun _ never => never⟩
  rintro ⟨number, s⟩ _ ⟨rfl, spared⟩
  have ended : (planned.carried plan call (number, s)).1 ≠ .aborted ∧
      (planned.carried plan call (number, s)).2.1 = number + 1 := by
    simp only [planned.carried]
    cases fate : plan number with
    | none => exact ⟨alive s, rfl⟩
    | some ending => cases ending with
        | done answer => exact answer.elim
        | failed fault => exact ⟨by simp, rfl⟩
        | aborted => exact (spared number (Nat.le_refl _) fate).elim
  refine .inr ⟨rfl, ended.1, rfl, fun other ahead => spared other ?_⟩
  rw [ended.2] at ahead
  exact Nat.le_of_succ_le ahead

theorem Shelf.select_alive (table : String) (filter : Row) (shelf : Shelf) :
    (Shelf.store.select table filter shelf).1 ≠ .aborted := by
  simp only [Shelf.store, Shelf.select, Shelf.onSheet]
  split
  · simp
  · split <;> simp

end Table

theorem decide_alive {plan : Nat → Option (Outcome Fault Empty)} {world : Nat × Shelf}
    (spared : Store.Spared plan world) (actor : Actor) (plugin feature : String) :
    (Resolution.decide (Shelf.store.planned plan) actor plugin feature world).1 ≠ .aborted := by
  have reads (table : String) (key : Row) : Action.Agrees (fun one other => one = other ∧ Store.Spared plan one)
      (fun _ => False) ((Shelf.store.planned plan).select table key) ((Shelf.store.planned plan).select table key) :=
    Store.carried_spared (Shelf.select_alive table key)
  have agree := Resolution.decide_agrees reads actor plugin feature
  rcases agree.alike world world ⟨rfl, spared⟩ with never | ⟨_, alive, _⟩
  · exact never.elim
  · exact alive

section Runs
variable {E : Type}

theorem perform_set (store : Store τ) (actorOf : E → Option Actor) (errand : Errand τ E) :
    Keeps Running.Set (errand.perform store actorOf) := by
  cases errand with
  | request asked => exact Keeps.bind (handle_set store asked) fun _ => Keeps.pure _
  | checker plugin feature => exact Keeps.bind (checker_keeps _ _ _) fun _ => Keeps.pure _
  | generator plugin defaults gate => exact Keeps.bind (generator_keeps _ _ _) fun _ => Keeps.pure _
  | generate maker feature =>
      have same : (Errand.generate maker feature).perform store actorOf = Service.mutate (maker.registration feature) :=
        generate_answer actorOf maker feature
      rw [same]
      exact mutate_set _

theorem after_set (store : Store τ) (actorOf : E → Option Actor) (errands : List (Nat × Errand τ E)) (number : Nat)
    (fleet : Fleet τ) (set : (fleet.services number).isInitialized = true) :
    ((Fleet.after store actorOf errands fleet).services number).isInitialized = true := by
  induction errands generalizing fleet with
  | nil => exact set
  | cons first rest ih => exact ih _ (serve_set (perform_set store actorOf first.2) first.1 number fleet set)

theorem serve_parts {action : Action (Running τ) ε α} {fleet made : Fleet τ}
    (served : Fleet.serve number action fleet = (outcome, made)) :
    action (fleet.running number) = (outcome, made.running number) := by
  cases served
  simp [Fleet.running]

theorem checker_parts {running after : Running τ} {actorOf : E → Option Actor}
    (done : Service.checker actorOf plugin feature running = (.done rule, after)) :
    after = running ∧ ∃ ledger, running.service.ledger = some ledger ∧
      rule = Rule.of fun event => Rule.allows ledger.store plugin feature (actorOf event) := by
  obtain ⟨ledger, middle, got, rest⟩ := bind_parts done
  cases holds : running.service.ledger with
  | none =>
      rw [Service.held_none holds] at got
      cases got
  | some held =>
      rw [Service.held_some holds] at got
      cases got
      cases named : emptyKey plugin feature with
      | some invalid =>
          rw [named] at rest
          cases rest
      | none =>
          rw [checker_some holds named] at done
          cases done
          exact ⟨rfl, ledger, rfl, rfl⟩

theorem mutate_parts {running after : Running τ} {mutation : Mutation} (busy : mutation.isIdle = false)
    (done : Service.mutate mutation running = (.done (), after)) :
    ∃ ledger, running.service.ledger = some ledger ∧
      mutation.apply ledger.store running.world = (.done (), after.world) := by
  rcases Service.mutate_ways mutation running with ⟨error, refused⟩ | ⟨idle, _⟩ | ⟨ledger, holds, carried⟩
  · rw [refused] at done
    cases done
  · rw [busy] at idle
    cases idle
  · refine ⟨ledger, holds, ?_⟩
    rw [carried] at done
    cases ended : mutation.apply ledger.store running.world with
    | mk outcome world =>
        rw [ended] at done
        cases outcome with
        | done answer => cases done; rfl
        | failed error => cases done
        | aborted => cases done

theorem generate_parts {running after : Running τ} {actorOf : E → Option Actor} {maker : Generator τ E}
    (done : Service.generate actorOf maker feature running = (.done rule, after)) :
    Service.mutate (maker.registration feature) running = (.done (), after) ∧
      ∃ plain, Service.checker actorOf maker.plugin feature after = (.done plain, after) ∧
        rule = plain.and maker.gate := by
  obtain ⟨_, middle, registered, rest⟩ := bind_parts done
  obtain ⟨plain, last, built, ended⟩ := bind_parts rest
  cases ended
  obtain ⟨rfl, _⟩ := checker_parts built
  exact ⟨registered, plain, built, rfl⟩

end Runs

-- A rule that asks this service anew about every event: it says yes when there is
-- an actor and the decision at that moment is a yes, it has an answer unless somebody
-- dies, and no table changes by asking.
structure Vigilant {E : Type} (plan : Nat → Option (Outcome Fault Empty)) (actorOf : E → Option Actor)
    (plugin feature : String) (service : Service (Nat × Shelf)) (rule : Rule (Nat × Shelf) E) : Prop where
  exact : ∀ event world after, rule.check event world = (.done true, after) ↔
    ∃ actor, actorOf event = some actor ∧
      Service.decide actor plugin feature ⟨service, world⟩ = (.done true, ⟨service, after⟩)
  answers : ∀ event world, Store.Spared plan world → ∃ answer, (rule.check event world).1 = .done answer
  still : ∀ event world, (rule.check event world).2.2 = world.2

-- The same with a gate behind it: after a yes the gate has the last word, and
-- otherwise nobody can tell that there is a gate.
structure Guarded {E : Type} (actorOf : E → Option Actor) (plugin feature : String) (service : Service (Nat × Shelf))
    (plain gate rule : Rule (Nat × Shelf) E) : Prop where
  exact : ∀ event world last, rule.check event world = (.done true, last) ↔
    ∃ actor after, actorOf event = some actor ∧
      Service.decide actor plugin feature ⟨service, world⟩ = (.done true, ⟨service, after⟩) ∧
      gate.check event after = (.done true, last)
  unasked : ∀ event world, (∀ after, plain.check event world ≠ (.done true, after)) →
    rule.check event world = plain.check event world

section Vigilance
variable {E : Type} {plan : Nat → Option (Outcome Fault Empty)} {actorOf : E → Option Actor}
  {service : Service (Nat × Shelf)}

theorem vigilant_of (holds : service.ledger = some ledger) (same : ledger.store = Shelf.store.planned plan)
    (actorOf : E → Option Actor) (plugin feature : String) :
    Vigilant plan actorOf plugin feature service
      (Rule.of fun event => Rule.allows (Shelf.store.planned plan) plugin feature (actorOf event)) := by
  have decided (actor : Actor) (world : Nat × Shelf) :
      Service.decide actor plugin feature ⟨service, world⟩ = _ := Service.reading_some holds _
  refine ⟨?_, ?_, ?_⟩
  · intro event world after
    rw [Rule.check_of, Rule.allows_exact]
    refine exists_congr fun actor => and_congr_right fun _ => ?_
    rw [decided, same]
    simp [Prod.ext_iff]
  · intro event world spared
    rw [Rule.check_of]
    cases actorOf event with
    | none => exact ⟨false, rfl⟩
    | some actor => exact Rule.allows_answers (decide_alive spared actor plugin feature)
  · intro event world
    rw [Rule.check_of]
    cases actorOf event with
    | none => rfl
    | some actor =>
        have lossy := Store.planned_lossy plan Shelf.select_quiet
        rw [Rule.allows_world]
        exact (Resolution.decide_observes lossy actor plugin feature).still world

theorem Vigilant.guarded {plain : Rule (Nat × Shelf) E} (vigilant : Vigilant plan actorOf plugin feature service plain)
    (gate : Rule (Nat × Shelf) E) : Guarded actorOf plugin feature service plain gate (plain.and gate) := by
  refine ⟨?_, fun event world no => Rule.check_and_no no gate⟩
  intro event world last
  constructor
  · intro yes
    by_cases passed : ∃ after, plain.check event world = (.done true, after)
    · obtain ⟨after, first⟩ := passed
      rw [Rule.check_and_yes first] at yes
      obtain ⟨actor, known, decided⟩ := (vigilant.exact event world after).mp first
      exact ⟨actor, after, known, decided, yes⟩
    · have stopped : ∀ after, plain.check event world ≠ (.done true, after) := not_exists.mp passed
      rw [Rule.check_and_no stopped] at yes
      exact (stopped last yes).elim
  · rintro ⟨actor, after, known, decided, opened⟩
    rw [Rule.check_and_yes ((vigilant.exact event world after).mpr ⟨actor, known, decided⟩)]
    exact opened

theorem anything_stable (store : Store σ) : Stable store fun _ => True :=
  ⟨fun _ _ _ _ => trivial, fun _ _ _ _ _ => trivial⟩

theorem registration_shows {maker : Generator (Nat × Shelf) E} {running after : Running (Nat × Shelf)}
    (stores : ∀ ledger, running.service.ledger = some ledger → ledger.store = Shelf.store.planned plan)
    (done : Service.mutate (maker.registration feature) running = (.done (), after)) :
    defaults? Shelf.store maker.plugin feature after.world.2 = (.done (some maker.defaults), after.world.2) ∧
      ∀ table, table ≠ features → after.world.2.sheets.get? table = running.world.2.sheets.get? table := by
  have lossy := Store.planned_lossy plan Shelf.select_quiet
  obtain ⟨ledger, holds, applied⟩ := mutate_parts rfl done
  rw [stores ledger holds] at applied
  have follows := apply_follows lossy (maker.registration feature) running.world
  rw [applied] at follows
  rcases follows with ⟨same, seen, _⟩ | ⟨lost, _⟩
  · have written : (maker.registration feature).apply Shelf.store running.world.2 = (.done (), after.world.2) :=
      Prod.ext same.symm seen.symm
    obtain ⟨⟨base, _, shows⟩, elsewhere⟩ := updateFeature_shows written
    exact ⟨shows, elsewhere⟩
  · exact lost.elim

abbrev Fleet.Uses (plan : Nat → Option (Outcome Fault Empty)) (fleet : Fleet (Nat × Shelf)) : Prop :=
  fleet.Sound (Shelf.store.planned plan) ((fun _ => True) ∘ Prod.snd)

theorem later_vigilant {made : Fleet (Nat × Shelf)} (uses : made.Uses plan)
    (holds : (made.services number).ledger = some ledger) (actorOf : E → Option Actor)
    (later : List (Nat × Errand (Nat × Shelf) E)) (plugin feature : String) :
    Vigilant plan actorOf plugin feature
      ((Fleet.after (Shelf.store.planned plan) actorOf later made).services number)
      (Rule.of fun event => Rule.allows ledger.store plugin feature (actorOf event)) := by
  have lossy := Store.planned_lossy plan Shelf.select_quiet
  have sound := after_keeps lossy (anything_stable _) actorOf later made uses
  have set := after_set (Shelf.store.planned plan) actorOf later number made
    (by simp [Service.isInitialized, holds])
  obtain ⟨kept, still⟩ := Option.isSome_iff_exists.mp set
  rw [uses.1 number ledger holds]
  exact vigilant_of still (sound.1 number kept still) actorOf plugin feature

end Vigilance

-- A rule is handed out at some point of a run and asked at a later one, on whatever
-- the tables hold by then and whichever calls fail: it says what is decided at that
-- moment, and no where nothing can be decided. What a generator hands out has
-- registered the feature and adds its gate.
theorem checkers_vigilant {E : Type} (plan : Nat → Option (Outcome Fault Empty)) (actorOf : E → Option Actor)
    (shelf : Shelf) (before later : List (Nat × Errand (Nat × Shelf) E)) (number : Nat) :
    let store := Shelf.store.planned plan
    let fleet := Fleet.after store actorOf before (Fleet.start (0, shelf))
    (∀ plugin feature rule made,
      Fleet.serve number (Service.checker actorOf plugin feature) fleet = (.done rule, made) →
        let service := (Fleet.after store actorOf later made).services number
        Vigilant plan actorOf plugin feature service rule) ∧
    ∀ (maker : Generator (Nat × Shelf) E) feature rule made,
      Fleet.serve number (Service.generate actorOf maker feature) fleet = (.done rule, made) →
        let service := (Fleet.after store actorOf later made).services number
        defaults? Shelf.store maker.plugin feature made.world.2 = (.done (some maker.defaults), made.world.2) ∧
        (∀ table, table ≠ features → made.world.2.sheets.get? table = fleet.world.2.sheets.get? table) ∧
        ∃ plain,
          Service.checker actorOf maker.plugin feature (made.running number) = (.done plain, made.running number) ∧
          Vigilant plan actorOf maker.plugin feature service plain ∧
          Guarded actorOf maker.plugin feature service plain maker.gate rule := by
  intro store fleet
  have lossy := Store.planned_lossy plan Shelf.select_quiet
  have uses : fleet.Uses plan :=
    after_keeps lossy (anything_stable _) actorOf before _ ⟨fun _ _ is => (nomatch is), trivial⟩
  refine ⟨?_, ?_⟩
  · intro plugin feature rule made served
    have kept := serve_keeps (checker_keeps actorOf plugin feature) number fleet uses
    rw [served] at kept
    obtain ⟨same, ledger, holds, rfl⟩ := checker_parts (serve_parts served)
    rw [← same] at holds
    exact later_vigilant kept holds actorOf later plugin feature
  · intro maker feature rule made served
    have kept := serve_keeps (generate_keeps lossy (anything_stable _) actorOf maker feature) number fleet uses
    rw [served] at kept
    obtain ⟨registered, plain, built, rfl⟩ := generate_parts (serve_parts served)
    obtain ⟨shows, elsewhere⟩ := registration_shows (uses.1 number) registered
    obtain ⟨_, ledger, holds, rfl⟩ := checker_parts built
    have vigilant := later_vigilant kept holds actorOf later maker.plugin feature
    exact ⟨shows, elsewhere, _, built, vigilant, vigilant.guarded maker.gate⟩

def outage : Nat → Option (Outcome Fault Empty)
  | 20 => some (.failed .poisoned)
  | _ => none

def opening : List (Nat × Errand (Nat × Shelf) (Option Actor)) := [(0, .request (.init (some "root")))]

def dismissal : List (Nat × Errand (Nat × Shelf) (Option Actor)) :=
  [(0, .request (.mutate (.removeSuperuser "root")))]

def barred : Generator (Nat × Shelf) (Option Actor) := ⟨"p", { group := .deny }, Rule.of fun _ => Pure.pure false⟩

-- One and the same rule: no during the outage, yes after it, no for an event without
-- an actor, and no once the superuser is dismissed.
theorem outage_denied :
    let store := Shelf.store.planned outage
    let fleet := Fleet.after store id opening (Fleet.start (0, Shelf.empty))
    let dismissed := Fleet.after store id dismissal fleet
    let root : Option Actor := some (.alone "root")
    (∃ rule, (Fleet.serve 0 (Service.checker id "p" "f") fleet).1 = .done rule ∧
      (rule.check root (20, fleet.world.2)).1 = .done false ∧ (rule.check root (21, fleet.world.2)).1 = .done true ∧
      (rule.check none (21, fleet.world.2)).1 = .done false ∧ (rule.check root dismissed.world).1 = .done false) ∧
    ∃ rule made, Fleet.serve 0 (Service.generate id barred "f") fleet = (.done rule, made) ∧
      defaults? Shelf.store "p" "f" made.world.2 = (.done (some { group := .deny }), made.world.2) ∧
      (rule.check root (21, made.world.2)).1 ≠ .done true := by
  intro store fleet dismissed root
  have always := checkers_vigilant outage id Shelf.empty opening dismissal 0
  have vigilant := always.1 "p" "f" _ _ rfl
  obtain ⟨shows, _, plain, _, _, guarded⟩ := always.2 barred "f" _ _ rfl
  refine ⟨⟨_, rfl, ?_, ?_, ?_, ?_⟩, _, _, rfl, shows, ?_⟩
  · rfl
  · exact congrArg Prod.fst ((vigilant.exact root _ _).mpr ⟨_, rfl, rfl⟩)
  · rfl
  · rfl
  · intro yes
    obtain ⟨actor, after, _, _, opened⟩ := (guarded.exact root _ _).mp (Prod.ext yes rfl)
    cases opened

end FeatureGate
