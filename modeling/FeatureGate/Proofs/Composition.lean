import FeatureGate.Proofs.Vigilance

namespace FeatureGate.Rule
open FeatureGate.Action

variable {σ E ι : Type}

inductive Draft (ι : Type) where
  | part (label : ι)
  | always
  | and (first second : Draft ι)
  | clone (draft : Draft ι)

namespace Draft

def leaves : Draft ι → List ι
  | part label => [label]
  | always => []
  | and first second => first.leaves ++ second.leaves
  | clone draft => draft.leaves

def build (meaning : ι → E → Action σ Empty Bool) : Draft ι → Rule σ E
  | part label => .of (meaning label)
  | always => .always
  | and first second => (first.build meaning).and (second.build meaning)
  | clone draft => (draft.build meaning).clone

theorem build_parts (meaning : ι → E → Action σ Empty Bool) (draft : Draft ι) :
    (draft.build meaning).parts = draft.leaves.map meaning := by
  induction draft with
  | part label => rfl
  | always => rfl
  | and first second former latter => simp only [build, leaves, Rule.and, former, latter, List.map_append]
  | clone draft ih => exact ih

theorem check_build (meaning : ι → E → Action σ Empty Bool) (draft : Draft ι) (event : E) :
    (draft.build meaning).check event = checkParts event (draft.leaves.map meaning) := by
  rw [check, build_parts]

end Draft

structure Asked (σ ι : Type) where
  label : ι
  before : σ
  outcome : Outcome Empty Bool
  after : σ

-- The same parts in a world that keeps a record of all that is asked.
def recorded (meaning : ι → E → Action σ Empty Bool) (label : ι) (event : E) : Action (σ × List (Asked σ ι)) Empty Bool :=
  fun (world, record) => ((meaning label event world).1, (meaning label event world).2,
    record ++ [⟨label, world, (meaning label event world).1, (meaning label event world).2⟩])

structure Conducted (meaning : ι → E → Action σ Empty Bool) (event : E) (labels : List ι) (world : σ)
    (record : List (Asked σ ι)) (outcome : Outcome Empty Bool) (after : σ) : Prop where
  order : record.map (·.label) <+: labels
  answers : ∀ asked ∈ record, meaning asked.label event asked.before = (asked.outcome, asked.after)
  -- Each part finds what the one before it has left.
  threaded : record.map (·.before) ++ [after] = world :: record.map (·.after)
  onward : ∀ asked ∈ record.dropLast, asked.outcome = .done true
  holds : outcome = .done true ↔ record.map (·.label) = labels ∧ ∀ asked ∈ record, asked.outcome = .done true
  fails : outcome ≠ .done true → ∃ last, record.getLast? = some last ∧ last.outcome = outcome

namespace Conducted
variable {meaning : ι → E → Action σ Empty Bool} {event : E} {label : ι} {labels : List ι} {world middle after : σ}
  {record : List (Asked σ ι)} {outcome : Outcome Empty Bool}

theorem nothing : Conducted meaning event [] world [] (.done true) world :=
  ⟨List.nil_prefix, nofun, rfl, nofun, by simp, fun no => absurd rfl no⟩

theorem stopped (answer : meaning label event world = (outcome, after)) (no : outcome ≠ .done true) (labels : List ι) :
    Conducted meaning event (label :: labels) world [⟨label, world, outcome, after⟩] outcome after where
  order := ⟨labels, rfl⟩
  answers asked member := by
    cases List.mem_singleton.mp member
    exact answer
  threaded := rfl
  onward := nofun
  holds := ⟨fun yes => absurd yes no, fun all => all.2 _ List.mem_cons_self⟩
  fails _ := ⟨_, rfl, rfl⟩

theorem passed (answer : meaning label event world = (.done true, middle))
    (rest : Conducted meaning event labels middle record outcome after) :
    Conducted meaning event (label :: labels) world (⟨label, world, .done true, middle⟩ :: record) outcome after where
  order := List.cons_prefix_cons.mpr ⟨rfl, rest.order⟩
  answers asked member := by
    rcases List.mem_cons.mp member with rfl | later
    · exact answer
    · exact rest.answers asked later
  threaded := congrArg (world :: ·) rest.threaded
  onward asked member := by
    cases record with
    | nil => cases member
    | cons next record =>
        rcases List.mem_cons.mp member with rfl | later
        · rfl
        · exact rest.onward asked later
  holds := by simp [rest.holds]
  fails no := by
    obtain ⟨last, is, same⟩ := rest.fails no
    exact ⟨last, by rw [List.getLast?_cons, is]; rfl, same⟩

end Conducted

theorem checkParts_conducted (meaning : ι → E → Action σ Empty Bool) (event : E) (labels : List ι) (world : σ)
    (past : List (Asked σ ι)) : ∃ record outcome after,
      checkParts event (labels.map (recorded meaning)) (world, past) = (outcome, after, past ++ record) ∧
      checkParts event (labels.map meaning) world = (outcome, after) ∧
      Conducted meaning event labels world record outcome after := by
  induction labels generalizing world past with
  | nil => exact ⟨[], .done true, world, by simp [checkParts], rfl, .nothing⟩
  | cons label labels ih =>
      obtain ⟨said, middle, answer⟩ : ∃ said middle, meaning label event world = (said, middle) := ⟨_, _, rfl⟩
      have kept : recorded meaning label event (world, past) = (said, middle, past ++ [⟨label, world, said, middle⟩]) := by
        simp only [recorded, answer]
      simp only [List.map_cons, checkParts]
      cases said with
      | failed error => cases error
      | aborted =>
          exact ⟨_, _, _, bind_aborted kept, bind_aborted answer, .stopped answer (fun yes => nomatch yes) labels⟩
      | done holds => cases holds with
          | false =>
              refine ⟨_, _, _, bind_done kept, bind_done answer, .stopped answer (fun yes => ?_) labels⟩
              cases yes
          | true =>
              obtain ⟨record, outcome, after, recording, plain, conducted⟩ :=
                ih middle (past ++ [⟨label, world, .done true, middle⟩])
              refine ⟨_ :: record, outcome, after, ?_, (bind_done answer).trans plain, .passed answer conducted⟩
              rw [bind_done kept, if_pos rfl, recording, List.append_assoc]
              rfl

example : checkParts () ([true, false, true].map (recorded fun answer (_ : Unit) count => (.done answer, count + 1))) (0, []) =
    (.done false, 2, [⟨true, 0, .done true, 1⟩, ⟨false, 1, .done false, 2⟩]) := rfl

-- What is done with rules that are kept in numbered places. Where two are put together, the
-- parts of the second go over into the first and the second is gone; who wants to keep either
-- makes a copy before.
inductive Move (ι E : Type) where
  | new (label : ι)
  | always
  | clone (place : Nat)
  | and (first second : Nat)
  | check (place : Nat) (event : E)

namespace Move

def takes (place : Nat) : Move ι E → Prop
  | and first second => place = first ∨ place = second
  | new _ | always | clone _ | check .. => False

def builds : Move ι E → Prop
  | check .. => False
  | new _ | always | clone _ | and .. => True

end Move

structure Bench (ρ σ : Type) where
  places : List (Option ρ)
  world : σ
  answers : List (Outcome Empty Bool) := []

namespace Bench
variable {ρ τ : Type} {bench : Bench ρ σ} {place first second : Nat} {thing : ρ}

def held (bench : Bench ρ σ) (place : Nat) : Option ρ := bench.places[place]?.join

def add (bench : Bench ρ σ) (made : Option ρ) : Bench ρ σ := { bench with places := bench.places ++ [made] }

def merge (and : ρ → ρ → ρ) (first second : Nat) (bench : Bench ρ σ) : Bench ρ σ :=
  match bench.held first, bench.held second with
  | some one, some other =>
      if first = second then bench
      else { bench with places := (bench.places.set first (some (and one other))).set second none }
  | _, _ => bench

def ask (check : ρ → Action σ Empty Bool) (place : Nat) (bench : Bench ρ σ) : Bench ρ σ :=
  match bench.held place with
  | none => bench
  | some thing => { bench with
      world := (check thing bench.world).2
      answers := bench.answers ++ [(check thing bench.world).1] }

def map (f : ρ → τ) (bench : Bench ρ σ) : Bench τ σ :=
  { places := bench.places.map (·.map f), world := bench.world, answers := bench.answers }

theorem held_add (there : bench.held place = some thing) (made : Option ρ) : (bench.add made).held place = some thing := by
  have within : place < bench.places.length := by
    rcases Nat.lt_or_ge place bench.places.length with low | high
    · exact low
    · simp [held, List.getElem?_eq_none high] at there
  rwa [held, add, List.getElem?_append_left within]

theorem held_merge (and : ρ → ρ → ρ) (apart : place ≠ first) (away : place ≠ second) :
    (bench.merge and first second).held place = bench.held place := by
  unfold merge
  split
  · split
    · rfl
    · rw [held, List.getElem?_set_ne away.symm, List.getElem?_set_ne apart.symm]
      rfl
  · rfl

theorem merge_still (and : ρ → ρ → ρ) (first second : Nat) (bench : Bench ρ σ) :
    (bench.merge and first second).world = bench.world ∧ (bench.merge and first second).answers = bench.answers := by
  unfold merge
  split
  · split <;> exact ⟨rfl, rfl⟩
  · exact ⟨rfl, rfl⟩

theorem held_ask (check : ρ → Action σ Empty Bool) (asked place : Nat) (bench : Bench ρ σ) :
    (bench.ask check asked).held place = bench.held place := by
  unfold ask
  split <;> rfl

theorem held_map (f : ρ → τ) (bench : Bench ρ σ) (place : Nat) : (bench.map f).held place = (bench.held place).map f := by
  unfold held map
  rw [List.getElem?_map]
  cases bench.places[place]? <;> rfl

theorem add_map (f : ρ → τ) (bench : Bench ρ σ) (made : Option ρ) :
    (bench.map f).add (made.map f) = (bench.add made).map f := by
  simp [add, map]

theorem merge_map {f : ρ → τ} {and : ρ → ρ → ρ} {and' : τ → τ → τ}
    (kept : ∀ one other, f (and one other) = and' (f one) (f other)) (first second : Nat) (bench : Bench ρ σ) :
    (bench.map f).merge and' first second = (bench.merge and first second).map f := by
  unfold merge
  rw [held_map, held_map]
  cases bench.held first with
  | none => rfl
  | some one => cases bench.held second with
      | none => rfl
      | some other =>
          simp only [Option.map_some]
          split
          · rfl
          · simp [map, List.map_set, kept]

theorem ask_map {f : ρ → τ} {check : ρ → Action σ Empty Bool} {check' : τ → Action σ Empty Bool}
    (same : ∀ thing, check' (f thing) = check thing) (place : Nat) (bench : Bench ρ σ) :
    (bench.map f).ask check' place = (bench.ask check place).map f := by
  unfold ask
  rw [held_map]
  cases bench.held place with
  | none => rfl
  | some thing => simp only [Option.map_some, same, map]

end Bench

structure Kit (σ E ι ρ : Type) where
  new : ι → ρ
  always : ρ
  clone : ρ → ρ
  and : ρ → ρ → ρ
  check : E → ρ → Action σ Empty Bool

def rules (meaning : ι → E → Action σ Empty Bool) : Kit σ E ι (Rule σ E) where
  new label := .of (meaning label)
  always := .always
  clone := .clone
  and := .and
  check event rule := rule.check event

def drafts (meaning : ι → E → Action σ Empty Bool) : Kit σ E ι (Draft ι) where
  new := .part
  always := .always
  clone := .clone
  and := .and
  check event draft := (draft.build meaning).check event

namespace Kit
variable {ρ : Type} (kit : Kit σ E ι ρ)

def step (bench : Bench ρ σ) : Move ι E → Bench ρ σ
  | .new label => bench.add (some (kit.new label))
  | .always => bench.add (some kit.always)
  | .clone place => bench.add ((bench.held place).map kit.clone)
  | .and first second => bench.merge kit.and first second
  | .check place event => bench.ask (kit.check event) place

def run (moves : List (Move ι E)) (bench : Bench ρ σ) : Bench ρ σ := moves.foldl kit.step bench

variable {bench : Bench ρ σ} {move : Move ι E} {moves : List (Move ι E)} {place : Nat} {thing : ρ}

theorem step_kept (spared : ¬move.takes place) (there : bench.held place = some thing) :
    (kit.step bench move).held place = some thing := by
  cases move with
  | new | always | clone => exact Bench.held_add there _
  | and first second =>
      obtain ⟨apart, away⟩ := not_or.mp spared
      exact (Bench.held_merge kit.and apart away).trans there
  | check asked event => exact (Bench.held_ask (kit.check event) asked place bench).trans there

theorem run_kept (spared : ∀ move ∈ moves, ¬move.takes place) (there : bench.held place = some thing) :
    (kit.run moves bench).held place = some thing := by
  induction moves generalizing bench with
  | nil => exact there
  | cons move rest ih =>
      have kept := kit.step_kept (spared move List.mem_cons_self) there
      exact ih (fun later member => spared later (List.mem_cons_of_mem _ member)) kept

theorem step_still (builds : move.builds) (bench : Bench ρ σ) :
    (kit.step bench move).world = bench.world ∧ (kit.step bench move).answers = bench.answers := by
  cases move with
  | new | always | clone => exact ⟨rfl, rfl⟩
  | and first second => exact Bench.merge_still kit.and first second bench
  | check => exact builds.elim

theorem run_still (builds : ∀ move ∈ moves, move.builds) (bench : Bench ρ σ) :
    (kit.run moves bench).world = bench.world ∧ (kit.run moves bench).answers = bench.answers := by
  induction moves generalizing bench with
  | nil => exact ⟨rfl, rfl⟩
  | cons move rest ih =>
      obtain ⟨world, answers⟩ := kit.step_still (builds move List.mem_cons_self) bench
      obtain ⟨later, more⟩ := ih (fun next member => builds next (List.mem_cons_of_mem _ member)) (kit.step bench move)
      exact ⟨later.trans world, more.trans answers⟩

end Kit

variable {meaning : ι → E → Action σ Empty Bool}

theorem step_build (bench : Bench (Draft ι) σ) (move : Move ι E) : (rules meaning).step (bench.map (·.build meaning)) move =
    ((drafts meaning).step bench move).map (·.build meaning) := by
  cases move with
  | new label => exact Bench.add_map _ bench (some (.part label))
  | always => exact Bench.add_map _ bench (some .always)
  | clone place =>
      simp only [Kit.step, Bench.held_map, ← Bench.add_map]
      cases bench.held place <;> rfl
  | and first second => exact Bench.merge_map (fun _ _ => rfl) first second bench
  | check place event => exact Bench.ask_map (fun _ => rfl) place bench

theorem run_build (moves : List (Move ι E)) (bench : Bench (Draft ι) σ) :
    (rules meaning).run moves (bench.map (·.build meaning)) =
      ((drafts meaning).run moves bench).map (·.build meaning) := by
  induction moves generalizing bench with
  | nil => rfl
  | cons move rest ih =>
      have first : (rules meaning).run (move :: rest) (bench.map (·.build meaning)) =
          (rules meaning).run rest (((drafts meaning).step bench move).map (·.build meaning)) :=
        congrArg ((rules meaning).run rest) (step_build bench move)
      exact first.trans (ih _)

def Draft.conduct (meaning : ι → E → Action σ Empty Bool) (event : E) (draft : Draft ι) :
    Action (σ × List (Asked σ ι)) Empty Bool :=
  (draft.build (recorded meaning)).check event

structure Composed (meaning : ι → E → Action σ Empty Bool) (moves : List (Move ι E)) : Prop where
  conducted : ∀ (draft : Draft ι) event world past, ∃ record outcome after,
    draft.conduct meaning event (world, past) = (outcome, after, past ++ record) ∧
      (draft.build meaning).check event world = (outcome, after) ∧
      Conducted meaning event draft.leaves world record outcome after
  associative : ∀ (a b c : Draft ι) event,
    ((a.and b).and c).conduct meaning event = (a.and (b.and c)).conduct meaning event
  alwaysFirst : ∀ (a : Draft ι) event, (Draft.always.and a).conduct meaning event = a.conduct meaning event
  alwaysSecond : ∀ (a : Draft ι) event, (a.and .always).conduct meaning event = a.conduct meaning event
  cloned : ∀ (a : Draft ι) event, a.clone.conduct meaning event = a.conduct meaning event
  -- However rules are made, copied, put together and checked in turn, each one that is there is
  -- what its draft says, and so is each answer.
  built : ∀ world, (rules meaning).run moves ⟨[], world, []⟩ =
    ((drafts meaning).run moves ⟨[], world, []⟩).map (·.build meaning)
  kept : ∀ bench place rule, (∀ move ∈ moves, ¬move.takes place) → bench.held place = some rule →
    ((rules meaning).run moves bench).held place = some rule
  still : ∀ bench, (∀ move ∈ moves, move.builds) →
    ((rules meaning).run moves bench).world = bench.world ∧ ((rules meaning).run moves bench).answers = bench.answers

theorem rules_composed (meaning : ι → E → Action σ Empty Bool) (moves : List (Move ι E)) : Composed meaning moves where
  conducted draft event world past := by
    rw [Draft.conduct, Draft.check_build, Draft.check_build]
    exact checkParts_conducted meaning event draft.leaves world past
  associative a b c event := congrArg (Rule.check · event) (and_assoc ..)
  alwaysFirst a event := congrArg (Rule.check · event) (always_and _)
  alwaysSecond a event := congrArg (Rule.check · event) (and_always _)
  cloned _ _ := rfl
  built world := run_build moves ⟨[], world, []⟩
  kept bench place rule spared there := Kit.run_kept _ spared there
  still bench builds := Kit.run_still _ builds bench

end FeatureGate.Rule
