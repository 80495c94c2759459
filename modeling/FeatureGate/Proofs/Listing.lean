import FeatureGate.Proofs.Admission
import FeatureGate.Proofs.Chronicle
import FeatureGate.Proofs.Transcript

namespace FeatureGate
open Table Registry FeatureGate.Action

namespace Json

theorem defaultsAmong?_members (read : Value → Option Permission)
    (reads : ∀ permission, read (ofPermission permission) = some permission) (plugin feature : String)
    (defaults : Defaults) : defaultsAmong? read
      ((some "plugin", .ofText plugin) :: (some "feature", .ofText feature) ::
        (defaultMembers defaults).map fun member => (some member.1, member.2)) = some defaults := by
  simp [defaultsAmong?, defaultMembers, member?, reads]

theorem entry?_ofEntry (entry : Entry) : entry? (ofEntry entry) = some entry := by
  have reads (permission : Permission) :
      (word? isNullOrEmpty (ofPermission permission)).bind permissionNamed? = some permission := by
    cases permission <;> rfl
  have defaults := defaultsAmong?_members (fun value => (word? isNullOrEmpty value).bind permissionNamed?) reads
    entry.plugin entry.feature entry.defaults
  -- It is sound and not too deep, and both names are there once.
  have parts : entry? (ofEntry entry) =
      (defaultsAmong? (fun value => (word? isNullOrEmpty value).bind permissionNamed?)
        ((some "plugin", .ofText entry.plugin) :: (some "feature", .ofText entry.feature) ::
          (defaultMembers entry.defaults).map fun member => (some member.1, member.2))).bind
        fun defaults => some ⟨entry.plugin, entry.feature, defaults⟩ := rfl
  rw [parts, defaults]
  rfl

theorem entries?_ofEntry (entries : List Entry) : entries? (.array (entries.map ofEntry)) = some entries := by
  induction entries with
  | nil => rfl
  | cons entry rest ih =>
      have read : (rest.map ofEntry).mapM entry? = some rest := ih
      simp [entries?, entry?_ofEntry, read]

theorem entries_sound (entries : List Entry) : (Value.array (entries.map ofEntry)).isSound = true := by
  induction entries with
  | nil => rfl
  | cons entry rest ih => exact ih

theorem parse_text (form : Form) {value : Value} (sound : value.isSound = true) : parse (value.text form) = some value := by
  have read := parse_written form sound (List.forall_mem_nil _)
  rwa [List.append_nil] at read

def entriesOf? (text : String) : Option (List Entry) := (parse text).bind entries?

end Json

namespace Console
open CommandLine Sql

inductive Recites : Outcome ε String → Outcome ε (List Entry) → Prop where
  | told {text : String} {entries : List Entry} : Json.entriesOf? text = some entries → Recites (.done text) (.done entries)
  | failed (error : ε) : Recites (.failed error) (.failed error)
  | aborted : Recites .aborted .aborted

theorem entriesOf?_lines (entries : List Entry) : Json.entriesOf? (lines [entriesJson entries]) = some entries := by
  have written : lines [entriesJson entries] =
      String.ofList (Json.written .lines 0 (.array (entries.map Json.ofEntry)) ++ ['\n']) := by
    simp [lines, String.join, entriesJson, Json.Value.text, String.ofList_append]
  rw [Json.entriesOf?, written, Json.parse_written .lines (Json.entries_sound entries) (List.forall_mem_singleton.mpr rfl)]
  exact Json.entries?_ofEntry entries

theorem recites_listing (found : Action σ ε (List Entry)) (s : σ) :
    Recites ((found >>= fun entries => Pure.pure (lines [entriesJson entries])) s).1 (found s).1 := by
  rw [answer_apply]
  cases (found s).1 with
  | done entries => exact .told (entriesOf?_lines entries)
  | failed error => exact .failed error
  | aborted => exact .aborted

def featuresIn (superuser : Option String) (content : Database) : Outcome Error (List Entry) :=
  ((Service.init Connection.store superuser >>= fun _ => Service.reading allFeatures) ⟨{}, { database := content }⟩).1

theorem onDatabase_recites (superuser : Option String) (content : Database) :
    ∃ outcome, (onDatabase superuser (.listFeatures true) content).1 = outcome.mapError .permission ∧
      Recites outcome (featuresIn superuser content) := by
  have parts : session Connection.store superuser (.listFeatures true) =
      (Service.init Connection.store superuser >>= fun _ => Service.reading allFeatures) >>= fun entries =>
        Pure.pure (lines [entriesJson entries]) := (bind_assoc _ _ _).symm
  exact ⟨_, rfl, parts ▸ recites_listing _ _⟩

namespace Files

def opened (files : Files) (invocation : Invocation) : Database := (files.place? invocation).elim {} files.contentAt

theorem run_recites {files : Files} (parsed : Invocation.parse arguments = .ok invocation)
    (asks : invocation.directive = .listFeatures true) (well : (files.run arguments).1.code = 0) :
    ∃ text entries, (files.run arguments).1 = .printed text ∧ Json.entriesOf? text = some entries ∧
      featuresIn (files.seed? invocation) (files.opened invocation) = .done entries := by
  have told {content : Database} {after : Files}
      (ran : files.run arguments = (.ofOutcome (onDatabase (files.seed? invocation) invocation.directive content).1, after)) :
      ∃ text entries, (files.run arguments).1 = .printed text ∧ Json.entriesOf? text = some entries ∧
        featuresIn (files.seed? invocation) content = .done entries := by
    rw [asks] at ran
    obtain ⟨outcome, is, recites⟩ := onDatabase_recites (files.seed? invocation) content
    rw [ran, is] at well ⊢
    generalize featuresIn (files.seed? invocation) content = found at recites
    cases recites with
    | told means => exact ⟨_, _, rfl, means, rfl⟩
    | failed => cases well
    | aborted => cases well
  unfold opened
  rcases run_ways parsed files with
    ⟨problem, after, ran, _⟩ | ⟨after, nowhere, ran, _⟩ | ⟨place, after, stands, ran, _⟩
  · rw [ran] at well
    cases well
  · rw [nowhere]
    exact told ran
  · rw [stands]
    exact told ran

end Files
end Console

section Run
variable {E : Type} {past : History} {fleet : Fleet Shelf} {number : Nat}

theorem features_recorded (recorded : fleet.Recorded past) (set : (fleet.services number).isInitialized = true) :
    Service.reading allFeatures (fleet.running number) = (.done past.entries, fleet.running number) := by
  obtain ⟨ledger, holds⟩ := Option.isSome_iff_exists.mp set
  rcases recorded with ⟨rfl, rfl⟩ | opened
  · cases holds
  · obtain ⟨book, on, tells⟩ := opened.1
    have read : allFeatures Shelf.store fleet.world = (.done past.entries, fleet.world) := by
      rw [allFeatures_on on.features, tells.entries_read]
      rfl
    have held : (fleet.running number).service.ledger = some ledger := holds
    rw [Service.reading_some held, opened.2 number ledger holds]
    exact congrArg (fun ended : Outcome Error (List Entry) × Shelf => (ended.1, Running.mk _ ended.2)) read

-- What is written of features and read again, from a single entry to what a run prints.
structure Lossless : Prop where
  entry : ∀ entry : Entry, (Json.parse ((Json.ofEntry entry).text .compact)).bind Json.entry? = some entry
  -- Over every store and in each of its states the list is printed if it can be found.
  asked : ∀ {σ : Type} (running : Running σ), Console.Recites (Console.carryOut (.listFeatures true) running).1
    (Service.reading allFeatures running).1
  recorded : ∀ {E : Type} (actorOf : E → Option Actor) (errands : List (Nat × Errand Shelf E)) (number : Nat),
    let fleet := Fleet.after Shelf.store actorOf errands (Fleet.start Shelf.empty)
    (fleet.services number).isInitialized = true → ∃ text entries,
      Console.carryOut (.listFeatures true) (fleet.running number) = (.done text, fleet.running number) ∧
        Json.entriesOf? text = some entries ∧
        Service.reading allFeatures (fleet.running number) = (.done entries, fleet.running number)
  run : ∀ (files : Console.Files) arguments invocation, CommandLine.Invocation.parse arguments = .ok invocation →
    invocation.directive = .listFeatures true → (files.run arguments).1.code = 0 →
    ∃ text entries, (files.run arguments).1 = .printed text ∧ Json.entriesOf? text = some entries ∧
      Console.featuresIn (files.seed? invocation) (files.opened invocation) = .done entries

theorem listing_lossless : Lossless where
  entry entry := by
    have sound : (Json.ofEntry entry).isSound = true := rfl
    rw [Json.parse_text .compact sound]
    exact Json.entry?_ofEntry entry
  asked running := Console.recites_listing _ running
  recorded actorOf errands number := by
    intro fleet set
    have found := features_recorded (after_recorded actorOf errands (.inl ⟨rfl, rfl⟩)) set
    exact ⟨_, _, bind_done found, Console.entriesOf?_lines _, found⟩
  run _ _ _ parsed asks well := Console.Files.run_recites parsed asks well

end Run
end FeatureGate
