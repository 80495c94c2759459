import Mathlib.Data.List.TakeWhile
import FeatureGate.Console.Session
import FeatureGate.Proofs.Tokens

namespace FeatureGate

def FeatureName.Spells (name : FeatureName) (text : String) : Prop :=
  text = name.text ∧ name.plugin ≠ "" ∧ '.' ∉ name.plugin.toList ∧ name.feature ≠ ""

theorem FeatureName.text_toList (name : FeatureName) :
    name.text.toList = name.plugin.toList ++ '.' :: name.feature.toList := by simp [FeatureName.text]

theorem FeatureName.Spells.read {name : FeatureName} {text : String} (spells : name.Spells text) :
    FeatureName.ofText? text = some name := by
  obtain ⟨rfl, plugin, dotless, feature⟩ := spells
  have before : ∀ c ∈ name.plugin.toList, (c != '.') = true := by
    intro c member
    simpa using fun dot : c = '.' => dotless (dot ▸ member)
  have taken : name.text.toList.takeWhile (· != '.') = name.plugin.toList := by
    rw [name.text_toList, List.takeWhile_append_of_pos before]
    simp
  have left : name.text.toList.dropWhile (· != '.') = '.' :: name.feature.toList := by
    rw [name.text_toList, List.dropWhile_append_of_pos before]
    simp
  simp [FeatureName.ofText?, taken, left, plugin, feature]

theorem FeatureName.ofText?_exact {name : FeatureName} {text : String} :
    FeatureName.ofText? text = some name ↔ name.Spells text := by
  refine ⟨fun read => ?_, FeatureName.Spells.read⟩
  have parts := text.toList.takeWhile_append_dropWhile (p := (· != '.'))
  have dotless : '.' ∉ text.toList.takeWhile (· != '.') := by
    intro member
    simpa using List.mem_takeWhile_imp member
  have dot := text.toList.head?_dropWhile_not (· != '.')
  simp only [FeatureName.ofText?] at read
  generalize text.toList.takeWhile (· != '.') = plugin at read parts dotless
  generalize text.toList.dropWhile (· != '.') = rest at read parts dot
  cases rest with
  | nil => cases read
  | cons c feature =>
      obtain rfl : c = '.' := by simpa using dot
      obtain ⟨⟨plugin_full, feature_full⟩, rfl⟩ :
          (plugin ≠ [] ∧ feature ≠ []) ∧ FeatureName.mk (String.ofList plugin) (String.ofList feature) = name := by
        simpa using read
      refine ⟨String.toList_injective ?_, by simpa using plugin_full, by simpa using dotless,
        by simpa using feature_full⟩
      rw [FeatureName.text_toList]
      simpa using parts.symm

theorem Permission.ofToggle?_word (state : Permission) : Permission.ofToggle? state.word = some state := by
  cases state <;> decide

theorem words_state (state : Permission) : Text.words state.word = [state.word] := by
  cases state <;> decide +kernel

namespace ChatCommand

-- What tokens mean after a kind. Where several things are wrong it is the first of
-- them in this order that is said.
inductive Phrase : String → List String → Except String ChatCommand → Prop
  | short {kind tokens} : tokens.length < 2 →
      Phrase kind tokens (.error "Please provide a feature and a permission level.")
  | target {kind first second more} : (∀ name : FeatureName, ¬ name.Spells first) →
      Phrase kind (first :: second :: more) (.error "Please provide a valid feature.")
  | level {kind first second more} {name : FeatureName} : name.Spells first → Permission.ofToggle? second = none →
      Phrase kind (first :: second :: more) (.error "Please provide a valid permission level.")
  | kind {kind first second more state} {name : FeatureName} : name.Spells first →
      Permission.ofToggle? second = some state → kind ≠ "group" → kind ≠ "user" →
      Phrase kind (first :: second :: more) (.error ("Unknown command: " ++ kind))
  | group {first second more name state} : name.Spells first → Permission.ofToggle? second = some state →
      Phrase "group" (first :: second :: more) (.ok (.group name state))
  | self {first second name state} : name.Spells first → Permission.ofToggle? second = some state →
      Phrase "user" [first, second] (.ok (.user name state none))
  | other {first second who more name state} : name.Spells first → Permission.ofToggle? second = some state →
      Phrase "user" (first :: second :: who :: more) (.ok (.user name state (some who)))

variable {kind : String} {tokens : List String} {command : ChatCommand} {result : Except String ChatCommand}

theorem Phrase.read (phrase : Phrase kind tokens result) : (ofWords kind tokens).mapError CommandProblem.message = result := by
  cases phrase with
  | short few =>
      match tokens with
      | [] | [_] => rfl
      | _ :: _ :: _ => simp only [List.length_cons] at few; omega
  | @target _ first _ _ unnamed =>
      have unread : FeatureName.ofText? first = none := by
        cases found : FeatureName.ofText? first with
        | none => rfl
        | some name => exact absurd (FeatureName.ofText?_exact.1 found) (unnamed name)
      simp only [ofWords, unread]
      rfl
  | level spells refused =>
      simp only [ofWords, spells.read, refused]
      rfl
  | kind spells level group user =>
      simp only [ofWords, spells.read, level]
      rw [if_neg group, if_neg user]
      rfl
  | group spells level =>
      simp only [ofWords, spells.read, level]
      rfl
  | self spells level =>
      simp only [ofWords, spells.read, level]
      rfl
  | other spells level =>
      simp only [ofWords, spells.read, level]
      rfl

theorem Phrase.total (kind : String) (tokens : List String) : ∃ result, Phrase kind tokens result := by
  match tokens with
  | [] | [_] => exact ⟨_, .short (by simp)⟩
  | first :: second :: more =>
      by_cases named : ∃ name : FeatureName, name.Spells first
      case neg => exact ⟨_, .target (not_exists.1 named)⟩
      obtain ⟨name, spells⟩ := named
      cases level : Permission.ofToggle? second with
      | none => exact ⟨_, .level spells level⟩
      | some state =>
          by_cases group : kind = "group"
          · exact group ▸ ⟨_, .group spells level⟩
          by_cases user : kind = "user"
          · cases more with
            | nil => exact user ▸ ⟨_, .self spells level⟩
            | cons who more => exact user ▸ ⟨_, .other spells level⟩
          · exact ⟨_, .kind spells level group user⟩

theorem ofWords_exact : (ofWords kind tokens).mapError CommandProblem.message = result ↔ Phrase kind tokens result := by
  refine ⟨fun same => ?_, Phrase.read⟩
  obtain ⟨meant, phrase⟩ := Phrase.total kind tokens
  rwa [← same, phrase.read]

theorem ofWords_phrase (read : ofWords kind tokens = .ok command) : Phrase kind tokens (.ok command) :=
  ofWords_exact.1 (by rw [read]; rfl)

theorem ofWords_spells (read : ofWords kind tokens = .ok command) :
    ∃ token ∈ tokens, command.target.Spells token := by
  generalize meant : (Except.ok command : Except String ChatCommand) = meaning
  have phrase := ofWords_phrase read
  rw [meant] at phrase
  cases phrase with
  | short | target | level | kind => cases meant
  | group spells | self spells | other spells => cases meant; exact ⟨_, List.mem_cons_self, spells⟩

theorem ofWords_shown (solid : ∀ token ∈ tokens, token ≠ "" ∧ Text.Solid token.toList)
    (read : ofWords kind tokens = .ok command) : command.kind = kind ∧ parse kind command.arguments = .ok command := by
  have shown (name : FeatureName) (state : Permission) (token : String) (spells : name.Spells token)
      (member : token ∈ tokens) :
      Text.words (name.text ++ " " ++ state.word) = [name.text, state.word] := by
    obtain ⟨empty, whole⟩ := solid token member
    rw [spells.1] at empty whole
    rw [Text.words_spaced, Text.words_single empty whole, words_state]
    rfl
  have again (name : FeatureName) (token : String) (spells : name.Spells token) :
      FeatureName.ofText? name.text = some name := spells.1 ▸ spells.read
  generalize meant : (Except.ok command : Except String ChatCommand) = meaning
  have phrase := ofWords_phrase read
  rw [meant] at phrase
  cases phrase with
  | short | target | level | kind => cases meant
  | @group first _ _ name state spells level =>
      cases meant
      refine ⟨rfl, ?_⟩
      rw [parse, arguments, shown name state first spells (by simp)]
      simp [ofWords, again name first spells, Permission.ofToggle?_word]
  | @self first _ name state spells level =>
      cases meant
      refine ⟨rfl, ?_⟩
      rw [parse, arguments, shown name state first spells (by simp)]
      simp [ofWords, again name first spells, Permission.ofToggle?_word]
  | @other first _ who _ name state spells level =>
      cases meant
      refine ⟨rfl, ?_⟩
      obtain ⟨empty, whole⟩ := solid who (by simp)
      rw [parse, arguments, Text.words_spaced, shown name state first spells (by simp), Text.words_single empty whole]
      simp [ofWords, again name first spells, Permission.ofToggle?_word]

-- All that can be said about the commands of one kind. Arguments have one list of
-- tokens, the grammar decides on it, and nothing else about them counts: neither how
-- the tokens were spaced nor over which arguments of a command line they were spread.
structure Understood (kind : String) : Prop where
  tokens (arguments : String) : ∃! tokens : List String, Text.Cuts arguments.toList (tokens.map String.toList)
  exact {arguments : String} {tokens : List String} : Text.Cuts arguments.toList (tokens.map String.toList) →
    ∀ result, (parse kind arguments).mapError CommandProblem.message = result ↔ Phrase kind tokens result
  alike {one other : String} {tokens : List String} : Text.Cuts one.toList (tokens.map String.toList) →
    Text.Cuts other.toList (tokens.map String.toList) → parse kind one = parse kind other
  spread {one other : List String} : one.flatMap Text.words = other.flatMap Text.words →
    parse kind (" ".intercalate one) = parse kind (" ".intercalate other) ∧
      ∀ (σ : Type) (actor : Actor), (Console.carryOut (.chat actor kind one) : Action (Running σ) Error String) =
        Console.carryOut (.chat actor kind other)
  again {arguments : String} {command : ChatCommand} : parse kind arguments = .ok command →
    command.kind = kind ∧ parse kind command.arguments = .ok command

theorem parse_alike {one other : String} (same : Text.words one = Text.words other) :
    parse kind one = parse kind other := by rw [parse, same, parse]

theorem carryOut_chat (actor : Actor) (kind : String) (arguments : List String) :
    (Console.carryOut (.chat actor kind arguments) : Action (Running σ) Error String) = (do
      registerManagement
      let command ← Action.ofExcept ((parse kind (" ".intercalate arguments)).mapError .command)
      return Console.lines [← command.execute actor]) := rfl

theorem commands_understood (kind : String) : Understood kind where
  tokens arguments := ⟨Text.words arguments, (Text.words_exact arguments _).1 rfl,
    fun _ cuts => ((Text.words_exact arguments _).2 cuts).symm⟩
  exact cuts result := by
    rw [parse, (Text.words_exact _ _).2 cuts]
    exact ofWords_exact
  alike one other := parse_alike (((Text.words_exact _ _).2 one).trans ((Text.words_exact _ _).2 other).symm)
  spread {one other} same := by
    have parsed : parse kind (" ".intercalate one) = parse kind (" ".intercalate other) :=
      parse_alike (by rw [Text.words_intercalate, Text.words_intercalate, same])
    refine ⟨parsed, fun σ actor => ?_⟩
    rw [carryOut_chat, carryOut_chat, parsed]
  again read := ofWords_shown (fun _ member => Text.words_solid member) read

theorem user_understood :
    parse "user" (" ".intercalate ["weather.today  OFF\t", "alice", "bob"]) =
      .ok (.user ⟨"weather", "today"⟩ .deny (some "alice")) ∧
    parse "user" (" ".intercalate ["weather.today", "OFF alice bob"]) =
      .ok (.user ⟨"weather", "today"⟩ .deny (some "alice")) ∧
    parse "user" "weather.today deny alice" = .ok (.user ⟨"weather", "today"⟩ .deny (some "alice")) := by
  have understood := commands_understood "user"
  have read : parse "user" (" ".intercalate ["weather.today  OFF\t", "alice", "bob"]) =
      .ok (.user ⟨"weather", "today"⟩ .deny (some "alice")) := by decide +kernel
  have same : ["weather.today  OFF\t", "alice", "bob"].flatMap Text.words =
      ["weather.today", "OFF alice bob"].flatMap Text.words := by decide +kernel
  have spread := (understood.spread same).1
  exact ⟨read, spread.symm.trans read, (understood.again read).2⟩

end ChatCommand
end FeatureGate
