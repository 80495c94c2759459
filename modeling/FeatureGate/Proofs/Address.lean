import FeatureGate.Proofs.Integrity
import FeatureGate.Proofs.CommandPhrases

namespace FeatureGate
open Registry

namespace FeatureName
variable {name : FeatureName} {text : String}

theorem ofText?_isSome : (ofText? text).isSome = true ↔
    ∃ before after : List Char, text.toList = before ++ '.' :: after ∧ '.' ∉ before ∧ before ≠ [] ∧ after ≠ [] := by
  rw [Option.isSome_iff_exists]
  constructor
  · rintro ⟨name, read⟩
    obtain ⟨rfl, plugin, dotless, feature⟩ := ofText?_exact.1 read
    exact ⟨_, _, name.text_toList, dotless, by simpa using plugin, by simpa using feature⟩
  · rintro ⟨before, after, parts, dotless, full, full'⟩
    refine ⟨⟨String.ofList before, String.ofList after⟩, ofText?_exact.2 ⟨?_, ?_, ?_, ?_⟩⟩
    · exact String.toList_injective (by rw [parts, text_toList, String.toList_ofList, String.toList_ofList])
    · simpa using full
    · simpa using dotless
    · simpa using full'

theorem spells_text (named : Named (name.plugin, name.feature)) : name.Spells name.text ↔ '.' ∉ name.plugin.toList :=
  ⟨fun spells => spells.2.2.1, fun dotless => ⟨rfl, named.1, dotless, named.2⟩⟩

theorem text_solid : Text.Solid name.text.toList ↔ Text.Solid name.plugin.toList ∧ Text.Solid name.feature.toList := by
  have dot : Text.isBlank '.' = false := by decide
  rw [name.text_toList]
  simp only [Text.Solid, List.forall_mem_append, List.forall_mem_cons, dot, true_and]

theorem text_filled : name.text ≠ "" := by
  intro empty
  have none := congrArg String.toList empty
  rw [name.text_toList] at none
  simp at none

end FeatureName

namespace ChatCommand
variable {name : FeatureName} {kind : String} {command : ChatCommand}

theorem words_off : Text.words "off" = ["off"] := Text.words_single (by decide) (by simp [Text.Solid]; decide)

theorem parse_off (named : Named (name.plugin, name.feature)) (dotless : '.' ∉ name.plugin.toList)
    (solid : Text.Solid name.text.toList) : parse "group" (name.text ++ " off") = .ok (.group name .deny) := by
  have spells := (FeatureName.spells_text named).2 dotless
  have off : Permission.ofToggle? "off" = some .deny := by decide
  have apart : name.text ++ " off" = name.text ++ " " ++ "off" := by rw [String.append_assoc]; rfl
  rw [parse, apart, Text.words_spaced, Text.words_single FeatureName.text_filled solid, words_off]
  simp [ofWords, spells.read, off]

theorem parse_target {arguments : String} (parsed : parse kind arguments = .ok command) :
    '.' ∉ command.target.plugin.toList ∧ Text.Solid command.target.text.toList := by
  obtain ⟨token, member, rfl, _, dotless, _⟩ := ofWords_spells parsed
  exact ⟨dotless, (Text.words_solid member).2⟩

theorem parse_group {arguments : String} (parsed : parse "group" arguments = .ok command) :
    command = .group command.target command.state := by
  obtain ⟨kind, _⟩ := ofWords_shown (fun _ member => Text.words_solid member) parsed
  cases command with
  | group target state => rfl
  | user target state user => simp [ChatCommand.kind] at kind

end ChatCommand

namespace FeatureName

-- Which names a text can stand for. A text stands for a name when its first dot has
-- something on either side, and then it is what is shown of that name. Of the names
-- that can be registered, those without a dot in their plugin are read back, and a
-- group command reaches those of them that hold no blank; what is shown of any other
-- is refused there, or means another feature.
structure Addressing : Prop where
  named (text : String) : (ofText? text).isSome = true ↔
    ∃ before after : List Char, text.toList = before ++ '.' :: after ∧ '.' ∉ before ∧ before ≠ [] ∧ after ≠ []
  read {text : String} {name : FeatureName} : ofText? text = some name →
    '.' ∉ name.plugin.toList ∧ name.text = text
  registered (name : FeatureName) (update : Update) :
    (Mutation.updateFeature name.plugin name.feature update).invalid = none ↔ name.plugin ≠ "" ∧ name.feature ≠ ""
  shown (name : FeatureName) : name.plugin ≠ "" → name.feature ≠ "" →
    (ofText? name.text = some name ↔ '.' ∉ name.plugin.toList)
  reached (name : FeatureName) : name.plugin ≠ "" → name.feature ≠ "" →
    (ChatCommand.parse "group" (name.text ++ " off") = .ok (.group name .deny) ↔
      '.' ∉ name.plugin.toList ∧ Text.Solid name.plugin.toList ∧ Text.Solid name.feature.toList)
  missed (name : FeatureName) : name.plugin ≠ "" → name.feature ≠ "" →
    ¬('.' ∉ name.plugin.toList ∧ Text.Solid name.plugin.toList ∧ Text.Solid name.feature.toList) →
    (∃ problem, ChatCommand.parse "group" (name.text ++ " off") = .error problem) ∨
      ∃ other state, other ≠ name ∧ ChatCommand.parse "group" (name.text ++ " off") = .ok (.group other state)

theorem names_addressed : Addressing where
  named _ := ofText?_isSome
  read found := by
    obtain ⟨same, _, dotless, _⟩ := ofText?_exact.1 found
    exact ⟨dotless, same.symm⟩
  registered _ _ := emptyKey_none
  shown name plugin feature := ofText?_exact.trans (spells_text ⟨plugin, feature⟩)
  reached name plugin feature := by
    rw [← text_solid]
    exact ⟨ChatCommand.parse_target, fun clear => ChatCommand.parse_off ⟨plugin, feature⟩ clear.1 clear.2⟩
  missed name plugin feature unclear := by
    rw [← text_solid] at unclear
    cases parsed : ChatCommand.parse "group" (name.text ++ " off") with
    | error problem => exact .inl ⟨problem, rfl⟩
    | ok command =>
        refine .inr ⟨command.target, command.state, ?_, congrArg Except.ok (ChatCommand.parse_group parsed)⟩
        intro same
        exact unclear (same ▸ ChatCommand.parse_target parsed)

example : ofText? (text ⟨"chat.bot", "ask"⟩) = some ⟨"chat", "bot.ask"⟩ := by decide +kernel

end FeatureName
end FeatureGate
