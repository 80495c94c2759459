import FeatureGate.Text.Blank

namespace FeatureGate.Text

def Solid (cs : List Char) : Prop := ∀ c ∈ cs, isBlank c = false

-- How characters fall into runs without a blank. Each run is as long as it can be:
-- it starts at the front or after a blank, and a blank or the end follows it.
inductive Cuts : List Char → List (List Char) → Prop
  | none : Cuts [] []
  | blank {c cs tokens} : isBlank c = true → Cuts cs tokens → Cuts (c :: cs) tokens
  | last {token} : token ≠ [] → Solid token → Cuts token [token]
  | token {token c cs tokens} : token ≠ [] → Solid token → isBlank c = true → Cuts cs tokens →
      Cuts (token ++ c :: cs) (token :: tokens)

variable {run token cs : List Char} {tokens : List (List Char)}

theorem Solid.nil : Solid [] := List.forall_mem_nil _

theorem Solid.snoc {c : Char} (solid : Solid run) (sound : isBlank c = false) : Solid (run ++ [c]) := by
  intro d member
  rcases List.mem_append.1 member with old | new
  · exact solid d old
  · rw [List.mem_singleton.1 new]; exact sound

theorem wordsFrom_cuts (run cs : List Char) (solid : Solid run) : Cuts (run ++ cs) (wordsFrom run cs) := by
  induction cs generalizing run with
  | nil =>
      by_cases empty : run = []
      · simpa [wordsFrom, empty] using Cuts.none
      · simpa [wordsFrom, empty] using Cuts.last empty solid
  | cons c rest ih =>
      have later : Cuts rest (wordsFrom [] rest) := ih [] Solid.nil
      by_cases blank : isBlank c = true
      · by_cases empty : run = []
        · simpa [wordsFrom, blank, empty] using Cuts.blank blank later
        · simpa [wordsFrom, blank, empty] using Cuts.token empty solid blank later
      · have extended := ih (run ++ [c]) (solid.snoc (by simpa using blank))
        simpa [wordsFrom, blank] using extended

theorem wordsFrom_solid_append (run cs : List Char) (solid : Solid token) :
    wordsFrom run (token ++ cs) = wordsFrom (run ++ token) cs := by
  induction token generalizing run with
  | nil => simp
  | cons c rest ih =>
      have sound : isBlank c = false := solid c (by simp)
      have behind := ih (run ++ [c]) fun d member => solid d (List.mem_cons_of_mem c member)
      simpa [wordsFrom, sound] using behind

theorem wordsFrom_single (empty : token ≠ []) (solid : Solid token) : wordsFrom [] token = [token] := by
  simpa [wordsFrom, empty] using wordsFrom_solid_append [] [] solid

theorem Cuts.wordsFrom (cuts : Cuts cs tokens) : wordsFrom [] cs = tokens := by
  induction cuts with
  | none => rfl
  | blank blank _ ih => simpa [Text.wordsFrom, blank] using ih
  | last empty solid => exact wordsFrom_single empty solid
  | token empty solid blank _ ih => simpa [wordsFrom_solid_append _ _ solid, Text.wordsFrom, blank, empty] using ih

theorem words_exact (text : String) (tokens : List String) :
    words text = tokens ↔ Cuts text.toList (tokens.map String.toList) := by
  constructor
  · intro same
    subst same
    have cuts := wordsFrom_cuts [] text.toList Solid.nil
    rwa [words, List.map_map, show String.toList ∘ String.ofList = id from funext fun _ => String.toList_ofList,
      List.map_id]
  · intro cuts
    rw [words, cuts.wordsFrom, List.map_map,
      show String.ofList ∘ String.toList = id from funext fun _ => String.ofList_toList, List.map_id]

theorem words_solid {text word : String} (present : word ∈ words text) : word ≠ "" ∧ Solid word.toList := by
  obtain ⟨cs, member, rfl⟩ := List.mem_map.1 present
  obtain ⟨empty, solid⟩ := wordsFrom_solid [] text.toList Solid.nil cs member
  rw [String.toList_ofList]
  exact ⟨fun nothing => empty (by simpa using congrArg String.toList nothing), solid⟩

theorem words_single {text : String} (empty : text ≠ "") (solid : Solid text.toList) : words text = [text] := by
  rw [words, wordsFrom_single (fun nothing => empty (String.toList_eq_nil_iff.1 nothing)) solid]
  simp

theorem wordsFrom_blank_append {c : Char} (blank : isBlank c = true) (run cs rest : List Char) :
    wordsFrom run (cs ++ c :: rest) = wordsFrom run cs ++ wordsFrom [] rest := by
  induction cs generalizing run with
  | nil => by_cases empty : run = [] <;> simp [wordsFrom, blank, empty]
  | cons d cs ih => by_cases solid : isBlank d = true <;> by_cases empty : run = [] <;> simp [wordsFrom, ih, solid, empty]

theorem words_spaced (one other : String) : words (one ++ " " ++ other) = words one ++ words other := by
  have apart : (one ++ " " ++ other).toList = one.toList ++ ' ' :: other.toList := by simp
  rw [words, apart, wordsFrom_blank_append (by decide), List.map_append]
  rfl

theorem words_intercalate (texts : List String) : words (" ".intercalate texts) = texts.flatMap words := by
  induction texts with
  | nil => rfl
  | cons text rest ih => cases rest with
      | nil => simp
      | cons next rest => rw [String.intercalate_cons_cons, words_spaced, ih, ← List.flatMap_cons]

end FeatureGate.Text
