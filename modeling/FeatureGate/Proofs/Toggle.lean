import Mathlib.Data.List.Induction
import Mathlib.Data.List.TakeWhile
import Mathlib.Data.Nat.Digits.Defs
import FeatureGate.Permission

namespace FeatureGate.Text

def worth (digits : List Char) : Nat := Nat.ofDigits 10 (digits.reverse.map digitValue)

structure Digits (digits : List Char) : Prop where
  full : digits ≠ []
  each : ∀ c ∈ digits, isDigit c = true

inductive Writes : List Char → Int → Prop
  | plain {digits} : Digits digits → Writes digits (worth digits)
  | plus {digits} : Digits digits → Writes ('+' :: digits) (worth digits)
  | minus {digits} : Digits digits → Writes ('-' :: digits) (-worth digits)

def InRange (value : Int) : Prop := minInteger ≤ value ∧ value ≤ maxInteger

variable {text core digits : List Char} {value : Int}

theorem decimalValue_worth (digits : List Char) : decimalValue digits = worth digits := by
  induction digits using List.reverseRecOn with
  | nil => rfl
  | append_singleton digits c ih =>
      have read : decimalValue (digits ++ [c]) = 10 * decimalValue digits + digitValue c := by simp [decimalValue]
      have worthy : worth (digits ++ [c]) = digitValue c + 10 * worth digits := by simp [worth, Nat.ofDigits_cons]
      omega

theorem decimal?_exact {number : Nat} : decimal? digits = some number ↔ Digits digits ∧ number = worth digits := by
  unfold decimal?
  rw [Option.ite_none_right_eq_some, decimalValue_worth, List.all_eq_true, Option.some.injEq]
  exact ⟨fun ⟨all, same⟩ => ⟨⟨all.1, all.2⟩, same.symm⟩, fun ⟨all, same⟩ => ⟨⟨all.full, all.each⟩, same.symm⟩⟩

theorem Digits.signed (all : Digits digits) : signed digits = (false, digits) := by
  cases digits with
  | nil => exact (all.full rfl).elim
  | cons c rest =>
      have digit := all.each c List.mem_cons_self
      unfold Text.signed
      split
      · rename_i same
        cases same
        exact absurd digit (by decide)
      · rename_i same
        cases same
        exact absurd digit (by decide)
      · rfl

theorem signed_ways (text : List Char) : (∃ rest, text = '-' :: rest ∧ signed text = (true, rest)) ∨
    (∃ rest, text = '+' :: rest ∧ signed text = (false, rest)) ∨ signed text = (false, text) := by
  unfold signed
  split
  · exact .inl ⟨_, rfl, rfl⟩
  · exact .inr (.inl ⟨_, rfl, rfl⟩)
  · exact .inr (.inr rfl)

theorem integer?_exact : integer? text = some value ↔ Writes text value ∧ InRange value := by
  unfold integer? InRange
  simp only [Option.bind_eq_some_iff, Option.ite_none_right_eq_some, Option.some.injEq]
  constructor
  · rintro ⟨number, read, within, rfl⟩
    obtain ⟨all, rfl⟩ := decimal?_exact.1 read
    refine ⟨?_, within⟩
    rcases signed_ways text with ⟨rest, rfl, parts⟩ | ⟨rest, rfl, parts⟩ | parts
    · rw [parts] at all ⊢
      exact .minus all
    · rw [parts] at all ⊢
      exact .plus all
    · rw [parts] at all ⊢
      exact .plain all
  · rintro ⟨writes, within⟩
    cases writes with
    | @plain digits all =>
        rw [all.signed]
        exact ⟨_, decimal?_exact.2 ⟨all, rfl⟩, within, rfl⟩
    | plus all => exact ⟨_, decimal?_exact.2 ⟨all, rfl⟩, within, rfl⟩
    | minus all => exact ⟨_, decimal?_exact.2 ⟨all, rfl⟩, within, rfl⟩

theorem Writes.unique {other : Int} (one : Writes text value) (another : Writes text other) : value = other := by
  have plain {c : Char} {digits : List Char} (all : Digits (c :: digits)) : isDigit c = true :=
    all.each c List.mem_cons_self
  cases one with
  | plain all => cases another with
      | plain => rfl
      | plus => exact absurd (plain all) (by decide)
      | minus => exact absurd (plain all) (by decide)
  | plus => cases another with
      | plain all => exact absurd (plain all) (by decide)
      | plus => rfl
  | minus => cases another with
      | plain all => exact absurd (plain all) (by decide)
      | minus => rfl

theorem isBlank_digit {c : Char} (digit : isDigit c = true) : isBlank c = false := by
  simp only [isDigit, Bool.and_eq_true, decide_eq_true_eq, Char.le_def, UInt32.le_iff_toNat_le] at digit
  have low : 48 ≤ c.toNat := digit.1
  have high : c.toNat ≤ 57 := digit.2
  simp [isBlank]
  omega

theorem Writes.solid (writes : Writes text value) : ∀ c ∈ text, isBlank c = false := by
  cases writes with
  | plain all => exact fun c member => isBlank_digit (all.each c member)
  | plus all => exact List.forall_mem_cons.2 ⟨by decide, fun c member => isBlank_digit (all.each c member)⟩
  | minus all => exact List.forall_mem_cons.2 ⟨by decide, fun c member => isBlank_digit (all.each c member)⟩

theorem Writes.digit (writes : Writes text value) : ∃ c ∈ text, isDigit c = true := by
  have first {digits : List Char} (all : Digits digits) : ∃ c ∈ digits, isDigit c = true := by
    obtain ⟨c, member⟩ := List.exists_mem_of_ne_nil digits all.full
    exact ⟨c, member, all.each c member⟩
  cases writes with
  | plain all => exact first all
  | plus all | minus all =>
      obtain ⟨c, member, digit⟩ := first all
      exact ⟨c, List.mem_cons_of_mem _ member, digit⟩

def Trims (text core : List Char) : Prop :=
  ∃ before after, text = before ++ core ++ after ∧ (∀ c ∈ before, isBlank c = true) ∧ (∀ c ∈ after, isBlank c = true) ∧
    (∀ c ∈ core.head?, isBlank c = false) ∧ ∀ c ∈ core.getLast?, isBlank c = false

theorem dropWhile_core {before rest : List Char} (blank : ∀ c ∈ before, isBlank c = true)
    (solid : ∀ c ∈ rest.head?, isBlank c = false) : (before ++ rest).dropWhile isBlank = rest := by
  rw [List.dropWhile_append_of_pos blank]
  cases rest with
  | nil => rfl
  | cons c rest => simp [solid c rfl]

theorem head?_dropWhile (text : List Char) : ∀ c ∈ (text.dropWhile isBlank).head?, isBlank c = false := by
  intro c member
  have stopped := text.head?_dropWhile_not isBlank
  rw [Option.mem_def.1 member] at stopped
  simpa using stopped

theorem trim_exact : trim text = core ↔ Trims text core := by
  constructor
  · rintro rfl
    have front := text.takeWhile_append_dropWhile (p := isBlank)
    have first := head?_dropWhile text
    unfold trim
    generalize text.dropWhile isBlank = rest at front first
    have back := congrArg List.reverse (rest.reverse.takeWhile_append_dropWhile (p := isBlank))
    rw [List.reverse_append, List.reverse_reverse] at back
    refine ⟨_, _, by rw [List.append_assoc, back, front], fun c member => List.mem_takeWhile_imp member, ?_, ?_, ?_⟩
    · intro c member
      exact List.mem_takeWhile_imp (List.mem_reverse.1 member)
    · intro c member
      refine first c ?_
      rw [← back, List.head?_append, Option.mem_def.1 member]
      rfl
    · rw [List.getLast?_reverse]
      exact head?_dropWhile _
  · rintro ⟨before, after, rfl, blank, blank', first, last⟩
    unfold trim
    cases core with
    | nil =>
        have all : ∀ c ∈ before ++ [] ++ after, isBlank c = true := by
          intro c member
          rw [List.append_nil] at member
          exact (List.mem_append.1 member).elim (blank c) (blank' c)
        rw [List.dropWhile_eq_nil_iff.2 all]
        rfl
    | cons c core =>
        have solid : ∀ d ∈ (c :: core).reverse.head?, isBlank d = false := by rwa [List.head?_reverse]
        have begins : ∀ d ∈ (c :: core ++ after).head?, isBlank d = false := first
        rw [List.append_assoc, dropWhile_core blank begins, List.reverse_append,
          dropWhile_core (fun d member => blank' d (List.mem_reverse.1 member)) solid, List.reverse_reverse]

end FeatureGate.Text

namespace FeatureGate.Permission
open Text

variable {toggle word : String} {core plain : List Char} {value : Int}

theorem allowWords_worth (known : word ∈ allowWords) (writes : Writes word.toList value) : value = 1 := by
  have digits : ∀ word ∈ allowWords, word.toList.any isDigit = true → word = "1" := by decide +kernel
  obtain rfl := digits word known (List.any_eq_true.2 writes.digit)
  exact writes.unique (.plain ⟨by decide, List.all_eq_true.1 (by decide)⟩)

theorem denyWords_worth (known : word ∈ denyWords) (writes : Writes word.toList value) : value = 0 := by
  have digits : ∀ word ∈ denyWords, word.toList.any isDigit = true → word = "0" := by decide +kernel
  obtain rfl := digits word known (List.any_eq_true.2 writes.digit)
  exact writes.unique (.plain ⟨by decide, List.all_eq_true.1 (by decide)⟩)

theorem words_apart (allowed : word ∈ allowWords) : word ∉ denyWords := by
  have apart : ∀ word ∈ allowWords, word ∉ denyWords := by decide +kernel
  exact apart word allowed

theorem words_solid (known : word ∈ allowWords ∨ word ∈ denyWords) : ∀ c ∈ word.toList, isBlank c = false := by
  have all : ∀ word ∈ allowWords ++ denyWords, word.toList.all (!isBlank ·) = true := by decide +kernel
  have each := List.all_eq_true.1 (all word (List.mem_append.2 known))
  exact fun c member => by simpa using each c member

-- What a toggle means, once the blanks around it are gone and its letters are small:
-- it is one of the words, or an integer in range, and nothing else means anything. So
-- nothing does that is a sign alone, has a blank inside, or is too large or too small.
structure Toggles (plain : List Char) (meant : Option Permission) : Prop where
  allows : meant = some .allow ↔
    String.ofList plain ∈ allowWords ∨ ∃ value, Writes plain value ∧ InRange value ∧ value ≠ 0
  denies : meant = some .deny ↔ String.ofList plain ∈ denyWords ∨ Writes plain 0
  fails : meant = none ↔ String.ofList plain ∉ allowWords ∧ String.ofList plain ∉ denyWords ∧
    ∀ value, Writes plain value → ¬InRange value
  sign : plain = ['+'] ∨ plain = ['-'] → meant = none
  parted : ∀ c ∈ plain, isBlank c = true → meant = none
  beyond : ∀ value, Writes plain value → ¬InRange value → meant = none

theorem ofBool_allow {answer : Bool} : ofBool answer = allow ↔ answer = true := by cases answer <;> simp [ofBool]

theorem ofBool_deny {answer : Bool} : ofBool answer = deny ↔ answer = false := by cases answer <;> simp [ofBool]

theorem ofToggle?_ways (trims : Trims toggle.toList core) :
    (String.ofList (lower core) ∈ allowWords ∧ ofToggle? toggle = some .allow) ∨
    (String.ofList (lower core) ∈ denyWords ∧ ofToggle? toggle = some .deny) ∨
    (String.ofList (lower core) ∉ allowWords ∧ String.ofList (lower core) ∉ denyWords ∧
      ofToggle? toggle = (integer? (lower core)).map fun number => ofBool (number != 0)) := by
  simp only [ofToggle?, trim_exact.2 trims, List.contains_iff_mem]
  by_cases allowed : String.ofList (lower core) ∈ allowWords
  · exact .inl ⟨allowed, if_pos allowed⟩
  rw [if_neg allowed]
  by_cases denied : String.ofList (lower core) ∈ denyWords
  · exact .inr (.inl ⟨denied, if_pos denied⟩)
  · exact .inr (.inr ⟨allowed, denied, if_neg denied⟩)

theorem ofToggle?_allow (trims : Trims toggle.toList core) : ofToggle? toggle = some .allow ↔
    String.ofList (lower core) ∈ allowWords ∨ ∃ value, Writes (lower core) value ∧ InRange value ∧ value ≠ 0 := by
  rcases ofToggle?_ways trims with ⟨allowed, read⟩ | ⟨denied, read⟩ | ⟨allowed, _, read⟩
  · exact iff_of_true read (.inl allowed)
  · rw [read]
    refine iff_of_false (by decide) ?_
    rintro (allowed | ⟨value, writes, _, other⟩)
    · exact words_apart allowed denied
    · exact other (denyWords_worth denied (by rwa [String.toList_ofList]))
  · simp only [read, allowed, false_or, Option.map_eq_some_iff, integer?_exact, ofBool_allow, bne_iff_ne, and_assoc]

theorem ofToggle?_deny (trims : Trims toggle.toList core) : ofToggle? toggle = some .deny ↔
    String.ofList (lower core) ∈ denyWords ∨ Writes (lower core) 0 := by
  rcases ofToggle?_ways trims with ⟨allowed, read⟩ | ⟨denied, read⟩ | ⟨_, denied, read⟩
  · rw [read]
    refine iff_of_false (by decide) ?_
    rintro (denied | writes)
    · exact words_apart allowed denied
    · exact absurd (allowWords_worth allowed (by rwa [String.toList_ofList])) zero_ne_one
  · exact iff_of_true read (.inl denied)
  · simp only [read, denied, false_or, Option.map_eq_some_iff, integer?_exact, ofBool_deny, bne_eq_false_iff_eq]
    constructor
    · rintro ⟨value, ⟨writes, _⟩, rfl⟩
      exact writes
    · exact fun writes => ⟨0, ⟨writes, by decide, by decide⟩, rfl⟩

theorem ofToggle?_none (trims : Trims toggle.toList core) : ofToggle? toggle = none ↔
    String.ofList (lower core) ∉ allowWords ∧ String.ofList (lower core) ∉ denyWords ∧
      ∀ value, Writes (lower core) value → ¬InRange value := by
  rcases ofToggle?_ways trims with ⟨allowed, read⟩ | ⟨denied, read⟩ | ⟨allowed, denied, read⟩
  · exact iff_of_false (by simp [read]) fun strange => strange.1 allowed
  · exact iff_of_false (by simp [read]) fun strange => strange.2.1 denied
  · rw [read, Option.map_eq_none_iff, Option.eq_none_iff_forall_ne_some]
    simp only [ne_eq, integer?_exact, not_and]
    exact ⟨fun unread => ⟨allowed, denied, unread⟩, fun strange => strange.2.2⟩

theorem writes_signed (writes : Writes plain value) : plain ≠ ['+'] ∧ plain ≠ ['-'] := by
  obtain ⟨c, member, digit⟩ := writes.digit
  constructor
  · rintro rfl
    cases List.mem_singleton.1 member
    exact absurd digit (by decide)
  · rintro rfl
    cases List.mem_singleton.1 member
    exact absurd digit (by decide)

theorem toggles_exact (toggle : String) : (∃! core, Trims toggle.toList core) ∧
    ∀ core, Trims toggle.toList core → Toggles (lower core) (ofToggle? toggle) := by
  refine ⟨⟨_, trim_exact.1 rfl, fun core trims => (trim_exact.2 trims).symm⟩, fun core trims => ?_⟩
  have fails := ofToggle?_none trims
  refine ⟨ofToggle?_allow trims, ofToggle?_deny trims, fails, ?_, ?_, ?_⟩
  · intro sign
    have unwritten : ∀ value, ¬Writes (lower core) value := fun value writes =>
      sign.elim (writes_signed writes).1 (writes_signed writes).2
    refine fails.2 ⟨?_, ?_, fun value writes => (unwritten value writes).elim⟩
    · rcases sign with same | same <;> rw [same] <;> decide
    · rcases sign with same | same <;> rw [same] <;> decide
  · intro c member blank
    have inside (word : String) (same : word = String.ofList (lower core)) : c ∈ word.toList := by
      rwa [same, String.toList_ofList]
    refine fails.2 ⟨fun known => ?_, fun known => ?_, fun value writes => ?_⟩
    · exact absurd blank (by simp [words_solid (.inl known) c (inside _ rfl)])
    · exact absurd blank (by simp [words_solid (.inr known) c (inside _ rfl)])
    · exact absurd blank (by simp [writes.solid c member])
  · intro value writes beyond
    have written : Writes (String.ofList (lower core)).toList value := by rwa [String.toList_ofList]
    refine fails.2 ⟨fun known => ?_, fun known => ?_, fun other another => writes.unique another ▸ beyond⟩
    · exact beyond (allowWords_worth known written ▸ ⟨by decide, by decide⟩)
    · exact beyond (denyWords_worth known written ▸ ⟨by decide, by decide⟩)

example : ofToggle? " +00\n" = some .deny := by decide +kernel

end FeatureGate.Permission
