import FeatureGate.Json.Reading
import FeatureGate.Json.Writing
import Mathlib.Data.List.TakeWhile

namespace FeatureGate.Json

section Strings
variable {c e : Char} {rest : List Char}

theorem decode_unit {code : Nat} (control : code < 0x20) (pieces : List Piece) :
    decode (.unit code :: pieces) = (decode pieces).map (Char.ofNat code :: ·) := by
  have plain : isHigh code = false ∧ isLow code = false := by
    simp only [isHigh, isLow, Bool.and_eq_false_iff, decide_eq_false_iff_not]
    omega
  cases pieces with
  | nil => simp [decode, plain]
  | cons next pieces => cases next <;> simp [decode, plain]

theorem hexValue?_hexPair : ∀ code < 0x20, hexValue? (['0', '0'] ++ hexPair code) = some code := by decide +kernel

theorem escapedChar_ways (c : Char) :
    (∃ e, e ≠ 'u' ∧ escaped? e = some c ∧ escapedChar c = ['\\', e]) ∨
      (c < ' ' ∧ escapedChar c = ['\\', 'u', '0', '0'] ++ hexPair c.toNat) ∨
      (¬c < ' ' ∧ c ≠ '"' ∧ c ≠ '\\' ∧ escapedChar c = [c]) := by
  by_cases short : c ∈ ['"', '\\', '\x08', '\x0c', '\n', '\r', '\t']
  · refine .inl ?_
    simp only [List.mem_cons, List.not_mem_nil, or_false] at short
    rcases short with rfl | rfl | rfl | rfl | rfl | rfl | rfl <;> exact ⟨_, by decide, rfl, rfl⟩
  · refine .inr ?_
    simp only [List.mem_cons, List.not_mem_nil, or_false, not_or] at short
    by_cases control : c < ' '
    · exact .inl ⟨control, by simp [escapedChar, short, control]⟩
    · exact .inr ⟨control, short.1, short.2.1, by simp [escapedChar, short, control]⟩

theorem stringBody_short (letter : e ≠ 'u') (means : escaped? e = some c) (rest : List Char) :
    stringBody ('\\' :: e :: rest) = (stringBody rest).map fun read => (.char c :: read.1, read.2) := by
  rw [stringBody, means]
  · cases stringBody rest <;> rfl
  · exact fun _ _ _ _ _ is _ => letter is

theorem stringBody_unit {code : Nat} {a b c d : Char} (means : hexValue? [a, b, c, d] = some code) (rest : List Char) :
    stringBody ('\\' :: 'u' :: a :: b :: c :: d :: rest) =
      (stringBody rest).map fun read => (.unit code :: read.1, read.2) := by
  rw [stringBody, means]
  cases stringBody rest <;> rfl

theorem stringBody_plain (high : ¬c < ' ') (quote : c ≠ '"') (slash : c ≠ '\\') (rest : List Char) :
    stringBody (c :: rest) = (stringBody rest).map fun read => (.char c :: read.1, read.2) := by
  rw [stringBody]
  · rw [if_neg (not_or.mpr ⟨high, slash⟩)]
  all_goals simp_all

-- However a character is written, it is read as one piece, and that piece decodes to it.
theorem escapedChar_reads (c : Char) : ∃ piece,
    (∀ rest, stringBody (escapedChar c ++ rest) = (stringBody rest).map fun read => (piece :: read.1, read.2)) ∧
      ∀ pieces, decode (piece :: pieces) = (decode pieces).map (c :: ·) := by
  rcases escapedChar_ways c with ⟨e, letter, means, is⟩ | ⟨control, is⟩ | ⟨high, quote, slash, is⟩
  · exact ⟨.char c, fun rest => is ▸ stringBody_short letter means rest, fun _ => rfl⟩
  · have code : c.toNat < 0x20 := control
    refine ⟨.unit c.toNat, fun rest => is ▸ stringBody_unit (hexValue?_hexPair _ code) rest, fun pieces => ?_⟩
    rw [decode_unit code, Char.ofNat_toNat]
  · exact ⟨.char c, fun rest => is ▸ stringBody_plain high quote slash rest, fun _ => rfl⟩

theorem stringBody_written (cs rest : List Char) :
    ∃ pieces, stringBody (cs.flatMap escapedChar ++ '"' :: rest) = some (pieces, rest) ∧ decode pieces = some cs := by
  induction cs with
  | nil => exact ⟨[], rfl, rfl⟩
  | cons c cs ih =>
      obtain ⟨pieces, read, decodes⟩ := ih
      obtain ⟨piece, reads, means⟩ := escapedChar_reads c
      refine ⟨piece :: pieces, ?_, ?_⟩
      · rw [List.flatMap_cons, List.append_assoc, reads, read]
        rfl
      · rw [means, decodes]
        rfl

theorem string?_written (text : String) (rest : List Char) :
    string? (text.toList.flatMap escapedChar ++ '"' :: rest) = some (some text, rest) := by
  obtain ⟨pieces, read, decodes⟩ := stringBody_written text.toList rest
  simp [string?, read, decodes]

end Strings

section Steps
variable {fuel : Nat} {cs after rest left : List Char} {value item : Value} {items : List Value}
  {name : Option String} {members : List (Option String × Value)}

theorem items?_closed (fuel : Nat) (rest : List Char) : items? fuel (']' :: rest) = none := by
  match fuel with
  | 0 | 1 => rfl
  | fuel + 2 => rfl

theorem members?_closed (fuel : Nat) (rest : List Char) : members? fuel ('\x7d' :: rest) = none := by
  cases fuel <;> rfl

theorem value?_array (read : items? fuel (skipSpace rest) = some (items, left)) :
    value? (fuel + 1) ('[' :: rest) = some (.array items, left) := by
  rw [value?]
  split
  · rename_i closed
    rw [closed, items?_closed] at read
    cases read
  · rw [read]
    rfl

theorem value?_object (read : members? fuel (skipSpace rest) = some (members, left)) :
    value? (fuel + 1) ('\x7b' :: rest) = some (.object members, left) := by
  rw [value?]
  split
  · rename_i closed
    rw [closed, members?_closed] at read
    cases read
  · rw [read]
    rfl

theorem items?_last (read : value? fuel cs = some (item, after)) (closes : skipSpace after = ']' :: rest) :
    items? (fuel + 1) cs = some ([item], rest) := by
  simp [items?, read, closes]

theorem items?_more (read : value? fuel cs = some (item, after)) (goes : skipSpace after = ',' :: rest)
    (later : items? fuel (skipSpace rest) = some (items, left)) : items? (fuel + 1) cs = some (item :: items, left) := by
  simp [items?, read, goes, later]

theorem members?_last {named colon : List Char} (names : string? named = some (name, colon))
    (parts : skipSpace colon = ':' :: cs) (read : value? fuel (skipSpace cs) = some (value, after))
    (closes : skipSpace after = '\x7d' :: rest) : members? (fuel + 1) ('"' :: named) = some ([(name, value)], rest) := by
  simp [members?, names, parts, read, closes]

theorem members?_more {named colon : List Char} (names : string? named = some (name, colon))
    (parts : skipSpace colon = ':' :: cs) (read : value? fuel (skipSpace cs) = some (value, after))
    (goes : skipSpace after = ',' :: rest) (later : members? fuel (skipSpace rest) = some (members, left)) :
    members? (fuel + 1) ('"' :: named) = some ((name, value) :: members, left) := by
  simp [members?, names, parts, read, goes, later]

end Steps

section Values
variable {form : Form} {rest : List Char}

def Ends (rest : List Char) : Prop :=
  ∀ c after, rest = c :: after → Text.isDigit c = false ∧ c ≠ '.' ∧ c ≠ 'e' ∧ c ≠ 'E'

theorem Ends.cons {c : Char} (apart : Text.isDigit c = false ∧ c ≠ '.' ∧ c ≠ 'e' ∧ c ≠ 'E') (rest : List Char) :
    Ends (c :: rest) := by
  intro d after is
  cases is
  exact apart

theorem zero_finite : Approximate.isFinite (Approximate.scaled ['0'] 0) = true := by decide +kernel

theorem number?_zero (ends : Ends rest) : number? ('0' :: rest) = some (true, rest) := by
  cases rest with
  | nil => simp [number?, exponent?, Text.isDigit, zero_finite]
  | cons c rest =>
      obtain ⟨digit, point, small, large⟩ := ends c rest rfl
      have zero : Text.isDigit '0' = true := by decide
      simp [number?, exponent?, zero, digit, point, small, large, zero_finite]

theorem skipSpace_lineBreak (form : Form) (level : Nat) (rest : List Char) :
    skipSpace (form.lineBreak level ++ rest) = skipSpace rest := by
  cases form with
  | compact => rfl
  | lines =>
      have blanks : ∀ count, skipSpace (List.replicate count ' ' ++ rest) = skipSpace rest := by
        intro count
        induction count with
        | zero => rfl
        | succ count ih => exact ih
      exact blanks (2 * level)

theorem Ends.lineBreak (form : Form) (level : Nat) (ends : Ends rest) : Ends (form.lineBreak level ++ rest) := by
  cases form with
  | compact => exact ends
  | lines => exact .cons (by decide) _

theorem written_head (form : Form) (level : Nat) (value : Value) :
    ∃ c after, written form level value = c :: after ∧ isSpace c = false := by
  cases value with
  | null => exact ⟨'n', _, rfl, by decide⟩
  | boolean truth => cases truth <;> exact ⟨_, _, rfl, by decide⟩
  | number => exact ⟨'0', _, rfl, by decide⟩
  | string => exact ⟨'"', _, rfl, by decide⟩
  | array items => cases items <;> exact ⟨'[', _, rfl, by decide⟩
  | object members => cases members <;> exact ⟨'\x7b', _, rfl, by decide⟩

theorem skipSpace_written (form : Form) (level : Nat) (value : Value) (rest : List Char) :
    skipSpace (written form level value ++ rest) = written form level value ++ rest := by
  obtain ⟨c, after, is, solid⟩ := written_head form level value
  rw [is]
  simp [skipSpace, solid]

theorem skipSpace_colon (form : Form) (rest : List Char) :
    ∃ after, form.colon ++ rest = ':' :: after ∧ skipSpace after = skipSpace rest := by
  cases form <;> exact ⟨_, rfl, rfl⟩

theorem member_written (form : Form) (level : Nat) (name : String) (value : Value) (rest : List Char) :
    ∃ after, skipSpace (form.lineBreak level ++ quotedText (some name) ++ form.colon ++ written form level value ++ rest) =
        '"' :: (name.toList.flatMap escapedChar ++ '"' :: ':' :: after) ∧
      skipSpace after = written form level value ++ rest := by
  obtain ⟨after, parts, skips⟩ := skipSpace_colon form (written form level value ++ rest)
  refine ⟨after, ?_, skips.trans (skipSpace_written ..)⟩
  simp only [List.append_assoc, skipSpace_lineBreak, parts, quotedText, quotedChars]
  simp [skipSpace, isSpace]

mutual

-- By induction on the value. Twice the length of the text is fuel enough: an array takes a step
-- for itself and one for each item, and there is a character for each of them.
theorem value?_written (form : Form) : ∀ (value : Value) (level fuel : Nat) (rest : List Char), value.isSound = true →
    Ends rest → 2 * (written form level value).length ≤ fuel →
    value? fuel (written form level value ++ rest) = some (value, rest)
  | value, level, 0, _, _, _, enough => by
      obtain ⟨c, after, is, _⟩ := written_head form level value
      simp [is] at enough
  | .null, _, _ + 1, _, _, _, _ => rfl
  | .boolean true, _, _ + 1, _, _, _, _ => rfl
  | .boolean false, _, _ + 1, _, _, _, _ => rfl
  | .number isFinite, _, _ + 1, _, sound, ends, _ => by
      cases (sound : isFinite = true)
      simp [written, value?, number?_zero ends]
  | .string none, _, _ + 1, _, sound, _, _ => nomatch sound
  | .string (some text), _, _ + 1, rest, _, _, _ => by
      simp [written, quotedText, quotedChars, value?, string?_written]
  | .array [], _, _ + 1, _, _, _, _ => rfl
  | .array (item :: items), level, fuel + 1, rest, sound, _, enough => by
      simp only [written, List.length_append, List.length_cons, List.length_nil] at enough
      have read := items?_written form (item :: items) (by simp) (level + 1) level fuel rest sound (by omega)
      simpa [written] using value?_array read
  | .object [], _, _ + 1, _, _, _, _ => rfl
  | .object (member :: members), level, fuel + 1, rest, sound, _, enough => by
      simp only [written, List.length_append, List.length_cons, List.length_nil] at enough
      have read := members?_written form (member :: members) (by simp) (level + 1) level fuel rest sound (by omega)
      simpa [written] using value?_object read

theorem items?_written (form : Form) : ∀ (items : List Value), items ≠ [] →
    ∀ (level outer fuel : Nat) (rest : List Char),
    Value.areSoundItems items = true → 2 * (writtenItems form level items).length + 1 ≤ fuel →
    items? fuel (skipSpace (writtenItems form level items ++ (form.lineBreak outer ++ ']' :: rest))) = some (items, rest)
  | [], some?, _, _, _, _, _, _ => (some? rfl).elim
  | _, _, _, _, 0, _, _, enough => by omega
  | [item], _, level, outer, fuel + 1, rest, sound, enough => by
      simp only [Value.areSoundItems, Bool.and_true] at sound
      simp only [writtenItems, List.length_append] at enough
      rw [writtenItems, List.append_assoc, skipSpace_lineBreak, skipSpace_written]
      refine items?_last (value?_written form item level fuel _ sound (.lineBreak _ _ (.cons (by decide) _)) (by omega)) ?_
      rw [skipSpace_lineBreak]
      rfl
  | item :: next :: items, _, level, outer, fuel + 1, rest, sound, enough => by
      rw [Value.areSoundItems, Bool.and_eq_true] at sound
      simp only [writtenItems, List.length_append, List.length_cons] at enough
      simp only [writtenItems, List.append_assoc, skipSpace_lineBreak, skipSpace_written]
      refine items?_more (value?_written form item level fuel _ sound.1 (.cons (by decide) _) (by omega)) rfl ?_
      exact items?_written form (next :: items) (by simp) level outer fuel rest sound.2 (by omega)

theorem members?_written (form : Form) : ∀ (members : List (Option String × Value)), members ≠ [] →
    ∀ (level outer fuel : Nat) (rest : List Char),
    Value.areSoundMembers members = true → 2 * (writtenMembers form level members).length + 1 ≤ fuel →
    members? fuel (skipSpace (writtenMembers form level members ++ (form.lineBreak outer ++ '\x7d' :: rest))) = some (members, rest)
  | [], some?, _, _, _, _, _, _ => (some? rfl).elim
  | _, _, _, _, 0, _, _, enough => by omega
  | (none, _) :: _, _, _, _, _ + 1, _, sound, _ => nomatch sound
  | [(some name, value)], _, level, outer, fuel + 1, rest, sound, enough => by
      simp only [Value.areSoundMembers, Option.isSome_some, Bool.true_and, Bool.and_true] at sound
      simp only [writtenMembers, List.length_append] at enough
      obtain ⟨after, parts, read⟩ := member_written form level name value (form.lineBreak outer ++ '\x7d' :: rest)
      rw [writtenMembers, parts]
      refine members?_last (string?_written name _) rfl (read.symm ▸ value?_written form value level fuel _ sound
        (.lineBreak _ _ (.cons (by decide) _)) (by omega)) (skipSpace_lineBreak ..)
  | (some name, value) :: next :: members, _, level, outer, fuel + 1, rest, sound, enough => by
      simp only [Value.areSoundMembers, Option.isSome_some, Bool.true_and, Bool.and_eq_true] at sound
      simp only [writtenMembers, List.length_append, List.length_cons] at enough
      obtain ⟨after, parts, read⟩ := member_written form level name value
        (',' :: (writtenMembers form level (next :: members) ++ (form.lineBreak outer ++ '\x7d' :: rest)))
      simp only [writtenMembers, List.append_assoc, List.cons_append, List.nil_append] at parts ⊢
      rw [parts]
      refine members?_more (string?_written name _) rfl (read.symm ▸ value?_written form value level fuel _ sound.1
        (.cons (by decide) _) (by omega)) rfl ?_
      exact members?_written form (next :: members) (by simp) level outer fuel rest
        (by simpa [Value.areSoundMembers] using sound.2) (by omega)

end

theorem parse_written (form : Form) {value : Value} (sound : value.isSound = true) {blanks : List Char}
    (blank : ∀ c ∈ blanks, isSpace c = true) : parse (String.ofList (written form 0 value ++ blanks)) = some value := by
  have ends : Ends blanks := by
    rintro c after rfl
    have space := blank c List.mem_cons_self
    simp only [isSpace, Bool.or_eq_true, decide_eq_true_eq] at space
    rcases space with ((rfl | rfl) | rfl) | rfl <;> decide
  have empty : skipSpace blanks = [] := List.dropWhile_eq_nil_iff.mpr blank
  have read := value?_written form value 0 (2 * (written form 0 value ++ blanks).length + 2) blanks sound ends
    (by rw [List.length_append]; omega)
  rw [parse, String.toList_ofList, skipSpace_written]
  simp only [read, empty]
  rfl

example : (Value.ofText "\"\\\x00\n😀").text .compact = "\"\\\"\\\\\\u0000\\n😀\"" := by decide +kernel

end Values
end FeatureGate.Json
