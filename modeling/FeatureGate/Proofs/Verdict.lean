import FeatureGate.Table.Store

namespace FeatureGate
open Table

def First (is : α → Prop) (found : α) (xs : List α) : Prop :=
  ∃ before after, xs = before ++ found :: after ∧ is found ∧ ∀ x ∈ before, ¬is x

theorem First.find? {xs : List α} {p : α → Bool} : xs.find? p = some found ↔ First (p · = true) found xs := by
  rw [List.find?_eq_some_iff_append]
  constructor
  · rintro ⟨is, before, after, parts, others⟩
    exact ⟨before, after, parts, is, fun x member => by simpa using others x member⟩
  · rintro ⟨before, after, parts, is, others⟩
    exact ⟨is, before, after, parts, fun x member => by simpa using others x member⟩

theorem First.findSome? {xs : List α} {f : α → Option β} :
    xs.findSome? f = some made ↔ ∃ found, First (fun x => ∃ any, f x = some any) found xs ∧ f found = some made := by
  rw [List.findSome?_eq_some_iff]
  constructor
  · rintro ⟨before, found, after, parts, is, others⟩
    exact ⟨found, ⟨before, after, parts, ⟨made, is⟩, fun x member => by simp [others x member]⟩, is⟩
  · rintro ⟨found, ⟨before, after, parts, _, others⟩, is⟩
    exact ⟨before, found, after, parts, is, fun x member => by simpa [Option.eq_none_iff_forall_ne_some] using others x member⟩

theorem First.congr {is is' : α → Prop} (same : ∀ x, is x ↔ is' x) : First is found xs ↔ First is' found xs := by
  simp only [First, same]

theorem Assoc.lookup_none {pairs : List (String × α)} : lookup name pairs = none ↔ name ∉ pairs.map (·.1) := by
  induction pairs with
  | nil => simp [lookup]
  | cons pair rest ih =>
      obtain ⟨held, value⟩ := pair
      by_cases same : held = name
      · simp [lookup, same]
      · simp [lookup, same, ih, Ne.symm same]

namespace Table

def Letter (c : Char) : Prop := ('a' ≤ c ∧ c ≤ 'z') ∨ ('A' ≤ c ∧ c ≤ 'Z')

def Plain (name : String) : Prop :=
  ∃ first rest, name.toList = first :: rest ∧ (Letter first ∨ first = '_') ∧
    ∀ c ∈ rest, Letter c ∨ ('0' ≤ c ∧ c ≤ '9') ∨ c = '_'

theorem isAlpha_letter (c : Char) : c.isAlpha = true ↔ Letter c := by
  have upper : c.isUpper = true ↔ 'A' ≤ c ∧ c ≤ 'Z' := decide_eq_true_iff
  have lower : c.isLower = true ↔ 'a' ≤ c ∧ c ≤ 'z' :=
    Bool.and_eq_true_iff.trans (and_congr decide_eq_true_iff decide_eq_true_iff)
  exact Bool.or_eq_true_iff.trans ((or_congr upper lower).trans or_comm)

theorem isIdentifier_plain (name : String) : isIdentifier name = true ↔ Plain name := by
  unfold isIdentifier Plain
  cases name.toList with
  | nil => simp
  | cons first rest =>
      simp [isNameStart, isNamePart, Char.isAlphanum, isAlpha_letter, Char.isDigit, Char.le_def, or_assoc, and_assoc]

theorem Call.creates_or (call : Call) : (∃ table layout, call = .createTable table layout) ∨ call.method ≠ .createTable := by
  cases call with
  | createTable table layout => exact .inl ⟨table, layout, rfl⟩
  | insert | update | delete | select => exact .inr nofun

inductive Flaw (layout : Layout) (table : String) : String × Value → Fault → Prop
  | unknown {column value} : column ∉ layout.columns.map (·.1) →
      Flaw layout table (column, value) (.unknownColumn table column)
  | mistyped {column value kind} : layout.kind? column = some kind → kind.accepts value = false →
      Flaw layout table (column, value) (.typeMismatch table column kind.name)

def Call.cells : Call → List (String × Value)
  | .createTable .. => []
  | .insert _ row => row.pairs
  | .update _ assignment filter => assignment.pairs ++ filter.pairs
  | .delete _ filter | .select _ filter => filter.pairs

-- Why a call is refused, given the layout that its table has, if it has one. Nothing else is
-- asked of the store.
inductive Refused (declared : Option Layout) : Call → Fault → Prop
  | misnamed {table layout name} : First (¬Plain ·) name (table :: layout.columns.map (·.1)) →
      Refused declared (.createTable table layout) (.invalidIdentifier name)
  | undeclared {call} : declared = none → call.method ≠ .createTable → Refused declared call (.unknownTable call.table)
  | flawed {layout call cell fault} : declared = some layout →
      First (fun cell => ∃ fault, Flaw layout call.table cell fault) cell call.cells →
      Flaw layout call.table cell fault → Refused declared call fault
  | lacking {layout table row column} : declared = some layout →
      (∀ cell ∈ row.pairs, ∀ fault, ¬Flaw layout table cell fault) →
      First (fun column => column.2 ≠ .key ∧ column.1 ∉ row.names) column layout.columns →
      Refused declared (.insert table row) (.missingColumn table column.1)

def Call.objection (declared : Option Layout) : Call → Option Fault
  | .createTable table layout => layout.nameFault table
  | .insert table row => declared.elim (some (.unknownTable table)) (·.insertFault table row)
  | .update table assignment filter => declared.elim (some (.unknownTable table)) (·.updateFault table assignment filter)
  | .delete table filter | .select table filter => declared.elim (some (.unknownTable table)) (·.cellsFault table filter)

variable {layout : Layout} {table : String} {row : Row} {call : Call} {fault : Fault} {declared : Option Layout}

theorem nameFault_first : layout.nameFault table = some fault ↔
    ∃ name, First (¬Plain ·) name (table :: layout.columns.map (·.1)) ∧ fault = .invalidIdentifier name := by
  have plain (name : String) : (!isIdentifier name) = true ↔ ¬Plain name := by simp [← isIdentifier_plain]
  simp only [Layout.nameFault, Option.map_eq_some_iff, First.find?, First.congr plain, @eq_comm _ fault]

theorem cellFault_flaw {cell : String × Value} : layout.cellFault table cell = some fault ↔ Flaw layout table cell fault := by
  obtain ⟨column, value⟩ := cell
  unfold Layout.cellFault
  constructor
  · intro wrong
    cases known : layout.kind? column with
    | none =>
        simp only [known, Option.some.injEq] at wrong
        exact wrong ▸ .unknown (Assoc.lookup_none.mp known)
    | some kind =>
        cases accepted : kind.accepts value with
        | true => simp [known, accepted] at wrong
        | false =>
            simp only [known, accepted, Bool.false_eq_true, if_false, Option.some.injEq] at wrong
            exact wrong ▸ .mistyped known accepted
  · intro flaw
    cases flaw with
    | unknown absent => simp [Layout.kind?, Assoc.lookup_none.mpr absent]
    | mistyped known refused => simp [known, refused]

theorem findSome?_flaw {cells : List (String × Value)} : cells.findSome? (layout.cellFault table) = some fault ↔
    ∃ cell, First (fun cell => ∃ fault, Flaw layout table cell fault) cell cells ∧ Flaw layout table cell fault := by
  simp only [First.findSome?, cellFault_flaw]

theorem missingFault_first : layout.missingFault table row = some fault ↔
    ∃ column, First (fun column => column.2 ≠ .key ∧ column.1 ∉ row.names) column layout.columns ∧
      fault = .missingColumn table column.1 := by
  have lacks (column : String × Kind) : Layout.isMissing row column = true ↔ column.2 ≠ .key ∧ column.1 ∉ row.names := by
    simp [Layout.isMissing, Assoc.get?, Assoc.lookup_none, Assoc.names]
  simp only [Layout.missingFault, Option.map_eq_some_iff, First.find?, First.congr lacks, @eq_comm _ fault]

theorem cellsFault_flawless : layout.cellsFault table row = none ↔
    ∀ cell ∈ row.pairs, ∀ fault, ¬Flaw layout table cell fault := by
  unfold Layout.cellsFault
  rw [List.findSome?_eq_none_iff]
  simp only [Option.eq_none_iff_forall_ne_some, ne_eq, cellFault_flaw]

theorem objection_declared (other : call.method ≠ .createTable) : call.objection (some layout) =
    (call.cells.findSome? (layout.cellFault call.table)).or
      (match call with | .insert table row => layout.missingFault table row | _ => none) := by
  cases call with
  | createTable => exact absurd rfl other
  | insert table row => exact (Option.or_eq_orElse ..).symm
  | update table assignment filter =>
      rw [Call.cells, List.findSome?_append, Option.or_none]
      exact (Option.or_eq_orElse ..).symm
  | delete | select => exact (Option.or_none).symm

theorem objection_elim (other : call.method ≠ .createTable) (declared : Option Layout) :
    call.objection declared = declared.elim (some (.unknownTable call.table)) fun layout => call.objection (some layout) := by
  cases declared with
  | some layout => rfl
  | none => cases call with
      | createTable => exact absurd rfl other
      | insert | update | delete | select => rfl

theorem Refused.objection (refused : Refused declared call fault) : call.objection declared = some fault := by
  cases refused with
  | misnamed first => exact nameFault_first.mpr ⟨_, first, rfl⟩
  | undeclared absent other =>
      rw [absent]
      exact objection_elim other none
  | @flawed _ _ cell _ known first flaw =>
      have other : call.method ≠ .createTable := by
        rintro is
        obtain ⟨before, after, parts, _⟩ := first
        cases call <;> simp [Call.method, Call.cells] at is parts
      rw [known, objection_declared other, findSome?_flaw.mpr ⟨cell, first, flaw⟩, Option.some_or]
  | @lacking layout table row column known sound first =>
      have late : layout.missingFault table row = some (.missingColumn table column.1) :=
        missingFault_first.mpr ⟨column, first, rfl⟩
      simp [Call.objection, known, Layout.insertFault, cellsFault_flawless.mpr sound, late]

theorem Refused.of_objection (objected : call.objection declared = some fault) : Refused declared call fault := by
  rcases call.creates_or with ⟨table, layout, rfl⟩ | other
  · obtain ⟨name, first, rfl⟩ := nameFault_first.mp objected
    exact .misnamed first
  · cases declared with
    | none =>
        rw [Option.some.inj (objected.symm.trans (objection_elim other none))]
        exact .undeclared rfl other
    | some layout =>
        rw [objection_declared other, Option.or_eq_some_iff] at objected
        rcases objected with wrong | ⟨sound, lacks⟩
        · obtain ⟨cell, first, flaw⟩ := findSome?_flaw.mp wrong
          exact .flawed rfl first flaw
        · cases call with
          | insert table row =>
              obtain ⟨column, first, rfl⟩ := missingFault_first.mp lacks
              exact .lacking rfl (cellsFault_flawless.mp sound) first
          | createTable | update | delete | select => cases lacks

theorem refused_exact : Refused declared call fault ↔ call.objection declared = some fault :=
  ⟨Refused.objection, Refused.of_objection⟩

theorem refused_unknown : Refused declared call (.unknownTable call.table) ↔ call.method ≠ .createTable ∧ declared = none := by
  constructor
  · intro refused
    cases refused with
    | undeclared absent other => exact ⟨other, absent⟩
    | flawed _ _ flaw => cases flaw
  · rintro ⟨other, absent⟩
    exact .undeclared absent other

end Table
end FeatureGate
