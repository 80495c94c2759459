import FeatureGate.Proofs.StatementTokens

namespace FeatureGate.Sql.Lexis

def name? : Token → Option String
  | .name text => some text
  | .mark _ | .parameter _ => none

def parameter? : Token → Option Nat
  | .parameter number => some number
  | .mark _ | .name _ => none

def names (read : List Token) : List String := read.filterMap name?

def parameters (read : List Token) : List Nat := read.filterMap parameter?

def equation? (token : Token) (rest : List Token) : Option (String × Nat) :=
  (name? token).bind fun column =>
    if rest.take 3 = marks " = " then ((rest.drop 3).head?.bind parameter?).map (column, ·) else none

def equated : List Token → List (String × Nat)
  | [] => []
  | token :: rest => (equation? token rest).toList ++ equated rest

@[simp] theorem names_append (one two : List Token) : names (one ++ two) = names one ++ names two :=
  List.filterMap_append

@[simp] theorem names_nil : names [] = [] := rfl

@[simp] theorem names_marks (fixed : String) : names (marks fixed) = [] := by simp [names, marks, name?]

@[simp] theorem names_name (read : List Token) : names (.name name :: read) = name :: names read := rfl

@[simp] theorem parameters_append (one two : List Token) : parameters (one ++ two) = parameters one ++ parameters two :=
  List.filterMap_append

@[simp] theorem parameters_nil : parameters [] = [] := rfl

@[simp] theorem parameters_marks (fixed : String) : parameters (marks fixed) = [] := by simp [parameters, marks, parameter?]

@[simp] theorem parameters_name (read : List Token) : parameters (.name name :: read) = parameters read := rfl

theorem tokens_separated (fixed : String) (first next : List Piece) (others : List (List Piece)) :
    tokens (Statement.separated fixed (first :: next :: others)) =
      tokens first ++ (marks fixed ++ tokens (Statement.separated fixed (next :: others))) := by
  simp [Statement.separated]

theorem filterMap_separated {ask : Token → Option β} (silent : ∀ c, ask (.mark c) = none) (fixed : String)
    (parts : List (List Piece)) : (tokens (Statement.separated fixed parts)).filterMap ask =
      parts.flatMap fun part => (tokens part).filterMap ask := by
  have nothing : (marks fixed).filterMap ask = [] := by simp [marks, silent]
  induction parts with
  | nil => rfl
  | cons first rest ih =>
      cases rest with
      | nil => simp [Statement.separated]
      | cons next others =>
          rw [tokens_separated, List.filterMap_append, List.filterMap_append, nothing, ih]
          rfl

theorem names_equations (fixed : String) (first : Nat) (columns : List String) :
    names (tokens (Statement.separated fixed (Statement.equations first columns))) = columns := by
  rw [names, filterMap_separated fun _ => rfl]
  induction columns generalizing first with
  | nil => rfl
  | cons column rest ih =>
      rw [equations_cons, List.flatMap_cons, ih]
      rfl

theorem parameters_equations (fixed : String) (first : Nat) (columns : List String) :
    parameters (tokens (Statement.separated fixed (Statement.equations first columns))) = List.range' first columns.length := by
  rw [parameters, filterMap_separated fun _ => rfl]
  induction columns generalizing first with
  | nil => rfl
  | cons column rest ih =>
      rw [equations_cons, List.flatMap_cons, ih]
      rfl

theorem equated_nil : equated [] = [] := rfl

theorem equated_marks (fixed : String) (rest : List Token) : equated (marks fixed ++ rest) = equated rest := by
  unfold marks
  induction fixed.toList with
  | nil => rfl
  | cons c cs ih => simpa [equated, equation?, name?] using ih

theorem equated_name {rest : List Token} (apart : rest.take 3 ≠ marks " = ") :
    equated (.name name :: rest) = equated rest := by
  simp [equated, equation?, name?, apart]

theorem equated_equation (column : String) (number : Nat) (rest : List Token) :
    equated (tokens (equation column number) ++ rest) = (column, number) :: equated rest := by
  have found : equation? (.name column) (marks " = " ++ (.parameter number :: rest)) = some (column, number) := rfl
  have split : tokens (equation column number) ++ rest = .name column :: (marks " = " ++ (.parameter number :: rest)) := rfl
  rw [split, equated, found, equated_marks]
  rfl

theorem equated_equations (fixed : String) (first : Nat) (columns : List String) (rest : List Token) :
    equated (tokens (Statement.separated fixed (Statement.equations first columns)) ++ rest) =
      columns.zip (List.range' first columns.length) ++ equated rest := by
  induction columns generalizing first with
  | nil => rfl
  | cons column others ih =>
      rw [equations_cons]
      cases others with
      | nil => exact equated_equation column first rest
      | cons next others =>
          have later := ih (first + 1)
          rw [equations_cons] at later ⊢
          rw [tokens_separated, List.append_assoc, List.append_assoc, equated_equation, equated_marks, later]
          rfl

theorem equated_names (columns : List String) {rest : List Token} (apart : rest.take 3 ≠ marks " = ") :
    equated (tokens (Statement.names columns) ++ rest) = equated rest := by
  unfold Statement.names
  induction columns with
  | nil => rfl
  | cons column others ih =>
      cases others with
      | nil => exact equated_name apart
      | cons next others =>
          have other : ∀ more, (marks ", " ++ more).take 3 ≠ marks " = " := fun more same => by
            cases List.head_eq_of_cons_eq same
          rw [List.map_cons, List.map_cons, tokens_separated, List.append_assoc, List.append_assoc]
          refine (equated_name (other _)).trans ?_
          rw [equated_marks]
          exact ih

theorem filterMap_each {ask : Token → Option β} (silent : ∀ c, ask (.mark c) = none) {part : α → List Piece}
    {found : α → List β} (finds : ∀ a, (tokens (part a)).filterMap ask = found a) (fixed : String) (each : List α) :
    (tokens (Statement.separated fixed (each.map part))).filterMap ask = each.flatMap found := by
  rw [filterMap_separated silent, List.flatMap_map]
  exact congrArg each.flatMap (funext finds)

theorem names_names (columns : List String) : names (tokens (Statement.names columns)) = columns :=
  (filterMap_each (fun _ => rfl) (fun _ => rfl) ", " columns).trans (List.flatMap_singleton' columns)

theorem parameters_names (columns : List String) : parameters (tokens (Statement.names columns)) = [] :=
  (filterMap_each (fun _ => rfl) (fun _ => rfl) ", " columns).trans (List.flatMap_eq_nil_iff.mpr fun _ _ => rfl)

theorem names_placeholders (count : Nat) : names (tokens (Statement.placeholders count)) = [] :=
  (filterMap_each (fun _ => rfl) (fun _ => rfl) ", " (List.range count)).trans (List.flatMap_eq_nil_iff.mpr fun _ _ => rfl)

theorem parameters_placeholders (count : Nat) : parameters (tokens (Statement.placeholders count)) = List.range' 1 count := by
  refine (filterMap_each (fun _ => rfl) (fun _ => rfl) ", " (List.range count)).trans ?_
  rw [List.range'_eq_map_range]
  exact List.map_eq_flatMap.symm.trans (List.map_congr_left fun i _ => Nat.add_comm i 1)

theorem names_declarations (columns : List (String × Table.Kind)) :
    names (tokens (Statement.separated ", " (columns.map declared))) = columns.map (·.1) := by
  have once (column : String × Table.Kind) : names (tokens (declared column)) = [column.1] := by simp [declared]
  exact (filterMap_each (fun _ => rfl) once ", " columns).trans List.map_eq_flatMap.symm

theorem parameters_declarations (columns : List (String × Table.Kind)) :
    parameters (tokens (Statement.separated ", " (columns.map declared))) = [] := by
  have nothing (column : String × Table.Kind) : parameters (tokens (declared column)) = [] := by simp [declared]
  exact (filterMap_each (fun _ => rfl) nothing ", " columns).trans (List.flatMap_eq_nil_iff.mpr fun _ _ => rfl)

theorem names_condition (first : Nat) (filter : List String) :
    names (tokens (Statement.condition first filter)) = filter := by
  rcases condition_ways first filter with ⟨rfl, is⟩ | is
  · rfl
  · rw [is]
    exact names_equations " AND " first filter

theorem parameters_condition (first : Nat) (filter : List String) :
    parameters (tokens (Statement.condition first filter)) = List.range' first filter.length := by
  rcases condition_ways first filter with ⟨rfl, is⟩ | is
  · rfl
  · rw [is]
    exact parameters_equations " AND " first filter

theorem equated_condition (first : Nat) (filter : List String) (rest : List Token) :
    equated (tokens (Statement.condition first filter) ++ rest) =
      filter.zip (List.range' first filter.length) ++ equated rest := by
  rcases condition_ways first filter with ⟨rfl, is⟩ | is
  · rfl
  · rw [is, tokens_words, List.append_assoc, equated_marks, equated_equations]

theorem equated_table (table : String) (first : Nat) (filter : List String) (rest : List Token)
    (apart : rest.take 3 ≠ marks " = ") : equated (.name table :: (tokens (Statement.condition first filter) ++ rest)) =
      equated (tokens (Statement.condition first filter) ++ rest) := by
  refine equated_name ?_
  rcases condition_ways first filter with ⟨rfl, is⟩ | is
  · exact apart
  · rw [is]
    simp [marks]

def placed : Statement → List String
  | .createTable .. => []
  | .insert _ columns => columns
  | .update _ assigned filter => assigned ++ filter
  | .delete _ filter | .select _ _ filter => filter

-- Where the parameters of a text stand: in an equation with a column, or in a list under a
-- column of the list before it. The first name of that text is the table's.
def slots : Statement → List Token → List (String × Nat)
  | .createTable .., _ => []
  | .insert .., read => (names read).tail.zip (parameters read)
  | .update .., read | .delete .., read | .select .., read => equated read

theorem range'_joined (one two : Nat) : List.range' 1 one ++ List.range' (one + 1) two = List.range' 1 (one + two) := by
  rw [Nat.add_comm one 1, List.range'_append_1]

theorem names_pieces (statement : Statement) : names (tokens statement.pieces) = mentioned statement := by
  cases statement with
  | createTable table columns => simp [pieces_createTable, mentioned, names_declarations]
  | insert table columns => cases columns <;> simp [Statement.pieces, mentioned, names_names, names_placeholders]
  | update table assigned filter => simp [Statement.pieces, mentioned, names_equations, names_condition]
  | delete table filter => simp [Statement.pieces, mentioned, names_condition]
  | select table shown filter => simp [Statement.pieces, mentioned, names_names, names_condition]

theorem parameters_pieces (statement : Statement) :
    parameters (tokens statement.pieces) = List.range' 1 (placed statement).length := by
  cases statement with
  | createTable table columns => simp [pieces_createTable, placed, parameters_declarations]
  | insert table columns => cases columns <;> simp [Statement.pieces, placed, parameters_names, parameters_placeholders]
  | update table assigned filter =>
      simp [Statement.pieces, placed, parameters_equations, parameters_condition, range'_joined]
  | delete table filter => simp [Statement.pieces, placed, parameters_condition]
  | select table shown filter => simp [Statement.pieces, placed, parameters_names, parameters_condition]

theorem zip_joined (one two : List String) :
    one.zip (List.range' 1 one.length) ++ two.zip (List.range' (one.length + 1) two.length) =
      (one ++ two).zip (List.range' 1 (one ++ two).length) := by
  rw [List.length_append, ← range'_joined, List.zip_append List.length_range'.symm]

theorem slots_pieces (statement : Statement) : slots statement (tokens statement.pieces) =
    (placed statement).zip (List.range' 1 (placed statement).length) := by
  cases statement with
  | createTable table columns => rfl
  | insert table columns =>
      rw [slots, names_pieces, parameters_pieces]
      rfl
  | update table assigned filter =>
      have apart (rest : List Token) : (marks " SET " ++ rest).take 3 ≠ marks " = " := by simp [marks]
      have assigns := equated_equations ", " 1 assigned (tokens (Statement.condition (assigned.length + 1) filter))
      have filters := equated_condition (assigned.length + 1) filter []
      rw [List.append_nil, equated_nil, List.append_nil] at filters
      rw [filters, zip_joined] at assigns
      simpa [slots, placed, Statement.pieces, equated_marks, equated_name (apart _)] using assigns
  | delete table filter =>
      have filters := equated_condition 1 filter []
      have alone := equated_table table 1 filter [] (by decide)
      rw [List.append_nil] at filters alone
      simpa [slots, placed, Statement.pieces, equated_marks, alone, equated_nil] using filters
  | select table shown filter =>
      have apart (rest : List Token) : (marks " FROM " ++ rest).take 3 ≠ marks " = " := by simp [marks]
      have filters := equated_condition 1 filter (marks " ORDER BY rowid")
      have alone := equated_table table 1 filter (marks " ORDER BY rowid") (by decide)
      have quiet := equated_marks " ORDER BY rowid" []
      rw [List.append_nil] at quiet
      simpa [slots, placed, Statement.pieces, equated_marks, equated_names shown (apart _), alone, quiet, equated_nil]
        using filters

example : (Statement.update "t" ["a", "b"] ["c"]).text = "UPDATE \"t\" SET \"a\" = ?1, \"b\" = ?2 WHERE \"c\" = ?3" := by decide

end FeatureGate.Sql.Lexis
