import FeatureGate.Sql.Statement
import FeatureGate.Text.Integer

namespace FeatureGate.Sql

inductive Token where
  | mark (c : Char)
  | name (text : String)
  | parameter (number : Nat)
deriving DecidableEq, Repr

namespace Lexis
open Text (isDigit decimal?)

-- Where a reader stands: between tokens, in a quoted name, behind a quote that closes the
-- name unless another one follows, or in the digits of a parameter.
inductive Place where
  | outside
  | quoted (read : List Char)
  | shut (read : List Char)
  | counting (read : List Char)
deriving DecidableEq, Repr

-- These open texts, comments and other kinds of names and parameters, of which there are
-- none in a statement.
def isForeign (c : Char) : Bool := "'\x60[-/:@$#".toList.contains c

def enter (c : Char) : Option (List Token × Place) :=
  if c = '"' then some ([], .quoted [])
  else if c = '?' then some ([], .counting [])
  else if isForeign c then none
  else some ([.mark c], .outside)

def ended : Place → Option (List Token)
  | .outside => some []
  | .quoted _ => none
  | .shut read => some [.name (String.ofList read)]
  | .counting read => (decimal? read).map fun number => [.parameter number]

def leave (place : Place) (c : Char) : Option (List Token × Place) :=
  (ended place).bind fun made => (enter c).map fun next => (made ++ next.1, next.2)

def step (place : Place) (c : Char) : Option (List Token × Place) :=
  match place with
  | .outside => leave place c
  | .quoted read => some ([], if c = '"' then .shut read else .quoted (read ++ [c]))
  | .shut read => if c = '"' then some ([], .quoted (read ++ ['"'])) else leave place c
  | .counting read => if isDigit c then some ([], .counting (read ++ [c])) else leave place c

def scan : Place → List Char → Option (List Token)
  | place, [] => ended place
  | place, c :: rest => (step place c).bind fun next => (scan next.2 rest).map (next.1 ++ ·)

def read? (text : String) : Option (List Token) := scan .outside text.toList

def Calm : List Char → Prop
  | [] => True
  | c :: _ => c ≠ '"' ∧ isDigit c = false

theorem scan_leave {place : Place} {rest : List Char}
    (goesOn : ∀ c later, rest = c :: later → step place c = leave place c) :
    scan place rest = (ended place).bind fun made => (scan .outside rest).map (made ++ ·) := by
  cases rest with
  | nil => simp only [scan]; cases ended place <;> simp [ended]
  | cons c later =>
      have outside : step .outside c = enter c := by simp [step, leave, ended]
      simp only [scan, goesOn c later rfl, outside, leave]
      cases ended place <;> cases enter c <;> simp [Option.map_map, Function.comp_def]

theorem scan_quoted {name : List Char} (closed : '"' ∉ name) (read rest : List Char) :
    scan (.quoted read) (name ++ '"' :: rest) = scan (.shut (read ++ name)) rest := by
  induction name generalizing read with
  | nil => simp [scan, step]
  | cons c name ih =>
      simp only [List.mem_cons, not_or] at closed
      simp [scan, step, Ne.symm closed.1, ih closed.2]

theorem scan_counting {digits : List Char} (all : ∀ c ∈ digits, isDigit c = true) (read rest : List Char) :
    scan (.counting read) (digits ++ rest) = scan (.counting (read ++ digits)) rest := by
  induction digits generalizing read with
  | nil => simp
  | cons c digits ih =>
      have later := ih fun d member => all d (List.mem_cons_of_mem _ member)
      simp [scan, step, all c List.mem_cons_self, later]

def marks (fixed : String) : List Token := fixed.toList.map .mark

def tokensOf : Piece → List Token
  | .words fixed => marks fixed
  | .name quoted => [.name quoted]
  | .placeholder number => [.parameter number]

def letters (pieces : List Piece) : List Char := pieces.flatMap (·.text.toList)

def tokens (pieces : List Piece) : List Token := pieces.flatMap tokensOf

section Pieces
variable (one two pieces : List Piece) (fixed name : String) (number : Nat)

@[simp] theorem letters_nil : letters [] = [] := rfl

@[simp] theorem letters_append : letters (one ++ two) = letters one ++ letters two := List.flatMap_append

@[simp] theorem letters_words : letters (.words fixed :: pieces) = fixed.toList ++ letters pieces := rfl

@[simp] theorem letters_name : letters (.name name :: pieces) = '"' :: (name.toList ++ '"' :: letters pieces) := by
  simp [letters, Piece.text]

@[simp] theorem letters_placeholder :
    letters (.placeholder number :: pieces) = '?' :: (Nat.toDigits 10 number ++ letters pieces) := by
  simp [letters, Piece.text, ← Nat.toList_repr]

@[simp] theorem tokens_nil : tokens [] = [] := rfl

@[simp] theorem tokens_append : tokens (one ++ two) = tokens one ++ tokens two := List.flatMap_append

@[simp] theorem tokens_words : tokens (.words fixed :: pieces) = marks fixed ++ tokens pieces := rfl

@[simp] theorem tokens_name : tokens (.name name :: pieces) = .name name :: tokens pieces := rfl

@[simp] theorem tokens_placeholder : tokens (.placeholder number :: pieces) = .parameter number :: tokens pieces := rfl

end Pieces

-- Read as what they are, before everything that does not go on with the last of them.
structure Legible (pieces : List Piece) : Prop where
  reads : ∀ rest, Calm rest →
    scan .outside (letters pieces ++ rest) = (scan .outside rest).map (tokens pieces ++ ·)

structure Parted (pieces : List Piece) : Prop where
  calm : ∀ rest, Calm rest → Calm (letters pieces ++ rest)

def Inert (fixed : String) : Prop :=
  fixed.toList.all (fun c => enter c = some ([.mark c], .outside)) = true ∧ Calm fixed.toList ∧ fixed.toList ≠ []

instance : (cs : List Char) → Decidable (Calm cs)
  | [] => .isTrue trivial
  | _ :: _ => inferInstanceAs (Decidable (_ ∧ _))

instance (fixed : String) : Decidable (Inert fixed) := inferInstanceAs (Decidable (_ ∧ _ ∧ _))

variable {pieces one two : List Piece} {fixed name : String}

theorem scan_marks {cs : List Char} (plain : cs.all (fun c => enter c = some ([.mark c], .outside)) = true)
    (rest : List Char) : scan .outside (cs ++ rest) = (scan .outside rest).map (cs.map .mark ++ ·) := by
  induction cs with
  | nil => simp
  | cons c cs ih =>
      simp only [List.all_cons, Bool.and_eq_true, decide_eq_true_eq] at plain
      simp [scan, step, leave, ended, plain.1, ih plain.2, Function.comp_def]

theorem Parted.nil : Parted [] := ⟨fun _ calm => calm⟩

theorem Parted.words (inert : Inert fixed) : Parted (.words fixed :: pieces) := by
  obtain ⟨_, calm, something⟩ := inert
  refine ⟨fun rest _ => ?_⟩
  obtain ⟨c, cs, is⟩ := List.exists_cons_of_ne_nil something
  rw [is] at calm
  rw [letters_words, is]
  exact calm

theorem Parted.append (parted : Parted one) (later : Parted two) : Parted (one ++ two) := by
  refine ⟨fun rest calm => ?_⟩
  rw [letters_append, List.append_assoc]
  exact parted.calm _ (later.calm rest calm)

theorem Legible.nil : Legible [] := ⟨fun rest _ => by simp⟩

theorem Legible.words (inert : Inert fixed) (legible : Legible pieces) : Legible (.words fixed :: pieces) := by
  refine ⟨fun rest calm => ?_⟩
  rw [letters_words, List.append_assoc, scan_marks inert.1, legible.reads rest calm, Option.map_map]
  simp [marks, Function.comp_def]

theorem Legible.append (legible : Legible one) (later : Legible two) (parted : Parted two) : Legible (one ++ two) := by
  refine ⟨fun rest calm => ?_⟩
  rw [letters_append, List.append_assoc, legible.reads _ (parted.calm rest calm), later.reads rest calm, Option.map_map]
  simp [Function.comp_def]

theorem legible_name (closed : '"' ∉ name.toList) : Legible [.name name] := by
  refine ⟨fun rest calm => ?_⟩
  have split : letters [.name name] ++ rest = '"' :: (name.toList ++ '"' :: rest) := by simp
  have opened : scan .outside ('"' :: (name.toList ++ '"' :: rest)) = scan (.quoted []) (name.toList ++ '"' :: rest) := by
    simp [scan, step, leave, ended, enter]
  rw [split, opened, scan_quoted closed, List.nil_append, scan_leave]
  · simp [ended]
  · rintro c later rfl
    simp [step, calm.1]

theorem isDigit_toDigits {c : Char} (member : c ∈ Nat.toDigits 10 number) : isDigit c = true := by
  simpa [isDigit, Char.isDigit, Char.le_def] using Nat.isDigit_of_mem_toDigits (by decide) (by decide) member

theorem decimal?_toDigits (number : Nat) : decimal? (Nat.toDigits 10 number) = some number := by
  have all : (Nat.toDigits 10 number).all isDigit = true := List.all_eq_true.mpr fun _ => isDigit_toDigits
  have worth : Text.decimalValue (Nat.toDigits 10 number) = number := Nat.ofDigitChars_toDigits (by decide) (by decide)
  rw [decimal?, if_pos ⟨Nat.toDigits_ne_nil, all⟩, worth]

theorem legible_placeholder (number : Nat) : Legible [.placeholder number] := by
  refine ⟨fun rest calm => ?_⟩
  have split : letters [.placeholder number] ++ rest = '?' :: (Nat.toDigits 10 number ++ rest) := by simp
  have opened : scan .outside ('?' :: (Nat.toDigits 10 number ++ rest)) =
      scan (.counting []) (Nat.toDigits 10 number ++ rest) := by
    simp [scan, step, leave, ended, enter]
  rw [split, opened, scan_counting fun _ => isDigit_toDigits, List.nil_append, scan_leave]
  · simp [ended, decimal?_toDigits]
  · rintro c later rfl
    simp [step, calm.2]

theorem Legible.separated {parts : List (List Piece)} (inert : Inert fixed) (each : ∀ part ∈ parts, Legible part) :
    Legible (Statement.separated fixed parts) := by
  induction parts with
  | nil => exact .nil
  | cons first rest ih =>
      have here := each first List.mem_cons_self
      have later := ih fun part member => each part (List.mem_cons_of_mem _ member)
      cases rest with
      | nil => exact here
      | cons => exact here.append (later.words inert) (.words inert)

def equation (column : String) (number : Nat) : List Piece := [.name column, .words " = ", .placeholder number]

theorem equations_cons (first : Nat) (column : String) (rest : List String) :
    Statement.equations first (column :: rest) = equation column first :: Statement.equations (first + 1) rest := by
  simp [Statement.equations, equation, List.mapIdx_cons, Nat.add_comm, Nat.add_left_comm]

def Closed (columns : List String) : Prop := ∀ column ∈ columns, '"' ∉ column.toList

theorem legible_equations {columns : List String} (closed : Closed columns) (first : Nat) :
    ∀ part ∈ Statement.equations first columns, Legible part := by
  induction columns generalizing first with
  | nil => exact List.forall_mem_nil _
  | cons column rest ih =>
      rw [equations_cons]
      refine List.forall_mem_cons.mpr ⟨?_, ih (fun other member => closed other (List.mem_cons_of_mem _ member)) _⟩
      have inert : Inert " = " := by decide
      exact (legible_name (closed column List.mem_cons_self)).append ((legible_placeholder first).words inert) (.words inert)

theorem legible_names {columns : List String} (closed : Closed columns) : Legible (Statement.names columns) := by
  refine .separated (by decide) fun part member => ?_
  obtain ⟨column, listed, rfl⟩ := List.mem_map.mp member
  exact legible_name (closed column listed)

theorem legible_placeholders (count : Nat) : Legible (Statement.placeholders count) := by
  refine .separated (by decide) fun part member => ?_
  obtain ⟨i, _, rfl⟩ := List.mem_map.mp member
  exact legible_placeholder (i + 1)

theorem condition_ways (first : Nat) (filter : List String) : (filter = [] ∧ Statement.condition first filter = []) ∨
    Statement.condition first filter = .words " WHERE " :: Statement.separated " AND " (Statement.equations first filter) := by
  cases filter with
  | nil => exact .inl ⟨rfl, rfl⟩
  | cons => exact .inr rfl

theorem legible_condition {filter : List String} (closed : Closed filter) (first : Nat) :
    Legible (Statement.condition first filter) := by
  rcases condition_ways first filter with ⟨_, is⟩ | is
  · exact is ▸ .nil
  · exact is ▸ .words (by decide) (.separated (by decide) (legible_equations closed first))

theorem parted_condition (first : Nat) (filter : List String) : Parted (Statement.condition first filter) := by
  rcases condition_ways first filter with ⟨_, is⟩ | is
  · exact is ▸ .nil
  · exact is ▸ .words (by decide)

def declared (column : String × Table.Kind) : List Piece := [.name column.1, .words (Statement.declaration column.2)]

theorem pieces_createTable (table : String) (columns : List (String × Table.Kind)) :
    (Statement.createTable table columns).pieces = [.words "CREATE TABLE IF NOT EXISTS ", .name table, .words " ("] ++
      Statement.separated ", " (columns.map declared) ++ [.words ");"] := rfl

theorem inert_declaration (kind : Table.Kind) : Inert (Statement.declaration kind) := by
  cases kind <;> decide

theorem Legible.named (closed : '"' ∉ name.toList) (later : Legible pieces) (parted : Parted pieces) :
    Legible (.name name :: pieces) :=
  (legible_name closed).append later parted

theorem Legible.followed (legible : Legible one) (inert : Inert fixed) (later : Legible two) :
    Legible (one ++ .words fixed :: two) :=
  legible.append (later.words inert) (.words inert)

section Statements
variable {table : String} (own : '"' ∉ table.toList)
include own

theorem legible_createTable {columns : List (String × Table.Kind)} (closed : Closed (columns.map (·.1))) :
    Legible (Statement.createTable table columns).pieces := by
  have parts : ∀ part ∈ columns.map declared, Legible part := by
    intro part member
    obtain ⟨column, listed, rfl⟩ := List.mem_map.mp member
    have inert := inert_declaration column.2
    exact .named (closed _ (List.mem_map_of_mem listed)) (Legible.nil.words inert) (.words inert)
  have inside := (Legible.separated (by decide : Inert ", ") parts).followed (by decide : Inert ");") .nil
  have opened := inside.words (by decide : Inert " (")
  have whole := (Legible.named own opened (.words (by decide))).words (by decide : Inert "CREATE TABLE IF NOT EXISTS ")
  simpa [pieces_createTable] using whole

theorem legible_insert {columns : List String} (closed : Closed columns) :
    Legible (Statement.insert table columns).pieces := by
  cases columns with
  | nil =>
      have closing := Legible.nil.words (by decide : Inert " DEFAULT VALUES")
      exact (Legible.named own closing (.words (by decide))).words (by decide : Inert "INSERT INTO ")
  | cons column rest =>
      have values := (legible_placeholders (column :: rest).length).followed (by decide : Inert ")") .nil
      have listed := (legible_names closed).followed (by decide : Inert ") VALUES (") values
      have opened := listed.words (by decide : Inert " (")
      have whole := (Legible.named own opened (.words (by decide))).words (by decide : Inert "INSERT INTO ")
      simpa [Statement.pieces] using whole

theorem legible_update {assigned filter : List String} (closed : Closed (assigned ++ filter)) :
    Legible (Statement.update table assigned filter).pieces := by
  obtain ⟨assignedClosed, filterClosed⟩ := List.forall_mem_append.mp closed
  have assigns := (Legible.separated (by decide : Inert ", ") (legible_equations assignedClosed 1)).append
    (legible_condition filterClosed (assigned.length + 1)) (parted_condition _ _)
  have opened := assigns.words (by decide : Inert " SET ")
  have whole := (Legible.named own opened (.words (by decide))).words (by decide : Inert "UPDATE ")
  simpa [Statement.pieces] using whole

theorem legible_delete {filter : List String} (closed : Closed filter) : Legible (Statement.delete table filter).pieces :=
  .words (by decide) (.named own (legible_condition closed 1) (parted_condition _ _))

theorem legible_select {shown filter : List String} (shownClosed : Closed shown) (closed : Closed filter) :
    Legible (Statement.select table shown filter).pieces := by
  have ordered := (legible_condition closed 1).followed (by decide : Inert " ORDER BY rowid") .nil
  have parted : Parted (Statement.condition 1 filter ++ [.words " ORDER BY rowid"]) :=
    (parted_condition 1 filter).append (.words (by decide))
  have opened := (legible_names shownClosed).followed (by decide : Inert " FROM ") (.named own ordered parted)
  have whole := opened.words (by decide : Inert "SELECT ")
  simpa [Statement.pieces] using whole

end Statements

def mentioned : Statement → List String
  | .createTable table columns => table :: columns.map (·.1)
  | .insert table columns => table :: columns
  | .update table assigned filter => table :: (assigned ++ filter)
  | .delete table filter => table :: filter
  | .select table shown filter => shown ++ table :: filter

theorem legible_pieces {statement : Statement} (closed : Closed (mentioned statement)) : Legible statement.pieces := by
  cases statement with
  | createTable table columns =>
      obtain ⟨own, others⟩ := List.forall_mem_cons.mp closed
      exact legible_createTable own others
  | insert table columns =>
      obtain ⟨own, others⟩ := List.forall_mem_cons.mp closed
      exact legible_insert own others
  | update table assigned filter =>
      obtain ⟨own, others⟩ := List.forall_mem_cons.mp closed
      exact legible_update own others
  | delete table filter =>
      obtain ⟨own, others⟩ := List.forall_mem_cons.mp closed
      exact legible_delete own others
  | select table shown filter =>
      obtain ⟨shownClosed, others⟩ := List.forall_mem_append.mp closed
      obtain ⟨own, filterClosed⟩ := List.forall_mem_cons.mp others
      exact legible_select own shownClosed filterClosed

theorem read?_text {statement : Statement} (closed : Closed (mentioned statement)) :
    read? statement.text = some (tokens statement.pieces) := by
  have spelled : statement.text.toList = letters statement.pieces ++ [] := by
    simp [Statement.text, letters, List.flatMap_map]
  rw [read?, spelled, (legible_pieces closed).reads [] trivial]
  simp [scan, ended]

example : read? "\"a\"\"b\" = ?12" = some [.name "a\"b", .mark ' ', .mark '=', .mark ' ', .parameter 12] := by decide

end Lexis
end FeatureGate.Sql
