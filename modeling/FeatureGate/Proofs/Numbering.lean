import FeatureGate.Proofs.SheetTransitions
import FeatureGate.Text.Integer
import Mathlib.Data.List.Induction

namespace FeatureGate

theorem Assoc.get?_putAll_ways {pairs : List (String × α)} {m : Assoc α}
    (found : (m.putAll pairs).get? name = some value) :
    (name, value) ∈ pairs ∨ m.get? name = some value := by
  induction pairs generalizing m with
  | nil => exact .inr found
  | cons pair rest ih =>
      rcases ih (m := m.put pair.1 pair.2) found with later | held
      · exact .inl (List.mem_cons_of_mem _ later)
      · rw [Assoc.get?_put] at held
        by_cases same : name = pair.1
        · rw [if_pos same, Option.some.injEq] at held
          exact .inl (List.mem_cons.mpr (.inl (Prod.ext same held.symm)))
        · rw [if_neg same] at held
          exact .inr held

namespace Table
namespace Sheet
variable {sheet : Sheet} {given : Row} {seen : List (String × Kind)} {laid : Row × Int} {name : String} {key start : Int}
  {following : Int → Int}

theorem place_ways (following : Int → Int) (given : Row) (laid : Row × Int) (column : String × Kind) :
    (∃ key, column.2 = .key ∧ given.get? column.1 = some (.integer key) ∧
      placeBy following given laid column = (laid.1.put column.1 (.integer key), max laid.2 (following key))) ∨
    (column.2 = .key ∧ given.get? column.1 = none ∧
      placeBy following given laid column = (laid.1.put column.1 (.integer laid.2), max laid.2 (following laid.2))) ∨
    (∃ value, given.get? column.1 = some value ∧ (column.2 = .key → ∀ key, value ≠ .integer key) ∧
      placeBy following given laid column = (laid.1.put column.1 value, laid.2)) ∨
    (column.2 ≠ .key ∧ given.get? column.1 = none ∧ placeBy following given laid column = laid) := by
  unfold placeBy
  split
  · exact .inl ⟨_, ‹_›, ‹_›, rfl⟩
  · exact .inr (.inl ⟨‹_›, ‹_›, rfl⟩)
  · rename_i value found plain
    exact .inr (.inr (.inl ⟨value, found, fun isKey key same => plain key isKey same, rfl⟩))
  · rename_i absent plain
    exact .inr (.inr (.inr ⟨plain, absent, rfl⟩))

-- Up to the greatest 64-bit integer a counter counts. What follows that one is left open: a
-- counter may wrap around, and where it stops the run instead nothing comes after it.
def Counts (following : Int → Int) : Prop := ∀ key < Text.maxInteger, following key = key + 1

-- A key that the count has passed, or one past which there is nothing to count to.
def Passed (key next : Int) : Prop := key < next ∨ Text.maxInteger ≤ key

theorem Passed.mono (passed : Passed key start) (climbs : start ≤ next) : Passed key next :=
  passed.imp_left fun low => Int.lt_of_lt_of_le low climbs

theorem Counts.passed (counts : Counts following) (key next : Int) : Passed key (max next (following key)) := by
  rcases Int.lt_or_le key Text.maxInteger with low | high
  · have is := counts key low
    exact .inl (by omega)
  · exact .inr high

def Counted (given : Row) (seen : List (String × Kind)) (laid : Row × Int) : Prop :=
  ∀ name, (name, Kind.key) ∈ seen → ∀ key,
    laid.1.get? name = some (.integer key) ∨ given.get? name = some (.integer key) → Passed key laid.2

theorem Counted.put {value : Value} {next : Int} {column : String × Kind} (counted : Counted given seen laid)
    (climbs : laid.2 ≤ next)
    (here : ∀ key, column.2 = .key ∨ (column.1, Kind.key) ∈ seen →
      value = .integer key ∨ given.get? column.1 = some (.integer key) → Passed key next) :
    Counted given (seen ++ [column]) (laid.1.put column.1 value, next) := by
  intro name member key used
  have known : (name, Kind.key) ∈ seen ∨ (name, Kind.key) = column := by simpa using member
  by_cases same : name = column.1
  · subst same
    rw [Assoc.get?_put, if_pos rfl, Option.some.injEq] at used
    exact here key (known.symm.imp_left fun last => (congrArg Prod.snd last).symm) used
  · rw [Assoc.get?_put, if_neg same] at used
    have earlier := known.resolve_right fun last => same (congrArg Prod.fst last)
    exact (counted name earlier key used).mono climbs

theorem place_counted (counts : Counts following) (counted : Counted given seen laid) (column : String × Kind) :
    Counted given (seen ++ [column]) (placeBy following given laid column) := by
  rcases place_ways following given laid column with ⟨own, isKey, found, placed⟩ | ⟨isKey, absent, placed⟩ |
    ⟨value, found, plain, placed⟩ | ⟨plain, _, placed⟩ <;> rw [placed]
  · refine counted.put (Int.le_max_left _ _) fun key _ used => ?_
    have is : own = key := by simpa [found] using used
    exact is ▸ counts.passed own laid.2
  · refine counted.put (Int.le_max_left _ _) fun key _ used => ?_
    have is : laid.2 = key := by simpa [absent] using used
    exact is ▸ counts.passed laid.2 laid.2
  · refine counted.put (Int.le_refl _) fun key member used => ?_
    have is : value = .integer key := by simpa [found] using used
    rcases member with isKey | earlier
    · exact (plain isKey key is).elim
    · exact counted column.1 earlier key (.inr (is ▸ found))
  · intro name member key used
    have known : (name, Kind.key) ∈ seen ∨ (name, Kind.key) = column := by simpa using member
    exact counted name (known.resolve_right fun last => plain (congrArg Prod.snd last).symm) key used

theorem layOut_counted (counts : Counts following) (sheet : Sheet) (given : Row) :
    Counted given sheet.layout.columns (sheet.layOutBy following given) :=
  layOutBy_induct (motive := Counted given) nofun fun _ _ column _ counted => place_counted counts counted column

theorem place_climbs (following : Int → Int) (given : Row) (laid : Row × Int) (column : String × Kind) :
    laid.2 ≤ (placeBy following given laid column).2 := by
  rcases place_ways following given laid column with ⟨_, _, _, placed⟩ | ⟨_, _, placed⟩ | ⟨_, _, _, placed⟩ |
    ⟨_, _, placed⟩
  · exact Int.le_trans (Int.le_max_left _ _) (Int.le_of_eq (congrArg Prod.snd placed).symm)
  · exact Int.le_trans (Int.le_max_left _ _) (Int.le_of_eq (congrArg Prod.snd placed).symm)
  · exact Int.le_of_eq (congrArg Prod.snd placed).symm
  · exact Int.le_of_eq (congrArg Prod.snd placed).symm

def Raised (start : Int) (name : String) (row : Row) : Prop :=
  ∃ key, row.get? name = some (.integer key) ∧ start ≤ key

theorem place_raises (absent : given.get? name = none) (begun : start ≤ laid.2) {column : String × Kind}
    (raised : column = (name, .key) ∨ Raised start name laid.1) :
    Raised start name (placeBy following given laid column).1 := by
  have kept {value : Value} (apart : column.1 ≠ name) : Raised start name (laid.1.put column.1 value) := by
    obtain ⟨key, shown, high⟩ := raised.resolve_left fun here => apart (here ▸ rfl)
    exact ⟨key, by rw [Assoc.get?_put, if_neg fun same => apart same.symm, shown], high⟩
  rcases place_ways following given laid column with ⟨key, _, found, placed⟩ | ⟨_, _, placed⟩ |
    ⟨value, found, _, placed⟩ | ⟨plain, _, placed⟩ <;> rw [placed]
  · exact kept fun same => by simp [same, absent] at found
  · by_cases same : column.1 = name
    · exact ⟨laid.2, by rw [Assoc.get?_put, if_pos same.symm], begun⟩
    · exact kept same
  · exact kept fun same => by simp [same, absent] at found
  · exact raised.resolve_left fun here => plain (here ▸ rfl)

theorem layOut_raises (following : Int → Int) (absent : given.get? name = none)
    (isKey : (name, Kind.key) ∈ sheet.layout.columns) :
    Raised sheet.nextKey name (sheet.layOutBy following given).1 := by
  have laidOut : sheet.nextKey ≤ (sheet.layOutBy following given).2 ∧
      ((name, Kind.key) ∈ sheet.layout.columns → Raised sheet.nextKey name (sheet.layOutBy following given).1) := by
    refine layOutBy_induct
      (motive := fun seen laid => sheet.nextKey ≤ laid.2 ∧ ((name, .key) ∈ seen → Raised sheet.nextKey name laid.1))
      ⟨Int.le_refl _, nofun⟩ fun seen laid column _ ⟨begun, raised⟩ => ⟨?_, fun member => ?_⟩
    · exact Int.le_trans begun (place_climbs following given laid column)
    · refine place_raises absent begun ((List.mem_append.mp member).symm.imp (fun last => ?_) raised)
      exact (List.mem_singleton.mp last).symm
  exact laidOut.2 isKey

theorem layOut_climbs (following : Int → Int) (sheet : Sheet) (given : Row) :
    sheet.nextKey ≤ (sheet.layOutBy following given).2 :=
  layOutBy_induct (motive := fun _ laid => sheet.nextKey ≤ laid.2) (Int.le_refl _) fun _ laid column _ begun =>
    Int.le_trans begun (place_climbs following given laid column)

end Sheet

variable {calls : List Call} {call : Call} {table column : String} {sheet : Sheet} {row given : Row} {key : Int}
  {following : Int → Int}

-- Some update along the run set the column to the key in at least one row, at a moment when
-- the key was not below the next one: the count of the table does not follow it there.
def Overtaken (following : Int → Int) (calls : List Call) (table column : String) (key : Int) : Prop :=
  ∃ before assignment filter after, calls = before ++ .update table assignment filter :: after ∧
    (column, .integer key) ∈ assignment.pairs ∧
    ∃ sheet, ((Shelf.storeBy following).reached before Shelf.empty).sheets.get? table = some sheet ∧
      sheet.nextKey ≤ key ∧
      ∃ changed, (Shelf.update table assignment filter ((Shelf.storeBy following).reached before Shelf.empty)).1 =
        .done changed ∧ 0 < changed

theorem Overtaken.later (overtaken : Overtaken following calls table column key) (call : Call) :
    Overtaken following (calls ++ [call]) table column key := by
  obtain ⟨before, assignment, filter, after, rfl, rest⟩ := overtaken
  exact ⟨before, assignment, filter, after ++ [call], by simp, rest⟩

def Below (following : Int → Int) (calls : List Call) (table : String) (sheet : Sheet) : Prop :=
  ∀ column, (column, Kind.key) ∈ sheet.layout.columns → ∀ row ∈ sheet.rows, ∀ key,
    row.get? column = some (.integer key) → Sheet.Passed key sheet.nextKey ∨ Overtaken following calls table column key

theorem Below.later (below : Below following calls table sheet) (call : Call) :
    Below following (calls ++ [call]) table sheet :=
  fun column isKey row held key shown => (below column isKey row held key shown).imp_right (·.later call)

theorem Below.insert (counts : Sheet.Counts following) (below : Below following calls table sheet) (given : Row) :
    Below following calls table (sheet.insertBy following given) := by
  intro column isKey row held key shown
  rcases List.mem_append.mp held with old | new
  · exact (below column isKey row old key shown).imp_left (·.mono (sheet.layOut_climbs following given))
  · rw [List.mem_singleton.mp new] at shown
    exact .inl (sheet.layOut_counted counts given column isKey key (.inl shown))

theorem Below.without (below : Below following calls table sheet) (filter : Row) :
    Below following calls table (sheet.without filter) :=
  fun column isKey row held => below column isKey row (List.mem_filter.mp held).1

theorem Below.rewritten {assignment filter : Row} (below : Below following calls table sheet)
    (there : ((Shelf.storeBy following).reached calls Shelf.empty).sheets.get? table = some sheet)
    (fine : sheet.layout.updateFault table assignment filter = none) (assigns : assignment.isEmpty = false) :
    Below following (calls ++ [.update table assignment filter]) table (sheet.rewritten assignment filter) := by
  intro column isKey row held key shown
  have settled {old : Row} (held : old ∈ sheet.rows) (shown : old.get? column = some (.integer key)) :=
    below.later (.update table assignment filter) column isKey old held key shown
  obtain ⟨old, present, rfl⟩ := List.mem_map.mp held
  by_cases answers : old.answers filter = true
  · simp only [answers, if_true] at shown
    rcases Assoc.get?_putAll_ways shown with assigned | kept
    · rcases Int.lt_or_le key sheet.nextKey with low | high
      · exact .inl (.inl low)
      · refine .inr ⟨calls, assignment, filter, [], rfl, assigned, sheet, there, high, (sheet.select filter).length, ?_,
          List.length_pos_of_mem (List.mem_filter.mpr ⟨present, answers⟩)⟩
        simp [Shelf.update, Shelf.onSheet, there, fine, Sheet.update_eq, assigns]
    · exact settled present kept
  · rw [if_neg answers] at shown
    exact settled present shown

theorem reached_below (counts : Sheet.Counts following) (calls : List Call) : ∀ {sheet : Sheet},
    ((Shelf.storeBy following).reached calls Shelf.empty).sheets.get? table = some sheet →
      Below following calls table sheet := by
  induction calls using List.reverseRecOn with
  | nil => exact fun held => nomatch held
  | append_singleton calls call ih =>
      intro sheet held
      rw [Store.reached_snoc] at held
      cases Shelf.turnBy held with
      | still there => exact (ih there).later call
      | created => exact nofun
      | inserted there => exact ((ih there).later _).insert counts _
      | updated there fine assigns => exact (ih there).rewritten there fine assigns
      | deleted there => exact ((ih there).later _).without _

-- An accepted row that leaves a key open takes, after any run, a number that stands in no
-- present row, save in rows that an update has set past the count. Only where the count has
-- come to the end of 64 bits may the last number be given twice. The table may have any
-- number of key columns, and rows may have come with keys of their own.
theorem numbers_fresh (counts : Sheet.Counts following) (calls : List Call)
    (there : ((Shelf.storeBy following).reached calls Shelf.empty).sheets.get? table = some sheet)
    (isKey : (column, Kind.key) ∈ sheet.layout.columns) (leftOpen : given.get? column = none)
    (accepted : (Shelf.insertBy following table given ((Shelf.storeBy following).reached calls Shelf.empty)).1 = .done ()) :
    ∃ after laid number,
      (Shelf.insertBy following table given ((Shelf.storeBy following).reached calls Shelf.empty)).2.sheets.get? table =
        some after ∧
      after.rows = sheet.rows ++ [laid] ∧ laid.get? column = some (.integer number) ∧
      ∀ row ∈ sheet.rows, row.get? column = some (.integer number) →
        Overtaken following calls table column number ∨ Text.maxInteger ≤ number := by
  have fine : sheet.layout.insertFault table given = none := by
    cases faulty : sheet.layout.insertFault table given with
    | none => rfl
    | some fault => simp [Shelf.insertBy, Shelf.onSheet, there, faulty] at accepted
  obtain ⟨number, shown, high⟩ := Sheet.layOut_raises following leftOpen isKey
  refine ⟨sheet.insertBy following given, (sheet.layOutBy following given).1, number, ?_, rfl, shown, ?_⟩
  · simp [Shelf.insertBy, Shelf.onSheet, there, fine]
  · intro row held same
    rcases reached_below counts calls there column isKey row held number same with (low | last) | overtaken
    · exact absurd low (Int.not_lt.mpr high)
    · exact .inr last
    · exact .inl overtaken

namespace Numbering

-- In 64 bits the greatest integer is followed by the least.
def wrapping (key : Int) : Int := if key = Text.maxInteger then Text.minInteger else key + 1

theorem wrapping_counts : Sheet.Counts wrapping := fun _ low => if_neg (Int.ne_of_lt low)

def keyed : Layout := ⟨[("id", .key), ("n", .integer)]⟩

def numbered (id n : Int) : Row := ⟨[("id", .integer id), ("n", .integer n)]⟩

def unnumbered (n : Int) : Row := ⟨[("n", .integer n)]⟩

def renumber (id : Int) : Row := ⟨[("id", .integer id)]⟩

def lowered : List Call :=
  [.createTable "t" keyed, .insert "t" (numbered 7 1), .update "t" (renumber 3) Assoc.empty]

theorem numbers_fresh_after_smaller :
    ∃ after laid number,
      (Shelf.insertBy wrapping "t" (unnumbered 2) ((Shelf.storeBy wrapping).reached lowered Shelf.empty)).2.sheets.get? "t" =
        some after ∧
      after.rows = [numbered 3 1] ++ [laid] ∧ laid.get? "id" = some (.integer number) ∧
      ∀ row ∈ [numbered 3 1], row.get? "id" = some (.integer number) →
        Overtaken wrapping lowered "t" "id" number ∨ Text.maxInteger ≤ number :=
  numbers_fresh wrapping_counts _ (show _ = some ⟨keyed, [numbered 3 1], 8⟩ by rfl) (by decide) rfl (by rfl)

example : ((Shelf.storeBy wrapping).history [.createTable "t" keyed, .insert "t" (numbered (Text.maxInteger - 1) 1),
    .insert "t" (unnumbered 2), .insert "t" (unnumbered 3), .select "t" Assoc.empty] Shelf.empty).1.getLast? =
      some (.done (.rows [numbered (Text.maxInteger - 1) 1, numbered Text.maxInteger 2, numbered Text.maxInteger 3])) := by
  decide +kernel

theorem assigned_key_again :
    ((Shelf.storeBy wrapping).history [.createTable "t" keyed, .insert "t" (unnumbered 1),
        .update "t" (renumber 2) Assoc.empty, .insert "t" (unnumbered 2), .select "t" Assoc.empty] Shelf.empty).1 =
      [.done .nothing, .done .nothing, .done (.count 1), .done .nothing, .done (.rows [numbered 2 1, numbered 2 2])] := by
  decide +kernel

end Numbering
end Table
end FeatureGate
