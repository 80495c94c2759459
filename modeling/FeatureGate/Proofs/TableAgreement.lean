import FeatureGate.Proofs.RowAgreement

namespace FeatureGate

theorem Assoc.replace_fresh {pairs : List (String × α)} (fresh : name ∉ pairs.map (·.1)) (value : α) :
    replace name value pairs = pairs ++ [(name, value)] := by
  induction pairs with
  | nil => rfl
  | cons pair rest ih =>
      obtain ⟨held, old⟩ := pair
      simp only [List.map_cons, List.mem_cons, not_or] at fresh
      simp [replace, Ne.symm fresh.1, ih fresh.2]

theorem Assoc.ofList_distinct {pairs : List (String × α)} (distinct : (pairs.map (·.1)).Nodup) :
    ofList pairs = ⟨pairs⟩ := by
  have append : ∀ before : List (String × α), ((before ++ pairs).map (·.1)).Nodup →
      pairs.foldl (fun m pair => m.put pair.1 pair.2) ⟨before⟩ = (⟨before ++ pairs⟩ : Assoc α) := by
    clear distinct
    induction pairs with
    | nil => intro before _; simp
    | cons pair rest ih =>
        intro before distinct
        have fresh : pair.1 ∉ before.map (·.1) := by
          simp only [List.map_append, List.map_cons] at distinct
          exact fun member => (List.nodup_append.mp distinct).2.2 _ member _ List.mem_cons_self rfl
        have put : (⟨before⟩ : Assoc α).put pair.1 pair.2 = ⟨before ++ [pair]⟩ :=
          congrArg Assoc.mk (replace_fresh fresh pair.2)
        rw [List.foldl_cons, put, ih (before ++ [pair]) (by simpa using distinct)]
        simp
  simpa [ofList, putAll, empty] using append [] (by simpa using distinct)

namespace Table.Layout

def cell (given : Row) (key : Int) (column : String × Kind) : String × Value :=
  (column.1, if column.2 = .key then .integer key else (given.get? column.1).getD (.text ""))

def laid (layout : Layout) (given : Row) (key : Int) : Row := ⟨layout.columns.map (cell given key)⟩

def hasKey (layout : Layout) : Bool := layout.columns.any (·.2 = .key)

variable {layout : Layout} {given : Row}

def Supplied (given : Row) (columns : List (String × Kind)) : Prop :=
  ∀ column ∈ columns, given.get? column.1 = none ↔ column.2 = .key

theorem supplied_of_sound (complete : layout.missingFault table given = none) (proper : layout.Proper)
    (keyless : layout.Keyless given) : Supplied given layout.columns := by
  intro column member
  have known : layout.kind? column.1 = some column.2 := kind?_of_mem proper member
  constructor
  · intro absent
    have there := List.find?_eq_none.mp (Option.map_eq_none_iff.mp complete) column member
    simpa [isMissing, absent] using there
  · intro key
    cases found : given.get? column.1 with
    | none => rfl
    | some value =>
        have named : column.1 ∈ given.names := List.mem_map_of_mem (f := (·.1)) (Assoc.lookup_mem found)
        exact (keyless column.1 named (key ▸ known)).elim

theorem place_supplied {column : String × Kind} (supplied : given.get? column.1 = none ↔ column.2 = .key)
    {before : List (String × Value)} (fresh : column.1 ∉ before.map (·.1)) (next : Int) :
    Sheet.placeBy (· + 1) given (⟨before⟩, next) column =
      (⟨before ++ [cell given next column]⟩, if column.2 = .key then next + 1 else next) := by
  obtain ⟨name, kind⟩ := column
  have put (value : Value) : (⟨before⟩ : Row).put name value = ⟨before ++ [(name, value)]⟩ :=
    congrArg Assoc.mk (Assoc.replace_fresh fresh value)
  unfold Sheet.placeBy cell
  cases found : given.get? name with
  | none =>
      obtain rfl : kind = .key := supplied.mp found
      simp only [put, Registry.max_next, if_true]
  | some value =>
      have plain : kind ≠ .key := fun key => by rw [supplied.mpr key] at found; cases found
      cases kind with
      | key => exact (plain rfl).elim
      | text => simp [put]
      | integer => simp [put]

theorem cell_plain {column : String × Kind} (plain : column.2 ≠ .key) (a b : Int) :
    cell given a column = cell given b column := by
  simp [cell, plain]

theorem lay_columns {columns : List (String × Kind)} (supplied : Supplied given columns)
    (before : List (String × Value)) (distinct : (before.map (·.1) ++ columns.map (·.1)).Nodup)
    (single : (columns.filter (·.2 = .key)).length ≤ 1) (next : Int) :
    columns.foldl (Sheet.placeBy (· + 1) given) (⟨before⟩, next) =
      (⟨before ++ columns.map (cell given next)⟩, if columns.any (·.2 = .key) then next + 1 else next) := by
  induction columns generalizing before next with
  | nil => simp
  | cons column rest ih =>
      have fresh : column.1 ∉ before.map (·.1) :=
        fun member => (List.nodup_append.mp distinct).2.2 _ member _ List.mem_cons_self rfl
      have placed := place_supplied (supplied column List.mem_cons_self) fresh next
      have later : Supplied given rest := fun other member => supplied other (List.mem_cons_of_mem _ member)
      have apart : ((before ++ [cell given next column]).map (·.1) ++ rest.map (·.1)).Nodup := by
        simpa [cell] using distinct
      rw [List.foldl_cons, placed]
      by_cases key : column.2 = .key
      · have others : rest.filter (·.2 = .key) = [] := by
          simp only [List.filter_cons, key, decide_true, if_true, List.length_cons] at single
          exact List.length_eq_zero_iff.mp (by omega)
        have plain : ∀ other ∈ rest, ¬other.2 = .key := by simpa using List.filter_eq_nil_iff.mp others
        have same : rest.map (cell given (next + 1)) = rest.map (cell given next) :=
          List.map_congr_left fun other member => cell_plain (plain other member) _ _
        have spent : rest.any (·.2 = .key) = false := by simpa using plain
        rw [if_pos key, ih later _ apart (by simp [others]), same, spent]
        simp [key]
      · have alone : (rest.filter (·.2 = .key)).length ≤ 1 := by simpa [List.filter_cons, key] using single
        rw [if_neg key, ih later _ apart alone, List.any_cons, decide_eq_false key, Bool.false_or]
        simp

theorem layOut_laid {sheet : Sheet} (proper : sheet.layout.Proper) (supplied : Supplied given sheet.layout.columns) :
    sheet.layOut given = (sheet.layout.laid given sheet.nextKey,
      if sheet.layout.hasKey then sheet.nextKey + 1 else sheet.nextKey) := by
  exact lay_columns supplied [] proper.distinct proper.single sheet.nextKey

theorem laid_keyless (plain : layout.hasKey = false) (a b : Int) : layout.laid given a = layout.laid given b := by
  refine congrArg Assoc.mk (List.map_congr_left fun column member => cell_plain ?_ a b)
  simp only [hasKey, List.any_eq_false, decide_eq_true_eq] at plain
  exact plain column member

end Table.Layout

namespace Sql
open Table Layout

variable {layout : Layout} {slips : List Slip} {sheet : Sheet} {table : TableData} {given : Row}

theorem laid_fits (proper : layout.Proper) (supplied : Supplied given layout.columns) (takes : layout.Takes given.pairs)
    (number : Int) : Slip.Fits layout ⟨number, layout.laid given number⟩ := by
  have accepted : ∀ column ∈ layout.columns,
      column.1 = column.1 ∧ column.2.accepts (cell given number column).2 = true := by
    intro column member
    refine ⟨rfl, ?_⟩
    by_cases key : column.2 = .key
    · simp [cell, key, Kind.accepts]
    · cases found : given.get? column.1 with
      | none => exact (key ((supplied column member).mp found)).elim
      | some value =>
          obtain ⟨kind, known, _, accepted⟩ := takes _ (Assoc.lookup_mem found)
          have same : kind = column.2 := Option.some.inj (known.symm.trans (kind?_of_mem proper member))
          simpa [cell, key, found] using same ▸ accepted
  have fits : layout.Fits (layout.laid given number) :=
    List.forall₂_map_right_iff.mpr (List.forall₂_same.mpr accepted)
  refine ⟨fits, ?_⟩
  intro name key
  have shown : (name, Value.integer number) ∈ (layout.laid given number).pairs :=
    List.mem_map.mpr ⟨(name, .key), Assoc.lookup_mem key, rfl⟩
  refine Assoc.lookup_of_mem ?_ shown
  rw [Layout.Fits.names fits]
  exact proper.distinct

theorem find_target (proper : layout.Proper) (known : layout.kind? name = some kind) {cells : List (String × Value)}
    (takes : layout.Takes cells) :
    (cells.map (target layout)).find? (·.1 = .column (layout.position name)) =
      (Assoc.lookup name cells).map fun value => (.column (layout.position name), value) := by
  induction cells with
  | nil => rfl
  | cons cell rest ih =>
      obtain ⟨held, value⟩ := cell
      have later := ih fun other member => takes other (List.mem_cons_of_mem _ member)
      obtain ⟨kind', known', _, _⟩ := takes _ List.mem_cons_self
      by_cases same : held = name
      · subst same
        simp [target, Assoc.lookup]
      · have apart : layout.position held ≠ layout.position name :=
          fun together => same (position_injective proper known' known together)
        simpa [target, Assoc.lookup, same, List.find?_cons, apart] using later

theorem insert_laid (proper : layout.Proper) (columns : table.columns = layout.columns)
    (supplied : Supplied given layout.columns) (takes : layout.Takes given.pairs)
    (fresh : table.freshNumber = .ok number) : table.insert given.pairs =
      if table.has number then .error table.clash
      else .ok { table with
        rows := TableData.place (Slip.stored ⟨number, layout.laid given number⟩) table.rows
        highest := max table.highest number } := by
  have cells : ((table.columns.mapIdx fun index column => (index, column)).map fun column =>
      Cell.ofValue (cell given number column.2).2) = (layout.laid given number).values.map Cell.ofValue := by
    refine List.ext_getElem? fun index => ?_
    simp [columns, laid, Assoc.values, Function.comp_def]
  unfold TableData.insert
  rw [targets_known columns proper takes]
  simp only [bind, Except.bind]
  rw [targets_plain]
  simp only [List.getLast?_nil]
  rw [fresh]
  simp only []
  rw [mapM_each (g := fun column : Nat × String × Kind => Cell.ofValue (cell given number column.2).2), cells]
  · rfl
  · intro column member
    obtain ⟨index, bound, rfl⟩ := List.mem_mapIdx.mp member
    simp only [columns] at bound ⊢
    obtain ⟨⟨name, kind⟩, there⟩ : ∃ column, layout.columns[index]? = some column := ⟨_, List.getElem?_eq_getElem bound⟩
    have is : layout.columns[index] = (name, kind) := (List.getElem?_eq_some_iff.mp there).2
    have member : (name, kind) ∈ layout.columns := List.mem_of_getElem? there
    have known := kind?_of_mem proper member
    rw [is]
    by_cases key : kind = .key
    · simp [cell, key, Cell.ofValue]
      rfl
    · cases found : given.get? name with
      | none => exact (key ((supplied _ member).mp found)).elim
      | some value =>
          obtain ⟨kind', known', _, accepted⟩ := takes _ (Assoc.lookup_mem found)
          obtain rfl : kind = kind' := Option.some.inj (known.symm.trans known')
          have target := find_target proper known takes
          rw [position_at proper there, show Assoc.lookup name given.pairs = some value from found] at target
          simp [target, cell, key, found, stored_accepted accepted]
          rfl

-- One table on both sides: the same rows in the order in which they came, under
-- ascending numbers, none above the highest number ever used. Where there is a key,
-- both sides would give out the same next one.
structure Copies (slips : List Slip) (sheet : Sheet) (table : TableData) : Prop where
  columns : table.columns = sheet.layout.columns
  fits : ∀ slip ∈ slips, slip.Fits sheet.layout
  rows : sheet.rows = slips.map (·.row)
  stored : table.rows = slips.map Slip.stored
  ascending : slips.Pairwise (·.number < ·.number)
  below : ∀ slip ∈ slips, slip.number ≤ table.highest
  begun : 0 ≤ table.highest
  next : sheet.layout.hasKey = true → sheet.nextKey = table.highest + 1

theorem Copies.fresh (layout : Layout) (name : String) : Copies [] { layout } { name, columns := layout.columns } :=
  ⟨rfl, nofun, rfl, rfl, .nil, nofun, Int.le_refl 0, fun _ => rfl⟩

theorem keyColumn_hasKey (columns : table.columns = layout.columns) : table.keyColumn?.isSome = layout.hasKey := by
  simp [TableData.keyColumn?, hasKey, columns, List.isSome_find?]

theorem next_above {rows : List Stored} (ascending : rows.Pairwise (·.number < ·.number)) :
    ∀ row ∈ rows, row.number < ((rows.getLast?.map (·.number)).map (· + 1)).getD 1 := by
  intro row member
  rcases List.eq_nil_or_concat rows with rfl | ⟨before, final, rfl⟩
  · cases member
  · rw [List.concat_eq_append] at ascending member ⊢
    obtain ⟨_, _, ascends⟩ := List.pairwise_append.mp ascending
    simp only [List.getLast?_concat, Option.map_some, Option.getD_some]
    rcases List.mem_append.mp member with early | late
    · have less := ascends row early final List.mem_cons_self
      omega
    · rw [List.mem_singleton.mp late]
      omega

-- While there is room a number is found, above all that are present. With a key it is the
-- one after the highest ever used.
theorem TableData.freshNumber_room (ascending : table.rows.Pairwise (·.number < ·.number))
    (below : ∀ row ∈ table.rows, row.number ≤ table.highest) (begun : 0 ≤ table.highest)
    (room : table.highest < Text.maxInteger) :
    ∃ number, table.freshNumber = .ok number ∧ (∀ row ∈ table.rows, row.number < number) ∧
      number ≤ table.highest + 1 ∧ (table.keyColumn?.isSome = true → number = table.highest + 1) := by
  have above := next_above ascending
  have within : ((table.rows.getLast?.map (·.number)).map (· + 1)).getD 1 ≤ table.highest + 1 := by
    cases last : table.rows.getLast? with
    | none =>
        simp only [Option.map_none, Option.getD_none]
        omega
    | some final => simpa using below final (List.mem_of_getLast? last)
  generalize is : ((table.rows.getLast?.map (·.number)).map (· + 1)).getD 1 = next at above within
  have spare : table.rows.getLast?.map (·.number) ≠ some Text.maxInteger := by
    intro full
    obtain ⟨row, there, is⟩ := Option.map_eq_some_iff.mp full
    have bound := below row (List.mem_of_getLast? there)
    omega
  unfold TableData.freshNumber
  simp only [is]
  cases keyed : table.keyColumn?.isSome with
  | true =>
      have roomy : ¬(table.highest = Text.maxInteger ∨ table.rows.getLast?.map (·.number) = some Text.maxInteger) := by
        rintro (full | full)
        · omega
        · exact spare full
      have most : max next (table.highest + 1) = table.highest + 1 := by omega
      rw [if_pos rfl, if_neg roomy, most]
      refine ⟨table.highest + 1, rfl, ?_, Int.le_refl _, fun _ => rfl⟩
      intro row member
      have less := above row member
      omega
  | false => exact ⟨next, by simp [spare], above, within, by simp⟩

theorem Copies.freshNumber (copies : Copies slips sheet table) (room : table.highest < Text.maxInteger) :
    ∃ number, table.freshNumber = .ok number ∧ (∀ slip ∈ slips, slip.number < number) ∧
      (sheet.layout.hasKey = true → number = table.highest + 1) := by
  have ascending : table.rows.Pairwise (·.number < ·.number) :=
    copies.stored ▸ List.pairwise_map.mpr copies.ascending
  have below : ∀ row ∈ table.rows, row.number ≤ table.highest := by
    rw [copies.stored]
    exact List.forall_mem_map.mpr copies.below
  obtain ⟨number, fresh, above, _, keyed⟩ := TableData.freshNumber_room ascending below copies.begun room
  rw [copies.stored] at above
  rw [keyColumn_hasKey copies.columns] at keyed
  exact ⟨number, fresh, fun slip member => above _ (List.mem_map_of_mem member), keyed⟩

theorem place_last {rows : List Stored} {row : Stored} (last : ∀ held ∈ rows, held.number < row.number) :
    TableData.place row rows = rows ++ [row] := by
  induction rows with
  | nil => rfl
  | cons first rest ih =>
      have less := last first List.mem_cons_self
      have apart : ¬row.number < first.number := by omega
      simp [TableData.place_cons, apart, ih fun held member => last held (List.mem_cons_of_mem _ member)]

theorem Copies.unused (copies : Copies slips sheet table) (above : ∀ slip ∈ slips, slip.number < number) :
    table.has number = false := by
  simp only [TableData.has, copies.stored, List.any_map, List.any_eq_false, Function.comp_apply, decide_eq_true_eq]
  intro slip member same
  have less := above slip member
  exact absurd same (by simp [Slip.stored]; omega)

theorem Copies.layOut (copies : Copies slips sheet table) (proper : sheet.layout.Proper)
    (supplied : Supplied given sheet.layout.columns) (keyed : sheet.layout.hasKey = true → number = table.highest + 1) :
    sheet.layOut given = (sheet.layout.laid given number,
      if sheet.layout.hasKey then number + 1 else sheet.nextKey) := by
  rw [layOut_laid proper supplied]
  cases plain : sheet.layout.hasKey with
  | true => rw [keyed plain, copies.next plain]
  | false => rw [laid_keyless plain sheet.nextKey number]; rfl

theorem Copies.insert (copies : Copies slips sheet table) (proper : sheet.layout.Proper)
    (sound : sheet.layout.insertFault name given = none) (keyless : sheet.layout.Keyless given)
    (room : table.highest < Text.maxInteger) :
    ∃ slips' after, table.insert given.pairs = .ok after ∧ Copies slips' (sheet.insert given) after ∧
      after.name = table.name := by
  obtain ⟨fine, complete⟩ := (Option.orElse_eq_none _ _).mp sound
  have takes := takes_sound fine keyless
  have supplied := supplied_of_sound complete proper keyless
  obtain ⟨number, fresh, above, keyed⟩ := copies.freshNumber room
  have inserted := insert_laid proper copies.columns supplied takes fresh
  rw [copies.unused above, if_neg Bool.false_ne_true] at inserted
  have laidOut := copies.layOut proper supplied keyed
  have last : ∀ held ∈ table.rows, held.number < number := by
    rw [copies.stored]
    intro held member
    obtain ⟨slip, there, rfl⟩ := List.mem_map.mp member
    exact above slip there
  refine ⟨slips ++ [⟨number, sheet.layout.laid given number⟩], _, inserted, ?_, rfl⟩
  refine ⟨copies.columns, ?_, ?_, ?_, ?_, ?_, ?_, ?_⟩
  · intro slip member
    rcases List.mem_append.mp member with old | new
    · exact copies.fits slip old
    · rw [List.mem_singleton.mp new]
      exact laid_fits proper supplied takes number
  · simp [Sheet.insertBy, laidOut, copies.rows]
  · show TableData.place _ table.rows = _
    rw [place_last last, copies.stored]
    simp
  · refine List.pairwise_append.mpr ⟨copies.ascending, List.pairwise_singleton _ _, ?_⟩
    intro slip member new here
    rw [List.mem_singleton.mp here]
    exact above slip member
  · intro slip member
    show slip.number ≤ max table.highest number
    rcases List.mem_append.mp member with old | new
    · have below := copies.below slip old
      omega
    · rw [List.mem_singleton.mp new]
      exact Int.le_max_right _ _
  · have begun := copies.begun
    show 0 ≤ max table.highest number
    omega
  · intro plain
    have is := keyed plain
    show (sheet.layOut given).2 = max table.highest number + 1
    rw [laidOut]
    simp only [show sheet.layout.hasKey = true from plain, if_true]
    omega

theorem place_again {before rest : List Stored} {old new : Stored} (same : new.number = old.number)
    (less : ∀ held ∈ before, held.number < old.number) (more : ∀ held ∈ rest, old.number < held.number) :
    TableData.place new ((before ++ old :: rest).filter (·.number ≠ old.number)) = before ++ new :: rest := by
  have kept : (before ++ old :: rest).filter (·.number ≠ old.number) = before ++ rest := by
    have one : before.filter (·.number ≠ old.number) = before :=
      List.filter_eq_self.mpr fun held member => by have := less held member; simp; omega
    have other : rest.filter (·.number ≠ old.number) = rest :=
      List.filter_eq_self.mpr fun held member => by have := more held member; simp; omega
    rw [List.filter_append, one, List.filter_cons, other]
    simp
  rw [kept]
  clear kept
  induction before with
  | nil => cases rest with
      | nil => rfl
      | cons next rest =>
          have below : new.number < next.number := by
            have := more next List.mem_cons_self
            omega
          simp [TableData.place_cons, below]
  | cons first before ih =>
      have apart : ¬new.number < first.number := by
        have := less first List.mem_cons_self
        omega
      simp [TableData.place_cons, apart, ih fun held member => less held (List.mem_cons_of_mem _ member)]

theorem ascending_of_numbers {number : α → Int} {rows rows' : List α} (same : rows'.map number = rows.map number)
    (ascending : rows.Pairwise (number · < number ·)) : rows'.Pairwise (number · < number ·) := by
  have numbers : (rows.map number).Pairwise (· < ·) := List.pairwise_map.mpr ascending
  rw [← same] at numbers
  exact List.pairwise_map.mp numbers

section Update
variable {cells filter : List (String × Value)}

def TableData.rewritten (table : TableData) (targets : List (Target × Value)) (row : Stored) : Stored :=
  table.renumber row.number (table.assignCells targets row)

theorem updateRow_plain (row : Stored) : TableData.updateRow (cells.map (target layout)) table row =
    .ok { table with rows := TableData.place (table.rewritten (cells.map (target layout)) row) <|
      table.rows.filter (·.number ≠ row.number) } := by
  unfold TableData.updateRow
  rw [targets_plain]
  simp [bind, Except.bind, TableData.rewritten]

-- The induction is on the rows that are still to come; those before have been
-- changed already, and only their numbers matter.
theorem updateRows_each (chosen : Stored → Bool) (before rest : List Stored) (stored : table.rows = before ++ rest)
    (ascending : (before ++ rest).Pairwise (·.number < ·.number)) :
    (rest.filter chosen).foldlM (TableData.updateRow (cells.map (target layout))) table = .ok { table with
      rows := before ++ rest.map (fun row =>
        if chosen row then table.rewritten (cells.map (target layout)) row else row) } := by
  induction rest generalizing before table with
  | nil =>
      rw [List.append_nil] at stored
      simp only [List.filter_nil, List.map_nil, List.foldlM_nil, List.append_nil, ← stored]
      rfl
  | cons row rest ih =>
      by_cases mine : chosen row = true
      · obtain ⟨_, later, less⟩ := List.pairwise_append.mp ascending
        let new := table.rewritten (cells.map (target layout)) row
        have moved : TableData.place new (table.rows.filter (·.number ≠ row.number)) = before ++ new :: rest := by
          rw [stored]
          exact place_again rfl (fun held member => less held member row List.mem_cons_self)
            (List.pairwise_cons.mp later).1
        have still : ((before ++ [new]) ++ rest).Pairwise (·.number < ·.number) :=
          ascending_of_numbers (by simp [new, TableData.rewritten, TableData.renumber]) ascending
        rw [List.filter_cons_of_pos mine, List.foldlM_cons, updateRow_plain, moved]
        have after := @ih { table with rows := before ++ new :: rest } (before ++ [new]) (by simp) still
        exact after.trans (by simp [new, mine, TableData.rewritten, TableData.renumber, TableData.assignCells])
      · rw [List.filter_cons_of_neg mine]
        refine (ih (before ++ [row]) (by simpa using stored) (by simpa using ascending)).trans ?_
        simp [mine]

theorem update_each (proper : layout.Proper) (columns : table.columns = layout.columns) (takes : layout.Takes cells)
    (ascending : table.rows.Pairwise (·.number < ·.number)) :
    table.update cells filter = .ok ((table.rows.filter (table.selects filter)).length, { table with
      rows := table.rows.map (fun row =>
        if table.selects filter row then table.rewritten (cells.map (target layout)) row else row) }) := by
  unfold TableData.update
  rw [targets_known columns proper takes]
  simp only [bind, Except.bind]
  rw [updateRows_each (table.selects filter) [] table.rows rfl ascending]
  rfl

def changed (filter assignment : Row) (slip : Slip) : Slip :=
  if slip.row.answers filter then slip.assign assignment.pairs else slip

theorem changed_number (filter assignment : Row) (slip : Slip) :
    (changed filter assignment slip).number = slip.number := by
  unfold changed
  split <;> simp

theorem Slip.Fits.rewritten {slip : Slip} (fits : slip.Fits layout) (proper : layout.Proper)
    (columns : table.columns = layout.columns) (takes : layout.Takes cells) :
    table.rewritten (cells.map (target layout)) slip.stored = (slip.assign cells).stored := by
  obtain ⟨fitsAfter, assigned⟩ := fits.assign proper columns takes
  have shown := fitsAfter.renumber proper columns
  rw [Slip.assign_number] at shown
  unfold TableData.rewritten
  rw [assigned]
  exact shown

end Update

theorem read_accepted {kind : Kind} {value : Value} (accepted : kind.accepts value = true) :
    Connection.read? kind (.ofValue value) = some value := by
  cases kind <;> cases value <;> first | rfl | cases accepted

namespace Slip
variable {slip : Slip}

theorem Fits.rowid (fits : slip.Fits layout) (proper : layout.Proper) (columns : table.columns = layout.columns) :
    TableData.look slip.stored (table.reference "rowid") = .integer slip.number := by
  unfold TableData.reference TableData.column?
  rw [columns]
  cases found : layout.columns.findIdx? (sameName "rowid" ·.1) with
  | none => rfl
  | some index =>
      obtain ⟨bound, named, _⟩ := List.findIdx?_eq_some_iff_getElem.mp found
      have there : layout.columns[index]? = some (layout.columns[index].1, layout.columns[index].2) :=
        List.getElem?_eq_getElem bound
      rw [sameName_comm] at named
      have key := proper.ordered _ (List.getElem_mem bound) named
      have known : layout.kind? layout.columns[index].1 = some .key :=
        key ▸ kind?_of_mem proper (List.getElem_mem bound)
      obtain ⟨value, cell, held, _⟩ := fits.cell proper known
      rw [position_at proper there] at cell
      obtain rfl : value = .integer slip.number := Option.some.inj (held.symm.trans (fits.key _ known))
      simp [there, key, TableData.look, List.getD_eq_getElem?_getD, cells_at cell, Cell.ofValue]

theorem Fits.shown (fits : slip.Fits layout) (proper : layout.Proper) (columns : table.columns = layout.columns) :
    (layout.columns.map (·.1)).map (fun name => TableData.look slip.stored (table.reference name)) =
      slip.stored.cells := by
  refine List.ext_getElem? fun index => ?_
  cases there : layout.columns[index]? with
  | none =>
      have long := (List.forall₂_iff_get.mp fits.row).1
      have outside : slip.row.pairs[index]? = none := by
        rw [List.getElem?_eq_none_iff] at there ⊢
        omega
      simp [there, stored, Assoc.values, outside]
  | some column =>
      obtain ⟨name, kind⟩ := column
      have known := kind?_of_mem proper (List.mem_of_getElem? there)
      obtain ⟨value, cell, _, _⟩ := fits.cell proper known
      have shown := reference_known columns proper known
      rw [position_at proper there] at cell shown
      simp [there, shown, TableData.look, List.getD_eq_getElem?_getD, cells_at cell]

theorem Fits.read (fits : slip.Fits layout) (proper : layout.Proper) :
    Connection.row? layout slip.stored.cells = some slip.row := by
  have cells : (layout.columns.zip slip.stored.cells).mapM (fun pair => Connection.cell? pair.1 pair.2) =
      some slip.row.pairs := by
    have all := fits.row
    unfold Layout.Fits at all
    unfold stored Assoc.values
    generalize layout.columns = columns at all
    generalize slip.row.pairs = pairs at all
    induction all with
    | nil => rfl
    | @cons column cell _ _ first _ ih =>
        have one : Connection.cell? column (.ofValue cell.2) = some cell := by
          rw [Connection.cell?, read_accepted first.2, Option.map_some, ← first.1]
        rw [List.map_cons, List.map_cons, List.zip_cons_cons, List.mapM_cons, one, ih]
        rfl
  unfold Connection.row?
  rw [cells, Option.map_some, Assoc.ofList_distinct (fits.distinct proper)]

end Slip

section Copied
variable (copies : Copies slips sheet table) (proper : sheet.layout.Proper) {assignment filter : Row}
include copies proper

theorem Copies.chosen (sound : sheet.layout.cellsFault name filter = none) :
    table.rows.filter (table.selects filter.pairs) = (slips.filter (·.row.answers filter)).map Slip.stored := by
  rw [copies.stored, List.filter_map]
  refine congrArg (List.map Slip.stored) (List.filter_congr fun slip member => ?_)
  exact (copies.fits slip member).selects proper copies.columns sound

omit proper in
theorem Copies.select_length :
    (sheet.select filter).length = (slips.filter (·.row.answers filter)).length := by
  rw [Sheet.select, copies.rows, List.filter_map, List.length_map]
  rfl

theorem Copies.update (sound : sheet.layout.updateFault name assignment filter = none)
    (keyless : sheet.layout.Keyless assignment) :
    ∃ slips' after, table.update assignment.pairs filter.pairs = .ok ((sheet.select filter).length, after) ∧
      Copies slips' (sheet.rewritten assignment filter) after ∧ after.name = table.name := by
  obtain ⟨fine, asked⟩ := (Option.orElse_eq_none _ _).mp sound
  have takes := takes_sound fine keyless
  have numbered : table.rows.Pairwise (·.number < ·.number) := by
    rw [copies.stored]
    exact List.pairwise_map.mpr copies.ascending
  have updated : table.update assignment.pairs filter.pairs = _ := update_each proper copies.columns takes numbered
  have rows : table.rows.map (fun row => if table.selects filter.pairs row
      then table.rewritten (assignment.pairs.map (target sheet.layout)) row else row) =
        (slips.map (changed filter assignment)).map Slip.stored := by
    rw [copies.stored, List.map_map, List.map_map]
    refine List.map_congr_left fun slip member => ?_
    have fits := copies.fits slip member
    simp only [Function.comp_apply, changed, fits.selects proper copies.columns asked,
      fits.rewritten proper copies.columns takes, apply_ite Slip.stored]
  rw [rows, copies.chosen proper asked, List.length_map, ← copies.select_length] at updated
  refine ⟨slips.map (changed filter assignment), _, updated, ?_, rfl⟩
  refine ⟨copies.columns, ?_, ?_, rfl, ?_, ?_, copies.begun, copies.next⟩
  · intro slip member
    obtain ⟨old, there, rfl⟩ := List.mem_map.mp member
    unfold changed
    split
    · exact ((copies.fits old there).assign proper copies.columns takes).1
    · exact copies.fits old there
  · rw [Sheet.rewritten, copies.rows, List.map_map, List.map_map]
    refine List.map_congr_left fun slip member => ?_
    by_cases mine : slip.row.answers filter = true <;> simp [changed, mine, Slip.assign_row]
  · exact ascending_of_numbers (by simp [Function.comp_def, changed_number]) copies.ascending
  · intro slip member
    obtain ⟨old, there, rfl⟩ := List.mem_map.mp member
    rw [changed_number]
    exact copies.below old there

theorem Copies.delete (sound : sheet.layout.cellsFault name filter = none) :
    ∃ slips' after, table.delete filter.pairs = ((sheet.select filter).length, after) ∧
      Copies slips' (sheet.without filter) after ∧ after.name = table.name := by
  have deleted : table.delete filter.pairs = ((sheet.select filter).length,
      { table with rows := (slips.filter (!·.row.answers filter)).map Slip.stored }) := by
    unfold TableData.delete
    rw [copies.chosen proper sound, copies.select_length, List.length_map]
    refine congrArg (fun rows => (_, { table with rows })) ?_
    rw [copies.stored, List.filter_map]
    refine congrArg (List.map Slip.stored) (List.filter_congr fun slip member => ?_)
    exact congrArg not ((copies.fits slip member).selects proper copies.columns sound)
  refine ⟨slips.filter (!·.row.answers filter), _, deleted, ?_, rfl⟩
  refine ⟨copies.columns, ?_, ?_, rfl, copies.ascending.filter _, ?_, copies.begun, copies.next⟩
  · exact fun slip member => copies.fits slip (List.mem_of_mem_filter member)
  · rw [Sheet.without, copies.rows, List.filter_map]
    rfl
  · exact fun slip member => copies.below slip (List.mem_of_mem_filter member)

omit copies proper in
theorem inOrder_sorted {rows : List Stored} (sorted : rows.Pairwise fun a b => table.precedes a b = true) :
    table.inOrder rows = rows := by
  induction rows with
  | nil => rfl
  | cons row rest ih =>
      obtain ⟨first, later⟩ := List.pairwise_cons.mp sorted
      have kept : table.inOrder (row :: rest) = table.enter row rest := congrArg (table.enter row) (ih later)
      rw [kept]
      cases rest with
      | nil => rfl
      | cons next rest => simp [TableData.enter_cons, first next List.mem_cons_self]

theorem Copies.ordered (chosen : Slip → Bool) :
    table.inOrder ((slips.filter chosen).map Slip.stored) = (slips.filter chosen).map Slip.stored := by
  refine inOrder_sorted (List.pairwise_map.mpr ?_)
  refine (copies.ascending.filter chosen).imp_of_mem fun {a b} first second less => ?_
  rw [TableData.precedes, (copies.fits a (List.mem_of_mem_filter first)).rowid proper copies.columns,
    (copies.fits b (List.mem_of_mem_filter second)).rowid proper copies.columns]
  simp [Cell.precedes]
  omega

theorem Copies.select (sound : sheet.layout.cellsFault name filter = none) :
    Connection.rows? sheet.layout (.found (table.select (sheet.layout.columns.map (·.1)) filter.pairs)) =
      some (sheet.select filter) := by
  have found : table.select (sheet.layout.columns.map (·.1)) filter.pairs =
      (slips.filter (·.row.answers filter)).map (·.stored.cells) := by
    unfold TableData.select
    rw [copies.chosen proper sound, copies.ordered proper, List.map_map]
    refine List.map_congr_left fun slip member => ?_
    exact (copies.fits slip (List.mem_of_mem_filter member)).shown proper copies.columns
  rw [found, Connection.rows?, List.mapM_map, mapM_each (g := Slip.row)]
  · rw [Sheet.select, copies.rows, List.filter_map]
    rfl
  · exact fun slip member => (copies.fits slip (List.mem_of_mem_filter member)).read proper

end Copied
end Sql
end FeatureGate
