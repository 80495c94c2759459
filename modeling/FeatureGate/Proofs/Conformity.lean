import FeatureGate.Proofs.Book
import Mathlib.Data.List.Forall2

namespace FeatureGate
namespace Table.Layout

def Fits (layout : Layout) (row : Row) : Prop :=
  List.Forall₂ (fun column cell => cell.1 = column.1 ∧ column.2.accepts cell.2 = true)
    layout.columns row.pairs

variable {column : String} {cell : String × Value}

theorem text_cell : (cell.1 = column ∧ Kind.text.accepts cell.2 = true) ↔
    ∃ text, cell = (column, .text text) := by
  obtain ⟨held, value⟩ := cell
  cases value <;> simp [Kind.accepts]

theorem integer_cell : (cell.1 = column ∧ Kind.integer.accepts cell.2 = true) ↔
    ∃ number, cell = (column, .integer number) := by
  obtain ⟨held, value⟩ := cell
  cases value <;> simp [Kind.accepts]

theorem key_cell : (cell.1 = column ∧ Kind.key.accepts cell.2 = true) ↔
    ∃ number, cell = (column, .integer number) := by
  obtain ⟨held, value⟩ := cell
  cases value <;> simp [Kind.accepts]

end Table.Layout

namespace Registry
open Table Layout

def Form.Exact [DecidableEq κ] (form : Form κ ν) : Prop :=
  ∀ row, form.layout.Fits row ↔ ∃ line, row = form.row line

theorem feature_exact : featureForm.Exact := by
  intro row
  obtain ⟨pairs⟩ := row
  simp only [Fits, featureForm, keyed, List.cons_append, List.nil_append, List.forall₂_cons_left_iff,
    List.forall₂_nil_left_iff, text_cell, integer_cell, key_cell, Assoc.mk.injEq]
  constructor
  · intro fits
    obtain ⟨_, _, ⟨number, rfl⟩, ⟨_, _, ⟨plugin, rfl⟩, ⟨_, _, ⟨feature, rfl⟩, ⟨_, _, ⟨admin, rfl⟩,
      ⟨_, _, ⟨group, rfl⟩, ⟨_, _, ⟨user, rfl⟩, rfl, rfl⟩, rfl⟩, rfl⟩, rfl⟩, rfl⟩, rfl⟩ := fits
    exact ⟨⟨number, (plugin, feature), ⟨admin, group, user⟩⟩, rfl⟩
  · intro written
    obtain ⟨line, rfl⟩ := written
    simp

theorem override_exact {table column : String} (named : (overrideLayout column).nameFault table = none) (apart : Apart column) :
    (overrideForm table column named apart).Exact := by
  intro row
  obtain ⟨pairs⟩ := row
  simp only [Fits, overrideForm, overrideLayout, keyed, List.cons_append, List.nil_append, List.forall₂_cons_left_iff,
    List.forall₂_nil_left_iff, text_cell, integer_cell, key_cell, Assoc.mk.injEq]
  constructor
  · intro fits
    obtain ⟨_, _, ⟨number, rfl⟩, ⟨_, _, ⟨plugin, rfl⟩, ⟨_, _, ⟨feature, rfl⟩, ⟨_, _, ⟨holder, rfl⟩,
      ⟨_, _, ⟨state, rfl⟩, rfl, rfl⟩, rfl⟩, rfl⟩, rfl⟩, rfl⟩ := fits
    exact ⟨⟨number, (plugin, feature, holder), state⟩, rfl⟩
  · intro written
    obtain ⟨line, rfl⟩ := written
    simp

theorem superuser_exact : superuserForm.Exact := by
  intro row
  obtain ⟨pairs⟩ := row
  simp only [Fits, superuserForm, List.forall₂_cons_left_iff, List.forall₂_nil_left_iff, text_cell,
    key_cell, Assoc.mk.injEq]
  constructor
  · intro fits
    obtain ⟨_, _, ⟨number, rfl⟩, ⟨_, _, ⟨user, rfl⟩, rfl, rfl⟩, rfl⟩ := fits
    exact ⟨⟨number, user, ()⟩, rfl⟩
  · intro written
    obtain ⟨line, rfl⟩ := written
    simp

def Houses (shelf : Shelf) (table : String) (layout : Layout) : Prop :=
  ∃ sheet, shelf.sheets.get? table = some sheet ∧ sheet.layout = layout ∧ ∀ row ∈ sheet.rows, layout.Fits row

-- What the declared layouts promise of the four tables, and no more: foreign
-- writers may have repeated a key or stored a number that is no permission.
def Conforms (shelf : Shelf) : Prop := ∀ declared ∈ tables, Houses shelf declared.1 declared.2

theorem houses_page [DecidableEq κ] {form : Form κ ν} (exact : form.Exact) {shelf : Shelf} :
    Houses shelf form.table form.layout ↔ ∃ page, form.On page shelf := by
  constructor
  · intro kept
    obtain ⟨⟨layout, rows, next⟩, held, rfl, fits⟩ := kept
    have read : ∀ rows : List Row, (∀ row ∈ rows, form.layout.Fits row) →
        ∃ lines : List (Line κ ν), rows = lines.map form.row := by
      intro rows
      induction rows with
      | nil => exact fun _ => ⟨[], rfl⟩
      | cons row rest ih =>
          intro all
          obtain ⟨line, rfl⟩ := (exact row).mp (all row List.mem_cons_self)
          obtain ⟨lines, rfl⟩ := ih fun other member => all other (List.mem_cons_of_mem _ member)
          exact ⟨line :: lines, rfl⟩
    obtain ⟨lines, rfl⟩ := read rows fits
    exact ⟨⟨lines, next⟩, held⟩
  · intro held
    obtain ⟨page, on⟩ := held
    refine ⟨_, on, rfl, ?_⟩
    intro row member
    obtain ⟨line, _, rfl⟩ := List.mem_map.mp member
    exact (exact _).mpr ⟨line, rfl⟩

-- So to speak of all conforming contents is to speak of all books.
theorem conforms_exact {shelf : Shelf} : Conforms shelf ↔ ∃ book : Book, book.On shelf := by
  have parts : Conforms shelf ↔ (∃ page, featureForm.On page shelf) ∧ (∃ page, groupForm.On page shelf) ∧
      (∃ page, userForm.On page shelf) ∧ ∃ page, superuserForm.On page shelf := by
    rw [← houses_page feature_exact, ← houses_page (show groupForm.Exact from override_exact _ _),
      ← houses_page (show userForm.Exact from override_exact _ _), ← houses_page superuser_exact]
    simp [Conforms, tables, featureForm, groupForm, userForm, overrideForm, overrideLayout, superuserForm]
  rw [parts]
  constructor
  · intro pages
    obtain ⟨⟨features, one⟩, ⟨groups, two⟩, ⟨users, three⟩, ⟨superusers, four⟩⟩ := pages
    exact ⟨⟨features, groups, users, superusers⟩, one, two, three, four⟩
  · intro held
    obtain ⟨book, on⟩ := held
    exact ⟨⟨_, on.features⟩, ⟨_, on.groups⟩, ⟨_, on.users⟩, ⟨_, on.superusers⟩⟩

end Registry
end FeatureGate
