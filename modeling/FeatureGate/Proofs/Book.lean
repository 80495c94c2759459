import FeatureGate.Proofs.TableForms

namespace FeatureGate
namespace Registry
open Table

theorem ofInteger_toInteger (state : Permission) : Permission.ofInteger state.toInteger = .ok state := by
  cases state <;> rfl

namespace Marks

def of (defaults : Defaults) : Marks :=
  ⟨defaults.admin.toInteger, defaults.group.toInteger, defaults.user.toInteger⟩

def read (marks : Marks) : Except Invalid Defaults := do
  return ⟨← Permission.ofInteger marks.admin, ← Permission.ofInteger marks.group,
    ← Permission.ofInteger marks.user⟩

theorem read_of (defaults : Defaults) : (of defaults).read = .ok defaults := by
  simp [read, of, ofInteger_toInteger, bind, Except.bind, pure, Except.pure]

end Marks

namespace Page

def permission? [DecidableEq κ] (page : Page κ Int) (key : κ) : Except Invalid (Option Permission) :=
  match page.first? key with
  | none => .ok none
  | some number => (Permission.ofInteger number).map some

def defaults? (page : Page (String × String) Marks) (plugin feature : String) :
    Except Invalid (Option Defaults) :=
  match page.first? (plugin, feature) with
  | none => .ok none
  | some marks => marks.read.map some

def entries (page : Page (String × String) Marks) : Except Invalid (List Entry) :=
  page.lines.mapM fun line => return ⟨line.key.1, line.key.2, ← line.value.read⟩

theorem entries_ok {page : Page (String × String) Marks} {meant : Line (String × String) Marks → Defaults}
    (reads : ∀ line ∈ page.lines, line.value.read = .ok (meant line)) :
    page.entries = .ok (page.lines.map fun line => ⟨line.key.1, line.key.2, meant line⟩) := by
  obtain ⟨lines, next⟩ := page
  simp only [entries] at reads ⊢
  induction lines with
  | nil => rfl
  | cons line rest ih =>
      have later := ih fun other member => reads other (List.mem_cons_of_mem _ member)
      rw [List.mapM_cons, later, reads line List.mem_cons_self]
      rfl

end Page

-- What is read of a page that lies on the shelf. Every reading leaves the shelf as
-- it is; what follows is about one page at a time and open about all the others.
section Reading
variable {shelf : Shelf}

theorem understood_apply (result : Except Invalid α) (s : σ) :
    (understood result : Action σ Error α) s = (.ofExcept (result.mapError .validation), s) := rfl

theorem isSuperuser_on (on : superuserForm.On page shelf) (user : String) :
    isSuperuser Shelf.store user shelf = (.done (decide (user ∈ page.keys)), shelf) := by
  have rows : rowsOf Shelf.store superusers (superuserKey user) shelf = _ := Form.rowsOf_on on user
  unfold isSuperuser
  rw [Action.bind_done rows, Form.empty_under]
  simp

theorem allSuperusers_on (on : superuserForm.On page shelf) :
    allSuperusers Shelf.store shelf = (.done page.keys, shelf) := by
  have rows : rowsOf Shelf.store superusers Assoc.empty shelf = _ := Form.rowsOf_all on
  have named : ∀ lines : List (Line String Unit),
      (lines.map superuserForm.row).filterMap (Row.text? · "user_id") = lines.map (·.key) := by
    intro lines
    induction lines with
    | nil => rfl
    | cons line rest ih => exact congrArg (line.key :: ·) ih
  unfold allSuperusers
  rw [Action.bind_done rows, named]
  rfl

theorem defaults?_on (on : featureForm.On page shelf) (plugin feature : String) :
    defaults? Shelf.store plugin feature shelf =
      (.ofExcept ((page.defaults? plugin feature).mapError .validation), shelf) := by
  have rows : rowsOf Shelf.store features (featureKey plugin feature) shelf = _ :=
    Form.rowsOf_on on (plugin, feature)
  unfold defaults? Page.defaults?
  rw [Action.bind_done rows, understood_apply, Page.first?_under]
  cases page.under (plugin, feature) <;> rfl

theorem state?_on [DecidableEq κ] {form : Form κ Int} {page : Page κ Int} (on : form.On page shelf)
    (states : ∀ line, permissionOf (form.row line) "state" = Permission.ofInteger line.value) (k : κ) :
    state? Shelf.store form.table (form.key k) shelf =
      (.ofExcept ((page.permission? k).mapError .validation), shelf) := by
  unfold state? Page.permission?
  rw [Action.bind_done (Form.rowsOf_on on k), understood_apply, Page.first?_under]
  cases page.under k with
  | nil => rfl
  | cons line rest => simp [firstOf, states]

theorem groupOverride?_on (on : groupForm.On page shelf) (plugin feature group : String) :
    groupOverride? Shelf.store plugin feature group shelf =
      (.ofExcept ((page.permission? (plugin, feature, group)).mapError .validation), shelf) :=
  state?_on on (fun _ => rfl) (plugin, feature, group)

theorem userOverride?_on (on : userForm.On page shelf) (plugin feature user : String) :
    userOverride? Shelf.store plugin feature user shelf =
      (.ofExcept ((page.permission? (plugin, feature, user)).mapError .validation), shelf) :=
  state?_on on (fun _ => rfl) (plugin, feature, user)

theorem allFeatures_on (on : featureForm.On page shelf) :
    allFeatures Shelf.store shelf = (.ofExcept (page.entries.mapError .validation), shelf) := by
  have rows : rowsOf Shelf.store features Assoc.empty shelf = _ := Form.rowsOf_all on
  unfold allFeatures
  rw [Action.bind_done rows, understood_apply, List.mapM_map]
  rfl

end Reading

section Writing
variable {shelf : Shelf}

theorem setSuperuser_on (on : superuserForm.On page shelf) (user : String) :
    (Mutation.setSuperuser user).apply Shelf.store shelf =
      (.done (), superuserForm.lay (page.write user ()) shelf) := by
  have rows : rowsOf Shelf.store superusers (superuserKey user) shelf = _ := Form.rowsOf_on on user
  simp only [Mutation.apply]
  rw [Action.bind_done rows, Form.empty_under]
  by_cases held : user ∈ page.keys
  · have kept : page.rewrite user () = page := by simp [Page.rewrite]
    simp [held, Page.write, kept, Form.lay_held on]
  · simp only [held, not_false_eq_true, decide_true, if_true, Page.write, if_false]
    exact Action.mapError_done (Form.insert_on on user ())

theorem removeSuperuser_on (on : superuserForm.On page shelf) (user : String) :
    (Mutation.removeSuperuser user).apply Shelf.store shelf =
      (.done (), superuserForm.lay (page.strike user) shelf) := by
  have rows : rowsOf Shelf.store superusers (superuserKey user) shelf = _ := Form.rowsOf_on on user
  simp only [Mutation.apply]
  rw [Action.bind_done rows, Form.empty_under]
  by_cases held : user ∈ page.keys
  · obtain ⟨count, deleted⟩ := Form.delete_on on user
    simp only [held, not_true, decide_false, Bool.not_false, if_true]
    exact Action.bind_done (Action.mapError_done deleted)
  · simp [held, Page.strike_absent held, Form.lay_held on]

theorem updateFeature_done (on : featureForm.On page shelf)
    (held : page.defaults? plugin feature = .ok base) (update : Update) :
    (Mutation.updateFeature plugin feature update).apply Shelf.store shelf =
      (.done (), featureForm.lay
        (page.write (plugin, feature) (.of (update.apply (base.getD {})))) shelf) := by
  have looked := defaults?_on on plugin feature
  rw [held] at looked
  simp only [Mutation.apply]
  rw [Action.bind_done looked]
  exact Form.writeUnder_on on (plugin, feature) (.of (update.apply (base.getD {})))

theorem updateFeature_failed (on : featureForm.On page shelf)
    (held : page.defaults? plugin feature = .error invalid) (update : Update) :
    (Mutation.updateFeature plugin feature update).apply Shelf.store shelf =
      (.failed (.validation invalid), shelf) := by
  have looked := defaults?_on on plugin feature
  rw [held] at looked
  simp only [Mutation.apply]
  exact Action.bind_failed looked

theorem updateGroup_on (on : groupForm.On page shelf) (plugin feature group : String) (state : Permission) :
    (Mutation.updateGroup plugin feature group state).apply Shelf.store shelf =
      (.done (), groupForm.lay (page.write (plugin, feature, group) state.toInteger) shelf) :=
  Form.writeUnder_on on (plugin, feature, group) state.toInteger

theorem updateUser_on (on : userForm.On page shelf) (plugin feature user : String) (state : Permission) :
    (Mutation.updateUser plugin feature user state).apply Shelf.store shelf =
      (.done (), userForm.lay (page.write (plugin, feature, user) state.toInteger) shelf) :=
  Form.writeUnder_on on (plugin, feature, user) state.toInteger

end Writing

structure Book where
  features : Page (String × String) Marks := {}
  groups : Page (String × String × String) Int := {}
  users : Page (String × String × String) Int := {}
  superusers : Page String Unit := {}
deriving DecidableEq, Repr

namespace Book

def write (book : Book) : Mutation → Except Invalid Book
  | .setSuperuser user => .ok { book with superusers := book.superusers.write user () }
  | .removeSuperuser user => .ok { book with superusers := book.superusers.strike user }
  | .updateFeature plugin feature update =>
      (book.features.defaults? plugin feature).map fun base =>
        { book with features := book.features.write (plugin, feature) (.of (update.apply (base.getD {}))) }
  | .updateGroup plugin feature group state =>
      .ok { book with groups := book.groups.write (plugin, feature, group) state.toInteger }
  | .updateUser plugin feature user state =>
      .ok { book with users := book.users.write (plugin, feature, user) state.toInteger }

structure On (book : Book) (shelf : Shelf) : Prop where
  features : featureForm.On book.features shelf
  groups : groupForm.On book.groups shelf
  users : userForm.On book.users shelf
  superusers : superuserForm.On book.superusers shelf

def shelf (book : Book) : Shelf :=
  superuserForm.lay book.superusers (userForm.lay book.users (groupForm.lay book.groups
    (featureForm.lay book.features Shelf.empty)))

variable {book : Book} {shelf : Shelf}

theorem On.lay_features (on : book.On shelf) (page : Page (String × String) Marks) :
    ({ book with features := page } : Book).On (featureForm.lay page shelf) :=
  ⟨Form.lay_on _ _ _, (Form.lay_other (by decide) _ _).trans on.groups,
    (Form.lay_other (by decide) _ _).trans on.users, (Form.lay_other (by decide) _ _).trans on.superusers⟩

theorem On.lay_groups (on : book.On shelf) (page : Page (String × String × String) Int) :
    ({ book with groups := page } : Book).On (groupForm.lay page shelf) :=
  ⟨(Form.lay_other (by decide) _ _).trans on.features, Form.lay_on _ _ _,
    (Form.lay_other (by decide) _ _).trans on.users, (Form.lay_other (by decide) _ _).trans on.superusers⟩

theorem On.lay_users (on : book.On shelf) (page : Page (String × String × String) Int) :
    ({ book with users := page } : Book).On (userForm.lay page shelf) :=
  ⟨(Form.lay_other (by decide) _ _).trans on.features, (Form.lay_other (by decide) _ _).trans on.groups,
    Form.lay_on _ _ _, (Form.lay_other (by decide) _ _).trans on.superusers⟩

theorem On.lay_superusers (on : book.On shelf) (page : Page String Unit) :
    ({ book with superusers := page } : Book).On (superuserForm.lay page shelf) :=
  ⟨(Form.lay_other (by decide) _ _).trans on.features, (Form.lay_other (by decide) _ _).trans on.groups,
    (Form.lay_other (by decide) _ _).trans on.users, Form.lay_on _ _ _⟩

-- A mutation does to the tables what it does to their meaning. When it finds
-- something wrong with what is stored, it leaves the shelf alone.
theorem apply_done (on : book.On shelf) {mutation : Mutation} (written : book.write mutation = .ok after) :
    ∃ shelf', mutation.apply Shelf.store shelf = (.done (), shelf') ∧ after.On shelf' := by
  cases mutation with
  | setSuperuser user =>
      cases Except.ok.inj written
      exact ⟨_, setSuperuser_on on.superusers user, on.lay_superusers _⟩
  | removeSuperuser user =>
      cases Except.ok.inj written
      exact ⟨_, removeSuperuser_on on.superusers user, on.lay_superusers _⟩
  | updateFeature plugin feature update =>
      simp only [write] at written
      cases held : book.features.defaults? plugin feature with
      | error invalid => simp [held, Except.map] at written
      | ok base =>
          rw [held] at written
          cases Except.ok.inj written
          exact ⟨_, updateFeature_done on.features held update, on.lay_features _⟩
  | updateGroup plugin feature group state =>
      cases Except.ok.inj written
      exact ⟨_, updateGroup_on on.groups plugin feature group state, on.lay_groups _⟩
  | updateUser plugin feature user state =>
      cases Except.ok.inj written
      exact ⟨_, updateUser_on on.users plugin feature user state, on.lay_users _⟩

theorem apply_failed (on : book.On shelf) {mutation : Mutation} (refused : book.write mutation = .error invalid) :
    mutation.apply Shelf.store shelf = (.failed (.validation invalid), shelf) := by
  cases mutation with
  | updateFeature plugin feature update =>
      simp only [write] at refused
      cases held : book.features.defaults? plugin feature with
      | error other =>
          rw [held] at refused
          cases Except.error.inj refused
          exact updateFeature_failed on.features held update
      | ok base => simp [held, Except.map] at refused
  | setSuperuser user => cases refused
  | removeSuperuser user => cases refused
  | updateGroup plugin feature group state => cases refused
  | updateUser plugin feature user state => cases refused

theorem shelf_on (book : Book) : book.On book.shelf :=
  ⟨rfl, rfl, rfl, rfl⟩

end Book
end Registry
end FeatureGate
