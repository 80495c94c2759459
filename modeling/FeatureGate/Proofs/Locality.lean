import FeatureGate.Proofs.Atomicity
import FeatureGate.Proofs.Radius

namespace FeatureGate
open Table Registry FeatureGate.Action

namespace Registry

inductive Topic where
  | feature (plugin feature : String)
  | group (plugin feature group : String)
  | user (plugin feature user : String)
  | superuser (user : String)
deriving DecidableEq, Repr

namespace Topic

def table : Topic → String
  | .feature .. => features
  | .group .. => groups
  | .user .. => users
  | .superuser _ => superusers

def key : Topic → Row
  | .feature plugin name => featureKey plugin name
  | .group plugin name own => groupKey plugin name own
  | .user plugin name who => userKey plugin name who
  | .superuser who => superuserKey who

def question : Topic → Request
  | .feature plugin name => .defaults plugin name
  | .group plugin name own => .groupOverride plugin name own
  | .user plugin name who => .userOverride plugin name who
  | .superuser who => .isSuperuser who

def rows (topic : Topic) (shelf : Shelf) : Outcome Error (List Row) :=
  (rowsOf Shelf.store topic.table topic.key shelf).1

def told (topic : Topic) (running : Running Shelf) : Outcome Error Response :=
  (topic.question.handle Shelf.store running).1

end Topic

namespace Mutation

def topic : Mutation → Topic
  | setSuperuser user | removeSuperuser user => .superuser user
  | updateFeature plugin feature _ => .feature plugin feature
  | updateGroup plugin feature group _ => .group plugin feature group
  | updateUser plugin feature user _ => .user plugin feature user

-- What is said about the topic after the mutation, given what was said before. Of a
-- feature nothing is lost that the update leaves unset.
def Shows (before after : Outcome Error Response) : Mutation → Prop
  | setSuperuser _ => after = .done (.truth true)
  | removeSuperuser _ => after = .done (.truth false)
  | updateFeature _ _ update => ∃ base, before = .done (.defaults base) ∧
      after = .done (.defaults (some (update.apply (base.getD {}))))
  | updateGroup _ _ _ state | updateUser _ _ _ state => after = .done (.permission (some state))

-- An update of a feature looks at the first of its rows, even when it is about to
-- replace all that the row says.
def Blocked (shelf : Shelf) : Mutation → Prop
  | updateFeature plugin feature update => update.isEmpty = false ∧
      ∃ row rest, (Topic.feature plugin feature).rows shelf = .done (row :: rest) ∧
        ∃ column ∈ ["admin", "group_perm", "user"], ∃ number,
          Row.integer? row column = some number ∧ ¬IsState number
  | _ => False

def Recounts (mutation : Mutation) (topic : Topic) (before after : List Row) : Prop :=
  after.length = before.length ∨ (before = [] ∧ after.length = 1) ∨
    (after = [] ∧ ∃ user, mutation = .removeSuperuser user ∧ topic = .superuser user)

structure Lands (mutation : Mutation) (before : Running Shelf) (outcome : Outcome Error Unit)
    (after : Running Shelf) : Prop where
  done : outcome = .done () ↔ mutation.invalid = none ∧ ¬mutation.Blocked before.world
  refused : outcome ≠ .done () → (∃ invalid, outcome = .failed (.validation invalid)) ∧ after = before
  idle : mutation.isIdle = true → after = before
  here : outcome = .done () → mutation.isIdle = false →
    mutation.Shows (mutation.topic.told before) (mutation.topic.told after)
  elsewhere : ∀ topic, topic ≠ mutation.topic →
    topic.rows after.world = topic.rows before.world ∧ topic.told after = topic.told before
  counted : ∀ topic, ∃ rows rows', topic.rows before.world = .done rows ∧ topic.rows after.world = .done rows' ∧
    mutation.Recounts topic rows rows'

end Mutation

namespace Page
variable {κ ν : Type} [DecidableEq κ] {page : Page κ ν} {key : κ}

theorem under_write_self (page : Page κ ν) (key : κ) (value : ν) :
    (page.write key value).under key =
      if key ∈ page.keys then (page.under key).map fun line => { line with value }
      else [⟨page.next, key, value⟩] := by
  unfold write
  split
  · have stays : ((fun line : Line κ ν => decide (line.key = key)) ∘
        fun line : Line κ ν => if line.key = key then { line with value } else line) =
          fun line => decide (line.key = key) := by
      funext line
      by_cases same : line.key = key <;> simp [same]
    simp only [under, rewrite, List.filter_map, stays]
    refine List.map_congr_left fun line held => ?_
    rw [if_pos (by simpa using (List.mem_filter.mp held).2)]
  · rename_i fresh
    have none : page.lines.filter (·.key = key) = [] := under_nil.mpr fresh
    simp only [under, add, List.filter_append, none, List.nil_append]
    simp

theorem under_strike_self (page : Page κ ν) (key : κ) : (page.strike key).under key = [] := by
  rw [under_nil, keys_strike]
  simp

theorem first?_same {other : Page κ ν} (same : other.under key = page.under key) :
    other.first? key = page.first? key := by
  rw [first?_under, same, ← first?_under]

theorem under_write_length (page : Page κ ν) (key : κ) (value : ν) :
    ((page.write key value).under key).length = (page.under key).length ∨
      (page.under key = [] ∧ ((page.write key value).under key).length = 1) := by
  rw [under_write_self]
  split
  · exact .inl (List.length_map _)
  · rename_i fresh
    exact .inr ⟨under_nil.mpr fresh, rfl⟩

end Page

theorem ofInteger_known (read : Permission.ofInteger number = .ok state) : IsState number := by
  unfold Permission.ofInteger at read
  split at read
  · exact .inr ‹_›
  · split at read
    · exact .inl ‹_›
    · cases read

theorem Marks.read_failed {marks : Marks} : (∃ invalid, marks.read = .error invalid) ↔ ¬marks.Legal := by
  constructor
  · rintro ⟨invalid, failed⟩ legal
    obtain ⟨defaults, read⟩ := Marks.read_legal legal
    rw [read] at failed
    cases failed
  · intro illegal
    cases read : marks.read with
    | error invalid => exact ⟨invalid, rfl⟩
    | ok defaults =>
        refine (illegal ?_).elim
        unfold Marks.read at read
        cases admin : Permission.ofInteger marks.admin with
        | error invalid => rw [admin] at read; cases read
        | ok first => cases group : Permission.ofInteger marks.group with
            | error invalid => rw [admin, group] at read; cases read
            | ok second => cases user : Permission.ofInteger marks.user with
                | error invalid => rw [admin, group, user] at read; cases read
                | ok third => exact ⟨ofInteger_known admin, ofInteger_known group, ofInteger_known user⟩

namespace Book
variable {book after : Book} {shelf : Shelf}

def rows (book : Book) : Topic → List Row
  | .feature plugin name => (book.features.under (plugin, name)).map featureForm.row
  | .group plugin name own => (book.groups.under (plugin, name, own)).map groupForm.row
  | .user plugin name who => (book.users.under (plugin, name, who)).map userForm.row
  | .superuser who => (book.superusers.under who).map superuserForm.row

def told (book : Book) : Topic → Except Invalid Response
  | .feature plugin name => (book.features.defaults? plugin name).map .defaults
  | .group plugin name own => (book.groups.permission? (plugin, name, own)).map .permission
  | .user plugin name who => (book.users.permission? (plugin, name, who)).map .permission
  | .superuser who => .ok (.truth (decide (who ∈ book.superusers.keys)))

theorem rows_on (on : book.On shelf) (topic : Topic) : topic.rows shelf = .done (book.rows topic) := by
  cases topic with
  | feature plugin name => exact congrArg Prod.fst (Form.rowsOf_on on.features (plugin, name))
  | group plugin name own => exact congrArg Prod.fst (Form.rowsOf_on on.groups (plugin, name, own))
  | user plugin name who => exact congrArg Prod.fst (Form.rowsOf_on on.users (plugin, name, who))
  | superuser who => exact congrArg Prod.fst (Form.rowsOf_on on.superusers who)

theorem answer_told {read : Store Shelf → Action Shelf Error α} (f : α → Response) (result : Except Invalid α)
    (reads : read Shelf.store shelf = (.ofExcept (result.mapError .validation), shelf)) :
    ((Service.reading read >>= fun answer => Pure.pure (f answer)) ⟨.holding Shelf.store (some false), shelf⟩).1 =
      .ofExcept ((result.map f).mapError .validation) := by
  rw [answer_apply, Service.reading_some rfl, reads]
  cases result <;> rfl

theorem told_on (on : book.On shelf) (topic : Topic) :
    topic.told ⟨.holding Shelf.store (some false), shelf⟩ = .ofExcept ((book.told topic).mapError .validation) := by
  cases topic with
  | feature plugin name => exact answer_told Response.defaults _ (defaults?_on on.features plugin name)
  | group plugin name own => exact answer_told Response.permission _ (groupOverride?_on on.groups plugin name own)
  | user plugin name who => exact answer_told Response.permission _ (userOverride?_on on.users plugin name who)
  | superuser who =>
      exact answer_told Response.truth (.ok (decide (who ∈ book.superusers.keys))) (isSuperuser_on on.superusers who)

def SameAt (before after : Book) : Topic → Prop
  | .feature plugin name => after.features.under (plugin, name) = before.features.under (plugin, name)
  | .group plugin name own => after.groups.under (plugin, name, own) = before.groups.under (plugin, name, own)
  | .user plugin name who => after.users.under (plugin, name, who) = before.users.under (plugin, name, who)
  | .superuser who => after.superusers.under who = before.superusers.under who

theorem SameAt.rows {topic : Topic} (same : book.SameAt after topic) : after.rows topic = book.rows topic := by
  cases topic with
  | feature plugin name => exact congrArg (List.map _) same
  | group plugin name own => exact congrArg (List.map _) same
  | user plugin name who => exact congrArg (List.map _) same
  | superuser who => exact congrArg (List.map _) same

theorem SameAt.told {topic : Topic} (same : book.SameAt after topic) : after.told topic = book.told topic := by
  cases topic with
  | feature plugin name =>
      simp only [Book.told, Page.defaults?, Page.first?_same same]
  | group plugin name own =>
      simp only [Book.told, Page.permission?, Page.first?_same same]
  | user plugin name who =>
      simp only [Book.told, Page.permission?, Page.first?_same same]
  | superuser who =>
      have listed : who ∈ after.superusers.keys ↔ who ∈ book.superusers.keys := by
        rw [← not_iff_not, ← Page.under_nil, ← Page.under_nil, same]
      simp only [Book.told, listed]

theorem write_sameAt {mutation : Mutation} (written : book.write mutation = .ok after) {topic : Topic}
    (apart : topic ≠ mutation.topic) : book.SameAt after topic := by
  cases mutation with
  | setSuperuser user =>
      cases written
      cases topic with
      | superuser who => exact Page.under_write (fun same => apart (congrArg Topic.superuser same)) _
      | _ => rfl
  | removeSuperuser user =>
      cases written
      cases topic with
      | superuser who => exact Page.under_strike fun same => apart (congrArg Topic.superuser same)
      | _ => rfl
  | updateFeature plugin feature update =>
      obtain ⟨base, held, rfl⟩ := write_updateFeature written
      cases topic with
      | feature plugin' name => exact Page.under_write (fun same => apart (by cases same; rfl)) _
      | _ => rfl
  | updateGroup plugin feature group state =>
      cases written
      cases topic with
      | group plugin' name own => exact Page.under_write (fun same => apart (by cases same; rfl)) _
      | _ => rfl
  | updateUser plugin feature user state =>
      cases written
      cases topic with
      | user plugin' name who => exact Page.under_write (fun same => apart (by cases same; rfl)) _
      | _ => rfl

theorem write_recounts {mutation : Mutation} (written : book.write mutation = .ok after) (topic : Topic) :
    mutation.Recounts topic (book.rows topic) (after.rows topic) := by
  by_cases apart : topic ≠ mutation.topic
  · exact .inl (congrArg List.length (write_sameAt written apart).rows)
  · obtain rfl := not_not.mp apart
    have counts {κ ν : Type} [DecidableEq κ] (form : Form κ ν) (page : Page κ ν) (key : κ) (value : ν) :
        mutation.Recounts mutation.topic ((page.under key).map form.row) (((page.write key value).under key).map form.row) := by
      rcases page.under_write_length key value with same | ⟨none, one⟩
      · exact .inl (by simpa using same)
      · exact .inr (.inl ⟨by simp [none], by simpa using one⟩)
    cases mutation with
    | setSuperuser user =>
        cases written
        exact counts superuserForm book.superusers user ()
    | removeSuperuser user =>
        cases written
        exact .inr (.inr ⟨congrArg (List.map _) (Page.under_strike_self _ _), user, rfl, rfl⟩)
    | updateFeature plugin feature update =>
        obtain ⟨base, held, rfl⟩ := write_updateFeature written
        exact counts featureForm book.features (plugin, feature) _
    | updateGroup plugin feature group state =>
        cases written
        exact counts groupForm book.groups (plugin, feature, group) _
    | updateUser plugin feature user state =>
        cases written
        exact counts userForm book.users (plugin, feature, user) _

theorem write_shows {mutation : Mutation} (written : book.write mutation = .ok after) :
    mutation.Shows (.ofExcept ((book.told mutation.topic).mapError .validation))
      (.ofExcept ((after.told mutation.topic).mapError .validation)) := by
  cases mutation with
  | setSuperuser user =>
      cases written
      have listed : user ∈ (book.superusers.write user ()).keys := by
        rw [Page.keys_write]
        split <;> simp_all
      simp only [Mutation.Shows, told, Mutation.topic, listed, decide_true]
      rfl
  | removeSuperuser user =>
      cases written
      have gone : user ∉ (book.superusers.strike user).keys := by simp [Page.keys_strike]
      simp only [Mutation.Shows, told, Mutation.topic, gone, decide_false]
      rfl
  | updateFeature plugin feature update =>
      obtain ⟨base, held, rfl⟩ := write_updateFeature written
      have shown : (book.features.write (plugin, feature) (.of (update.apply (base.getD {})))).defaults? plugin feature =
          .ok (some (update.apply (base.getD {}))) := by
        simp [Page.defaults?, Page.first?_write, Marks.read_of, Except.map]
      simp only [Mutation.Shows, told, Mutation.topic, held, shown]
      exact ⟨base, rfl, rfl⟩
  | updateGroup plugin feature group state =>
      cases written
      have shown : (book.groups.write (plugin, feature, group) state.toInteger).permission? (plugin, feature, group) =
          .ok (some state) := by
        simp [Page.permission?, Page.first?_write, ofInteger_toInteger, Except.map]
      simp only [Mutation.Shows, told, Mutation.topic, shown]
      rfl
  | updateUser plugin feature user state =>
      cases written
      have shown : (book.users.write (plugin, feature, user) state.toInteger).permission? (plugin, feature, user) =
          .ok (some state) := by
        simp [Page.permission?, Page.first?_write, ofInteger_toInteger, Except.map]
      simp only [Mutation.Shows, told, Mutation.topic, shown]
      rfl

theorem defaults?_failed (page : Page (String × String) Marks) (plugin feature : String) :
    (∃ invalid, page.defaults? plugin feature = .error invalid) ↔
      ∃ line rest, page.under (plugin, feature) = line :: rest ∧ ¬line.value.Legal := by
  unfold Page.defaults?
  rw [Page.first?_under]
  cases page.under (plugin, feature) with
  | nil => simp
  | cons line rest =>
      have failed : (∃ invalid, line.value.read.map some = .error invalid) ↔ ∃ invalid, line.value.read = .error invalid := by
        cases line.value.read <;> simp [Except.map]
      simpa using failed.trans Marks.read_failed

theorem blocked_exact (on : book.On shelf) {mutation : Mutation} (busy : mutation.isIdle = false) :
    mutation.Blocked shelf ↔ ∃ invalid, book.write mutation = .error invalid := by
  cases mutation with
  | updateFeature plugin feature update =>
      have refused : (∃ invalid, book.write (.updateFeature plugin feature update) = .error invalid) ↔
          ∃ invalid, book.features.defaults? plugin feature = .error invalid := by
        simp only [write]
        cases book.features.defaults? plugin feature <;> simp [Except.map]
      rw [refused, defaults?_failed]
      simp only [Mutation.Blocked, rows_on on, rows, Outcome.done.injEq]
      constructor
      · rintro ⟨_, row, rest, is, column, member, number, shown, illegal⟩
        obtain ⟨line, lines, under, rfl, rfl⟩ := List.map_eq_cons_iff.mp is
        refine ⟨line, lines, under, fun legal => illegal ?_⟩
        simp only [List.mem_cons, List.not_mem_nil, or_false] at member
        rcases member with rfl | rfl | rfl
        · cases shown; exact legal.admin
        · cases shown; exact legal.group
        · cases shown; exact legal.user
      · rintro ⟨line, lines, under, illegal⟩
        refine ⟨busy, featureForm.row line, lines.map featureForm.row, by rw [under]; rfl, ?_⟩
        by_cases admin : IsState line.value.admin
        · by_cases group : IsState line.value.group
          · have user : ¬IsState line.value.user := fun user => illegal ⟨admin, group, user⟩
            exact ⟨"user", by simp, _, rfl, user⟩
          · exact ⟨"group_perm", by simp, _, rfl, group⟩
        · exact ⟨"admin", by simp, _, rfl, admin⟩
  | setSuperuser user => simp [Mutation.Blocked, write]
  | removeSuperuser user => simp [Mutation.Blocked, write]
  | updateGroup plugin feature group state => simp [Mutation.Blocked, write]
  | updateUser plugin feature user state => simp [Mutation.Blocked, write]

end Book

theorem Mutation.blocked_busy {mutation : Mutation} (blocked : mutation.Blocked shelf) : mutation.isIdle = false := by
  cases mutation with
  | updateFeature plugin feature update => exact blocked.1
  | _ => rfl

theorem Mutation.Lands.still {mutation : Mutation} {running : Running Shelf} {book : Book} (on : book.On running.world)
    (done : outcome = .done () ↔ mutation.invalid = none ∧ ¬mutation.Blocked running.world)
    (refused : outcome ≠ .done () → ∃ invalid, outcome = .failed (.validation invalid))
    (nothing : outcome = .done () → mutation.isIdle = true) : mutation.Lands running outcome running := by
  refine ⟨done, fun failed => ⟨refused failed, rfl⟩, fun _ => rfl, ?_, fun _ _ => ⟨rfl, rfl⟩, ?_⟩
  · intro ended busy
    rw [nothing ended] at busy
    cases busy
  · exact fun topic => ⟨_, _, Book.rows_on on topic, Book.rows_on on topic, .inl rfl⟩

end Registry

-- Whatever conforming rows stand in the tables, some of them more than once or with
-- numbers that are no permissions: a change is seen where it was made, and nowhere
-- else, and rows are neither multiplied nor lost by it.
theorem changes_local (conforms : Conforms shelf) (mutation : Mutation) :
    let before : Running Shelf := ⟨.holding Shelf.store (some false), shelf⟩
    mutation.Lands before (Service.mutate mutation before).1 (Service.mutate mutation before).2 := by
  intro before
  obtain ⟨book, on⟩ := conforms_exact.mp conforms
  cases right : mutation.invalid with
  | some invalid =>
      rw [show Service.mutate mutation before = _ from Service.mutate_refused rfl right]
      exact .still on (by simp [right]) (fun _ => ⟨invalid, rfl⟩) nofun
  | none =>
      rw [show Service.mutate mutation before = _ from Service.mutate_begun rfl right]
      by_cases idle : mutation.isIdle = true
      · rw [if_pos idle]
        have free : ¬mutation.Blocked shelf := fun blocked => by
          rw [Mutation.blocked_busy blocked] at idle
          cases idle
        exact .still on ⟨fun _ => ⟨right, free⟩, fun _ => rfl⟩ (fun failed => (failed rfl).elim) fun _ => idle
      · have busy : mutation.isIdle = false := by simpa using idle
        have blocked := Book.blocked_exact on busy
        have holds : before.service.ledger = some { store := Shelf.store } := rfl
        rw [if_neg idle, Service.locked_open holds rfl]
        cases written : book.write mutation with
        | error invalid =>
            rw [show mutation.apply Shelf.store shelf = _ from Book.apply_failed on written]
            exact .still on (by simp [blocked.mpr ⟨invalid, written⟩, before]) (fun _ => ⟨invalid, rfl⟩) nofun
        | ok after =>
            obtain ⟨shelf', applied, onAfter⟩ := Book.apply_done on written
            rw [show mutation.apply Shelf.store shelf = _ from applied]
            have free : ¬mutation.Blocked shelf := by
              rw [blocked, written]
              simp
            refine ⟨⟨fun _ => ⟨right, free⟩, fun _ => rfl⟩, fun failed => (failed rfl).elim, fun is => (idle is).elim, ?_, ?_, ?_⟩
            · intro _ _
              rw [show mutation.topic.told before = _ from Book.told_on on _, Book.told_on onAfter]
              exact Book.write_shows written
            · intro topic apart
              have same := Book.write_sameAt written apart
              rw [Book.rows_on onAfter, show topic.rows before.world = _ from Book.rows_on on topic,
                show topic.told before = _ from Book.told_on on topic, Book.told_on onAfter, same.rows, same.told]
              exact ⟨rfl, rfl⟩
            · exact fun topic => ⟨_, _, Book.rows_on on topic, Book.rows_on onAfter topic, Book.write_recounts written topic⟩

def tampered : Book where
  features := ⟨[⟨1, ("p", "f"), ⟨1, 5, 1⟩⟩, ⟨2, ("p", "g"), ⟨0, 1, 1⟩⟩, ⟨3, ("p", "f"), ⟨1, 1, 1⟩⟩], 4⟩
  groups := ⟨[⟨4, ("p", "f", "g"), 7⟩, ⟨2, ("p", "f", "g"), -1⟩], 5⟩
  superusers := ⟨[⟨1, "u", ()⟩, ⟨2, "v", ()⟩, ⟨3, "u", ()⟩], 4⟩

theorem tampered_local :
    let before : Running Shelf := ⟨.holding Shelf.store (some false), tampered.shelf⟩
    let after := fun mutation => (Service.mutate mutation before).2
    Conforms tampered.shelf ∧
      after (.updateFeature "p" "f" ⟨some .deny, some .deny, some .deny⟩) = before ∧
      (Topic.feature "p" "g").told (after (.updateFeature "p" "g" { user := some .deny })) =
        .done (.defaults (some ⟨.deny, .allow, .deny⟩)) ∧
      (Topic.group "p" "f" "g").told before = .failed (.validation (.permissionNumber 7)) ∧
      (Topic.group "p" "f" "g").told (after (.updateGroup "p" "f" "g" .deny)) = .done (.permission (some .deny)) ∧
      (Topic.feature "p" "f").told (after (.updateGroup "p" "f" "g" .deny)) =
        .failed (.validation (.permissionNumber 5)) ∧
      (Topic.superuser "u").told (after (.removeSuperuser "u")) = .done (.truth false) ∧
      (Topic.superuser "v").told (after (.removeSuperuser "u")) = .done (.truth true) := by
  intro before after
  have conforms := conforms_exact.mpr ⟨tampered, tampered.shelf_on⟩
  have lands := changes_local conforms
  refine ⟨conforms, ?_, ?_, rfl, ?_, ?_, ?_, ?_⟩
  · exact ((lands (.updateFeature "p" "f" ⟨some .deny, some .deny, some .deny⟩)).refused nofun).2
  · obtain ⟨base, known, shown⟩ := (lands (.updateFeature "p" "g" { user := some .deny })).here rfl rfl
    cases known
    exact shown
  · exact (lands (.updateGroup "p" "f" "g" .deny)).here rfl rfl
  · exact ((lands (.updateGroup "p" "f" "g" .deny)).elsewhere (.feature "p" "f") nofun).2.trans rfl
  · exact (lands (.removeSuperuser "u")).here rfl rfl
  · exact ((lands (.removeSuperuser "u")).elsewhere (.superuser "v") (by decide)).2.trans rfl

end FeatureGate
