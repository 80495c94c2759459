import FeatureGate.Proofs.Book
import Mathlib.Data.List.Induction
import Mathlib.Data.List.Nodup

namespace FeatureGate
namespace Registry
open Table

namespace Mutation

def standing? (user : String) : Mutation → Option Bool
  | setSuperuser who => if who = user then some true else none
  | removeSuperuser who => if who = user then some false else none
  | _ => none

def groupState? (key : String × String × String) : Mutation → Option Permission
  | updateGroup plugin feature group state => if (plugin, feature, group) = key then some state else none
  | _ => none

def userState? (key : String × String × String) : Mutation → Option Permission
  | updateUser plugin feature user state => if (plugin, feature, user) = key then some state else none
  | _ => none

def registers? : Mutation → Option (String × String)
  | updateFeature plugin feature update => if update.isEmpty then none else some (plugin, feature)
  | _ => none

def update? (key : String × String) : Mutation → Option Update
  | updateFeature plugin feature update =>
      if (plugin, feature) = key ∧ update.isEmpty = false then some update else none
  | _ => none

end Mutation

-- What was done to the tables, the oldest first. What follows is read off such a
-- list alone, and knows of no rows.
abbrev History := List Mutation

namespace History

def last? (part : Mutation → Option α) (past : History) : Option α := (past.filterMap part).getLast?

def standing (past : History) (user : String) : Bool := past.last? (·.standing? user) = some true

def joins (before : History) (mutation : Mutation) (after : History) : List String :=
  match mutation with
  | .setSuperuser user =>
      if before.standing user = true ∨ .removeSuperuser user ∈ after then [] else [user]
  | _ => []

def rosterFrom (before : History) : History → List String
  | [] => []
  | mutation :: after => joins before mutation after ++ rosterFrom (before ++ [mutation]) after

def roster (past : History) : List String := rosterFrom [] past

def updates (past : History) (key : String × String) : List Update := past.filterMap (·.update? key)

-- Each field on its own: as the last update with that field had it, or open.
def merged (updates : List Update) : Option Defaults :=
  if updates = [] then none
  else some
    { admin := (updates.filterMap (·.admin)).getLast?.getD .allow
      group := (updates.filterMap (·.group)).getLast?.getD .allow
      user := (updates.filterMap (·.user)).getLast?.getD .allow }

def defaults? (past : History) (key : String × String) : Option Defaults := merged (past.updates key)

def registered (past : History) : List (String × String) := (past.filterMap (·.registers?)).eraseDups

def entries (past : History) : List Entry :=
  past.registered.map fun key => ⟨key.1, key.2, (past.defaults? key).getD {}⟩

theorem last?_snoc (part : Mutation → Option α) (past : History) (mutation : Mutation) :
    last? part (past ++ [mutation]) = (part mutation).or (last? part past) := by
  simp only [last?, List.filterMap_append]
  cases said : part mutation with
  | none => simp [said]
  | some word => simp [said]

theorem last?_aside {part : Mutation → Option α} {last : Mutation} (aside : part last = none) (past : History) :
    last? part (past ++ [last]) = last? part past := by
  rw [last?_snoc, aside, Option.none_or]

theorem standing_snoc (past : History) (mutation : Mutation) (user : String) :
    standing (past ++ [mutation]) user = (mutation.standing? user).getD (past.standing user) := by
  unfold standing
  rw [last?_snoc]
  cases mutation.standing? user with
  | none => rfl
  | some word => cases word <;> rfl

theorem joins_snoc (before : History) (mutation : Mutation) (after : History) (last : Mutation) :
    joins before mutation (after ++ [last]) =
      (joins before mutation after).filter fun user => last ≠ .removeSuperuser user := by
  cases mutation with
  | setSuperuser user =>
      simp only [joins, List.mem_append, List.mem_singleton]
      by_cases idle : before.standing user = true ∨ .removeSuperuser user ∈ after
      · have still : before.standing user = true ∨ .removeSuperuser user ∈ after ∨
            .removeSuperuser user = last := idle.imp_right .inl
        rw [if_pos still, if_pos idle]
        rfl
      · by_cases leaves : last = .removeSuperuser user
        · rw [if_pos (.inr (.inr leaves.symm)), if_neg idle]
          simp [leaves]
        · have stays : ¬(before.standing user = true ∨ .removeSuperuser user ∈ after ∨
              .removeSuperuser user = last) := by
            intro some
            rcases some with held | gone | same
            · exact idle (.inl held)
            · exact idle (.inr gone)
            · exact leaves same.symm
          rw [if_neg stays, if_neg idle]
          simp [leaves]
  | removeSuperuser user => rfl
  | updateFeature plugin feature update => rfl
  | updateGroup plugin feature group state => rfl
  | updateUser plugin feature user state => rfl

theorem rosterFrom_snoc (before past : History) (last : Mutation) :
    rosterFrom before (past ++ [last]) =
      (rosterFrom before past).filter (fun user => last ≠ .removeSuperuser user) ++
        joins (before ++ past) last [] := by
  -- What came before grows along the list, so it stays open.
  induction past generalizing before with
  | nil => simp [rosterFrom]
  | cons mutation rest ih =>
      simp only [List.cons_append, rosterFrom, ih, joins_snoc, List.filter_append, List.append_assoc,
        List.nil_append]

theorem roster_snoc (past : History) (last : Mutation) :
    roster (past ++ [last]) = match last with
      | .setSuperuser user => if past.standing user = true then past.roster else past.roster ++ [user]
      | .removeSuperuser user => past.roster.filter (· ≠ user)
      | _ => past.roster := by
  have grown := rosterFrom_snoc [] past last
  have all : ∀ names : List String, names.filter (fun _ => true) = names :=
    fun names => List.filter_eq_self.mpr fun _ _ => rfl
  unfold roster
  rw [grown]
  cases last with
  | setSuperuser user => by_cases held : past.standing user = true <;> simp [joins, held, all]
  | removeSuperuser user => simp [joins, eq_comm]
  | updateFeature plugin feature update => simp [joins, all]
  | updateGroup plugin feature group state => simp [joins, all]
  | updateUser plugin feature user state => simp [joins, all]

theorem roster_aside {last : Mutation} (aside : ∀ user, last.standing? user = none) (past : History) :
    roster (past ++ [last]) = past.roster := by
  rw [roster_snoc]
  cases last with
  | setSuperuser user => simpa [Mutation.standing?] using aside user
  | removeSuperuser user => simpa [Mutation.standing?] using aside user
  | updateFeature plugin feature update => rfl
  | updateGroup plugin feature group state => rfl
  | updateUser plugin feature user state => rfl

theorem mem_roster {past : History} : user ∈ past.roster ↔ past.standing user = true := by
  induction past using List.reverseRecOn with
  | nil => simp [roster, rosterFrom, standing, last?]
  | append_singleton past last ih =>
      rw [roster_snoc, standing_snoc]
      cases last with
      | setSuperuser who =>
          by_cases same : who = user
          · subst same
            by_cases held : standing past who = true <;> simp [Mutation.standing?, ih, held]
          · have other : ¬user = who := fun back => same back.symm
            by_cases held : standing past who = true <;> simp [Mutation.standing?, ih, held, same, other]
      | removeSuperuser who =>
          by_cases same : who = user
          · simp [Mutation.standing?, same]
          · have other : ¬user = who := fun back => same back.symm
            simp [Mutation.standing?, ih, same, other]
      | updateFeature plugin feature update => exact ih
      | updateGroup plugin feature group state => exact ih
      | updateUser plugin feature user state => exact ih

theorem roster_nodup (past : History) : past.roster.Nodup := by
  induction past using List.reverseRecOn with
  | nil => exact List.nodup_nil
  | append_singleton past last ih =>
      rw [roster_snoc]
      cases last with
      | setSuperuser who =>
          by_cases held : standing past who = true
          · simpa [held] using ih
          · have fresh : who ∉ roster past := fun there => held (mem_roster.mp there)
            simpa [held] using ih.concat fresh
      | removeSuperuser who => exact ih.filter _
      | updateFeature plugin feature update => exact ih
      | updateGroup plugin feature group state => exact ih
      | updateUser plugin feature user state => exact ih

example : roster [.setSuperuser "a", .setSuperuser "b", .removeSuperuser "a", .setSuperuser "b",
    .setSuperuser "a"] = ["b", "a"] := by decide

section EraseDups
variable [BEq α] [LawfulBEq α] {names : List α}

theorem eraseDups_held (held : name ∈ names) : (names ++ [name]).eraseDups = names.eraseDups := by
  simp [List.eraseDups_append, List.removeAll, held]

theorem eraseDups_fresh (fresh : name ∉ names) : (names ++ [name]).eraseDups = names.eraseDups ++ [name] := by
  simp [List.eraseDups_append, List.removeAll, fresh, List.eraseDups_cons]

end EraseDups

theorem registered_snoc (past : History) (last : Mutation) :
    registered (past ++ [last]) = match last.registers? with
      | none => past.registered
      | some key => if key ∈ past.registered then past.registered else past.registered ++ [key] := by
  simp only [registered, List.filterMap_append, List.mem_eraseDups]
  cases named : last.registers? with
  | none => simp [named]
  | some key =>
      have single : [last].filterMap (·.registers?) = [key] := by simp [named]
      rw [single]
      by_cases held : key ∈ past.filterMap (·.registers?)
      · simp only [if_pos held, eraseDups_held held]
      · simp only [if_neg held, eraseDups_fresh held]

theorem registered_aside {last : Mutation} (aside : last.registers? = none) (past : History) :
    registered (past ++ [last]) = past.registered := by
  rw [registered_snoc, aside]

theorem registered_nodup (past : History) : past.registered.Nodup := by
  induction past using List.reverseRecOn with
  | nil => exact List.nodup_nil
  | append_singleton past last ih =>
      rw [registered_snoc]
      cases last.registers? with
      | none => exact ih
      | some key =>
          by_cases held : key ∈ registered past
          · simpa [held] using ih
          · simpa [held] using ih.concat held

theorem registers_update {mutation : Mutation} :
    mutation.registers? = some key ↔ ∃ update, mutation.update? key = some update := by
  cases mutation with
  | updateFeature plugin feature update =>
      by_cases idle : update.isEmpty = true
      · simp [Mutation.registers?, Mutation.update?, idle]
      · by_cases same : (plugin, feature) = key <;> simp [Mutation.registers?, Mutation.update?, idle, same]
  | setSuperuser user => simp [Mutation.registers?, Mutation.update?]
  | removeSuperuser user => simp [Mutation.registers?, Mutation.update?]
  | updateGroup plugin feature group state => simp [Mutation.registers?, Mutation.update?]
  | updateUser plugin feature user state => simp [Mutation.registers?, Mutation.update?]

theorem mem_registered {past : History} : key ∈ past.registered ↔ past.updates key ≠ [] := by
  simp only [registered, updates, List.mem_eraseDups, List.mem_filterMap, registers_update, ne_eq,
    List.filterMap_eq_nil_iff, not_forall, Option.ne_none_iff_exists', exists_prop]

theorem updates_snoc (past : History) (last : Mutation) (key : String × String) :
    updates (past ++ [last]) key = past.updates key ++ (last.update? key).toList := by
  simp only [updates, List.filterMap_append]
  cases named : last.update? key <;> simp [named]

theorem merged_snoc (updates : List Update) (update : Update) :
    merged (updates ++ [update]) = some (update.apply ((merged updates).getD {})) := by
  have field : ∀ part : Update → Option Permission,
      ((updates ++ [update]).filterMap part).getLast?.getD .allow =
        (part update).getD ((updates.filterMap part).getLast?.getD .allow) := by
    intro part
    rw [List.filterMap_append]
    cases said : part update <;> simp [said]
  unfold merged
  rw [if_neg (by simp), field, field, field]
  by_cases none : updates = []
  · subst none
    rfl
  · rw [if_neg none]
    rfl

theorem defaults?_snoc (past : History) (last : Mutation) (key : String × String) :
    defaults? (past ++ [last]) key = match last.update? key with
      | none => past.defaults? key
      | some update => some (update.apply ((past.defaults? key).getD {})) := by
  unfold defaults?
  rw [updates_snoc]
  cases last.update? key with
  | none => rw [Option.toList_none, List.append_nil]
  | some update => exact merged_snoc _ _

theorem defaults?_aside {last : Mutation} (aside : last.update? key = none) (past : History) :
    defaults? (past ++ [last]) key = past.defaults? key := by
  rw [defaults?_snoc, aside]

end History

structure Book.Tells (book : Book) (past : History) : Prop where
  superusers : book.superusers.keys = past.roster
  features : book.features.keys = past.registered
  defaults : ∀ key, book.features.first? key = (past.defaults? key).map Marks.of
  groups : ∀ key, book.groups.first? key = (past.last? (·.groupState? key)).map Permission.toInteger
  users : ∀ key, book.users.first? key = (past.last? (·.userState? key)).map Permission.toInteger

namespace Book.Tells
open History
variable {book : Book} {past : History}

theorem empty : ({} : Book).Tells [] := ⟨rfl, rfl, fun _ => rfl, fun _ => rfl, fun _ => rfl⟩

section Aside
variable {mutation : Mutation}

theorem superusers_aside (tells : book.Tells past) (aside : ∀ user, mutation.standing? user = none) :
    book.superusers.keys = roster (past ++ [mutation]) := by
  rw [roster_aside aside]
  exact tells.superusers

theorem features_aside (tells : book.Tells past) (aside : mutation.registers? = none) :
    book.features.keys = registered (past ++ [mutation]) := by
  rw [registered_aside aside]
  exact tells.features

theorem defaults_aside (tells : book.Tells past) (aside : ∀ key, mutation.update? key = none)
    (key : String × String) :
    book.features.first? key = (History.defaults? (past ++ [mutation]) key).map Marks.of := by
  rw [defaults?_aside (aside key)]
  exact tells.defaults key

theorem groups_aside (tells : book.Tells past) (aside : ∀ key, mutation.groupState? key = none)
    (key : String × String × String) :
    book.groups.first? key = (last? (·.groupState? key) (past ++ [mutation])).map Permission.toInteger := by
  rw [last?_aside (aside key)]
  exact tells.groups key

theorem users_aside (tells : book.Tells past) (aside : ∀ key, mutation.userState? key = none)
    (key : String × String × String) :
    book.users.first? key = (last? (·.userState? key) (past ++ [mutation])).map Permission.toInteger := by
  rw [last?_aside (aside key)]
  exact tells.users key

end Aside

theorem idle (tells : book.Tells past) {mutation : Mutation} (nothing : mutation.isIdle = true) :
    book.Tells (past ++ [mutation]) := by
  cases mutation with
  | updateFeature plugin feature update =>
      have unset : update.isEmpty = true := nothing
      refine ⟨tells.superusers_aside fun _ => rfl, tells.features_aside ?_, tells.defaults_aside fun key => ?_,
        tells.groups_aside fun _ => rfl, tells.users_aside fun _ => rfl⟩
      · simp [Mutation.registers?, unset]
      · simp [Mutation.update?, unset]
  | setSuperuser user => cases nothing
  | removeSuperuser user => cases nothing
  | updateGroup plugin feature group state => cases nothing
  | updateUser plugin feature user state => cases nothing

theorem defaults?_read (tells : book.Tells past) (plugin feature : String) :
    book.features.defaults? plugin feature = .ok (past.defaults? (plugin, feature)) := by
  unfold Page.defaults?
  rw [tells.defaults]
  cases past.defaults? (plugin, feature) with
  | none => rfl
  | some defaults => exact congrArg (Except.map some) (Marks.read_of defaults)

theorem write (tells : book.Tells past) {mutation : Mutation} (busy : mutation.isIdle = false) :
    ∃ after, book.write mutation = .ok after ∧ after.Tells (past ++ [mutation]) := by
  -- Each case has one part of the tables to account for; the others are told as before.
  cases mutation with
  | setSuperuser user =>
      refine ⟨_, rfl, ?_, tells.features_aside rfl, tells.defaults_aside fun _ => rfl,
        tells.groups_aside fun _ => rfl, tells.users_aside fun _ => rfl⟩
      rw [Page.keys_write, tells.superusers, roster_snoc]
      simp only [mem_roster]
  | removeSuperuser user =>
      refine ⟨_, rfl, ?_, tells.features_aside rfl, tells.defaults_aside fun _ => rfl,
        tells.groups_aside fun _ => rfl, tells.users_aside fun _ => rfl⟩
      rw [Page.keys_strike, tells.superusers, roster_snoc]
  | updateFeature plugin feature update =>
      have unset : update.isEmpty = false := busy
      have written : book.write (.updateFeature plugin feature update) = .ok { book with
          features := book.features.write (plugin, feature)
            (.of (update.apply ((past.defaults? (plugin, feature)).getD {}))) } := by
        rw [Book.write, tells.defaults?_read]
        rfl
      refine ⟨_, written, tells.superusers_aside fun _ => rfl, ?_, ?_, tells.groups_aside fun _ => rfl,
        tells.users_aside fun _ => rfl⟩
      · rw [Page.keys_write, tells.features, registered_snoc]
        simp [Mutation.registers?, unset]
      · intro key
        rw [Page.first?_write, tells.defaults, defaults?_snoc]
        by_cases same : key = (plugin, feature)
        · simp [Mutation.update?, unset, same]
        · simp [Mutation.update?, same, Ne.symm same]
  | updateGroup plugin feature group state =>
      refine ⟨_, rfl, tells.superusers_aside fun _ => rfl, tells.features_aside rfl,
        tells.defaults_aside fun _ => rfl, ?_, tells.users_aside fun _ => rfl⟩
      intro key
      rw [Page.first?_write, tells.groups, last?_snoc]
      by_cases same : key = (plugin, feature, group)
      · simp [Mutation.groupState?, same]
      · simp [Mutation.groupState?, same, Ne.symm same]
  | updateUser plugin feature user state =>
      refine ⟨_, rfl, tells.superusers_aside fun _ => rfl, tells.features_aside rfl,
        tells.defaults_aside fun _ => rfl, tells.groups_aside fun _ => rfl, ?_⟩
      intro key
      rw [Page.first?_write, tells.users, last?_snoc]
      by_cases same : key = (plugin, feature, user)
      · simp [Mutation.userState?, same]
      · simp [Mutation.userState?, same, Ne.symm same]

theorem entries_read (tells : book.Tells past) : book.features.entries = .ok past.entries := by
  have distinct : book.features.keys.Nodup := by
    rw [tells.features]
    exact registered_nodup past
  have reads : ∀ line ∈ book.features.lines, line.value.read = .ok ((past.defaults? line.key).getD {}) := by
    intro line there
    have told := (Page.first?_held distinct there).symm.trans (tells.defaults line.key)
    obtain ⟨defaults, known, same⟩ := Option.map_eq_some_iff.mp told.symm
    rw [← same, known, Marks.read_of]
    rfl
  rw [Page.entries_ok reads, entries, ← tells.features, Page.keys, List.map_map]
  rfl

end Book.Tells

theorem permission?_told [DecidableEq κ] {page : Page κ Int} {held : Option Permission}
    (told : page.first? key = held.map Permission.toInteger) : page.permission? key = .ok held := by
  unfold Page.permission?
  rw [told]
  cases held with
  | none => rfl
  | some state => exact congrArg (Except.map some) (ofInteger_toInteger state)

end Registry
end FeatureGate
