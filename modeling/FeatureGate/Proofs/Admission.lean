import FeatureGate.Console.Files
import FeatureGate.Proofs.GuardedSessions

namespace FeatureGate.Console
open CommandLine Sql Registry

namespace Files
variable {files after : Files}

def contentAt (files : Files) (place : List String) : Database :=
  match files.at? place with
  | some (.database content) => content
  | _ => {}

theorem at?_put (files : Files) (place : List String) (node : Node) (other : List String) :
    (files.put place node).at? other =
      if other.isEmpty then some .directory else if other = place then some node else files.at? other := by
  unfold at? put
  split
  · rfl
  by_cases same : other = place
  · subst same
    have gone : (files.nodes.filter (·.1 ≠ other)).find? (·.1 = other) = none := by simp
    rw [List.find?_append, gone]
    simp
  · have kept : (files.nodes.filter (·.1 ≠ place)).find? (·.1 = other) = files.nodes.find? (·.1 = other) := by
      rw [List.find?_filter]
      congr 1
      funext held
      by_cases here : held.1 = other <;> simp [here, same]
    rw [List.find?_append, kept]
    simp [same, Ne.symm same]

theorem contentAt_put {place : List String} (below : place ≠ []) (files : Files) (content : Database)
    (other : List String) : (files.put place (.database content)).contentAt other =
      if other = place then content else files.contentAt other := by
  unfold contentAt
  rw [at?_put]
  by_cases root : other = []
  · simp [root, at?, Ne.symm below]
  · by_cases same : other = place <;> simp [root, same, below]

theorem contentAt_directory {place : List String} (vacant : files.at? place = none) :
    (files.put place .directory).contentAt = files.contentAt := by
  funext other
  unfold contentAt
  rw [at?_put]
  by_cases root : other = []
  · simp [root, at?]
  · by_cases same : other = place
    · simp [same, vacant]
    · simp [root, same]

theorem create_contents (created : files.create base names = .ok after) : after.contentAt = files.contentAt := by
  unfold create at created
  split at created
  · cases created
  · rename_i name _
    cases walked : files.walk base names.dropLast with
    | error error =>
        rw [walked] at created
        cases created
    | ok parent =>
        rw [walked] at created
        simp only [bind, Except.bind] at created
        split at created
        · cases created
        · repeat' split at created
          all_goals cases created
          rename_i vacant
          exact contentAt_directory (Option.not_isSome_iff_eq_none.mp vacant)
        · cases created

theorem createAll_contents (files : Files) (base names : List String) :
    (files.createAll base names).2.contentAt = files.contentAt := by
  induction names with
  | nil => rfl
  | cons name parents ih =>
      unfold createAll
      dsimp only
      split
      · split
        · rename_i made
          rw [made] at ih
          split
          · rename_i created
            exact (create_contents created).trans ih
          · exact ih
        · exact ih
      · split
        · rename_i created
          exact create_contents created
        · rfl

theorem bind_run (first : StateM Files α) (next : α → StateM Files β) (files : Files) :
    (first >>= next) files = next (first files).1 (first files).2 := rfl

theorem load_still (path : String) (files : Files) : (host.load path files).2 = files := by
  unfold Host.load
  rw [bind_run]
  cases (host.readText path files).1 <;> rfl

theorem settings_still (asked : Option String) (files : Files) : (host.settings asked files).2 = files := by
  cases asked with
  | some path => exact load_still path files
  | none =>
      unfold Host.settings
      dsimp only
      rw [bind_run]
      cases (host.isPresent settingsFile files).1 with
      | true => exact load_still settingsFile files
      | false => rfl

theorem dataDirectory_still (files : Files) : (host.dataDirectory? files).2 = files := by
  unfold Host.dataDirectory?
  rw [bind_run]
  cases (host.environment? "XDG_DATA_HOME" files).1 <;> rfl

theorem databasePath_contents (asked : Option String) (files : Files) :
    (host.databasePath asked files).2.contentAt = files.contentAt := by
  cases asked with
  | some path => rfl
  | none =>
      unfold Host.databasePath
      dsimp only
      rw [bind_run, dataDirectory_still]
      cases (host.dataDirectory? files).1 with
      | none => rfl
      | some directory =>
          have made : (host.createDirectories directory files).2.contentAt = files.contentAt :=
            createAll_contents files _ _
          dsimp only
          rw [bind_run]
          cases (host.createDirectories directory files).1 <;> exact made

def run (files : Files) (arguments : List String) : Report × Files := (host.run arguments).run files

theorem run_parsed (parsed : Invocation.parse arguments = .ok invocation) (files : Files) :
    files.run arguments = match host.settings invocation.settings files with
      | (.error problem, files) => (.failed problem, files)
      | (.ok settings, files) => match host.databasePath (invocation.database <|> settings.database) files with
          | (.error problem, files) => (.failed problem, files)
          | (.ok path, files) => host.perform path settings.superuser invocation.directive files := by
  unfold run Host.run StateT.run
  rw [parsed]
  dsimp only
  rw [bind_run]
  rcases host.settings invocation.settings files with ⟨problem | settings, middle⟩
  · rfl
  · dsimp only
    rw [bind_run]
    rcases host.databasePath (invocation.database <|> settings.database) middle with ⟨problem | path, reached⟩
    · rfl
    · rfl

theorem run_unparsed (parsed : Invocation.parse arguments = .error ending) (files : Files) :
    (files.run arguments).2 = files := by
  unfold run Host.run StateT.run
  rw [parsed]
  cases ending <;> rfl

theorem openDatabase_parts (opened : files.openDatabase path = some (.database content)) :
    ∃ place, files.databasePlace? path = some place ∧ place ≠ [] ∧ files.contentAt place = content := by
  unfold openDatabase at opened
  cases found : files.databasePlace? path with
  | none =>
      rw [found] at opened
      cases opened
  | some place =>
      rw [found] at opened
      refine ⟨place, rfl, ?_, ?_⟩
      · rintro rfl
        simp [at?] at opened
      · unfold contentAt
        simp only [bind, Option.bind] at opened
        split at opened
        · cases opened
        · split at opened <;> cases opened
          simp_all
        · cases opened
          simp_all
        · split at opened <;> cases opened
          simp_all

theorem perform_ways (path : String) (superuser : Option String) (directive : Directive) (files : Files) :
    (∃ problem, host.perform path superuser directive files = (.failed problem, files)) ∨
      (isTemporary path = true ∧
        host.perform path superuser directive files = (.ofOutcome (onDatabase superuser directive {}).1, files)) ∨
      ∃ place, isTemporary path = false ∧ files.databasePlace? path = some place ∧ place ≠ [] ∧
        host.perform path superuser directive files =
          (.ofOutcome (onDatabase superuser directive (files.contentAt place)).1,
            files.put place (.database (onDatabase superuser directive (files.contentAt place)).2)) := by
  unfold Host.perform
  cases path.toList.findIdx? (· = '\x00') with
  | some position => exact .inl ⟨_, rfl⟩
  | none =>
      by_cases temporary : isTemporary path = true
      · simp only [if_pos temporary]
        exact .inr (.inl ⟨temporary, rfl⟩)
      simp only [if_neg temporary, bind_run]
      have looked : host.openDatabase path files = (files.openDatabase path, files) := rfl
      rw [looked]
      cases opened : files.openDatabase path with
      | none => exact .inl ⟨_, rfl⟩
      | some medium => cases medium with
          | foreign => exact .inl ⟨_, rfl⟩
          | database content =>
              obtain ⟨place, found, below, rfl⟩ := openDatabase_parts opened
              refine .inr (.inr ⟨place, by simpa using temporary, found, below, ?_⟩)
              show (_, files.keepDatabase path _) = _
              unfold keepDatabase
              rw [found]

def settings? (files : Files) (invocation : Invocation) : Option Settings :=
  (host.settings invocation.settings files).1.toOption

def seed? (files : Files) (invocation : Invocation) : Option String :=
  (files.settings? invocation).bind (·.superuser)

def place? (files : Files) (invocation : Invocation) : Option (List String) :=
  (files.settings? invocation).bind fun settings =>
    match host.databasePath (invocation.database <|> settings.database) files with
    | (.ok path, files) => if isTemporary path then none else files.databasePlace? path
    | (.error _, _) => none

-- A run fails before it touches a database, or it carries out its directive on one
-- that is forgotten, or on the one at its place. All others stay as they are.
theorem run_ways (parsed : Invocation.parse arguments = .ok invocation) (files : Files) :
    (∃ problem after, files.run arguments = (.failed problem, after) ∧ after.contentAt = files.contentAt) ∨
      (∃ after, files.place? invocation = none ∧
        files.run arguments = (.ofOutcome (onDatabase (files.seed? invocation) invocation.directive {}).1, after) ∧
        after.contentAt = files.contentAt) ∨
      ∃ place after, files.place? invocation = some place ∧
        files.run arguments =
          (.ofOutcome (onDatabase (files.seed? invocation) invocation.directive (files.contentAt place)).1, after) ∧
        ∀ other, after.contentAt other = if other = place
          then (onDatabase (files.seed? invocation) invocation.directive (files.contentAt place)).2
          else files.contentAt other := by
  obtain ⟨result, loaded⟩ : ∃ result, host.settings invocation.settings files = (result, files) :=
    ⟨_, Prod.ext rfl (settings_still invocation.settings files)⟩
  rw [run_parsed parsed]
  unfold place? seed? settings?
  rw [loaded]
  cases result with
  | error problem => exact .inl ⟨problem, _, rfl, rfl⟩
  | ok settings =>
      have contents := databasePath_contents (invocation.database <|> settings.database) files
      simp only [Except.toOption, Option.bind_some]
      cases led : host.databasePath (invocation.database <|> settings.database) files with
      | mk answer reached =>
          rw [led] at contents
          cases answer with
          | error problem => exact .inl ⟨problem, reached, rfl, contents⟩
          | ok path =>
              dsimp only at contents ⊢
              rcases perform_ways path settings.superuser invocation.directive reached with
                ⟨problem, failed⟩ | ⟨temporary, forgotten⟩ | ⟨place, lasting, found, below, kept⟩
              · exact .inl ⟨problem, reached, failed, contents⟩
              · exact .inr (.inl ⟨reached, if_pos temporary, forgotten, contents⟩)
              · rw [contents] at kept
                refine .inr (.inr ⟨place, _, ?_, kept, fun other => ?_⟩)
                · rw [lasting]
                  exact found
                · rw [contentAt_put below, contents]

def Shaped (files : Files) : Prop := ∀ place, Connection.Shaped Declared { database := files.contentAt place }

end Files

section Database
variable {content : Database} (shaped : Connection.Shaped Declared { database := content })
include shaped

theorem onDatabase_shaped (superuser : Option String) (directive : Directive) :
    Connection.Shaped Declared { database := (onDatabase superuser directive content).2 } := by
  obtain ⟨_, after⟩ := session_shaped superuser directive shaped
  exact ⟨after.apart, after.shapes, nofun⟩

theorem onDatabase_admits (superuser : Option String) (actor : Actor) (words : List String) :
    let (outcome, after) := onDatabase superuser (.chat actor "user" words) content
    ((Report.ofOutcome outcome).code = 0 → superuser = some actor.user ∨ content.Lists actor.user) ∧
      ((Report.ofOutcome outcome).code ≠ 0 → (Report.ofOutcome outcome).code = 1 ∧ Spared superuser content after) := by
  have course : Course none content { database := content } := ⟨shaped, .refl none content⟩
  have ends := session_leads superuser actor words ⟨{}, { database := content }⟩ ⟨rfl, course⟩
  unfold onDatabase
  cases ended : session Connection.store superuser (.chat actor "user" words) ⟨{}, { database := content }⟩ with
  | mk outcome running =>
      rw [ended] at ends
      cases outcome with
      | done text => exact ⟨fun _ => ends, fun other => (other rfl).elim⟩
      | failed error => exact ⟨nofun, fun _ => ⟨rfl, ends⟩⟩
      | aborted => exact ends.elim

end Database

namespace Files
variable {files : Files}

theorem run_shaped (shaped : files.Shaped) (arguments : List String) : (files.run arguments).2.Shaped := by
  cases parsed : Invocation.parse arguments with
  | error ending =>
      rw [run_unparsed parsed]
      exact shaped
  | ok invocation =>
      rcases run_ways parsed files with
        ⟨problem, after, ran, same⟩ | ⟨after, _, ran, same⟩ | ⟨place, after, _, ran, contents⟩
      · rw [ran]
        exact fun other => same ▸ shaped other
      · rw [ran]
        exact fun other => same ▸ shaped other
      · rw [ran]
        intro other
        rw [contents]
        split
        · exact onDatabase_shaped (shaped place) _ _
        · exact shaped other

-- What runs may come upon: trees of databases in shape, and what runs leave of them.
-- Between the runs everything else may change, the settings and the surroundings
-- included, and databases may be moved, copied and removed.
inductive Reached : Files → Prop where
  | start {files : Files} (shaped : files.Shaped) : Reached files
  | run {files : Files} (reached : Reached files) (arguments : List String) : Reached (files.run arguments).2
  | edit {files edited : Files} (reached : Reached files)
      (kept : ∀ place, ∃ origin, edited.contentAt place = files.contentAt origin) : Reached edited

theorem Reached.shaped (reached : Reached files) : files.Shaped := by
  induction reached with
  | start shaped => exact shaped
  | run _ arguments ih => exact run_shaped ih arguments
  | edit _ kept ih =>
      intro place
      obtain ⟨origin, same⟩ := kept place
      rw [same]
      exact ih origin

def Trusts (files : Files) (invocation : Invocation) (user : String) : Prop :=
  files.seed? invocation = some user ∨
    ∃ place, files.place? invocation = some place ∧ (files.contentAt place).Lists user

-- Whatever earlier runs made of the guard of the user commands, and whatever the tables
-- hold: on the command line they go well for superusers only. A run for anybody else
-- fails, and no override is lost or new in any database.
theorem run_admits (reached : files.Reached) (parsed : Invocation.parse arguments = .ok invocation)
    (asks : invocation.directive = .chat actor "user" words) :
    ((files.run arguments).1.code = 0 → files.Trusts invocation actor.user) ∧
      ((files.run arguments).1.code ≠ 0 → (files.run arguments).1.code = 1 ∧ ∀ place,
        Spared (files.seed? invocation) (files.contentAt place) ((files.run arguments).2.contentAt place)) := by
  have shaped := reached.shaped
  have unharmed {after : Files} (same : after.contentAt = files.contentAt) (place : List String) :
      Spared (files.seed? invocation) (files.contentAt place) (after.contentAt place) := by
    rw [same]
    exact .refl _ _
  rcases run_ways parsed files with
    ⟨problem, after, ran, same⟩ | ⟨after, _, ran, same⟩ | ⟨place, after, stands, ran, contents⟩
  · rw [ran]
    exact ⟨nofun, fun _ => ⟨rfl, unharmed same⟩⟩
  · -- A database that is forgotten lists nobody at the start.
    have empty : Connection.Shaped Declared {} := shaped []
    obtain ⟨admits, refuses⟩ := onDatabase_admits empty (files.seed? invocation) actor words
    rw [ran, asks]
    refine ⟨fun good => ?_, fun bad => ⟨(refuses bad).1, unharmed same⟩⟩
    rcases admits good with seeded | ⟨row, member, _⟩
    · exact .inl seeded
    · cases member
  · obtain ⟨admits, refuses⟩ := onDatabase_admits (shaped place) (files.seed? invocation) actor words
    rw [asks] at ran contents
    rw [ran]
    refine ⟨fun good => ?_, fun bad => ⟨(refuses bad).1, fun other => ?_⟩⟩
    · exact (admits good).imp_right fun listed => ⟨place, stands, listed⟩
    · rw [contents]
      split
      · rename_i here
        rw [here]
        exact (refuses bad).2
      · exact .refl _ _

def worn : Database :=
  ⟨[{ name := features, columns := featureForm.layout.columns, highest := 3, rows :=
      [⟨1, [.integer 1, .text "permission_plugin", .text "user", .integer 0, .integer 0, .integer 0]⟩,
        ⟨3, [.integer 3, .text "permission_plugin", .text "user", .integer 1, .integer 7, .integer (-2)]⟩] },
    { name := users, columns := userForm.layout.columns, highest := 1, rows :=
      [⟨1, [.integer 1, .text "permission_plugin", .text "user", .text "mallory", .integer 1]⟩] },
    { name := superusers, columns := superuserForm.layout.columns, highest := 1, rows :=
      [⟨1, [.integer 1, .text "root"]⟩] }]⟩

def ajar : Files := { nodes := [(["perm.db"], .database worn)] }

def unbar : List String :=
  ["feature", "set", "permission_plugin", "user", "--group", "allow", "--user", "allow", "-d", "perm.db"]

def intrusion : List String := ["perm", "-u", "mallory", "-g", "g", "-r", "owner", "-d", "perm.db", "user", "p.f", "on"]

theorem worn_shaped : Connection.Shaped Declared { database := worn } := by
  refine ⟨?_, ?_, nofun⟩
  · show worn.tables.Pairwise fun a b => sameName a.name b.name = false
    decide +kernel
  · intro name layout known data found
    simp only [Declared, tables, List.mem_cons, List.not_mem_nil, or_false, Prod.mk.injEq] at known
    rcases known with ⟨rfl, rfl⟩ | ⟨rfl, rfl⟩ | ⟨rfl, rfl⟩ | ⟨rfl, rfl⟩ <;> cases found <;> exact ⟨rfl, by decide⟩

theorem ajar_reached : ajar.Reached := by
  refine .start fun place => ?_
  have stands : ajar.contentAt place = if place = ["perm.db"] then worn else contentAt {} place :=
    contentAt_put (List.cons_ne_nil _ _) {} worn place
  rw [stands]
  split
  · exact worn_shaped
  · have nothing : contentAt {} place = {} := by cases place <;> rfl
    rw [nothing]
    exact ⟨.nil, nofun, nofun⟩

theorem opened_refused :
    let opened := (ajar.run unbar).2
    (ajar.run unbar).1.code = 0 ∧ (opened.run intrusion).1.code = 1 ∧
      Spared none (opened.contentAt ["perm.db"]) ((opened.run intrusion).2.contentAt ["perm.db"]) := by
  have parsed : Invocation.parse intrusion =
      .ok ⟨none, some "perm.db", .chat (.group "mallory" "g" .owner) "user" ["p.f", "on"]⟩ := by decide +kernel
  have admits := run_admits (.run ajar_reached unbar) parsed rfl
  have opened : (ajar.run unbar).1.code = 0 := by decide +kernel
  have refused : ((ajar.run unbar).2.run intrusion).1.code = 1 := by decide +kernel
  have seedless : (ajar.run unbar).2.seed?
      ⟨none, some "perm.db", .chat (.group "mallory" "g" .owner) "user" ["p.f", "on"]⟩ = none := by decide +kernel
  have failed : ((ajar.run unbar).2.run intrusion).1.code ≠ 0 := by
    rw [refused]
    decide
  have spared := (admits.2 failed).2 ["perm.db"]
  rw [seedless] at spared
  exact ⟨opened, refused, spared⟩

example : ((ajar.run unbar).2.run ["perm", "-u", "root", "-d", "perm.db", "user", "p.f", "on", "mallory"]).1.code = 0 := by
  decide +kernel

end Files
end FeatureGate.Console
