import FeatureGate.Proofs.Enrolment

namespace FeatureGate.Console
open CommandLine Registry Sql

-- What a failed directive leaves of the features. Only a chat command writes there
-- before it fails. Defaults that were set can always be shown, at least where the
-- tables have their shapes.
def Leaves (before after : Database) : Directive → Prop
  | .chat .. => Connection.Ordered { database := before } →
      Posted (before.rowsUnder features) (after.rowsUnder features)
  | .setDefaults .. => Connection.Ordered { database := before } →
      after.rowsUnder features = before.rowsUnder features
  | _ => after.rowsUnder features = before.rowsUnder features

structure Unharmed (seed : Option String) (directive : Directive) (before after : Database) : Prop where
  joint : after.rowsUnder groups = before.rowsUnder groups
  own : after.rowsUnder users = before.rowsUnder users
  standing : Seeded seed (before.under standing) (after.under standing)
  defaults : Leaves before after directive

theorem Unharmed.refl (seed : Option String) (directive : Directive) (database : Database) :
    Unharmed seed directive database database :=
  ⟨rfl, rfl, .inl rfl, by cases directive <;> first | rfl | exact fun _ => rfl | exact fun _ => .untouched rfl⟩

section Database
variable {superuser : Option String} {directive : Directive} {content : Database}
  (failed : (Report.ofOutcome (onDatabase superuser directive content).1).code ≠ 0)
include failed

theorem onDatabase_leaves {start left : Running Connection → Prop}
    (leads : Action.Leads start (session Connection.store superuser directive) (fun _ _ => True) left)
    (held : start ⟨{}, { database := content }⟩) :
    ∃ running, left running ∧ running.world.database = (onDatabase superuser directive content).2 := by
  rcases onDatabase_ways leads held with ⟨text, running, is, _⟩ | ⟨problem, running, is, kept⟩
  · rw [is] at failed
    exact (failed rfl).elim
  · exact ⟨running, kept, by rw [is]⟩

theorem onDatabase_rows (name : String) (apart : sameName name superusers = false)
    (calm : directive.defines = false ∨ sameName name features = false) :
    (onDatabase superuser directive content).2.rowsUnder name = content.rowsUnder name := by
  have spares := session_spares (Connection.rows_steady name) (· = content.rowsUnder name) (fun _ => apply_rows apart)
    superuser directive (calm.imp_right fun away _ _ _ => apply_rows away)
  obtain ⟨running, kept, is⟩ := onDatabase_leaves failed spares ⟨rfl, rfl⟩
  rw [← is]
  exact kept

theorem onDatabase_features : Leaves content (onDatabase superuser directive content).2 directive := by
  have rows (idle : directive.defines = false) := onDatabase_rows failed features (by decide +kernel) (.inl idle)
  cases directive with
  | chat actor kind words =>
      intro ordered
      obtain ⟨running, posted, is⟩ := onDatabase_leaves failed (chat_guards superuser actor kind words) ⟨rfl, ordered, rfl⟩
      rw [← is]
      exact posted
  | setDefaults plugin feature update =>
      intro ordered
      obtain ⟨running, kept, is⟩ :=
        onDatabase_leaves failed (setDefaults_stands superuser plugin feature update) ⟨rfl, ordered, rfl⟩
      rw [← is]
      exact kept.same
  | _ => exact rows rfl

theorem onDatabase_unharmed : Unharmed superuser directive content (onDatabase superuser directive content).2 := by
  refine ⟨onDatabase_rows failed groups ?_ (.inr ?_), onDatabase_rows failed users ?_ (.inr ?_), ?_,
    onDatabase_features failed⟩
  case refine_5 =>
    obtain ⟨running, seeded, is⟩ :=
      onDatabase_leaves failed (session_standing superuser directive (content.under standing)) ⟨rfl, rfl⟩
    rw [← is]
    exact seeded
  all_goals decide +kernel

omit failed in
theorem onDatabase_ordered (ordered : Connection.Ordered { database := content }) :
    Connection.Ordered { database := (onDatabase superuser directive content).2 } := by
  have reopened {now : Connection} (ordered : now.Ordered) : Connection.Ordered { database := now.database } :=
    ⟨⟨ordered.shaped.apart, ordered.shaped.shapes, nofun⟩, ordered.ascending⟩
  rcases onDatabase_ways (session_ordered superuser directive) ⟨rfl, ordered⟩ with
    ⟨text, running, is, kept⟩ | ⟨problem, running, is, kept⟩
  · rw [is]
    exact reopened kept
  · rw [is]
    exact reopened kept

end Database

namespace Files

variable {files : Files}

theorem ofOutcome_understood (outcome : Outcome Problem String) : (Report.ofOutcome outcome).code ≠ 2 := by
  cases outcome <;> exact nofun

theorem run_understood (parsed : Invocation.parse arguments = .ok invocation) : (files.run arguments).1.code ≠ 2 := by
  rcases run_ways parsed files with ⟨problem, after, ran, _⟩ | ⟨after, _, ran, _⟩ | ⟨place, after, _, ran, _⟩
  · rw [ran]
    exact nofun
  · rw [ran]
    exact ofOutcome_understood _
  · rw [ran]
    exact ofOutcome_understood _

theorem run_misunderstood (parsed : Invocation.parse arguments = .error ending) : (files.run arguments).1.code ≠ 1 := by
  unfold run Host.run StateT.run
  rw [parsed]
  cases ending <;> exact nofun

theorem run_unsettled (parsed : Invocation.parse arguments = .ok invocation)
    (unread : files.settings? invocation = none) : ∃ problem, files.run arguments = (.failed problem, files) := by
  obtain ⟨result, loaded⟩ : ∃ result, host.settings invocation.settings files = (result, files) :=
    ⟨_, Prod.ext rfl (settings_still invocation.settings files)⟩
  unfold settings? at unread
  rw [loaded] at unread
  rw [run_parsed parsed, loaded]
  cases result with
  | error problem => exact ⟨problem, rfl⟩
  | ok settings => cases unread

-- Whatever stands in the files, whatever the settings say and whatever is asked: a run
-- that is not understood, or has no settings, leaves all files as they are. One that
-- fails later leaves the permissions of every database unharmed.
theorem failed_run_unharmed (files : Files) (arguments : List String) :
    ((files.run arguments).1.code = 2 → (files.run arguments).2 = files) ∧
      (∀ invocation, Invocation.parse arguments = .ok invocation → files.settings? invocation = none →
        ∃ problem, files.run arguments = (.failed problem, files)) ∧
      ((files.run arguments).1.code = 1 → ∃ invocation, Invocation.parse arguments = .ok invocation ∧
        ∀ place, Unharmed (files.seed? invocation) invocation.directive (files.contentAt place)
          ((files.run arguments).2.contentAt place)) := by
  cases parsed : Invocation.parse arguments with
  | error ending =>
      exact ⟨fun _ => run_unparsed parsed files, nofun, fun failed => (run_misunderstood parsed failed).elim⟩
  | ok invocation =>
      refine ⟨fun misused => (run_understood parsed misused).elim, fun _ is unread => ?_,
        fun failed => ⟨invocation, rfl, ?_⟩⟩
      · cases is
        exact run_unsettled parsed unread
      · rcases run_ways parsed files with
          ⟨problem, after, ran, same⟩ | ⟨after, _, ran, same⟩ | ⟨place, after, stands, ran, contents⟩
        · rw [ran]
          exact fun place => same ▸ .refl _ _ _
        · rw [ran]
          exact fun place => same ▸ .refl _ _ _
        · rw [ran] at failed ⊢
          intro other
          rw [contents]
          split
          · rename_i here
            rw [here]
            exact onDatabase_unharmed (by rw [failed]; decide)
          · exact .refl _ _ _

theorem run_ordered (ordered : ∀ place, Connection.Ordered { database := files.contentAt place })
    (arguments : List String) (place : List String) :
    Connection.Ordered { database := (files.run arguments).2.contentAt place } := by
  cases parsed : Invocation.parse arguments with
  | error ending =>
      rw [run_unparsed parsed]
      exact ordered place
  | ok invocation =>
      rcases run_ways parsed files with
        ⟨problem, after, ran, same⟩ | ⟨after, _, ran, same⟩ | ⟨place', after, _, ran, contents⟩
      · rw [ran]
        exact same ▸ ordered place
      · rw [ran]
        exact same ▸ ordered place
      · rw [ran]
        show Connection.Ordered { database := after.contentAt place }
        rw [contents]
        split
        · exact onDatabase_ordered (ordered place')
        · exact ordered place

def misspelt : List String := ["-d", "perm.db", "perm", "--user", "u", "group", "x"]

theorem misspelt_unharmed :
    let opened := (({} : Files).run unbar).2
    (opened.run misspelt).1.code = 1 ∧
      ((opened.run misspelt).2.contentAt ["perm.db"]).rowsUnder users = (opened.contentAt ["perm.db"]).rowsUnder users ∧
      Posted ((opened.contentAt ["perm.db"]).rowsUnder features)
        (((opened.run misspelt).2.contentAt ["perm.db"]).rowsUnder features) := by
  have vacant (place : List String) : Connection.Ordered { database := ({} : Files).contentAt place } := by
    have nothing : contentAt {} place = {} := by cases place <;> rfl
    rw [nothing]
    exact ⟨⟨.nil, nofun, nofun⟩, .nil⟩
  have ordered := run_ordered vacant unbar ["perm.db"]
  have failed : ((({} : Files).run unbar).2.run misspelt).1.code = 1 := by decide +kernel
  have parsed : Invocation.parse misspelt = .ok ⟨none, some "perm.db", .chat (.alone "u") "group" ["x"]⟩ := by
    decide +kernel
  obtain ⟨invocation, same, unharmed⟩ := (failed_run_unharmed (({} : Files).run unbar).2 misspelt).2.2 failed
  cases parsed.symm.trans same
  have left := unharmed ["perm.db"]
  exact ⟨failed, left.own, left.defaults ordered⟩

def strange : Files := { nodes := [(["perm.db"], .database ⟨[{ name := features, columns :=
  [("id", .key), ("plugin", .text), ("feature", .text), ("admin", .text), ("group_perm", .integer),
    ("user", .integer)] }]⟩)] }

theorem failed_run_registers :
    (({} : Files).run misspelt).1.code = 1 ∧
      ((({} : Files).run misspelt).2.contentAt ["perm.db"]).rowsUnder features ≠
        (({} : Files).contentAt ["perm.db"]).rowsUnder features ∧
      (strange.run ["-d", "perm.db", "feature", "set", "p", "f", "--admin", "deny"]).1.code = 1 ∧
      ((strange.run ["-d", "perm.db", "feature", "set", "p", "f", "--admin", "deny"]).2.contentAt ["perm.db"]).rowsUnder
        features ≠ (strange.contentAt ["perm.db"]).rowsUnder features := by
  decide +kernel

end Files
end FeatureGate.Console
