import FeatureGate.Console.Host
import FeatureGate.Console.Session
import FeatureGate.Settings
import FeatureGate.Sql.Connection

namespace FeatureGate.Console
open CommandLine

def settingsFile : String := "gatekeeper.toml"
def directoryName : String := "gatekeeper"
def databaseFile : String := "permission.db"

def version : String := lines ["gatekeeper 0.1.0"]

def usage : String := lines
  ["Manage plugin feature permissions", "",
   "Usage: gatekeeper [OPTIONS] <COMMAND>", "",
   "Commands:",
   "  superuser  Manage superusers",
   "  feature    Manage feature defaults",
   "  group      Set a group override",
   "  user       Set a user override",
   "  check      Resolve a permission check",
   "  perm       Run a chat management command (group/user) as an actor",
   "  help       Print this message or the help of the given subcommand(s)", "",
   "Options:",
   "  -c, --config <CONFIG>      Config file (defaults to ./gatekeeper.toml when present)",
   "  -d, --database <DATABASE>  SQLite database, overriding the config",
   "  -h, --help                 Print help",
   "  -V, --version              Print version"]

inductive Problem where
  | unreadable (error : FileError)
  | settings (error : SettingsError)
  | noDatabase
  | noDirectory (error : FileError)
  | database (failure : Sql.Failure)
  | permission (error : Error)
deriving DecidableEq, Repr

def Problem.message : Problem → String
  | unreadable error => "failed to read config: " ++ error.message
  | settings error => error.message
  | noDatabase => "no database path: pass --database or set database.path in the config"
  | noDirectory error => error.message
  | database failure => ((Table.Fault.database failure).message?).getD "database error"
  | permission error => error.message?.getD "database error"

inductive Report where
  | printed (text : String)
  | failed (problem : Problem)
  | misused
  | died
deriving DecidableEq, Repr

namespace Report

def code : Report → Nat
  | printed _ => 0
  | failed _ => 1
  | misused => 2
  | died => 101

def output : Report → String
  | printed text => text
  | _ => ""

def complaint : Report → String
  | failed problem => "Error: " ++ problem.message
  | misused => "error: the command line was not understood; try '--help'"
  | _ => ""

def ofOutcome : Outcome Problem String → Report
  | .done text => printed text
  | .failed problem => failed problem
  | .aborted => died

end Report

def joined (parent name : String) : String :=
  if parent = "" || parent.endsWith "/" then parent ++ name else parent ++ "/" ++ name

def isTemporary (path : String) : Bool := path = "" || path = ":memory:"

-- One directive on a database, through a connection and a service of its own.
-- What was changed before a failure stays changed.
def onDatabase (superuser : Option String) (directive : Directive) (database : Sql.Database) :
    Outcome Problem String × Sql.Database :=
  let result := session Sql.Connection.store superuser directive ⟨{}, { database }⟩
  (result.1.mapError .permission, result.2.world.database)

variable {m : Type → Type} [Monad m]

namespace Host

def load (host : Host m) (path : String) : m (Except Problem Settings) := do
  match ← host.readText path with
  | .error error => return .error (.unreadable error)
  | .ok text => return (Settings.parse text).mapError .settings

def settings (host : Host m) : Option String → m (Except Problem Settings)
  | some path => host.load path
  | none => do if ← host.isPresent settingsFile then host.load settingsFile else return .ok {}

def dataDirectory? (host : Host m) : m (Option String) := do
  match ← host.environment? "XDG_DATA_HOME" with
  | some parent => return some (joined parent directoryName)
  | none => return (← host.environment? "HOME").map fun home =>
      joined (joined home ".local/share") directoryName

def databasePath (host : Host m) : Option String → m (Except Problem String)
  | some path => return .ok path
  | none => do
      match ← host.dataDirectory? with
      | none => return .error .noDatabase
      | some directory => match ← host.createDirectories directory with
          | .error error => return .error (.noDirectory error)
          | .ok () => return .ok (joined directory databaseFile)

def perform (host : Host m) (path : String) (superuser : Option String) (directive : Directive) :
    m Report := do
  match path.toList.findIdx? (· = '\x00') with
  | some position =>
      return .failed (.database (.zeroByte (String.ofList (path.toList.take position)).utf8ByteSize))
  | none =>
      if isTemporary path then return .ofOutcome (onDatabase superuser directive {}).1
      match ← host.openDatabase path with
      | none => return .failed (.database (.cannotOpen path))
      | some .foreign => return .failed (.permission (.setup (.database .notADatabase)))
      | some (.database database) => do
          let result := onDatabase superuser directive database
          host.keepDatabase path result.2
          return .ofOutcome result.1

def run (host : Host m) (arguments : List String) : m Report := do
  match Invocation.parse arguments with
  | .error .refused => return .misused
  | .error .version => return .printed version
  | .error .help => return .printed usage
  | .ok invocation => match ← host.settings invocation.settings with
      | .error problem => return .failed problem
      | .ok settings => match ← host.databasePath (invocation.database <|> settings.database) with
          | .error problem => return .failed problem
          | .ok path => host.perform path settings.superuser invocation.directive

end Host
end FeatureGate.Console
