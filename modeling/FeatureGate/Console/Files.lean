import FeatureGate.Assoc
import FeatureGate.Console.Host

namespace FeatureGate.Console

inductive Node where
  | directory
  | text (content : String)
  | database (content : Sql.Database)
deriving DecidableEq, Repr

structure Files where
  nodes : List (List String × Node) := []
  working : List String := []
  environment : Assoc String := Assoc.empty
deriving DecidableEq, Repr

namespace Files

def at? (files : Files) (place : List String) : Option Node :=
  if place.isEmpty then some .directory else (files.nodes.find? (·.1 = place)).map (·.2)

def put (files : Files) (place : List String) (node : Node) : Files :=
  { files with nodes := files.nodes.filter (·.1 ≠ place) ++ [(place, node)] }

def isTooLong (name : String) : Bool := 255 < name.utf8ByteSize

def namesOf (path : String) : List String :=
  let parts := (path.toList.splitOn '/').map String.ofList
  parts.filter (· != "") ++ if path.endsWith "/" then ["."] else []

def start (files : Files) (path : String) : List String :=
  if path.startsWith "/" then [] else files.working

def walk (files : Files) (place : List String) : List String → Except FileError (List String)
  | [] => .ok place
  | name :: rest => match files.at? place with
      | none => .error .missing
      | some .directory =>
          if name = "." then files.walk place rest
          else if name = ".." then files.walk place.dropLast rest
          else if isTooLong name then .error .nameTooLong
          else files.walk (place ++ [name]) rest
      | some _ => .error .notDirectory

def reach (files : Files) (path : String) : Except FileError Node := do
  if path.isEmpty then .error .missing
  match files.at? (← files.walk (files.start path) (namesOf path)) with
  | some node => .ok node
  | none => .error .missing

def read (files : Files) (path : String) : Except FileError String := do
  match ← files.reach path with
  | .text content => .ok content
  | .directory => .error .isDirectory
  | .database _ => .error .notText

def isDirectory (files : Files) (base : List String) (names : List String) : Bool :=
  match files.walk base names with
  | .ok place => files.at? place = some .directory
  | .error _ => false

def create (files : Files) (base : List String) (names : List String) : Except FileError Files :=
  match names.getLast? with
  | none => .error .present
  | some name => do
      let parent ← files.walk base names.dropLast
      match files.at? parent with
      | none => .error .missing
      | some .directory =>
          if name = ".." then .error .present
          else if isTooLong name then .error .nameTooLong
          else if (files.at? (parent ++ [name])).isSome then .error .present
          else .ok (files.put (parent ++ [name]) .directory)
      | some _ => .error .notDirectory

def createAll (files : Files) (base : List String) : List String → Except FileError Unit × Files
  | [] => (.ok (), files)
  | name :: parents =>
      let names := (name :: parents).reverse
      let attempt (files : Files) : Except FileError Unit × Files :=
        match files.create base names with
        | .ok files => (.ok (), files)
        | .error error =>
            (if files.isDirectory base names then .ok () else .error error, files)
      match files.create base names with
      | .error .missing => match files.createAll base parents with
          | (.ok (), files) => attempt files
          | failed => failed
      | _ => attempt files

-- A database's path is made plain before anything is looked at, so a name that
-- is left again need not be there. Only a name below something that is no
-- directory, or one that is too long, does not do.
def plainPlace (files : Files) (place : List String) : List String → Option (List String)
  | [] => some place
  | name :: rest =>
      if name = "." then files.plainPlace place rest
      else if name = ".." then files.plainPlace place.dropLast rest
      else match files.at? place with
        | none => files.plainPlace (place ++ [name]) rest
        | some .directory =>
            if isTooLong name then none else files.plainPlace (place ++ [name]) rest
        | some _ => none

def databasePlace? (files : Files) (path : String) : Option (List String) :=
  files.plainPlace (files.start path) (namesOf path)

-- A file of a single byte is as good as an empty one.
def openDatabase (files : Files) (path : String) : Option Medium := do
  let place ← files.databasePlace? path
  match files.at? place with
  | some .directory => none
  | some (.text content) => some (if content.utf8ByteSize ≤ 1 then .database {} else .foreign)
  | some (.database content) => some (.database content)
  | none => if files.at? place.dropLast = some .directory then some (.database {}) else none

def keepDatabase (files : Files) (path : String) (content : Sql.Database) : Files :=
  match files.databasePlace? path with
  | some place => files.put place (.database content)
  | none => files

def host : Host (StateM Files) where
  environment? name := return (← get).environment.get? name
  isPresent path := return (← get).reach path |>.toBool
  readText path := return (← get).read path
  createDirectories path := modifyGet fun files =>
    files.createAll (files.start path) ((namesOf path).filter (· != ".")).reverse
  openDatabase path := return (← get).openDatabase path
  keepDatabase path content := modify (·.keepDatabase path content)

end Files
end FeatureGate.Console
