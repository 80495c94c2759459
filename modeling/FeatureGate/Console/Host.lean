import FeatureGate.Sql.Database

namespace FeatureGate.Console

inductive FileError where
  | missing
  | present
  | notDirectory
  | isDirectory
  | nameTooLong
  | notText
  | other (text : String)
deriving DecidableEq, Repr

def FileError.message : FileError → String
  | missing => "No such file or directory (os error 2)"
  | present => "File exists (os error 17)"
  | notDirectory => "Not a directory (os error 20)"
  | isDirectory => "Is a directory (os error 21)"
  | nameTooLong => "File name too long (os error 36)"
  | notText => "stream did not contain valid UTF-8"
  | other text => text

inductive Medium where
  | database (content : Sql.Database)
  | foreign
deriving DecidableEq, Repr

-- What a run needs of its surroundings. A database that cannot be opened is no
-- medium at all, and a new one is not there before it is kept.
structure Host (m : Type → Type) where
  environment? : String → m (Option String)
  isPresent : String → m Bool
  readText : String → m (Except FileError String)
  createDirectories : String → m (Except FileError Unit)
  openDatabase : String → m (Option Medium)
  keepDatabase : String → Sql.Database → m Unit

end FeatureGate.Console
