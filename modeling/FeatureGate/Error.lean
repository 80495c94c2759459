import FeatureGate.Table.Fault

namespace FeatureGate

inductive Subject where
  | userId
  | pluginName
  | featureName
  | groupId
deriving DecidableEq, Repr

def Subject.text : Subject → String
  | userId => "user id"
  | pluginName => "plugin name"
  | featureName => "feature name"
  | groupId => "group id"

-- A value that cannot mean what it was given for. The last two are about rows
-- that were written by someone else.
inductive Invalid where
  | empty (subject : Subject)
  | permissionNumber (number : Int)
  | permissionWord (word : String)
  | role (word : String)
  | noText (column : String)
  | noInteger (column : String)
deriving DecidableEq, Repr

def Invalid.message : Invalid → String
  | empty subject => subject.text ++ " must be a non-empty string"
  | permissionNumber number => "permission must be 1 (allow) or 0 (deny), got " ++ toString number
  | permissionWord word => "not a permission value: " ++ Text.quoted word
  | role word => "unknown role: " ++ Text.quoted word
  | noText column => "stored row has no text column " ++ column
  | noInteger column => "stored row has no integer column " ++ column

inductive CommandProblem where
  | tooFewWords
  | feature
  | level
  | unknownKind (kind : String)
  | denied
  | outsideGroup
deriving DecidableEq, Repr

def CommandProblem.message : CommandProblem → String
  | tooFewWords => "Please provide a feature and a permission level."
  | feature => "Please provide a valid feature."
  | level => "Please provide a valid permission level."
  | unknownKind kind => "Unknown command: " ++ kind
  | denied => "Permission denied."
  | outsideGroup => "Group permissions can only be set inside a group."

-- Why a permission operation failed. A fault while the tables are set up is told
-- apart from every later one.
inductive Error where
  | validation (invalid : Invalid)
  | setup (fault : Table.Fault)
  | store (fault : Table.Fault)
  | uninitialized
  | alreadyInitialized
  | command (problem : CommandProblem)
deriving DecidableEq, Repr

def Error.message? : Error → Option String
  | validation invalid => some ("invalid input: " ++ invalid.message)
  | setup fault => fault.message?.map ("failed to create permission tables: " ++ ·)
  | store fault => fault.message?
  | uninitialized => some "permission store is not initialized"
  | alreadyInitialized => some "permission store is already initialized"
  | command problem => some problem.message

end FeatureGate
