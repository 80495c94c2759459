import FeatureGate.Console.Run
import FeatureGate.Sql.Image

namespace FeatureGate.Console

def errorOf : IO.Error → FileError
  | .noFileOrDirectory .. => .missing
  | .alreadyExists .. => .present
  | error => .other (toString error)

def attempt (action : IO α) : IO (Except FileError α) := do
  try return .ok (← action) catch error => return .error (errorOf error)

-- The first byte of a database file. No text starts with it.
def mark : ByteArray := ⟨#[0xff]⟩

def mediumOf (bytes : ByteArray) : Medium :=
  if bytes.size ≤ 1 then .database {}
  else if bytes.extract 0 1 != mark then .foreign
  else match (String.fromUTF8? (bytes.extract 1 bytes.size)).bind Sql.Image.read? with
    | some content => .database content
    | none => .foreign

def machine : Host IO where
  environment? name := IO.getEnv name
  isPresent path := do return (← attempt (IO.FS.Handle.mk path .read)).toBool
  readText path := do
    return (← attempt (IO.FS.readBinFile path)) >>= fun bytes =>
      (String.fromUTF8? bytes).elim (.error .notText) .ok
  createDirectories path := attempt (IO.FS.createDirAll path)
  openDatabase path := do
    match ← attempt (do let _ ← IO.FS.Handle.mk path .append; IO.FS.readBinFile path) with
    | .ok bytes => return some (mediumOf bytes)
    | .error _ => return none
  keepDatabase path content := IO.FS.writeBinFile path (mark ++ (Sql.Image.text content).toUTF8)

end FeatureGate.Console

open FeatureGate.Console in
def main (arguments : List String) : IO UInt32 := do
  let report ← machine.run arguments
  IO.print report.output
  unless report.complaint.isEmpty do IO.eprintln report.complaint
  return report.code.toUInt32
