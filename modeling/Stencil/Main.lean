import Stencil.CommandLine.Run

/-!
# The program

Reads the arguments, the environment and the template file, calls the library, and prints what it answers.
-/

namespace Stencil.CommandLine

/-- A reason in the words of the system, with its number. -/
def systemReason (code : UInt32) (details : String) : ReadError :=
  .other (details ++ " (os error " ++ code.toNat.repr ++ ")")

/-- The reason that a file cannot be read. -/
def readError : IO.Error → ReadError
  | .noFileOrDirectory _ code details => systemReason code details
  | .inappropriateType _ code details => systemReason code details
  | .permissionDenied _ code details => systemReason code details
  | .invalidArgument _ code details => systemReason code details
  | .resourceExhausted _ code details => systemReason code details
  | .illegalOperation code details => systemReason code details
  | .otherError code details => systemReason code details
  | error => .other (toString error)

/-- Reads the file at a path. -/
def readFile (path : String) : IO (Except ReadError String) := do
  try
    let bytes ← IO.FS.readBinFile path
    return textOfFile bytes.toList
  catch error =>
    return .error (readError error)

/-- The path of the template file, if the arguments are complete. -/
def templatePath? (arguments : List String) : Option String :=
  match read false arguments with
  | .ok (.request request) => some request.templatePath
  | _ => none

end Stencil.CommandLine

open Stencil.CommandLine in
/-- Runs the program. -/
def main (arguments : List String) : IO UInt32 := do
  let file ← match templatePath? arguments with
    | some path => readFile path
    | none => pure (.error .notFound)
  let settings ← logVariables.mapM fun name => do return (name, ← IO.getEnv name)
  let result := call arguments (fun name => (settings.lookup name).join) fun _ => file
  let stdout ← IO.getStdout
  stdout.write (ByteArray.mk result.stdout.toArray)
  stdout.flush
  IO.eprint result.stderr
  return result.status.toUInt32
