/-!
# Errors of a call

Reading and rendering a template never fails, so everything that can go wrong comes from the arguments, from
the template file, or from the output.
-/

namespace Stencil.CommandLine

/-- Why a call fails. -/
inductive CommandError where
  /-- The arguments are not enough. -/
  | arguments (reason : String)
  /-- The template file cannot be read. -/
  | template (reason : String)
  /-- The output cannot be written. -/
  | output (reason : String)
  deriving DecidableEq

namespace CommandError

/-- The message of an error. -/
def message : CommandError → String
  | arguments reason => "Usage error: " ++ reason
  | template reason => "Cannot read template: " ++ reason
  | output reason => "Cannot write output: " ++ reason

/-- The exit status of a call that fails. -/
def exitStatus (_ : CommandError) : Nat := 1

/-- The error of a template file that cannot be read for that reason. -/
def unreadable (path reason : String) : CommandError :=
  template (path ++ ": " ++ reason)

end CommandError

end Stencil.CommandLine
