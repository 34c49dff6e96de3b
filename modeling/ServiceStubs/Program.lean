import ServiceStubs.CommandLine
import ServiceStubs.Generate

/-!
# The program

The command line and a run put together: help and refused command lines end the program before
anything is looked at, and so does a run that cannot start.
-/

namespace ServiceStubs

/-- How the program ends when nothing fails. -/
inductive Ending where
  | finished
  | exited (code : Nat) (output errors : String)
  deriving DecidableEq, Repr

/-- The end of a refused call. -/
def Ending.refused (message : String) : Ending :=
  .exited 2 "" (CommandLine.refusal message)

/-- The whole program for one command line. The working directory is the root of the run. -/
def Environment.program (environment : Environment) (arguments : List String) :
    Action Ending := do
  Action.report (.workingFrom environment.workingDirectory)
  match CommandLine.parse arguments with
  | .error fault => return .refused fault.message
  | .ok .help => return .exited 0 CommandLine.help ""
  | .ok (.run options) =>
    tryCatch
      (do
        discard (environment.run options.arguments environment.workingDirectory)
        return .finished)
      fun failure =>
        match failure with
        | .config fault => return .refused fault.message
        | other => throw other

end ServiceStubs
