import Observatory.Accumulator
import Observatory.Process
import Observatory.Text.Blank
import Observatory.Text.Split

/-! # The tracer

The program that writes the trace lines. It is expected to run forever, so any exit is an error.
-/

namespace Observatory

structure Tracer where
  program : String
  /-- Categories of system calls to report; all of them if there is none. -/
  filter : List (List Char)
  includeHost : Bool
  mainThreadOnly : Bool
deriving DecidableEq, Repr

inductive TracerError where
  | spawn (program : String) (error : LaunchError)
  | exited (status : ExitStatus)
deriving DecidableEq, Repr

def TracerError.message : TracerError → String
  | .spawn program error => "failed to spawn tracer `" ++ program ++ "`: " ++ error.message
  | .exited (.exited code) => "tracer exited: exit code " ++ String.ofList (Text.decimal code.toNat)
  | .exited .killed => "tracer exited: terminated by signal"

namespace Tracer

/-- The categories in a comma-separated list. -/
def readFilter (text : List Char) : List (List Char) :=
  ((Text.splitOn [','] text).map Text.trim).filter (!·.isEmpty)

/-- The categories as a comma-separated list. -/
def writeFilter (categories : List (List Char)) : List Char :=
  Text.joinWith [','] categories

def arguments (tracer : Tracer) : List String :=
  (if tracer.filter.isEmpty then [] else ["--filter", String.ofList (writeFilter tracer.filter)]) ++
    (if tracer.includeHost then ["--include-host"] else []) ++
    (if tracer.mainThreadOnly then ["--main-thread-only"] else [])

def command (tracer : Tracer) : Command :=
  ⟨tracer.program, tracer.arguments, []⟩

/-- Run the tracer to its end. Its lines have gone into the accumulator by then. -/
def trace (tracer : Tracer) (host : Host) (acc : Accumulator) : TracerError × Accumulator :=
  match host.launch tracer.command with
  | .error error => (.spawn tracer.program error, acc)
  | .ok output => (.exited output.status, acc.consume output.stdout)

end Tracer

end Observatory
