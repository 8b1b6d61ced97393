import Observatory.Text.Decimal

/-! # Processes

Programs that are run for their output. A host knows which programs there are and what they do; a
command reaches a program only if no part of it contains a zero character.
-/

namespace Observatory

inductive ExitStatus where
  | exited (code : UInt8)
  | killed
deriving DecidableEq, Repr

namespace ExitStatus

def isSuccess (status : ExitStatus) : Bool :=
  status = .exited 0

def text : ExitStatus → String
  | .exited code => "exit status: " ++ String.ofList (Text.decimal code.toNat)
  | .killed => "signal: 9 (SIGKILL)"

end ExitStatus

structure Command where
  program : String
  arguments : List String
  environment : List (String × String)
deriving DecidableEq, Repr

namespace Command

/-- All texts that are handed over when a command is run. -/
def texts (command : Command) : List String :=
  command.program :: command.arguments ++ command.environment.map (·.2)

def hasZero (command : Command) : Bool :=
  command.texts.any fun text => '\x00' ∈ text.toList

end Command

/-- What a program leaves behind. -/
structure ProcessOutput where
  stdout : List UInt8
  stderr : List UInt8
  status : ExitStatus
deriving DecidableEq, Repr

inductive LaunchError where
  | notFound
  | zeroCharacter
deriving DecidableEq, Repr

def LaunchError.message : LaunchError → String
  | .notFound => "No such file or directory (os error 2)"
  | .zeroCharacter => "nul byte found in provided data"

/-- The programs of a host, by name. -/
structure Host where
  run : String → Option (Command → ProcessOutput)

/-- Run a command to its end. -/
def Host.launch (host : Host) (command : Command) : Except LaunchError ProcessOutput :=
  if command.hasZero then .error .zeroCharacter
  else
    match host.run command.program with
    | some run => .ok (run command)
    | none => .error .notFound

end Observatory
