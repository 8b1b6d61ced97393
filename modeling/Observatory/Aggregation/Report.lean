import Observatory.Sorted
import Observatory.Text.Blank
import Observatory.Trace.Event

/-! # Aggregation reports

What was seen of one container: its system calls, the files it used, and how many events that took.
-/

namespace Observatory.Aggregation

open Trace

structure Report where
  syscalls : List String
  files : List String
  events : Nat
deriving DecidableEq, Repr

namespace Report

def empty : Report := ⟨[], [], 0⟩

def isAbsolute (path : List Char) : Bool :=
  path.head? == some '/'

/-- The files of an event: its executable and its arguments, as far as they are absolute paths. -/
def filesOf (event : Event) : List String :=
  ((event.exe.toList :: Text.words event.cmd.toList).filter isAbsolute).map String.ofList

/-- The system call of an event, if it is named. -/
def syscallOf (event : Event) : List String :=
  if event.syscall = "" then [] else [event.syscall]

/-- Add one event. -/
def record (report : Report) (event : Event) : Report where
  syscalls := (syscallOf event).foldl (fun names name => Sorted.insert name names) report.syscalls
  files := (filesOf event).foldl (fun names name => Sorted.insert name names) report.files
  events := report.events + 1

end Report

end Observatory.Aggregation
