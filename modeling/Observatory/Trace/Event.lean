import Observatory.Calendar.Timestamp
import Observatory.ContainerId

/-! # Trace events

One observed system call, and the messages a live listener receives.
-/

namespace Observatory.Trace

structure Event where
  timestamp : Calendar.Timestamp
  container : ContainerId
  category : String
  ppid : UInt32
  pid : UInt32
  syscall : String
  exe : String
  cmd : String
deriving DecidableEq, Repr

/-- What a live listener is sent: an event of its container, or the notice that the tracer lost
events. -/
inductive Message where
  | event (event : Event)
  | overflow
deriving DecidableEq, Repr

end Observatory.Trace
