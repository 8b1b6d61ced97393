import Observatory.Text.Blank
import Observatory.Text.Decimal
import Observatory.Text.Split
import Observatory.Trace.Event

/-! # Tracer lines

A line has eight fields between separators, or it contains the marker by which the tracer announces
that it lost events. Whose line it is can be told from the second field alone, so the monitor's own
lines are recognised before any field is read.
-/

namespace Observatory.Trace

/-- Stands in a line that announces lost events. -/
def overflowMarker : List Char := "drop event occured".toList

/-- Stands between two fields. -/
def separator : List Char := "]::[".toList

/-- The fields that are read and not just kept. -/
inductive Field where
  | timestamp
  | container
  | ppid
  | pid
deriving DecidableEq, Repr

def Field.name : Field → String
  | .timestamp => "timestamp"
  | .container => "container_id"
  | .ppid => "ppid"
  | .pid => "pid"

inductive LineError where
  | fieldCount (found : Nat) (line : String)
  | invalidField (field : Field) (value line : String)
deriving DecidableEq, Repr

def LineError.message : LineError → String
  | .fieldCount found line =>
      "expected 8 fields but found " ++ String.ofList (Text.decimal found) ++ " in line: `" ++ line ++ "`"
  | .invalidField field value line =>
      "invalid `" ++ field.name ++ "` field `" ++ value ++ "` in line: `" ++ line ++ "`"

/-- The container whose line this is, by its second field. A line that ends with that field is
nobody's. -/
def emitter? (line : List Char) : Option (List Char) := do
  let (_, rest) ← Text.splitOnce separator line
  let (id, _) ← Text.splitOnce separator rest
  return id

def isEmittedBy (line : String) (id : String) : Bool :=
  emitter? line.toList == some id.toList

/-- A process id: an unsigned 32-bit literal with white space around it. -/
def readPid? (text : List Char) : Option UInt32 :=
  match Text.readUnsigned (UInt32.size - 1) (Text.trim text) with
  | .ok value => some (UInt32.ofNat value)
  | .error _ => none

/-- A field that has to be there, or the error that names it. -/
def require {α : Type} (line : List Char) (field : Field) (value : List Char) :
    Option α → Except LineError α
  | some a => .ok a
  | none => .error (.invalidField field (String.ofList value) (String.ofList line))

/-- Read the fields of a line that is no overflow notice. -/
def readFields (line : List Char) : Except LineError Event :=
  match Text.splitOn separator line with
  | [timestamp, container, category, ppid, pid, syscall, exe, cmd] => do
      return {
        timestamp := ← require line .timestamp timestamp (Calendar.Timestamp.read? timestamp)
        container := ← require line .container container (ContainerId.ofString? (String.ofList container))
        category := String.ofList category
        ppid := ← require line .ppid ppid (readPid? ppid)
        pid := ← require line .pid pid (readPid? pid)
        syscall := String.ofList syscall
        exe := String.ofList exe
        cmd := String.ofList cmd }
  | fields => .error (.fieldCount fields.length (String.ofList line))

/-- Read one line. A line with the overflow marker is a notice, whatever else it holds. -/
def readLine (line : List Char) : Except LineError Message :=
  if Text.occursIn overflowMarker line then .ok .overflow
  else (readFields line).map .event

/-- The line that stands for an event, with a zone after its timestamp. -/
def Event.toLine (event : Event) (zone : List Char) : List Char :=
  Text.joinWith separator
    [event.timestamp.toMicrosText ++ zone, event.container.text.toList, event.category.toList,
      Text.decimal event.ppid.toNat, Text.decimal event.pid.toNat, event.syscall.toList,
      event.exe.toList, event.cmd.toList]

end Observatory.Trace
