import Observatory.Monitor.Journal

/-! # Monitors

A monitor observes containers. Each observation runs on its own; they share the accumulator, the task
queue and one worker that turns tasks into artifacts. Time is a count of milliseconds.
-/

namespace Observatory

/-- What a monitor is told to do. -/
structure Policy where
  window : Nat
  services : EnabledServices
  retained : Nat
deriving DecidableEq, Repr

/-- What the worker is doing. -/
inductive Worker where
  /-- Nobody works on the queue. -/
  | absent
  | idle
  /-- Waiting for the results that a task needs. -/
  | preparing (serial : Nat) (task : Task)
  /-- Waiting for the store. -/
  | storing (serial : Nat) (task : Task) (artifact : Artifact) (since : Nat)
deriving DecidableEq, Repr

/-- A scan that was asked for and has no result yet. -/
structure Inquiry where
  serial : Nat
  scan : Scan
  image : String
  since : Nat
deriving DecidableEq, Repr

structure Monitor where
  policy : Policy
  now : Nat
  nextSerial : Nat
  accumulator : Accumulator
  /-- Starts whose identity is being resolved. -/
  entering : List Start
  /-- Observations in the order in which they began. -/
  active : List Observation
  /-- Containers that need not be observed again, with their pods. -/
  finished : Table ContainerId Cluster.PodKey
  retention : Retention
  queue : TaskQueue
  worker : Worker
  inquiries : List Inquiry
  journal : List Entry

namespace Monitor

def empty (policy : Policy) (cacheSize : Nat) : Monitor where
  policy := policy
  now := 0
  nextSerial := 0
  accumulator := .empty cacheSize
  entering := []
  active := []
  finished := .empty
  retention := .empty policy.retained
  queue := .empty
  worker := .absent
  inquiries := []
  journal := []

/-- The observation with this number. -/
def observation? (monitor : Monitor) (serial : Nat) : Option Observation :=
  monitor.active.find? (·.serial = serial)

/-- The running observation of a container. -/
def observing? (monitor : Monitor) (container : ContainerId) : Option Observation :=
  monitor.active.find? (·.container = container)

/-- The container is observed or has been. -/
def isTracked (monitor : Monitor) (container : ContainerId) : Bool :=
  (monitor.observing? container).isSome || monitor.finished.contains container

def write (monitor : Monitor) (entries : List Entry) : Monitor :=
  { monitor with journal := monitor.journal ++ entries }

/-- Put an observation in place of the one with its number. -/
def replace (monitor : Monitor) (observation : Observation) : Monitor :=
  { monitor with
    active := monitor.active.map fun other =>
      if other.serial = observation.serial then observation else other }

/-- Bring an observation into a phase. -/
def enter (monitor : Monitor) (observation : Observation) (phase : Phase) : Monitor :=
  let changed := if observation.phase = phase then [] else [.phase observation.serial phase]
  (monitor.replace { observation with phase := phase }).write changed

/-- End an observation. Its container counts as finished and is recorded. -/
def finish (monitor : Monitor) (observation : Observation) (outcome : Outcome) : Monitor :=
  let record : Record :=
    ⟨observation.container, observation.start.pod, observation.resourceName, outcome⟩
  { monitor with
    active := monitor.active.filter (·.serial ≠ observation.serial)
    finished := monitor.finished.insert observation.container observation.start.pod
    retention := monitor.retention.push record
    journal := monitor.journal ++
      [.phase observation.serial .done, .finished observation.serial record] }

/-- Count a task of an observation as done, and end the observation with its last one. -/
def concludeTask (monitor : Monitor) (observation : Observation) (failed : Bool) : Monitor :=
  let (observation, wasLast) := observation.taskDone failed
  let monitor := monitor.replace observation
  if wasLast then monitor.finish observation (.completed observation.failedTasks) else monitor

end Monitor

end Observatory
