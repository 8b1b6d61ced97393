import Observatory.Monitor.Basic

/-! # Steps of a monitor

A monitor moves by atomic actions. Some come from outside (lines, starts, the clock, results), the
others are moves of its own tasks. An action that is not possible in a state has no next state there.
A section in which a task does not wait for anything is atomic, and nobody else gets a turn within it: an
observation that ends is no longer active, finished and recorded in one action, and a line that is
accepted is stored and announced in one action. A run is any sequence of possible actions, so it covers
every order in which tasks take turns at the points where they wait, and no finer one.
-/

namespace Observatory

/-- A move of an aggregator. -/
inductive Move where
  | subscribe
  | replay
  | receive
  | heed
  | drain
  | leave
deriving DecidableEq, Repr

inductive Action where
  /-- The tracer wrote a line. -/
  | ingest (line : List Char)
  /-- A container turned out to be the monitor's own. -/
  | exclude (container : ContainerId)
  /-- Something else registers a listener. -/
  | intrude (container : ContainerId)
  | elapse (duration : Nat)
  /-- A container started. -/
  | request (start : Start)
  /-- The identity for one of the entering starts is known. -/
  | enroll (index : Nat) (identity : ResourceIdentity)
  | sbomReady (serial : Nat) (result : Except String Sbom)
  | vulnerabilitiesReady (serial : Nat) (result : Except String VulnerabilityReport)
  | aggregate (serial : Nat) (move : Move)
  /-- The deadline of an observation has come. -/
  | expire (serial : Nat)
  /-- An aggregation ended before the deadline. -/
  | abort (serial : Nat)
  /-- The stopped aggregation has its result. -/
  | report (serial : Nat)
  /-- An observation offers its next task to the queue. -/
  | send (serial : Nat)
  | hire
  | take
  | prepare
  | stored (result : Except String Unit)
  /-- Something else takes a task out of the queue. -/
  | divert
  | closeQueue
  | forgetPod (pod : Cluster.PodKey)
  | retainPods (pods : List Cluster.PodKey)

namespace Monitor

/-! ## Starts -/

/-- The first half of a start: containers that are tracked are refused. -/
def request (monitor : Monitor) (start : Start) : Monitor :=
  if monitor.isTracked start.container then monitor.write [.answered start.container false]
  else { monitor with entering := monitor.entering ++ [start] }

/-- The scans of a new observation, if their results will be needed. -/
def inquiriesFor (monitor : Monitor) (serial : Nat) (start : Start) : List Inquiry :=
  if monitor.policy.services.relevantCves then
    [⟨serial, .sbom, start.image, monitor.now⟩, ⟨serial, .vulnerabilities, start.image, monitor.now⟩]
  else []

/-- Begin an observation. -/
def begin (monitor : Monitor) (start : Start) (identity : ResourceIdentity) : Monitor :=
  let serial := monitor.nextSerial
  let observation := Observation.ofStart serial start identity (monitor.now + monitor.policy.window)
  let inquiries := monitor.inquiriesFor serial start
  { monitor with
    nextSerial := serial + 1
    active := monitor.active ++ [{ observation with phase := .watching }]
    inquiries := monitor.inquiries ++ inquiries
    journal := monitor.journal ++
      [.phase serial .starting, .phase serial .watching] ++
      inquiries.map (fun inquiry => .scan inquiry.scan start.image start.credentials) ++
      [.answered start.container true] }

/-- The second half of a start: it leads to an observation, unless one of the container is running. -/
def enroll? (monitor : Monitor) (index : Nat) (identity : ResourceIdentity) : Option Monitor := do
  let start ← monitor.entering[index]?
  let monitor := { monitor with entering := monitor.entering.eraseIdx index }
  if (monitor.observing? start.container).isSome then
    return monitor.write [.answered start.container false]
  else return monitor.begin start identity

/-! ## Scans -/

/-- Drop an inquiry that has its answer. -/
def answer? (monitor : Monitor) (serial : Nat) (scan : Scan) : Option (Inquiry × Monitor) := do
  let inquiry ← monitor.inquiries.find? fun inquiry => inquiry.serial = serial && inquiry.scan = scan
  return (inquiry, { monitor with inquiries := monitor.inquiries.erase inquiry })

/-- Change an observation if it is still running. -/
def change (monitor : Monitor) (serial : Nat) (f : Observation → Observation) : Monitor :=
  match monitor.observation? serial with
  | some observation => monitor.replace (f observation)
  | none => monitor

def sbomReady? (monitor : Monitor) (serial : Nat) (result : Except String Sbom) : Option Monitor := do
  let (inquiry, monitor) ← monitor.answer? serial .sbom
  let monitor :=
    match result with
    | .error reason => monitor.write [.notice (.sbomFailed inquiry.image reason)]
    | .ok _ => monitor
  return monitor.change serial fun observation =>
    { observation with sbom := observation.sbom.complete result }

def vulnerabilitiesReady? (monitor : Monitor) (serial : Nat)
    (result : Except String VulnerabilityReport) : Option Monitor := do
  let (inquiry, monitor) ← monitor.answer? serial .vulnerabilities
  let monitor :=
    match result with
    | .error reason => monitor.write [.notice (.scanFailed inquiry.image reason)]
    | .ok _ => monitor
  return monitor.change serial fun observation =>
    { observation with vulnerabilities := observation.vulnerabilities.complete result }

/-! ## Observations -/

/-- A move of an aggregator. It heeds a stop only when it was told to. -/
def moveAggregator? (move : Move) (observation : Observation) (acc : Accumulator) :
    Option (Aggregation.Aggregator × Accumulator) :=
  let aggregator := observation.aggregator
  match move with
  | .subscribe => aggregator.subscribe? observation.container acc
  | .replay => (aggregator.replay? acc).map (·, acc)
  | .receive => aggregator.receive? acc
  | .heed => if observation.isStopped then aggregator.stop?.map (·, acc) else none
  | .drain => aggregator.drain? acc
  | .leave => aggregator.leave? acc

def aggregate? (monitor : Monitor) (serial : Nat) (move : Move) : Option Monitor := do
  let observation ← monitor.observation? serial
  let (aggregator, acc) ← moveAggregator? move observation monitor.accumulator
  let monitor := { monitor with accumulator := acc }
  return monitor.replace { observation with aggregator := aggregator }

/-- The window of an observation is over. -/
def expire? (monitor : Monitor) (serial : Nat) : Option Monitor := do
  let observation ← monitor.observation? serial
  if observation.phase = .watching && observation.deadline ≤ monitor.now then
    return monitor.enter observation .stoppedByTimer
  else none

/-- Why an observation cannot go on when its aggregation has ended by itself. -/
def abortReason : Aggregation.Outcome → String
  | .error error => error.message
  | .ok _ => "aggregation ended before the deadline"

/-- End an observation whose aggregation ended by itself. A deadline that has come goes first. -/
def abort? (monitor : Monitor) (serial : Nat) : Option Monitor := do
  let observation ← monitor.observation? serial
  let outcome ← observation.aggregator.outcome?
  if observation.phase = .watching && monitor.now < observation.deadline then
    let reason := abortReason outcome
    let observation := { observation with aggregation := observation.aggregation.complete (.error reason) }
    let monitor := (monitor.replace observation).enter observation .stoppedByOverflow
    return (monitor.write [.notice (.aborted observation.container reason)]).finish observation
      (.aborted reason)
  else none

/-- Take the result of a stopped aggregation, and announce the tasks that follow. -/
def report? (monitor : Monitor) (serial : Nat) : Option Monitor := do
  let observation ← monitor.observation? serial
  let outcome ← observation.aggregator.outcome?
  if observation.isStopped && observation.aggregation.isPending then
    let (result, notice) : Except String Aggregation.Report × Notice :=
      match outcome with
      | .ok report => (.ok report, .stopped observation.container report)
      | .error error => (.error error.message, .stoppedInError observation.container error.message)
    let services := monitor.policy.services.toList
    let observation :=
      { observation with
        aggregation := observation.aggregation.complete result
        unsent := services
        pendingTasks := services.length }
    let monitor := (monitor.replace observation).write [.notice notice]
    if services.isEmpty then return monitor.finish observation (.completed 0) else return monitor
  else none

/-- Offer the next task of an observation to the queue. If the queue is gone the task has failed. -/
def send? (monitor : Monitor) (serial : Nat) : Option Monitor := do
  let observation ← monitor.observation? serial
  match observation.unsent with
  | [] => none
  | service :: unsent =>
      let task : Task := ⟨observation.container, service⟩
      let sent := { observation with unsent := unsent }
      if monitor.queue.isOpen then
        if monitor.queue.isBlocked serial then none
        else
          let (queue, accepted) := monitor.queue.offer serial task
          let monitor := { monitor with queue := queue }
          return if accepted then monitor.replace sent else monitor
      else
        return (monitor.write [.notice (.dropped task)]).concludeTask sent true

/-! ## The worker -/

/-- The queue is open and nobody works on it. -/
def ownsQueue (monitor : Monitor) : Bool :=
  monitor.worker = .absent && monitor.queue.isOpen

/-- Begin to work on the queue. -/
def hire? (monitor : Monitor) : Option Monitor :=
  if monitor.ownsQueue then some { monitor with worker := .idle } else none

/-- The worker takes the next task. -/
def take? (monitor : Monitor) : Option Monitor := do
  if monitor.worker = .idle then
    let (task, queue) ← monitor.queue.take?
    let monitor := { monitor with queue := queue }
    match monitor.observing? task.container with
    | none => return monitor.write [.notice (.unexpected task)]
    | some observation =>
        let monitor := monitor.enter observation .pipelineRunning
        return { monitor with worker := .preparing observation.serial task }
  else none

/-- What is told about an artifact before it is stored. -/
def noticeOf (derived : Observation.Derived) : List Entry :=
  match derived.artifact.vulnerabilities with
  | some relevant =>
      [.notice
        (.relevant relevant.vulnerabilities.length derived.scanned derived.artifact.resourceName)]
  | none => []

/-- The worker derives the artifact of its task and hands it to the store. -/
def prepare? (monitor : Monitor) : Option Monitor := do
  match monitor.worker with
  | .preparing serial task =>
      let observation ← monitor.observation? serial
      match ← observation.derive? task.service with
      | .ok derived =>
          let monitor := monitor.write (noticeOf derived ++ [.offered serial derived.artifact])
          return { monitor with worker := .storing serial task derived.artifact monitor.now }
      | .error reason =>
          let monitor := { monitor with worker := .idle }
          return (monitor.write [.notice (.taskFailed task reason)]).concludeTask observation true
  | _ => none

/-- The store has answered. -/
def stored? (monitor : Monitor) (result : Except String Unit) : Option Monitor := do
  match monitor.worker with
  | .storing serial task artifact _ =>
      let observation ← monitor.observation? serial
      let monitor := { monitor with worker := .idle }
      match result with
      | .ok () =>
          let monitor := monitor.write
            [.stored artifact, .notice (.stored task.service observation.resourceName)]
          return monitor.concludeTask observation false
      | .error reason =>
          return (monitor.write [.notice (.taskFailed task reason)]).concludeTask observation true
  | _ => none

/-- Take a task out of the queue without working on it. -/
def divert? (monitor : Monitor) : Option (Task × Monitor) := do
  if monitor.ownsQueue then
    let (task, queue) ← monitor.queue.take?
    return (task, { monitor with queue := queue })
  else none

def closeQueue? (monitor : Monitor) : Option Monitor :=
  if monitor.ownsQueue then some { monitor with queue := monitor.queue.close } else none

/-! ## Finished containers -/

/-- Forget the finished containers of a pod. -/
def forgetPod (monitor : Monitor) (pod : Cluster.PodKey) : Monitor :=
  { monitor with finished := monitor.finished.filter fun _ owner => owner ≠ pod }

/-- Forget the finished containers of all other pods. -/
def retainPods (monitor : Monitor) (pods : List Cluster.PodKey) : Monitor :=
  { monitor with finished := monitor.finished.filter fun _ owner => owner ∈ pods }

/-! ## Runs -/

/-- The state after an action, if the action is possible. -/
def step? (monitor : Monitor) : Action → Option Monitor
  | .ingest line => some { monitor with accumulator := monitor.accumulator.ingest line }
  | .exclude container => some { monitor with accumulator := monitor.accumulator.addOwn container }
  | .intrude container => some { monitor with accumulator := (monitor.accumulator.register container).1 }
  | .elapse duration => some { monitor with now := monitor.now + duration }
  | .request start => some (monitor.request start)
  | .enroll index identity => monitor.enroll? index identity
  | .sbomReady serial result => monitor.sbomReady? serial result
  | .vulnerabilitiesReady serial result => monitor.vulnerabilitiesReady? serial result
  | .aggregate serial move => monitor.aggregate? serial move
  | .expire serial => monitor.expire? serial
  | .abort serial => monitor.abort? serial
  | .report serial => monitor.report? serial
  | .send serial => monitor.send? serial
  | .hire => monitor.hire?
  | .take => monitor.take?
  | .prepare => monitor.prepare?
  | .stored result => monitor.stored? result
  | .divert => monitor.divert?.map (·.2)
  | .closeQueue => monitor.closeQueue?
  | .forgetPod pod => some (monitor.forgetPod pod)
  | .retainPods pods => some (monitor.retainPods pods)

/-- The state after a sequence of actions, if they are possible one after the other. -/
def run? (monitor : Monitor) : List Action → Option Monitor
  | [] => some monitor
  | action :: rest => (monitor.step? action).bind (·.run? rest)

end Monitor

end Observatory
