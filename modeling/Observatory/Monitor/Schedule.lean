import Observatory.Cluster.Basic
import Observatory.Monitor.Step

/-! # Schedules

A schedule picks the next action of a monitor, given how its surroundings answer and how long they
take. Tasks get their turns in rounds: first everything that arrives is handled, observation by
observation in the order in which they began; then the worker runs until it has to wait; then each
observation offers as many of its tasks as the queue takes, those first for which a place is kept. A
monitor is quiet when nobody can move before time passes.
-/

namespace Observatory

/-- An answer and the time until it comes. -/
structure Delayed (α : Type) where
  value : α
  delay : Nat

def Delayed.immediate {α : Type} (value : α) : Delayed α := ⟨value, 0⟩

/-- How everything around a monitor answers. -/
structure Surroundings where
  cluster : Cluster
  sbom : String → Delayed (Except String Sbom)
  vulnerabilities : String → Delayed (Except String VulnerabilityReport)
  store : Artifact → Delayed (Except String Unit)

/-- Whose turn it is. -/
inductive Turn where
  | arrivals
  | worker
  | sender (serial : Nat)
deriving DecidableEq, Repr

namespace Surroundings

variable (surroundings : Surroundings)

/-- When the answer to an inquiry comes. -/
def inquiryDue (inquiry : Inquiry) : Nat :=
  match inquiry.scan with
  | .sbom => inquiry.since + (surroundings.sbom inquiry.image).delay
  | .vulnerabilities => inquiry.since + (surroundings.vulnerabilities inquiry.image).delay

/-- How an inquiry is answered. -/
def inquiryAnswer (inquiry : Inquiry) : Action :=
  match inquiry.scan with
  | .sbom => .sbomReady inquiry.serial (surroundings.sbom inquiry.image).value
  | .vulnerabilities =>
      .vulnerabilitiesReady inquiry.serial (surroundings.vulnerabilities inquiry.image).value

/-- When the store answers the worker. -/
def storeDue? (worker : Worker) : Option Nat :=
  match worker with
  | .storing _ _ artifact since => some (since + (surroundings.store artifact).delay)
  | _ => none

end Surroundings

namespace Monitor

/-- The next move of an aggregator. A stop goes before a pending message. -/
def move? (monitor : Monitor) (observation : Observation) : Option Move :=
  match observation.aggregator with
  | .created => some .subscribe
  | .subscribed _ => some .replay
  | .listening subscription _ =>
      if observation.isStopped then some .heed
      else if (monitor.accumulator.receive subscription.token).1 = .pending then none
      else some .receive
  | .draining .. => some .drain
  | .leaving .. => some .leave
  | .ended _ => none

/-- What an observation does next, apart from sending. -/
def observationAction? (monitor : Monitor) (observation : Observation) : Option Action :=
  if observation.phase = .watching && observation.deadline ≤ monitor.now then
    some (.expire observation.serial)
  else
    match monitor.move? observation with
    | some move => some (.aggregate observation.serial move)
    | none =>
        if observation.aggregator.outcome?.isNone then none
        else if observation.phase = .watching then some (.abort observation.serial)
        else if observation.isStopped && observation.aggregation.isPending then
          some (.report observation.serial)
        else none

/-- What the worker does next. -/
def workerAction? (surroundings : Surroundings) (monitor : Monitor) : Option Action :=
  match monitor.worker with
  | .absent => none
  | .idle => if monitor.queue.tasks.isEmpty then none else some .take
  | .preparing serial task =>
      match (monitor.observation? serial).bind (·.derive? task.service) with
      | some _ => some .prepare
      | none => none
  | .storing _ _ artifact since =>
      let answer := surroundings.store artifact
      if since + answer.delay ≤ monitor.now then some (.stored answer.value) else none

/-- The observation has a task that it can offer, or drop. -/
def canSend (monitor : Monitor) (observation : Observation) : Bool :=
  !observation.unsent.isEmpty &&
    !(monitor.queue.isOpen && monitor.queue.isBlocked observation.serial)

/-- The next action in a turn; `none` if the turn is over. -/
def next? (surroundings : Surroundings) (monitor : Monitor) : Turn → Option Action
  | .arrivals =>
      match monitor.inquiries.find? (surroundings.inquiryDue · ≤ monitor.now) with
      | some inquiry => some (surroundings.inquiryAnswer inquiry)
      | none => monitor.active.findSome? monitor.observationAction?
  | .worker => monitor.workerAction? surroundings
  | .sender serial =>
      match monitor.observation? serial with
      | some observation => if monitor.canSend observation then some (.send serial) else none
      | none => none

/-- A bound on the actions left before the monitor is quiet. -/
def work (monitor : Monitor) : Nat :=
  let ofObservation (observation : Observation) : Nat :=
    observation.aggregator.work monitor.accumulator + 16
  (monitor.active.map ofObservation).foldl (· + ·) 0 + 4 * monitor.queue.tasks.length +
    monitor.inquiries.length + 4

/-- Act until the turn is over, at most this many times. -/
def turnFor (surroundings : Surroundings) (turn : Turn) : Nat → Monitor → Monitor
  | 0, monitor => monitor
  | fuel + 1, monitor =>
      match (monitor.next? surroundings turn).bind monitor.step? with
      | some monitor => turnFor surroundings turn fuel monitor
      | none => monitor

/-- The observations that can send: those with a place in the order in which they got it, then the
others in the order in which they began. -/
def senders (monitor : Monitor) : List Nat :=
  let able := (monitor.active.filter monitor.canSend).map (·.serial)
  monitor.queue.granted.filter (· ∈ able) ++ able.filter (· ∉ monitor.queue.granted)

/-- Everything that has a turn takes it, one after the other. -/
def takeTurns (surroundings : Surroundings) (monitor : Monitor) (turns : List Turn) : Monitor :=
  turns.foldl (fun monitor turn => turnFor surroundings turn monitor.work monitor) monitor

/-- One turn for everyone. -/
def round (surroundings : Surroundings) (monitor : Monitor) : Monitor :=
  let monitor := monitor.takeTurns surroundings [.arrivals, .worker]
  monitor.takeTurns surroundings (monitor.senders.map .sender)

/-- Nobody can move. -/
def isQuiet (surroundings : Surroundings) (monitor : Monitor) : Bool :=
  (monitor.next? surroundings .arrivals).isNone && (monitor.next? surroundings .worker).isNone &&
    monitor.senders.isEmpty

/-- Rounds, at most this many, until the monitor is quiet. -/
def settleFor (surroundings : Surroundings) : Nat → Monitor → Monitor
  | 0, monitor => monitor
  | fuel + 1, monitor =>
      if monitor.isQuiet surroundings then monitor
      else settleFor surroundings fuel (monitor.round surroundings)

/-- Act until the monitor is quiet. -/
def settle (surroundings : Surroundings) (monitor : Monitor) : Monitor :=
  settleFor surroundings monitor.work monitor

/-! ## Time -/

/-- The instants at which something will happen. -/
def dues (surroundings : Surroundings) (monitor : Monitor) : List Nat :=
  (monitor.active.filter (·.phase = .watching)).map (·.deadline) ++
    monitor.inquiries.map surroundings.inquiryDue ++ (surroundings.storeDue? monitor.worker).toList

/-- The next of these instants up to a given one. -/
def nextDue? (surroundings : Surroundings) (monitor : Monitor) (target : Nat) : Option Nat :=
  ((monitor.dues surroundings).filter fun due => monitor.now < due && due ≤ target).min?

/-- Go from due instant to due instant, at most this many of them, and then to the target. -/
def advanceFor (surroundings : Surroundings) (target : Nat) : Nat → Monitor → Monitor
  | 0, monitor => { monitor with now := target }
  | fuel + 1, monitor =>
      match monitor.nextDue? surroundings target with
      | some due => advanceFor surroundings target fuel (settle surroundings { monitor with now := due })
      | none => settle surroundings { monitor with now := target }

/-- Let time pass. -/
def advance (surroundings : Surroundings) (duration : Nat) (monitor : Monitor) : Monitor :=
  let instants := 4 * monitor.active.length + monitor.queue.tasks.length + monitor.inquiries.length + 4
  advanceFor surroundings (monitor.now + duration) instants monitor

/-! ## Starts -/

/-- While a question to the cluster is on its way, everyone else goes on. -/
def whileAsking (surroundings : Surroundings) (lookups : List Cluster.Lookup) (monitor : Monitor) :
    Monitor :=
  if lookups.any (·.isSent) then monitor.settle surroundings else monitor

/-- A start from beginning to end, with the answer whether the container is now observed by it. -/
def start (surroundings : Surroundings) (monitor : Monitor) (start : Start) : Monitor × Bool :=
  if monitor.isTracked start.container then (monitor.request start, false)
  else
    let (identity, lookups) := ResourceIdentity.resolve surroundings.cluster.ownerSource
      start.pod.namespace_ start.pod.name start.owner start.image
    let monitor := (monitor.request start).write (lookups.map .lookup)
    let monitor := monitor.whileAsking surroundings lookups
    match monitor.enroll? (monitor.entering.length - 1) identity with
    | some enrolled => (enrolled, (monitor.observing? start.container).isNone)
    | none => (monitor, false)

end Monitor

end Observatory
