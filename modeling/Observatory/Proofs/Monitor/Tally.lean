import Observatory.Proofs.Monitor.Books
import Observatory.Proofs.Monitor.Session

/-! # One observation and its tasks

What an action means to one observation: how its tasks stand, which artifact of it is at the store, what has
been handed to the store and what has been recorded. Every action leaves all this alone or changes it in one of
a few ways, and makes at most one attempt at a task of the observation.
-/

namespace Observatory

/-- What has become of a task that the worker has taken. -/
inductive Attempt where
  /-- There was no artifact to store. -/
  | underived (service : Service) (reason : String)
  /-- The store was given an artifact and has answered. -/
  | answered (service : Service) (artifact : Artifact) (answer : Except String Unit)

namespace Attempt

def service : Attempt → Service
  | .underived service _ | .answered service _ _ => service

def isFailed : Attempt → Bool
  | .underived .. | .answered _ _ (.error _) => true
  | .answered _ _ (.ok _) => false

/-- What there was for the store, or the reason why there was nothing. -/
def derivation : Attempt → Except String Artifact
  | .underived _ reason => .error reason
  | .answered _ artifact _ => .ok artifact

/-- The artifact that the store was given. -/
def artifact? : Attempt → Option Artifact
  | .underived .. => none
  | .answered _ artifact _ => some artifact

end Attempt

namespace Entry

/-- The artifact of an observation that was handed to the store. -/
def artifactOf? (serial : Nat) : Entry → Option Artifact
  | .offered number artifact => if number = serial then some artifact else none
  | _ => none

/-- The record of an observation. -/
def recordOf? (serial : Nat) : Entry → Option Record
  | .finished number record => if number = serial then some record else none
  | _ => none

theorem silent_of_aside {entry : Entry} (aside : entry.isCourse = false) (serial : Nat) :
    entry.artifactOf? serial = none ∧ entry.recordOf? serial = none := by
  cases entry with
  | offered | finished => contradiction
  | answered | lookup | scan | phase | stored | notice => exact ⟨rfl, rfl⟩

end Entry

/-- How the tasks of a running observation stand. -/
structure Standing where
  start : Start
  identity : ResourceIdentity
  result : Option (Except String Aggregation.Report)
  unsent : List Service
  pendingTasks : Nat
  failedTasks : Nat

def Observation.standing (observation : Observation) : Standing where
  start := observation.start
  identity := observation.identity
  result := observation.aggregation.result
  unsent := observation.unsent
  pendingTasks := observation.pendingTasks
  failedTasks := observation.failedTasks

/-- All that concerns the tasks of one observation. -/
structure Desk where
  /-- `none` unless the observation runs. -/
  standing : Option Standing
  /-- The artifact that the store has not answered yet. -/
  storing : Option (Service × Artifact)
  /-- What has been handed to the store. -/
  artifacts : List Artifact
  records : List Record

namespace Desk

def tell (desk : Desk) (serial : Nat) (entries : List Entry) : Desk :=
  { desk with
    artifacts := desk.artifacts ++ entries.filterMap (Entry.artifactOf? serial)
    records := desk.records ++ entries.filterMap (Entry.recordOf? serial) }

/-- The observation ends. -/
def close (desk : Desk) (observation : Observation) (outcome : Outcome) : Desk :=
  { desk with standing := none, records := desk.records ++ [Books.recordOf observation outcome] }

/-- A task is done, and with the last one the observation ends. -/
def conclude (desk : Desk) (observation : Observation) (failed : Bool) : Desk :=
  let counted := (observation.taskDone failed).1
  if observation.pendingTasks = 1 then desk.close observation (.completed counted.failedTasks)
  else { desk with standing := some counted.standing }

theorem tell_append (desk : Desk) (serial : Nat) (first second : List Entry) :
    desk.tell serial (first ++ second) = (desk.tell serial first).tell serial second := by
  simp [tell]

/-- Entries that tell neither of an artifact nor of a record. -/
theorem tell_of_silent (desk : Desk) {serial : Nat} {entries : List Entry}
    (silent : ∀ entry ∈ entries, entry.artifactOf? serial = none ∧ entry.recordOf? serial = none) :
    desk.tell serial entries = desk := by
  have artifacts : entries.filterMap (Entry.artifactOf? serial) = [] :=
    List.filterMap_eq_nil_iff.mpr fun entry member => (silent entry member).1
  have records : entries.filterMap (Entry.recordOf? serial) = [] :=
    List.filterMap_eq_nil_iff.mpr fun entry member => (silent entry member).2
  simp [tell, artifacts, records]

end Desk

/-- The artifact of an observation that the store has not answered yet, with its service. -/
def Worker.storing? (serial : Nat) : Worker → Option (Service × Artifact)
  | .storing number task artifact _ => if number = serial then some (task.service, artifact) else none
  | _ => none

namespace Monitor

open Aggregation

variable {monitor next base : Monitor} {action : Action} {serial number : Nat} {old new observation : Observation}

def desk (monitor : Monitor) (serial : Nat) : Desk where
  standing := (monitor.observation? serial).map (·.standing)
  storing := monitor.worker.storing? serial
  artifacts := monitor.journal.filterMap (Entry.artifactOf? serial)
  records := monitor.journal.filterMap (Entry.recordOf? serial)

/-- The attempt at a task of an observation that an action makes. -/
def attempt? (monitor : Monitor) (serial : Nat) : Action → Option Attempt
  | .prepare =>
      match monitor.worker with
      | .preparing number task =>
          if number = serial then
            match (monitor.observation? serial).bind (·.derive? task.service) with
            | some (.error reason) => some (.underived task.service reason)
            | _ => none
          else none
      | _ => none
  | .stored answer =>
      match monitor.worker with
      | .storing number task artifact _ =>
          if number = serial then some (.answered task.service artifact answer) else none
      | _ => none
  | _ => none

/-- What an action does on the desk of an observation, and the attempt that it makes. -/
inductive Tally (monitor : Monitor) (serial : Nat) : Option Attempt → Desk → Prop
  | aside : Tally monitor serial none (monitor.desk serial)
  | begun (start : Start) (identity : ResourceIdentity) (fresh : serial = monitor.nextSerial) :
      Tally monitor serial none { monitor.desk serial with standing := some ⟨start, identity, none, [], 0, 0⟩ }
  | aborted (old : Observation) (found : monitor.observation? serial = some old) (watching : old.phase = .watching)
      (outcome : Aggregation.Outcome) (ended : old.aggregator = .ended outcome) :
      Tally monitor serial none ((monitor.desk serial).close old (.aborted (abortReason outcome)))
  /-- The aggregation has its result, and the tasks are announced. -/
  | announced (old : Observation) (found : monitor.observation? serial = some old)
      (stopped : old.phase = .stoppedByTimer) (unreported : old.aggregation.result = none)
      (outcome : Aggregation.Outcome) (ended : old.aggregator = .ended outcome)
      (enabled : monitor.policy.services.toList ≠ []) :
      Tally monitor serial none { monitor.desk serial with
        standing := some { old.standing with
          result := some (outcome.mapError Error.message)
          unsent := monitor.policy.services.toList
          pendingTasks := monitor.policy.services.toList.length } }
  | unserved (old : Observation) (found : monitor.observation? serial = some old)
      (stopped : old.phase = .stoppedByTimer) (unreported : old.aggregation.result = none)
      (outcome : Aggregation.Outcome) (ended : old.aggregator = .ended outcome)
      (disabled : monitor.policy.services.toList = []) :
      Tally monitor serial none ((monitor.desk serial).close old (.completed 0))
  | sent (old : Observation) (found : monitor.observation? serial = some old) (service : Service)
      (rest : List Service) (announced : old.unsent = service :: rest) :
      Tally monitor serial none { monitor.desk serial with standing := some { old.standing with unsent := rest } }
  /-- A task finds the queue closed. -/
  | dropped (old : Observation) (found : monitor.observation? serial = some old) (service : Service)
      (rest : List Service) (announced : old.unsent = service :: rest) (closed : monitor.queue.isOpen = false) :
      Tally monitor serial none ((monitor.desk serial).conclude { old with unsent := rest } true)
  | offered (old : Observation) (found : monitor.observation? serial = some old) (task : Task)
      (preparing : monitor.worker = .preparing serial task) (derived : Observation.Derived)
      (derives : old.derive? task.service = some (.ok derived)) :
      Tally monitor serial none { monitor.desk serial with
        storing := some (task.service, derived.artifact)
        artifacts := (monitor.desk serial).artifacts ++ [derived.artifact] }
  | underived (old : Observation) (found : monitor.observation? serial = some old) (task : Task)
      (preparing : monitor.worker = .preparing serial task) (reason : String)
      (derives : old.derive? task.service = some (.error reason)) :
      Tally monitor serial (some (.underived task.service reason))
        { (monitor.desk serial).conclude old true with storing := none }
  | answered (old : Observation) (found : monitor.observation? serial = some old) (task : Task) (artifact : Artifact)
      (since : Nat) (storing : monitor.worker = .storing serial task artifact since) (answer : Except String Unit)
      (failed : Bool) (isFailed : (Attempt.answered task.service artifact answer).isFailed = failed) :
      Tally monitor serial (some (.answered task.service artifact answer))
        { (monitor.desk serial).conclude old failed with storing := none }

/-! ## How the desk changes -/

/-- What is written is told at the desk. -/
theorem desk_write (monitor : Monitor) (entries : List Entry) (serial : Nat) :
    (monitor.write entries).desk serial = (monitor.desk serial).tell serial entries := by
  simp only [desk, write, Desk.tell, List.filterMap_append]
  rfl

theorem desk_write_aside {entries : List Entry} (aside : ∀ entry ∈ entries, entry.isCourse = false) :
    (monitor.write entries).desk serial = monitor.desk serial := by
  rw [desk_write, Desk.tell_of_silent _ fun entry member => Entry.silent_of_aside (aside entry member) serial]

theorem observation?_replace_of_ne (differs : serial ≠ new.serial) :
    (monitor.replace new).observation? serial = monitor.observation? serial := by
  simp only [observation?, replace, find?_map_replace, differs, ↓reduceIte, Option.map_id']

/-- A new state of an observation is seen at its own desk only. -/
theorem desk_replace (found : monitor.observation? number = some old) (numbered : new.serial = number) :
    (monitor.replace new).desk serial =
      if serial = number then { monitor.desk serial with standing := some new.standing } else monitor.desk serial := by
  by_cases same : serial = number
  · subst same
    simp only [desk, observation?_replace found numbered, ↓reduceIte, Option.map_some]
    rfl
  · simp only [desk, observation?_replace_of_ne (numbered ▸ same), same, ↓reduceIte]
    rfl

/-- A change that does not concern the tasks leaves every desk as it is. -/
theorem desk_replace_same (found : monitor.observation? number = some old) (numbered : new.serial = number)
    (standing : new.standing = old.standing) : (monitor.replace new).desk serial = monitor.desk serial := by
  rw [desk_replace found numbered]
  split
  · rename_i same
    subst same
    simp [desk, found, standing]
  · rfl

/-- A phase is not seen at the desk. -/
theorem desk_enter (found : monitor.observation? number = some old) (phase : Phase) :
    (monitor.enter old phase).desk serial = monitor.desk serial := by
  have numbered := (mem_active_of_observation? found).2
  have silent : ∀ entry ∈ if old.phase = phase then [] else [Entry.phase old.serial phase],
      entry.artifactOf? serial = none ∧ entry.recordOf? serial = none := by
    split <;> simp [Entry.artifactOf?, Entry.recordOf?]
  have replaced : (monitor.replace { old with phase := phase }).desk serial = monitor.desk serial :=
    desk_replace_same found numbered rfl
  simp only [enter, desk_write, replaced, Desk.tell_of_silent _ silent]

theorem observation?_finish (monitor : Monitor) (observation : Observation) (outcome : Outcome) (serial : Nat) :
    (monitor.finish observation outcome).observation? serial =
      if serial = observation.serial then none else monitor.observation? serial := by
  simp only [observation?, finish, List.find?_filter]
  split
  · rename_i same
    simp [same]
  · rename_i differs
    congr 1
    funext other
    by_cases same : other.serial = serial <;> simp [same, differs]

/-- An observation that ends leaves its record at its own desk. -/
theorem desk_finish (monitor : Monitor) (observation : Observation) (outcome : Outcome) (serial : Nat) :
    (monitor.finish observation outcome).desk serial =
      if serial = observation.serial then (monitor.desk serial).close observation outcome
      else monitor.desk serial := by
  simp only [desk, observation?_finish]
  by_cases same : serial = observation.serial
  · subst same
    simp [finish, Desk.close, List.filterMap_cons, Entry.artifactOf?, Entry.recordOf?, Books.recordOf]
  · simp [finish, Entry.artifactOf?, Entry.recordOf?, same, Ne.symm same]

/-- A task that is done counts for its own observation. -/
theorem desk_concludeTask (found : monitor.observation? number = some old) (numbered : new.serial = number)
    (failed : Bool) : (monitor.concludeTask new failed).desk serial =
      if serial = number then (monitor.desk serial).conclude new failed else monitor.desk serial := by
  have done : (new.taskDone failed).1.serial = number := numbered
  have replaced : (monitor.replace (new.taskDone failed).1).desk serial = _ := desk_replace found done
  by_cases last : new.pendingTasks = 1
  · have conclude : monitor.concludeTask new failed =
        (monitor.replace (new.taskDone failed).1).finish (new.taskDone failed).1
          (.completed (new.taskDone failed).1.failedTasks) := by
      simp [concludeTask, Observation.taskDone, last]
    rw [conclude, desk_finish, done, replaced]
    split
    · simp only [Desk.conclude, last, ↓reduceIte]
      rfl
    · rfl
  · have conclude : monitor.concludeTask new failed = monitor.replace (new.taskDone failed).1 := by
      simp [concludeTask, Observation.taskDone, last]
    rw [conclude, replaced]
    split
    · simp only [Desk.conclude, last, ↓reduceIte]
    · rfl

/-- An observation begins with nothing done. -/
theorem desk_begin (unnumbered : monitor.observation? monitor.nextSerial = none) (start : Start)
    (identity : ResourceIdentity) (serial : Nat) :
    (monitor.begin start identity).desk serial =
      if serial = monitor.nextSerial then
        { monitor.desk serial with standing := some ⟨start, identity, none, [], 0, 0⟩ }
      else monitor.desk serial := by
  have artifacts : (monitor.begin start identity).journal.filterMap (Entry.artifactOf? serial) =
      monitor.journal.filterMap (Entry.artifactOf? serial) := by
    simp [begin, List.filterMap_cons, List.filterMap_map, Function.comp_def, Entry.artifactOf?]
  have records : (monitor.begin start identity).journal.filterMap (Entry.recordOf? serial) =
      monitor.journal.filterMap (Entry.recordOf? serial) := by
    simp [begin, List.filterMap_cons, List.filterMap_map, Function.comp_def, Entry.recordOf?]
  have standing : ((monitor.begin start identity).observation? serial).map (·.standing) =
      if serial = monitor.nextSerial then some ⟨start, identity, none, [], 0, 0⟩
      else (monitor.observation? serial).map (·.standing) := by
    simp only [observation?, begin, List.find?_append] at unnumbered ⊢
    by_cases same : serial = monitor.nextSerial
    · subst same
      simp [unnumbered, Observation.ofStart, Observation.standing, Completion.pending]
    · simp [Observation.ofStart, same, Ne.symm same]
  simp only [desk, artifacts, records, standing]
  split <;> rfl

/-- A worker that keeps what it has at the store. -/
theorem desk_worker {worker : Worker} (same : worker.storing? serial = monitor.worker.storing? serial) :
    { monitor with worker := worker }.desk serial = monitor.desk serial := by
  simp only [desk, same]
  rfl

theorem desk_change {f : Observation → Observation}
    (same : ∀ observation, (f observation).serial = observation.serial ∧
      (f observation).standing = observation.standing) :
    (monitor.change number f).desk serial = monitor.desk serial := by
  unfold change
  split
  · rename_i observation found
    have numbered := (mem_active_of_observation? found).2
    exact desk_replace_same found ((same observation).1.trans numbered) (same observation).2
  · rfl

/-! ## Steps -/

private theorem tally_aside {desk : Desk} (same : desk = monitor.desk serial) : Tally monitor serial none desk :=
  same ▸ .aside

private theorem tally_begin (separate : monitor.Separate) (start : Start) (identity : ResourceIdentity)
    (entering : List Start) :
    Tally monitor serial none (({ monitor with entering := entering }.begin start identity).desk serial) := by
  have unnumbered : monitor.observation? monitor.nextSerial = none := by
    refine List.find?_eq_none.mpr fun observation member => ?_
    simpa using Nat.ne_of_lt (separate.fits observation member).serial
  have unnumbered : ({ monitor with entering := entering } : Monitor).observation? monitor.nextSerial = none := unnumbered
  rw [desk_begin unnumbered]
  split
  · rename_i fresh
    exact .begun start identity fresh
  · exact .aside

/-- An observation is aborted before anything was attempted. -/
private theorem tally_abort (stepped : monitor.abort? number = some next) :
    Tally monitor serial none (next.desk serial) := by
  obtain ⟨observation, outcome, aborted, found, ended, watching, -, rfl, rfl⟩ := abort?_spec stepped
  obtain ⟨-, numbered⟩ := mem_active_of_observation? found
  subst numbered
  -- the observation is changed twice before it is taken out
  let aborted := { observation with
    aggregation := observation.aggregation.complete (.error (abortReason outcome)) }
  have foundAborted : (monitor.replace aborted).observation? observation.serial = some aborted :=
    observation?_replace found rfl
  rw [desk_finish, desk_write_aside (by simp [Entry.isCourse]), desk_enter foundAborted, desk_replace found]
  · split
    · rename_i same
      subst same
      exact .aborted observation found watching outcome (Aggregator.eq_ended_of_outcome? ended)
    · exact .aside
  · rfl

/-- An observation announces its tasks, or ends without any. -/
private theorem tally_report (stepped : monitor.report? number = some next) :
    Tally monitor serial none (next.desk serial) := by
  obtain ⟨observation, outcome, notice, reported, found, ended, stopped, unreported, aside, rfl, outcomes⟩ :=
    report?_spec stepped
  obtain ⟨-, numbered⟩ := mem_active_of_observation? found
  subst numbered
  have ended := Aggregator.eq_ended_of_outcome? ended
  have complete : observation.aggregation.complete (outcome.mapError Error.message) =
      ⟨some (outcome.mapError Error.message)⟩ := by
    simp [Completion.complete, unreported]
  rw [complete] at outcomes
  obtain ⟨disabled, rfl⟩ | ⟨enabled, rfl⟩ := outcomes
  · rw [desk_finish, desk_write_aside (by simpa using aside), desk_replace found]
    · split
      · rename_i same
        subst same
        exact .unserved observation found stopped unreported outcome ended disabled
      · exact .aside
    · rfl
  · rw [desk_write_aside (by simpa using aside), desk_replace found]
    · split
      · rename_i same
        subst same
        exact .announced observation found stopped unreported outcome ended enabled
      · exact .aside
    · rfl

private theorem tally_send (stepped : monitor.send? number = some next) :
    Tally monitor serial none (next.desk serial) := by
  obtain ⟨observation, service, rest, found, announced,
    ⟨-, -, queue, ⟨-, rfl⟩ | ⟨-, rfl⟩⟩ | ⟨closed, rfl⟩⟩ := send?_spec stepped
  all_goals have numbered := (mem_active_of_observation? found).2
  · have queued : { monitor with queue := queue }.observation? number = some observation := found
    rw [desk_replace queued]
    · split
      · rename_i same
        subst same
        exact .sent observation found service rest announced
      · exact .aside
    · exact numbered
  · exact .aside
  · have told : (monitor.write [.notice (.dropped ⟨observation.container, service⟩)]).observation? number =
        some observation := found
    rw [desk_concludeTask told, desk_write_aside (by simp [Entry.isCourse])]
    · split
      · rename_i same
        subst same
        exact .dropped observation found service rest announced closed
      · exact .aside
    · exact numbered

private theorem tally_take (separate : monitor.Separate) (stepped : monitor.take? = some next) :
    Tally monitor serial none (next.desk serial) := by
  obtain ⟨task, queue, idle, -, ⟨-, rfl⟩ | ⟨observation, observed, rfl⟩⟩ := take?_spec stepped
  · refine tally_aside ?_
    rw [desk_write, Desk.tell_of_silent]
    · rfl
    · simp [Entry.artifactOf?, Entry.recordOf?]
  · have found : { monitor with queue := queue }.observation? observation.serial = some observation :=
      separate.observation?_eq_some_iff.mpr ⟨List.mem_of_find?_eq_some observed, rfl⟩
    have worker : ({ monitor with queue := queue }.enter observation .pipelineRunning).worker = .idle := idle
    exact tally_aside ((desk_worker (by rw [worker]; rfl)).trans (desk_enter found .pipelineRunning))

/-- The worker is done with its task. -/
private theorem desk_done {task : Task} {entries : List Entry}
    (working : monitor.worker.task? = some (number, task)) (found : monitor.observation? number = some observation)
    (aside : ∀ entry ∈ entries, entry.isCourse = false) (failed : Bool) :
    (({ monitor with worker := .idle }.write entries).concludeTask observation failed).desk serial =
      if serial = number then { (monitor.desk serial).conclude observation failed with storing := none }
      else monitor.desk serial := by
  have same : ({ monitor with worker := .idle }.write entries).observation? number = some observation := found
  rw [desk_concludeTask same (mem_active_of_observation? found).2, desk_write_aside aside]
  by_cases own : serial = number
  · simp only [own, ↓reduceIte, Desk.conclude]
    split <;> rfl
  · have elsewhere : monitor.worker.storing? serial = none := by
      cases worker : monitor.worker with
      | absent | idle | preparing => rfl
      | storing other =>
        simp only [worker, Worker.task?, Option.some.injEq, Prod.mk.injEq] at working
        simp [Worker.storing?, working.1, Ne.symm own]
    simp only [own, ↓reduceIte]
    exact desk_worker elsewhere.symm

/-- The worker hands an artifact over, or has made an attempt in vain. -/
private theorem tally_prepare (stepped : monitor.prepare? = some next) :
    Tally monitor serial (monitor.attempt? serial .prepare) (next.desk serial) := by
  obtain ⟨number, task, observation, preparing, found, ⟨derived, derives, rfl⟩ | ⟨reason, derives, rfl⟩⟩ :=
    prepare?_spec stepped
  · have unnoticed : ∀ entry ∈ noticeOf derived, entry.artifactOf? serial = none ∧ entry.recordOf? serial = none := by
      unfold noticeOf
      split <;> simp [Entry.artifactOf?, Entry.recordOf?]
    have desk : Monitor.desk { monitor.write (noticeOf derived ++ [.offered number derived.artifact]) with
        worker := .storing number task derived.artifact monitor.now } serial =
      { (monitor.desk serial).tell serial [.offered number derived.artifact] with
        storing := if number = serial then some (task.service, derived.artifact) else none } := by
      rw [← (monitor.desk serial).tell_of_silent unnoticed, ← Desk.tell_append, ← desk_write]
      rfl
    rw [desk]
    by_cases same : number = serial
    · subst same
      have none : monitor.attempt? number .prepare = none := by simp [attempt?, preparing, found, derives]
      rw [none]
      simpa [Desk.tell, List.filterMap_cons, Entry.artifactOf?, Entry.recordOf?] using
        Tally.offered observation found task preparing derived derives
    · have none : monitor.attempt? serial .prepare = none := by simp [attempt?, preparing, same]
      rw [none]
      refine tally_aside ?_
      simp [Desk.tell, Entry.artifactOf?, Entry.recordOf?, same, Monitor.desk, preparing, Worker.storing?]
  · have working : monitor.worker.task? = some (number, task) := by simp [preparing, Worker.task?]
    rw [desk_done working found (by simp [Entry.isCourse])]
    split
    · rename_i same
      subst same
      have attempt : monitor.attempt? serial .prepare = some (.underived task.service reason) := by
        simp [attempt?, preparing, found, derives]
      rw [attempt]
      exact .underived observation found task preparing reason derives
    · rename_i differs
      have none : monitor.attempt? serial .prepare = none := by simp [attempt?, preparing, Ne.symm differs]
      rw [none]
      exact .aside

/-- With the answer of the store the attempt is made. -/
private theorem tally_stored {answer : Except String Unit} (stepped : monitor.stored? answer = some next) :
    Tally monitor serial (monitor.attempt? serial (.stored answer)) (next.desk serial) := by
  obtain ⟨number, task, artifact, since, observation, entries, failed, storing, found, fails, remarks, rfl⟩ :=
    stored?_spec stepped
  have working : monitor.worker.task? = some (number, task) := by simp [storing, Worker.task?]
  rw [desk_done working found (Entry.aside_of_remarks remarks)]
  split
  · rename_i same
    subst same
    have attempt : monitor.attempt? serial (.stored answer) = some (.answered task.service artifact answer) := by
      simp [attempt?, storing]
    have isFailed : (Attempt.answered task.service artifact answer).isFailed = failed := by
      cases answer <;> simp_all [Attempt.isFailed]
    rw [attempt]
    exact .answered observation found task artifact since storing answer failed isFailed
  · rename_i differs
    have none : monitor.attempt? serial (.stored answer) = none := by simp [attempt?, storing, Ne.symm differs]
    rw [none]
    exact .aside

/-- What an action does to the tasks of an observation, together with the attempt that it completes. -/
theorem tally_step (separate : monitor.Separate) (stepped : monitor.step? action = some next) (serial : Nat) :
    Tally monitor serial (monitor.attempt? serial action) (next.desk serial) := by
  cases action with
  | ingest line | exclude container | intrude container | elapse duration | forgetPod pod | retainPods pods =>
    obtain rfl := Option.some.inj stepped
    exact .aside
  | request start =>
    obtain rfl := Option.some.inj stepped
    unfold request
    split
    · exact tally_aside (desk_write_aside (by simp [Entry.isCourse]))
    · exact .aside
  | enroll index identity =>
    obtain ⟨start, -, ⟨-, rfl⟩ | ⟨-, rfl⟩⟩ := enroll?_spec stepped
    · exact tally_aside (desk_write_aside (by simp [Entry.isCourse]))
    · exact tally_begin separate start identity _
  | sbomReady number result =>
    obtain ⟨inquiry, entries, -, remarks, rfl⟩ := sbomReady?_spec stepped
    refine tally_aside ((desk_change fun observation => ?_).trans (desk_write_aside (Entry.aside_of_remarks remarks)))
    exact ⟨rfl, rfl⟩
  | vulnerabilitiesReady number result =>
    obtain ⟨inquiry, entries, -, remarks, rfl⟩ := vulnerabilitiesReady?_spec stepped
    refine tally_aside ((desk_change fun observation => ?_).trans (desk_write_aside (Entry.aside_of_remarks remarks)))
    exact ⟨rfl, rfl⟩
  | aggregate number move =>
    obtain ⟨observation, aggregator, after, found, -, rfl⟩ := aggregate?_spec stepped
    have same : { monitor with accumulator := after }.observation? number = some observation := found
    refine tally_aside (desk_replace_same same ?_ ?_)
    · exact (mem_active_of_observation? found).2
    · rfl
  | expire number =>
    obtain ⟨observation, found, -, -, rfl⟩ := expire?_spec stepped
    exact tally_aside (desk_enter found _)
  | abort number => exact tally_abort stepped
  | report number => exact tally_report stepped
  | send number => exact tally_send stepped
  | hire =>
    obtain ⟨owns, rfl⟩ := hire?_spec stepped
    simp only [ownsQueue, Bool.and_eq_true, decide_eq_true_eq] at owns
    exact tally_aside (desk_worker (by rw [owns.1]; rfl))
  | take => exact tally_take separate stepped
  | prepare => exact tally_prepare stepped
  | stored answer => exact tally_stored stepped
  | divert =>
    obtain ⟨⟨task, _⟩, diverted, rfl⟩ := Option.map_eq_some_iff.mp stepped
    obtain ⟨queue, -, taken, rfl⟩ := divert?_spec diverted
    exact .aside
  | closeQueue =>
    obtain ⟨-, rfl⟩ := closeQueue?_spec stepped
    exact .aside

end Monitor

end Observatory
