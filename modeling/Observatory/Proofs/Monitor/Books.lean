import Observatory.Proofs.Monitor.Step
import Mathlib.Logic.Relation

/-! # The books of a monitor

What becomes of an observation and its tasks depends on a small part of a monitor: the running
observations, the tasks in the queue and at the worker, and what has been written about them. The books
are that part. Main statement: whatever a monitor does, its books are kept by one of a few turns, as long
as the queue is open and nobody but the worker takes tasks out of it; what happens otherwise stands apart.
-/

namespace Observatory

/-- The task that a worker has taken, with the number of its observation. -/
def Worker.task? : Worker → Option (Nat × Task)
  | .absent | .idle => none
  | .preparing serial task | .storing serial task _ _ => some (serial, task)

structure Books where
  services : List Service
  isOpen : Bool
  nextSerial : Nat
  active : List Observation
  tasks : List Task
  working : Option (Nat × Task)
  retention : Retention
  course : List Entry

namespace Books

def replace (books : Books) (observation : Observation) : Books :=
  { books with
    active := books.active.map fun other =>
      if other.serial = observation.serial then observation else other }

def write (books : Books) (entries : List Entry) : Books :=
  { books with course := books.course ++ entries }

def begin (books : Books) (start : Start) (identity : ResourceIdentity) (deadline : Nat) : Books :=
  { books with
    nextSerial := books.nextSerial + 1
    active := books.active ++
      [{ Observation.ofStart books.nextSerial start identity deadline with phase := .watching }]
    course := books.course ++ [.phase books.nextSerial .starting, .phase books.nextSerial .watching] }

/-- The record of an observation that ends. -/
def recordOf (observation : Observation) (outcome : Outcome) : Record :=
  ⟨observation.container, observation.start.pod, observation.resourceName, outcome⟩

def finish (books : Books) (observation : Observation) (outcome : Outcome) : Books :=
  { books with
    active := books.active.filter (·.serial ≠ observation.serial)
    retention := books.retention.push (recordOf observation outcome)
    course := books.course ++
      [.phase observation.serial .done, .finished observation.serial (recordOf observation outcome)] }

/-- How the books are kept. -/
inductive Turn (books : Books) : Books → Prop
  | kept : Turn books books
  | begun (start : Start) (identity : ResourceIdentity) (deadline : Nat)
      (unobserved : ∀ observation ∈ books.active, observation.container ≠ start.container) :
      Turn books (books.begin start identity deadline)
  /-- A scan has its result, or the aggregator has moved. -/
  | amended (old : Observation) (member : old ∈ books.active) (aggregator : Aggregation.Aggregator)
      (sbom : Completion Sbom) (vulnerabilities : Completion VulnerabilityReport) :
      Turn books (books.replace
        { old with aggregator := aggregator, sbom := sbom, vulnerabilities := vulnerabilities })
  | expired (old : Observation) (member : old ∈ books.active) (watching : old.phase = .watching) :
      Turn books ((books.replace { old with phase := .stoppedByTimer }).write
        [.phase old.serial .stoppedByTimer])
  | aborted (old : Observation) (member : old ∈ books.active) (watching : old.phase = .watching)
      (reason : String) :
      Turn books ((books.write [.phase old.serial .stoppedByOverflow]).finish old (.aborted reason))
  /-- The aggregation has its result, and the tasks are announced. -/
  | reported (old : Observation) (member : old ∈ books.active) (stopped : old.phase = .stoppedByTimer)
      (unreported : old.aggregation.result = none) (result : Except String Aggregation.Report)
      (enabled : books.services ≠ []) :
      Turn books (books.replace
        { old with aggregation := ⟨some result⟩, unsent := books.services, pendingTasks := books.services.length })
  | completed (old : Observation) (member : old ∈ books.active) (stopped : old.phase = .stoppedByTimer)
      (unreported : old.aggregation.result = none) (disabled : books.services = []) :
      Turn books (books.finish old (.completed 0))
  | sent (old : Observation) (member : old ∈ books.active) (service : Service) (rest : List Service)
      (announced : old.unsent = service :: rest) :
      Turn books { books.replace { old with unsent := rest } with
        tasks := books.tasks ++ [⟨old.container, service⟩] }
  | taken (old : Observation) (member : old ∈ books.active) (task : Task) (rest : List Task)
      (idle : books.working = none) (first : books.tasks = task :: rest)
      (own : old.container = task.container) :
      Turn books { (books.replace { old with phase := .pipelineRunning }).write
          (if old.phase = .pipelineRunning then [] else [.phase old.serial .pipelineRunning]) with
        tasks := rest, working := some (old.serial, task) }
  | unexpected (task : Task) (rest : List Task) (idle : books.working = none) (first : books.tasks = task :: rest)
      (unobserved : ∀ observation ∈ books.active, observation.container ≠ task.container) :
      Turn books { books.write [.notice (.unexpected task)] with tasks := rest }
  | offered (old : Observation) (member : old ∈ books.active) (task : Task)
      (working : books.working = some (old.serial, task)) (derived : Observation.Derived)
      (derives : old.derive? task.service = some (.ok derived)) :
      Turn books (books.write [.offered old.serial derived.artifact])
  /-- A task is done, and others of its observation are not. -/
  | concluded (old : Observation) (member : old ∈ books.active) (task : Task)
      (working : books.working = some (old.serial, task)) (failed : Bool) (more : old.pendingTasks ≠ 1) :
      Turn books { books.replace (old.taskDone failed).1 with working := none }
  | ended (old : Observation) (member : old ∈ books.active) (task : Task)
      (working : books.working = some (old.serial, task)) (failed : Bool) (last : old.pendingTasks = 1) :
      Turn books ({ books with working := none }.finish (old.taskDone failed).1
        (.completed (old.taskDone failed).1.failedTasks))

/-- How the books are kept when somebody else takes a task out of the queue, or has ended it. -/
inductive Breach (books : Books) : Books → Prop
  | diverted (task : Task) (rest : List Task) (first : books.tasks = task :: rest) :
      Breach books { books with tasks := rest }
  | closed : Breach books { books with isOpen := false, tasks := [] }
  | dropped (old : Observation) (member : old ∈ books.active) (service : Service) (rest : List Service)
      (announced : old.unsent = service :: rest) (more : old.pendingTasks ≠ 1) :
      Breach books (books.replace ({ old with unsent := rest }.taskDone true).1)
  | droppedLast (old : Observation) (member : old ∈ books.active) (service : Service) (rest : List Service)
      (announced : old.unsent = service :: rest) (last : old.pendingTasks = 1) :
      Breach books (books.finish ({ old with unsent := rest }.taskDone true).1
        (.completed (old.failedTasks + 1)))

/-- What is enabled and whether the queue is open is settled before the first turn. -/
theorem Turn.frame {books next : Books} (turn : Turn books next) :
    next.services = books.services ∧ next.isOpen = books.isOpen := by
  cases turn <;> exact ⟨rfl, rfl⟩

/-- No turn changes which services are enabled, nor closes the queue. -/
theorem frame_of_turns {books next : Books} (turns : Relation.ReflTransGen Turn books next) :
    next.services = books.services ∧ next.isOpen = books.isOpen := by
  induction turns with
  | refl => exact ⟨rfl, rfl⟩
  | tail _ turn ih => exact ⟨turn.frame.1.trans ih.1, turn.frame.2.trans ih.2⟩

theorem write_replace (books : Books) (observation : Observation) (entries : List Entry) :
    (books.replace observation).write entries = (books.write entries).replace observation := rfl

/-- The observation that ends need not be changed before. -/
theorem finish_replace (books : Books) {old new : Observation} (same : new.serial = old.serial)
    (outcome : Outcome) : (books.replace new).finish old outcome = books.finish old outcome := by
  simp only [finish, replace, ← same, Monitor.filter_map_replace]

end Books

namespace TaskQueue

variable {queue after : TaskQueue} {sender : Nat} {task : Task}

/-- A task that is accepted is the last one in the queue. -/
theorem tasks_of_accepted (offered : queue.offer sender task = (after, true)) :
    after.tasks = queue.tasks ++ [task] ∧ after.isOpen = queue.isOpen := by
  unfold offer at offered
  split at offered
  · obtain ⟨rfl, -⟩ := Prod.mk.inj offered
    exact ⟨rfl, rfl⟩
  · split at offered
    · obtain ⟨rfl, -⟩ := Prod.mk.inj offered
      exact ⟨rfl, rfl⟩
    · exact absurd (Prod.mk.inj offered).2 (by simp)

theorem tasks_of_refused (offered : queue.offer sender task = (after, false)) :
    after.tasks = queue.tasks ∧ after.isOpen = queue.isOpen := by
  unfold offer at offered
  split at offered
  · exact absurd (Prod.mk.inj offered).2 (by simp)
  · split at offered
    · exact absurd (Prod.mk.inj offered).2 (by simp)
    · obtain ⟨rfl, -⟩ := Prod.mk.inj offered
      exact ⟨rfl, rfl⟩

/-- The first task in the queue is taken. -/
theorem tasks_of_take? (taken : queue.take? = some (task, after)) :
    queue.tasks = task :: after.tasks ∧ after.isOpen = queue.isOpen := by
  unfold take? at taken
  split at taken
  · contradiction
  · rename_i first rest waiting
    split at taken <;>
      · obtain ⟨rfl, rfl⟩ := Prod.mk.inj (Option.some.inj taken)
        exact ⟨waiting, rfl⟩

end TaskQueue

namespace Monitor

variable {monitor next : Monitor} {action : Action} {observation : Observation}

def books (monitor : Monitor) : Books where
  services := monitor.policy.services.toList
  isOpen := monitor.queue.isOpen
  nextSerial := monitor.nextSerial
  active := monitor.active
  tasks := monitor.queue.tasks
  working := monitor.worker.task?
  retention := monitor.retention
  course := monitor.journal.filter Entry.isCourse

/-- The books keep what belongs to the course of an observation. -/
theorem books_write (monitor : Monitor) (entries : List Entry) :
    (monitor.write entries).books = monitor.books.write (entries.filter Entry.isCourse) := by
  simp [books, write, Books.write]

/-- Entries beside the course leave the books as they are. -/
theorem books_write_aside {entries : List Entry} (aside : ∀ entry ∈ entries, entry.isCourse = false) :
    (monitor.write entries).books = monitor.books := by
  have none : entries.filter Entry.isCourse = [] := by simpa using aside
  simp [books_write, none, Books.write]

theorem books_replace (monitor : Monitor) (observation : Observation) :
    (monitor.replace observation).books = monitor.books.replace observation := rfl

/-- A phase that is entered stands in the books. -/
theorem books_enter (monitor : Monitor) (observation : Observation) (phase : Phase) :
    (monitor.enter observation phase).books = (monitor.books.replace { observation with phase := phase }).write
      (if observation.phase = phase then [] else [.phase observation.serial phase]) := by
  unfold enter
  dsimp only
  split
  · rw [books_write]
    rfl
  · rw [books_write]
    rfl

theorem books_finish (monitor : Monitor) (observation : Observation) (outcome : Outcome) :
    (monitor.finish observation outcome).books = monitor.books.finish observation outcome := by
  simp [books, finish, Books.finish, Books.recordOf, Entry.isCourse]

theorem books_begin (monitor : Monitor) (start : Start) (identity : ResourceIdentity) :
    (monitor.begin start identity).books =
      monitor.books.begin start identity (monitor.now + monitor.policy.window) := by
  have silent (inquiries : List Inquiry) : (inquiries.map fun inquiry =>
      Entry.scan inquiry.scan start.image start.credentials).filter Entry.isCourse = [] := by
    simp [Entry.isCourse]
  simp only [books, begin, Books.begin, List.filter_append, silent]
  simp [Entry.isCourse]

/-- With its last task the observation ends, and otherwise it has one task less to do. -/
theorem books_concludeTask (monitor : Monitor) (observation : Observation) (failed : Bool) :
    (monitor.concludeTask observation failed).books =
      if observation.pendingTasks = 1 then
        monitor.books.finish (observation.taskDone failed).1
          (.completed (observation.taskDone failed).1.failedTasks)
      else monitor.books.replace (observation.taskDone failed).1 := by
  by_cases last : observation.pendingTasks = 1
  · have conclude : monitor.concludeTask observation failed =
        (monitor.replace (observation.taskDone failed).1).finish (observation.taskDone failed).1
          (.completed (observation.taskDone failed).1.failedTasks) := by
      simp [concludeTask, Observation.taskDone, last]
    rw [conclude, books_finish, books_replace, Books.finish_replace _ rfl, if_pos last]
  · have conclude : monitor.concludeTask observation failed =
        monitor.replace (observation.taskDone failed).1 := by
      simp [concludeTask, Observation.taskDone, last]
    rw [conclude, books_replace, if_neg last]

theorem books_change (monitor : Monitor) (serial : Nat) (f : Observation → Observation) :
    (monitor.observation? serial = none ∧ (monitor.change serial f).books = monitor.books) ∨
      ∃ observation, monitor.observation? serial = some observation ∧
        (monitor.change serial f).books = monitor.books.replace (f observation) := by
  unfold change
  cases found : monitor.observation? serial with
  | none => exact .inl ⟨rfl, rfl⟩
  | some observation => exact .inr ⟨observation, rfl, rfl⟩

/-! ## Steps -/

private theorem ne_container_of_observing? {container : ContainerId}
    (unobserved : monitor.observing? container = none) :
    ∀ observation ∈ monitor.active, observation.container ≠ container := by
  intro observation member
  simpa using List.find?_eq_none.mp unobserved observation member

/-- A task that is done leaves the worker idle, and its observation with one task less, or at its end. -/
private theorem turn_concludeTask {serial : Nat} {task : Task} {base : Monitor}
    (found : monitor.observation? serial = some observation)
    (working : monitor.worker.task? = some (serial, task)) (failed : Bool)
    (same : base.books = { monitor.books with working := none }) :
    Books.Turn monitor.books (base.concludeTask observation failed).books := by
  obtain ⟨member, rfl⟩ := mem_active_of_observation? found
  rw [books_concludeTask, same]
  split
  · rename_i last
    exact .ended observation member task working failed last
  · rename_i more
    exact .concluded observation member task working failed more

private theorem turn_change {serial : Nat} {f : Observation → Observation} {base : Monitor}
    (same : base.books = monitor.books)
    (amends : ∀ observation, ∃ sbom vulnerabilities, f observation =
      { observation with sbom := sbom, vulnerabilities := vulnerabilities }) :
    Books.Turn monitor.books (base.change serial f).books := by
  obtain ⟨-, unchanged⟩ | ⟨observation, found, changed⟩ := books_change base serial f
  · rw [unchanged, same]
    exact .kept
  · obtain ⟨sbom, vulnerabilities, amended⟩ := amends observation
    have member : observation ∈ monitor.books.active := same ▸ (mem_active_of_observation? found).1
    rw [changed, same, amended]
    exact .amended observation member observation.aggregator sbom vulnerabilities

private theorem turn_abort {serial : Nat}
    (stepped : monitor.abort? serial = some next) : Books.Turn monitor.books next.books := by
  obtain ⟨observation, outcome, aborted, found, -, watching, -, rfl, rfl⟩ := abort?_spec stepped
  rw [books_finish, books_write_aside (by simp [Entry.isCourse]), books_enter, if_neg (by simp [watching]),
    books_replace]
  -- the observation is changed twice before it is taken out
  rw [Books.write_replace, Books.write_replace, Books.finish_replace, Books.finish_replace]
  · exact .aborted observation (mem_active_of_observation? found).1 watching (abortReason outcome)
  · rfl
  · rfl

/-- An observation that reports announces its tasks, or ends without any. -/
private theorem turn_report {serial : Nat} (stepped : monitor.report? serial = some next) :
    Books.Turn monitor.books next.books := by
  obtain ⟨observation, outcome, notice, reported, found, -, stopped, unreported, aside, rfl, outcomes⟩ :=
    report?_spec stepped
  have member : observation ∈ monitor.books.active := (mem_active_of_observation? found).1
  have complete : observation.aggregation.complete (outcome.mapError Aggregation.Error.message) =
      ⟨some (outcome.mapError Aggregation.Error.message)⟩ := by
    simp [Completion.complete, unreported]
  rw [complete] at outcomes
  obtain ⟨disabled, rfl⟩ | ⟨enabled, rfl⟩ := outcomes
  · rw [books_finish, books_write_aside (by simpa using aside), books_replace, Books.finish_replace _ rfl]
    exact .completed observation member stopped unreported disabled
  · rw [books_write_aside (by simpa using aside), books_replace]
    exact .reported observation member stopped unreported _ enabled

/-- A task goes from its observation into the queue, unless the queue is closed. -/
private theorem turn_send {serial : Nat} (stepped : monitor.send? serial = some next) :
    Books.Turn monitor.books next.books ∨
      monitor.books.isOpen = false ∧ Books.Breach monitor.books next.books := by
  obtain ⟨observation, service, rest, found, announced,
    ⟨-, -, queue, ⟨offered, rfl⟩ | ⟨refused, rfl⟩⟩ | ⟨closed, rfl⟩⟩ := send?_spec stepped
  all_goals have member : observation ∈ monitor.books.active := (mem_active_of_observation? found).1
  · have turn : Books.Turn monitor.books _ := .sent observation member service rest announced
    obtain ⟨tasks, opens⟩ := TaskQueue.tasks_of_accepted offered
    have same : ({ monitor with queue := queue }.replace { observation with unsent := rest }).books =
        { monitor.books.replace { observation with unsent := rest } with
          tasks := monitor.books.tasks ++ [⟨observation.container, service⟩] } := by
      simp only [books, replace, Books.replace, tasks, opens]
    exact .inl (same ▸ turn)
  · obtain ⟨tasks, opens⟩ := TaskQueue.tasks_of_refused refused
    have same : { monitor with queue := queue }.books = monitor.books := by simp only [books, tasks, opens]
    exact .inl (same ▸ .kept)
  · refine .inr ⟨closed, ?_⟩
    rw [books_concludeTask, books_write_aside (by simp [Entry.isCourse])]
    split
    · rename_i last
      exact .droppedLast observation member service rest announced last
    · rename_i more
      exact .dropped observation member service rest announced more

/-- The worker takes a task of an observation, or one that nobody has. -/
private theorem turn_take (stepped : monitor.take? = some next) :
    Books.Turn monitor.books next.books := by
  obtain ⟨task, queue, idle, taken, ⟨unobserved, rfl⟩ | ⟨observation, observed, rfl⟩⟩ := take?_spec stepped
  all_goals
    have first : monitor.books.tasks = task :: queue.tasks := (TaskQueue.tasks_of_take? taken).1
    have free : monitor.books.working = none := by simp [books, idle, Worker.task?]
    have after : { monitor with queue := queue }.books = { monitor.books with tasks := queue.tasks } := by
      simp only [books, (TaskQueue.tasks_of_take? taken).2]
  · have turn : Books.Turn monitor.books _ :=
      .unexpected task queue.tasks free first (ne_container_of_observing? unobserved)
    rw [books_write, after]
    exact turn
  · have member : observation ∈ monitor.books.active := List.mem_of_find?_eq_some observed
    have own : observation.container = task.container := by simpa using List.find?_some observed
    have turn : Books.Turn monitor.books _ :=
      .taken observation member task queue.tasks free first own
    have entered := books_enter { monitor with queue := queue } observation .pipelineRunning
    have same : Monitor.books { { monitor with queue := queue }.enter observation .pipelineRunning with
        worker := .preparing observation.serial task } =
      { ({ monitor with queue := queue }.enter observation .pipelineRunning).books with
        working := some (observation.serial, task) } := rfl
    rw [same, entered, after]
    exact turn

/-- The worker hands over an artifact, or is done with the task. -/
private theorem turn_prepare (stepped : monitor.prepare? = some next) :
    Books.Turn monitor.books next.books := by
  obtain ⟨serial, task, observation, busy, found, ⟨derived, derives, rfl⟩ | ⟨reason, -, rfl⟩⟩ :=
    prepare?_spec stepped
  all_goals
    have working : monitor.books.working = some (serial, task) := by simp [books, busy, Worker.task?]
  · obtain ⟨member, rfl⟩ := mem_active_of_observation? found
    have turn : Books.Turn monitor.books _ :=
      .offered observation member task working derived derives
    have written : (noticeOf derived ++ [Entry.offered observation.serial derived.artifact]).filter Entry.isCourse =
        [.offered observation.serial derived.artifact] := by
      unfold noticeOf
      split <;> simp [Entry.isCourse]
    have same (entries : List Entry) : Monitor.books { monitor.write entries with
        worker := .storing observation.serial task derived.artifact monitor.now } =
      { (monitor.write entries).books with working := some (observation.serial, task) } := rfl
    rw [same, books_write, written, ← working]
    exact turn
  · refine turn_concludeTask found working true ?_
    rw [books_write_aside (by simp [Entry.isCourse])]
    rfl

/-- Every action is a turn in the books, unless something else touches the queue. -/
theorem books_step (stepped : monitor.step? action = some next) :
    Books.Turn monitor.books next.books ∨
      (action = .divert ∨ action = .closeQueue ∨ monitor.books.isOpen = false) ∧
        Books.Breach monitor.books next.books := by
  cases action with
  | ingest line | exclude container | intrude container | elapse duration | forgetPod pod | retainPods pods =>
    obtain rfl := Option.some.inj stepped
    exact .inl .kept
  | request start =>
    obtain rfl := Option.some.inj stepped
    unfold request
    split
    · rw [books_write_aside (by simp [Entry.isCourse])]
      exact .inl .kept
    · exact .inl .kept
  | enroll index identity =>
    obtain ⟨start, -, ⟨-, rfl⟩ | ⟨unobserved, rfl⟩⟩ := enroll?_spec stepped
    · rw [books_write_aside (by simp [Entry.isCourse])]
      exact .inl .kept
    · rw [books_begin]
      exact .inl (.begun start identity _ (ne_container_of_observing? unobserved))
  | sbomReady serial result =>
    obtain ⟨inquiry, entries, -, remarks, rfl⟩ := sbomReady?_spec stepped
    exact .inl (turn_change (books_write_aside (Entry.aside_of_remarks remarks)) fun observation => ⟨_, _, rfl⟩)
  | vulnerabilitiesReady serial result =>
    obtain ⟨inquiry, entries, -, remarks, rfl⟩ := vulnerabilitiesReady?_spec stepped
    exact .inl (turn_change (books_write_aside (Entry.aside_of_remarks remarks)) fun observation => ⟨_, _, rfl⟩)
  | aggregate serial move =>
    obtain ⟨observation, aggregator, after, found, -, rfl⟩ := aggregate?_spec stepped
    exact .inl (.amended observation (mem_active_of_observation? found).1 aggregator _ _)
  | expire serial =>
    obtain ⟨observation, found, watching, -, rfl⟩ := expire?_spec stepped
    rw [books_enter, if_neg (by simp [watching])]
    exact .inl (.expired observation (mem_active_of_observation? found).1 watching)
  | abort serial => exact .inl (turn_abort stepped)
  | report serial => exact .inl (turn_report stepped)
  | send serial =>
    obtain turn | ⟨closed, breach⟩ := turn_send stepped
    · exact .inl turn
    · exact .inr ⟨.inr (.inr closed), breach⟩
  | hire =>
    obtain ⟨owns, rfl⟩ := hire?_spec stepped
    simp only [ownsQueue, Bool.and_eq_true, decide_eq_true_eq] at owns
    have same : { monitor with worker := .idle }.books = monitor.books := by
      simp only [books, owns.1, Worker.task?]
    exact .inl (same ▸ .kept)
  | take => exact .inl (turn_take stepped)
  | prepare => exact .inl (turn_prepare stepped)
  | stored result =>
    obtain ⟨serial, task, artifact, since, observation, entries, failed, busy, found, -, remarks, rfl⟩ :=
      stored?_spec stepped
    have working : monitor.worker.task? = some (serial, task) := by simp [busy, Worker.task?]
    refine .inl (turn_concludeTask found working failed ?_)
    rw [books_write_aside (Entry.aside_of_remarks remarks)]
    rfl
  | divert =>
    obtain ⟨⟨task, _⟩, diverted, rfl⟩ := Option.map_eq_some_iff.mp stepped
    obtain ⟨queue, -, taken, rfl⟩ := divert?_spec diverted
    obtain ⟨first, opens⟩ := TaskQueue.tasks_of_take? taken
    have same : { monitor with queue := queue }.books = { monitor.books with tasks := queue.tasks } := by
      simp only [books, opens]
    exact .inr ⟨.inl rfl, same ▸ .diverted task queue.tasks first⟩
  | closeQueue =>
    obtain ⟨-, rfl⟩ := closeQueue?_spec stepped
    exact .inr ⟨.inr (.inl rfl), .closed⟩

/-- In a run in which only the worker takes tasks out of the queue, the books are kept by turns. -/
theorem turns_of_run {actions : List Action} (isOpen : monitor.books.isOpen = true)
    (undiverted : .divert ∉ actions) (unclosed : .closeQueue ∉ actions) (runs : monitor.run? actions = some next) :
    Relation.ReflTransGen Books.Turn monitor.books next.books := by
  induction actions generalizing monitor with
  | nil => exact Option.some.inj runs ▸ .refl
  | cons action rest ih =>
    obtain ⟨middle, stepped, runs⟩ := Option.bind_eq_some_iff.mp runs
    rw [List.mem_cons, not_or] at undiverted unclosed
    rcases books_step stepped with turn | ⟨diverted | closed | ended, -⟩
    · exact .head turn (ih (turn.frame.2.trans isOpen) undiverted.2 unclosed.2 runs)
    · exact absurd diverted.symm undiverted.1
    · exact absurd closed.symm unclosed.1
    · exact absurd (isOpen.symm.trans ended) (by decide)

end Monitor

end Observatory
