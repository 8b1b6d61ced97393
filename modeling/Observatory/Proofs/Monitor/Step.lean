import Observatory.Proofs.Monitor.Findings
import Observatory.Proofs.Monitor.Move
import Mathlib.Data.List.Pairwise

/-! # Steps of a monitor

What an action does, said once for all that is proved about runs. The accumulator changes by the
operations of the action alone. Of the observations, at most one is changed, begun or ended.
-/

namespace Observatory

/-- The entry tells of the course of an observation, or of a task without one. -/
def Entry.isCourse : Entry → Bool
  | .phase .. | .offered .. | .finished .. | .notice (.unexpected _) => true
  | _ => false

/-- The entry remarks on a scan or on the store. -/
def Entry.isRemark : Entry → Bool
  | .stored _ | .notice (.sbomFailed ..) | .notice (.scanFailed ..) | .notice (.stored ..)
  | .notice (.taskFailed ..) => true
  | _ => false

/-- Remarks stand beside the course of an observation. -/
theorem Entry.aside_of_remarks {entries : List Entry} (remarks : ∀ entry ∈ entries, entry.isRemark = true) :
    ∀ entry ∈ entries, entry.isCourse = false := by
  intro entry member
  have remark := remarks entry member
  unfold isRemark at remark
  split at remark <;> first | rfl | contradiction

namespace Monitor

open Accumulator Aggregation Trace

variable {monitor next base : Monitor} {action : Action} {old new observation : Observation}

/-! ## Frames -/

theorem filter_map_replace (active : List Observation) (observation : Observation) :
    (active.map fun other => if other.serial = observation.serial then observation else other).filter
        (·.serial ≠ observation.serial) =
      active.filter (·.serial ≠ observation.serial) := by
  induction active with
  | nil => rfl
  | cons other rest ih =>
    by_cases same : other.serial = observation.serial
    · simpa [same] using ih
    · simpa [same] using ih

/-- An observation that is changed is found where it was, and so are the others. -/
theorem find?_map_replace (active : List Observation) (new : Observation) (serial : Nat) :
    (active.map fun other => if other.serial = new.serial then new else other).find? (·.serial = serial) =
      (active.find? (·.serial = serial)).map fun other => if serial = new.serial then new else other := by
  induction active with
  | nil => rfl
  | cons other rest ih =>
    rw [List.map_cons, List.find?_cons, List.find?_cons, ih]
    by_cases own : other.serial = serial
    · subst own
      by_cases same : other.serial = new.serial <;> simp [same]
    · by_cases same : other.serial = new.serial
      · have elsewhere : ¬new.serial = serial := same ▸ own
        simp [same, elsewhere]
      · simp [same, own]

/-- Observations that stay apart from each other do so when one of them is changed, if the changed one does. -/
theorem pairwise_map_replace {Apart : Observation → Observation → Prop} [symmetric : Std.Symm Apart]
    {active : List Observation} (apart : active.Pairwise Apart)
    (numbered : ∀ {observation other}, Apart observation other → observation.serial ≠ other.serial)
    (member : old ∈ active) (serial : new.serial = old.serial)
    (revised : ∀ other ∈ active, Apart old other → Apart new other) :
    (active.map fun other => if other.serial = new.serial then new else other).Pairwise Apart := by
  -- no other observation has the number of the old one
  have isOld {other : Observation} (memberOther : other ∈ active) (same : other.serial = new.serial) :
      other = old := by
    by_contra differ
    exact numbered (apart.forall memberOther member differ) (same.trans serial)
  refine List.pairwise_map.mpr (apart.imp_of_mem fun {first second} memberFirst memberSecond apart => ?_)
  split <;> split
  · rename_i isFirst isSecond
    exact absurd (isFirst.trans isSecond.symm) (numbered apart)
  · rename_i isFirst _
    obtain rfl := isOld memberFirst isFirst
    exact revised second memberSecond apart
  · rename_i _ isSecond
    obtain rfl := isOld memberSecond isSecond
    exact symmetric.symm _ _ (revised first memberFirst (symmetric.symm _ _ apart))
  · exact apart

/-- The observation that ends need not be changed before. -/
theorem filter_active_replace (monitor : Monitor) (observation : Observation) :
    (monitor.replace observation).active.filter (·.serial ≠ observation.serial) =
      monitor.active.filter (·.serial ≠ observation.serial) :=
  filter_map_replace monitor.active observation

@[simp] theorem accumulator_concludeTask (monitor : Monitor) (observation : Observation) (failed : Bool) :
    (monitor.concludeTask observation failed).accumulator = monitor.accumulator := by
  unfold concludeTask
  dsimp only
  split <;> rfl

@[simp] theorem nextSerial_concludeTask (monitor : Monitor) (observation : Observation) (failed : Bool) :
    (monitor.concludeTask observation failed).nextSerial = monitor.nextSerial := by
  unfold concludeTask
  dsimp only
  split <;> rfl

@[simp] theorem accumulator_change (monitor : Monitor) (serial : Nat) (f : Observation → Observation) :
    (monitor.change serial f).accumulator = monitor.accumulator := by
  unfold change
  split <;> rfl

/-! ## What each action needs and does -/

/-- A start that has its identity begins an observation, or is refused because there is one meanwhile. -/
theorem enroll?_spec {index : Nat} {identity : ResourceIdentity}
    (stepped : monitor.enroll? index identity = some next) :
    ∃ start, monitor.entering[index]? = some start ∧
      ((monitor.observing? start.container).isSome = true ∧
          next = { monitor with entering := monitor.entering.eraseIdx index }.write
            [.answered start.container false] ∨
        monitor.observing? start.container = none ∧
          next = { monitor with entering := monitor.entering.eraseIdx index }.begin start identity) := by
  simp only [enroll?, Option.bind_eq_bind, Option.bind_eq_some_iff, Option.pure_def] at stepped
  obtain ⟨start, entering, stepped⟩ := stepped
  refine ⟨start, entering, ?_⟩
  split at stepped
  · rename_i running
    exact .inl ⟨running, (Option.some.inj stepped).symm⟩
  · rename_i unobserved
    exact .inr ⟨Option.not_isSome_iff_eq_none.mp unobserved, (Option.some.inj stepped).symm⟩

private theorem answer?_spec {serial : Nat} {scan : Scan} {inquiry : Inquiry} {answered : Monitor}
    (answers : monitor.answer? serial scan = some (inquiry, answered)) :
    (monitor.inquiries.find? fun inquiry => inquiry.serial = serial && inquiry.scan = scan) = some inquiry ∧
      answered = { monitor with inquiries := monitor.inquiries.erase inquiry } := by
  obtain ⟨_, found, same⟩ := Option.bind_eq_some_iff.mp answers
  obtain ⟨rfl, rfl⟩ := Prod.mk.inj (Option.some.inj same)
  exact ⟨found, rfl⟩

/-- A list of packages answers an open inquiry, and the observation keeps the result. -/
theorem sbomReady?_spec {serial : Nat} {result : Except String Sbom}
    (stepped : monitor.sbomReady? serial result = some next) :
    ∃ inquiry entries,
      (monitor.inquiries.find? fun inquiry => inquiry.serial = serial && inquiry.scan = .sbom) = some inquiry ∧
      (∀ entry ∈ entries, entry.isRemark = true) ∧
      next = ({ monitor with inquiries := monitor.inquiries.erase inquiry }.write entries).change serial
        fun observation => { observation with sbom := observation.sbom.complete result } := by
  obtain ⟨⟨inquiry, _⟩, answers, same⟩ := Option.bind_eq_some_iff.mp stepped
  obtain ⟨found, rfl⟩ := answer?_spec answers
  obtain rfl := Option.some.inj same
  cases result with
  | error reason => exact ⟨inquiry, _, found, by simp [Entry.isRemark], rfl⟩
  | ok sbom =>
    refine ⟨inquiry, [], found, by simp, ?_⟩
    simp [write]

/-- A report answers an open inquiry, and the observation keeps the result. -/
theorem vulnerabilitiesReady?_spec {serial : Nat} {result : Except String VulnerabilityReport}
    (stepped : monitor.vulnerabilitiesReady? serial result = some next) :
    ∃ inquiry entries,
      (monitor.inquiries.find? fun inquiry => inquiry.serial = serial && inquiry.scan = .vulnerabilities) =
        some inquiry ∧
      (∀ entry ∈ entries, entry.isRemark = true) ∧
      next = ({ monitor with inquiries := monitor.inquiries.erase inquiry }.write entries).change serial
        fun observation =>
          { observation with vulnerabilities := observation.vulnerabilities.complete result } := by
  obtain ⟨⟨inquiry, _⟩, answers, same⟩ := Option.bind_eq_some_iff.mp stepped
  obtain ⟨found, rfl⟩ := answer?_spec answers
  obtain rfl := Option.some.inj same
  cases result with
  | error reason => exact ⟨inquiry, _, found, by simp [Entry.isRemark], rfl⟩
  | ok report =>
    refine ⟨inquiry, [], found, by simp, ?_⟩
    simp [write]

/-- An aggregator moves by one of its moves, and nothing else of the observation changes. -/
theorem aggregate?_spec {serial : Nat} {move : Move} (stepped : monitor.aggregate? serial move = some next) :
    ∃ observation aggregator after, monitor.observation? serial = some observation ∧
      Moved observation.container observation.isStopped monitor.accumulator move observation.aggregator aggregator
        after ∧
      next = { monitor with accumulator := after }.replace { observation with aggregator := aggregator } := by
  simp only [aggregate?, Option.bind_eq_bind, Option.bind_eq_some_iff, Option.pure_def, Option.some.injEq,
    Prod.exists] at stepped
  obtain ⟨observation, found, aggregator, after, moves, rfl⟩ := stepped
  exact ⟨observation, aggregator, after, found, moved_of_moveAggregator? moves, rfl⟩

/-- An observation is stopped when it is due. -/
theorem expire?_spec {serial : Nat} (stepped : monitor.expire? serial = some next) :
    ∃ observation, monitor.observation? serial = some observation ∧ observation.phase = .watching ∧
      observation.deadline ≤ monitor.now ∧ next = monitor.enter observation .stoppedByTimer := by
  simp only [expire?, Option.bind_eq_bind, Option.bind_eq_some_iff, Option.pure_def] at stepped
  obtain ⟨observation, found, stepped⟩ := stepped
  split at stepped
  · rename_i due
    simp only [Bool.and_eq_true, decide_eq_true_eq] at due
    exact ⟨observation, found, due.1, due.2, (Option.some.inj stepped).symm⟩
  · contradiction

/-- An observation whose aggregation ends too early is recorded as aborted, and ends. -/
theorem abort?_spec {serial : Nat} (stepped : monitor.abort? serial = some next) :
    ∃ observation outcome aborted, monitor.observation? serial = some observation ∧
      observation.aggregator.outcome? = some outcome ∧ observation.phase = .watching ∧
      monitor.now < observation.deadline ∧
      aborted = { observation with
        aggregation := observation.aggregation.complete (.error (abortReason outcome)) } ∧
      next = (((monitor.replace aborted).enter aborted .stoppedByOverflow).write
        [.notice (.aborted observation.container (abortReason outcome))]).finish aborted
          (.aborted (abortReason outcome)) := by
  simp only [abort?, Option.bind_eq_bind, Option.bind_eq_some_iff, Option.pure_def] at stepped
  obtain ⟨observation, found, outcome, ended, stepped⟩ := stepped
  split at stepped
  · rename_i early
    simp only [Bool.and_eq_true, decide_eq_true_eq] at early
    exact ⟨observation, outcome, _, found, ended, early.1, early.2, rfl, (Option.some.inj stepped).symm⟩
  · contradiction

/-- An observation that is aborted is gone. -/
theorem active_abort? {serial : Nat} (stepped : monitor.abort? serial = some next) :
    next.active = monitor.active.filter (·.serial ≠ serial) := by
  obtain ⟨observation, outcome, aborted, found, -, -, -, same, rfl⟩ := abort?_spec stepped
  have numbered : aborted.serial = serial := by
    rw [same]
    simpa using List.find?_some found
  subst numbered
  exact (filter_active_replace (monitor.replace aborted) { aborted with phase := .stoppedByOverflow }).trans
    (filter_active_replace monitor aborted)

/-- An observation that was stopped reports the result of its aggregation, and announces its tasks or ends. -/
theorem report?_spec {serial : Nat} (stepped : monitor.report? serial = some next) :
    ∃ observation outcome notice reported, monitor.observation? serial = some observation ∧
      observation.aggregator.outcome? = some outcome ∧ observation.phase = .stoppedByTimer ∧
      observation.aggregation.result = none ∧ (Entry.notice notice).isCourse = false ∧
      reported = { observation with
        aggregation := observation.aggregation.complete (outcome.mapError Error.message)
        unsent := monitor.policy.services.toList
        pendingTasks := monitor.policy.services.toList.length } ∧
      (monitor.policy.services.toList = [] ∧
          next = ((monitor.replace reported).write [.notice notice]).finish reported (.completed 0) ∨
        monitor.policy.services.toList ≠ [] ∧
          next = (monitor.replace reported).write [.notice notice]) := by
  simp only [report?, Option.bind_eq_bind, Option.bind_eq_some_iff, Option.pure_def] at stepped
  obtain ⟨observation, found, outcome, ended, stepped⟩ := stepped
  split at stepped
  · rename_i ready
    simp only [Observation.isStopped, Completion.isPending, Bool.and_eq_true, decide_eq_true_eq,
      Option.isNone_iff_eq_none] at ready
    -- both outcomes are announced, each in its own words
    cases outcome <;> split at stepped <;> rename_i services <;>
      exact ⟨observation, _, _, _, found, ended, ready.1, ready.2, rfl, rfl, by
        simpa [Except.mapError, ← List.isEmpty_iff, services] using (Option.some.inj stepped).symm⟩
  · contradiction

/-- A task goes into the queue or waits for a place, and is dropped if the queue is closed. -/
theorem send?_spec {serial : Nat} (stepped : monitor.send? serial = some next) :
    ∃ observation service unsent, monitor.observation? serial = some observation ∧
      observation.unsent = service :: unsent ∧
      (monitor.queue.isOpen = true ∧ monitor.queue.isBlocked serial = false ∧
          (∃ queue, monitor.queue.offer serial ⟨observation.container, service⟩ = (queue, true) ∧
              next = { monitor with queue := queue }.replace { observation with unsent := unsent } ∨
            monitor.queue.offer serial ⟨observation.container, service⟩ = (queue, false) ∧
              next = { monitor with queue := queue }) ∨
        monitor.queue.isOpen = false ∧
          next = (monitor.write [.notice (.dropped ⟨observation.container, service⟩)]).concludeTask
            { observation with unsent := unsent } true) := by
  simp only [send?, Option.bind_eq_bind, Option.bind_eq_some_iff, Option.pure_def] at stepped
  obtain ⟨observation, found, stepped⟩ := stepped
  split at stepped
  · contradiction
  · rename_i service unsent announced
    refine ⟨observation, service, unsent, found, announced, ?_⟩
    split at stepped
    · rename_i isOpen
      split at stepped
      · contradiction
      · rename_i free
        refine .inl ⟨isOpen, by simpa using free, ?_⟩
        generalize monitor.queue.offer serial ⟨observation.container, service⟩ = offered at stepped
        obtain ⟨queue, accepted⟩ := offered
        refine ⟨queue, ?_⟩
        cases accepted
        · exact .inr ⟨rfl, (Option.some.inj stepped).symm⟩
        · exact .inl ⟨rfl, (Option.some.inj stepped).symm⟩
    · rename_i closed
      exact .inr ⟨by simpa using closed, (Option.some.inj stepped).symm⟩

/-- The worker takes the first task, for an observation that runs or for none. -/
theorem take?_spec (stepped : monitor.take? = some next) :
    ∃ task queue, monitor.worker = .idle ∧ monitor.queue.take? = some (task, queue) ∧
      (monitor.observing? task.container = none ∧
          next = { monitor with queue := queue }.write [.notice (.unexpected task)] ∨
        ∃ observation, monitor.observing? task.container = some observation ∧
          next = { { monitor with queue := queue }.enter observation .pipelineRunning with
            worker := .preparing observation.serial task }) := by
  unfold take? at stepped
  split at stepped
  · rename_i idle
    simp only [Option.bind_eq_bind, Option.bind_eq_some_iff, Option.pure_def, Prod.exists] at stepped
    obtain ⟨task, queue, taken, stepped⟩ := stepped
    refine ⟨task, queue, idle, taken, ?_⟩
    split at stepped
    · rename_i unobserved
      exact .inl ⟨unobserved, (Option.some.inj stepped).symm⟩
    · rename_i observation observed
      exact .inr ⟨observation, observed, (Option.some.inj stepped).symm⟩
  · contradiction

/-- The worker hands over what it has derived, or gives the task up. -/
theorem prepare?_spec (stepped : monitor.prepare? = some next) :
    ∃ serial task observation, monitor.worker = .preparing serial task ∧
      monitor.observation? serial = some observation ∧
      ((∃ derived, observation.derive? task.service = some (.ok derived) ∧
          next = { monitor.write (noticeOf derived ++ [.offered serial derived.artifact]) with
            worker := .storing serial task derived.artifact monitor.now }) ∨
        ∃ reason, observation.derive? task.service = some (.error reason) ∧
          next = ({ monitor with worker := .idle }.write [.notice (.taskFailed task reason)]).concludeTask
            observation true) := by
  simp only [prepare?, Option.bind_eq_bind, Option.pure_def] at stepped
  split at stepped
  · rename_i serial task working
    simp only [Option.bind_eq_some_iff] at stepped
    obtain ⟨observation, found, result, derives, stepped⟩ := stepped
    refine ⟨serial, task, observation, working, found, ?_⟩
    cases result with
    | ok derived => exact .inl ⟨derived, derives, (Option.some.inj stepped).symm⟩
    | error reason => exact .inr ⟨reason, derives, (Option.some.inj stepped).symm⟩
  · contradiction

/-- With the answer of the store the task is done. -/
theorem stored?_spec {result : Except String Unit} (stepped : monitor.stored? result = some next) :
    ∃ serial task artifact since observation entries failed,
      monitor.worker = .storing serial task artifact since ∧
      monitor.observation? serial = some observation ∧ (failed = true ↔ ∃ reason, result = .error reason) ∧
      (∀ entry ∈ entries, entry.isRemark = true) ∧
      next = ({ monitor with worker := .idle }.write entries).concludeTask observation failed := by
  simp only [stored?, Option.bind_eq_bind, Option.pure_def] at stepped
  split at stepped
  · rename_i serial task artifact since working
    simp only [Option.bind_eq_some_iff] at stepped
    obtain ⟨observation, found, stepped⟩ := stepped
    cases result with
    | ok _ => exact ⟨serial, task, artifact, since, observation, _, false, working, found, by simp,
        by simp [Entry.isRemark], (Option.some.inj stepped).symm⟩
    | error reason => exact ⟨serial, task, artifact, since, observation, _, true, working, found, by simp,
        by simp [Entry.isRemark], (Option.some.inj stepped).symm⟩
  · contradiction

theorem hire?_spec (stepped : monitor.hire? = some next) :
    monitor.ownsQueue = true ∧ next = { monitor with worker := .idle } := by
  simp only [hire?, Option.ite_none_right_eq_some, Option.some.injEq] at stepped
  exact ⟨stepped.1, stepped.2.symm⟩

theorem divert?_spec {task : Task} (stepped : monitor.divert? = some (task, next)) :
    ∃ queue, monitor.ownsQueue = true ∧ monitor.queue.take? = some (task, queue) ∧
      next = { monitor with queue := queue } := by
  unfold divert? at stepped
  split at stepped
  · rename_i owns
    simp only [Option.bind_eq_bind, Option.bind_eq_some_iff, Option.pure_def, Option.some.injEq, Prod.exists,
      Prod.mk.injEq] at stepped
    obtain ⟨_, queue, taken, rfl, rfl⟩ := stepped
    exact ⟨queue, owns, taken, rfl⟩
  · contradiction

theorem closeQueue?_spec (stepped : monitor.closeQueue? = some next) :
    monitor.ownsQueue = true ∧ next = { monitor with queue := monitor.queue.close } := by
  simp only [closeQueue?, Option.ite_none_right_eq_some, Option.some.injEq] at stepped
  exact ⟨stepped.1, stepped.2.symm⟩

/-! ## Operations on the accumulator -/

/-- The operations on the accumulator that an action makes. -/
def operations (monitor : Monitor) : Action → List Operation
  | .ingest line => [.ingest line]
  | .exclude container => [.exclude container]
  | .intrude container => [.register container]
  | .aggregate serial move =>
      match monitor.observation? serial with
      | some observation => operationsOf observation.container move observation.aggregator
      | none => []
  | _ => []

/-- An action works on the accumulator by its operations. -/
theorem accumulator_step (stepped : monitor.step? action = some next) :
    next.accumulator = monitor.accumulator.run (monitor.operations action) := by
  cases action with
  | ingest line | exclude container | intrude container | elapse duration | forgetPod pod | retainPods pods =>
    obtain rfl := Option.some.inj stepped
    rfl
  | request start =>
    obtain rfl := Option.some.inj stepped
    unfold request
    split <;> rfl
  | enroll index identity =>
    obtain ⟨start, -, ⟨-, rfl⟩ | ⟨-, rfl⟩⟩ := enroll?_spec stepped <;> rfl
  | sbomReady serial result =>
    obtain ⟨inquiry, entries, -, -, rfl⟩ := sbomReady?_spec stepped
    exact accumulator_change ..
  | vulnerabilitiesReady serial result =>
    obtain ⟨inquiry, entries, -, -, rfl⟩ := vulnerabilitiesReady?_spec stepped
    exact accumulator_change ..
  | aggregate serial move =>
    obtain ⟨observation, aggregator, after, found, moved, rfl⟩ := aggregate?_spec stepped
    simp only [operations, found]
    exact moved.accumulator_eq
  | expire serial =>
    obtain ⟨observation, -, -, -, rfl⟩ := expire?_spec stepped
    rfl
  | abort serial =>
    obtain ⟨observation, outcome, aborted, -, -, -, -, -, rfl⟩ := abort?_spec stepped
    rfl
  | report serial =>
    obtain ⟨observation, outcome, notice, reported, -, -, -, -, -, -, ⟨-, rfl⟩ | ⟨-, rfl⟩⟩ :=
      report?_spec stepped <;> rfl
  | send serial =>
    obtain ⟨observation, service, unsent, -, -, ⟨-, -, queue, ⟨-, rfl⟩ | ⟨-, rfl⟩⟩ | ⟨-, rfl⟩⟩ :=
      send?_spec stepped
    · rfl
    · rfl
    · exact accumulator_concludeTask ..
  | hire =>
    obtain ⟨-, rfl⟩ := hire?_spec stepped
    rfl
  | take =>
    obtain ⟨task, queue, -, -, ⟨-, rfl⟩ | ⟨observation, -, rfl⟩⟩ := take?_spec stepped <;> rfl
  | prepare =>
    obtain ⟨serial, task, observation, -, -, ⟨derived, -, rfl⟩ | ⟨reason, -, rfl⟩⟩ := prepare?_spec stepped
    · rfl
    · exact accumulator_concludeTask ..
  | stored result =>
    obtain ⟨serial, task, artifact, since, observation, entries, failed, -, -, -, -, rfl⟩ := stored?_spec stepped
    exact accumulator_concludeTask ..
  | divert =>
    obtain ⟨⟨task, _⟩, diverted, rfl⟩ := Option.map_eq_some_iff.mp stepped
    obtain ⟨queue, -, -, rfl⟩ := divert?_spec diverted
    rfl
  | closeQueue =>
    obtain ⟨-, rfl⟩ := closeQueue?_spec stepped
    rfl

/-! ## Observations -/

/-- An observation that goes on after an action. It does not go back to its window, its aggregator moves only
by its own moves, the aggregation is given a result only when the aggregator has ended, and no results are added but
those that the action brings. -/
structure Revised (acc after : Accumulator) (action : Action) (old new : Observation) : Prop where
  serial : new.serial = old.serial
  start : new.start = old.start
  identity : new.identity = old.identity
  watching : new.phase = .watching → old.phase = .watching
  aggregator : (∃ move, action = .aggregate old.serial move ∧
      Moved old.container old.isStopped acc move old.aggregator new.aggregator after) ∨
    new.aggregator = old.aggregator
  aggregation : new.aggregation = old.aggregation ∨ ∃ outcome, new.aggregator = .ended outcome ∧
    new.aggregation.result = some (outcome.mapError Error.message)
  findings : new.findings = old.findings.or (old.finding action)

/-- What an action does to the observations. -/
inductive Effect (monitor : Monitor) (action : Action) (next : Monitor) : Prop
  | kept (active : next.active = monitor.active) (serial : next.nextSerial = monitor.nextSerial)
  | begun (start : Start) (identity : ResourceIdentity) (entering : start ∈ monitor.entering)
      (unobserved : monitor.observing? start.container = none)
      (active : next.active = monitor.active ++
        [{ Observation.ofStart monitor.nextSerial start identity (monitor.now + monitor.policy.window) with
          phase := .watching }])
      (serial : next.nextSerial = monitor.nextSerial + 1)
  | revised (old new : Observation) (member : old ∈ monitor.active)
      (revised : Revised monitor.accumulator next.accumulator action old new)
      (active : next.active = (monitor.replace new).active) (serial : next.nextSerial = monitor.nextSerial)
  | ended (old : Observation) (member : old ∈ monitor.active)
      (active : next.active = monitor.active.filter (·.serial ≠ old.serial))
      (serial : next.nextSerial = monitor.nextSerial)

theorem mem_active_of_observation? {serial : Nat} (found : monitor.observation? serial = some observation) :
    observation ∈ monitor.active ∧ observation.serial = serial :=
  ⟨List.mem_of_find?_eq_some found, by simpa using List.find?_some found⟩

/-- A task that is done changes only the counts of its observation, or ends it. -/
private theorem effect_concludeTask {sent : Observation} (member : old ∈ monitor.active)
    (active : base.active = monitor.active) (serial : base.nextSerial = monitor.nextSerial) (failed : Bool)
    (revised : Revised monitor.accumulator (base.concludeTask sent failed).accumulator action old sent) :
    Effect monitor action (base.concludeTask sent failed) := by
  have serials := nextSerial_concludeTask base sent failed
  by_cases wasLast : (sent.taskDone failed).2 = true
  · refine .ended old member ?_ (serials.trans serial)
    have removed := filter_active_replace base (sent.taskDone failed).1
    simp only [concludeTask, wasLast, ↓reduceIte, finish]
    rw [removed, active]
    simp [Observation.taskDone, revised.serial]
  · refine .revised old (sent.taskDone failed).1 member ?_ ?_ (serials.trans serial)
    · exact ⟨revised.serial, revised.start, revised.identity, revised.watching, revised.aggregator,
        revised.aggregation, revised.findings⟩
    · simp only [concludeTask, wasLast, Bool.false_eq_true, ↓reduceIte, replace, active]

private theorem effect_change {serial : Nat} {f : Observation → Observation}
    (active : base.active = monitor.active)
    (nextSerial : base.nextSerial = monitor.nextSerial)
    (revises : ∀ observation, observation.serial = serial →
      Revised monitor.accumulator (base.change serial f).accumulator action observation (f observation)) :
    Effect monitor action (base.change serial f) := by
  cases found : base.observation? serial with
  | none =>
    simp only [change, found]
    exact .kept active nextSerial
  | some observation =>
    obtain ⟨member, same⟩ := mem_active_of_observation? found
    have revised := revises observation same
    simp only [change, found] at revised ⊢
    exact .revised observation _ (active ▸ member) revised (by simp only [replace, active]) nextSerial

/-- Every action has one of four effects on the observations. -/
theorem effect_of_step (stepped : monitor.step? action = some next) : Effect monitor action next := by
  cases action with
  | ingest line | exclude container | intrude container | elapse duration | forgetPod pod | retainPods pods =>
    obtain rfl := Option.some.inj stepped
    exact .kept rfl rfl
  | request start =>
    obtain rfl := Option.some.inj stepped
    unfold request
    split <;> exact .kept rfl rfl
  | enroll index identity =>
    obtain ⟨start, entering, ⟨-, rfl⟩ | ⟨unobserved, rfl⟩⟩ := enroll?_spec stepped
    · exact .kept rfl rfl
    · exact .begun start identity (List.mem_of_getElem? entering) unobserved rfl rfl
  | sbomReady serial result =>
    obtain ⟨inquiry, entries, -, -, rfl⟩ := sbomReady?_spec stepped
    refine effect_change rfl rfl fun observation same => ⟨rfl, rfl, rfl, id, .inr rfl, .inl rfl, ?_⟩
    simp [Observation.findings, Observation.finding, Findings.or, Completion.complete, same]
  | vulnerabilitiesReady serial result =>
    obtain ⟨inquiry, entries, -, -, rfl⟩ := vulnerabilitiesReady?_spec stepped
    refine effect_change rfl rfl fun observation same => ⟨rfl, rfl, rfl, id, .inr rfl, .inl rfl, ?_⟩
    simp [Observation.findings, Observation.finding, Findings.or, Completion.complete, same]
  | aggregate serial move =>
    obtain ⟨observation, aggregator, after, found, moved, rfl⟩ := aggregate?_spec stepped
    obtain ⟨member, same⟩ := mem_active_of_observation? found
    exact .revised observation { observation with aggregator := aggregator } member
      ⟨rfl, rfl, rfl, id, .inl ⟨move, by rw [same], moved⟩, .inl rfl, (Findings.or_none _).symm⟩ rfl rfl
  | expire serial =>
    obtain ⟨observation, found, -, -, rfl⟩ := expire?_spec stepped
    exact .revised observation { observation with phase := .stoppedByTimer } (mem_active_of_observation? found).1
      ⟨rfl, rfl, rfl, by simp, .inr rfl, .inl rfl, (Findings.or_none _).symm⟩ rfl rfl
  | abort serial =>
    have active := active_abort? stepped
    obtain ⟨observation, outcome, aborted, found, -, -, -, -, rfl⟩ := abort?_spec stepped
    obtain ⟨member, rfl⟩ := mem_active_of_observation? found
    exact .ended observation member active rfl
  | report serial =>
    obtain ⟨observation, outcome, notice, reported, found, ended, -, pending, -, same, ⟨-, rfl⟩ | ⟨-, rfl⟩⟩ :=
      report?_spec stepped
    · have serial : reported.serial = observation.serial := by rw [same]
      exact .ended observation (mem_active_of_observation? found).1
        (serial ▸ filter_active_replace monitor reported) rfl
    · refine .revised observation reported (mem_active_of_observation? found).1 ?_ rfl rfl
      subst same
      have numbered := (mem_active_of_observation? found).2
      refine ⟨rfl, rfl, rfl, id, .inr rfl, .inr ⟨outcome, Aggregator.eq_ended_of_outcome? ended, ?_⟩, ?_⟩
      · simp [Completion.complete, pending]
      · simp [Observation.findings, Observation.finding, Findings.or, Completion.complete, pending, numbered, ended]
  | send serial =>
    obtain ⟨observation, service, unsent, found, -, ⟨-, -, queue, ⟨-, rfl⟩ | ⟨-, rfl⟩⟩ | ⟨-, rfl⟩⟩ :=
      send?_spec stepped
    · exact .revised observation { observation with unsent := unsent } (mem_active_of_observation? found).1
        ⟨rfl, rfl, rfl, id, .inr rfl, .inl rfl, (Findings.or_none _).symm⟩ rfl rfl
    · exact .kept rfl rfl
    · refine effect_concludeTask (mem_active_of_observation? found).1 ?_ ?_ true ?_
      · rfl
      · rfl
      · exact ⟨rfl, rfl, rfl, id, .inr rfl, .inl rfl, (Findings.or_none _).symm⟩
  | hire =>
    obtain ⟨-, rfl⟩ := hire?_spec stepped
    exact .kept rfl rfl
  | take =>
    obtain ⟨task, queue, -, -, ⟨-, rfl⟩ | ⟨observation, observed, rfl⟩⟩ := take?_spec stepped
    · exact .kept rfl rfl
    · exact .revised observation { observation with phase := .pipelineRunning }
        (List.mem_of_find?_eq_some observed)
        ⟨rfl, rfl, rfl, by simp, .inr rfl, .inl rfl, (Findings.or_none _).symm⟩ rfl rfl
  | prepare =>
    obtain ⟨serial, task, observation, -, found, ⟨derived, -, rfl⟩ | ⟨reason, -, rfl⟩⟩ := prepare?_spec stepped
    · exact .kept rfl rfl
    · refine effect_concludeTask (mem_active_of_observation? found).1 ?_ ?_ true ?_
      · rfl
      · rfl
      · exact ⟨rfl, rfl, rfl, id, .inr rfl, .inl rfl, (Findings.or_none _).symm⟩
  | stored result =>
    obtain ⟨serial, task, artifact, since, observation, entries, failed, -, found, -, -, rfl⟩ := stored?_spec stepped
    refine effect_concludeTask (mem_active_of_observation? found).1 ?_ ?_ failed ?_
    · rfl
    · rfl
    · exact ⟨rfl, rfl, rfl, id, .inr rfl, .inl rfl, (Findings.or_none _).symm⟩
  | divert =>
    obtain ⟨⟨task, _⟩, diverted, rfl⟩ := Option.map_eq_some_iff.mp stepped
    obtain ⟨queue, -, -, rfl⟩ := divert?_spec diverted
    exact .kept rfl rfl
  | closeQueue =>
    obtain ⟨-, rfl⟩ := closeQueue?_spec stepped
    exact .kept rfl rfl

theorem nextSerial_le_step (stepped : monitor.step? action = some next) :
    monitor.nextSerial ≤ next.nextSerial := by
  cases effect_of_step stepped with
  | begun start identity entering unobserved active serial => exact serial ▸ Nat.le_succ _
  | kept active serial => exact Nat.le_of_eq serial.symm
  | revised old new member revised active serial => exact Nat.le_of_eq serial.symm
  | ended old member active serial => exact Nat.le_of_eq serial.symm

/-- Where a running observation comes from: it has just begun, or was there before, changed or not. -/
theorem mem_active_step (stepped : monitor.step? action = some next) (member : observation ∈ next.active) :
    (∃ start identity, start ∈ monitor.entering ∧ next.nextSerial = monitor.nextSerial + 1 ∧
        observation = { Observation.ofStart monitor.nextSerial start identity
          (monitor.now + monitor.policy.window) with phase := .watching }) ∨
      observation ∈ monitor.active ∨
      ∃ old ∈ monitor.active, Revised monitor.accumulator next.accumulator action old observation := by
  cases effect_of_step stepped with
  | kept active => exact .inr (.inl (active ▸ member))
  | begun start identity entering unobserved active serial =>
    rw [active, List.mem_append, List.mem_singleton] at member
    rcases member with before | rfl
    · exact .inr (.inl before)
    · exact .inl ⟨start, identity, entering, serial, rfl⟩
  | revised old new memberOld revised active =>
    rw [active] at member
    obtain ⟨other, memberOther, same⟩ := List.mem_map.mp member
    split at same
    · exact .inr (.inr ⟨old, memberOld, same ▸ revised⟩)
    · exact .inr (.inl (same ▸ memberOther))
  | ended old memberOld active => exact .inr (.inl (List.mem_of_mem_filter (active ▸ member)))

/-! ## Starts and finished containers -/

/-- The action makes the monitor forget finished containers. -/
def forgets : Action → Bool
  | .forgetPod _ | .retainPods _ => true
  | _ => false

/-- What an action does to the starts that are entering and to the finished containers. -/
structure Tracks (monitor : Monitor) (action : Action) (next : Monitor) : Prop where
  entering : next.entering = monitor.entering ∨
    (∃ start, action = .request start ∧ next.entering = monitor.entering ++ [start]) ∨
    ∃ index identity, action = .enroll index identity ∧ next.entering = monitor.entering.eraseIdx index
  finished : next.finished = monitor.finished ∨
    (∃ observation ∈ monitor.active,
      next.finished = monitor.finished.insert observation.container observation.start.pod) ∨
    forgets action = true ∧ ∃ keep, next.finished = monitor.finished.filter keep

/-- Unless it is told to forget, a monitor remembers the containers that have finished. -/
theorem Tracks.finished_of_not_forgets (tracks : Tracks monitor action next) (remembers : forgets action = false) :
    next.finished = monitor.finished ∨ ∃ observation ∈ monitor.active,
      next.finished = monitor.finished.insert observation.container observation.start.pod := by
  rcases tracks.finished with same | added | ⟨forgotten, -⟩
  · exact .inl same
  · exact .inr added
  · exact absurd forgotten (by simp [remembers])

private theorem tracks_concludeTask {sent : Observation} (member : old ∈ monitor.active)
    (start : sent.start = old.start) (entering : base.entering = monitor.entering)
    (finished : base.finished = monitor.finished) (failed : Bool) :
    Tracks monitor action (base.concludeTask sent failed) := by
  unfold concludeTask
  dsimp only
  split
  · refine ⟨.inl entering, .inr (.inl ⟨old, member, ?_⟩)⟩
    simp only [finish, replace, finished, Observation.container, Observation.taskDone, start]
  · exact ⟨.inl entering, .inl finished⟩

/-- What every action does to the starts, the observations and the finished containers. -/
theorem tracks_step (stepped : monitor.step? action = some next) : Tracks monitor action next := by
  cases action with
  | ingest line | exclude container | intrude container | elapse duration =>
    obtain rfl := Option.some.inj stepped
    exact ⟨.inl rfl, .inl rfl⟩
  | forgetPod pod =>
    obtain rfl := Option.some.inj stepped
    exact ⟨.inl rfl, .inr (.inr ⟨rfl, fun _ owner => owner ≠ pod, rfl⟩)⟩
  | retainPods pods =>
    obtain rfl := Option.some.inj stepped
    exact ⟨.inl rfl, .inr (.inr ⟨rfl, fun _ owner => owner ∈ pods, rfl⟩)⟩
  | request start =>
    obtain rfl := Option.some.inj stepped
    unfold request
    split
    · exact ⟨.inl rfl, .inl rfl⟩
    · exact ⟨.inr (.inl ⟨start, rfl, rfl⟩), .inl rfl⟩
  | enroll index identity =>
    obtain ⟨start, -, ⟨-, rfl⟩ | ⟨-, rfl⟩⟩ := enroll?_spec stepped <;>
      exact ⟨.inr (.inr ⟨index, identity, rfl, rfl⟩), .inl rfl⟩
  | sbomReady serial result =>
    obtain ⟨inquiry, entries, -, -, rfl⟩ := sbomReady?_spec stepped
    unfold change
    split <;> exact ⟨.inl rfl, .inl rfl⟩
  | vulnerabilitiesReady serial result =>
    obtain ⟨inquiry, entries, -, -, rfl⟩ := vulnerabilitiesReady?_spec stepped
    unfold change
    split <;> exact ⟨.inl rfl, .inl rfl⟩
  | aggregate serial move =>
    obtain ⟨observation, aggregator, after, -, -, rfl⟩ := aggregate?_spec stepped
    exact ⟨.inl rfl, .inl rfl⟩
  | expire serial =>
    obtain ⟨observation, -, -, -, rfl⟩ := expire?_spec stepped
    exact ⟨.inl rfl, .inl rfl⟩
  | abort serial =>
    obtain ⟨observation, outcome, aborted, found, -, -, -, rfl, rfl⟩ := abort?_spec stepped
    exact ⟨.inl rfl, .inr (.inl ⟨observation, (mem_active_of_observation? found).1, rfl⟩)⟩
  | report serial =>
    obtain ⟨observation, outcome, notice, reported, found, -, -, -, -, rfl, ⟨-, rfl⟩ | ⟨-, rfl⟩⟩ :=
      report?_spec stepped
    · exact ⟨.inl rfl, .inr (.inl ⟨observation, (mem_active_of_observation? found).1, rfl⟩)⟩
    · exact ⟨.inl rfl, .inl rfl⟩
  | send serial =>
    obtain ⟨observation, service, unsent, found, -, ⟨-, -, queue, ⟨-, rfl⟩ | ⟨-, rfl⟩⟩ | ⟨-, rfl⟩⟩ :=
      send?_spec stepped
    · exact ⟨.inl rfl, .inl rfl⟩
    · exact ⟨.inl rfl, .inl rfl⟩
    · refine tracks_concludeTask (mem_active_of_observation? found).1 ?_ ?_ ?_ true <;> rfl
  | hire =>
    obtain ⟨-, rfl⟩ := hire?_spec stepped
    exact ⟨.inl rfl, .inl rfl⟩
  | take =>
    obtain ⟨task, queue, -, -, ⟨-, rfl⟩ | ⟨observation, -, rfl⟩⟩ := take?_spec stepped <;>
      exact ⟨.inl rfl, .inl rfl⟩
  | prepare =>
    obtain ⟨serial, task, observation, -, found, ⟨derived, -, rfl⟩ | ⟨reason, -, rfl⟩⟩ := prepare?_spec stepped
    · exact ⟨.inl rfl, .inl rfl⟩
    · refine tracks_concludeTask (mem_active_of_observation? found).1 ?_ ?_ ?_ true <;> rfl
  | stored result =>
    obtain ⟨serial, task, artifact, since, observation, entries, failed, -, found, -, -, rfl⟩ := stored?_spec stepped
    refine tracks_concludeTask (mem_active_of_observation? found).1 ?_ ?_ ?_ failed <;> rfl
  | divert =>
    obtain ⟨⟨task, _⟩, diverted, rfl⟩ := Option.map_eq_some_iff.mp stepped
    obtain ⟨queue, -, -, rfl⟩ := divert?_spec diverted
    exact ⟨.inl rfl, .inl rfl⟩
  | closeQueue =>
    obtain ⟨-, rfl⟩ := closeQueue?_spec stepped
    exact ⟨.inl rfl, .inl rfl⟩

/-! ## Runs -/

/-- What holds at first and is kept by each of the actions holds in the end. -/
theorem run_induction {motive : Monitor → Prop} {actions : List Action} (first : motive monitor)
    (keeps : ∀ action ∈ actions, ∀ monitor next : Monitor, motive monitor → monitor.step? action = some next →
      motive next) (runs : monitor.run? actions = some next) : motive next := by
  induction actions generalizing monitor with
  | nil => exact Option.some.inj runs ▸ first
  | cons action rest ih =>
    obtain ⟨middle, stepped, runs⟩ := Option.bind_eq_some_iff.mp runs
    refine ih (keeps action (List.mem_cons_self ..) monitor middle first stepped) (fun later member => ?_) runs
    exact keeps later (List.mem_cons_of_mem _ member)

end Monitor

end Observatory
