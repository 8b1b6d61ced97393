import Observatory.Proofs.Schedule.Turns

/-! # Behind the observations

Scans, senders and the worker do not come between an observation and its report. Main statement: what they do leaves the
clock, the accumulator and all reports alone. Of an observation that has not reported they change the results of its
scans only, and the only observations that they end have reported.
-/

namespace Observatory

/-- The aggregation of a container has a result, or was given up. -/
def Entry.isReport : Entry → Bool
  | .notice (.stopped ..) | .notice (.stoppedInError ..) | .notice (.aborted ..) => true
  | _ => false

namespace Monitor

variable {monitor next base : Monitor} {action : Action} {observation old new : Observation} {serial : Nat}

/-- What was told about the aggregations, in this order. -/
def reports (monitor : Monitor) : List Entry := monitor.journal.filter Entry.isReport

/-- What becomes of an observation whose aggregation is left alone. -/
structure Advanced (action : Action) (old new : Observation) : Prop where
  serial : new.serial = old.serial
  start : new.start = old.start
  identity : new.identity = old.identity
  deadline : new.deadline = old.deadline
  aggregation : new.aggregation = old.aggregation
  phase : new.phase ≠ .watching → old.phase ≠ .watching
  unsent : new.unsent = old.unsent ∨ ∃ serial, action = .send serial
  unreported : old.aggregation.result = none →
    new = { old with sbom := new.sbom, vulnerabilities := new.vulnerabilities }

/-- What the scans, the senders and the worker do to the observations. -/
inductive Progress (monitor : Monitor) (action : Action) (next : Monitor) : Prop
  | kept (active : next.active = monitor.active)
  | revised (old new : Observation) (member : old ∈ monitor.active) (advanced : Advanced action old new)
      (active : next.active = (monitor.replace new).active)
  | ended (old : Observation) (member : old ∈ monitor.active) (reported : old.aggregation.result ≠ none)
      (unsent : old.unsent = []) (active : next.active = monitor.active.filter (·.serial ≠ old.serial))

/-- An action that leaves alone what an observation sees and tells. -/
structure Aside (monitor : Monitor) (action : Action) (next : Monitor) : Prop where
  policy : next.policy = monitor.policy
  now : next.now = monitor.now
  nextSerial : next.nextSerial = monitor.nextSerial
  accumulator : next.accumulator = monitor.accumulator
  entering : next.entering = monitor.entering
  reports : next.reports = monitor.reports
  progress : Progress monitor action next

theorem reports_write (monitor : Monitor) (entries : List Entry) :
    (monitor.write entries).reports = monitor.reports ++ entries.filter Entry.isReport := by
  simp [reports, write]

theorem reports_write_remarks {entries : List Entry} (remarks : ∀ entry ∈ entries, entry.isRemark = true) :
    (monitor.write entries).reports = monitor.reports := by
  have silent : ∀ entry ∈ entries, ¬entry.isReport = true := by
    intro entry member report
    have remark := remarks entry member
    unfold Entry.isReport at report
    split at report <;> contradiction
  rw [reports_write, List.filter_eq_nil_iff.mpr silent, List.append_nil]

theorem reports_finish (monitor : Monitor) (observation : Observation) (outcome : Outcome) :
    (monitor.finish observation outcome).reports = monitor.reports := by
  simp [reports, finish, Entry.isReport]

/-- A scan has its result. -/
private theorem aside_change {f : Observation → Observation}
    (same : base.policy = monitor.policy ∧ base.now = monitor.now ∧ base.nextSerial = monitor.nextSerial ∧
      base.accumulator = monitor.accumulator ∧ base.entering = monitor.entering ∧ base.active = monitor.active)
    (reports : base.reports = monitor.reports)
    (amends : ∀ observation, ∃ sbom vulnerabilities, f observation =
      { observation with sbom := sbom, vulnerabilities := vulnerabilities }) :
    Aside monitor action (base.change serial f) := by
  obtain ⟨policy, now, nextSerial, accumulator, entering, active⟩ := same
  unfold change
  cases found : base.observation? serial with
  | none => exact ⟨policy, now, nextSerial, accumulator, entering, reports, .kept active⟩
  | some old =>
    obtain ⟨sbom, vulnerabilities, amended⟩ := amends old
    refine ⟨policy, now, nextSerial, accumulator, entering, reports, .revised old (f old) ?_ ?_ ?_⟩
    · exact active ▸ (mem_active_of_observation? found).1
    · rw [amended]
      exact ⟨rfl, rfl, rfl, rfl, rfl, id, .inl rfl, fun _ => rfl⟩
    · simp only [replace, active]

/-- A task is done. -/
private theorem Kept.aside_concludeTask (kept : monitor.Kept) {task : Task} {entries : List Entry}
    (found : monitor.observation? serial = some old) (working : monitor.worker.task? = some (serial, task))
    (remarks : ∀ entry ∈ entries, entry.isRemark = true) (failed : Bool) :
    Aside monitor action (({ monitor with worker := .idle }.write entries).concludeTask old failed) := by
  obtain ⟨member, rfl⟩ := mem_active_of_observation? found
  have stands := kept.accounted.stands old member
  have atWork : monitor.books.working = some (old.serial, task) := working
  have outstanding := Books.outstanding_of_working atWork
  have reported := stands.reported (by rw [outstanding]; exact List.cons_ne_nil _ _)
  have written : ({ monitor with worker := .idle }.write entries).reports = monitor.reports :=
    reports_write_remarks remarks
  unfold concludeTask
  dsimp only
  split
  · rename_i last
    refine ⟨rfl, rfl, rfl, rfl, rfl, (reports_finish ..).trans written, .ended old member reported ?_ ?_⟩
    · -- the task at the worker is the only one outstanding
      have counted := stands.counted
      have last : old.pendingTasks = 1 := by simpa [Observation.taskDone] using last
      rw [outstanding, last, List.length_cons, List.length_append] at counted
      exact List.length_eq_zero_iff.mp (by omega)
    · exact filter_active_replace monitor (old.taskDone failed).1
  · refine ⟨rfl, rfl, rfl, rfl, rfl, written, .revised old (old.taskDone failed).1 member ?_ rfl⟩
    exact ⟨rfl, rfl, rfl, rfl, rfl, id, .inl rfl, fun unreported => absurd unreported reported⟩

theorem Kept.aside_step (kept : monitor.Kept) (scheduled : action.isScheduled = true) (behind : action.isWatch = false)
    (stepped : monitor.step? action = some next) : Aside monitor action next := by
  cases action with
  | ingest | exclude | intrude | elapse | request | enroll | hire | divert | closeQueue | forgetPod | retainPods
  | aggregate | expire | abort | report => contradiction
  | sbomReady serial result =>
    obtain ⟨inquiry, entries, -, remarks, rfl⟩ := sbomReady?_spec stepped
    refine aside_change ?_ ?_ fun observation => ⟨_, _, rfl⟩
    · exact ⟨rfl, rfl, rfl, rfl, rfl, rfl⟩
    · exact reports_write_remarks remarks
  | vulnerabilitiesReady serial result =>
    obtain ⟨inquiry, entries, -, remarks, rfl⟩ := vulnerabilitiesReady?_spec stepped
    refine aside_change ?_ ?_ fun observation => ⟨_, _, rfl⟩
    · exact ⟨rfl, rfl, rfl, rfl, rfl, rfl⟩
    · exact reports_write_remarks remarks
  | send serial =>
    obtain ⟨old, service, unsent, found, announced, ⟨-, -, queue, ⟨-, rfl⟩ | ⟨-, rfl⟩⟩ | ⟨closed, -⟩⟩ :=
      send?_spec stepped
    · obtain ⟨member, rfl⟩ := mem_active_of_observation? found
      refine ⟨rfl, rfl, rfl, rfl, rfl, rfl, .revised old { old with unsent := unsent } member ?_ rfl⟩
      refine ⟨rfl, rfl, rfl, rfl, rfl, id, .inr ⟨_, rfl⟩, fun unreported => ?_⟩
      have nothing := (kept.accounted.stands old member).unsent_eq_nil unreported
      rw [announced] at nothing
      contradiction
    · exact ⟨rfl, rfl, rfl, rfl, rfl, rfl, .kept rfl⟩
    · exact absurd (kept.isOpen.symm.trans closed) (by decide)
  | take =>
    obtain ⟨task, queue, -, taken, ⟨-, rfl⟩ | ⟨old, observed, rfl⟩⟩ := take?_spec stepped
    · exact ⟨rfl, rfl, rfl, rfl, rfl, by simp [reports, write, Entry.isReport], .kept rfl⟩
    · have member := List.mem_of_find?_eq_some observed
      have own : old.container = task.container := by simpa using List.find?_some observed
      have queued : task ∈ monitor.books.tasks := by
        show task ∈ monitor.queue.tasks
        simp [(TaskQueue.tasks_of_take? taken).1]
      have stands := kept.accounted.stands old member
      have outstanding := Books.outstanding_ne_nil_of_queued queued own
      refine ⟨rfl, rfl, rfl, rfl, rfl, ?_, .revised old { old with phase := .pipelineRunning } member ?_ rfl⟩
      · simp only [enter, reports, write]
        split <;> simp [Entry.isReport, replace]
      · refine ⟨rfl, rfl, rfl, rfl, rfl, fun _ => ?_, .inl rfl, fun unreported => ?_⟩
        · rcases stands.phase outstanding with stopped | running <;> simp [*]
        · exact absurd unreported (stands.reported outstanding)
  | prepare =>
    obtain ⟨serial, task, old, busy, found, ⟨derived, -, rfl⟩ | ⟨reason, -, rfl⟩⟩ := prepare?_spec stepped
    · refine ⟨rfl, rfl, rfl, rfl, rfl, ?_, .kept rfl⟩
      simp only [reports, write, List.filter_append, noticeOf]
      split <;> simp [Entry.isReport]
    · exact kept.aside_concludeTask found (congrArg Worker.task? busy) (by simp [Entry.isRemark]) true
  | stored result =>
    obtain ⟨serial, task, artifact, since, old, entries, failed, busy, found, -, remarks, rfl⟩ := stored?_spec stepped
    exact kept.aside_concludeTask found (congrArg Worker.task? busy) remarks failed

end Monitor

end Observatory
