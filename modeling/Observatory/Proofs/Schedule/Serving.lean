import Observatory.Proofs.Schedule.Passing

/-! # Everything is served in the end

Senders that wait for a place in the queue get one, and scans that were asked for are answered. Main statement:
with a worker at the queue, every observation ends when enough time has passed, however the surroundings answer and
however long they take.
-/

namespace Observatory

/-- The observation has no result of the scan. -/
def Observation.lacks (observation : Observation) : Scan → Bool
  | .sbom => observation.sbom.isPending
  | .vulnerabilities => observation.vulnerabilities.isPending

/-- Only a scan can be missing once the aggregation has its result. -/
theorem Observation.lacks_of_derive? {observation : Observation} {service : Service}
    (reported : observation.aggregation.result ≠ none) (underived : observation.derive? service = none) :
    service = .relevantCves ∧ ∃ scan, observation.lacks scan = true := by
  obtain ⟨result, reported⟩ := Option.ne_none_iff_exists'.mp reported
  unfold derive? at underived
  rw [reported] at underived
  cases result with
  | error reason => contradiction
  | ok report =>
    cases service with
    | containerProfiling => contradiction
    | relevantCves =>
      refine ⟨rfl, ?_⟩
      simp only at underived
      split at underived
      · rename_i missing
        exact ⟨.sbom, by simp [lacks, Completion.isPending, missing]⟩
      · contradiction
      · split at underived
        · rename_i missing
          exact ⟨.vulnerabilities, by simp [lacks, Completion.isPending, missing]⟩
        · contradiction
        · contradiction

theorem EnabledServices.relevantCves_of_mem {services : EnabledServices} (member : .relevantCves ∈ services.toList) :
    services.relevantCves = true := by
  by_contra disabled
  simp [toList, disabled] at member

namespace Books

variable {books next : Books} {observation : Observation}

theorem Stands.unsent_eq_nil (stands : Stands books observation) (unreported : observation.aggregation.result = none) :
    observation.unsent = [] := by
  have nothing := (stands.unannounced unreported).2
  simp only [outstanding, List.append_eq_nil_iff] at nothing
  exact nothing.2

/-- Who has tasks to send goes on, and still has some unless one was sent. -/
theorem Turn.unsent (turn : Turn books next) (accounted : Accounted books) (member : observation ∈ books.active)
    (unsent : observation.unsent ≠ []) :
    (∃ later ∈ next.active, later.serial = observation.serial ∧ later.unsent ≠ []) ∨
      ∃ task, next.tasks = books.tasks ++ [task] := by
  have replaced {old new : Observation} (memberOld : old ∈ books.active) (serial : new.serial = old.serial)
      (same : old.unsent ≠ [] → new.unsent ≠ []) :
      ∃ later ∈ (books.replace new).active, later.serial = observation.serial ∧ later.unsent ≠ [] := by
    by_cases own : observation.serial = new.serial
    · obtain rfl := accounted.eq_of_serial member memberOld (own.trans serial)
      exact ⟨new, List.mem_map.mpr ⟨observation, member, if_pos own⟩, serial, same unsent⟩
    · exact ⟨observation, List.mem_map.mpr ⟨observation, member, if_neg own⟩, rfl, unsent⟩
  have removed {old : Observation} (memberOld : old ∈ books.active) (nothing : old.unsent = []) :
      ∃ later ∈ books.active.filter (·.serial ≠ old.serial), later.serial = observation.serial ∧ later.unsent ≠ [] := by
    have differs : observation.serial ≠ old.serial := by
      intro own
      obtain rfl := accounted.eq_of_serial member memberOld own
      exact unsent nothing
    exact ⟨observation, List.mem_filter.mpr ⟨member, by simpa using differs⟩, rfl, unsent⟩
  cases turn with
  | kept | unexpected | offered => exact .inl ⟨observation, member, rfl, unsent⟩
  | begun => exact .inl ⟨observation, List.mem_append_left _ member, rfl, unsent⟩
  | amended old memberOld | expired old memberOld => exact .inl (replaced memberOld rfl id)
  | aborted old memberOld watching =>
    have stands := accounted.stands old memberOld
    exact .inl (removed memberOld (stands.unsent_eq_nil (stands.unreported watching)))
  | reported old memberOld stopped unreported result enabled => exact .inl (replaced memberOld rfl fun _ => enabled)
  | completed old memberOld stopped unreported =>
    exact .inl (removed memberOld ((accounted.stands old memberOld).unsent_eq_nil unreported))
  | sent => exact .inr ⟨_, rfl⟩
  | taken old memberOld => exact .inl (replaced memberOld rfl id)
  | concluded old memberOld task working failed => exact .inl (replaced memberOld rfl id)
  | ended old memberOld task working failed last =>
    -- the task at the worker is the only one outstanding
    have counted := (accounted.stands old memberOld).counted
    rw [outstanding_of_working working, last, List.length_cons, List.length_append] at counted
    have goesOn := removed memberOld (List.length_eq_zero_iff.mp (by omega))
    exact .inl goesOn

end Books

namespace Monitor

variable {monitor next : Monitor} {action : Action} {actions : List Action} {observation : Observation} {serial : Nat}
  {surroundings : Surroundings}

/-! ## Senders -/

/-- Those that wait for a place in the queue, or have one that is kept for them, have tasks to send. -/
structure Queueing (monitor : Monitor) : Prop where
  distinct : (monitor.queue.granted ++ monitor.queue.waiting).Nodup
  known : ∀ sender ∈ monitor.queue.granted ++ monitor.queue.waiting,
    ∃ observation ∈ monitor.active, observation.serial = sender ∧ observation.unsent ≠ []
  full : monitor.queue.waiting ≠ [] → monitor.queue.hasRoom = false

/-- Only a few actions concern the queue. -/
theorem queue_step (stepped : monitor.step? action = some next) :
    next.queue = monitor.queue ∨ (∃ serial, action = .send serial) ∨ action = .take ∨ action = .divert ∨
      action = .closeQueue := by
  have concludes (base : Monitor) (observation : Observation) (failed : Bool) :
      (base.concludeTask observation failed).queue = base.queue := by
    unfold concludeTask
    dsimp only
    split <;> rfl
  have changes (base : Monitor) (serial : Nat) (f : Observation → Observation) :
      (base.change serial f).queue = base.queue := by
    unfold change
    split <;> rfl
  cases action with
  | ingest line | exclude container | intrude container | elapse duration | forgetPod pod | retainPods pods =>
    obtain rfl := Option.some.inj stepped
    exact .inl rfl
  | request start =>
    obtain rfl := Option.some.inj stepped
    unfold request
    split <;> exact .inl rfl
  | enroll index identity =>
    obtain ⟨start, -, ⟨-, rfl⟩ | ⟨-, rfl⟩⟩ := enroll?_spec stepped <;> exact .inl rfl
  | sbomReady serial result =>
    obtain ⟨inquiry, entries, -, -, rfl⟩ := sbomReady?_spec stepped
    exact .inl (changes ..)
  | vulnerabilitiesReady serial result =>
    obtain ⟨inquiry, entries, -, -, rfl⟩ := vulnerabilitiesReady?_spec stepped
    exact .inl (changes ..)
  | aggregate serial move =>
    obtain ⟨old, aggregator, acc, -, -, rfl⟩ := aggregate?_spec stepped
    exact .inl rfl
  | expire serial =>
    obtain ⟨old, -, -, -, rfl⟩ := expire?_spec stepped
    exact .inl rfl
  | abort serial =>
    obtain ⟨old, outcome, aborted, -, -, -, -, -, rfl⟩ := abort?_spec stepped
    exact .inl rfl
  | report serial =>
    obtain ⟨old, outcome, notice, reported, -, -, -, -, -, -, ⟨-, rfl⟩ | ⟨-, rfl⟩⟩ := report?_spec stepped <;>
      exact .inl rfl
  | send serial => exact .inr (.inl ⟨serial, rfl⟩)
  | hire =>
    obtain ⟨-, rfl⟩ := hire?_spec stepped
    exact .inl rfl
  | take => exact .inr (.inr (.inl rfl))
  | prepare =>
    obtain ⟨serial, task, old, -, -, ⟨derived, -, rfl⟩ | ⟨reason, -, rfl⟩⟩ := prepare?_spec stepped
    · exact .inl rfl
    · exact .inl (concludes ..)
  | stored result =>
    obtain ⟨serial, task, artifact, since, old, entries, failed, -, -, -, -, rfl⟩ := stored?_spec stepped
    exact .inl (concludes ..)
  | divert => exact .inr (.inr (.inr (.inl rfl)))
  | closeQueue => exact .inr (.inr (.inr (.inr rfl)))

/-- A step that sends nothing. -/
private theorem Queueing.of_tasks (queueing : monitor.Queueing) (kept : monitor.Kept)
    (turn : Books.Turn monitor.books next.books)
    (senders : next.queue.granted ++ next.queue.waiting = monitor.queue.granted ++ monitor.queue.waiting)
    (tasks : next.queue.tasks.length ≤ monitor.queue.tasks.length)
    (full : next.queue.waiting ≠ [] → next.queue.hasRoom = false) : next.Queueing where
  distinct := senders ▸ queueing.distinct
  known sender member := by
    rw [senders] at member
    obtain ⟨observation, running, rfl, unsent⟩ := queueing.known sender member
    rcases turn.unsent kept.accounted running unsent with goesOn | ⟨task, sent⟩
    · exact goesOn
    · have longer : next.queue.tasks.length = monitor.queue.tasks.length + 1 :=
        (congrArg List.length sent).trans List.length_append
      omega
  full := full

private theorem Queueing.take (queueing : monitor.Queueing) (kept : monitor.Kept)
    (turn : Books.Turn monitor.books next.books) (stepped : monitor.take? = some next) : next.Queueing := by
  obtain ⟨task, queue, -, taken, outcomes⟩ := take?_spec stepped
  have reached : next.queue = queue := by
    obtain ⟨-, rfl⟩ | ⟨observation, -, rfl⟩ := outcomes <;> rfl
  have fewer := congrArg List.length (TaskQueue.tasks_of_take? taken).1
  rw [List.length_cons] at fewer
  refine queueing.of_tasks kept turn ?_ ?_ ?_
  · rw [reached]
    exact TaskQueue.senders_of_take? taken
  · rw [reached]
    omega
  · rw [reached]
    intro some
    obtain ⟨waited, room⟩ := TaskQueue.hasRoom_of_take? taken some
    exact room.trans (queueing.full waited)

private theorem Queueing.send (queueing : monitor.Queueing) (kept : monitor.Kept)
    (stepped : monitor.send? serial = some next) : next.Queueing := by
  obtain ⟨old, service, unsent, found, announced, ⟨-, unblocked, queue, offers⟩ | ⟨closed, -⟩⟩ := send?_spec stepped
  · obtain ⟨member, rfl⟩ := mem_active_of_observation? found
    simp only [TaskQueue.isBlocked, decide_eq_false_iff_not] at unblocked
    obtain ⟨accepted, rfl⟩ | ⟨refused, rfl⟩ := offers
    · have offered := TaskQueue.offered_of_offer accepted
      refine ⟨offered.distinct queueing.distinct unblocked, fun sender waits => ?_, offered.hasRoom queueing.full⟩
      obtain ⟨before, differs⟩ := offered.mem_senders queueing.distinct unblocked waits
      obtain ⟨observation, running, rfl, left⟩ := queueing.known sender before
      exact ⟨observation, List.mem_map.mpr ⟨observation, running, if_neg differs⟩, rfl, left⟩
    · have offered := TaskQueue.offered_of_offer refused
      refine ⟨offered.distinct queueing.distinct unblocked, fun sender waits => ?_, offered.hasRoom queueing.full⟩
      by_cases own : sender = old.serial
      · exact ⟨old, member, own.symm, by simp [announced]⟩
      · have known := offered.knows own
        simp only [TaskQueue.knows, decide_eq_decide] at known
        exact queueing.known sender (known.mp waits)
  · exact absurd (kept.isOpen.symm.trans closed) (by decide)

/-- Senders wait only as long as the queue is full, and each for a task that it has. -/
theorem Queueing.step (queueing : monitor.Queueing) (kept : monitor.Kept) (stepped : monitor.step? action = some next)
    (undiverted : action ≠ .divert) (unclosed : action ≠ .closeQueue) : next.Queueing := by
  have turn := kept.turn stepped undiverted unclosed
  rcases queue_step stepped with same | ⟨serial, rfl⟩ | rfl | diverted | closed
  · exact queueing.of_tasks kept turn (by rw [same]) (by rw [same]) (by rw [same]; exact queueing.full)
  · exact queueing.send kept stepped
  · exact queueing.take kept turn stepped
  · exact absurd diverted undiverted
  · exact absurd closed unclosed

/-! ## Scans -/

/-- A scan that an observation lacks has been asked for, if its result will be needed. -/
def Asked (monitor : Monitor) : Prop :=
  monitor.policy.services.relevantCves = true → ∀ observation ∈ monitor.active, ∀ scan, observation.lacks scan = true →
    ∃ inquiry ∈ monitor.inquiries, inquiry.serial = observation.serial ∧ inquiry.scan = scan

/-- Nothing is asked and no scan has its result. -/
private theorem Asked.congr (asked : monitor.Asked) (policy : next.policy = monitor.policy)
    (inquiries : next.inquiries = monitor.inquiries)
    (same : ∀ observation ∈ next.active, ∃ old ∈ monitor.active, old.serial = observation.serial ∧
      old.sbom = observation.sbom ∧ old.vulnerabilities = observation.vulnerabilities) : next.Asked := by
  intro enabled observation member scan lacks
  rw [policy] at enabled
  rw [inquiries]
  obtain ⟨old, memberOld, serial, sbom, vulnerabilities⟩ := same observation member
  rw [← serial]
  refine asked enabled old memberOld scan ?_
  cases scan with
  | sbom => exact (congrArg Completion.isPending sbom).trans lacks
  | vulnerabilities => exact (congrArg Completion.isPending vulnerabilities).trans lacks

private theorem Asked.replace (asked : monitor.Asked) {old : Observation} (new : Observation) (member : old ∈ monitor.active)
    (policy : next.policy = monitor.policy) (inquiries : next.inquiries = monitor.inquiries)
    (active : next.active = (monitor.replace new).active)
    (same : old.serial = new.serial ∧ old.sbom = new.sbom ∧ old.vulnerabilities = new.vulnerabilities) :
    next.Asked := by
  refine asked.congr policy inquiries fun observation found => ?_
  rw [active] at found
  obtain ⟨before, memberBefore, rfl⟩ := List.mem_map.mp found
  split
  · exact ⟨old, member, same⟩
  · exact ⟨before, memberBefore, rfl, rfl, rfl⟩

private theorem Asked.concludeTask (asked : monitor.Asked) {old sent : Observation} {base : Monitor}
    (member : old ∈ monitor.active) (policy : base.policy = monitor.policy)
    (inquiries : base.inquiries = monitor.inquiries) (active : base.active = monitor.active)
    (same : old.serial = sent.serial ∧ old.sbom = sent.sbom ∧ old.vulnerabilities = sent.vulnerabilities)
    (failed : Bool) : (base.concludeTask sent failed).Asked := by
  have replaced : (base.replace (sent.taskDone failed).1).Asked := by
    refine asked.replace (sent.taskDone failed).1 member policy inquiries ?_ same
    simp only [Monitor.replace, active]
  unfold Monitor.concludeTask
  dsimp only
  split
  · refine replaced.congr rfl rfl fun observation found => ?_
    exact ⟨observation, List.mem_of_mem_filter found, rfl, rfl, rfl⟩
  · exact replaced

/-- A scan has its result. -/
private theorem Asked.answer (asked : monitor.Asked) {scan : Scan} {inquiry : Inquiry} {base : Monitor}
    {f : Observation → Observation}
    (found : (monitor.inquiries.find? fun inquiry =>
      decide (inquiry.serial = serial) && decide (inquiry.scan = scan)) = some inquiry)
    (policy : base.policy = monitor.policy) (inquiries : base.inquiries = monitor.inquiries.erase inquiry)
    (active : base.active = monitor.active)
    (completes : ∀ observation, (f observation).serial = observation.serial ∧ (f observation).lacks scan = false ∧
      ∀ other, other ≠ scan → (f observation).lacks other = observation.lacks other) :
    (base.change serial f).Asked := by
  have answered : inquiry.serial = serial ∧ inquiry.scan = scan := by simpa using List.find?_some found
  -- what others lack, or what is lacked of the other scan, is still asked for
  have remains (observation : Observation) (member : observation ∈ monitor.active) (other : Scan)
      (lacks : observation.lacks other = true) (differs : ¬(observation.serial = serial ∧ other = scan))
      (enabled : monitor.policy.services.relevantCves = true) :
      ∃ inquiry ∈ base.inquiries, inquiry.serial = observation.serial ∧ inquiry.scan = other := by
    obtain ⟨asks, memberAsks, own, kind⟩ := asked enabled observation member other lacks
    have another : asks ≠ inquiry := by
      rintro rfl
      exact differs ⟨own.symm.trans answered.1, kind.symm.trans answered.2⟩
    exact ⟨asks, by rw [inquiries]; exact (List.mem_erase_of_ne another).mpr memberAsks, own, kind⟩
  unfold change
  cases observed : base.observation? serial with
  | none =>
    intro enabled observation member other lacks
    have unnumbered : observation.serial ≠ serial := by
      simpa using List.find?_eq_none.mp observed observation member
    exact remains observation (active ▸ member) other lacks (fun own => unnumbered own.1) (policy ▸ enabled)
  | some old =>
    intro enabled observation member other lacks
    obtain ⟨memberOld, numbered⟩ := mem_active_of_observation? observed
    obtain ⟨serials, completed, kept⟩ := completes old
    obtain ⟨before, memberBefore, same⟩ := List.mem_map.mp member
    split at same
    · subst same
      have differs : other ≠ scan := by
        rintro rfl
        exact absurd (completed.symm.trans lacks) (by decide)
      rw [kept other differs] at lacks
      rw [serials]
      exact remains old (active ▸ memberOld) other lacks (fun own => differs own.2) (policy ▸ enabled)
    · rename_i another
      subst same
      exact remains before (active ▸ memberBefore) other lacks
        (fun own => another (own.1.trans (numbered.symm.trans serials.symm))) (policy ▸ enabled)

/-- Whoever waits for a scan has asked for it. -/
theorem Asked.step (asked : monitor.Asked) (stepped : monitor.step? action = some next) : next.Asked := by
  cases action with
  | ingest line | exclude container | intrude container | elapse duration | forgetPod pod | retainPods pods =>
    obtain rfl := Option.some.inj stepped
    exact asked
  | request start =>
    obtain rfl := Option.some.inj stepped
    unfold request
    split <;> exact asked
  | enroll index identity =>
    obtain ⟨start, -, ⟨-, rfl⟩ | ⟨-, rfl⟩⟩ := enroll?_spec stepped
    · exact asked
    · intro enabled observation member scan lacks
      rcases List.mem_append.mp member with before | fresh
      · obtain ⟨inquiry, asks, same⟩ := asked enabled observation before scan lacks
        exact ⟨inquiry, List.mem_append_left _ asks, same⟩
      · obtain rfl := List.mem_singleton.mp fresh
        have enabled : monitor.policy.services.relevantCves = true := enabled
        refine ⟨⟨monitor.nextSerial, scan, start.image, monitor.now⟩, List.mem_append_right _ ?_, rfl, rfl⟩
        cases scan <;> simp [inquiriesFor, enabled]
  | sbomReady serial result =>
    obtain ⟨inquiry, entries, found, -, rfl⟩ := sbomReady?_spec stepped
    refine asked.answer found rfl rfl rfl fun observation => ⟨rfl, ?_, fun other differs => ?_⟩
    · cases observation.sbom with
      | mk before => cases before <;> rfl
    · cases other with
      | sbom => exact absurd rfl differs
      | vulnerabilities => rfl
  | vulnerabilitiesReady serial result =>
    obtain ⟨inquiry, entries, found, -, rfl⟩ := vulnerabilitiesReady?_spec stepped
    refine asked.answer found rfl rfl rfl fun observation => ⟨rfl, ?_, fun other differs => ?_⟩
    · cases observation.vulnerabilities with
      | mk before => cases before <;> rfl
    · cases other with
      | sbom => rfl
      | vulnerabilities => exact absurd rfl differs
  | aggregate serial move =>
    obtain ⟨old, aggregator, acc, found, -, rfl⟩ := aggregate?_spec stepped
    exact asked.replace { old with aggregator := aggregator } (mem_active_of_observation? found).1 rfl rfl rfl
      ⟨rfl, rfl, rfl⟩
  | expire serial =>
    obtain ⟨old, found, -, -, rfl⟩ := expire?_spec stepped
    exact asked.replace { old with phase := .stoppedByTimer } (mem_active_of_observation? found).1 rfl rfl rfl
      ⟨rfl, rfl, rfl⟩
  | abort serial =>
    obtain ⟨old, outcome, aborted, -, -, -, -, -, reached⟩ := abort?_spec stepped
    refine asked.congr (by rw [reached]; rfl) (by rw [reached]; rfl) fun observation member => ?_
    rw [active_abort? stepped] at member
    exact ⟨observation, List.mem_of_mem_filter member, rfl, rfl, rfl⟩
  | report serial =>
    obtain ⟨old, outcome, notice, reported, found, -, -, -, -, same, outcomes⟩ := report?_spec stepped
    have replaced : (monitor.replace reported).Asked :=
      asked.replace reported (mem_active_of_observation? found).1 rfl rfl rfl (by rw [same]; exact ⟨rfl, rfl, rfl⟩)
    obtain ⟨-, rfl⟩ | ⟨-, rfl⟩ := outcomes
    · refine replaced.congr rfl rfl fun observation member => ?_
      exact ⟨observation, List.mem_of_mem_filter member, rfl, rfl, rfl⟩
    · exact replaced
  | send serial =>
    obtain ⟨old, service, unsent, found, -, ⟨-, -, queue, ⟨-, rfl⟩ | ⟨-, rfl⟩⟩ | ⟨-, rfl⟩⟩ := send?_spec stepped
    · exact asked.replace { old with unsent := unsent } (mem_active_of_observation? found).1 rfl rfl rfl
        ⟨rfl, rfl, rfl⟩
    · exact asked
    · refine asked.concludeTask (mem_active_of_observation? found).1 ?_ ?_ ?_ ⟨?_, ?_, ?_⟩ true <;> rfl
  | hire =>
    obtain ⟨-, rfl⟩ := hire?_spec stepped
    exact asked
  | take =>
    obtain ⟨task, queue, -, -, ⟨-, rfl⟩ | ⟨old, observed, rfl⟩⟩ := take?_spec stepped
    · exact asked
    · exact asked.replace { old with phase := .pipelineRunning } (List.mem_of_find?_eq_some observed) rfl rfl
        rfl ⟨rfl, rfl, rfl⟩
  | prepare =>
    obtain ⟨serial, task, old, -, found, ⟨derived, -, rfl⟩ | ⟨reason, -, rfl⟩⟩ := prepare?_spec stepped
    · exact asked
    · refine asked.concludeTask (mem_active_of_observation? found).1 ?_ ?_ ?_ ⟨?_, ?_, ?_⟩ true <;> rfl
  | stored result =>
    obtain ⟨serial, task, artifact, since, old, entries, failed, -, found, -, -, rfl⟩ := stored?_spec stepped
    refine asked.concludeTask (mem_active_of_observation? found).1 ?_ ?_ ?_ ⟨?_, ?_, ?_⟩ failed <;> rfl
  | divert =>
    obtain ⟨⟨task, _⟩, diverted, rfl⟩ := Option.map_eq_some_iff.mp stepped
    obtain ⟨queue, -, -, rfl⟩ := divert?_spec diverted
    exact asked
  | closeQueue =>
    obtain ⟨-, rfl⟩ := closeQueue?_spec stepped
    exact asked

/-! ## The end of every observation -/

/-- Whoever waits for a place or for a scan will be served. -/
structure Served (monitor : Monitor) : Prop extends monitor.Kept where
  queueing : monitor.Queueing
  asked : monitor.Asked

theorem served_empty (policy : Policy) (cacheSize : Nat) : (empty policy cacheSize).Served where
  toKept := kept_empty policy cacheSize
  queueing := ⟨List.nodup_nil, nofun, fun some => absurd rfl some⟩
  asked := fun _ _ member => absurd member List.not_mem_nil

theorem Served.step (served : monitor.Served) (stepped : monitor.step? action = some next)
    (undiverted : action ≠ .divert) (unclosed : action ≠ .closeQueue) : next.Served where
  toKept := served.toKept.step stepped undiverted unclosed
  queueing := served.queueing.step served.toKept stepped undiverted unclosed
  asked := served.asked.step stepped

/-- Whoever waits will be served, in every run that leaves the queue to the worker. -/
theorem Served.run (served : monitor.Served) (undiverted : .divert ∉ actions) (unclosed : .closeQueue ∉ actions)
    (runs : monitor.run? actions = some next) : next.Served := by
  refine run_induction served (fun action member _ _ served stepped => served.step stepped ?_ ?_) runs
  · rintro rfl
    exact undiverted member
  · rintro rfl
    exact unclosed member

theorem Settles.served (settles : monitor.Settles next) (served : monitor.Served) : next.Served := by
  induction settles with
  | refl => exact served
  | tail _ step ih =>
    obtain ⟨action, scheduled, stepped⟩ := step
    refine ih.step stepped ?_ ?_ <;> (rintro rfl; contradiction)

theorem Served.setNow (served : monitor.Served) (now : Nat) : Served { monitor with now := now } :=
  ⟨served.toKept.setNow now, ⟨served.queueing.distinct, served.queueing.known, served.queueing.full⟩, served.asked⟩

theorem Served.instant (served : monitor.Served) (surroundings : Surroundings) (now : Nat) :
    (Monitor.settle surroundings { monitor with now := now }).Served :=
  (settles_settle surroundings _).served (served.setNow now)

/-- An observation past its deadline goes on until its tasks are announced. -/
theorem isSome_observationAction? (monitor : Monitor) (stopped : observation.phase = .stoppedByTimer)
    (unreported : observation.aggregation.result = none) :
    (monitor.observationAction? observation).isSome = true := by
  unfold observationAction?
  simp only [stopped, reduceCtorEq, decide_false, Bool.false_and, Bool.false_eq_true, ↓reduceIte]
  cases standing : observation.aggregator with
  | created | subscribed | draining | leaving => simp [move?, standing]
  | listening => simp [move?, standing, Observation.isStopped, stopped]
  | ended =>
    simp [move?, standing, Aggregation.Aggregator.outcome?, Observation.isStopped, stopped, Completion.isPending,
      unreported]

theorem observationAction?_of_isQuiet (quiet : monitor.isQuiet surroundings = true)
    (member : observation ∈ monitor.active) : monitor.observationAction? observation = none := by
  simp only [isQuiet, Bool.and_eq_true, Option.isNone_iff_eq_none] at quiet
  have arrivals := quiet.1.1
  simp only [next?] at arrivals
  split at arrivals
  · contradiction
  · exact List.findSome?_eq_none_iff.mp arrivals observation member

theorem inquiries_of_dues (nothing : monitor.dues surroundings = []) : monitor.inquiries = [] := by
  simp only [dues, List.append_eq_nil_iff, List.map_eq_nil_iff] at nothing
  exact nothing.1.2

/-- A worker that has nothing to wait for is done with its tasks. -/
theorem Served.idle_of_isQuiet (served : monitor.Served) (quiet : monitor.isQuiet surroundings = true)
    (nothing : monitor.dues surroundings = []) (hired : monitor.worker ≠ .absent) :
    monitor.worker = .idle ∧ monitor.queue.tasks = [] := by
  simp only [isQuiet, Bool.and_eq_true, Option.isNone_iff_eq_none] at quiet
  have waits := quiet.1.2
  simp only [next?, workerAction?] at waits
  have unasked := inquiries_of_dues nothing
  cases worker : monitor.worker with
  | absent => exact absurd worker hired
  | idle => exact ⟨rfl, by simpa [worker] using waits⟩
  | storing serial task artifact since =>
    have due : since + (surroundings.store artifact).delay ∈ monitor.dues surroundings :=
      mem_dues.mpr (.inr (.inr (by rw [worker]; rfl)))
    rw [nothing] at due
    contradiction
  | preparing serial task =>
    exfalso
    have working : monitor.books.working = some (serial, task) := by simp [books, worker, Worker.task?]
    obtain ⟨owner, member, rfl, -⟩ := served.accounted.worked serial task working
    have found := served.observation?_eq_some_iff.mpr ⟨member, rfl⟩
    have stands := served.accounted.stands owner member
    have outstanding := Books.outstanding_of_working working
    have reported := stands.reported (by rw [outstanding]; exact List.cons_ne_nil _ _)
    have underived : owner.derive? task.service = none := by
      by_contra some
      obtain ⟨result, derives⟩ := Option.ne_none_iff_exists'.mp some
      simp [worker, found, derives] at waits
    obtain ⟨service, scan, lacks⟩ := Observation.lacks_of_derive? reported underived
    have enabled : monitor.policy.services.relevantCves = true := by
      refine EnabledServices.relevantCves_of_mem (stands.ordered.subset ?_)
      rw [outstanding, service]
      exact List.mem_cons_self ..
    obtain ⟨inquiry, asks, -⟩ := served.asked enabled owner member scan lacks
    rw [unasked] at asks
    contradiction

/-- Who has reported is done when the worker has nothing left to do and nobody can send. -/
theorem Served.unreported_of_idle (served : monitor.Served) (idle : monitor.worker = .idle)
    (empty : monitor.queue.tasks = []) (silent : monitor.senders = []) (member : observation ∈ monitor.active) :
    observation.aggregation.result = none := by
  have unable (observation : Observation) (member : observation ∈ monitor.active) (unsent : observation.unsent ≠ []) :
      observation.serial ∈ monitor.queue.waiting := by
    by_contra unblocked
    have able : monitor.canSend observation = true := by simp [canSend, unsent, TaskQueue.isBlocked, unblocked]
    have listed := mem_senders_of_canSend member able
    rw [silent] at listed
    contradiction
  -- someone who waits would have to wait for someone who does not
  have unsent : observation.unsent = [] := by
    by_contra unsent
    have waits := unable observation member unsent
    have full := served.queueing.full (List.ne_nil_of_mem waits)
    simp only [TaskQueue.hasRoom, empty, decide_eq_false_iff_not, List.length_nil] at full
    obtain ⟨sender, granted⟩ := List.exists_mem_of_length_pos (l := monitor.queue.granted)
      (by have : TaskQueue.capacity = 10 := rfl; omega)
    obtain ⟨other, memberOther, rfl, left⟩ := served.queueing.known sender (List.mem_append_left _ granted)
    have waitsToo := unable other memberOther left
    exact (List.disjoint_of_nodup_append served.queueing.distinct) granted waitsToo
  by_contra reported
  refine ((served.accounted.stands observation member).announced reported).2 ?_
  simp [Books.outstanding, Books.inProcess, Books.queued, books, idle, Worker.task?, empty, unsent]

/-- When the monitor is quiet, nobody can send. -/
theorem senders_of_isQuiet (quiet : monitor.isQuiet surroundings = true) : monitor.senders = [] := by
  simp only [isQuiet, Bool.and_eq_true, List.isEmpty_iff] at quiet
  exact quiet.2

/-- When nothing is ahead, nobody is observed any longer. -/
theorem Served.active_eq_nil (served : monitor.Served) (quiet : monitor.isQuiet surroundings = true)
    (nothing : monitor.dues surroundings = []) (hired : monitor.worker ≠ .absent) : monitor.active = [] := by
  obtain ⟨idle, empty⟩ := served.idle_of_isQuiet quiet nothing hired
  refine List.eq_nil_iff_forall_not_mem.mpr fun observation member => ?_
  have unreported := served.unreported_of_idle idle empty (senders_of_isQuiet quiet) member
  have phase : observation.phase ≠ .watching := by
    intro watching
    have due := deadline_mem_dues member watching surroundings
    rw [nothing] at due
    contradiction
  have stopped := ((served.accounted.stands observation member).unannounced unreported).1.resolve_left phase
  have acts := isSome_observationAction? monitor stopped unreported
  rw [observationAction?_of_isQuiet quiet member] at acts
  contradiction

/-- Nothing is due any more when nothing is foreseen. -/
theorem Kept.dues_eq_nil (kept : monitor.Kept) (nothing : monitor.foreseen = 0) : monitor.dues surroundings = [] := by
  obtain ⟨sum, unasked⟩ : (monitor.active.map foreseenOf).sum = 0 ∧ monitor.inquiries = [] := by
    simpa [foreseen] using nothing
  have each : ∀ observation ∈ monitor.active, foreseenOf observation = 0 := fun observation running =>
    Nat.le_zero.mp (sum ▸ List.le_sum_of_mem (List.mem_map_of_mem running))
  refine List.eq_nil_iff_forall_not_mem.mpr fun due member => ?_
  rcases mem_dues.mp member with ⟨observation, running, watching, -⟩ | ⟨inquiry, asks, -⟩ | storing
  · have none := each observation running
    simp [foreseenOf, watching] at none
  · rw [unasked] at asks
    contradiction
  · cases worker : monitor.worker with
    | absent | idle | preparing => simp [Surroundings.storeDue?, worker] at storing
    | storing serial task artifact since =>
      have working : monitor.books.working = some (serial, task) := by simp [books, worker, Worker.task?]
      obtain ⟨owner, running, rfl, -⟩ := kept.accounted.worked serial task working
      have stands := kept.accounted.stands owner running
      have outstanding : monitor.books.outstanding owner ≠ [] := by
        rw [Books.outstanding_of_working working]
        exact List.cons_ne_nil _ _
      have pending := stands.pendingTasks_pos outstanding
      have none := each owner running
      unfold foreseenOf at none
      split at none <;> split at none <;> omega

theorem hired_instant (hired : monitor.worker ≠ .absent) (surroundings : Surroundings) (now : Nat) :
    (Monitor.settle surroundings { monitor with now := now }).worker ≠ .absent := fun absent =>
  hired ((settles_settle surroundings { monitor with now := now }).frame.2.2 absent)

/-- From a quiet state, enough time ends every observation. -/
private theorem Served.exists_advanceFor (served : monitor.Served) (quiet : monitor.isQuiet surroundings = true)
    (hired : monitor.worker ≠ .absent) : ∃ enough, ∀ target ≥ enough, ∀ fuel > monitor.foreseen,
      (advanceFor surroundings target fuel monitor).active = [] := by
  induction bound : monitor.foreseen using Nat.strong_induction_on generalizing monitor with
  | h _ ih =>
    subst bound
    have quietAt (now : Nat) := (served.toKept.setNow now).isQuiet_settle surroundings
    cases least : (monitor.dues surroundings).min? with
    | none =>
      have nothing := List.min?_eq_none_iff.mp least
      refine ⟨0, fun target _ fuel enough => ?_⟩
      obtain ⟨fuel, rfl⟩ := Nat.exists_eq_succ_of_ne_zero (Nat.ne_zero_of_lt enough)
      have none : monitor.nextDue? surroundings target = none := by simp [nextDue?, nothing]
      simp only [advanceFor, none]
      -- nothing is foreseen, so nothing comes up at the last instant
      have gone := served.active_eq_nil quiet nothing hired
      have unforeseen : monitor.foreseen = 0 := by simp [foreseen, gone, inquiries_of_dues nothing]
      have still : (Monitor.settle surroundings { monitor with now := target }).foreseen ≤ monitor.foreseen := by
        rcases (settles_settle surroundings { monitor with now := target }).foreseen (served.toKept.setNow target)
          surroundings with less | ⟨atMost, -⟩
        · exact Nat.le_of_lt less
        · exact atMost
      have last := served.instant surroundings target
      exact last.active_eq_nil (quietAt target) (last.dues_eq_nil (by omega)) (hired_instant hired surroundings target)
    | some due =>
      obtain ⟨member, first⟩ := List.min?_eq_some_iff.mp least
      have ahead := lt_of_isQuiet quiet member
      have found {target : Nat} (within : due ≤ target) : monitor.nextDue? surroundings target = some due := by
        refine List.min?_eq_some_iff.mpr ⟨List.mem_filter.mpr ⟨member, by simpa using ⟨ahead, within⟩⟩, ?_⟩
        exact fun other memberOther => first other (List.mem_of_mem_filter memberOther)
      have less := served.foreseen_instant_lt (found (Nat.le_refl due))
      obtain ⟨enough, ends⟩ := ih _ less (served.instant surroundings due) (quietAt due)
        (hired_instant hired surroundings due) rfl
      refine ⟨max due enough, fun target long fuel more => ?_⟩
      obtain ⟨fuel, rfl⟩ := Nat.exists_eq_succ_of_ne_zero (Nat.ne_zero_of_lt more)
      simp only [advanceFor, found (Nat.le_trans (Nat.le_max_left ..) long)]
      exact ends target (Nat.le_trans (Nat.le_max_right ..) long) fuel (by omega)

/-- With a worker at the queue, every observation ends when enough time has passed. -/
theorem Served.exists_advance (served : monitor.Served) (hired : monitor.worker ≠ .absent)
    (surroundings : Surroundings) : ∃ enough, ∀ duration ≥ enough,
      ((monitor.settle surroundings).advance surroundings duration).active = [] := by
  have settles := settles_settle surroundings monitor
  have settled := settles.served served
  obtain ⟨enough, ends⟩ := settled.exists_advanceFor (served.isQuiet_settle surroundings) fun absent =>
    hired (settles.frame.2.2 absent)
  refine ⟨enough, fun duration long => ends _ (by omega) _ settled.foreseen_lt⟩

end Monitor

end Observatory
