import Observatory.Proofs.Monitor.Lifecycle
import Observatory.Proofs.Monitor.Tally

/-! # What becomes of the tasks

Past its deadline an observation has one task for each enabled service. Main statement: the worker makes one
attempt at each of them, in the order of the services; the store is given just the artifacts that could be derived,
each of them the one that the results of the observation yield for its service; and the record of the observation
counts the attempts that failed. An aborted observation gives nothing to the store. Across observations, tasks are
done in the order in which they entered the queue.
-/

namespace Observatory

/-! ## Order in the queue -/

/-- A task that a turn puts into the queue is the last one that waits, and the task that the worker is done with was
the first one. -/
theorem Books.Turn.inOrder {books next : Books} (turn : Turn books next) (accounted : books.Accounted) :
    books.working.toList.map (·.2) ++ books.tasks ++ next.tasks.drop books.tasks.length =
      (if next.working = none then books.working.toList.map (·.2) else []) ++
        (next.working.toList.map (·.2) ++ next.tasks) := by
  have unchanged (working : next.working = books.working) (tasks : next.tasks = books.tasks) :
      books.working.toList.map (·.2) ++ books.tasks ++ next.tasks.drop books.tasks.length =
        (if next.working = none then books.working.toList.map (·.2) else []) ++
          (next.working.toList.map (·.2) ++ next.tasks) := by
    cases taken : books.working <;> simp [working, tasks, taken]
  cases turn with
  | kept | begun | amended | expired | aborted | reported | completed | offered => exact unchanged rfl rfl
  | sent old member service rest announced =>
    cases taken : books.working <;> simp [Books.replace, taken]
  | taken old member task rest idle first own => simp [idle, first]
  | unexpected task rest idle first unobserved =>
    obtain ⟨owner, member, owns⟩ := accounted.owned task (first ▸ List.mem_cons_self ..)
    exact absurd owns (unobserved owner member)
  | concluded old member task working failed more => simp [Books.replace, working]
  | ended old member task working failed last => simp [Books.finish, working]

/-! ## One observation -/

/-- How an observation, its results and the attempts at its tasks agree. -/
structure Desk.Tallied (services : List Service) (start : Start) (identity : ResourceIdentity) (findings : Findings)
    (desk : Desk) (attempts : List Attempt) : Prop where
  identified : ∀ standing, desk.standing = some standing → standing.start = start ∧ standing.identity = identity
  unrecorded : ∀ standing, desk.standing = some standing → desk.records = []
  failed : ∀ standing, desk.standing = some standing → standing.failedTasks = attempts.countP (·.isFailed)
  unattempted : ∀ standing, desk.standing = some standing → standing.result = none → attempts = []
  attempted : ∀ standing, desk.standing = some standing → standing.result ≠ none →
    ∃ left, attempts.map (·.service) ++ left = services ∧ left.length = standing.pendingTasks
  handed : desk.artifacts = attempts.filterMap (·.artifact?) ++ desk.storing.toList.map (·.2)
  derived : ∀ attempt ∈ attempts, findings.Yields identity.resourceName attempt.service attempt.derivation
  stored : ∀ service artifact, desk.storing = some (service, artifact) →
    findings.Yields identity.resourceName service (.ok artifact)
  ended : desk.standing = none → desk.storing = none ∧ ∃ outcome,
    desk.records = [⟨start.container, start.pod, identity.resourceName, outcome⟩] ∧
      ((∃ reason, outcome = .aborted reason) ∧ attempts = [] ∨
        outcome = .completed (attempts.countP (·.isFailed)) ∧ attempts.map (·.service) = services)

/-- What is left to agree on once the observation has ended: its one record, and what went to the store. -/
theorem Desk.Tallied.of_gone {services : List Service} {start : Start} {identity : ResourceIdentity}
    {findings : Findings} {desk : Desk} {attempts : List Attempt} (gone : desk.standing = none)
    (idle : desk.storing = none) (handed : desk.artifacts = attempts.filterMap (·.artifact?))
    (derived : ∀ attempt ∈ attempts, findings.Yields identity.resourceName attempt.service attempt.derivation)
    {outcome : Outcome}
    (recorded : desk.records = [⟨start.container, start.pod, identity.resourceName, outcome⟩])
    (reason : (∃ reason, outcome = .aborted reason) ∧ attempts = [] ∨
      outcome = .completed (attempts.countP (·.isFailed)) ∧ attempts.map (·.service) = services) :
    desk.Tallied services start identity findings attempts where
  identified := by simp [gone]
  unrecorded := by simp [gone]
  failed := by simp [gone]
  unattempted := by simp [gone]
  attempted := by simp [gone]
  handed := by simp [handed, idle]
  derived := derived
  stored := by simp [idle]
  ended _ := ⟨idle, outcome, recorded, reason⟩

/-- Results that come later leave the attempts as they are. -/
theorem Desk.Tallied.or {services : List Service} {start : Start} {identity : ResourceIdentity} {findings : Findings}
    {desk : Desk} {attempts : List Attempt} (tallied : desk.Tallied services start identity findings attempts)
    (later : Findings) : desk.Tallied services start identity (findings.or later) attempts :=
  { tallied with
    derived := fun attempt made => (tallied.derived attempt made).or later
    stored := fun service artifact storing => (tallied.stored service artifact storing).or later }

namespace Monitor

open Books

variable {monitor next : Monitor} {action : Action} {actions : List Action} {serial : Nat}
  {observation old : Observation} {services : List Service} {start : Start} {identity : ResourceIdentity}
  {known : Findings} {made : List Attempt}

theorem standing_of_found (found : monitor.observation? serial = some old) :
    (monitor.desk serial).standing = some old.standing := by
  simp [desk, found]

/-- An observation that ends leaves one record, under the names it began with. -/
theorem records_close (tallied : (monitor.desk serial).Tallied services start identity known made)
    (found : monitor.observation? serial = some old) (outcome : Outcome) :
    ((monitor.desk serial).close old outcome).records =
      [⟨start.container, start.pod, identity.resourceName, outcome⟩] := by
  have standing := standing_of_found found
  obtain ⟨sameStart, sameIdentity⟩ := tallied.identified _ standing
  simp only [Desk.close, tallied.unrecorded _ standing, Books.recordOf, Observation.container,
    Observation.resourceName, List.nil_append]
  rw [show old.start = start from sameStart, show old.identity = identity from sameIdentity]

/-- Nothing of an observation is at the store before the worker has begun with its tasks. -/
theorem storing_eq_none (accounted : monitor.books.Accounted) (found : monitor.observation? serial = some old)
    (early : old.phase ≠ .pipelineRunning) : (monitor.desk serial).storing = none := by
  obtain ⟨member, numbered⟩ := mem_active_of_observation? found
  by_contra busy
  obtain ⟨⟨service, artifact⟩, storing⟩ := Option.ne_none_iff_exists'.mp busy
  cases worker : monitor.worker with
  | absent | idle | preparing => simp [desk, worker, Worker.storing?] at storing
  | storing number task artifact since =>
    have own : number = serial := by
      by_contra differs
      simp [desk, worker, Worker.storing?, differs] at storing
    have working : monitor.books.working = some (old.serial, task) := by
      simp [books, worker, Worker.task?, own, numbered]
    exact early (accounted.phase_of_working member working)

/-- The task at the worker is the next of those that have not been attempted. -/
theorem next_attempt
    (tallied : (monitor.desk serial).Tallied monitor.policy.services.toList start identity known made)
    (accounted : monitor.books.Accounted) (found : monitor.observation? serial = some old) {task : Task}
    (working : monitor.worker.task? = some (serial, task)) :
    old.aggregation.result ≠ none ∧ ∃ left, made.map (·.service) ++ task.service :: left = monitor.policy.services.toList ∧
      left.length + 1 = old.pendingTasks := by
  obtain ⟨member, rfl⟩ := mem_active_of_observation? found
  have stands := accounted.stands old member
  have atWork : monitor.books.working = some (old.serial, task) := working
  have outstanding := outstanding_of_working atWork
  have reported := stands.reported (by rw [outstanding]; exact List.cons_ne_nil _ _)
  obtain ⟨left, split, length⟩ := tallied.attempted _ (standing_of_found found) reported
  obtain ⟨done, ordered⟩ := stands.ordered
  have counted := stands.counted
  have services : monitor.books.services = monitor.policy.services.toList := rfl
  rw [services, ← split] at ordered
  have same := (List.append_inj' ordered (by rw [length]; exact counted.symm)).2
  rw [outstanding] at same counted
  exact ⟨reported, monitor.books.queued old.container ++ old.unsent, by rw [same, split], counted.symm⟩

/-- The worker is done with a task. -/
theorem tallied_conclude
    (tallied : (monitor.desk serial).Tallied monitor.policy.services.toList start identity known made)
    (accounted : monitor.books.Accounted) (found : monitor.observation? serial = some old) {task : Task}
    (working : monitor.worker.task? = some (serial, task)) {attempt : Attempt}
    (service : attempt.service = task.service)
    (handed : attempt.artifact?.toList = (monitor.desk serial).storing.toList.map (·.2))
    (derived : known.Yields identity.resourceName attempt.service attempt.derivation) :
    { (monitor.desk serial).conclude old attempt.isFailed with storing := none }.Tallied
      monitor.policy.services.toList start identity known (made ++ [attempt]) := by
  have standing := standing_of_found found
  obtain ⟨sameStart, sameIdentity⟩ := tallied.identified _ standing
  obtain ⟨reported, left, split, length⟩ := next_attempt tallied accounted found working
  have counted : (old.taskDone attempt.isFailed).1.failedTasks = (made ++ [attempt]).countP (·.isFailed) := by
    have before : old.failedTasks = made.countP (·.isFailed) := tallied.failed _ standing
    simp only [Observation.taskDone, before, List.countP_append, List.countP_singleton]
  have services : (made ++ [attempt]).map (·.service) ++ left = monitor.policy.services.toList := by
    simpa [service] using split
  have artifacts : (monitor.desk serial).artifacts = (made ++ [attempt]).filterMap (·.artifact?) := by
    rw [tallied.handed, ← handed, List.filterMap_append]
    cases artifact : attempt.artifact? <;> simp [artifact]
  have derivedAll : ∀ attempted ∈ made ++ [attempt],
      known.Yields identity.resourceName attempted.service attempted.derivation := by
    intro attempted member
    rcases List.mem_append.mp member with earlier | now
    · exact tallied.derived attempted earlier
    · obtain rfl := List.mem_singleton.mp now
      exact derived
  unfold Desk.conclude
  by_cases last : old.pendingTasks = 1
  · -- with the last task the observation ends
    rw [if_pos last]
    have nothing : left = [] := List.length_eq_zero_iff.mp (by omega)
    have recorded := records_close tallied found (.completed (old.taskDone attempt.isFailed).1.failedTasks)
    exact .of_gone rfl rfl artifacts derivedAll recorded (.inr ⟨congrArg _ counted, by simpa [nothing] using services⟩)
  · rw [if_neg last]
    refine ⟨?_, ?_, ?_, ?_, ?_, ?_, derivedAll, by simp, by simp⟩
    · rintro _ ⟨⟩
      exact ⟨sameStart, sameIdentity⟩
    · rintro _ ⟨⟩
      exact tallied.unrecorded _ standing
    · rintro _ ⟨⟩
      exact counted
    · rintro _ ⟨⟩ unreported
      exact absurd unreported reported
    · rintro _ ⟨⟩ -
      exact ⟨left, services, by simp only [Observation.standing, Observation.taskDone]; omega⟩
    · simpa using artifacts

/-- An observation ends before its tasks are announced. -/
theorem tallied_close
    (tallied : (monitor.desk serial).Tallied monitor.policy.services.toList start identity known made)
    (accounted : monitor.books.Accounted) (found : monitor.observation? serial = some old)
    (unreported : old.aggregation.result = none) (outcome : Outcome)
    (reason : (∃ reason, outcome = .aborted reason) ∨
      outcome = .completed 0 ∧ monitor.policy.services.toList = []) :
    ((monitor.desk serial).close old outcome).Tallied monitor.policy.services.toList start identity known made := by
  have early : old.phase ≠ .pipelineRunning := by
    have phase := ((accounted.stands old (mem_active_of_observation? found).1).unannounced unreported).1
    rintro running
    rw [running] at phase
    simp at phase
  have idle := storing_eq_none accounted found early
  have handed := tallied.handed
  rw [idle, Option.toList_none, List.map_nil, List.append_nil] at handed
  obtain rfl := tallied.unattempted _ (standing_of_found found) unreported
  exact .of_gone rfl idle handed tallied.derived (records_close tallied found outcome)
    (reason.imp (⟨·, rfl⟩) fun ⟨completed, disabled⟩ => ⟨completed, disabled.symm⟩)

/-- An observation goes on, with as many failed tasks as before. -/
theorem tallied_revise
    (tallied : (monitor.desk serial).Tallied monitor.policy.services.toList start identity known made)
    (found : monitor.observation? serial = some old) {standing : Standing}
    (same : standing.start = old.start ∧ standing.identity = old.identity ∧ standing.failedTasks = old.failedTasks)
    (unattempted : standing.result = none → made = [])
    (attempted : standing.result ≠ none → ∃ left, made.map (·.service) ++ left = monitor.policy.services.toList ∧
      left.length = standing.pendingTasks) :
    { monitor.desk serial with standing := some standing }.Tallied monitor.policy.services.toList start identity
      known made := by
  have stood := standing_of_found found
  obtain ⟨sameStart, sameIdentity⟩ := tallied.identified _ stood
  refine ⟨?_, ?_, ?_, ?_, ?_, tallied.handed, tallied.derived, tallied.stored, nofun⟩
  · rintro _ ⟨⟩
    exact ⟨same.1.trans sameStart, same.2.1.trans sameIdentity⟩
  · rintro _ ⟨⟩
    exact tallied.unrecorded _ stood
  · rintro _ ⟨⟩
    exact same.2.2.trans (tallied.failed _ stood)
  · rintro _ ⟨⟩
    exact unattempted
  · rintro _ ⟨⟩
    exact attempted

/-- An observation keeps agreeing with its attempts, whatever is done to its tasks. -/
theorem tallied_tally {attempt : Option Attempt} {desk : Desk}
    (tallied : (monitor.desk serial).Tallied monitor.policy.services.toList start identity known made)
    (informed : ∀ observation, monitor.observation? serial = some observation → observation.findings = known)
    (accounted : monitor.books.Accounted) (isOpen : monitor.queue.isOpen = true) (issued : serial < monitor.nextSerial)
    (tally : Tally monitor serial attempt desk) :
    desk.Tallied monitor.policy.services.toList start identity known (made ++ attempt.toList) := by
  cases tally with
  | aside => simpa using tallied
  | begun _ _ fresh => omega
  | aborted old found watching outcome ended =>
    have unreported := (accounted.stands old (mem_active_of_observation? found).1).unreported watching
    simpa using tallied_close tallied accounted found unreported _ (.inl ⟨_, rfl⟩)
  | announced old found stopped unreported outcome ended enabled =>
    have nothing := tallied.unattempted _ (standing_of_found found) unreported
    subst nothing
    refine tallied_revise tallied found ⟨rfl, rfl, rfl⟩ nofun fun _ => ?_
    exact ⟨monitor.policy.services.toList, rfl, rfl⟩
  | unserved old found stopped unreported outcome ended disabled =>
    simpa using tallied_close tallied accounted found unreported _ (.inr ⟨rfl, disabled⟩)
  | sent old found service rest announced =>
    have stood := standing_of_found found
    rw [Option.toList_none, List.append_nil]
    exact tallied_revise tallied found ⟨rfl, rfl, rfl⟩ (tallied.unattempted old.standing stood)
      (tallied.attempted old.standing stood)
  | dropped old found service rest announced closed => exact absurd (isOpen.symm.trans closed) (by decide)
  | offered old found task preparing derived derives =>
    have stood := standing_of_found found
    have nothing : (monitor.desk serial).storing = none := by simp [Monitor.desk, preparing, Worker.storing?]
    have handed := tallied.handed
    rw [nothing] at handed
    rw [Option.toList_none, List.append_nil]
    refine ⟨tallied.identified, tallied.unrecorded, tallied.failed, tallied.unattempted, tallied.attempted, ?_,
      tallied.derived, ?_, ?_⟩
    · simpa using handed
    · rintro _ _ ⟨⟩
      rw [← (tallied.identified _ stood).2, ← informed old found]
      exact Observation.yields_of_derive? derives
    · intro absent
      rw [stood] at absent
      contradiction
  | underived old found task preparing reason derives =>
    have working : monitor.worker.task? = some (serial, task) := by simp [preparing, Worker.task?]
    have service : (Attempt.underived task.service reason).service = task.service := rfl
    refine tallied_conclude tallied accounted found working service ?_ ?_
    · simp [Monitor.desk, preparing, Worker.storing?, Attempt.artifact?]
    · rw [← (tallied.identified _ (standing_of_found found)).2, ← informed old found]
      exact Observation.yields_of_derive? derives
  | answered old found task artifact since storing answer failed isFailed =>
    have working : monitor.worker.task? = some (serial, task) := by simp [storing, Worker.task?]
    have atStore : (monitor.desk serial).storing = some (task.service, artifact) := by
      simp [Monitor.desk, storing, Worker.storing?]
    subst isFailed
    refine tallied_conclude tallied accounted found working rfl ?_ ?_
    · simp [atStore, Attempt.artifact?]
    · exact tallied.stored _ _ atStore

/-! ## Runs -/

/-- What the steps of a run tell, one after the other. -/
def gather {α : Type} (tell : Monitor → Action → Monitor → List α) : Monitor → List Action → List α
  | _, [] => []
  | monitor, action :: rest =>
      match monitor.step? action with
      | some next => tell monitor action next ++ next.gather tell rest
      | none => []

theorem gather_cons {α : Type} {tell : Monitor → Action → Monitor → List α}
    (stepped : monitor.step? action = some next) (rest : List Action) :
    monitor.gather tell (action :: rest) = tell monitor action next ++ next.gather tell rest := by
  simp only [gather, stepped]

/-- What a run tells is what its parts tell. -/
theorem gather_append {α : Type} {tell : Monitor → Action → Monitor → List α} {first : List Action}
    (runs : monitor.run? first = some next) (second : List Action) :
    monitor.gather tell (first ++ second) = monitor.gather tell first ++ next.gather tell second := by
  induction first generalizing monitor with
  | nil =>
    obtain rfl := Option.some.inj runs
    rfl
  | cons action rest ih =>
    obtain ⟨middle, stepped, runs⟩ := Option.bind_eq_some_iff.mp runs
    rw [List.cons_append, gather_cons stepped, gather_cons stepped, ih runs, List.append_assoc]

theorem gather_concat {α : Type} {tell : Monitor → Action → Monitor → List α} {initial : Monitor} {past : List Action}
    (runs : initial.run? past = some monitor) (stepped : monitor.step? action = some next) :
    initial.gather tell (past ++ [action]) = initial.gather tell past ++ tell monitor action next := by
  rw [gather_append runs, gather_cons stepped]
  simp [gather]

/-- What an action lets the observation with this number know, if it runs. -/
def finding (monitor : Monitor) (serial : Nat) (action : Action) : Findings :=
  match monitor.observation? serial with
  | some observation => observation.finding action
  | none => .none

/-- The results that a run gives an observation. -/
def findings (serial : Nat) (monitor : Monitor) (actions : List Action) : Findings :=
  (monitor.gather (fun monitor action _ => [monitor.finding serial action]) actions).foldl Findings.or .none

/-- The last action adds what it lets the observation know. -/
theorem findings_concat {initial : Monitor} {past : List Action} (runs : initial.run? past = some monitor)
    (stepped : monitor.step? action = some next) : initial.findings serial (past ++ [action]) =
      (initial.findings serial past).or (monitor.finding serial action) := by
  rw [Monitor.findings, gather_concat runs stepped, List.foldl_append]
  rfl

/-- The attempts at tasks of an observation that a run makes. -/
def attempts (serial : Nat) : Monitor → List Action → List Attempt :=
  gather fun monitor action _ => (monitor.attempt? serial action).toList

/-- The tasks that enter the queue in a run. -/
def entered : Monitor → List Action → List Task :=
  gather fun monitor _ next => next.queue.tasks.drop monitor.queue.tasks.length

/-- The tasks that the worker is done with in a run. -/
def done : Monitor → List Action → List Task :=
  gather fun monitor _ next =>
    if next.worker.task? = none then monitor.worker.task?.toList.map (·.2) else []

/-- What holds at first, and after each action that leaves the queue to the worker if it did before, holds after every
such run. -/
theorem Kept.run_induction {initial : Monitor} {motive : List Action → Monitor → Prop} (kept : initial.Kept)
    (first : motive [] initial)
    (step : ∀ past monitor action next, initial.run? past = some monitor → monitor.Kept →
      monitor.step? action = some next → Books.Turn monitor.books next.books → motive past monitor →
      motive (past ++ [action]) next)
    (undiverted : .divert ∉ actions) (unclosed : .closeQueue ∉ actions) (runs : initial.run? actions = some monitor) :
    monitor.Kept ∧ motive actions monitor := by
  refine run_induction_concat (motive := fun past monitor => .divert ∉ past → .closeQueue ∉ past →
    monitor.Kept ∧ motive past monitor) ?_ ?_ runs undiverted unclosed
  · exact fun _ _ => ⟨kept, first⟩
  · intro past monitor action next runs stepped holds undiverted unclosed
    rw [List.mem_append, List.mem_singleton, not_or] at undiverted unclosed
    obtain ⟨kept, holds⟩ := holds undiverted.1 unclosed.1
    have turn := kept.turn stepped (Ne.symm undiverted.2) (Ne.symm unclosed.2)
    exact ⟨kept.step stepped (Ne.symm undiverted.2) (Ne.symm unclosed.2),
      step past monitor action next runs kept stepped turn holds⟩

/-- Tasks leave the worker in the order in which they entered the queue. -/
theorem Kept.entered_eq (kept : monitor.Kept) (undiverted : .divert ∉ actions) (unclosed : .closeQueue ∉ actions)
    (runs : monitor.run? actions = some next) :
    monitor.worker.task?.toList.map (·.2) ++ monitor.queue.tasks ++ monitor.entered actions =
      monitor.done actions ++ (next.worker.task?.toList.map (·.2) ++ next.queue.tasks) := by
  refine (kept.run_induction (motive := fun past next => monitor.worker.task?.toList.map (·.2) ++ monitor.queue.tasks ++
    monitor.entered past = monitor.done past ++ (next.worker.task?.toList.map (·.2) ++ next.queue.tasks))
    ?_ ?_ undiverted unclosed runs).2
  · simp [entered, done, gather]
  · intro past middle action next runs kept stepped turn same
    have inOrder : middle.worker.task?.toList.map (·.2) ++ middle.queue.tasks ++
        next.queue.tasks.drop middle.queue.tasks.length =
          (if next.worker.task? = none then middle.worker.task?.toList.map (·.2) else []) ++
            (next.worker.task?.toList.map (·.2) ++ next.queue.tasks) :=
      turn.inOrder kept.accounted
    calc monitor.worker.task?.toList.map (·.2) ++ monitor.queue.tasks ++ monitor.entered (past ++ [action])
      _ = monitor.worker.task?.toList.map (·.2) ++ monitor.queue.tasks ++ monitor.entered past ++
          next.queue.tasks.drop middle.queue.tasks.length := by
        rw [entered, gather_concat runs stepped, ← List.append_assoc]
      _ = monitor.done past ++ ((if next.worker.task? = none then middle.worker.task?.toList.map (·.2) else []) ++
          (next.worker.task?.toList.map (·.2) ++ next.queue.tasks)) := by
        rw [same, List.append_assoc, inOrder]
      _ = monitor.done (past ++ [action]) ++ (next.worker.task?.toList.map (·.2) ++ next.queue.tasks) := by
        rw [done, gather_concat runs stepped, List.append_assoc]

/-! ## The attempts of a run -/

/-- The observation has begun, has these results, and agrees with the attempts at its tasks. -/
structure Told (serial : Nat) (services : List Service) (start : Start) (identity : ResourceIdentity)
    (monitor : Monitor) (known : Findings) (made : List Attempt) : Prop where
  enabled : monitor.policy.services.toList = services
  issued : serial < monitor.nextSerial
  informed : ∀ observation, monitor.observation? serial = some observation → observation.findings = known
  tallied : (monitor.desk serial).Tallied services start identity known made

theorem Told.step (told : Told serial services start identity monitor known made) (kept : monitor.Kept)
    (stepped : monitor.step? action = some next) (turn : Books.Turn monitor.books next.books) :
    Told serial services start identity next (known.or (monitor.finding serial action))
      (made ++ (monitor.attempt? serial action).toList) := by
  obtain ⟨rfl, issued, informed, tallied⟩ := told
  refine ⟨turn.frame.1, Nat.lt_of_lt_of_le issued (nextSerial_le_step stepped), fun after foundNext => ?_, ?_⟩
  · obtain ⟨before, found⟩ := kept.observed_before_step stepped issued foundNext
    have continues : Continues serial monitor action next before after := ⟨kept.toSeparate, stepped, found, foundNext⟩
    rw [continues.findings_eq, informed before found]
    simp only [finding, found]
  · exact (tallied_tally tallied informed kept.accounted kept.isOpen issued
      (tally_step kept.toSeparate stepped serial)).or _

/-- The observation has begun, or nothing is known of its number. -/
def Follows (serial : Nat) (services : List Service) (monitor : Monitor) (known : Findings)
    (made : List Attempt) : Prop :=
  (monitor.policy.services.toList = services ∧ monitor.desk serial = ⟨none, none, [], []⟩ ∧ known = .none ∧
      made = []) ∨
    ∃ start identity, Told serial services start identity monitor known made

theorem tallied_begin (services : List Service) (start : Start) (identity : ResourceIdentity) (known : Findings) :
    (⟨some ⟨start, identity, none, [], 0, 0⟩, none, [], []⟩ : Desk).Tallied services start identity known [] := by
  refine ⟨?_, ?_, ?_, ?_, ?_, rfl, nofun, nofun, nofun⟩
  · rintro _ ⟨⟩
    exact ⟨rfl, rfl⟩
  · rintro _ ⟨⟩
    rfl
  · rintro _ ⟨⟩
    rfl
  · intros
    rfl
  · rintro _ ⟨⟩ reported
    exact absurd rfl reported

theorem Follows.step (follows : Follows serial services monitor known made) (kept : monitor.Kept)
    (stepped : monitor.step? action = some next) (turn : Books.Turn monitor.books next.books) :
    Follows serial services next (known.or (monitor.finding serial action))
      (made ++ (monitor.attempt? serial action).toList) := by
  rcases follows with ⟨same, blank, rfl, rfl⟩ | ⟨start, identity, told⟩
  · have same : next.policy.services.toList = services := turn.frame.1.trans same
    have unfound : monitor.observation? serial = none := by
      simpa [desk] using congrArg Desk.standing blank
    have nothing : Findings.none.or (monitor.finding serial action) = .none := by simp [finding, unfound]
    have tally := tally_step kept.toSeparate stepped serial
    generalize reached : next.desk serial = desk at tally
    generalize monitor.attempt? serial action = attempt at tally
    rw [nothing]
    cases tally with
    | aside => exact .inl ⟨same, reached.trans blank, rfl, rfl⟩
    | begun start identity fresh =>
      have standing : (next.observation? serial).map (·.standing) = some ⟨start, identity, none, [], 0, 0⟩ :=
        congrArg Desk.standing reached
      obtain ⟨observation, found, -⟩ := Option.map_eq_some_iff.mp standing
      obtain ⟨member, numbered⟩ := mem_active_of_observation? found
      have issued := numbered ▸ ((kept.toSeparate.step stepped).fits observation member).serial
      refine .inr ⟨start, identity, same, issued, fun begun foundBegun => ?_, ?_⟩
      · obtain ⟨memberBegun, rfl⟩ := mem_active_of_observation? foundBegun
        rcases kept.begun_or_continues stepped memberBegun with ⟨-, nothing⟩ | ⟨before, -, -, continues⟩
        · exact nothing
        · exact absurd (unfound.symm.trans continues.found) (by simp)
      · rw [reached, blank]
        exact tallied_begin _ start identity _
    | aborted _ found | announced _ found | unserved _ found | sent _ found | dropped _ found | offered _ found
    | underived _ found | answered _ found => exact absurd (unfound.symm.trans found) (by simp)
  · exact .inr ⟨start, identity, told.step kept stepped turn⟩

/-- An observation that runs agrees with the attempts at its tasks. -/
theorem Follows.told (follows : Follows serial services monitor known made)
    (found : monitor.observation? serial = some observation) :
    Told serial services observation.start observation.identity monitor known made := by
  have standing := standing_of_found found
  rcases follows with ⟨-, blank, -⟩ | ⟨start, identity, told⟩
  · rw [blank] at standing
    contradiction
  · obtain ⟨rfl, rfl⟩ := told.tallied.identified _ standing
    exact told

variable {policy : Policy} {cacheSize : Nat} {later : Monitor} {first second : List Action}

/-- In every run, an observation agrees with the results that it was given and the attempts that were made. -/
theorem told_of_run (runs : (empty policy cacheSize).run? first = some monitor)
    (observed : monitor.observation? serial = some observation) (goesOn : monitor.run? second = some later)
    (undiverted : .divert ∉ first ++ second) (unclosed : .closeQueue ∉ first ++ second) :
    Told serial policy.services.toList observation.start observation.identity later
      ((empty policy cacheSize).findings serial (first ++ second))
      ((empty policy cacheSize).attempts serial (first ++ second)) := by
  let initial := empty policy cacheSize
  rw [List.mem_append, not_or] at undiverted unclosed
  obtain ⟨kept, follows⟩ := (kept_empty policy cacheSize).run_induction
    (motive := fun past monitor => Follows serial policy.services.toList monitor (initial.findings serial past)
      (initial.attempts serial past))
    (.inl ⟨rfl, rfl, rfl, rfl⟩) (fun past monitor action next runs kept stepped turn follows => by
      rw [findings_concat runs stepped, attempts, gather_concat runs stepped]
      exact follows.step kept stepped turn) undiverted.1 unclosed.1 runs
  -- from here on the observation is known
  refine (kept.run_induction
    (motive := fun rest later => Told serial policy.services.toList observation.start observation.identity later
      (initial.findings serial (first ++ rest)) (initial.attempts serial (first ++ rest)))
    ?_ (fun rest monitor action next goesOn kept stepped turn told => ?_) undiverted.2 unclosed.2 goesOn).2
  · simpa using follows.told observed
  · have whole : initial.run? (first ++ rest) = some monitor := by
      rw [run?_append, runs]
      exact goesOn
    rw [← List.append_assoc, findings_concat whole stepped, attempts, gather_concat whole stepped]
    exact told.step kept stepped turn

theorem outcomes_eq (monitor : Monitor) (serial : Nat) :
    monitor.outcomes serial = (monitor.desk serial).records.map (·.outcome) := by
  rw [outcomes, desk, List.map_filterMap]
  congr 1
  funext entry
  cases entry with
  | finished number record => by_cases own : number = serial <;> simp [Entry.outcomeOf?, Entry.recordOf?, own]
  | answered | lookup | scan | phase | offered | stored | notice => rfl

/-- What becomes of the tasks of an observation, given its results and the attempts that were made. -/
structure Exact (services : List Service) (serial : Nat) (observation : Observation) (findings : Findings)
    (made : List Attempt) (monitor : Monitor) : Prop where
  /-- There is one attempt at each service at most, in the order of the services. -/
  ordered : made.map (·.service) <+: services
  /-- Past its deadline the observation goes on until there has been an attempt at each service, and its record counts
  those that failed. -/
  completed : .stoppedByTimer ∈ monitor.phases serial →
    (monitor.observation? serial).isSome = true ∧ (monitor.desk serial).records = [] ∨
      monitor.observation? serial = none ∧ made.map (·.service) = services ∧
        (monitor.desk serial).records = [recordOf observation (.completed (made.countP (·.isFailed)))]
  /-- The store is given just the artifacts that could be derived. -/
  handed : (monitor.desk serial).artifacts =
    made.filterMap (·.artifact?) ++ (monitor.worker.storing? serial).toList.map (·.2)
  /-- What there was for the store, under the name of the workload, or why there was nothing, is what the results yield
  for the service. -/
  derived : ∀ attempt ∈ made, findings.Yields observation.resourceName attempt.service attempt.derivation
  derivedAtStore : ∀ service artifact, monitor.worker.storing? serial = some (service, artifact) →
    findings.Yields observation.resourceName service (.ok artifact)
  aborted : .stoppedByOverflow ∈ monitor.phases serial → (monitor.desk serial).artifacts = []

theorem Told.ordered (told : Told serial services start identity monitor known made) :
    made.map (·.service) <+: services := by
  cases standing : (monitor.desk serial).standing with
  | none =>
    obtain ⟨-, outcome, -, ⟨-, rfl⟩ | ⟨-, all⟩⟩ := told.tallied.ended standing
    · exact List.nil_prefix
    · exact all ▸ List.prefix_rfl
  | some stands =>
    by_cases unreported : stands.result = none
    · rw [told.tallied.unattempted stands standing unreported]
      exact List.nil_prefix
    · obtain ⟨left, split, -⟩ := told.tallied.attempted stands standing unreported
      exact ⟨left, split⟩

theorem Told.completed (told : Told serial services start identity monitor known made) (lived : monitor.books.Lived)
    (timer : .stoppedByTimer ∈ monitor.phases serial) :
    (monitor.observation? serial).isSome = true ∧ (monitor.desk serial).records = [] ∨
      monitor.observation? serial = none ∧ made.map (·.service) = services ∧ (monitor.desk serial).records =
        [⟨start.container, start.pod, identity.resourceName, .completed (made.countP (·.isFailed))⟩] := by
  cases found : monitor.observation? serial with
  | some observation => exact .inl ⟨rfl, told.tallied.unrecorded _ (standing_of_found found)⟩
  | none =>
    have life := lived.life_of_visited (by rwa [phases_books])
    rw [phases_books, outcomes_books, outcomes_eq] at life
    obtain ⟨-, outcome, records, ⟨⟨reason, rfl⟩, -⟩ | ⟨rfl, all⟩⟩ := told.tallied.ended (by simp [desk, found])
    · rw [records] at life
      have overflow := (life.isAborted_iff (List.mem_singleton_self _)).mp rfl
      exact absurd overflow (life.overflow_notMem timer)
    · exact .inr ⟨rfl, all, records⟩

theorem Told.aborted (told : Told serial services start identity monitor known made) (lived : monitor.books.Lived)
    (overflow : .stoppedByOverflow ∈ monitor.phases serial) : (monitor.desk serial).artifacts = [] := by
  have life := lived.life_of_visited (by rwa [phases_books])
  rw [phases_books, outcomes_books, outcomes_eq, current_books] at life
  have gone : monitor.observation? serial = none := by simpa using life.ended_of_overflow overflow
  obtain ⟨idle, outcome, records, ⟨-, rfl⟩ | ⟨rfl, -⟩⟩ := told.tallied.ended (by simp [desk, gone])
  · simp [told.tallied.handed, idle]
  · rw [records] at life
    exact absurd ((life.isAborted_iff (List.mem_singleton_self _)).mpr overflow) (by simp [Outcome.isAborted])

end Monitor

end Observatory
