import Observatory.Proofs.Schedule.Settling

/-! # Time passing

Time goes from one due instant to the next, for at most as many instants as a schedule allows. Main statement:
this is always enough. At each due instant something that was foreseen happens, and a monitor that goes on by itself
foresees nothing new.
-/

namespace Observatory

namespace Monitor

variable {monitor next : Monitor} {action : Action} {observation old new : Observation} {serial due target : Nat}
  {before after : List Observation} {surroundings : Surroundings}

/-! ## What a monitor that goes on by itself leaves as it is -/

theorem frame_concludeTask (base : Monitor) (observation : Observation) (failed : Bool) :
    (base.concludeTask observation failed).now = base.now ∧
      (base.concludeTask observation failed).policy = base.policy ∧
      (base.concludeTask observation failed).worker = base.worker := by
  unfold concludeTask
  dsimp only
  split <;> exact ⟨rfl, rfl, rfl⟩

theorem frame_change (base : Monitor) (serial : Nat) (f : Observation → Observation) :
    (base.change serial f).now = base.now ∧ (base.change serial f).policy = base.policy ∧
      (base.change serial f).worker = base.worker := by
  unfold change
  split <;> exact ⟨rfl, rfl, rfl⟩

/-- The clock and the policy stay as they are, and the worker does not go away. -/
theorem frame_of_scheduled (scheduled : action.isScheduled = true) (stepped : monitor.step? action = some next) :
    next.now = monitor.now ∧ next.policy = monitor.policy ∧ (next.worker = .absent → monitor.worker = .absent) := by
  cases action with
  | ingest | exclude | intrude | elapse | request | enroll | hire | divert | closeQueue | forgetPod | retainPods =>
    contradiction
  | sbomReady serial result =>
    obtain ⟨inquiry, entries, -, -, rfl⟩ := sbomReady?_spec stepped
    obtain ⟨now, policy, worker⟩ := frame_change ({ monitor with inquiries := _ }.write entries) serial _
    exact ⟨now, policy, worker.symm.trans⟩
  | vulnerabilitiesReady serial result =>
    obtain ⟨inquiry, entries, -, -, rfl⟩ := vulnerabilitiesReady?_spec stepped
    obtain ⟨now, policy, worker⟩ := frame_change ({ monitor with inquiries := _ }.write entries) serial _
    exact ⟨now, policy, worker.symm.trans⟩
  | aggregate serial move =>
    obtain ⟨old, aggregator, acc, -, -, rfl⟩ := aggregate?_spec stepped
    exact ⟨rfl, rfl, id⟩
  | expire serial =>
    obtain ⟨old, -, -, -, rfl⟩ := expire?_spec stepped
    exact ⟨rfl, rfl, id⟩
  | abort serial =>
    obtain ⟨old, outcome, aborted, -, -, -, -, -, rfl⟩ := abort?_spec stepped
    exact ⟨rfl, rfl, id⟩
  | report serial =>
    obtain ⟨old, outcome, notice, reported, -, -, -, -, -, -, ⟨-, rfl⟩ | ⟨-, rfl⟩⟩ := report?_spec stepped <;>
      exact ⟨rfl, rfl, id⟩
  | send serial =>
    obtain ⟨old, service, unsent, -, -, ⟨-, -, queue, ⟨-, rfl⟩ | ⟨-, rfl⟩⟩ | ⟨-, rfl⟩⟩ := send?_spec stepped
    · exact ⟨rfl, rfl, id⟩
    · exact ⟨rfl, rfl, id⟩
    · obtain ⟨now, policy, worker⟩ := frame_concludeTask (monitor.write _) { old with unsent := unsent } true
      exact ⟨now, policy, worker.symm.trans⟩
  | take =>
    obtain ⟨task, queue, -, -, ⟨-, rfl⟩ | ⟨old, -, rfl⟩⟩ := take?_spec stepped
    · exact ⟨rfl, rfl, id⟩
    · exact ⟨rfl, rfl, nofun⟩
  | prepare =>
    obtain ⟨serial, task, old, -, -, ⟨derived, -, rfl⟩ | ⟨reason, -, rfl⟩⟩ := prepare?_spec stepped
    · exact ⟨rfl, rfl, nofun⟩
    · obtain ⟨now, policy, worker⟩ := frame_concludeTask ({ monitor with worker := .idle }.write _) old true
      exact ⟨now, policy, fun absent => absurd (worker.symm.trans absent) (by simp [write])⟩
  | stored result =>
    obtain ⟨serial, task, artifact, since, old, entries, failed, -, -, -, -, rfl⟩ := stored?_spec stepped
    obtain ⟨now, policy, worker⟩ := frame_concludeTask ({ monitor with worker := .idle }.write entries) old failed
    exact ⟨now, policy, fun absent => absurd (worker.symm.trans absent) (by simp [write])⟩

theorem Settles.frame (settles : monitor.Settles next) :
    next.now = monitor.now ∧ next.policy = monitor.policy ∧ (next.worker = .absent → monitor.worker = .absent) := by
  induction settles with
  | refl => exact ⟨rfl, rfl, id⟩
  | tail _ step ih =>
    obtain ⟨action, scheduled, stepped⟩ := step
    obtain ⟨now, policy, worker⟩ := frame_of_scheduled scheduled stepped
    exact ⟨now.trans ih.1, policy.trans ih.2.1, fun absent => ih.2.2 (worker absent)⟩

/-! ## Due instants -/

theorem mem_dues : due ∈ monitor.dues surroundings ↔
    (∃ observation ∈ monitor.active, observation.phase = .watching ∧ observation.deadline = due) ∨
      (∃ inquiry ∈ monitor.inquiries, surroundings.inquiryDue inquiry = due) ∨
      surroundings.storeDue? monitor.worker = some due := by
  simp only [dues, List.mem_append, List.mem_map, List.mem_filter, decide_eq_true_eq, Option.mem_toList, or_assoc,
    and_assoc]

theorem deadline_mem_dues (member : observation ∈ monitor.active) (watching : observation.phase = .watching)
    (surroundings : Surroundings) : observation.deadline ∈ monitor.dues surroundings :=
  mem_dues.mpr (.inl ⟨observation, member, watching, rfl⟩)

theorem dues_subset
    (watching : ∀ observation ∈ monitor.active, observation.phase = .watching →
      ∃ later ∈ next.active, later.phase = .watching ∧ later.deadline = observation.deadline)
    (inquiries : next.inquiries = monitor.inquiries)
    (worker : surroundings.storeDue? monitor.worker = none ∨ next.worker = monitor.worker) :
    monitor.dues surroundings ⊆ next.dues surroundings := by
  intro due member
  rw [mem_dues] at member ⊢
  rcases member with ⟨observation, running, watches, rfl⟩ | asked | storing
  · exact .inl (watching observation running watches)
  · exact .inr (.inl (inquiries ▸ asked))
  · rcases worker with none | same
    · rw [none] at storing
      contradiction
    · exact .inr (.inr (same ▸ storing))

/-- Who watches goes on watching when an observation is changed that does not, or goes on itself. -/
theorem watching_of_replaced (among : Among monitor.active old before after)
    (active : next.active = (monitor.replace new).active) (serial : new.serial = old.serial)
    (own : old.phase = .watching → new.phase = .watching ∧ new.deadline = old.deadline) :
    ∀ observation ∈ monitor.active, observation.phase = .watching →
      ∃ later ∈ next.active, later.phase = .watching ∧ later.deadline = observation.deadline := by
  intro observation member watches
  have replaced : next.active = before ++ new :: after := active.trans (among.replace serial)
  rw [among.split, List.mem_append, List.mem_cons] at member
  rcases member with earlier | rfl | later
  · exact ⟨observation, by simp [replaced, earlier], watches, rfl⟩
  · exact ⟨new, by simp [replaced], own watches⟩
  · exact ⟨observation, by simp [replaced, later], watches, rfl⟩

/-- When nobody can move, nothing is due. -/
theorem lt_of_isQuiet (quiet : monitor.isQuiet surroundings = true)
    (member : due ∈ monitor.dues surroundings) : monitor.now < due := by
  simp only [isQuiet, Bool.and_eq_true, Option.isNone_iff_eq_none] at quiet
  obtain ⟨⟨arrivals, worker⟩, -⟩ := quiet
  by_contra passed
  have passed := Nat.not_lt.mp passed
  simp only [next?] at arrivals
  split at arrivals
  · contradiction
  · rename_i unanswered
    rcases mem_dues.mp member with ⟨observation, running, watches, rfl⟩ | ⟨inquiry, asked, rfl⟩ | storing
    · have idle := List.findSome?_eq_none_iff.mp arrivals observation running
      simp [observationAction?, watches, passed] at idle
    · have early := List.find?_eq_none.mp unanswered inquiry asked
      simp [passed] at early
    · cases doing : monitor.worker with
      | absent | idle | preparing => simp [Surroundings.storeDue?, doing] at storing
      | storing number task artifact since =>
        obtain rfl : since + (surroundings.store artifact).delay = due := by
          simpa [Surroundings.storeDue?, doing] using storing
        simp [next?, workerAction?, doing, passed] at worker

/-! ## What is foreseen -/

/-- How many due instants an observation has ahead of it at most, scans apart: its deadline, and the answer of the store
to each of its tasks. -/
def foreseenOf (observation : Observation) : Nat :=
  (if observation.phase = .watching then 1 else 0) +
    if observation.aggregation.isPending then 2 else observation.pendingTasks

/-- How many due instants are ahead at most. -/
def foreseen (monitor : Monitor) : Nat :=
  (monitor.active.map foreseenOf).sum + monitor.inquiries.length

theorem foreseen_replaced (among : Among monitor.active old before after)
    (active : next.active = (monitor.replace new).active) (serial : new.serial = old.serial) :
    next.foreseen + (foreseenOf old + monitor.inquiries.length) ≤
      monitor.foreseen + (foreseenOf new + next.inquiries.length) := by
  have sum := among.sum_replace (f := foreseenOf) serial fun _ _ _ => Nat.le_refl _
  simp only [foreseen, active, replace]
  omega

theorem foreseen_removed (among : Among monitor.active old before after)
    (active : next.active = monitor.active.filter (·.serial ≠ old.serial)) :
    next.foreseen + (foreseenOf old + monitor.inquiries.length) ≤ monitor.foreseen + next.inquiries.length := by
  have sum := among.sum_filter (f := foreseenOf) fun _ _ _ => Nat.le_refl _
  simp only [foreseen, active]
  omega

/-- A task is done. -/
private theorem foreseen_concludeTask (base : Monitor) (among : Among base.active old before after) (failed : Bool)
    (reported : old.aggregation.isPending = false) (pending : 0 < old.pendingTasks) :
    (base.concludeTask old failed).foreseen < base.foreseen := by
  generalize reached : base.concludeTask old failed = next
  have positive : 0 < foreseenOf old := by
    simp only [foreseenOf, reported, Bool.false_eq_true, ↓reduceIte]
    omega
  by_cases last : old.pendingTasks = 1
  · have concluded : next = (base.replace (old.taskDone failed).1).finish (old.taskDone failed).1
        (.completed (old.taskDone failed).1.failedTasks) := by
      simp [← reached, concludeTask, Observation.taskDone, last]
    have active : next.active = base.active.filter (·.serial ≠ old.serial) := by
      rw [concluded]
      exact filter_active_replace base (old.taskDone failed).1
    have removed := foreseen_removed among active
    have kept : next.inquiries = base.inquiries := by rw [concluded]; rfl
    rw [kept] at removed
    omega
  · have concluded : next = base.replace (old.taskDone failed).1 := by
      simp [← reached, concludeTask, Observation.taskDone, last]
    have replaced : next.foreseen + (foreseenOf old + base.inquiries.length) ≤
        base.foreseen + (foreseenOf (old.taskDone failed).1 + next.inquiries.length) :=
      foreseen_replaced among (by rw [concluded]) rfl
    have fewer : foreseenOf (old.taskDone failed).1 < foreseenOf old := by
      have counted : foreseenOf (old.taskDone failed).1 = (if old.phase = .watching then 1 else 0) +
          if old.aggregation.isPending then 2 else old.pendingTasks - 1 := rfl
      rw [counted, foreseenOf]
      simp only [reported, Bool.false_eq_true, ↓reduceIte]
      omega
    have kept : next.inquiries = base.inquiries := by rw [concluded]; rfl
    rw [kept] at replaced
    omega

/-- The worker is done with a task. -/
private theorem foreseen_worked (kept : monitor.Kept) (found : monitor.observation? serial = some old) {task : Task}
    (working : monitor.worker.task? = some (serial, task)) (entries : List Entry) (failed : Bool) :
    (({ monitor with worker := .idle }.write entries).concludeTask old failed).foreseen < monitor.foreseen := by
  obtain ⟨member, rfl⟩ := mem_active_of_observation? found
  obtain ⟨before, after, among⟩ := kept.among member
  have stands := kept.accounted.stands old member
  have outstanding : monitor.books.outstanding old ≠ [] := by
    have atWork : monitor.books.working = some (old.serial, task) := working
    rw [Books.outstanding_of_working atWork]
    exact List.cons_ne_nil _ _
  have reported : old.aggregation.isPending = false := by
    simpa [Completion.isPending] using Option.isSome_iff_ne_none.mpr (stands.reported outstanding)
  exact foreseen_concludeTask ({ monitor with worker := .idle }.write entries) among failed reported
    (stands.pendingTasks_pos outstanding)

/-- A scan has its result. -/
private theorem foreseen_change {base : Monitor} {inquiry : Inquiry} {f : Observation → Observation}
    (separate : monitor.Separate) (member : inquiry ∈ monitor.inquiries) (active : base.active = monitor.active)
    (inquiries : base.inquiries = monitor.inquiries.erase inquiry)
    (revises : ∀ observation, (f observation).serial = observation.serial ∧
      foreseenOf (f observation) = foreseenOf observation) :
    (base.change serial f).foreseen < monitor.foreseen := by
  have fewer : base.inquiries.length < monitor.inquiries.length := by
    have positive := List.length_pos_of_mem member
    rw [inquiries, List.length_erase_of_mem member]
    omega
  unfold change
  cases found : base.observation? serial with
  | none =>
    simp only [foreseen, active]
    omega
  | some observation =>
    obtain ⟨memberOld, -⟩ := mem_active_of_observation? found
    obtain ⟨before, after, among⟩ := separate.among (active ▸ memberOld)
    obtain ⟨serial, same⟩ := revises observation
    have replacedActive : (base.replace (f observation)).active = (monitor.replace (f observation)).active := by
      simp only [replace, active]
    have replaced := foreseen_replaced among replacedActive serial
    have kept : (base.replace (f observation)).inquiries = base.inquiries := rfl
    rw [kept] at replaced
    dsimp only
    omega

/-- An observation is changed, and nothing is answered. -/
private theorem Separate.foreseen_add_le (separate : monitor.Separate) (member : old ∈ monitor.active)
    (active : next.active = (monitor.replace new).active) (serial : new.serial = old.serial)
    (inquiries : next.inquiries = monitor.inquiries) :
    next.foreseen + foreseenOf old ≤ monitor.foreseen + foreseenOf new := by
  obtain ⟨before, after, among⟩ := separate.among member
  have replaced := foreseen_replaced among active serial
  rw [inquiries] at replaced
  omega

/-- What is due stays so when an observation is changed that foresees no more and goes on watching if it did. -/
private theorem Separate.foresees_of_replaced (separate : monitor.Separate) (new : Observation)
    (member : old ∈ monitor.active) (active : next.active = (monitor.replace new).active)
    (serial : new.serial = old.serial) (inquiries : next.inquiries = monitor.inquiries)
    (worker : surroundings.storeDue? monitor.worker = none ∨ next.worker = monitor.worker)
    (less : foreseenOf new ≤ foreseenOf old)
    (own : old.phase = .watching → new.phase = .watching ∧ new.deadline = old.deadline) :
    next.foreseen ≤ monitor.foreseen ∧ monitor.dues surroundings ⊆ next.dues surroundings := by
  have sum := separate.foreseen_add_le member active serial inquiries
  obtain ⟨before, after, among⟩ := separate.among member
  exact ⟨by omega, dues_subset (watching_of_replaced among active serial own) inquiries worker⟩

/-- An observation ends that had something ahead of it. -/
private theorem Separate.foreseen_lt_of_removed (separate : monitor.Separate) (member : old ∈ monitor.active)
    (active : next.active = monitor.active.filter (·.serial ≠ old.serial))
    (inquiries : next.inquiries = monitor.inquiries) (positive : 0 < foreseenOf old) :
    next.foreseen < monitor.foreseen := by
  obtain ⟨before, after, among⟩ := separate.among member
  have removed := foreseen_removed among active
  rw [inquiries] at removed
  omega

/-- An observation leaves its window, and its deadline is no longer ahead of it. -/
private theorem Separate.foreseen_lt_of_leaves (separate : monitor.Separate) (phase : Phase)
    (leaves : phase ≠ .watching) (member : old ∈ monitor.active) (watching : old.phase = .watching)
    (active : next.active = (monitor.replace { old with phase := phase }).active)
    (inquiries : next.inquiries = monitor.inquiries) : next.foreseen < monitor.foreseen := by
  have sum := separate.foreseen_add_le member active rfl inquiries
  have fewer : foreseenOf { old with phase := phase } < foreseenOf old := by
    simp only [foreseenOf, watching, leaves, ↓reduceIte]
    omega
  omega

/-- The aggregation has its result, and with it come no more than two tasks. -/
private theorem Kept.foreseen_report (kept : monitor.Kept) (surroundings : Surroundings)
    (stepped : monitor.report? serial = some next) :
    next.foreseen < monitor.foreseen ∨
      next.foreseen ≤ monitor.foreseen ∧ monitor.dues surroundings ⊆ next.dues surroundings := by
  obtain ⟨old, outcome, notice, reported, found, -, -, pending, -, same, outcomes⟩ := report?_spec stepped
  have member := (mem_active_of_observation? found).1
  have serial : reported.serial = old.serial := by rw [same]
  obtain ⟨-, rfl⟩ | ⟨-, rfl⟩ := outcomes
  · refine .inl (kept.foreseen_lt_of_removed member ?_ rfl ?_)
    · rw [← serial]
      exact filter_active_replace monitor reported
    · simp only [foreseenOf, Completion.isPending, pending, Option.isNone_none, ↓reduceIte]
      omega
  · refine .inr (kept.foresees_of_replaced reported member rfl serial rfl (.inr rfl) ?_ fun watches => ?_)
    · have services := length_services_le monitor.policy.services
      simp only [same, foreseenOf, Completion.isPending, Completion.complete, pending, Option.isNone_none, ↓reduceIte,
        Option.none_or, Option.isNone_some, Bool.false_eq_true]
      omega
    · rw [same]
      exact ⟨watches, rfl⟩

/-- A monitor that goes on by itself foresees less than before, or still everything that it did. -/
theorem Kept.foreseen_step (kept : monitor.Kept) (surroundings : Surroundings)
    (scheduled : action.isScheduled = true) (stepped : monitor.step? action = some next) :
    next.foreseen < monitor.foreseen ∨
      next.foreseen ≤ monitor.foreseen ∧ monitor.dues surroundings ⊆ next.dues surroundings := by
  cases action with
  | ingest | exclude | intrude | elapse | request | enroll | hire | divert | closeQueue | forgetPod | retainPods =>
    contradiction
  | sbomReady serial result =>
    obtain ⟨inquiry, entries, asked, -, rfl⟩ := sbomReady?_spec stepped
    exact .inl (foreseen_change kept.toSeparate (List.mem_of_find?_eq_some asked) rfl rfl fun _ => ⟨rfl, rfl⟩)
  | vulnerabilitiesReady serial result =>
    obtain ⟨inquiry, entries, asked, -, rfl⟩ := vulnerabilitiesReady?_spec stepped
    exact .inl (foreseen_change kept.toSeparate (List.mem_of_find?_eq_some asked) rfl rfl fun _ => ⟨rfl, rfl⟩)
  | aggregate serial move =>
    obtain ⟨old, aggregator, acc, found, -, rfl⟩ := aggregate?_spec stepped
    exact .inr (kept.foresees_of_replaced { old with aggregator := aggregator } (mem_active_of_observation? found).1 rfl
      rfl rfl (.inr rfl) (Nat.le_refl _) fun watches => ⟨watches, rfl⟩)
  | expire serial =>
    obtain ⟨old, found, watching, -, rfl⟩ := expire?_spec stepped
    exact .inl (kept.foreseen_lt_of_leaves .stoppedByTimer (by decide) (mem_active_of_observation? found).1 watching rfl
      rfl)
  | abort serial =>
    obtain ⟨old, outcome, aborted, found, -, watching, -, -, reached⟩ := abort?_spec stepped
    obtain ⟨member, rfl⟩ := mem_active_of_observation? found
    refine .inl (kept.foreseen_lt_of_removed member (active_abort? stepped) ?_ ?_)
    · rw [reached]
      rfl
    · simp only [foreseenOf, watching, ↓reduceIte]
      omega
  | report serial => exact kept.foreseen_report surroundings stepped
  | send serial =>
    obtain ⟨old, service, unsent, found, -, ⟨-, -, queue, ⟨-, rfl⟩ | ⟨-, rfl⟩⟩ | ⟨closed, -⟩⟩ :=
      send?_spec stepped
    · exact .inr (kept.foresees_of_replaced { old with unsent := unsent } (mem_active_of_observation? found).1 rfl rfl
        rfl (.inr rfl) (Nat.le_refl _) fun watches => ⟨watches, rfl⟩)
    · exact .inr ⟨Nat.le_refl _, List.Subset.refl _⟩
    · exact absurd (kept.isOpen.symm.trans closed) (by decide)
  | take =>
    obtain ⟨task, queue, idle, -, ⟨-, rfl⟩ | ⟨old, observed, rfl⟩⟩ := take?_spec stepped
    · exact .inr ⟨Nat.le_refl _, List.Subset.refl _⟩
    · have member := List.mem_of_find?_eq_some observed
      have unstored : surroundings.storeDue? monitor.worker = none := by simp [Surroundings.storeDue?, idle]
      by_cases watching : old.phase = .watching
      · exact .inl (kept.foreseen_lt_of_leaves .pipelineRunning (by decide) member watching rfl rfl)
      · refine .inr (kept.foresees_of_replaced { old with phase := .pipelineRunning } member rfl rfl rfl (.inl unstored)
          ?_ fun watches => absurd watches watching)
        simp [foreseenOf, watching]
  | prepare =>
    obtain ⟨serial, task, old, busy, found, ⟨derived, -, rfl⟩ | ⟨reason, -, rfl⟩⟩ := prepare?_spec stepped
    · refine .inr ⟨Nat.le_refl _, dues_subset ?_ rfl ?_⟩
      · exact fun observation member watches => ⟨observation, member, watches, rfl⟩
      · exact .inl (by simp [Surroundings.storeDue?, busy])
    · have working : monitor.worker.task? = some (serial, task) := by rw [busy]; rfl
      exact .inl (foreseen_worked kept found working _ true)
  | stored result =>
    obtain ⟨serial, task, artifact, since, old, entries, failed, busy, found, -, -, rfl⟩ := stored?_spec stepped
    have working : monitor.worker.task? = some (serial, task) := by rw [busy]; rfl
    exact .inl (foreseen_worked kept found working entries failed)

theorem Settles.foreseen (settles : monitor.Settles next) (kept : monitor.Kept) (surroundings : Surroundings) :
    next.foreseen < monitor.foreseen ∨
      next.foreseen ≤ monitor.foreseen ∧ monitor.dues surroundings ⊆ next.dues surroundings := by
  induction settles with
  | refl => exact .inr ⟨Nat.le_refl _, List.Subset.refl _⟩
  | tail steps step ih =>
    obtain ⟨action, scheduled, stepped⟩ := step
    rcases (Settles.kept steps kept).foreseen_step surroundings scheduled stepped with less | ⟨atMost, still⟩
    · rcases ih with lessBefore | ⟨atMostBefore, -⟩
      · exact .inl (Nat.lt_trans less lessBefore)
      · exact .inl (Nat.lt_of_lt_of_le less atMostBefore)
    · rcases ih with lessBefore | ⟨atMostBefore, stillBefore⟩
      · exact .inl (Nat.lt_of_le_of_lt atMost lessBefore)
      · exact .inr ⟨Nat.le_trans atMost atMostBefore, List.Subset.trans stillBefore still⟩

theorem settles_settle (surroundings : Surroundings) (monitor : Monitor) :
    monitor.Settles (monitor.settle surroundings) :=
  settles_settleFor surroundings _ monitor

/-- What is due is dealt with. -/
theorem Kept.foreseen_settle_lt (kept : monitor.Kept) (member : due ∈ monitor.dues surroundings)
    (passed : due ≤ monitor.now) : (monitor.settle surroundings).foreseen < monitor.foreseen := by
  have settles := settles_settle surroundings monitor
  rcases settles.foreseen kept surroundings with less | ⟨-, still⟩
  · exact less
  · have early := lt_of_isQuiet (kept.isQuiet_settle surroundings) (still member)
    rw [settles.frame.1] at early
    omega

/-! ## Going from instant to instant -/

theorem nextDue?_eq_some (found : monitor.nextDue? surroundings target = some due) :
    due ∈ monitor.dues surroundings ∧ monitor.now < due ∧ due ≤ target ∧
      ∀ other ∈ monitor.dues surroundings, monitor.now < other → due ≤ other := by
  obtain ⟨member, least⟩ := List.min?_eq_some_iff.mp found
  simp only [List.mem_filter, Bool.and_eq_true, decide_eq_true_eq] at member least
  refine ⟨member.1, member.2.1, member.2.2, fun other memberOther ahead => ?_⟩
  by_contra earlier
  exact earlier (least other ⟨memberOther, ahead, by omega⟩)

theorem nextDue?_eq_none (nothing : monitor.nextDue? surroundings target = none)
    (member : due ∈ monitor.dues surroundings) (ahead : monitor.now < due) : target < due := by
  have empty := List.min?_eq_none_iff.mp nothing
  by_contra within
  have found : due ∈ (monitor.dues surroundings).filter fun due => monitor.now < due && due ≤ target :=
    List.mem_filter.mpr ⟨member, by simpa using ⟨ahead, Nat.not_lt.mp within⟩⟩
  rw [empty] at found
  contradiction

/-- The clock is not part of what is kept. -/
theorem Kept.setNow (kept : monitor.Kept) (now : Nat) : Kept { monitor with now := now } :=
  ⟨⟨kept.live, kept.fits, kept.apart⟩, kept.accounted, kept.isOpen⟩

theorem Kept.settle (kept : monitor.Kept) (surroundings : Surroundings) : (monitor.settle surroundings).Kept :=
  (settles_settle surroundings monitor).kept kept

theorem Kept.foreseen_instant_lt (kept : monitor.Kept) (found : monitor.nextDue? surroundings target = some due) :
    (Monitor.settle surroundings { monitor with now := due }).foreseen < monitor.foreseen := by
  obtain ⟨member, -, -, -⟩ := nextDue?_eq_some found
  exact (kept.setNow due).foreseen_settle_lt member (Nat.le_refl _)

/-- To let time pass is to settle at one due instant after the other, and at the last. -/
theorem Kept.advanceFor_induction {Holds : Monitor → Monitor → Prop}
    (last : ∀ {monitor}, monitor.Kept → monitor.nextDue? surroundings target = none →
      Holds monitor (Monitor.settle surroundings { monitor with now := target }))
    (step : ∀ {monitor due final}, monitor.Kept → monitor.nextDue? surroundings target = some due →
      Holds (Monitor.settle surroundings { monitor with now := due }) final → Holds monitor final)
    (kept : monitor.Kept) {fuel : Nat} (enough : monitor.foreseen < fuel) :
    Holds monitor (advanceFor surroundings target fuel monitor) := by
  induction fuel generalizing monitor with
  | zero => omega
  | succ fuel ih =>
    unfold advanceFor
    cases found : monitor.nextDue? surroundings target with
    | none => exact last kept found
    | some due =>
      have less := kept.foreseen_instant_lt found
      exact step kept found (ih ((kept.setNow due).settle surroundings) (by omega))

/-- The bound that schedules use is large enough. -/
theorem Kept.foreseen_lt (kept : monitor.Kept) : monitor.foreseen <
    4 * monitor.active.length + monitor.queue.tasks.length + monitor.inquiries.length + 4 := by
  have each : ∀ observation ∈ monitor.active, foreseenOf observation ≤ 3 := by
    intro observation member
    have stands := kept.accounted.stands observation member
    have few : observation.pendingTasks ≤ 2 := by
      rw [stands.counted]
      exact Nat.le_trans stands.ordered.length_le (length_services_le monitor.policy.services)
    unfold foreseenOf
    split <;> split <;> omega
  have sum := List.sum_le_sum each
  have most : (monitor.active.map fun _ => 3).sum = monitor.active.length * 3 := by simp
  unfold foreseen
  omega

end Monitor

end Observatory
