import Observatory.Proofs.Monitor.Attempts
import Observatory.Proofs.Schedule.Pipeline

/-! # Standing in line

The profiles of containers are handed to the store in the order in which their observations report, whatever becomes of
the other tasks in between. Main statement: a container whose profile has yet to be handed over stands in a line, in
which nobody overtakes.
-/

namespace Observatory

/-- The profile that an observation has for the store. -/
def Observation.profile? (observation : Observation) : Option Artifact :=
  match observation.derive? .containerProfiling with
  | some (.ok derived) => some derived.artifact
  | _ => none

/-- The container whose profile the task is for. -/
def Task.profiled? (task : Task) : Option ContainerId :=
  if task.service = .containerProfiling then some task.container else none

/-- The container whose profile is being derived. -/
def Worker.profiled? : Worker → Option ContainerId
  | .preparing _ task => task.profiled?
  | .absent | .idle | .storing .. => none

namespace TaskQueue

variable {queue after : TaskQueue} {sender : Nat} {container : ContainerId} {wanted before rest : List (Nat × ContainerId)}
  {accepted : Bool}

/-- Whose profile comes next: those whose task is in the queue, then those who wait for a place, then those who have
yet to ask for one. -/
def line (queue : TaskQueue) (wanted : List (Nat × ContainerId)) : List ContainerId :=
  queue.tasks.filterMap (·.profiled?) ++ (queue.granted ++ queue.waiting).filterMap (wanted.lookup ·) ++
    (wanted.filter fun want => !queue.knows want.1).map (·.2)

/-- Who has yet to ask for a place, and began last, is last in line. -/
theorem line_concat (unknown : queue.knows sender = false) :
    queue.line (wanted ++ [(sender, container)]) = queue.line wanted ++ [container] := by
  have known : (queue.granted ++ queue.waiting).filterMap ((wanted ++ [(sender, container)]).lookup ·) =
      (queue.granted ++ queue.waiting).filterMap (wanted.lookup ·) := by
    refine List.filterMap_congr fun other member => ?_
    have differs : other ≠ sender := by
      rintro rfl
      simp [knows, List.mem_append.mp member] at unknown
    simp [List.lookup_append, List.lookup_cons, beq_false_of_ne differs]
  simp [line, known, unknown]

/-- To take out a task is to take the first one in line, or none. -/
theorem line_of_take? {task : Task} (taken : queue.take? = some (task, after)) (wanted : List (Nat × ContainerId)) :
    queue.line wanted = task.profiled?.toList ++ after.line wanted := by
  have tasks := (tasks_of_take? taken).1
  have senders := senders_of_take? taken
  have knows : after.knows = queue.knows := by
    funext sender
    simp only [TaskQueue.knows, senders]
  simp only [line, tasks, senders, knows]
  cases profiled : task.profiled? <;> simp [profiled]

private theorem filterMap_erase {f : Nat → Option ContainerId} (nothing : f sender = none) (senders : List Nat) :
    (senders.erase sender).filterMap f = senders.filterMap f := by
  induction senders with
  | nil => rfl
  | cons first others ih =>
    by_cases own : first = sender
    · rw [own, List.erase_cons_head, List.filterMap_cons_none nothing]
    · rw [List.erase_cons_tail (by simpa using own), List.filterMap_cons, List.filterMap_cons, ih]

/-- A task that is accepted is the last one in the queue. -/
theorem Offered.tasks_eq {task : Task} (offered : Offered queue sender task after accepted) :
    after.tasks = queue.tasks ++ if accepted then [task] else [] := by
  cases offered <;> simp

/-- A task for something else changes nothing. -/
theorem Offered.line_of_service {task : Task} (offered : Offered queue sender task after accepted)
    (other : task.profiled? = none) (unwanted : ∀ want ∈ wanted, want.1 ≠ sender) :
    after.line wanted = queue.line wanted := by
  have nothing : wanted.lookup sender = none := by
    simpa [List.lookup_eq_none_iff] using fun number container member =>
      (unwanted (number, container) member).symm
  have fresh : (wanted.filter fun want => !after.knows want.1) = wanted.filter fun want => !queue.knows want.1 :=
    List.filter_congr fun want member => by rw [offered.knows (unwanted want member)]
  have tasks : after.tasks.filterMap (·.profiled?) = queue.tasks.filterMap (·.profiled?) := by
    rw [offered.tasks_eq]
    split <;> simp [other]
  have senders : (after.granted ++ after.waiting).filterMap (wanted.lookup ·) =
      (queue.granted ++ queue.waiting).filterMap (wanted.lookup ·) := by
    cases offered with
    | granted member => simp only [List.filterMap_append, filterMap_erase (f := (wanted.lookup ·)) nothing]
    | free => rfl
    | full => simp [nothing]
  simp only [line, fresh, tasks, senders]

/-- Who is first to send does not overtake anyone. -/
theorem Offered.line_of_first
    (offered : Offered queue sender ⟨container, .containerProfiling⟩ after accepted)
    (wants : wanted = before ++ (sender, container) :: rest) (distinct : (wanted.map (·.1)).Nodup)
    (senders : (queue.granted ++ queue.waiting).Nodup) (unblocked : sender ∉ queue.waiting)
    (full : queue.waiting ≠ [] → queue.hasRoom = false)
    (front : sender ∈ queue.granted → queue.granted.head? = some sender)
    (first : sender ∉ queue.granted → queue.granted = [] ∧ ∀ want ∈ before, queue.knows want.1 = true) :
    after.line (if accepted then before ++ rest else wanted) = queue.line wanted := by
  subst wants
  have others : ∀ want ∈ before ++ rest, want.1 ≠ sender := by
    rw [List.map_append, List.map_cons, List.nodup_middle, List.nodup_cons, ← List.map_append] at distinct
    exact fun want member same => distinct.1 (List.mem_map.mpr ⟨want, member, same⟩)
  have own : (before ++ (sender, container) :: rest).lookup sender = some container := by
    have nothing : before.lookup sender = none := by
      simpa [List.lookup_eq_none_iff] using fun number container member =>
        (others (number, container) (List.mem_append_left _ member)).symm
    simp [List.lookup_append, nothing]
  have known {part : List (Nat × ContainerId)} (within : part ⊆ before ++ rest) :
      (part.filter fun want => !after.knows want.1) = part.filter fun want => !queue.knows want.1 :=
    List.filter_congr fun want member => by rw [offered.knows (others want (within member))]
  have earlier := known (List.subset_append_left before rest)
  have later := known (List.subset_append_right before rest)
  cases offered with
  | granted member =>
    obtain ⟨granted, split⟩ := List.head?_eq_some_iff.mp (front member)
    rw [split, List.cons_append, List.nodup_cons] at senders
    have waiting : (granted ++ queue.waiting).filterMap ((before ++ (sender, container) :: rest).lookup ·) =
        (granted ++ queue.waiting).filterMap ((before ++ rest).lookup ·) := by
      refine List.filterMap_congr fun other memberOther => ?_
      have differs : other ≠ sender := fun same => senders.1 (same ▸ memberOther)
      simp [List.lookup_append, List.lookup_cons, beq_false_of_ne differs]
    have isKnown : queue.knows sender = true := by simp [TaskQueue.knows, member]
    simp only [line, ↓reduceIte, List.filter_append, List.filter_cons, earlier, later, isKnown]
    simp only [split, List.erase_cons_head, List.cons_append, List.filterMap_cons, own, waiting]
    simp [Task.profiled?]
  | free fresh room =>
    obtain ⟨none, isKnown⟩ := first fresh
    have nobody : queue.waiting = [] := by
      by_contra some
      exact absurd (room.symm.trans (full some)) (by decide)
    have front : before = [] := by
      refine List.eq_nil_iff_forall_not_mem.mpr fun want member => ?_
      simpa [TaskQueue.knows, none, nobody] using isKnown want member
    subst front
    simp [line, none, nobody, TaskQueue.knows, Task.profiled?]
  | full fresh room =>
    obtain ⟨none, isKnown⟩ := first fresh
    have skipped : (before.filter fun want => !queue.knows want.1) = [] := by simpa using isKnown
    have unknown : queue.knows sender = false := by simp [TaskQueue.knows, none, unblocked]
    simp only [line, Bool.false_eq_true, ↓reduceIte, List.filter_append, List.filter_cons, earlier, later, skipped,
      unknown]
    simp [TaskQueue.knows, own]

end TaskQueue

/-- The profile that is handed to the store. -/
def Entry.profile? : Entry → Option Artifact
  | .offered _ artifact => if artifact.service = .containerProfiling then some artifact else none
  | _ => none

theorem Entry.profile?_of_aside {entry : Entry} (aside : entry.isCourse = false) : entry.profile? = none := by
  cases entry with
  | offered => contradiction
  | answered | lookup | scan | phase | stored | finished | notice => rfl

namespace Observation

variable {observation old new : Observation}

/-- The observation by its number and its container, as long as its profile is not sent. -/
def wants? (observation : Observation) : Option (Nat × ContainerId) :=
  if .containerProfiling ∈ observation.unsent then some (observation.serial, observation.container) else none

theorem wants?_eq_some {want : Nat × ContainerId} (wants : observation.wants? = some want) :
    .containerProfiling ∈ observation.unsent ∧ want = (observation.serial, observation.container) := by
  obtain ⟨unsent, same⟩ := Option.ite_none_right_eq_some.mp wants
  exact ⟨unsent, (Option.some.inj same).symm⟩

theorem wants?_eq_none (nothing : observation.unsent = []) : observation.wants? = none := by simp [wants?, nothing]

theorem profile?_congr (aggregation : new.aggregation = old.aggregation) (identity : new.identity = old.identity) :
    new.profile? = old.profile? := by
  simp only [profile?, derive?, resourceName, aggregation, identity]

end Observation

namespace Monitor

variable {monitor next base : Monitor} {action : Action} {observation old new : Observation} {serial : Nat}
  {container : ContainerId} {before after : List Observation}

/-- The profiles that were handed to the store, in this order. -/
def profiles (monitor : Monitor) : List Artifact := monitor.journal.filterMap Entry.profile?

/-- Who has yet to send a profile, in the order in which the observations began. -/
def wanted (monitor : Monitor) : List (Nat × ContainerId) := monitor.active.filterMap Observation.wants?

/-- The containers whose profiles have yet to be handed over, in the order in which they will be. -/
def line (monitor : Monitor) : List ContainerId := monitor.worker.profiled?.toList ++ monitor.queue.line monitor.wanted

/-! ## What a step does to the line -/

theorem profiles_write (monitor : Monitor) (entries : List Entry) :
    (monitor.write entries).profiles = monitor.profiles ++ entries.filterMap Entry.profile? := by
  simp [profiles, write]

theorem profiles_write_aside {entries : List Entry} (aside : ∀ entry ∈ entries, entry.isCourse = false) :
    (monitor.write entries).profiles = monitor.profiles := by
  have nothing : entries.filterMap Entry.profile? = [] :=
    List.filterMap_eq_nil_iff.mpr fun entry member => Entry.profile?_of_aside (aside entry member)
  simp [profiles_write, nothing]

theorem profiles_enter (monitor : Monitor) (observation : Observation) (phase : Phase) :
    (monitor.enter observation phase).profiles = monitor.profiles := by
  unfold enter
  dsimp only
  rw [profiles_write]
  split <;> simp [Entry.profile?, profiles, replace]

theorem profiles_finish (monitor : Monitor) (observation : Observation) (outcome : Outcome) :
    (monitor.finish observation outcome).profiles = monitor.profiles := by
  simp [profiles, finish, Entry.profile?]

theorem profiles_concludeTask (monitor : Monitor) (observation : Observation) (failed : Bool) :
    (monitor.concludeTask observation failed).profiles = monitor.profiles := by
  unfold concludeTask
  dsimp only
  split
  · rw [profiles_finish]
    rfl
  · rfl

theorem profiles_change (monitor : Monitor) (serial : Nat) (f : Observation → Observation) :
    (monitor.change serial f).profiles = monitor.profiles := by
  unfold change
  split <;> rfl

/-- Nobody else has anything to do with a new state of one observation. -/
theorem wanted_replaced (new : Observation) (among : Among monitor.active old before after)
    (active : next.active = (monitor.replace new).active) (serial : new.serial = old.serial)
    (wants : new.wants? = old.wants?) : next.wanted = monitor.wanted := by
  have replaced : next.active = before ++ new :: after := active.trans (among.replace serial)
  simp only [wanted, replaced, among.split, List.filterMap_append, List.filterMap_cons, wants]

theorem wanted_removed (among : Among monitor.active old before after)
    (active : next.active = monitor.active.filter (·.serial ≠ old.serial)) (wants : old.wants? = none) :
    next.wanted = monitor.wanted := by
  have removed : next.active = before ++ after := active.trans among.filter
  simp only [wanted, removed, among.split, List.filterMap_append, List.filterMap_cons, wants]

theorem Among.wanted (among : Among monitor.active old before after) : monitor.wanted =
    before.filterMap Observation.wants? ++ (old.wants?.toList ++ after.filterMap Observation.wants?) := by
  simp only [Monitor.wanted, among.split, List.filterMap_append, List.filterMap_cons]
  cases old.wants? <;> rfl

theorem line_congr (worker : next.worker.profiled? = monitor.worker.profiled?) (queue : next.queue = monitor.queue)
    (wanted : next.wanted = monitor.wanted) : next.line = monitor.line := by
  simp only [line, worker, queue, wanted]

/-! ## The order of reports -/

/-- Observations are over in the order in which they began, and report in that order. -/
structure Timely (monitor : Monitor) : Prop where
  inOrder : monitor.active.Pairwise fun observation later => observation.deadline ≤ later.deadline ∧
    (later.aggregation.result ≠ none → observation.aggregation.result ≠ none)
  latest : ∀ observation ∈ monitor.active, observation.deadline ≤ monitor.now + monitor.policy.window
  elapsed : ∀ observation ∈ monitor.active, observation.phase ≠ .watching → observation.deadline ≤ monitor.now

private theorem Timely.revise (timely : monitor.Timely) (new : Observation)
    (among : Among monitor.active old before after)
    (active : next.active = (monitor.replace new).active) (serial : new.serial = old.serial)
    (frame : next.now = monitor.now ∧ next.policy = monitor.policy) (deadline : new.deadline = old.deadline)
    (phase : new.phase ≠ .watching → old.phase ≠ .watching ∨ old.deadline ≤ monitor.now)
    (still : old.aggregation.result ≠ none → new.aggregation.result ≠ none)
    (reported : new.aggregation.result ≠ none →
      old.aggregation.result ≠ none ∨ ∀ earlier ∈ before, earlier.aggregation.result ≠ none) : next.Timely := by
  have replaced : next.active = before ++ new :: after := active.trans (among.replace serial)
  obtain ⟨inOrder, latest, elapsed⟩ := timely
  rw [among.split] at inOrder latest elapsed
  simp only [List.pairwise_append, List.pairwise_cons, List.mem_cons, forall_eq_or_imp] at inOrder
  obtain ⟨first, ⟨behind, second⟩, across⟩ := inOrder
  refine ⟨?_, ?_, ?_⟩
  · rw [replaced]
    simp only [List.pairwise_append, List.pairwise_cons, List.mem_cons, forall_eq_or_imp]
    refine ⟨first, ⟨fun later member => ?_, second⟩, fun earlier member => ⟨?_, (across earlier member).2⟩⟩
    · rw [deadline]
      exact (behind later member).imp_right fun order reports => still (order reports)
    · rw [deadline]
      refine (across earlier member).1.imp_right fun order reports => ?_
      rcases reported reports with before | before
      · exact order before
      · exact before earlier member
  · rw [replaced, frame.1, frame.2]
    simp only [List.mem_append, List.mem_cons, or_imp, forall_and, forall_eq] at latest ⊢
    exact ⟨latest.1, by rw [deadline]; exact latest.2.1, latest.2.2⟩
  · rw [replaced, frame.1]
    simp only [List.mem_append, List.mem_cons, or_imp, forall_and, forall_eq] at latest elapsed ⊢
    refine ⟨elapsed.1, fun left => ?_, elapsed.2.2⟩
    rw [deadline]
    exact (phase left).elim elapsed.2.1 id

private theorem Timely.remove (timely : monitor.Timely)
    (active : next.active = monitor.active.filter (·.serial ≠ serial))
    (frame : next.now = monitor.now ∧ next.policy = monitor.policy) : next.Timely := by
  have within : next.active ⊆ monitor.active := active ▸ List.filter_subset_self _
  refine ⟨?_, fun observation member => ?_, fun observation member => ?_⟩
  · rw [active]
    exact timely.inOrder.filter _
  · rw [frame.1, frame.2]
    exact timely.latest observation (within member)
  · rw [frame.1]
    exact timely.elapsed observation (within member)

/-- An observation reports after all that began before it. -/
theorem Kept.reported_before (kept : monitor.Kept) (timely : monitor.Timely)
    (among : Among monitor.active old before after) (stopped : old.phase = .stoppedByTimer)
    (picked : monitor.watchAction? = some (.report old.serial)) :
    ∀ earlier ∈ before, earlier.aggregation.result ≠ none := by
  have idle : before.findSome? monitor.observationAction? = none := by
    by_contra busy
    obtain ⟨action, acts⟩ := Option.ne_none_iff_exists'.mp busy
    rw [watchAction?, among.split, List.findSome?_append, acts, Option.some_or] at picked
    obtain rfl := Option.some.inj picked
    obtain ⟨earlier, member, acts⟩ := List.exists_of_findSome?_eq_some acts
    have own : earlier.serial = old.serial := by simpa [eq_comm] using observationAction?_spec acts
    exact among.others earlier (List.mem_append_left _ member) own
  intro earlier member unreported
  have acts := List.findSome?_eq_none_iff.mp idle earlier member
  have memberActive : earlier ∈ monitor.active := among.split ▸ List.mem_append_left _ member
  have memberOld : old ∈ monitor.active := among.split ▸ List.mem_append_right _ (List.mem_cons_self ..)
  rcases ((kept.accounted.stands earlier memberActive).unannounced unreported).1 with watching | stoppedToo
  · -- its deadline has come before that of the one that reports
    have inOrder := timely.inOrder
    rw [among.split, List.pairwise_append] at inOrder
    have sooner := (inOrder.2.2 earlier member old (List.mem_cons_self ..)).1
    have elapsed := timely.elapsed old memberOld (by simp [stopped])
    simp [observationAction?, watching, Nat.le_trans sooner elapsed] at acts
  · have goesOn := isSome_observationAction? monitor stoppedToo unreported
    simp [acts] at goesOn

/-- The observations stay in order as long as actions are taken in turn. -/
theorem Timely.step (timely : monitor.Timely) (kept : monitor.Kept) (inTurn : monitor.InTurn action)
    (stepped : monitor.step? action = some next) : next.Timely := by
  cases behind : action.isWatch with
  | false =>
    have aside := kept.aside_step inTurn.scheduled behind stepped
    cases aside.progress with
    | kept active =>
      obtain ⟨inOrder, latest, elapsed⟩ := timely
      rw [← active] at inOrder latest elapsed
      exact ⟨inOrder, aside.now ▸ aside.policy ▸ latest, aside.now ▸ elapsed⟩
    | revised old new member advanced active =>
      obtain ⟨before, after, among⟩ := kept.among member
      have same := congrArg Completion.result advanced.aggregation
      exact timely.revise new among active advanced.serial ⟨aside.now, aside.policy⟩ advanced.deadline
        (fun left => .inl (advanced.phase left)) (same ▸ id) (same ▸ .inl)
    | ended old member reported unsent active => exact timely.remove active ⟨aside.now, aside.policy⟩
  | true =>
    cases action with
    | ingest | exclude | intrude | elapse | request | enroll | hire | divert | closeQueue | forgetPod | retainPods
    | sbomReady | vulnerabilitiesReady | send | take | prepare | stored => contradiction
    | aggregate serial move =>
      obtain ⟨old, aggregator, acc, found, -, rfl⟩ := aggregate?_spec stepped
      obtain ⟨before, after, among⟩ := kept.among (mem_active_of_observation? found).1
      exact timely.revise { old with aggregator := aggregator } among rfl rfl ⟨rfl, rfl⟩ rfl .inl id .inl
    | expire serial =>
      obtain ⟨old, found, -, due, rfl⟩ := expire?_spec stepped
      obtain ⟨before, after, among⟩ := kept.among (mem_active_of_observation? found).1
      exact timely.revise { old with phase := .stoppedByTimer } among rfl rfl ⟨rfl, rfl⟩ rfl
        (fun _ => .inr due) id .inl
    | abort serial =>
      obtain ⟨old, outcome, aborted, -, -, -, -, -, reached⟩ := abort?_spec stepped
      exact timely.remove (active_abort? stepped) (by rw [reached]; exact ⟨rfl, rfl⟩)
    | report serial =>
      obtain ⟨old, outcome, notice, reported, found, -, stopped, unreported, -, same, outcomes⟩ := report?_spec stepped
      obtain ⟨member, rfl⟩ := mem_active_of_observation? found
      obtain ⟨before, after, among⟩ := kept.among member
      have earlier := kept.reported_before timely among stopped (inTurn.watch rfl)
      have replaced : (monitor.replace reported).Timely := by
        refine timely.revise reported among rfl (by rw [same]) ⟨rfl, rfl⟩ (by rw [same]) ?_ ?_ fun _ => .inr earlier
        · exact fun _ => .inl (by simp [stopped])
        · exact fun already => absurd unreported already
      obtain ⟨-, rfl⟩ | ⟨-, rfl⟩ := outcomes
      · have removed : (((monitor.replace reported).write [.notice notice]).finish reported (.completed 0)).active =
            (monitor.replace reported).active.filter (·.serial ≠ reported.serial) := rfl
        exact replaced.remove removed ⟨rfl, rfl⟩
      · exact ⟨replaced.inOrder, replaced.latest, replaced.elapsed⟩

/-! ## Nobody overtakes -/

/-- Who has yet to send a profile is observed and has reported. -/
theorem Kept.reported_of_wanted (kept : monitor.Kept) (member : (serial, container) ∈ monitor.wanted) :
    ∃ observation ∈ monitor.active, observation.container = container ∧ observation.aggregation.result ≠ none := by
  obtain ⟨observation, running, wants⟩ := List.mem_filterMap.mp member
  obtain ⟨unsent, same⟩ := Observation.wants?_eq_some wants
  refine ⟨observation, running, (congrArg Prod.snd same).symm, (kept.accounted.stands observation running).reported fun nothing => ?_⟩
  simp only [Books.outstanding, List.append_eq_nil_iff] at nothing
  rw [nothing.2] at unsent
  contradiction

/-- Who stands in line is observed and has reported. -/
theorem Kept.reported_of_line (kept : monitor.Kept) (member : container ∈ monitor.line) :
    ∃ observation ∈ monitor.active, observation.container = container ∧ observation.aggregation.result ≠ none := by
  have stands (observation : Observation) (running : observation ∈ monitor.active) :=
    kept.accounted.stands observation running
  simp only [line, TaskQueue.line, List.mem_append, List.mem_filterMap, Option.mem_toList, List.mem_map, List.mem_filter]
    at member
  rcases member with working | (⟨task, queued, profiled⟩ | ⟨sender, -, found⟩) | ⟨⟨number, _⟩, ⟨listed, -⟩, rfl⟩
  · cases worker : monitor.worker with
    | absent | idle | storing => simp [worker, Worker.profiled?] at working
    | preparing serial task =>
      obtain ⟨-, rfl⟩ : _ ∧ task.container = container := by simpa [worker, Worker.profiled?, Task.profiled?] using working
      have working : monitor.books.working = some (serial, task) := congrArg Worker.task? worker
      obtain ⟨owner, running, rfl, own⟩ := kept.accounted.worked serial task working
      refine ⟨owner, running, own, (stands owner running).reported ?_⟩
      rw [Books.outstanding_of_working working]
      exact List.cons_ne_nil _ _
  · obtain ⟨-, same⟩ := Option.ite_none_right_eq_some.mp profiled
    obtain rfl := Option.some.inj same
    obtain ⟨owner, running, own⟩ := kept.accounted.owned task queued
    exact ⟨owner, running, own, (stands owner running).reported (Books.outstanding_ne_nil_of_queued queued own)⟩
  · obtain ⟨earlier, later, split, -⟩ := List.lookup_eq_some_iff.mp found
    have listed : (sender, container) ∈ monitor.wanted := by simp [split]
    exact kept.reported_of_wanted listed
  · exact kept.reported_of_wanted listed

/-- Nobody who has reported is left. -/
def IsThrough (monitor : Monitor) : Prop := ∀ observation ∈ monitor.active, observation.aggregation.result = none

instance (monitor : Monitor) : Decidable monitor.IsThrough :=
  inferInstanceAs (Decidable (∀ observation ∈ monitor.active, observation.aggregation.result = none))

/-- When nobody who has reported is left, nothing has yet to be sent. -/
theorem Kept.wanted_of_isThrough (kept : monitor.Kept) (through : monitor.IsThrough) : monitor.wanted = [] := by
  refine List.eq_nil_iff_forall_not_mem.mpr fun want member => ?_
  obtain ⟨observation, running, -, reported⟩ := kept.reported_of_wanted member
  exact reported (through observation running)

/-- Nor does anybody stand in line. -/
theorem Kept.line_of_isThrough (kept : monitor.Kept) (through : monitor.IsThrough) : monitor.line = [] := by
  refine List.eq_nil_iff_forall_not_mem.mpr fun container member => ?_
  obtain ⟨observation, running, -, reported⟩ := kept.reported_of_line member
  exact reported (through observation running)

/-- As long as the container is observed, it has reported, and this is the profile that its observation has. -/
def Knows (monitor : Monitor) (entry : ContainerId × Option Artifact) : Prop :=
  ∀ observation ∈ monitor.active, observation.container = entry.1 →
    observation.aggregation.result ≠ none ∧ observation.profile? = entry.2

/-- Some containers have been served, and the others stand in line, each with the profile that its observation has. -/
structure Lined (monitor : Monitor) (served left : List (ContainerId × Option Artifact)) : Prop where
  inLine : left.map (·.1) = monitor.line
  known : ∀ entry ∈ left, monitor.Knows entry
  handed : monitor.profiles = served.filterMap (·.2)

variable {entry : ContainerId × Option Artifact} {served left : List (ContainerId × Option Artifact)}

/-- A result of the aggregation stays. -/
theorem Separate.aggregation_eq (separate : monitor.Separate) (member : old ∈ monitor.active)
    (revised : Revised monitor.accumulator next.accumulator action old new) (reported : old.aggregation.result ≠ none) :
    new.aggregation = old.aggregation := by
  obtain ⟨result, reported⟩ := Option.ne_none_iff_exists'.mp reported
  obtain ⟨outcome, ended, rfl⟩ := (separate.fits old member).reported result reported
  have unmoved : new.aggregator = .ended outcome := by
    rcases revised.aggregator with ⟨move, -, moved⟩ | same
    · rw [ended] at moved
      cases moved
    · exact same.trans ended
  rcases revised.aggregation with same | ⟨later, endedLater, reportedLater⟩
  · exact same
  · obtain rfl := Aggregation.Aggregator.ended.inj (unmoved.symm.trans endedLater)
    exact congrArg Completion.mk (reportedLater.trans reported.symm)

/-- What is known of a container stays, unless it is observed anew. -/
theorem Knows.step (known : monitor.Knows entry) (separate : monitor.Separate)
    (stepped : monitor.step? action = some next)
    (unbegun : ∀ start ∈ monitor.entering, monitor.observing? start.container = none → start.container ≠ entry.1) :
    next.Knows entry := by
  intro observation member own
  cases effect_of_step stepped with
  | kept active => exact known observation (active ▸ member) own
  | begun start identity entering unobserved active =>
    rw [active] at member
    rcases List.mem_append.mp member with before | fresh
    · exact known observation before own
    · obtain rfl := List.mem_singleton.mp fresh
      exact absurd own (unbegun start entering unobserved)
  | revised old new memberOld revised active =>
    rw [active] at member
    obtain ⟨other, memberOther, rfl⟩ := List.mem_map.mp member
    split at own
    · have container : new.container = old.container := congrArg Start.container revised.start
      obtain ⟨reported, profile⟩ := known old memberOld (container.symm.trans own)
      have aggregation := separate.aggregation_eq memberOld revised reported
      rw [if_pos ‹_›, aggregation, Observation.profile?_congr aggregation revised.identity]
      exact ⟨reported, profile⟩
    · rw [if_neg ‹_›]
      exact known other memberOther own
  | ended old memberOld active =>
    rw [active] at member
    exact known observation (List.mem_of_mem_filter member) own

/-- An observation that has reported is known. -/
theorem Separate.knows (separate : monitor.Separate) (member : observation ∈ monitor.active)
    (reported : observation.aggregation.result ≠ none) :
    monitor.Knows (observation.container, observation.profile?) := by
  intro other running own
  obtain rfl : other = observation := by
    by_contra differ
    exact (separate.apart_of_ne running member differ).container own
  exact ⟨reported, rfl⟩

theorem Lined.known_step (lined : monitor.Lined served left) (kept : monitor.Kept)
    (stepped : monitor.step? action = some next) (listed : entry ∈ left) : next.Knows entry := by
  refine (lined.known entry listed).step kept.toSeparate stepped fun start _ unobserved same => ?_
  -- those in line are observed already
  have inLine : entry.1 ∈ monitor.line := lined.inLine ▸ List.mem_map_of_mem listed
  obtain ⟨other, running, own, -⟩ := kept.reported_of_line inLine
  have differs : other.container ≠ start.container := by simpa using List.find?_eq_none.mp unobserved other running
  exact differs (own.trans same.symm)

theorem Lined.still (lined : monitor.Lined served left) (kept : monitor.Kept)
    (stepped : monitor.step? action = some next) (line : next.line = monitor.line)
    (profiles : next.profiles = monitor.profiles) : next.Lined served left :=
  ⟨lined.inLine.trans line.symm, fun _ => lined.known_step kept stepped, profiles.trans lined.handed⟩

/-- What is to be handed over after an observation has reported, with its container. -/
def announced (monitor : Monitor) : Action → List (ContainerId × Option Artifact)
  | .report serial => match monitor.observation? serial with
    | some observation =>
        if .containerProfiling ∈ observation.unsent then [(observation.container, observation.profile?)] else []
    | none => []
  | _ => []

/-- Behind the observations, only a sender changes who has yet to send. -/
theorem Kept.wanted_aside (kept : monitor.Kept) (aside : Aside monitor action next)
    (unsending : ∀ serial, action ≠ .send serial) : next.wanted = monitor.wanted := by
  cases aside.progress with
  | kept active => simp only [wanted, active]
  | revised old new member advanced active =>
    obtain ⟨before, after, among⟩ := kept.among member
    refine wanted_replaced new among active advanced.serial ?_
    have unsent := advanced.unsent.resolve_right fun ⟨serial, sends⟩ => unsending serial sends
    simp only [Observation.wants?, Observation.container, advanced.serial, advanced.start, unsent]
  | ended old member reported unsent active =>
    obtain ⟨before, after, among⟩ := kept.among member
    exact wanted_removed among active (Observation.wants?_eq_none unsent)

/-- What the worker hands over when it has prepared a task. -/
private theorem profiles_prepare (stepped : monitor.prepare? = some next) :
    ∃ serial task old, monitor.worker = .preparing serial task ∧ monitor.observation? serial = some old ∧
      next.worker.profiled? = none ∧ next.queue = monitor.queue ∧
      next.profiles = monitor.profiles ++ if task.service = .containerProfiling then old.profile?.toList else [] := by
  obtain ⟨serial, task, old, busy, found, ⟨derived, derives, rfl⟩ | ⟨reason, derives, rfl⟩⟩ := prepare?_spec stepped
  · refine ⟨serial, task, old, busy, found, rfl, rfl, ?_⟩
    have service := (Observation.yields_of_derive? derives).service_eq
    have silent : (noticeOf derived).filterMap Entry.profile? = [] := by
      unfold noticeOf
      split <;> rfl
    have written := profiles_write monitor (noticeOf derived ++ [.offered serial derived.artifact])
    rw [List.filterMap_append, silent, List.nil_append] at written
    refine written.trans (congrArg _ ?_)
    by_cases profiling : task.service = .containerProfiling
    · rw [profiling] at derives
      simp [Entry.profile?, Observation.profile?, derives, service, profiling]
    · simp [Entry.profile?, service, profiling]
  · refine ⟨serial, task, old, busy, found, ?_, ?_, ?_⟩
    · rw [(frame_concludeTask ..).2.2]
      rfl
    · have stepped' : monitor.step? .prepare = _ := stepped
      exact (queue_step stepped').resolve_right (by simp)
    · rw [profiles_concludeTask, profiles_write_aside (by simp [Entry.isCourse])]
      split
      · rename_i profiling
        rw [profiling] at derives
        simp [Observation.profile?, derives, profiles]
      · exact (List.append_nil _).symm

/-! ## What an action does to the profiles on their way -/

/-- What an action does to the profiles on their way. They are announced, offered to the queue, taken out of it and
handed over, and all other actions leave them where they are. -/
inductive Supply (monitor next : Monitor) : Action → Prop
  | still {action : Action} (worker : next.worker.profiled? = monitor.worker.profiled?)
      (queue : next.queue = monitor.queue) (wanted : next.wanted = monitor.wanted)
      (profiles : next.profiles = monitor.profiles) (silent : next.announced action = []) : Supply monitor next action
  | announced (old reported : Observation) (before after : List Observation)
      (among : Among monitor.active old before after) (unreported : old.aggregation.result = none)
      (serial : reported.serial = old.serial) (container : reported.container = old.container)
      (settled : reported.aggregation.result ≠ none) (profiling : .containerProfiling ∈ reported.unsent)
      (active : next.active = before ++ reported :: after) (worker : next.worker = monitor.worker)
      (queue : next.queue = monitor.queue) (profiles : next.profiles = monitor.profiles)
      (told : next.announced (.report old.serial) = [(old.container, reported.profile?)]) :
      Supply monitor next (.report old.serial)
  /-- Whether the task went in decides who is left to send. -/
  | offered (old : Observation) (service : Service) (unsent : List Service) (before after : List Observation)
      (accepted : Bool) (among : Among monitor.active old before after) (announced : old.unsent = service :: unsent)
      (last : .containerProfiling ∉ unsent) (unblocked : old.serial ∉ monitor.queue.waiting)
      (offered : TaskQueue.Offered monitor.queue old.serial ⟨old.container, service⟩ next.queue accepted)
      (worker : next.worker = monitor.worker) (profiles : next.profiles = monitor.profiles)
      (wanted : next.wanted =
        if accepted then before.filterMap Observation.wants? ++ after.filterMap Observation.wants? else monitor.wanted) :
      Supply monitor next (.send old.serial)
  | taken (task : Task) (idle : monitor.worker = .idle) (taken : monitor.queue.take? = some (task, next.queue))
      (worker : next.worker.profiled? = task.profiled?) (wanted : next.wanted = monitor.wanted)
      (profiles : next.profiles = monitor.profiles) : Supply monitor next .take
  | prepared (serial : Nat) (task : Task) (old : Observation) (busy : monitor.worker = .preparing serial task)
      (found : monitor.observation? serial = some old) (worker : next.worker.profiled? = none)
      (queue : next.queue = monitor.queue) (wanted : next.wanted = monitor.wanted)
      (profiles : next.profiles =
        monitor.profiles ++ if task.service = .containerProfiling then old.profile?.toList else []) :
      Supply monitor next .prepare

private theorem Served.supply_report (serves : monitor.Served) (stepped : monitor.report? serial = some next) :
    Supply monitor next (.report serial) := by
  obtain ⟨old, outcome, notice, reported, found, -, -, unreported, aside, same, outcomes⟩ := report?_spec stepped
  obtain ⟨member, rfl⟩ := mem_active_of_observation? found
  obtain ⟨before, after, among⟩ := serves.among member
  have numbered : reported.serial = old.serial := by rw [same]
  have container : reported.container = old.container := by rw [same]; rfl
  have unwanted := Observation.wants?_eq_none ((serves.accounted.stands old member).unsent_eq_nil unreported)
  have silent : ((monitor.replace reported).write [.notice notice]).profiles = monitor.profiles :=
    profiles_write_aside (by simpa using aside)
  obtain ⟨-, reached⟩ | ⟨-, reached⟩ := outcomes
  · -- without services the observation ends at once
    have active : next.active = monitor.active.filter (·.serial ≠ old.serial) := by
      rw [reached, ← numbered]
      exact filter_active_replace monitor reported
    have gone : next.observation? old.serial = none := by simp [observation?, active]
    refine .still ?_ ?_ (wanted_removed among active unwanted) ?_ (by simp [announced, gone])
    · rw [reached]
      rfl
    · rw [reached]
      rfl
    · rw [reached, profiles_finish, silent]
  · have observed : next.observation? old.serial = some reported := by
      rw [reached]
      exact observation?_replace found numbered
    have active : next.active = before ++ reported :: after := by
      rw [reached]
      exact among.replace numbered
    have profiles : next.profiles = monitor.profiles := by rw [reached, silent]
    have queue : next.queue = monitor.queue := by rw [reached]; rfl
    have worker : next.worker = monitor.worker := by rw [reached]; rfl
    by_cases profiling : .containerProfiling ∈ reported.unsent
    · refine .announced old reported before after among unreported numbered container ?_ profiling active worker queue
        profiles (by simp [announced, observed, profiling, container])
      rw [same]
      simp [Completion.complete]
    · have own : reported.wants? = none := by simp [Observation.wants?, profiling]
      have wants : next.wanted = monitor.wanted := by simp [wanted, active, among.split, unwanted, own]
      exact .still (by rw [worker]) queue wants profiles (by simp [announced, observed, profiling])

private theorem Served.supply_send (serves : monitor.Served) (stepped : monitor.send? serial = some next) :
    Supply monitor next (.send serial) := by
  obtain ⟨old, service, unsent, found, announced, ⟨-, unblocked, queue, offers⟩ | ⟨closed, -⟩⟩ := send?_spec stepped
  · obtain ⟨member, rfl⟩ := mem_active_of_observation? found
    obtain ⟨before, after, among⟩ := serves.among member
    simp only [TaskQueue.isBlocked, decide_eq_false_iff_not] at unblocked
    have left : service :: unsent <:+ monitor.policy.services.toList :=
      announced ▸ (List.suffix_append _ _).trans (serves.accounted.stands old member).ordered
    have last := EnabledServices.containerProfiling_notMem left
    obtain ⟨accepted, rfl⟩ | ⟨refused, rfl⟩ := offers
    · refine .offered old service unsent before after true among announced last unblocked
        (TaskQueue.offered_of_offer accepted) rfl rfl ?_
      have active : ({ monitor with queue := queue }.replace { old with unsent := unsent }).active =
          before ++ { old with unsent := unsent } :: after := among.replace rfl
      simp [Monitor.wanted, active, Observation.wants?, last]
    · exact .offered old service unsent before after false among announced last unblocked
        (TaskQueue.offered_of_offer refused) rfl rfl rfl
  · exact absurd (serves.isOpen.symm.trans closed) (by decide)

private theorem Served.supply_take (serves : monitor.Served) (stepped : monitor.take? = some next) :
    Supply monitor next .take := by
  have stepped' : monitor.step? .take = some next := stepped
  have wanted := serves.wanted_aside (serves.aside_step rfl rfl stepped') (by simp)
  obtain ⟨task, queue, idle, taken, ⟨unobserved, -⟩ | ⟨old, observed, reached⟩⟩ := take?_spec stepped
  · -- the queue holds tasks of observed containers only
    have queued : task ∈ monitor.queue.tasks := by simp [(TaskQueue.tasks_of_take? taken).1]
    obtain ⟨owner, running, own⟩ := serves.accounted.owned task queued
    exact absurd own (by simpa using List.find?_eq_none.mp unobserved owner running)
  · have queues : next.queue = queue := by rw [reached]; rfl
    have working : next.worker = .preparing old.serial task := by rw [reached]
    refine .taken task idle (queues ▸ taken) (by rw [working]; rfl) wanted ?_
    rw [reached]
    exact profiles_enter { monitor with queue := queue } old .pipelineRunning

/-- Every action does one of these things to the profiles, as long as nobody else touches the queue. -/
theorem Served.supply (serves : monitor.Served) (stepped : monitor.step? action = some next)
    (undiverted : action ≠ .divert) (unclosed : action ≠ .closeQueue) : Supply monitor next action := by
  cases action with
  | divert | closeQueue => contradiction
  | ingest | exclude | intrude | elapse | forgetPod | retainPods =>
    obtain rfl := Option.some.inj stepped
    exact .still rfl rfl rfl rfl rfl
  | request start =>
    obtain rfl := Option.some.inj stepped
    unfold request
    split
    · exact .still rfl rfl rfl (profiles_write_aside (by simp [Entry.isCourse])) rfl
    · exact .still rfl rfl rfl rfl rfl
  | enroll index identity =>
    obtain ⟨start, -, ⟨-, rfl⟩ | ⟨-, rfl⟩⟩ := enroll?_spec stepped
    · exact .still rfl rfl rfl (profiles_write_aside (by simp [Entry.isCourse])) rfl
    · refine .still rfl rfl ?_ ?_ rfl
      · simp [wanted, begin, Observation.wants?, Observation.ofStart]
      · simp [profiles, begin, List.filterMap_cons, List.filterMap_map, Function.comp_def, Entry.profile?]
  | sbomReady serial result =>
    have wanted := serves.wanted_aside (serves.aside_step rfl rfl stepped) (by simp)
    have queue := (queue_step stepped).resolve_right (by simp)
    obtain ⟨inquiry, entries, -, remarks, rfl⟩ := sbomReady?_spec stepped
    refine .still ?_ queue wanted ?_ rfl
    · rw [(frame_change ..).2.2]
      rfl
    · rw [profiles_change, profiles_write_aside (Entry.aside_of_remarks remarks)]
      rfl
  | vulnerabilitiesReady serial result =>
    have wanted := serves.wanted_aside (serves.aside_step rfl rfl stepped) (by simp)
    have queue := (queue_step stepped).resolve_right (by simp)
    obtain ⟨inquiry, entries, -, remarks, rfl⟩ := vulnerabilitiesReady?_spec stepped
    refine .still ?_ queue wanted ?_ rfl
    · rw [(frame_change ..).2.2]
      rfl
    · rw [profiles_change, profiles_write_aside (Entry.aside_of_remarks remarks)]
      rfl
  | aggregate serial move =>
    obtain ⟨old, aggregator, acc, found, -, rfl⟩ := aggregate?_spec stepped
    obtain ⟨before, after, among⟩ := serves.among (mem_active_of_observation? found).1
    exact .still rfl rfl (wanted_replaced { old with aggregator := aggregator } among rfl rfl rfl) rfl rfl
  | expire serial =>
    obtain ⟨old, found, -, -, rfl⟩ := expire?_spec stepped
    obtain ⟨before, after, among⟩ := serves.among (mem_active_of_observation? found).1
    have wanted := wanted_replaced { old with phase := .stoppedByTimer } among rfl rfl rfl
    exact .still rfl rfl wanted (profiles_enter monitor old .stoppedByTimer) rfl
  | abort serial =>
    obtain ⟨old, outcome, aborted, found, -, watching, -, -, reached⟩ := abort?_spec stepped
    obtain ⟨member, rfl⟩ := mem_active_of_observation? found
    obtain ⟨before, after, among⟩ := serves.among member
    have stands := serves.accounted.stands old member
    have unwanted := Observation.wants?_eq_none (stands.unsent_eq_nil (stands.unreported watching))
    have wanted := wanted_removed among (active_abort? stepped) unwanted
    subst reached
    refine .still rfl rfl wanted ?_ rfl
    rw [profiles_finish, profiles_write_aside (by simp [Entry.isCourse]), profiles_enter]
    rfl
  | report serial => exact serves.supply_report stepped
  | send serial => exact serves.supply_send stepped
  | hire =>
    obtain ⟨owns, rfl⟩ := hire?_spec stepped
    have absent : monitor.worker = .absent := by simpa using (Bool.and_eq_true_iff.mp owns).1
    exact .still (by rw [absent]; rfl) rfl rfl rfl rfl
  | take => exact serves.supply_take stepped
  | prepare =>
    have wanted := serves.wanted_aside (serves.aside_step rfl rfl stepped) (by simp)
    obtain ⟨serial, task, old, busy, found, idle, queue, profiles⟩ := profiles_prepare stepped
    exact .prepared serial task old busy found idle queue wanted profiles
  | stored result =>
    have wanted := serves.wanted_aside (serves.aside_step rfl rfl stepped) (by simp)
    have queue := (queue_step stepped).resolve_right (by simp)
    obtain ⟨serial, task, artifact, since, old, entries, failed, busy, found, -, remarks, rfl⟩ := stored?_spec stepped
    refine .still ?_ queue wanted ?_ rfl
    · rw [(frame_concludeTask ..).2.2, busy]
      rfl
    · rw [profiles_concludeTask, profiles_write_aside (Entry.aside_of_remarks remarks)]
      rfl

/-! ## Moving up -/

/-- The worker does a task for the observation of its container. -/
theorem Kept.container_of_preparing (kept : monitor.Kept) {task : Task} (busy : monitor.worker = .preparing serial task)
    (found : monitor.observation? serial = some old) : old.container = task.container := by
  obtain ⟨owner, running, numbered, own⟩ := kept.accounted.worked serial task (congrArg Worker.task? busy)
  obtain ⟨member, rfl⟩ := mem_active_of_observation? found
  exact kept.eq_of_serial running member numbered ▸ own

/-- The first in line is served. -/
theorem Lined.prepare (lined : monitor.Lined served left) (kept : monitor.Kept)
    (stepped : monitor.step? action = some next) {task : Task} (busy : monitor.worker = .preparing serial task)
    (found : monitor.observation? serial = some old) (idle : next.worker.profiled? = none)
    (queue : next.queue = monitor.queue) (wanted : next.wanted = monitor.wanted)
    (profiles : next.profiles =
      monitor.profiles ++ if task.service = .containerProfiling then old.profile?.toList else []) :
    ∃ served' left', next.Lined served' left' ∧ served' ++ left' = served ++ left := by
  have line : monitor.line = task.profiled?.toList ++ next.line := by
    simp only [Monitor.line, idle, queue, wanted, Option.toList_none, List.nil_append]
    rw [busy]
    rfl
  by_cases profiling : task.service = .containerProfiling
  · rw [if_pos profiling] at profiles
    have own := kept.container_of_preparing busy found
    rw [Task.profiled?, if_pos profiling, Option.toList_some, List.singleton_append, ← lined.inLine] at line
    obtain ⟨⟨container, profile⟩, rest, rfl, rfl, others⟩ := List.map_eq_cons_iff.mp line
    have member := (mem_active_of_observation? found).1
    obtain ⟨-, rfl⟩ := lined.known _ (List.mem_cons_self ..) old member own
    refine ⟨served ++ [(task.container, old.profile?)], rest,
      ⟨others, fun _ listed => lined.known_step kept stepped (List.mem_cons_of_mem _ listed), ?_⟩, by simp⟩
    rw [profiles, lined.handed, List.filterMap_append]
    cases old.profile? <;> rfl
  · rw [if_neg profiling, List.append_nil] at profiles
    rw [Task.profiled?, if_neg profiling, Option.toList_none, List.nil_append] at line
    exact ⟨served, left, lined.still kept stepped line.symm profiles, rfl⟩

/-- A task that the worker takes keeps its place in the line. -/
theorem line_take {task : Task} (idle : monitor.worker = .idle)
    (taken : monitor.queue.take? = some (task, next.queue)) (worker : next.worker.profiled? = task.profiled?)
    (wanted : next.wanted = monitor.wanted) : next.line = monitor.line := by
  rw [line, line, worker, wanted, idle, TaskQueue.line_of_take? taken monitor.wanted]
  rfl

/-- Those for whom a place is kept can all send. -/
theorem Served.senders_eq (serves : monitor.Served) : monitor.senders = monitor.queue.granted ++
    ((monitor.active.filter monitor.canSend).map (·.serial)).filter (· ∉ monitor.queue.granted) := by
  have able : monitor.queue.granted.filter (· ∈ (monitor.active.filter monitor.canSend).map (·.serial)) =
      monitor.queue.granted := by
    refine List.filter_eq_self.mpr fun sender granted => ?_
    obtain ⟨observation, running, rfl, unsent⟩ := serves.queueing.known sender (List.mem_append_left _ granted)
    have unblocked : observation.serial ∉ monitor.queue.waiting := fun waits =>
      List.disjoint_of_nodup_append serves.queueing.distinct granted waits
    have can : monitor.canSend observation = true := by simp [canSend, unsent, TaskQueue.isBlocked, unblocked]
    exact decide_eq_true (List.mem_map_of_mem (List.mem_filter.mpr ⟨running, can⟩))
  simp only [senders, able]

/-- The first of the senders has the first of the places that are kept. If none is kept, all who began before it wait
for one. -/
private theorem Served.first_sender (serves : monitor.Served) (among : Among monitor.active old before after)
    (first : monitor.senders.head? = some old.serial) :
    (old.serial ∈ monitor.queue.granted → monitor.queue.granted.head? = some old.serial) ∧
      (old.serial ∉ monitor.queue.granted → monitor.queue.granted = [] ∧
        ∀ want ∈ before.filterMap Observation.wants?, monitor.queue.knows want.1 = true) := by
  rw [serves.senders_eq] at first
  cases granted : monitor.queue.granted with
  | cons sender others =>
    rw [granted] at first
    obtain rfl := Option.some.inj first
    exact ⟨fun _ => rfl, fun fresh => absurd (List.mem_cons_self ..) fresh⟩
  | nil =>
    refine ⟨nofun, fun _ => ⟨rfl, fun want member => ?_⟩⟩
    by_contra unknown
    obtain ⟨earlier, isBefore, wants⟩ := List.mem_filterMap.mp member
    obtain ⟨unsent, rfl⟩ := Observation.wants?_eq_some wants
    have can : monitor.canSend earlier = true := by
      have unblocked : earlier.serial ∉ monitor.queue.waiting := fun waits =>
        unknown (decide_eq_true (List.mem_append_right _ waits))
      simp [canSend, TaskQueue.isBlocked, unblocked, List.ne_nil_of_mem unsent]
    -- the first that can send would be before the first sender
    have some : before.filter monitor.canSend ≠ [] := List.ne_nil_of_mem (List.mem_filter.mpr ⟨isBefore, can⟩)
    obtain ⟨ahead, others, split⟩ := List.exists_cons_of_ne_nil some
    have isAhead : ahead ∈ before := List.mem_of_mem_filter (split ▸ List.mem_cons_self ..)
    rw [granted, among.split, List.filter_append, split] at first
    have own : ahead.serial = old.serial := by simpa using first
    exact among.others ahead (List.mem_append_left _ isAhead) own

private theorem Separate.nodup_wanted (separate : monitor.Separate) : (monitor.wanted.map (·.1)).Nodup := by
  refine List.pairwise_map.mpr (List.pairwise_filterMap.mpr (separate.apart.imp fun apart => ?_))
  intro want wants other wantsOther
  obtain ⟨-, rfl⟩ := Observation.wants?_eq_some wants
  obtain ⟨-, rfl⟩ := Observation.wants?_eq_some wantsOther
  exact apart.serial

/-- Who is first to send keeps its place in the line. -/
private theorem Served.line_send (serves : monitor.Served) {service : Service} {unsent : List Service} {accepted : Bool}
    (inTurn : monitor.InTurn (.send old.serial)) (among : Among monitor.active old before after)
    (announced : old.unsent = service :: unsent) (last : .containerProfiling ∉ unsent)
    (unblocked : old.serial ∉ monitor.queue.waiting)
    (offered : TaskQueue.Offered monitor.queue old.serial ⟨old.container, service⟩ next.queue accepted)
    (worker : next.worker = monitor.worker) (wanted : next.wanted =
      if accepted then before.filterMap Observation.wants? ++ after.filterMap Observation.wants? else monitor.wanted) :
    next.line = monitor.line := by
  have member := among.mem
  simp only [line, worker, wanted]
  congr 1
  cases service with
  | containerProfiling =>
    have own : .containerProfiling ∈ old.unsent := by simp [announced]
    have wants := among.wanted
    simp only [Observation.wants?, own, ↓reduceIte, Option.toList_some, List.singleton_append] at wants
    obtain ⟨front, first⟩ := serves.first_sender among (inTurn.first _ rfl old (serves.observation?_eq_some_iff.mpr ⟨member, rfl⟩) own)
    exact offered.line_of_first wants serves.nodup_wanted serves.queueing.distinct unblocked serves.queueing.full
      front first
  | relevantCves =>
    have own : old.wants? = none := by simp [Observation.wants?, announced, last]
    have wants := among.wanted
    rw [own, Option.toList_none, List.nil_append] at wants
    rw [← wants, ite_self]
    refine offered.line_of_service rfl fun want listed same => ?_
    obtain ⟨other, running, wantsOther⟩ := List.mem_filterMap.mp listed
    obtain ⟨-, rfl⟩ := Observation.wants?_eq_some wantsOther
    rw [serves.eq_of_serial running member same, own] at wantsOther
    contradiction

/-- Who reports goes to the end of the line. -/
private theorem Lined.report (lined : monitor.Lined served left) (serves : monitor.Served) (timely : monitor.Timely)
    {reported : Observation} (stepped : monitor.step? (.report old.serial) = some next)
    (among : Among monitor.active old before after) (unreported : old.aggregation.result = none)
    (numbered : reported.serial = old.serial) (container : reported.container = old.container)
    (settled : reported.aggregation.result ≠ none) (profiling : .containerProfiling ∈ reported.unsent)
    (active : next.active = before ++ reported :: after) (worker : next.worker = monitor.worker)
    (queue : next.queue = monitor.queue) (profiles : next.profiles = monitor.profiles) :
    next.Lined served (left ++ [(old.container, reported.profile?)]) := by
  have member := among.mem
  have unsent := (serves.accounted.stands old member).unsent_eq_nil unreported
  have unwanted := Observation.wants?_eq_none unsent
  -- nobody who began later has anything to send
  have behind : after.filterMap Observation.wants? = [] := by
    refine List.filterMap_eq_nil_iff.mpr fun later isLater => Observation.wants?_eq_none ?_
    have running : later ∈ monitor.active := by simp [among.split, isLater]
    refine (serves.accounted.stands later running).unsent_eq_nil ?_
    by_contra reports
    have inOrder := timely.inOrder
    rw [among.split, List.pairwise_append, List.pairwise_cons] at inOrder
    exact (inOrder.2.1.1 later isLater).2 reports unreported
  have wants : next.wanted = monitor.wanted ++ [(old.serial, old.container)] := by
    have own : reported.wants? = some (old.serial, old.container) := by
      simp [Observation.wants?, profiling, numbered, container]
    simp [wanted, active, among.split, unwanted, own, behind]
  have unknown : monitor.queue.knows old.serial = false := by
    refine decide_eq_false fun known => ?_
    obtain ⟨sender, running, own, left⟩ := serves.queueing.known old.serial known
    exact left (serves.eq_of_serial running member own ▸ unsent)
  have line : next.line = monitor.line ++ [old.container] := by
    simp only [Monitor.line, worker, queue, wants, TaskQueue.line_concat unknown, List.append_assoc]
  refine ⟨by simp [lined.inLine, line], fun entry listed => ?_, profiles.trans lined.handed⟩
  rcases List.mem_append.mp listed with earlier | last
  · exact lined.known_step serves.toKept stepped earlier
  · obtain rfl := List.mem_singleton.mp last
    have reporting : reported ∈ next.active := by simp [active]
    exact container ▸ (serves.toSeparate.step stepped).knows reporting settled

/-- Who reports goes to the end of the line, and who is served stood at its head. -/
theorem Lined.step (lined : monitor.Lined served left) (serves : monitor.Served) (timely : monitor.Timely)
    (inTurn : monitor.InTurn action) (stepped : monitor.step? action = some next) :
    ∃ served' left', next.Lined served' left' ∧ served' ++ left' = served ++ left ++ next.announced action := by
  have still (line : next.line = monitor.line) (profiles : next.profiles = monitor.profiles)
      (silent : next.announced action = []) :
      ∃ served' left', next.Lined served' left' ∧ served' ++ left' = served ++ left ++ next.announced action :=
    ⟨served, left, lined.still serves.toKept stepped line profiles, by rw [silent, List.append_nil]⟩
  have supply := serves.supply stepped (by rintro rfl; exact nomatch inTurn.scheduled)
    (by rintro rfl; exact nomatch inTurn.scheduled)
  cases supply with
  | still worker queue wanted profiles silent => exact still (line_congr worker queue wanted) profiles silent
  | announced old reported before after among unreported serial container settled profiling active worker queue profiles
      told =>
    refine ⟨served, left ++ [(old.container, reported.profile?)], lined.report serves timely stepped among unreported
      serial container settled profiling active worker queue profiles, ?_⟩
    rw [told, List.append_assoc]
  | offered old service unsent before after accepted among announced last unblocked offered worker profiles wanted =>
    exact still (serves.line_send inTurn among announced last unblocked offered worker wanted) profiles rfl
  | taken task idle taken worker wanted profiles => exact still (line_take idle taken worker wanted) profiles rfl
  | prepared serial task old busy found worker queue wanted profiles =>
    obtain ⟨served', left', lined', same⟩ := lined.prepare serves.toKept stepped busy found worker queue wanted profiles
    exact ⟨served', left', lined', same.trans (List.append_nil _).symm⟩

end Monitor

end Observatory
