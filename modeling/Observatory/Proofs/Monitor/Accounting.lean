import Observatory.Proofs.Monitor.Books

/-! # Accounting for tasks

A task is announced, waits in the queue and is worked on, and at each moment it is in exactly one of these
places. Main statement: each running observation has as many tasks pending as it has outstanding, and every
task in the queue or at the worker belongs to a running observation. The invariant is kept by every turn of
the books.
-/

namespace Observatory

/-- The record that the entry tells. -/
def Entry.record? : Entry → Option Record
  | .finished _ record => some record
  | _ => none

namespace Books

variable {books next : Books} {old new observation other : Observation}

/-! ## Outstanding tasks -/

/-- The tasks of a container in the queue. -/
def queued (books : Books) (container : ContainerId) : List Service :=
  (books.tasks.filter (·.container = container)).map (·.service)

/-- The task of an observation that the worker has taken. -/
def inProcess (books : Books) (serial : Nat) : List Service :=
  match books.working with
  | some (number, task) => if number = serial then [task.service] else []
  | none => []

/-- The tasks of an observation that are not done, in the order in which they will be. -/
def outstanding (books : Books) (observation : Observation) : List Service :=
  books.inProcess observation.serial ++ books.queued observation.container ++ observation.unsent

/-- What is outstanding has yet to be sent, is in the queue or at the worker. -/
theorem length_outstanding (books : Books) (observation : Observation) :
    (books.outstanding observation).length = observation.unsent.length +
      books.tasks.countP (·.container = observation.container) +
      if books.working.map (·.1) = some observation.serial then 1 else 0 := by
  have inProcess : (books.inProcess observation.serial).length =
      if books.working.map (·.1) = some observation.serial then 1 else 0 := by
    unfold inProcess
    cases books.working with
    | none => rfl
    | some taken => by_cases same : taken.1 = observation.serial <;> simp [same]
  simp only [outstanding, queued, List.length_append, List.length_map, inProcess, List.countP_eq_length_filter]
  omega

theorem inProcess_of_idle (idle : books.working = none) (serial : Nat) : books.inProcess serial = [] := by
  simp [inProcess, idle]

theorem inProcess_of_working {number : Nat} {task : Task} (working : books.working = some (number, task))
    (serial : Nat) : books.inProcess serial = if number = serial then [task.service] else [] := by
  simp [inProcess, working]

theorem exists_working_of_inProcess {serial : Nat} (busy : books.inProcess serial ≠ []) :
    ∃ task, books.working = some (serial, task) := by
  cases working : books.working with
  | none => exact absurd (inProcess_of_idle working serial) busy
  | some taken =>
    obtain ⟨number, task⟩ := taken
    rw [inProcess_of_working working] at busy
    split at busy
    · rename_i same
      exact ⟨task, by rw [same]⟩
    · contradiction

theorem queued_append (books next : Books) {task : Task} (tasks : next.tasks = books.tasks ++ [task])
    (container : ContainerId) :
    next.queued container = books.queued container ++ if task.container = container then [task.service] else [] := by
  by_cases same : task.container = container <;> simp [queued, tasks, same]

theorem queued_cons (books next : Books) {task : Task} (first : books.tasks = task :: next.tasks)
    (container : ContainerId) :
    books.queued container = (if task.container = container then [task.service] else []) ++ next.queued container := by
  by_cases same : task.container = container <;> simp [queued, first, same]

theorem container_ne_of_queued {container : ContainerId} (none : books.queued container = []) :
    ∀ task ∈ books.tasks, task.container ≠ container := by
  intro task member
  have dropped := List.filter_eq_nil_iff.mp (List.map_eq_nil_iff.mp none) task member
  simpa using dropped

/-! ## Running observations -/

/-- The observations share neither their number nor their container. -/
def Apart (observation other : Observation) : Prop :=
  observation.serial ≠ other.serial ∧ observation.container ≠ other.container

instance : Std.Symm Apart := ⟨fun _ _ apart => ⟨apart.1.symm, apart.2.symm⟩⟩

structure Numbered (books : Books) : Prop where
  issued : ∀ observation ∈ books.active, observation.serial < books.nextSerial
  apart : books.active.Pairwise Apart

theorem Numbered.eq_of_serial (numbered : books.Numbered) (member : observation ∈ books.active)
    (memberOther : other ∈ books.active) (same : observation.serial = other.serial) : observation = other := by
  by_contra differ
  exact (numbered.apart.forall member memberOther differ).1 same

/-- What runs after an observation has been changed is the changed one, or another one as before. -/
theorem Numbered.mem_replace (numbered : books.Numbered) (member : old ∈ books.active)
    (serial : new.serial = old.serial) (found : observation ∈ (books.replace new).active) :
    observation = new ∨ observation ∈ books.active ∧ observation.serial ≠ old.serial ∧
      observation.container ≠ old.container := by
  obtain ⟨before, memberBefore, same⟩ := List.mem_map.mp found
  split at same
  · exact .inl same.symm
  · rename_i differs
    subst same
    have apart := numbered.apart.forall memberBefore member fun isOld => differs (by rw [isOld, serial])
    exact .inr ⟨memberBefore, apart⟩

/-- Every observation goes on under its number and for its container when one of them is changed. -/
theorem Numbered.exists_mem_replace (numbered : books.Numbered) (member : old ∈ books.active)
    (serial : new.serial = old.serial) (container : new.container = old.container)
    (before : observation ∈ books.active) :
    ∃ after ∈ (books.replace new).active,
      after.serial = observation.serial ∧ after.container = observation.container := by
  by_cases same : observation.serial = new.serial
  · obtain rfl := numbered.eq_of_serial before member (same.trans serial)
    exact ⟨new, List.mem_map.mpr ⟨observation, before, if_pos same⟩, serial, container⟩
  · exact ⟨observation, List.mem_map.mpr ⟨observation, before, if_neg same⟩, rfl, rfl⟩

theorem Numbered.replace (numbered : books.Numbered) (member : old ∈ books.active)
    (serial : new.serial = old.serial) (container : new.container = old.container) :
    (books.replace new).Numbered where
  issued observation found := by
    obtain rfl | ⟨before, -⟩ := numbered.mem_replace member serial found
    · exact serial ▸ numbered.issued old member
    · exact numbered.issued observation before
  apart := Monitor.pairwise_map_replace numbered.apart (fun apart => apart.1) member serial
    fun _ _ apart => ⟨serial ▸ apart.1, container ▸ apart.2⟩

/-! ## The invariant -/

/-- How an observation stands: nothing is outstanding before its tasks are announced, and something as long
as it runs after that. -/
structure Stands (books : Books) (observation : Observation) : Prop where
  counted : observation.pendingTasks = (books.outstanding observation).length
  ordered : books.outstanding observation <:+ books.services
  unannounced : observation.aggregation.result = none →
    (observation.phase = .watching ∨ observation.phase = .stoppedByTimer) ∧ books.outstanding observation = []
  announced : observation.aggregation.result ≠ none →
    (observation.phase = .stoppedByTimer ∨ observation.phase = .pipelineRunning) ∧
      books.outstanding observation ≠ []
  processed : books.inProcess observation.serial ≠ [] → observation.phase = .pipelineRunning

structure Accounted (books : Books) : Prop extends books.Numbered where
  stands : ∀ observation ∈ books.active, Stands books observation
  owned : ∀ task ∈ books.tasks, ∃ observation ∈ books.active, observation.container = task.container
  worked : ∀ serial task, books.working = some (serial, task) →
    ∃ observation ∈ books.active, observation.serial = serial ∧ observation.container = task.container

theorem Stands.congr (stands : Stands books old) (services : next.services = books.services)
    (inProcess : next.inProcess new.serial = books.inProcess old.serial)
    (outstanding : next.outstanding new = books.outstanding old) (phase : new.phase = old.phase)
    (aggregation : new.aggregation = old.aggregation) (pending : new.pendingTasks = old.pendingTasks) :
    Stands next new where
  counted := by rw [pending, outstanding, stands.counted]
  ordered := by
    rw [outstanding, services]
    exact stands.ordered
  unannounced := by
    rw [aggregation, phase, outstanding]
    exact stands.unannounced
  announced := by
    rw [aggregation, phase, outstanding]
    exact stands.announced
  processed := by
    rw [inProcess, phase]
    exact stands.processed

/-- An observation of which something is outstanding has announced its tasks. -/
theorem Stands.reported (stands : Stands books observation) (some : books.outstanding observation ≠ []) :
    observation.aggregation.result ≠ none :=
  fun none => some (stands.unannounced none).2

theorem Stands.unreported (stands : Stands books observation) (watching : observation.phase = .watching) :
    observation.aggregation.result = none := by
  by_contra reported
  rcases (stands.announced reported).1 with stopped | running
  · exact absurd (watching.symm.trans stopped) (by decide)
  · exact absurd (watching.symm.trans running) (by decide)

/-- The task at the worker is the first of those outstanding. -/
theorem outstanding_of_working {task : Task} (working : books.working = some (observation.serial, task)) :
    books.outstanding observation =
      task.service :: (books.queued observation.container ++ observation.unsent) := by
  simp [outstanding, inProcess_of_working working]

/-- An observation of which something is outstanding has passed its deadline. -/
theorem Stands.phase (stands : Stands books observation) (some : books.outstanding observation ≠ []) :
    observation.phase = .stoppedByTimer ∨ observation.phase = .pipelineRunning :=
  (stands.announced (stands.reported some)).1

theorem Stands.pendingTasks_pos (stands : Stands books observation) (some : books.outstanding observation ≠ []) :
    0 < observation.pendingTasks := by
  rw [stands.counted]
  exact List.length_pos_iff.mpr some

theorem outstanding_ne_nil_of_queued {task : Task} (waiting : task ∈ books.tasks)
    (own : observation.container = task.container) : books.outstanding observation ≠ [] := by
  have queued : books.queued observation.container ≠ [] := fun none =>
    container_ne_of_queued none task waiting own.symm
  simp [outstanding, queued]

/-- An observation for which the worker has a task is in the pipeline. -/
theorem Accounted.phase_of_working (accounted : Accounted books) (member : old ∈ books.active) {task : Task}
    (working : books.working = some (old.serial, task)) : old.phase = .pipelineRunning := by
  apply (accounted.stands old member).processed
  rw [inProcess_of_working working, if_pos rfl]
  exact List.cons_ne_nil _ _

/-! ## What a turn leaves -/

/-- A changed observation disturbs no other one, as none has its number or its container. -/
theorem Accounted.revise (accounted : Accounted books) (member : old ∈ books.active) (new : Observation)
    (serial : new.serial = old.serial) (container : new.container = old.container)
    (services : next.services = books.services) (issued : next.nextSerial = books.nextSerial)
    (active : next.active = (books.replace new).active)
    (stands : Stands next new)
    (others : ∀ number container, number ≠ old.serial → container ≠ old.container →
      next.inProcess number = books.inProcess number ∧ next.queued container = books.queued container)
    (tasks : ∀ task ∈ next.tasks, task ∈ books.tasks ∨ task.container = old.container)
    (working : ∀ number task, next.working = some (number, task) →
      books.working = some (number, task) ∨ number = old.serial ∧ task.container = old.container) :
    Accounted next where
  issued observation found := by
    rw [active] at found
    rw [issued]
    exact (accounted.replace member serial container).issued observation found
  apart := active ▸ (accounted.replace member serial container).apart
  stands observation found := by
    rw [active] at found
    obtain rfl | ⟨before, numberDiffers, containerDiffers⟩ := accounted.mem_replace member serial found
    · exact stands
    · obtain ⟨inProcess, queued⟩ := others _ _ numberDiffers containerDiffers
      refine (accounted.stands observation before).congr services inProcess ?_ rfl rfl rfl
      simp only [outstanding, inProcess, queued]
  owned task waiting := by
    rw [active]
    obtain ⟨owner, memberOwner, owns⟩ : ∃ owner ∈ books.active, owner.container = task.container := by
      rcases tasks task waiting with before | same
      · exact accounted.owned task before
      · exact ⟨old, member, same.symm⟩
    obtain ⟨after, found, -, same⟩ := accounted.exists_mem_replace member serial container memberOwner
    exact ⟨after, found, same.trans owns⟩
  worked number task taken := by
    rw [active]
    obtain ⟨owner, memberOwner, numbered, owns⟩ : ∃ owner ∈ books.active,
        owner.serial = number ∧ owner.container = task.container := by
      rcases working number task taken with before | ⟨numbered, same⟩
      · exact accounted.worked number task before
      · exact ⟨old, member, numbered.symm, same.symm⟩
    obtain ⟨after, found, sameSerial, same⟩ := accounted.exists_mem_replace member serial container memberOwner
    exact ⟨after, found, sameSerial.trans numbered, same.trans owns⟩

/-- An observation of which nothing is outstanding can end. -/
theorem Accounted.remove (accounted : Accounted books) (member : old ∈ books.active)
    (services : next.services = books.services) (issued : next.nextSerial = books.nextSerial)
    (active : next.active = books.active.filter (·.serial ≠ old.serial)) (tasks : next.tasks = books.tasks)
    (none : books.queued old.container = [])
    (others : ∀ number, number ≠ old.serial → next.inProcess number = books.inProcess number)
    (working : ∀ number task, next.working = some (number, task) →
      books.working = some (number, task) ∧ number ≠ old.serial) :
    Accounted next where
  issued observation found := by
    rw [active] at found
    rw [issued]
    exact accounted.issued observation (List.mem_of_mem_filter found)
  apart := active ▸ accounted.apart.filter _
  stands observation found := by
    rw [active] at found
    obtain ⟨before, differs⟩ := List.mem_filter.mp found
    have inProcess := others observation.serial (by simpa using differs)
    refine (accounted.stands observation before).congr services inProcess ?_ rfl rfl rfl
    simp only [outstanding, inProcess, queued, tasks]
  owned task waiting := by
    rw [tasks] at waiting
    obtain ⟨owner, memberOwner, owns⟩ := accounted.owned task waiting
    have stays : owner.serial ≠ old.serial := by
      intro same
      obtain rfl := accounted.eq_of_serial memberOwner member same
      exact container_ne_of_queued none task waiting owns.symm
    exact ⟨owner, by simp [active, memberOwner, stays], owns⟩
  worked number task taken := by
    obtain ⟨before, differs⟩ := working number task taken
    obtain ⟨owner, memberOwner, rfl, owns⟩ := accounted.worked number task before
    exact ⟨owner, by simp [active, memberOwner, differs], rfl, owns⟩

theorem Accounted.begin (accounted : Accounted books) (start : Start) (identity : ResourceIdentity)
    (deadline : Nat)
    (unobserved : ∀ observation ∈ books.active, observation.container ≠ start.container) :
    Accounted (books.begin start identity deadline) where
  issued observation found := by
    rcases List.mem_append.mp found with before | fresh
    · exact Nat.lt_succ_of_lt (accounted.issued observation before)
    · obtain rfl := List.mem_singleton.mp fresh
      exact Nat.lt_succ_self _
  apart := by
    refine List.pairwise_append.mpr ⟨accounted.apart, List.pairwise_singleton _ _, ?_⟩
    intro observation member fresh isFresh
    obtain rfl := List.mem_singleton.mp isFresh
    exact ⟨Nat.ne_of_lt (accounted.issued observation member), unobserved observation member⟩
  stands observation found := by
    rcases List.mem_append.mp found with before | fresh
    · exact (accounted.stands observation before).congr rfl rfl rfl rfl rfl rfl
    · obtain rfl := List.mem_singleton.mp fresh
      have idle : books.inProcess books.nextSerial = [] := by
        by_contra busy
        obtain ⟨task, working⟩ := exists_working_of_inProcess busy
        obtain ⟨owner, member, same, -⟩ := accounted.worked _ task working
        exact Nat.ne_of_lt (accounted.issued owner member) same
      have unqueued : books.queued start.container = [] := by
        refine List.map_eq_nil_iff.mpr (List.filter_eq_nil_iff.mpr fun task waiting => ?_)
        obtain ⟨owner, member, owns⟩ := accounted.owned task waiting
        simpa using owns ▸ unobserved owner member
      have nothing : (books.begin start identity deadline).outstanding
          { Observation.ofStart books.nextSerial start identity deadline with phase := .watching } = [] := by
        have split : books.inProcess books.nextSerial ++ books.queued start.container ++ [] = [] := by
          rw [idle, unqueued]
          rfl
        exact split
      refine ⟨by rw [nothing]; rfl, by rw [nothing]; exact List.nil_suffix, fun _ => ⟨.inl rfl, nothing⟩, ?_, ?_⟩
      · intro reported
        exact absurd rfl reported
      · intro busy
        exact absurd idle busy
  owned task waiting := by
    obtain ⟨owner, member, owns⟩ := accounted.owned task waiting
    exact ⟨owner, List.mem_append_left _ member, owns⟩
  worked number task taken := by
    obtain ⟨owner, member, facts⟩ := accounted.worked number task taken
    exact ⟨owner, List.mem_append_left _ member, facts⟩

/-! ## Turns -/

/-- Neither the queue nor the worker is touched. -/
theorem Accounted.amend (accounted : Accounted books) (member : old ∈ books.active)
    (serial : new.serial = old.serial) (container : new.container = old.container)
    (stands : Stands (books.replace new) new) : Accounted (books.replace new) :=
  accounted.revise member new serial container rfl rfl rfl stands (fun _ _ _ _ => ⟨rfl, rfl⟩)
    (fun _ waiting => .inl waiting) fun _ _ taken => .inl taken

theorem Accounted.write (accounted : Accounted books) (entries : List Entry) :
    Accounted (books.write entries) where
  issued := accounted.issued
  apart := accounted.apart
  stands observation found := (accounted.stands observation found).congr rfl rfl rfl rfl rfl rfl
  owned := accounted.owned
  worked := accounted.worked

theorem Accounted.expire (accounted : Accounted books) (member : old ∈ books.active)
    (watching : old.phase = .watching) :
    Accounted (books.replace { old with phase := .stoppedByTimer }) := by
  have stands := accounted.stands old member
  have unreported := stands.unreported watching
  refine accounted.amend member rfl rfl
    ⟨stands.counted, stands.ordered, fun _ => ⟨.inr rfl, (stands.unannounced unreported).2⟩, ?_, ?_⟩
  · intro reported
    exact absurd unreported reported
  · intro busy
    exact absurd (watching.symm.trans (stands.processed busy)) (by decide)

/-- Nothing is outstanding before the tasks are announced, so just the announced ones are after that. -/
theorem Accounted.report (accounted : Accounted books) (member : old ∈ books.active)
    (stopped : old.phase = .stoppedByTimer) (unreported : old.aggregation.result = none)
    (result : Except String Aggregation.Report) (enabled : books.services ≠ []) :
    Accounted (books.replace
      { old with aggregation := ⟨some result⟩, unsent := books.services, pendingTasks := books.services.length }) := by
  have nothing := ((accounted.stands old member).unannounced unreported).2
  simp only [outstanding, List.append_eq_nil_iff] at nothing
  let new : Observation :=
    { old with aggregation := ⟨some result⟩, unsent := books.services, pendingTasks := books.services.length }
  have all : (books.replace new).outstanding new = books.services := by
    have split : books.inProcess old.serial ++ books.queued old.container ++ books.services = books.services := by
      rw [nothing.1.1, nothing.1.2]
      rfl
    exact split
  have stands : Stands (books.replace new) new := by
    refine ⟨by rw [all], by rw [all]; exact List.suffix_rfl, ?_, ?_, ?_⟩
    · intro unreported
      contradiction
    · intro _
      exact ⟨.inl stopped, by rwa [all]⟩
    · intro busy
      exact absurd nothing.1.1 busy
  exact accounted.amend member rfl rfl stands

/-- A task that is sent moves from the unsent ones to the end of the queue. -/
theorem Accounted.send (accounted : Accounted books) (member : old ∈ books.active) {service : Service}
    {rest : List Service} (announced : old.unsent = service :: rest) :
    Accounted { books.replace { old with unsent := rest } with
      tasks := books.tasks ++ [⟨old.container, service⟩] } := by
  let new : Observation := { old with unsent := rest }
  let next : Books := { books.replace new with tasks := books.tasks ++ [⟨old.container, service⟩] }
  have queued := queued_append books next rfl
  have same : next.outstanding new = books.outstanding old := by
    have split : books.inProcess old.serial ++ next.queued old.container ++ rest = books.outstanding old := by
      rw [queued, if_pos rfl, outstanding, announced]
      simp
    exact split
  have stands : Stands next new := (accounted.stands old member).congr rfl rfl same rfl rfl rfl
  refine accounted.revise member new rfl rfl rfl rfl rfl stands ?_ ?_ fun _ _ taken => .inl taken
  · intro number container _ differs
    exact ⟨rfl, by rw [queued, if_neg (Ne.symm differs), List.append_nil]⟩
  · intro task waiting
    rcases List.mem_append.mp waiting with before | sent
    · exact .inl before
    · obtain rfl := List.mem_singleton.mp sent
      exact .inr rfl

/-- A task that is taken moves from the head of the queue to the worker. -/
theorem Accounted.take (accounted : Accounted books) (member : old ∈ books.active) {task : Task}
    {rest : List Task} (idle : books.working = none) (first : books.tasks = task :: rest)
    (own : old.container = task.container) :
    Accounted { books.replace { old with phase := .pipelineRunning } with
      tasks := rest, working := some (old.serial, task) } := by
  let new : Observation := { old with phase := .pipelineRunning }
  let next : Books := { books.replace new with tasks := rest, working := some (old.serial, task) }
  have queued := queued_cons books next first
  have working (serial : Nat) : next.inProcess serial = if old.serial = serial then [task.service] else [] := rfl
  have free := inProcess_of_idle idle
  have before : books.outstanding old = task.service :: (next.queued old.container ++ old.unsent) := by
    rw [outstanding, free, queued, if_pos own.symm]
    rfl
  have same : next.outstanding new = books.outstanding old := by
    have split : next.inProcess old.serial ++ next.queued old.container ++ old.unsent = books.outstanding old := by
      rw [before, working, if_pos rfl]
      rfl
    exact split
  have stands : Stands next new := by
    have stood := accounted.stands old member
    have some : books.outstanding old ≠ [] := by rw [before]; exact List.cons_ne_nil _ _
    refine ⟨by rw [same]; exact stood.counted, by rw [same]; exact stood.ordered, ?_, ?_, fun _ => rfl⟩
    · intro unreported
      exact absurd unreported (stood.reported some)
    · intro _
      exact ⟨.inr rfl, by rwa [same]⟩
  refine accounted.revise member new rfl rfl rfl rfl rfl stands ?_ ?_ ?_
  · intro number container numberDiffers containerDiffers
    constructor
    · rw [working, if_neg (Ne.symm numberDiffers), free]
    · rw [queued, if_neg (own ▸ Ne.symm containerDiffers)]
      rfl
  · intro waiting found
    exact .inl (first ▸ List.mem_cons_of_mem _ found)
  · intro number taken same
    obtain ⟨rfl, rfl⟩ := Prod.mk.inj (Option.some.inj same)
    exact .inr ⟨rfl, own.symm⟩

/-- A task that is done is no longer outstanding. -/
theorem Accounted.conclude (accounted : Accounted books) (member : old ∈ books.active) {task : Task}
    (working : books.working = some (old.serial, task)) (failed : Bool) (more : old.pendingTasks ≠ 1) :
    Accounted { books.replace (old.taskDone failed).1 with working := none } := by
  let new : Observation := (old.taskDone failed).1
  let next : Books := { books.replace new with working := none }
  have before := outstanding_of_working working
  have after : next.outstanding new = books.queued old.container ++ old.unsent := rfl
  have stood := accounted.stands old member
  have counted := stood.counted
  rw [before, List.length_cons] at counted
  have stands : Stands next new := by
    have running := accounted.phase_of_working member working
    refine ⟨?_, ?_, ?_, ?_, ?_⟩
    · have pending : new.pendingTasks = old.pendingTasks - 1 := rfl
      rw [after, pending]
      omega
    · have ordered := stood.ordered
      rw [before] at ordered
      exact after ▸ (List.suffix_cons _ _).trans ordered
    · intro unreported
      exact absurd unreported (stood.reported (by rw [before]; exact List.cons_ne_nil _ _))
    · intro _
      refine ⟨.inr running, fun nothing => more ?_⟩
      rw [after] at nothing
      rw [counted, nothing]
      rfl
    · intro busy
      exact absurd rfl busy
  refine accounted.revise member new rfl rfl rfl rfl rfl stands ?_ (fun _ waiting => .inl waiting)
    fun _ _ taken => nomatch taken
  intro number container numberDiffers _
  refine ⟨?_, rfl⟩
  rw [inProcess_of_working working, if_neg (Ne.symm numberDiffers)]
  rfl

/-- With its last task, nothing is outstanding of an observation. -/
theorem Accounted.finishLast (accounted : Accounted books) (member : old ∈ books.active) {task : Task}
    (working : books.working = some (old.serial, task)) (last : old.pendingTasks = 1) (outcome : Outcome)
    (serial : new.serial = old.serial) :
    Accounted ({ books with working := none }.finish new outcome) := by
  have counted := (accounted.stands old member).counted
  rw [outstanding_of_working working, last, List.length_cons] at counted
  have nothing : books.queued old.container ++ old.unsent = [] := List.length_eq_zero_iff.mp (by omega)
  refine accounted.remove member rfl rfl (by rw [← serial]; rfl) rfl (List.append_eq_nil_iff.mp nothing).1 ?_
    fun _ _ taken => nomatch taken
  intro number differs
  rw [inProcess_of_working working, if_neg (Ne.symm differs)]
  rfl

/-- An observation can end before its tasks are announced. -/
theorem Accounted.finishUnreported (accounted : Accounted books) (member : old ∈ books.active)
    (unreported : old.aggregation.result = none) (outcome : Outcome) :
    Accounted (books.finish old outcome) := by
  have nothing := ((accounted.stands old member).unannounced unreported).2
  simp only [outstanding, List.append_eq_nil_iff] at nothing
  refine accounted.remove member rfl rfl rfl rfl nothing.1.2 (fun _ _ => rfl) ?_
  intro number task taken
  refine ⟨taken, ?_⟩
  rintro rfl
  have working : books.working = some (old.serial, task) := taken
  exact absurd nothing.1.1 (by simp [inProcess_of_working working])

/-- The books stay in order with every turn. -/
theorem Accounted.turn (accounted : Accounted books) (turn : Turn books next) :
    Accounted next := by
  cases turn with
  | kept => exact accounted
  | begun start identity deadline unobserved => exact accounted.begin start identity deadline unobserved
  | amended old member aggregator sbom vulnerabilities =>
    exact accounted.amend member rfl rfl ((accounted.stands old member).congr rfl rfl rfl rfl rfl rfl)
  | expired old member watching => exact (accounted.expire member watching).write _
  | aborted old member watching reason =>
    have unreported := (accounted.stands old member).unreported watching
    exact (accounted.write _).finishUnreported member unreported _
  | reported old member stopped unreported result enabled =>
    exact accounted.report member stopped unreported result enabled
  | completed old member stopped unreported disabled => exact accounted.finishUnreported member unreported _
  | sent old member service rest announced => exact accounted.send member announced
  | taken old member task rest idle first own => exact (accounted.take member idle first own).write _
  | unexpected task rest idle first unobserved =>
    obtain ⟨owner, member, owns⟩ := accounted.owned task (first ▸ List.mem_cons_self ..)
    exact absurd owns (unobserved owner member)
  | offered old member task working derived derives => exact accounted.write _
  | concluded old member task working failed more => exact accounted.conclude member working failed more
  | ended old member task working failed last => exact accounted.finishLast member working last _ rfl

theorem Accounted.turns (accounted : Accounted books) (turns : Relation.ReflTransGen Turn books next) :
    Accounted next := by
  induction turns with
  | refl => exact accounted
  | tail _ turn ih => exact ih.turn turn

/-! ## What is written -/

/-- What a turn writes: no task is without its observation, and what is recorded is retained. -/
theorem Accounted.written (accounted : Accounted books) (turn : Turn books next) :
    ∃ entries, next.course = books.course ++ entries ∧ (∀ task, .notice (.unexpected task) ∉ entries) ∧
      next.retention = (entries.filterMap Entry.record?).foldl Retention.push books.retention := by
  cases turn with
  | kept | amended | reported | sent | concluded => exact ⟨[], (List.append_nil _).symm, by simp, rfl⟩
  | begun | expired | offered => exact ⟨_, rfl, by simp, rfl⟩
  | aborted old member watching reason => exact ⟨_, List.append_assoc .., by simp, rfl⟩
  | completed | ended => exact ⟨_, rfl, by simp, rfl⟩
  | taken old member task rest idle first own =>
    refine ⟨_, rfl, ?_, ?_⟩
    · split <;> simp
    · split <;> rfl
  | unexpected task rest idle first unobserved =>
    obtain ⟨owner, member, owns⟩ := accounted.owned task (first ▸ List.mem_cons_self ..)
    exact absurd owns (unobserved owner member)

/-- In books that are in order no task is found without its observation. -/
theorem Accounted.written_over (accounted : Accounted books) (turns : Relation.ReflTransGen Turn books next) :
    ∃ entries, next.course = books.course ++ entries ∧ (∀ task, .notice (.unexpected task) ∉ entries) ∧
      next.retention = (entries.filterMap Entry.record?).foldl Retention.push books.retention := by
  induction turns with
  | refl => exact ⟨[], (List.append_nil _).symm, by simp, rfl⟩
  | tail turns turn ih =>
    obtain ⟨before, course, expected, retention⟩ := ih
    obtain ⟨entries, added, expectedNow, retained⟩ := (accounted.turns turns).written turn
    refine ⟨before ++ entries, ?_, ?_, ?_⟩
    · rw [added, course, List.append_assoc]
    · intro task found
      rcases List.mem_append.mp found with earlier | now
      · exact expected task earlier
      · exact expectedNow task now
    · rw [retained, retention, List.filterMap_append, List.foldl_append]

end Books

end Observatory
