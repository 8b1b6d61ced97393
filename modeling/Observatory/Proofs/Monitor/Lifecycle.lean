import Observatory.Proofs.Monitor.Accounting
import Observatory.Proofs.Monitor.Session

/-! # The life of an observation

Several tasks write the phase of an observation, each without a look at the phase that it overwrites. Main
statement: an observation nevertheless goes through its phases in one of three orders, is recorded once,
when it ends, and runs no longer from then on.
-/

namespace Observatory

namespace Entry

/-- The phase that the entry tells of an observation. -/
def phaseOf? (serial : Nat) : Entry → Option Phase
  | .phase number entered => if number = serial then some entered else none
  | _ => none

/-- How an observation has ended, if the entry tells it. -/
def outcomeOf? (serial : Nat) : Entry → Option Outcome
  | .finished number record => if number = serial then some record.outcome else none
  | _ => none

end Entry

namespace Books

variable {books next : Books} {old new : Observation} {services : List Service} {visited more : List Phase}
  {ends : List Outcome}

/-! ## What the books tell of an observation -/

/-- The phase of an observation that runs. -/
def current (books : Books) (serial : Nat) : Option Phase :=
  (books.active.find? (·.serial = serial)).map (·.phase)

/-- The phases that an observation has been in. -/
def phases (books : Books) (serial : Nat) : List Phase :=
  books.course.filterMap (Entry.phaseOf? serial)

/-- How an observation has ended, each time that it has. -/
def outcomes (books : Books) (serial : Nat) : List Outcome :=
  books.course.filterMap (Entry.outcomeOf? serial)

/-- An observation is found by its number. -/
theorem Numbered.find?_eq (numbered : books.Numbered) (member : old ∈ books.active) :
    books.active.find? (·.serial = old.serial) = some old := by
  cases found : books.active.find? (·.serial = old.serial) with
  | none => exact absurd (List.find?_eq_none.mp found old member) (by simp)
  | some other =>
    have same : other.serial = old.serial := by simpa using List.find?_some found
    rw [numbered.eq_of_serial (List.mem_of_find?_eq_some found) member same]

theorem Numbered.current_eq (numbered : books.Numbered) (member : old ∈ books.active) :
    books.current old.serial = some old.phase := by
  rw [current, numbered.find?_eq member, Option.map_some]

/-- A new state of an observation changes the phase of that one only. -/
theorem current_replace (books : Books) (new : Observation) (serial : Nat) :
    (books.replace new).current serial =
      if serial = new.serial then (books.current serial).map fun _ => new.phase else books.current serial := by
  simp only [current, replace, Monitor.find?_map_replace]
  cases books.active.find? (·.serial = serial) with
  | none => simp
  | some other => by_cases own : serial = new.serial <;> simp [own]

/-- An observation that begins watches, and the others are where they were. -/
theorem current_begin (books : Books) (start : Start) (identity : ResourceIdentity) (deadline serial : Nat) :
    (books.begin start identity deadline).current serial =
      (books.current serial).or (if books.nextSerial = serial then some .watching else none) := by
  simp only [current, begin, List.find?_append]
  cases books.active.find? (·.serial = serial) with
  | some observation => simp
  | none => by_cases same : books.nextSerial = serial <;> simp [Observation.ofStart, same]

theorem phases_begin (books : Books) (start : Start) (identity : ResourceIdentity) (deadline serial : Nat) :
    (books.begin start identity deadline).phases serial =
      books.phases serial ++ if books.nextSerial = serial then [.starting, .watching] else [] := by
  by_cases same : books.nextSerial = serial <;> simp [phases, begin, Entry.phaseOf?, same]

theorem outcomes_begin (books : Books) (start : Start) (identity : ResourceIdentity) (deadline serial : Nat) :
    (books.begin start identity deadline).outcomes serial = books.outcomes serial := by
  simp [outcomes, begin, List.filterMap_cons, Entry.outcomeOf?]

/-- An observation that is taken off the books is in no phase. -/
theorem current_of_removed (active : next.active = books.active.filter (·.serial ≠ old.serial)) (serial : Nat) :
    next.current serial = if serial = old.serial then none else books.current serial := by
  simp only [current, active, List.find?_filter]
  split
  · rename_i same
    simp [same]
  · rename_i differs
    congr 2
    funext other
    by_cases same : other.serial = serial <;> simp [same, differs]

private theorem filterMap_phaseOf? (number serial : Nat) (visited : List Phase) :
    (visited.map (Entry.phase number)).filterMap (Entry.phaseOf? serial) = if number = serial then visited else [] := by
  by_cases same : number = serial
  · simp [List.filterMap_map, Function.comp_def, Entry.phaseOf?, same]
  · simp [Entry.phaseOf?, same]

private theorem filterMap_outcomeOf? (number serial : Nat) (visited : List Phase) :
    (visited.map (Entry.phase number)).filterMap (Entry.outcomeOf? serial) = [] := by
  simp [Entry.outcomeOf?]

/-! ## Lives -/

/-- How an observation can stand: in which phase it runs, which phases it has been in, and how it has ended. -/
inductive Life (services : List Service) : Option Phase → List Phase → List Outcome → Prop
  | watching : Life services (some .watching) [.starting, .watching] []
  | stopped : Life services (some .stoppedByTimer) [.starting, .watching, .stoppedByTimer] []
  | running : Life services (some .pipelineRunning) [.starting, .watching, .stoppedByTimer, .pipelineRunning] []
  | aborted (reason : String) :
      Life services none [.starting, .watching, .stoppedByOverflow, .done] [.aborted reason]
  | unserved (disabled : services = []) :
      Life services none [.starting, .watching, .stoppedByTimer, .done] [.completed 0]
  | completed (failedTasks : Nat) :
      Life services none [.starting, .watching, .stoppedByTimer, .pipelineRunning, .done] [.completed failedTasks]

/-- What an observation that watches has gone through. -/
theorem Life.of_watching (life : Life services (some .watching) visited ends) :
    visited = [.starting, .watching] ∧ ends = [] := by
  cases life
  exact ⟨rfl, rfl⟩

theorem Life.of_stopped (life : Life services (some .stoppedByTimer) visited ends) :
    visited = [.starting, .watching, .stoppedByTimer] ∧ ends = [] := by
  cases life
  exact ⟨rfl, rfl⟩

theorem Life.of_running (life : Life services (some .pipelineRunning) visited ends) :
    visited = [.starting, .watching, .stoppedByTimer, .pipelineRunning] ∧ ends = [] := by
  cases life
  exact ⟨rfl, rfl⟩

/-- Every numbered observation has a life, and of other numbers nothing has been told. -/
structure Lived (books : Books) : Prop extends books.Accounted where
  lives : ∀ serial < books.nextSerial,
    Life books.services (books.current serial) (books.phases serial) (books.outcomes serial)
  unissued : ∀ serial, books.nextSerial ≤ serial → books.phases serial = [] ∧ books.outcomes serial = []

/-- A turn leaves what is told of an observation, or takes it to another point of its life. -/
theorem Lived.revise (lived : Lived books) (accounted : Accounted next) (services : next.services = books.services)
    (issued : next.nextSerial = books.nextSerial)
    (lives : ∀ serial, (next.current serial = books.current serial ∧ next.phases serial = books.phases serial ∧
        next.outcomes serial = books.outcomes serial) ∨
      serial < books.nextSerial ∧
        Life books.services (next.current serial) (next.phases serial) (next.outcomes serial)) : Lived next where
  toAccounted := accounted
  lives serial known := by
    rw [services]
    rcases lives serial with ⟨current, phases, outcomes⟩ | ⟨-, life⟩
    · rw [current, phases, outcomes]
      exact lived.lives serial (issued ▸ known)
    · exact life
  unissued serial fresh := by
    rw [issued] at fresh
    rcases lives serial with ⟨-, phases, outcomes⟩ | ⟨known, -⟩
    · rw [phases, outcomes]
      exact lived.unissued serial fresh
    · omega

/-- A new observation has its life before it. -/
theorem Lived.begin (lived : Lived books) (start : Start) (identity : ResourceIdentity) (deadline : Nat)
    (unobserved : ∀ observation ∈ books.active, observation.container ≠ start.container) :
    Lived (books.begin start identity deadline) := by
  refine ⟨lived.toAccounted.begin start identity deadline unobserved, ?_, ?_⟩
  · intro serial known
    rw [current_begin, phases_begin, outcomes_begin]
    by_cases same : books.nextSerial = serial
    · subst same
      obtain ⟨unvisited, unended⟩ := lived.unissued _ (Nat.le_refl _)
      have unnumbered : books.current books.nextSerial = none := by
        rw [current, Option.map_eq_none_iff, List.find?_eq_none]
        intro observation member
        simpa using Nat.ne_of_lt (lived.issued observation member)
      rw [unvisited, unended, unnumbered, if_pos rfl, if_pos rfl]
      exact .watching
    · have older : serial < books.nextSerial := Nat.lt_of_le_of_ne (Nat.le_of_lt_succ known) (Ne.symm same)
      rw [if_neg same, if_neg same, Option.or_none, List.append_nil]
      exact lived.lives serial older
  · intro serial fresh
    have later : books.nextSerial < serial := fresh
    rw [phases_begin, outcomes_begin]
    simpa [Nat.ne_of_lt later] using lived.unissued serial (Nat.le_of_lt later)

theorem Lived.life (lived : Lived books) (member : old ∈ books.active) :
    Life books.services (some old.phase) (books.phases old.serial) (books.outcomes old.serial) :=
  lived.current_eq member ▸ lived.lives old.serial (lived.issued old member)

/-- An observation that goes on, maybe in another phase. -/
theorem Lived.move (lived : Lived books) (accounted : Accounted next) (member : old ∈ books.active)
    (active : next.active = (books.replace new).active) (serial : new.serial = old.serial)
    (services : next.services = books.services) (issued : next.nextSerial = books.nextSerial) (visited : List Phase)
    (course : next.course = books.course ++ visited.map (.phase old.serial))
    (life : Life books.services (some new.phase) (books.phases old.serial ++ visited) (books.outcomes old.serial)) :
    Lived next := by
  have current (number : Nat) : next.current number =
      if number = old.serial then some new.phase else books.current number := by
    have replaced : next.current number = (books.replace new).current number := by rw [current, active]; rfl
    rw [replaced, current_replace, serial]
    split
    · rename_i same
      rw [same, lived.current_eq member, Option.map_some]
    · rfl
  have phases (number : Nat) : next.phases number =
      books.phases number ++ if old.serial = number then visited else [] := by
    rw [phases, course, List.filterMap_append, filterMap_phaseOf?]
    rfl
  have outcomes (number : Nat) : next.outcomes number = books.outcomes number := by
    rw [outcomes, course, List.filterMap_append, filterMap_outcomeOf?, List.append_nil]
    rfl
  refine lived.revise accounted services issued fun number => ?_
  rw [current, phases, outcomes]
  by_cases own : number = old.serial
  · subst own
    rw [if_pos rfl, if_pos rfl]
    exact .inr ⟨lived.issued old member, life⟩
  · rw [if_neg own, if_neg (Ne.symm own), List.append_nil]
    exact .inl ⟨rfl, rfl, rfl⟩

/-- An observation that ends. -/
theorem Lived.leave (lived : Lived books) (accounted : Accounted next) (member : old ∈ books.active)
    (active : next.active = books.active.filter (·.serial ≠ old.serial)) (services : next.services = books.services)
    (issued : next.nextSerial = books.nextSerial) (visited : List Phase) (record : Record)
    (course : next.course = books.course ++ visited.map (.phase old.serial) ++ [.finished old.serial record])
    (life : Life books.services none (books.phases old.serial ++ visited)
      (books.outcomes old.serial ++ [record.outcome])) :
    Lived next := by
  have phases (number : Nat) : next.phases number =
      books.phases number ++ if old.serial = number then visited else [] := by
    rw [phases, course, List.filterMap_append, List.filterMap_append, filterMap_phaseOf?]
    simp [phases, Entry.phaseOf?]
  have outcomes (number : Nat) : next.outcomes number =
      books.outcomes number ++ if old.serial = number then [record.outcome] else [] := by
    rw [outcomes, course, List.filterMap_append, List.filterMap_append, filterMap_outcomeOf?]
    by_cases own : old.serial = number <;> simp [outcomes, Entry.outcomeOf?, own]
  refine lived.revise accounted services issued fun number => ?_
  rw [current_of_removed active, phases, outcomes]
  by_cases own : number = old.serial
  · subst own
    rw [if_pos rfl, if_pos rfl, if_pos rfl]
    exact .inr ⟨lived.issued old member, life⟩
  · rw [if_neg own, if_neg (Ne.symm own), if_neg (Ne.symm own), List.append_nil, List.append_nil]
    exact .inl ⟨rfl, rfl, rfl⟩

/-- An observation that goes on in its phase. -/
theorem Lived.amend (lived : Lived books) (accounted : Accounted next) (member : old ∈ books.active)
    (active : next.active = (books.replace new).active) (serial : new.serial = old.serial)
    (phase : new.phase = old.phase) (services : next.services = books.services)
    (issued : next.nextSerial = books.nextSerial) (course : next.course = books.course) : Lived next := by
  refine lived.move accounted member active serial services issued [] (by simpa using course) ?_
  rw [phase, List.append_nil]
  exact lived.life member

/-- Each turn leads every observation on in its life. -/
theorem Lived.turn (lived : Lived books) (turn : Turn books next) : Lived next := by
  have accounted := lived.toAccounted.turn turn
  cases turn with
  | kept => exact lived
  | begun start identity deadline unobserved => exact lived.begin start identity deadline unobserved
  | amended old member aggregator sbom vulnerabilities =>
    exact lived.amend accounted member rfl rfl rfl rfl rfl rfl
  | expired old member watching =>
    have life := lived.life member
    rw [watching] at life
    obtain ⟨visited, unended⟩ := life.of_watching
    refine lived.move accounted member rfl rfl rfl rfl [.stoppedByTimer] rfl ?_
    rw [visited, unended]
    exact .stopped
  | aborted old member watching reason =>
    have life := lived.life member
    rw [watching] at life
    obtain ⟨visited, unended⟩ := life.of_watching
    refine lived.leave accounted member rfl rfl rfl [.stoppedByOverflow, .done] (recordOf old (.aborted reason))
      (by simp [write, finish]) ?_
    rw [visited, unended]
    exact .aborted reason
  | reported old member stopped unreported result enabled =>
    exact lived.amend accounted member rfl rfl rfl rfl rfl rfl
  | completed old member stopped unreported disabled =>
    have life := lived.life member
    rw [stopped] at life
    obtain ⟨visited, unended⟩ := life.of_stopped
    refine lived.leave accounted member rfl rfl rfl [.done] (recordOf old (.completed 0)) (by simp [finish]) ?_
    rw [visited, unended]
    exact .unserved disabled
  | sent old member service rest announced => exact lived.amend accounted member rfl rfl rfl rfl rfl rfl
  | taken old member task rest idle first own =>
    have life := lived.life member
    have waiting : task ∈ books.tasks := first ▸ List.mem_cons_self ..
    rcases (lived.stands old member).phase (outstanding_ne_nil_of_queued waiting own) with stopped | running
    · -- the first task of the observation
      rw [stopped] at life
      obtain ⟨visited, unended⟩ := life.of_stopped
      refine lived.move accounted member rfl rfl rfl rfl [.pipelineRunning] (by simp [write, replace, stopped]) ?_
      rw [visited, unended]
      exact .running
    · exact lived.amend accounted member rfl rfl running.symm rfl rfl (by simp [write, replace, running])
  | unexpected task rest idle first unobserved =>
    obtain ⟨owner, member, owns⟩ := lived.owned task (first ▸ List.mem_cons_self ..)
    exact absurd owns (unobserved owner member)
  | offered old member task working derived derives =>
    refine lived.revise accounted rfl rfl fun serial => .inl ⟨rfl, ?_, ?_⟩
    · simp [phases, write, Entry.phaseOf?]
    · simp [outcomes, write, Entry.outcomeOf?]
  | concluded old member task working failed more => exact lived.amend accounted member rfl rfl rfl rfl rfl rfl
  | ended old member task working failed last =>
    have life := lived.life member
    rw [lived.phase_of_working member working] at life
    obtain ⟨visited, unended⟩ := life.of_running
    let counted := (old.taskDone failed).1
    refine lived.leave accounted member rfl rfl rfl [.done] (recordOf counted (.completed counted.failedTasks))
      (by simp [finish, counted, Observation.taskDone]) ?_
    rw [visited, unended]
    exact .completed _

/-- So does any number of turns. -/
theorem Lived.turns (lived : Lived books) (turns : Relation.ReflTransGen Turn books next) : Lived next := by
  induction turns with
  | refl => exact lived
  | tail _ turn ih => exact ih.turn turn

/-! ## What a life tells -/

variable {phase : Option Phase}

/-- An observation that runs is in the phase that it has reached last, and one that has ended is done. -/
theorem Life.getLast? (life : Life services phase visited ends) :
    visited.getLast? = some (phase.getD .done) ∧ phase ≠ some .done := by
  cases life <;> exact ⟨rfl, by decide⟩

theorem Life.starting_mem (life : Life services phase visited ends) : .starting ∈ visited := by
  cases life <;> exact List.mem_cons_self ..

/-- An observation goes through its phases in one of three orders, and the short one is for monitors without services.
-/
theorem Life.isPrefix (life : Life services phase visited ends) :
    visited <+: [.starting, .watching, .stoppedByTimer, .pipelineRunning, .done] ∨
      services = [] ∧ visited <+: [.starting, .watching, .stoppedByTimer, .done] ∨
      visited <+: [.starting, .watching, .stoppedByOverflow, .done] := by
  cases life with
  | watching | stopped | running | completed => exact .inl (by decide)
  | unserved disabled => exact .inr (.inl ⟨disabled, List.prefix_rfl⟩)
  | aborted => exact .inr (.inr List.prefix_rfl)

/-- An observation is recorded as aborted just when it was stopped by lost events. -/
theorem Life.isAborted_iff (life : Life services phase visited ends) {outcome : Outcome} (member : outcome ∈ ends) :
    outcome.isAborted = true ↔ .stoppedByOverflow ∈ visited := by
  cases life <;> simp_all [Outcome.isAborted]

/-- An observation that has passed its deadline is not aborted. -/
theorem Life.overflow_notMem (life : Life services phase visited ends) (timer : .stoppedByTimer ∈ visited) :
    .stoppedByOverflow ∉ visited := by
  cases life <;> revert timer <;> decide

/-- What stops an observation early also ends it. -/
theorem Life.ended_of_overflow (life : Life services phase visited ends) (overflow : .stoppedByOverflow ∈ visited) :
    phase = none := by
  cases life <;> first | rfl | exact absurd overflow (by decide)

/-- An observation has one record when it is over, and none before. -/
theorem Life.length_ends (life : Life services phase visited ends) : ends.length = if phase.isSome then 0 else 1 := by
  cases life <;> rfl

/-- Nothing comes after the end. -/
theorem Life.eq_of_done (life : Life services phase (visited ++ more) ends) (done : .done ∈ visited) : more = [] := by
  have last : .done ∉ (visited ++ more).dropLast := by
    generalize visited ++ more = all at life
    cases life <;> decide
  by_contra some
  rw [List.dropLast_append_of_ne_nil some] at last
  exact last (List.mem_append_left _ done)

theorem Life.timer_mem (life : Life services phase visited ends)
    (stopped : phase = some .stoppedByTimer ∨ phase = some .pipelineRunning) : .stoppedByTimer ∈ visited := by
  rcases stopped with rfl | rfl
  · simp [life.of_stopped.1]
  · simp [life.of_running.1]

/-- Whoever has entered a phase has a life. -/
theorem Lived.life_of_visited (lived : Lived books) {serial : Nat} {entered : Phase}
    (visited : entered ∈ books.phases serial) :
    Life books.services (books.current serial) (books.phases serial) (books.outcomes serial) := by
  apply lived.lives
  by_contra fresh
  rw [(lived.unissued serial (Nat.not_lt.mp fresh)).1] at visited
  contradiction

/-- What an observation has gone through stays so. -/
theorem Lived.phases_prefix (lived : Lived books) (turns : Relation.ReflTransGen Turn books next) (serial : Nat) :
    books.phases serial <+: next.phases serial := by
  obtain ⟨entries, course, -⟩ := lived.toAccounted.written_over turns
  rw [phases, phases, course, List.filterMap_append]
  exact List.prefix_append _ _

/-- Nothing is ever outstanding of an observation that will be aborted. -/
theorem Lived.outstanding_eq_nil (lived : Lived books) (turns : Relation.ReflTransGen Turn books next)
    (member : old ∈ books.active) (overflow : .stoppedByOverflow ∈ next.phases old.serial) :
    books.outstanding old = [] := by
  by_contra some
  have timer : .stoppedByTimer ∈ books.phases old.serial := by
    have stopped := (lived.stands old member).phase some
    exact (lived.life member).timer_mem (stopped.imp (congrArg _) (congrArg _))
  have timerLater := (lived.phases_prefix turns old.serial).subset timer
  exact ((lived.turns turns).life_of_visited overflow).overflow_notMem timerLater overflow

end Books

namespace Monitor

variable {policy : Policy} {cacheSize serial : Nat} {monitor later : Monitor} {actions first second : List Action}

/-! ## Runs -/

/-- The phases that an observation has been in. -/
def phases (monitor : Monitor) (serial : Nat) : List Phase :=
  monitor.journal.filterMap (Entry.phaseOf? serial)

/-- How an observation has ended, each time that it has. -/
def outcomes (monitor : Monitor) (serial : Nat) : List Outcome :=
  monitor.journal.filterMap (Entry.outcomeOf? serial)

private theorem filterMap_course {α : Type} {f : Entry → Option α}
    (silent : ∀ entry : Entry, entry.isCourse = false → f entry = none) (monitor : Monitor) :
    monitor.books.course.filterMap f = monitor.journal.filterMap f := by
  simp only [books, List.filterMap_filter]
  congr 1
  funext entry
  cases told : entry.isCourse with
  | true => rfl
  | false => simp [silent entry told]

/-- The books tell the phases as the journal does. -/
theorem phases_books (monitor : Monitor) (serial : Nat) : monitor.books.phases serial = monitor.phases serial := by
  refine filterMap_course (fun entry told => ?_) monitor
  cases entry with
  | phase => contradiction
  | answered | lookup | scan | offered | stored | finished | notice => rfl

theorem outcomes_books (monitor : Monitor) (serial : Nat) :
    monitor.books.outcomes serial = monitor.outcomes serial := by
  refine filterMap_course (fun entry told => ?_) monitor
  cases entry with
  | finished => contradiction
  | answered | lookup | scan | phase | offered | stored | notice => rfl

theorem current_books (monitor : Monitor) (serial : Nat) :
    monitor.books.current serial = (monitor.observation? serial).map (·.phase) := rfl

theorem lived_empty (policy : Policy) (cacheSize : Nat) : (empty policy cacheSize).books.Lived where
  issued _ member := absurd member List.not_mem_nil
  apart := List.Pairwise.nil
  stands _ member := absurd member List.not_mem_nil
  owned _ waiting := absurd waiting List.not_mem_nil
  worked _ _ working := nomatch working
  lives _ known := absurd known (Nat.not_lt_zero _)
  unissued _ _ := ⟨rfl, rfl⟩

/-- As long as nobody else touches the queue, every observation lives its life in every run. -/
theorem lived_of_run (runs : (empty policy cacheSize).run? actions = some monitor) (undiverted : .divert ∉ actions)
    (unclosed : .closeQueue ∉ actions) : monitor.books.Lived ∧ monitor.books.isOpen = true := by
  have turns := turns_of_run rfl undiverted unclosed runs
  exact ⟨(lived_empty policy cacheSize).turns turns, (Books.frame_of_turns turns).2⟩

/-- The tasks are accounted for, and only the worker takes them out of the queue. -/
structure Kept (monitor : Monitor) : Prop extends monitor.Separate where
  accounted : monitor.books.Accounted
  isOpen : monitor.queue.isOpen = true

theorem kept_empty (policy : Policy) (cacheSize : Nat) : (empty policy cacheSize).Kept where
  toSeparate := separate_empty policy cacheSize
  accounted := (lived_empty policy cacheSize).toAccounted
  isOpen := rfl

/-- What an action does to a monitor is a turn in its books. -/
theorem Kept.turn {next : Monitor} {action : Action} (kept : monitor.Kept) (stepped : monitor.step? action = some next)
    (undiverted : action ≠ .divert) (unclosed : action ≠ .closeQueue) : Books.Turn monitor.books next.books := by
  rcases books_step stepped with turn | ⟨diverted | closed | ended, -⟩
  · exact turn
  · exact absurd diverted undiverted
  · exact absurd closed unclosed
  · exact absurd (ended.symm.trans kept.isOpen) (by decide)

/-- The invariants are kept by every action that leaves the queue to the worker. -/
theorem Kept.step {next : Monitor} {action : Action} (kept : monitor.Kept) (stepped : monitor.step? action = some next)
    (undiverted : action ≠ .divert) (unclosed : action ≠ .closeQueue) : next.Kept where
  toSeparate := kept.toSeparate.step stepped
  accounted := kept.accounted.turn (kept.turn stepped undiverted unclosed)
  isOpen := (kept.turn stepped undiverted unclosed).frame.2.trans kept.isOpen

/-- The tasks of a monitor are accounted for, and so are the observations that have ended. -/
structure Balanced (policy : Policy) (monitor : Monitor) : Prop where
  /-- Of an observation whose tasks are announced, as many are pending as wait for being sent, are in the queue
  or at the worker. -/
  counted : ∀ observation ∈ monitor.active, observation.aggregation.isPending = false →
    0 < observation.pendingTasks ∧ observation.pendingTasks = observation.unsent.length +
      monitor.queue.tasks.countP (·.container = observation.container) +
      if monitor.worker.task?.map (·.1) = some observation.serial then 1 else 0
  /-- A task in the queue belongs to an observation that runs and has passed its deadline. -/
  queued : ∀ task ∈ monitor.queue.tasks, ∃ observation ∈ monitor.active,
    observation.container = task.container ∧
      (observation.phase = .stoppedByTimer ∨ observation.phase = .pipelineRunning)
  /-- So does the task at the worker, which can therefore be counted as done. -/
  worked : ∀ serial task, monitor.worker.task? = some (serial, task) → ∃ observation,
    monitor.observation? serial = some observation ∧ observation.container = task.container ∧
      observation.phase = .pipelineRunning ∧ 0 < observation.pendingTasks
  /-- The worker has never found a task without an observation. -/
  expected : ∀ task, .notice (.unexpected task) ∉ monitor.journal
  /-- An observation is recorded once, when it ends. -/
  recorded : ∀ serial < monitor.nextSerial,
    (monitor.outcomes serial).length = if (monitor.observation? serial).isSome then 0 else 1
  /-- Just what is recorded has been retained. -/
  retained : monitor.retention =
    (monitor.journal.filterMap Entry.record?).foldl Retention.push (.empty policy.retained)

/-- In every run, the tasks that an observation has yet to finish are those that it has yet to send, those of them in
the queue and the one that the worker has. -/
theorem balanced_of_run (runs : (empty policy cacheSize).run? actions = some monitor) (undiverted : .divert ∉ actions)
    (unclosed : .closeQueue ∉ actions) : Balanced policy monitor := by
  obtain ⟨lived, -⟩ := lived_of_run runs undiverted unclosed
  have turns := turns_of_run rfl undiverted unclosed runs
  obtain ⟨entries, course, expected, retention⟩ := (lived_empty policy cacheSize).toAccounted.written_over turns
  rw [show (empty policy cacheSize).books.course = [] from rfl, List.nil_append] at course
  refine ⟨?_, ?_, ?_, ?_, ?_, ?_⟩
  · intro observation member announced
    have stands := lived.stands observation member
    have reported : observation.aggregation.result ≠ none := by
      simpa [Completion.isPending, Option.isSome_iff_ne_none] using announced
    refine ⟨stands.pendingTasks_pos (stands.announced reported).2, ?_⟩
    exact stands.counted.trans (monitor.books.length_outstanding observation)
  · intro task waiting
    obtain ⟨owner, member, owns⟩ := lived.owned task waiting
    exact ⟨owner, member, owns, (lived.stands owner member).phase (Books.outstanding_ne_nil_of_queued waiting owns)⟩
  · intro serial task taken
    have working : monitor.books.working = some (serial, task) := taken
    obtain ⟨owner, member, rfl, owns⟩ := lived.worked serial task working
    have some : monitor.books.outstanding owner ≠ [] := by simp [Books.outstanding_of_working working]
    exact ⟨owner, lived.find?_eq member, owns, lived.phase_of_working member working,
      (lived.stands owner member).pendingTasks_pos some⟩
  · intro task told
    refine expected task ?_
    rw [← course]
    exact List.mem_filter.mpr ⟨told, rfl⟩
  · intro serial known
    have life := lived.lives serial known
    rw [← outcomes_books, life.length_ends, current_books, Option.isSome_map]
  · have records : monitor.books.course.filterMap Entry.record? = monitor.journal.filterMap Entry.record? := by
      refine filterMap_course (fun entry told => ?_) monitor
      cases entry with
      | finished => contradiction
      | answered | lookup | scan | phase | offered | stored | notice => rfl
    rw [← records, course]
    exact retention

private theorem valid_shop : ContainerId.Valid "shop" := by decide

private theorem valid_cart : ContainerId.Valid "cart" := by decide

private def bothServices : Policy := ⟨5, ⟨true, true⟩, 1⟩

private def listen (serial : Nat) : List Action :=
  [.aggregate serial .subscribe, .aggregate serial .replay]

/-- The containers `shop` and `cart` start in one pod, and the aggregator of `shop` begins to listen. -/
private def shopAndCart : List Action :=
  [.request ⟨⟨"shop", valid_shop⟩, "shop", ⟨"default", "shop-0"⟩, none, "shop:1", "", []⟩,
    .enroll 0 ⟨"default", "Pod", "shop-0", "shop:1"⟩,
    .request ⟨⟨"cart", valid_cart⟩, "cart", ⟨"default", "shop-0"⟩, none, "cart:1", "", []⟩,
    .enroll 0 ⟨"default", "Pod", "shop-0", "cart:1"⟩] ++ listen 0

/-- From the deadline of an observation to the announcement of its tasks. -/
private def deadline (serial : Nat) : List Action :=
  [.expire serial, .aggregate serial .heed, .aggregate serial .drain, .aggregate serial .leave, .report serial]

/-- The worker has begun with the first task before the second is sent. -/
private def sharedQueue : List Action :=
  shopAndCart ++ listen 1 ++ [.elapse 5, .hire] ++ deadline 0 ++ [.send 0, .take] ++ deadline 1 ++ [.send 1, .send 0]

/-- Two observations have their tasks in the queue at once, and one of them still has to send the last. -/
theorem balanced_of_sharedQueue : ∃ monitor,
    (empty bothServices 1).run? sharedQueue = some monitor ∧
      monitor.active.map (·.pendingTasks) = [2, 2] ∧ monitor.active.map (·.unsent.length) = [0, 1] ∧
      monitor.queue.tasks.map (·.container.text) = ["cart", "shop"] ∧
      monitor.worker.task?.map (·.1) = some 0 ∧ Balanced bothServices monitor := by
  let monitor := (empty bothServices 1).reached sharedQueue
  have facts : ((empty bothServices 1).run? sharedQueue).isSome = true ∧
      monitor.active.map (·.pendingTasks) = [2, 2] ∧ monitor.active.map (·.unsent.length) = [0, 1] ∧
      monitor.queue.tasks.map (·.container.text) = ["cart", "shop"] ∧
      monitor.worker.task?.map (·.1) = some 0 := by
    decide +kernel
  obtain ⟨runs, facts⟩ := facts
  have runs := run?_eq_some_reached runs
  refine ⟨monitor, runs, facts.1, facts.2.1, facts.2.2.1, facts.2.2.2, ?_⟩
  exact balanced_of_run runs (by simp [sharedQueue, shopAndCart, listen, deadline])
    (by simp [sharedQueue, shopAndCart, listen, deadline])

/-- How an observation fares from one state of a run to a later one. -/
structure Orderly (services : List Service) (serial : Nat) (monitor later : Monitor) : Prop where
  /-- The phases follow each other in one of three orders. -/
  isPrefix : later.phases serial <+: [.starting, .watching, .stoppedByTimer, .pipelineRunning, .done] ∨
    services = [] ∧ later.phases serial <+: [.starting, .watching, .stoppedByTimer, .done] ∨
    later.phases serial <+: [.starting, .watching, .stoppedByOverflow, .done]
  grows : monitor.phases serial <+: later.phases serial
  /-- The end is not left. -/
  done : .done ∈ monitor.phases serial → later.phases serial = monitor.phases serial
  /-- The observation is in the last of the phases. -/
  last : ∀ observation, later.observation? serial = some observation →
    (later.phases serial).getLast? = some observation.phase
  /-- It runs until it is done. -/
  runs : (later.observation? serial).isSome = true ↔ (later.phases serial).getLast? ≠ some .done
  recorded : ∀ record, .finished serial record ∈ later.journal →
    (record.outcome.isAborted = true ↔ .stoppedByOverflow ∈ later.phases serial)
  /-- An observation that is or will be aborted has no task in the queue. -/
  untasked : .stoppedByOverflow ∈ later.phases serial → ∀ observation, monitor.observation? serial = some observation →
    ∀ task ∈ monitor.queue.tasks, task.container ≠ observation.container

/-- Between two moments an observation only goes on in its life. -/
theorem orderly_of_turns (lived : monitor.books.Lived)
    (turns : Relation.ReflTransGen Books.Turn monitor.books later.books) (issued : serial < monitor.nextSerial) :
    Orderly monitor.books.services serial monitor later := by
  have grows := lived.phases_prefix turns serial
  have life := (lived.turns turns).life_of_visited (grows.subset (lived.lives serial issued).starting_mem)
  rw [(Books.frame_of_turns turns).1, phases_books, outcomes_books, current_books] at life
  rw [phases_books, phases_books] at grows
  refine ⟨life.isPrefix, grows, ?_, ?_, ?_, ?_, ?_⟩
  · intro done
    obtain ⟨more, same⟩ := grows
    rw [← same] at life ⊢
    rw [life.eq_of_done done, List.append_nil]
  · intro observation found
    rw [found] at life
    exact life.getLast?.1
  · obtain ⟨last, unfinished⟩ := life.getLast?
    rw [last]
    cases found : later.observation? serial with
    | none => simp
    | some observation =>
      rw [found] at unfinished
      simpa using unfinished
  · intro record finished
    apply life.isAborted_iff
    exact List.mem_filterMap.mpr ⟨_, finished, if_pos rfl⟩
  · intro overflow observation found task waiting
    obtain ⟨member, rfl⟩ := mem_active_of_observation? found
    have nothing := lived.outstanding_eq_nil turns member (by rwa [phases_books])
    simp only [Books.outstanding, List.append_eq_nil_iff] at nothing
    exact Books.container_ne_of_queued nothing.1.2 task waiting

/-- An observation that is aborted has sent no task. -/
theorem send_notMem_of_overflow (runs : (empty policy cacheSize).run? actions = some later)
    (undiverted : .divert ∉ actions) (unclosed : .closeQueue ∉ actions)
    (overflow : .stoppedByOverflow ∈ later.phases serial) : .send serial ∉ actions := by
  intro sent
  obtain ⟨before, after, rfl⟩ := List.append_of_mem sent
  rw [List.mem_append, not_or] at undiverted unclosed
  rw [run?_append] at runs
  obtain ⟨middle, begins, goesOn⟩ := Option.bind_eq_some_iff.mp runs
  obtain ⟨lived, isOpen⟩ := lived_of_run begins undiverted.1 unclosed.1
  have turns := turns_of_run isOpen undiverted.2 unclosed.2 goesOn
  obtain ⟨next, stepped, -⟩ := Option.bind_eq_some_iff.mp goesOn
  obtain ⟨observation, service, unsent, found, announced, -⟩ := send?_spec stepped
  obtain ⟨member, rfl⟩ := mem_active_of_observation? found
  have nothing := lived.outstanding_eq_nil turns member (by rwa [phases_books])
  simp [Books.outstanding, announced] at nothing

/-- Every observation goes through its phases in order and is recorded once, when it is over. When it was stopped by
lost events, it sends nothing. -/
theorem orderly_of_run (runs : (empty policy cacheSize).run? first = some monitor)
    (goesOn : monitor.run? second = some later) (undiverted : .divert ∉ first ++ second)
    (unclosed : .closeQueue ∉ first ++ second) (issued : serial < monitor.nextSerial) :
    Orderly policy.services.toList serial monitor later ∧
      (.stoppedByOverflow ∈ later.phases serial → .send serial ∉ first ++ second) := by
  constructor
  · rw [List.mem_append, not_or] at undiverted unclosed
    obtain ⟨lived, isOpen⟩ := lived_of_run runs undiverted.1 unclosed.1
    have services := (Books.frame_of_turns (turns_of_run rfl undiverted.1 unclosed.1 runs)).1
    have orderly := orderly_of_turns lived (turns_of_run isOpen undiverted.2 unclosed.2 goesOn) issued
    rwa [services] at orderly
  · have whole : (empty policy cacheSize).run? (first ++ second) = some later := by
      rw [run?_append, runs]
      exact goesOn
    exact send_notMem_of_overflow whole undiverted unclosed

/-- Events of `shop` are lost before its deadline. One of the tasks of `cart` fails, as its scan does. -/
private def lostEvents : List Action :=
  [.ingest Trace.overflowMarker, .aggregate 0 .receive, .aggregate 0 .leave, .abort 0] ++ listen 1 ++
    [.elapse 5, .hire] ++ deadline 1 ++
    [.send 1, .send 1, .take, .prepare, .stored (.ok ()), .sbomReady 1 (.error "no registry"), .take, .prepare]

/-- One of two observations is stopped by lost events, while the other one completes. -/
theorem orderly_of_lostEvents : ∃ monitor later,
    (empty bothServices 1).run? shopAndCart = some monitor ∧ monitor.run? lostEvents = some later ∧
      later.phases 0 = [.starting, .watching, .stoppedByOverflow, .done] ∧
      later.phases 1 = [.starting, .watching, .stoppedByTimer, .pipelineRunning, .done] ∧
      later.outcomes 1 = [.completed 1] ∧
      Orderly bothServices.services.toList 0 monitor later ∧ .send 0 ∉ shopAndCart ++ lostEvents := by
  let monitor := (empty bothServices 1).reached shopAndCart
  let later := monitor.reached lostEvents
  have facts : ((empty bothServices 1).run? shopAndCart).isSome = true ∧
      (monitor.run? lostEvents).isSome = true ∧ 0 < monitor.nextSerial ∧
      later.phases 0 = [.starting, .watching, .stoppedByOverflow, .done] ∧
      later.phases 1 = [.starting, .watching, .stoppedByTimer, .pipelineRunning, .done] ∧
      later.outcomes 1 = [.completed 1] := by
    decide +kernel
  obtain ⟨runs, goesOn, issued, aborted, completed, outcome⟩ := facts
  have runs := run?_eq_some_reached runs
  have goesOn := run?_eq_some_reached goesOn
  obtain ⟨orderly, unsent⟩ := orderly_of_run runs goesOn (by simp [shopAndCart, lostEvents, listen, deadline])
    (by simp [shopAndCart, lostEvents, listen, deadline]) issued
  have overflow : .stoppedByOverflow ∈ later.phases 0 := by simp [aborted]
  exact ⟨monitor, later, runs, goesOn, aborted, completed, outcome, orderly, unsent overflow⟩

end Monitor

end Observatory
