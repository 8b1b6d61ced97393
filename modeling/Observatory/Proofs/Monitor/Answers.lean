import Observatory.Proofs.Monitor.Session
import Mathlib.Data.List.Perm.Basic

/-! # How starts are answered

A start is first checked, then waits for the identity of its workload, and then leads to an observation unless one
of its container is running. Starts of one container may overlap. Main statement: as long as the container is not
forgotten, at most one of its starts leads to an observation, if none of them is waiting when an observation of the
container ends. Without that condition a second one can, since it is no longer asked whether the container has been
observed.
-/

namespace Observatory

/-- The answer to a start of the container. -/
def Entry.answerOf? (container : ContainerId) : Entry → Option Bool
  | .answered other observed => if other = container then some observed else none
  | _ => none

/-- Remarks answer nobody. -/
theorem Entry.silent_of_remarks {container : ContainerId} {entries : List Entry}
    (remarks : ∀ entry ∈ entries, entry.isRemark = true) : ∀ entry ∈ entries, entry.answerOf? container = none := by
  intro entry member
  have remark := remarks entry member
  cases entry with
  | answered => contradiction
  | lookup | scan | phase | offered | stored | finished | notice => rfl

/-- The container for which a start is asked. -/
def Action.requested? : Action → Option ContainerId
  | .request start => some start.container
  | _ => none

/-- What matters to the starts of one container. -/
@[ext] structure Door where
  answers : List Bool
  isObserved : Bool
  isFinished : Bool
  /-- Starts that wait for their identity. -/
  waiting : Nat

namespace Monitor

variable {monitor next : Monitor} {action : Action} {actions : List Action} {container : ContainerId} {number : Nat}
  {old new observation : Observation}

/-- How the starts of a container have been answered. -/
def answers (monitor : Monitor) (container : ContainerId) : List Bool :=
  monitor.journal.filterMap (Entry.answerOf? container)

def door (monitor : Monitor) (container : ContainerId) : Door where
  answers := monitor.answers container
  isObserved := (monitor.observing? container).isSome
  isFinished := monitor.finished.contains container
  waiting := monitor.entering.countP (·.container = container)

/-- What an action means to the starts of a container. -/
inductive Passage (door : Door) : Door → Prop
  | aside : Passage door door
  /-- The container is tracked already. -/
  | refused (tracked : door.isObserved = true ∨ door.isFinished = true) :
      Passage door { door with answers := door.answers ++ [false] }
  | entered (unobserved : door.isObserved = false) (unfinished : door.isFinished = false) :
      Passage door { door with waiting := door.waiting + 1 }
  /-- An observation of the container is running when the identity is known. -/
  | declined (observed : door.isObserved = true) (waiting : 0 < door.waiting) :
      Passage door { door with answers := door.answers ++ [false], waiting := door.waiting - 1 }
  | admitted (unobserved : door.isObserved = false) (waiting : 0 < door.waiting) :
      Passage door
        { door with answers := door.answers ++ [true], isObserved := true, waiting := door.waiting - 1 }
  | ended (observed : door.isObserved = true) : Passage door { door with isObserved := false, isFinished := true }
  | forgotten : Passage door { door with isFinished := false }

/-! ## What keeps a door and what changes it -/

theorem isSome_observing?_iff (monitor : Monitor) (container : ContainerId) :
    (monitor.observing? container).isSome = true ↔
      ∃ observation ∈ monitor.active, observation.container = container := by
  simp [observing?, List.find?_isSome]

/-- The starts, their answers and the finished containers are as before. -/
structure Undisturbed (container : ContainerId) (monitor next : Monitor) : Prop where
  answers : next.answers container = monitor.answers container
  entering : next.entering = monitor.entering
  finished : next.finished = monitor.finished

theorem Undisturbed.passage (undisturbed : Undisturbed container monitor next)
    (observed : (next.observing? container).isSome = (monitor.observing? container).isSome) :
    Passage (monitor.door container) (next.door container) := by
  have same : next.door container = monitor.door container := by
    simp only [door, undisturbed.answers, undisturbed.entering, undisturbed.finished, observed]
  rw [same]
  exact .aside

/-- An observation is changed and remains one of its container. -/
theorem Undisturbed.passage_of_replace (undisturbed : Undisturbed container monitor next) (separate : monitor.Separate)
    (member : old ∈ monitor.active) (active : next.active = (monitor.replace new).active)
    (numbered : new.serial = old.serial) (same : new.container = old.container) :
    Passage (monitor.door container) (next.door container) := by
  refine undisturbed.passage ?_
  rw [Bool.eq_iff_iff, isSome_observing?_iff, isSome_observing?_iff, active]
  constructor
  · rintro ⟨after, memberAfter, rfl⟩
    obtain ⟨before, memberBefore, isAfter⟩ := List.mem_map.mp memberAfter
    split at isAfter
    · exact ⟨old, member, by rw [← isAfter, same]⟩
    · exact ⟨before, memberBefore, by rw [isAfter]⟩
  · rintro ⟨before, memberBefore, rfl⟩
    by_cases isOld : before.serial = new.serial
    · obtain rfl := separate.eq_of_serial memberBefore member (isOld.trans numbered)
      exact ⟨new, List.mem_map.mpr ⟨before, memberBefore, if_pos isOld⟩, same⟩
    · exact ⟨before, List.mem_map.mpr ⟨before, memberBefore, if_neg isOld⟩, rfl⟩

/-- An observation ends, and its container is finished from then on. -/
theorem passage_of_finish (separate : monitor.Separate) (member : old ∈ monitor.active)
    (answers : next.answers container = monitor.answers container) (entering : next.entering = monitor.entering)
    (active : next.active = monitor.active.filter (·.serial ≠ old.serial))
    (finished : next.finished = monitor.finished.insert old.container old.start.pod) :
    Passage (monitor.door container) (next.door container) := by
  by_cases own : container = old.container
  · subst own
    have observed : (monitor.observing? old.container).isSome = true :=
      (isSome_observing?_iff ..).mpr ⟨old, member, rfl⟩
    have gone : (next.observing? old.container).isSome = false := by
      rw [← Bool.not_eq_true, isSome_observing?_iff, active]
      rintro ⟨other, memberOther, same⟩
      obtain ⟨earlier, differs⟩ := List.mem_filter.mp memberOther
      have isOther : other ≠ old := by
        rintro rfl
        simp at differs
      exact (separate.apart_of_ne earlier member isOther).container same
    have door : next.door old.container =
        { monitor.door old.container with isObserved := false, isFinished := true } := by
      simp [Monitor.door, answers, entering, gone, finished, Table.contains_eq_isSome]
    rw [door]
    exact .ended observed
  · have observed : (next.observing? container).isSome = (monitor.observing? container).isSome := by
      rw [Bool.eq_iff_iff, isSome_observing?_iff, isSome_observing?_iff, active]
      constructor
      · rintro ⟨other, memberOther, same⟩
        exact ⟨other, List.mem_of_mem_filter memberOther, same⟩
      · rintro ⟨other, memberOther, rfl⟩
        refine ⟨other, List.mem_filter.mpr ⟨memberOther, ?_⟩, rfl⟩
        have differs : other.serial ≠ old.serial := fun same =>
          own (by rw [separate.eq_of_serial memberOther member same])
        simpa using differs
    have door : next.door container = monitor.door container := by
      simp [Monitor.door, answers, entering, observed, finished, Table.contains_eq_isSome, Table.get?_insert, own]
    rw [door]
    exact .aside

/-! ## Steps -/

theorem answers_write {entries : List Entry} (silent : ∀ entry ∈ entries, entry.answerOf? container = none) :
    (monitor.write entries).answers container = monitor.answers container := by
  simp [answers, write, List.filterMap_append, List.filterMap_eq_nil_iff.mpr silent]

theorem answers_write_answered (monitor : Monitor) (other : ContainerId) (observed : Bool) (container : ContainerId) :
    (monitor.write [.answered other observed]).answers container =
      monitor.answers container ++ if other = container then [observed] else [] := by
  by_cases own : other = container <;> simp [answers, write, Entry.answerOf?, own]

theorem answers_finish (monitor : Monitor) (observation : Observation) (outcome : Outcome) (container : ContainerId) :
    (monitor.finish observation outcome).answers container = monitor.answers container := by
  simp [answers, finish, Entry.answerOf?]

theorem answers_enter (monitor : Monitor) (observation : Observation) (phase : Phase) (container : ContainerId) :
    (monitor.enter observation phase).answers container = monitor.answers container := by
  unfold enter
  dsimp only
  rw [answers_write]
  · rfl
  · split <;> simp [Entry.answerOf?]

/-- An observation that begins is the answer to its start. -/
theorem answers_begin (monitor : Monitor) (start : Start) (identity : ResourceIdentity) (container : ContainerId) :
    (monitor.begin start identity).answers container =
      monitor.answers container ++ if start.container = container then [true] else [] := by
  by_cases own : start.container = container <;>
    simp [answers, begin, List.filterMap_cons, List.filterMap_map, Function.comp_def, Entry.answerOf?, own]

theorem isSome_observing?_begin (monitor : Monitor) (start : Start) (identity : ResourceIdentity)
    (container : ContainerId) : ((monitor.begin start identity).observing? container).isSome =
      ((monitor.observing? container).isSome || decide (start.container = container)) := by
  rw [Bool.eq_iff_iff, Bool.or_eq_true, isSome_observing?_iff, isSome_observing?_iff]
  simp only [begin, List.mem_append, List.mem_singleton, decide_eq_true_eq]
  constructor
  · rintro ⟨observation, earlier | rfl, own⟩
    · exact .inl ⟨observation, earlier, own⟩
    · exact .inr own
  · rintro (⟨observation, earlier, own⟩ | own)
    · exact ⟨observation, .inl earlier, own⟩
    · exact ⟨_, .inr rfl, own⟩

/-- A task that is done leaves its observation, or ends it. -/
private theorem passage_concludeTask {base : Monitor} {sent : Observation} (separate : monitor.Separate)
    (member : old ∈ monitor.active) (serial : sent.serial = old.serial) (start : sent.start = old.start)
    (active : base.active = monitor.active) (undisturbed : Undisturbed container monitor base) (failed : Bool) :
    Passage (monitor.door container) ((base.concludeTask sent failed).door container) := by
  let counted := (sent.taskDone failed).1
  have numbered : counted.serial = old.serial := serial
  have started : counted.start = old.start := start
  by_cases last : sent.pendingTasks = 1
  · have conclude : base.concludeTask sent failed =
        (base.replace counted).finish counted (.completed counted.failedTasks) := by
      simp [concludeTask, Observation.taskDone, last, counted]
    rw [conclude]
    refine passage_of_finish separate member ?_ undisturbed.entering ?_ ?_
    · exact (answers_finish ..).trans undisturbed.answers
    · rw [← numbered, ← active]
      exact filter_active_replace base counted
    · have finished : (base.replace counted).finished = monitor.finished := undisturbed.finished
      simp only [finish, Observation.container, started, finished]
  · have conclude : base.concludeTask sent failed = base.replace counted := by
      simp [concludeTask, Observation.taskDone, last, counted]
    rw [conclude]
    have replaced : Undisturbed container monitor (base.replace counted) :=
      ⟨undisturbed.answers, undisturbed.entering, undisturbed.finished⟩
    exact replaced.passage_of_replace separate member (by simp only [replace, active]) numbered
      (congrArg Start.container started)

private theorem passage_change {base : Monitor} {f : Observation → Observation} (separate : monitor.Separate)
    (active : base.active = monitor.active) (undisturbed : Undisturbed container monitor base)
    (same : ∀ observation, (f observation).serial = observation.serial ∧
      (f observation).container = observation.container) :
    Passage (monitor.door container) ((base.change number f).door container) := by
  unfold change
  split
  · rename_i observation found
    have member := (mem_active_of_observation? found).1
    have replaced : Undisturbed container monitor (base.replace (f observation)) :=
      ⟨undisturbed.answers, undisturbed.entering, undisturbed.finished⟩
    exact replaced.passage_of_replace separate (active ▸ member) (by simp only [replace, active])
      (same observation).1 (same observation).2
  · exact undisturbed.passage (by simp only [observing?, active])

private theorem passage_filter {keep : ContainerId → Cluster.PodKey → Bool} (monitor : Monitor)
    (container : ContainerId) : Passage (monitor.door container)
      ({ monitor with finished := monitor.finished.filter keep }.door container) := by
  cases kept : (monitor.finished.filter keep).contains container with
  | true =>
    have before := Table.contains_of_contains_filter kept
    have same : { monitor with finished := monitor.finished.filter keep }.door container =
        monitor.door container := by
      simp only [door, kept, before]
      rfl
    rw [same]
    exact .aside
  | false =>
    have forgotten : { monitor with finished := monitor.finished.filter keep }.door container =
        { monitor.door container with isFinished := false } := by
      simp only [door, kept]
      rfl
    rw [forgotten]
    exact .forgotten

/-- A start is refused for a container that is tracked, and otherwise waits for its identity. -/
private theorem passage_request (monitor : Monitor) (start : Start) (container : ContainerId) :
    Passage (monitor.door container) ((monitor.request start).door container) := by
  unfold request
  split
  · rename_i tracked
    by_cases own : start.container = container
    · subst own
      have told : (monitor.write [.answered start.container false]).door start.container =
          { monitor.door start.container with answers := (monitor.door start.container).answers ++ [false] } := by
        refine Door.ext ?_ rfl rfl rfl
        exact (answers_write_answered ..).trans (by rw [if_pos rfl]; rfl)
      rw [told]
      exact .refused (by simpa [isTracked, door] using tracked)
    · have undisturbed : Undisturbed container monitor (monitor.write [.answered start.container false]) :=
        ⟨answers_write (by simp [Entry.answerOf?, own]), rfl, rfl⟩
      exact undisturbed.passage rfl
  · rename_i untracked
    have entered : { monitor with entering := monitor.entering ++ [start] }.door container =
        { monitor.door container with
          waiting := (monitor.door container).waiting + if start.container = container then 1 else 0 } := by
      refine Door.ext rfl rfl rfl ?_
      simp [door, List.countP_append, List.countP_cons]
    rw [entered]
    split
    · rename_i own
      subst own
      simp only [isTracked, Bool.or_eq_true, not_or, Bool.not_eq_true] at untracked
      exact .entered untracked.1 untracked.2
    · exact .aside

/-- A start that stops waiting. -/
private theorem waiting_eraseIdx {index : Nat} {start : Start} (found : monitor.entering[index]? = some start)
    (container : ContainerId) :
    (monitor.door container).waiting = (monitor.entering.eraseIdx index).countP (·.container = container) +
      if start.container = container then 1 else 0 := by
  obtain ⟨bound, same⟩ := List.getElem?_eq_some_iff.mp found
  have counts := (List.getElem_cons_eraseIdx_perm bound).countP_eq (fun start => decide (start.container = container))
  rw [List.countP_cons, same] at counts
  simpa [door] using counts.symm

/-- A start that has its identity is admitted, or declined because of another one. -/
private theorem passage_enroll {index : Nat} {identity : ResourceIdentity}
    (stepped : monitor.enroll? index identity = some next) :
    Passage (monitor.door container) (next.door container) := by
  obtain ⟨start, found, outcomes⟩ := enroll?_spec stepped
  let left : Monitor := { monitor with entering := monitor.entering.eraseIdx index }
  have waiting : (monitor.door container).waiting = (left.door container).waiting +
      if start.container = container then 1 else 0 :=
    waiting_eraseIdx found container
  by_cases own : start.container = container
  · subst own
    rw [if_pos rfl] at waiting
    have some : 0 < (monitor.door start.container).waiting := by omega
    have less := Nat.eq_sub_of_add_eq waiting.symm
    obtain ⟨running, rfl⟩ | ⟨unobserved, rfl⟩ := outcomes
    · have declined : (left.write [.answered start.container false]).door start.container =
          { monitor.door start.container with
            answers := (monitor.door start.container).answers ++ [false]
            waiting := (monitor.door start.container).waiting - 1 } := by
        refine Door.ext ?_ rfl rfl less
        exact (answers_write_answered ..).trans (by rw [if_pos rfl]; rfl)
      exact declined ▸ .declined running some
    · have admitted : (left.begin start identity).door start.container =
          { monitor.door start.container with
            answers := (monitor.door start.container).answers ++ [true]
            isObserved := true
            waiting := (monitor.door start.container).waiting - 1 } := by
        refine Door.ext ?_ ?_ rfl less
        · exact (answers_begin ..).trans (by rw [if_pos rfl]; rfl)
        · exact (isSome_observing?_begin ..).trans (by simp)
      exact admitted ▸ .admitted (by simp [door, unobserved]) some
  · rw [if_neg own, Nat.add_zero] at waiting
    obtain ⟨-, rfl⟩ | ⟨-, rfl⟩ := outcomes
    · have same : (left.write [.answered start.container false]).door container = monitor.door container := by
        refine Door.ext ?_ rfl rfl waiting.symm
        exact (answers_write_answered ..).trans (by rw [if_neg own, List.append_nil]; rfl)
      exact same ▸ .aside
    · have same : (left.begin start identity).door container = monitor.door container := by
        refine Door.ext ?_ ?_ rfl waiting.symm
        · exact (answers_begin ..).trans (by rw [if_neg own, List.append_nil]; rfl)
        · exact (isSome_observing?_begin ..).trans (by simp only [own, decide_false, Bool.or_false]; rfl)
      exact same ▸ .aside

/-- Every action moves the starts of a container by one passage. -/
theorem passage_step (separate : monitor.Separate) (stepped : monitor.step? action = some next)
    (container : ContainerId) : Passage (monitor.door container) (next.door container) := by
  cases action with
  | ingest line | exclude other | intrude other | elapse duration =>
    obtain rfl := Option.some.inj stepped
    exact .aside
  | forgetPod pod | retainPods pods =>
    obtain rfl := Option.some.inj stepped
    exact passage_filter monitor container
  | request start =>
    obtain rfl := Option.some.inj stepped
    exact passage_request monitor start container
  | enroll index identity => exact passage_enroll stepped
  | sbomReady number result =>
    obtain ⟨inquiry, entries, -, remarks, rfl⟩ := sbomReady?_spec stepped
    refine passage_change separate ?_ ?_ fun observation => ⟨rfl, rfl⟩
    · rfl
    · exact ⟨answers_write (Entry.silent_of_remarks remarks), rfl, rfl⟩
  | vulnerabilitiesReady number result =>
    obtain ⟨inquiry, entries, -, remarks, rfl⟩ := vulnerabilitiesReady?_spec stepped
    refine passage_change separate ?_ ?_ fun observation => ⟨rfl, rfl⟩
    · rfl
    · exact ⟨answers_write (Entry.silent_of_remarks remarks), rfl, rfl⟩
  | aggregate number move =>
    obtain ⟨observation, aggregator, after, found, -, rfl⟩ := aggregate?_spec stepped
    have undisturbed : Undisturbed container monitor
        ({ monitor with accumulator := after }.replace { observation with aggregator := aggregator }) :=
      ⟨rfl, rfl, rfl⟩
    exact undisturbed.passage_of_replace separate (mem_active_of_observation? found).1 rfl rfl rfl
  | expire number =>
    obtain ⟨observation, found, -, -, rfl⟩ := expire?_spec stepped
    have undisturbed : Undisturbed container monitor (monitor.enter observation .stoppedByTimer) :=
      ⟨answers_enter .., rfl, rfl⟩
    exact undisturbed.passage_of_replace separate (mem_active_of_observation? found).1 rfl rfl rfl
  | abort number =>
    have active := active_abort? stepped
    obtain ⟨observation, outcome, aborted, found, -, -, -, rfl, rfl⟩ := abort?_spec stepped
    obtain ⟨member, rfl⟩ := mem_active_of_observation? found
    refine passage_of_finish separate member ?_ rfl active rfl
    rw [answers_finish, answers_write (by simp [Entry.answerOf?]), answers_enter]
    rfl
  | report number =>
    obtain ⟨observation, outcome, notice, reported, found, -, -, -, -, rfl, ⟨-, rfl⟩ | ⟨-, rfl⟩⟩ :=
      report?_spec stepped
    · refine passage_of_finish separate (mem_active_of_observation? found).1 ?_ rfl ?_ rfl
      · rw [answers_finish, answers_write (by simp [Entry.answerOf?])]
        rfl
      · exact filter_active_replace monitor _
    · refine Undisturbed.passage_of_replace ⟨?_, rfl, rfl⟩ separate (mem_active_of_observation? found).1 rfl rfl rfl
      rw [answers_write (by simp [Entry.answerOf?])]
      rfl
  | send number =>
    obtain ⟨observation, service, rest, found, -, ⟨-, -, queue, ⟨-, rfl⟩ | ⟨-, rfl⟩⟩ | ⟨-, rfl⟩⟩ :=
      send?_spec stepped
    all_goals have member := (mem_active_of_observation? found).1
    · have undisturbed : Undisturbed container monitor
          ({ monitor with queue := queue }.replace { observation with unsent := rest }) := ⟨rfl, rfl, rfl⟩
      exact undisturbed.passage_of_replace separate member rfl rfl rfl
    · exact .aside
    · refine passage_concludeTask separate member ?_ ?_ ?_ ?_ true
      · rfl
      · rfl
      · rfl
      · exact ⟨answers_write (by simp [Entry.answerOf?]), rfl, rfl⟩
  | hire =>
    obtain ⟨-, rfl⟩ := hire?_spec stepped
    exact .aside
  | take =>
    obtain ⟨task, queue, -, -, ⟨-, rfl⟩ | ⟨observation, observed, rfl⟩⟩ := take?_spec stepped
    · have undisturbed : Undisturbed container monitor
          ({ monitor with queue := queue }.write [.notice (.unexpected task)]) :=
        ⟨answers_write (by simp [Entry.answerOf?]), rfl, rfl⟩
      exact undisturbed.passage rfl
    · refine Undisturbed.passage_of_replace ⟨?_, rfl, rfl⟩ separate (List.mem_of_find?_eq_some observed) rfl rfl rfl
      exact answers_enter ..
  | prepare =>
    obtain ⟨number, task, observation, -, found, ⟨derived, -, rfl⟩ | ⟨reason, -, rfl⟩⟩ := prepare?_spec stepped
    · have silent : ∀ entry ∈ noticeOf derived ++ [.offered number derived.artifact],
          entry.answerOf? container = none := by
        unfold noticeOf
        split <;> simp [Entry.answerOf?]
      have undisturbed : Undisturbed container monitor
          { monitor.write (noticeOf derived ++ [.offered number derived.artifact]) with
            worker := .storing number task derived.artifact monitor.now } :=
        ⟨answers_write silent, rfl, rfl⟩
      exact undisturbed.passage rfl
    · refine passage_concludeTask separate (mem_active_of_observation? found).1 ?_ ?_ ?_ ?_ true
      · rfl
      · rfl
      · rfl
      · exact ⟨answers_write (by simp [Entry.answerOf?]), rfl, rfl⟩
  | stored answer =>
    obtain ⟨number, task, artifact, since, observation, entries, failed, -, found, -, remarks, rfl⟩ :=
      stored?_spec stepped
    refine passage_concludeTask separate (mem_active_of_observation? found).1 ?_ ?_ ?_ ?_ failed
    · rfl
    · rfl
    · rfl
    · exact ⟨answers_write (Entry.silent_of_remarks remarks), rfl, rfl⟩
  | divert =>
    obtain ⟨⟨task, _⟩, diverted, rfl⟩ := Option.map_eq_some_iff.mp stepped
    obtain ⟨queue, -, taken, rfl⟩ := divert?_spec diverted
    exact .aside
  | closeQueue =>
    obtain ⟨-, rfl⟩ := closeQueue?_spec stepped
    exact .aside

/-- Only a start that is asked for adds to those that wait. -/
theorem waiting_le_step (stepped : monitor.step? action = some next) (other : action.requested? ≠ some container) :
    (next.door container).waiting ≤ (monitor.door container).waiting := by
  rcases (tracks_step stepped).entering with same | ⟨start, rfl, entering⟩ | ⟨index, identity, -, entering⟩
  · simp [door, same]
  · have differs : start.container ≠ container := fun same => other (congrArg some same)
    simp [door, entering, differs]
  · simp only [door, entering]
    exact (List.eraseIdx_sublist ..).countP_le

/-! ## Runs -/

/-- The test holds of every step of the run. -/
def along (test : Monitor → Monitor → Bool) : Monitor → List Action → Bool
  | _, [] => true
  | monitor, action :: rest =>
      match monitor.step? action with
      | some next => test monitor next && next.along test rest
      | none => true

/-- A finished container is not forgotten. -/
def keepsFinished (container : ContainerId) (monitor next : Monitor) : Bool :=
  !monitor.finished.contains container || next.finished.contains container

/-- No start of the container waits when an observation of it ends. -/
def endsUnasked (container : ContainerId) (monitor next : Monitor) : Bool :=
  (monitor.observing? container).isNone || (next.observing? container).isSome ||
    monitor.entering.countP (·.container = container) = 0

/-- The starts of the container have led to one observation, if it is tracked, and otherwise to none. -/
structure Once (door : Door) : Prop where
  count : door.answers.count true = if door.isObserved || door.isFinished then 1 else 0
  unasked : door.isObserved = false → door.isFinished = true → door.waiting = 0

theorem Once.passage {door after : Door} (once : Once door) (passage : Passage door after)
    (kept : door.isFinished = true → after.isFinished = true)
    (unasked : door.isObserved = true → after.isObserved = true ∨ door.waiting = 0) : Once after := by
  have count := once.count
  cases passage with
  | aside => exact once
  | refused tracked => exact ⟨by simpa using count, once.unasked⟩
  | entered unobserved unfinished =>
    refine ⟨count, fun _ finished => ?_⟩
    exact absurd (unfinished.symm.trans finished) (by decide)
  | declined observed waiting =>
    refine ⟨by simpa using count, fun unobserved => ?_⟩
    exact absurd (observed.symm.trans unobserved) (by decide)
  | admitted unobserved waiting =>
    -- a start that waits although nothing is observed has come before the container was finished
    have unfinished : door.isFinished = false := by
      by_contra finished
      have none := once.unasked unobserved (by simpa using finished)
      omega
    refine ⟨?_, nofun⟩
    simpa [unobserved, unfinished] using count
  | ended observed =>
    have none : door.waiting = 0 := (unasked observed).resolve_left (by simp)
    exact ⟨by simpa [observed] using count, fun _ _ => none⟩
  | forgotten =>
    have unfinished : door.isFinished = false := by
      by_contra finished
      exact absurd (kept (by simpa using finished)) (by simp)
    exact ⟨by simpa [unfinished] using count, nofun⟩

theorem Once.step (once : Once (monitor.door container)) (separate : monitor.Separate)
    (stepped : monitor.step? action = some next) (kept : keepsFinished container monitor next = true)
    (unasked : endsUnasked container monitor next = true) : Once (next.door container) := by
  refine once.passage (passage_step separate stepped container) ?_ ?_
  · intro finished
    have finished : monitor.finished.contains container = true := finished
    simpa [keepsFinished, finished, door] using kept
  · intro observed
    have observed : (monitor.observing? container).isNone = false := by simpa [door] using observed
    simpa only [endsUnasked, observed, Bool.false_or, Bool.or_eq_true, decide_eq_true_eq, door] using unasked

/-- Through a run that neither forgets the container nor ends an observation while a start waits, there is one
observation at most. -/
theorem Once.run (once : Once (monitor.door container)) (separate : monitor.Separate)
    (kept : monitor.along (keepsFinished container) actions = true)
    (unasked : monitor.along (endsUnasked container) actions = true)
    (runs : monitor.run? actions = some next) : Once (next.door container) := by
  induction actions generalizing monitor with
  | nil => exact Option.some.inj runs ▸ once
  | cons action rest ih =>
    obtain ⟨middle, stepped, runs⟩ := Option.bind_eq_some_iff.mp runs
    simp only [along, stepped, Bool.and_eq_true] at kept unasked
    exact ih (once.step separate stepped kept.1 unasked.1) (separate.step stepped) kept.2 unasked.2 runs

/-- A container that is not forgotten is observed at most once, however its starts overlap, if none of them waits
when an observation of the container ends. -/
theorem count_answers_of_unasked {policy : Policy} {cacheSize : Nat}
    (runs : (empty policy cacheSize).run? actions = some monitor)
    (kept : (empty policy cacheSize).along (keepsFinished container) actions = true)
    (unasked : (empty policy cacheSize).along (endsUnasked container) actions = true) :
    (monitor.answers container).count true = if monitor.isTracked container then 1 else 0 := by
  have once : Once ((empty policy cacheSize).door container) := ⟨rfl, fun _ _ => rfl⟩
  exact (once.run (separate_empty policy cacheSize) kept unasked runs).count

private theorem valid_blog : ContainerId.Valid "blog" := by decide

private def startOfBlog : Start :=
  ⟨⟨"blog", valid_blog⟩, "blog", ⟨"default", "blog-0"⟩, none, "blog:1", "", []⟩

private def blog : ResourceIdentity := ⟨"default", "Pod", "blog-0", "blog:1"⟩

private def unserved : Policy := ⟨5, ⟨false, false⟩, 1⟩

private def listensToBlog : List Action :=
  [.aggregate 0 .subscribe, .aggregate 0 .replay]

/-- The deadline comes, and as no service is enabled the observation ends. -/
private def endsInTime : List Action :=
  [.elapse 5, .expire 0, .aggregate 0 .heed, .aggregate 0 .drain, .aggregate 0 .leave, .report 0]

private def endsByLoss : List Action :=
  [.ingest Trace.overflowMarker, .aggregate 0 .receive, .aggregate 0 .leave, .abort 0]

/-- Two starts overlap, and a third one comes when the observation has ended. -/
private def startedThrice : List Action :=
  [.request startOfBlog, .request startOfBlog, .enroll 0 blog, .enroll 0 blog] ++ listensToBlog ++ endsInTime ++
    [.request startOfBlog]

/-- Just one of the three starts leads to an observation. -/
theorem count_answers_of_startedThrice : ∃ monitor,
    (empty unserved 1).run? startedThrice = some monitor ∧
      monitor.answers startOfBlog.container = [true, false, false] ∧
      (monitor.answers startOfBlog.container).count true =
        if monitor.isTracked startOfBlog.container then 1 else 0 := by
  let monitor := (empty unserved 1).reached startedThrice
  have facts : ((empty unserved 1).run? startedThrice).isSome = true ∧
      (empty unserved 1).along (keepsFinished startOfBlog.container) startedThrice = true ∧
      (empty unserved 1).along (endsUnasked startOfBlog.container) startedThrice = true ∧
      monitor.answers startOfBlog.container = [true, false, false] := by
    decide +kernel
  obtain ⟨runs, kept, unasked, answers⟩ := facts
  have runs := run?_eq_some_reached runs
  exact ⟨monitor, runs, answers, count_answers_of_unasked runs kept unasked⟩

/-- The second start waits while the first one leads to an observation and that one ends. -/
private def overlapping (ending : List Action) : List Action :=
  [.request startOfBlog, .request startOfBlog, .enroll 0 blog] ++ listensToBlog ++ ending ++ [.enroll 0 blog]

/-- A start that waits while an observation of its container ends, be it at the deadline or with lost events, leads
to another one, although the container was not forgotten. -/
theorem answers_of_overlapping :
    (((empty unserved 1).run? (overlapping endsInTime)).map (·.answers startOfBlog.container) = some [true, true] ∧
        (empty unserved 1).along (keepsFinished startOfBlog.container) (overlapping endsInTime) = true) ∧
      ((empty unserved 1).run? (overlapping endsByLoss)).map (·.answers startOfBlog.container) = some [true, true] ∧
        (empty unserved 1).along (keepsFinished startOfBlog.container) (overlapping endsByLoss) = true := by
  decide +kernel

end Monitor

end Observatory
