import Observatory.Proofs.Monitor.Attempts
import Observatory.Proofs.Schedule.Serving

/-! # Every observation is carried out

Main statement: what the record of an observation tells and what the store is given is decided by the attempts at its
tasks, one for each service, in every run, and what an attempt has for the store by the results that the run gave the
observation; and however the surroundings answer, the observation ends when enough time has passed.
-/

namespace Observatory.Monitor

variable {policy : Policy} {cacheSize serial target : Nat} {monitor later next : Monitor}
  {first second : List Action} {observation : Observation}

/-! ## Schedules are runs -/

/-- Nothing but the monitor itself and the clock moves. -/
def IsUndisturbed (actions : List Action) : Prop :=
  ∀ action ∈ actions, action.isScheduled = true ∨ ∃ duration, action = .elapse duration

theorem IsUndisturbed.undiverted {actions : List Action} (undisturbed : IsUndisturbed actions) :
    .divert ∉ actions ∧ .closeQueue ∉ actions := by
  constructor <;> intro member <;> rcases undisturbed _ member with scheduled | ⟨duration, same⟩ <;> contradiction

theorem IsUndisturbed.append {actions more : List Action} (undisturbed : IsUndisturbed actions)
    (still : IsUndisturbed more) : IsUndisturbed (actions ++ more) := fun action member =>
  (List.mem_append.mp member).elim (undisturbed action) (still action)

/-- To settle is a run of scheduled actions. -/
theorem Settles.exists_run (settles : monitor.Settles next) :
    ∃ actions, monitor.run? actions = some next ∧ IsUndisturbed actions := by
  induction settles with
  | refl => exact ⟨[], rfl, nofun⟩
  | tail _ step ih =>
    obtain ⟨actions, runs, undisturbed⟩ := ih
    obtain ⟨action, scheduled, stepped⟩ := step
    refine ⟨actions ++ [action], ?_, undisturbed.append fun other member => ?_⟩
    · rw [run?_append, runs]
      simp [run?, stepped]
    · obtain rfl := List.mem_singleton.mp member
      exact .inl scheduled

theorem exists_run_advanceFor (surroundings : Surroundings) (fuel : Nat) (ahead : monitor.now ≤ target) :
    ∃ actions, monitor.run? actions = some (advanceFor surroundings target fuel monitor) ∧ IsUndisturbed actions := by
  have elapsed {monitor : Monitor} {now : Nat} (ahead : monitor.now ≤ now) :
      monitor.run? [.elapse (now - monitor.now)] = some { monitor with now := now } := by
    simp [run?, step?, Nat.add_sub_cancel' ahead]
  have undisturbed (duration : Nat) : IsUndisturbed [.elapse duration] := fun action member =>
    .inr ⟨duration, List.mem_singleton.mp member⟩
  -- time passes until an instant, and the monitor settles there
  have instant {monitor : Monitor} {now : Nat} (ahead : monitor.now ≤ now) : ∃ actions,
      monitor.run? actions = some (settle surroundings { monitor with now := now }) ∧ IsUndisturbed actions := by
    obtain ⟨actions, runs, still⟩ := (settles_settle surroundings { monitor with now := now }).exists_run
    refine ⟨[.elapse (now - monitor.now)] ++ actions, ?_, (undisturbed _).append still⟩
    rw [run?_append, elapsed ahead]
    exact runs
  induction fuel generalizing monitor with
  | zero => exact ⟨_, elapsed ahead, undisturbed _⟩
  | succ fuel ih =>
    unfold advanceFor
    cases found : monitor.nextDue? surroundings target with
    | none => exact instant ahead
    | some due =>
      obtain ⟨-, later, within, -⟩ := nextDue?_eq_some found
      obtain ⟨actions, runs, still⟩ := instant (Nat.le_of_lt later)
      have now := (settles_settle surroundings { monitor with now := due }).frame.1
      obtain ⟨rest, runsRest, stillRest⟩ := ih (by rw [now]; exact within)
      refine ⟨actions ++ rest, ?_, still.append stillRest⟩
      rw [run?_append, runs]
      exact runsRest

/-- To let time pass is a run of scheduled actions and of the clock. -/
theorem exists_run_advance (monitor : Monitor) (surroundings : Surroundings) (duration : Nat) :
    ∃ actions, monitor.run? actions = some (monitor.advance surroundings duration) ∧ IsUndisturbed actions :=
  exists_run_advanceFor surroundings _ (Nat.le_add_right _ _)

/-! ## Observations -/

/-- An observation and the tasks of all of them, after a run. -/
structure CarriedOut (initial : Monitor) (serial : Nat) (observation : Observation) (actions : List Action)
    (monitor : Monitor) : Prop where
  exact : Exact initial.policy.services.toList serial observation (initial.findings serial actions)
    (initial.attempts serial actions) monitor
  /-- The worker is done with the tasks in the order in which they entered the queue. -/
  inOrder : initial.entered actions =
    initial.done actions ++ (monitor.worker.task?.toList.map (·.2) ++ monitor.queue.tasks)

/-- What becomes of the tasks of an observation, at any later point of a run. -/
theorem carriedOut (runs : (empty policy cacheSize).run? first = some monitor)
    (observed : monitor.observation? serial = some observation) (goesOn : monitor.run? second = some later)
    (undiverted : .divert ∉ first ++ second) (unclosed : .closeQueue ∉ first ++ second) :
    CarriedOut (empty policy cacheSize) serial observation (first ++ second) later := by
  have whole : (empty policy cacheSize).run? (first ++ second) = some later := by
    rw [run?_append, runs]
    exact goesOn
  obtain ⟨lived, -⟩ := lived_of_run whole undiverted unclosed
  have told := told_of_run runs observed goesOn undiverted unclosed
  exact ⟨⟨told.ordered, told.completed lived, told.tallied.handed, told.tallied.derived, told.tallied.stored,
    told.aborted lived⟩, (kept_empty policy cacheSize).entered_eq undiverted unclosed whole⟩

/-- An observation is carried out in every run, and it ends when enough time has passed. -/
theorem carriedOut_of_run (runs : (empty policy cacheSize).run? first = some monitor)
    (observed : monitor.observation? serial = some observation) (goesOn : monitor.run? second = some later)
    (undiverted : .divert ∉ first ++ second) (unclosed : .closeQueue ∉ first ++ second) :
    CarriedOut (empty policy cacheSize) serial observation (first ++ second) later ∧
      (later.worker ≠ .absent → ∀ surroundings, ∃ enough, ∀ duration ≥ enough, ∃ third,
        later.run? third = some ((later.settle surroundings).advance surroundings duration) ∧
        ((later.settle surroundings).advance surroundings duration).observation? serial = none ∧
        CarriedOut (empty policy cacheSize) serial observation (first ++ (second ++ third))
          ((later.settle surroundings).advance surroundings duration)) := by
  refine ⟨carriedOut runs observed goesOn undiverted unclosed, fun hired surroundings => ?_⟩
  have served : later.Served := by
    refine (served_empty policy cacheSize).run undiverted unclosed ?_
    rw [run?_append, runs]
    exact goesOn
  obtain ⟨enough, ends⟩ := served.exists_advance hired surroundings
  refine ⟨enough, fun duration long => ?_⟩
  obtain ⟨settling, settles, still⟩ := (settles_settle surroundings later).exists_run
  obtain ⟨passing, passes, stillPassing⟩ := exists_run_advance (later.settle surroundings) surroundings duration
  have undisturbed := (still.append stillPassing).undiverted
  have runsOn : later.run? (settling ++ passing) = some ((later.settle surroundings).advance surroundings duration) := by
    rw [run?_append, settles]
    exact passes
  refine ⟨settling ++ passing, runsOn, ?_, carriedOut runs observed ?_ ?_ ?_⟩
  · simp [observation?, ends duration long]
  · rw [run?_append, goesOn]
    exact runsOn
  · rw [← List.append_assoc]
    exact fun member => (List.mem_append.mp member).elim undiverted undisturbed.1
  · rw [← List.append_assoc]
    exact fun member => (List.mem_append.mp member).elim unclosed undisturbed.2

private theorem valid_mill : ContainerId.Valid "mill" := by decide

private theorem valid_weir : ContainerId.Valid "weir" := by decide

private def millAndWeir : List Action :=
  [.request ⟨⟨"mill", valid_mill⟩, "mill", ⟨"default", "mill-0"⟩, none, "mill:1", "", []⟩,
    .enroll 0 ⟨"default", "Pod", "mill-0", "mill:1"⟩,
    .request ⟨⟨"weir", valid_weir⟩, "weir", ⟨"default", "weir-0"⟩, none, "weir:1", "", []⟩,
    .enroll 0 ⟨"default", "Pod", "weir-0", "weir:1"⟩]

private def untilReport (serial : Nat) : List Action :=
  [.aggregate serial .subscribe, .aggregate serial .replay, .expire serial, .aggregate serial .heed,
    .aggregate serial .drain, .aggregate serial .leave, .report serial]

/-- Both profiles are stored, one in vain, and then the vulnerabilities of the first image turn out to be unknown. -/
private def storedInVain : List Action :=
  [.elapse 5, .hire, .sbomReady 0 (.error "no manifest")] ++ untilReport 0 ++ untilReport 1 ++
    [.send 1, .send 0, .send 0, .send 1, .take, .prepare, .stored (.ok ()), .take, .prepare, .stored (.error "full"),
      .take, .prepare]

/-- Both tasks of an observation fail, the first one at the store and the second one for want of a list of packages. -/
theorem carriedOut_of_storedInVain :
    let initial := empty ⟨5, ⟨true, true⟩, 1⟩ 1
    ∃ monitor observation later, initial.run? millAndWeir = some monitor ∧
      monitor.observation? 0 = some observation ∧ monitor.run? storedInVain = some later ∧
      .stoppedByTimer ∈ later.phases 0 ∧ later.observation? 0 = none ∧
      (later.desk 0).records = [Books.recordOf observation (.completed 2)] ∧
      (initial.done (millAndWeir ++ storedInVain)).map (·.container.text) = ["weir", "mill", "mill"] ∧
      later.worker ≠ .absent ∧ CarriedOut initial 0 observation (millAndWeir ++ storedInVain) later := by
  let initial := empty ⟨5, ⟨true, true⟩, 1⟩ 1
  let monitor := initial.reached millAndWeir
  let later := monitor.reached storedInVain
  have facts : (initial.run? millAndWeir).isSome = true ∧ (monitor.observation? 0).isSome = true ∧
      (monitor.run? storedInVain).isSome = true ∧ .stoppedByTimer ∈ later.phases 0 ∧
      (later.observation? 0).isNone = true ∧
      (later.desk 0).records = (monitor.observation? 0).toList.map (Books.recordOf · (.completed 2)) ∧
      (initial.done (millAndWeir ++ storedInVain)).map (·.container.text) = ["weir", "mill", "mill"] ∧
      later.worker = .idle := by
    decide +kernel
  obtain ⟨runs, observed, goesOn, timer, gone, records, inOrder, idle⟩ := facts
  have runs := run?_eq_some_reached runs
  have goesOn := run?_eq_some_reached goesOn
  obtain ⟨observation, observed⟩ := Option.isSome_iff_exists.mp observed
  rw [observed] at records
  exact ⟨monitor, observation, later, runs, observed, goesOn, timer, Option.isNone_iff_eq_none.mp gone, records, inOrder,
    idle ▸ nofun, (carriedOut_of_run runs observed goesOn (by simp [millAndWeir, storedInVain, untilReport])
      (by simp [millAndWeir, storedInVain, untilReport])).1⟩

end Observatory.Monitor
