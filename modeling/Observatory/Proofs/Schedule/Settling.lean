import Observatory.Proofs.Schedule.Effort

/-! # Settling

A schedule bounds how many actions a turn may take, and how many rounds there may be. Main statement: the
bounds are never reached. What a schedule picks can be done, so each turn goes on until it is over, and a monitor
settles until it is quiet.
-/

namespace Observatory

open Aggregation

namespace Monitor

variable {monitor next : Monitor} {action : Action} {observation : Observation} {serial : Nat}
  {surroundings : Surroundings} {turn : Turn}

/-! ## What is picked is possible -/

private theorem moves_of_move? {move : Move} (picked : monitor.move? observation = some move) :
    ∃ aggregator acc, moveAggregator? move observation monitor.accumulator = some (aggregator, acc) := by
  unfold move? at picked
  cases standing : observation.aggregator with
  | created =>
    obtain rfl : Move.subscribe = move := by simpa [standing] using picked
    exact ⟨_, _, by simp only [moveAggregator?, standing]; rfl⟩
  | subscribed subscription =>
    obtain rfl : Move.replay = move := by simpa [standing] using picked
    exact ⟨_, _, by simp only [moveAggregator?, standing]; rfl⟩
  | listening subscription progress =>
    simp only [standing] at picked
    split_ifs at picked with stopped quiet
    · obtain rfl := Option.some.inj picked
      exact ⟨_, _, by simp only [moveAggregator?, standing, stopped]; rfl⟩
    · obtain rfl := Option.some.inj picked
      -- something is in the inbox, or the registration is gone
      simp only [moveAggregator?, standing, Aggregator.receive?]
      split
      · exact ⟨_, _, rfl⟩
      · exact ⟨_, _, rfl⟩
      · exact ⟨_, _, rfl⟩
      · rename_i received
        exact absurd (congrArg Prod.fst received) quiet
  | draining subscription progress =>
    obtain rfl : Move.drain = move := by simpa [standing] using picked
    simp only [moveAggregator?, standing, Aggregator.drain?]
    split <;> exact ⟨_, _, rfl⟩
  | leaving subscription outcome =>
    obtain rfl : Move.leave = move := by simpa [standing] using picked
    exact ⟨_, _, by simp only [moveAggregator?, standing]; rfl⟩
  | ended outcome => simp [standing] at picked

private theorem possible_of_observationAction? (separate : monitor.Separate) (member : observation ∈ monitor.active)
    (picked : monitor.observationAction? observation = some action) : (monitor.step? action).isSome = true := by
  have found := separate.observation?_eq_some_iff.mpr ⟨member, rfl⟩
  unfold observationAction? at picked
  split at picked
  · rename_i due
    obtain rfl := Option.some.inj picked
    simpa [step?, expire?, found] using due
  · rename_i early
    split at picked
    · rename_i move moves
      obtain rfl := Option.some.inj picked
      obtain ⟨aggregator, acc, moves⟩ := moves_of_move? moves
      simp [step?, aggregate?, found, moves]
    · split_ifs at picked with waits watching ready
      all_goals
        obtain rfl := Option.some.inj picked
        obtain ⟨outcome, ended⟩ : ∃ outcome, observation.aggregator.outcome? = some outcome :=
          Option.ne_none_iff_exists'.mp (by simpa using waits)
      · have early : monitor.now < observation.deadline := by simpa [watching] using early
        simp [step?, abort?, found, ended, watching, early]
      · simp only [Bool.and_eq_true] at ready
        simp only [step?, report?, found, ended, ready.1, ready.2, Option.bind_eq_bind, Option.bind_some, Bool.and_self,
          ↓reduceIte]
        split <;> rfl

private theorem possible_of_inquiryAnswer {inquiry : Inquiry} (member : inquiry ∈ monitor.inquiries) :
    (monitor.step? (surroundings.inquiryAnswer inquiry)).isSome = true := by
  have found : (monitor.inquiries.find? fun other =>
      decide (other.serial = inquiry.serial) && decide (other.scan = inquiry.scan)).isSome = true :=
    List.find?_isSome.mpr ⟨inquiry, member, by simp⟩
  obtain ⟨other, found⟩ := Option.isSome_iff_exists.mp found
  unfold Surroundings.inquiryAnswer
  split
  all_goals
    rename_i scan
    rw [scan] at found
  · simp [step?, sbomReady?, answer?, found]
  · simp [step?, vulnerabilitiesReady?, answer?, found]

private theorem possible_of_workerAction? (kept : monitor.Kept)
    (picked : monitor.workerAction? surroundings = some action) : (monitor.step? action).isSome = true := by
  unfold workerAction? at picked
  cases worker : monitor.worker with
  | absent => simp [worker] at picked
  | idle =>
    simp only [worker] at picked
    split_ifs at picked with nothing
    obtain rfl := Option.some.inj picked
    obtain ⟨⟨task, queue⟩, taken⟩ : ∃ taken, monitor.queue.take? = some taken := by
      unfold TaskQueue.take?
      split
      · rename_i none
        simp [none] at nothing
      · split <;> exact ⟨_, rfl⟩
    simp only [step?, take?, worker, taken, Option.bind_eq_bind, Option.bind_some, ↓reduceIte]
    split <;> rfl
  | preparing serial task =>
    simp only [worker] at picked
    split at picked
    · rename_i result derives
      obtain rfl := Option.some.inj picked
      obtain ⟨observation, found, derives⟩ := Option.bind_eq_some_iff.mp derives
      simp only [step?, prepare?, worker, found, derives, Option.bind_eq_bind, Option.bind_some]
      split <;> rfl
    · contradiction
  | storing serial task artifact since =>
    simp only [worker] at picked
    split_ifs at picked with due
    obtain rfl := Option.some.inj picked
    have working : monitor.books.working = some (serial, task) := by simp [books, worker, Worker.task?]
    obtain ⟨owner, member, numbered, -⟩ := kept.accounted.worked serial task working
    have found := kept.observation?_eq_some_iff.mpr ⟨member, numbered⟩
    simp only [step?, stored?, worker, found, Option.bind_eq_bind, Option.bind_some]
    split <;> rfl

/-- What a schedule picks can be done. -/
theorem Kept.possible (kept : monitor.Kept) (picked : monitor.next? surroundings turn = some action) :
    (monitor.step? action).isSome = true := by
  cases turn with
  | arrivals =>
    simp only [next?] at picked
    split at picked
    · rename_i inquiry due
      obtain rfl := Option.some.inj picked
      exact possible_of_inquiryAnswer (List.mem_of_find?_eq_some due)
    · obtain ⟨observation, member, picked⟩ := List.exists_of_findSome?_eq_some picked
      exact possible_of_observationAction? kept.toSeparate member picked
  | worker => exact possible_of_workerAction? kept picked
  | sender serial =>
    simp only [next?] at picked
    split at picked
    · rename_i observation found
      obtain ⟨able, sent⟩ := Option.ite_none_right_eq_some.mp picked
      obtain rfl := Option.some.inj sent
      obtain ⟨member, rfl⟩ := mem_active_of_observation? found
      simp only [canSend, kept.isOpen, Bool.and_eq_true, Bool.true_and, Bool.not_eq_true', List.isEmpty_eq_false_iff]
        at able
      obtain ⟨service, rest, announced⟩ := List.exists_cons_of_ne_nil able.1
      simp [step?, send?, found, announced, kept.isOpen, able.2]
    · contradiction

/-! ## Turns -/

theorem Settles.kept (settles : monitor.Settles next) (kept : monitor.Kept) : next.Kept := by
  induction settles with
  | refl => exact kept
  | tail _ step ih =>
    obtain ⟨action, scheduled, stepped⟩ := step
    refine ih.step stepped ?_ ?_ <;> (rintro rfl; contradiction)

/-- A monitor that goes on by itself stays as it is, or less is left to do. -/
theorem Settles.eq_or_effort_lt (settles : monitor.Settles next) (kept : monitor.Kept) :
    next = monitor ∨ next.effort < monitor.effort := by
  induction settles with
  | refl => exact .inl rfl
  | tail steps step ih =>
    obtain ⟨action, scheduled, stepped⟩ := step
    have less := (Settles.kept steps kept).effort_lt scheduled stepped
    rcases ih with rfl | earlier
    · exact .inr less
    · exact .inr (Nat.lt_trans less earlier)

theorem Kept.next?_turnFor (kept : monitor.Kept) {fuel : Nat} (enough : monitor.effort < fuel) :
    (turnFor surroundings turn fuel monitor).next? surroundings turn = none := by
  induction fuel generalizing monitor with
  | zero => omega
  | succ fuel ih =>
    unfold turnFor
    cases picked : monitor.next? surroundings turn with
    | none => exact picked
    | some action =>
      obtain ⟨next, stepped⟩ := Option.isSome_iff_exists.mp (kept.possible picked)
      have scheduled := isScheduled_of_next? picked
      have less := kept.effort_lt scheduled stepped
      have keptNext := Settles.kept (.single ⟨action, scheduled, stepped⟩) kept
      simp only [Option.bind_some, stepped]
      exact ih keptNext (by omega)

/-- A turn goes on until it is over. -/
theorem Kept.exhausted (kept : monitor.Kept) (surroundings : Surroundings) (turn : Turn) :
    (turnFor surroundings turn monitor.work monitor).next? surroundings turn = none :=
  kept.next?_turnFor kept.effort_lt_work

theorem settles_round (surroundings : Surroundings) (monitor : Monitor) :
    monitor.Settles (monitor.round surroundings) :=
  (settles_takeTurns surroundings [.arrivals, .worker] monitor).trans (settles_takeTurns surroundings _ _)

/-- Turns that change nothing are over before they begin. -/
theorem Kept.next?_of_takeTurns (kept : monitor.Kept) {turns : List Turn}
    (same : (monitor.takeTurns surroundings turns).effort = monitor.effort) :
    ∀ turn ∈ turns, monitor.next? surroundings turn = none := by
  induction turns generalizing monitor with
  | nil => exact nofun
  | cons turn rest ih =>
    have first := settles_turnFor surroundings turn monitor.work monitor
    have others := settles_takeTurns surroundings rest (turnFor surroundings turn monitor.work monitor)
    have taken : monitor.takeTurns surroundings (turn :: rest) =
        (turnFor surroundings turn monitor.work monitor).takeTurns surroundings rest := rfl
    rw [taken] at same
    have unmoved : turnFor surroundings turn monitor.work monitor = monitor := by
      rcases first.eq_or_effort_lt kept with unmoved | less
      · exact unmoved
      · rcases others.eq_or_effort_lt (first.kept kept) with unmoved | lessStill
        · rw [unmoved] at same
          omega
        · omega
    rw [unmoved] at same
    intro other member
    rcases List.mem_cons.mp member with rfl | later
    · have exhausted := kept.exhausted surroundings other
      rwa [unmoved] at exhausted
    · exact ih kept same other later

theorem Separate.mem_senders (separate : monitor.Separate) (member : serial ∈ monitor.senders) :
    ∃ observation, monitor.observation? serial = some observation ∧ monitor.canSend observation = true := by
  have able : serial ∈ (monitor.active.filter monitor.canSend).map (·.serial) := by
    simp only [senders, List.mem_append, List.mem_filter, decide_eq_true_eq] at member
    rcases member with granted | fresh
    · exact granted.2
    · exact fresh.1
  obtain ⟨observation, found, rfl⟩ := List.mem_map.mp able
  obtain ⟨running, can⟩ := List.mem_filter.mp found
  exact ⟨observation, separate.observation?_eq_some_iff.mpr ⟨running, rfl⟩, can⟩

theorem mem_senders_of_canSend (member : observation ∈ monitor.active) (able : monitor.canSend observation = true) :
    observation.serial ∈ monitor.senders := by
  have listed : observation.serial ∈ (monitor.active.filter monitor.canSend).map (·.serial) :=
    List.mem_map_of_mem (List.mem_filter.mpr ⟨member, able⟩)
  simp only [senders, List.mem_append, List.mem_filter, decide_eq_true_eq]
  by_cases granted : observation.serial ∈ monitor.queue.granted
  · exact .inl ⟨granted, listed⟩
  · exact .inr ⟨listed, granted⟩

/-- In a round something is done, unless the monitor is quiet. -/
theorem Kept.effort_round_lt (kept : monitor.Kept) (busy : monitor.isQuiet surroundings = false) :
    (monitor.round surroundings).effort < monitor.effort := by
  let middle := monitor.takeTurns surroundings [.arrivals, .worker]
  have first : monitor.Settles middle := settles_takeTurns surroundings _ monitor
  have second : middle.Settles (monitor.round surroundings) := settles_takeTurns surroundings _ middle
  rcases first.eq_or_effort_lt kept with unmoved | less
  · rcases second.eq_or_effort_lt (first.kept kept) with unmovedAgain | less
    · -- nobody had anything to do
      have idle := kept.next?_of_takeTurns (congrArg effort unmoved)
      have silent : monitor.senders = [] := by
        refine List.eq_nil_iff_forall_not_mem.mpr fun serial member => ?_
        obtain ⟨observation, found, able⟩ := kept.mem_senders member
        have turns : (monitor.takeTurns surroundings (monitor.senders.map .sender)).effort = monitor.effort := by
          have same : monitor.round surroundings = middle.takeTurns surroundings (middle.senders.map .sender) := rfl
          rw [unmovedAgain, unmoved] at same
          rw [← same]
        have exhausted := kept.next?_of_takeTurns turns (.sender serial) (List.mem_map_of_mem member)
        simp [next?, found, able] at exhausted
      have quiet : monitor.isQuiet surroundings = true := by
        simp [isQuiet, silent, idle .arrivals (by simp), idle .worker (by simp)]
      rw [quiet] at busy
      contradiction
    · rwa [unmoved] at less
  · rcases second.eq_or_effort_lt (first.kept kept) with unmoved | lessStill
    · rwa [unmoved]
    · omega

/-- A monitor settles until it is quiet. -/
theorem Kept.isQuiet_settle (kept : monitor.Kept) (surroundings : Surroundings) :
    (monitor.settle surroundings).isQuiet surroundings = true := by
  have quiet {fuel : Nat} (enough : monitor.effort < fuel) :
      (settleFor surroundings fuel monitor).isQuiet surroundings = true := by
    induction fuel generalizing monitor with
    | zero => omega
    | succ fuel ih =>
      unfold settleFor
      split
      · assumption
      · rename_i busy
        have less := kept.effort_round_lt (by simpa using busy)
        exact ih ((settles_round surroundings monitor).kept kept) (by omega)
  exact quiet kept.effort_lt_work

end Monitor

end Observatory
