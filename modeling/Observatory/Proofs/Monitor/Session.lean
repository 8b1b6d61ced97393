import Observatory.Proofs.Monitor.Sound
import Mathlib.Data.List.Induction

/-! # One observation through a run

A run is followed from the point of view of one observation. What its aggregator does is decided by its
own moves, and its inbox grows by what is announced to its container, whatever the other observations
do meanwhile.
-/

namespace Observatory.Monitor

open Accumulator Aggregation Trace

variable {monitor next : Monitor} {action : Action} {actions : List Action} {serial : Nat}
  {observation before after : Observation} {subscription : Subscription}

/-! ## Following an observation -/

theorem observation?_replace {old new : Observation} (found : monitor.observation? serial = some old)
    (numbered : new.serial = serial) : (monitor.replace new).observation? serial = some new := by
  subst numbered
  simp only [observation?] at found
  simp only [observation?, replace, find?_map_replace, found, Option.map_some, ↓reduceIte]

/-- A move of its own changes the aggregator of an observation and nothing else of it. -/
theorem moved_of_aggregate {move : Move} (stepped : monitor.step? (.aggregate serial move) = some next) :
    ∃ before aggregator, monitor.observation? serial = some before ∧
      next.observation? serial = some { before with aggregator := aggregator } ∧
      Moved before.container before.isStopped monitor.accumulator move before.aggregator aggregator
        next.accumulator := by
  obtain ⟨before, aggregator, acc, found, moved, rfl⟩ := aggregate?_spec stepped
  have numbered : before.serial = serial := by simpa using List.find?_some found
  have same : { monitor with accumulator := acc }.observation? serial = some before := found
  exact ⟨before, aggregator, found, observation?_replace same numbered, moved⟩

/-- A step through which an observation goes on. -/
structure Continues (serial : Nat) (monitor : Monitor) (action : Action) (next : Monitor)
    (before after : Observation) : Prop where
  separate : monitor.Separate
  stepped : monitor.step? action = some next
  found : monitor.observation? serial = some before
  foundNext : next.observation? serial = some after

theorem Continues.serial_eq (continues : Continues serial monitor action next before after) : before.serial = serial :=
  (continues.separate.observation?_eq_some_iff.mp continues.found).2

theorem Continues.eq_or_revised (continues : Continues serial monitor action next before after) :
    after = before ∨ Revised monitor.accumulator next.accumulator action before after := by
  have separate := continues.separate
  obtain ⟨member, numbered⟩ := separate.observation?_eq_some_iff.mp continues.found
  obtain ⟨memberNext, numberedNext⟩ := (separate.step continues.stepped).observation?_eq_some_iff.mp continues.foundNext
  rcases mem_active_step continues.stepped memberNext with
    ⟨start, identity, -, -, rfl⟩ | earlier | ⟨old, earlier, revised⟩
  · -- a new observation has a number of its own
    have older := (separate.fits before member).serial
    exact absurd (numbered.trans numberedNext.symm) (Nat.ne_of_lt older)
  · exact .inl (separate.eq_of_serial earlier member (numberedNext.trans numbered.symm))
  · obtain rfl := separate.eq_of_serial earlier member
      (revised.serial.symm.trans (numberedNext.trans numbered.symm))
    exact .inr revised

theorem Continues.start_eq (continues : Continues serial monitor action next before after) :
    after.start = before.start ∧ after.identity = before.identity := by
  rcases continues.eq_or_revised with rfl | revised
  · exact ⟨rfl, rfl⟩
  · exact ⟨revised.start, revised.identity⟩

/-- Where an observation that runs after a step comes from. A new one has done nothing and knows nothing. -/
theorem Separate.begun_or_continues (separate : monitor.Separate) (stepped : monitor.step? action = some next)
    (member : after ∈ next.active) :
    (after.aggregator = .created ∧ after.findings = .none) ∨
      ∃ before ∈ monitor.active, before.serial = after.serial ∧
        Continues after.serial monitor action next before after := by
  have foundNext := (separate.step stepped).observation?_eq_some_iff.mpr ⟨member, rfl⟩
  rcases mem_active_step stepped member with ⟨start, identity, -, -, rfl⟩ | earlier | ⟨old, earlier, revised⟩
  · exact .inl ⟨rfl, rfl⟩
  · have found := separate.observation?_eq_some_iff.mpr ⟨earlier, rfl⟩
    exact .inr ⟨after, earlier, rfl, separate, stepped, found, foundNext⟩
  · have found := separate.observation?_eq_some_iff.mpr ⟨earlier, revised.serial.symm⟩
    exact .inr ⟨old, earlier, revised.serial.symm, separate, stepped, found, foundNext⟩

/-- An observation that an action changes goes on changed. -/
private theorem Continues.eq_of_change {base : Monitor} {f : Observation → Observation}
    (continues : Continues serial monitor action (base.change serial f) before after)
    (active : base.active = monitor.active) (numbered : (f before).serial = before.serial) : after = f before := by
  have found : base.observation? serial = some before := by
    rw [observation?, active]
    exact continues.found
  have changed : (base.change serial f).observation? serial = some (f before) := by
    simp only [change, found]
    exact observation?_replace found (numbered.trans continues.serial_eq)
  exact Option.some.inj (continues.foundNext.symm.trans changed)

/-- An observation that reports goes on with its result, as without services it would have ended. -/
private theorem Continues.findings_eq_of_report
    (continues : Continues serial monitor (.report serial) next before after) :
    after.findings = before.findings.or (before.finding (.report serial)) := by
  obtain ⟨observation, outcome, notice, reported, found, ended, -, unreported, -, same, ⟨-, rfl⟩ | ⟨-, rfl⟩⟩ :=
    report?_spec continues.stepped
  all_goals
    obtain rfl : before = observation := Option.some.inj (continues.found.symm.trans found)
    have numbered := continues.serial_eq
    have kept : reported.serial = serial := by rw [same, numbered]
  · obtain ⟨listed, own⟩ := mem_active_of_observation? continues.foundNext
    exact absurd (own.trans kept.symm) (by simpa using List.of_mem_filter listed)
  · have replaced : (monitor.replace reported).observation? serial = some reported := observation?_replace found kept
    obtain rfl : reported = after := Option.some.inj (replaced.symm.trans continues.foundNext)
    simp [same, Observation.findings, Observation.finding, Findings.or, Completion.complete, numbered, ended, unreported]

/-- An action that brings nothing leaves the results as they are. -/
private theorem Continues.findings_eq_of_none (continues : Continues serial monitor action next before after)
    (nothing : before.finding action = .none) : after.findings = before.findings.or (before.finding action) := by
  rcases continues.eq_or_revised with rfl | revised
  · rw [nothing, Findings.or_none]
  · exact revised.findings

/-- An observation has the results that it had before, and those that the action brings. -/
theorem Continues.findings_eq (continues : Continues serial monitor action next before after) :
    after.findings = before.findings.or (before.finding action) := by
  have numbered := continues.serial_eq
  cases action with
  | sbomReady number result =>
    by_cases own : number = serial
    · subst own
      obtain ⟨inquiry, entries, -, -, rfl⟩ := sbomReady?_spec continues.stepped
      have changed := continues.eq_of_change rfl rfl
      simp [changed, Observation.findings, Observation.finding, Findings.or, Completion.complete, numbered]
    · exact continues.findings_eq_of_none (by simp [Observation.finding, numbered, own])
  | vulnerabilitiesReady number result =>
    by_cases own : number = serial
    · subst own
      obtain ⟨inquiry, entries, -, -, rfl⟩ := vulnerabilitiesReady?_spec continues.stepped
      have changed := continues.eq_of_change rfl rfl
      simp [changed, Observation.findings, Observation.finding, Findings.or, Completion.complete, numbered]
    · exact continues.findings_eq_of_none (by simp [Observation.finding, numbered, own])
  | report number =>
    by_cases own : number = serial
    · subst own
      exact continues.findings_eq_of_report
    · exact continues.findings_eq_of_none (by simp [Observation.finding, numbered, own])
  | ingest | exclude | intrude | elapse | request | enroll | aggregate | expire | abort | send | hire | take | prepare
  | stored | divert | closeQueue | forgetPod | retainPods => exact continues.findings_eq_of_none rfl

/-- The aggregator makes the move, if it is its own, and otherwise stays where it is. -/
theorem Continues.moved_or_unmoved (continues : Continues serial monitor action next before after) :
    (∃ move, action = .aggregate serial move ∧ Moved before.container before.isStopped monitor.accumulator move
        before.aggregator after.aggregator next.accumulator) ∨
      (∀ move, action ≠ .aggregate serial move) ∧ after.aggregator = before.aggregator := by
  by_cases own : ∃ move, action = .aggregate serial move
  · obtain ⟨move, rfl⟩ := own
    obtain ⟨_, aggregator, found, foundNext, moved⟩ := moved_of_aggregate continues.stepped
    obtain rfl := Option.some.inj (continues.found.symm.trans found)
    obtain rfl := Option.some.inj (foundNext.symm.trans continues.foundNext)
    exact .inl ⟨move, rfl, moved⟩
  · have foreign : ∀ move, action ≠ .aggregate serial move := fun move same => own ⟨move, same⟩
    refine .inr ⟨foreign, ?_⟩
    rcases continues.eq_or_revised with rfl | revised
    · rfl
    · rcases revised.aggregator with ⟨move, same, -⟩ | unmoved
      · exact absurd (continues.serial_eq ▸ same) (foreign move)
      · exact unmoved

/-- A step through which an observation goes on, when the ring is in order. -/
structure Passes (serial : Nat) (monitor : Monitor) (action : Action) (next : Monitor)
    (before after : Observation) : Prop extends Continues serial monitor action next before after where
  sound : monitor.Sound

/-- The moves of one observation are foreign to the listener of another. -/
theorem isForeign_of_mem_operationsOf {other : Observation} (apart : observation.Apart other)
    (subscribed : observation.aggregator.subscription? = some subscription)
    (container : subscription.container = observation.container) {move : Move} {operation : Operation}
    (made : operation ∈ operationsOf other.container move other.aggregator) :
    operation.IsForeign subscription := by
  have token := apart.token subscription subscribed
  generalize other.aggregator = aggregator at made token
  cases move <;> cases aggregator <;> simp only [operationsOf, List.not_mem_nil, List.mem_cons, or_false] at made
  · subst made
    exact fun same => apart.container (container ▸ same.symm)
  · subst made
    exact (token _ rfl).symm
  · subst made
    exact (token _ rfl).symm
  · rcases made with rfl | rfl <;> exact (token _ rfl).symm

/-- What other observations do leaves the inbox of this one alone. -/
theorem Continues.untouched (continues : Continues serial monitor action next before after)
    (subscribed : before.aggregator.subscription? = some subscription)
    (foreign : ∀ move, action ≠ .aggregate serial move) :
    .receive subscription.token ∉ monitor.operations action ∧ .drop subscription.token ∉ monitor.operations action := by
  have separate := continues.separate
  cases action with
  | aggregate number move =>
    simp only [operations]
    cases mover : monitor.observation? number with
    | none => exact ⟨List.not_mem_nil, List.not_mem_nil⟩
    | some observation =>
      obtain ⟨member, numbered⟩ := separate.observation?_eq_some_iff.mp continues.found
      obtain ⟨memberOther, numberedOther⟩ := separate.observation?_eq_some_iff.mp mover
      have apart : before.Apart observation := separate.apart_of_ne member memberOther fun same =>
        foreign move (by rw [← numberedOther, ← same, numbered])
      have container := ((separate.fits before member).subscribed subscription subscribed).1
      constructor <;> intro made <;>
        exact absurd rfl (isForeign_of_mem_operationsOf apart subscribed container made)
  | ingest | exclude | intrude | elapse | request | enroll | sbomReady | vulnerabilitiesReady | expire | abort | report
  | send | hire | take | prepare | stored | divert | closeQueue | forgetPod | retainPods => simp [operations]

/-! ## What is announced -/

/-- What an action announces to a container. -/
def announcedBy (monitor : Monitor) (container : ContainerId) : Action → List Message
  | .ingest line => monitor.accumulator.announced container (.ingest line)
  | _ => []

/-- The observation still adds to its report. -/
def isAggregating (monitor : Monitor) (serial : Nat) : Bool :=
  (monitor.observation? serial).any (·.aggregator.isRunning)

theorem Passes.isAggregating (passes : Passes serial monitor action next before after) :
    next.isAggregating serial = after.aggregator.isRunning := by
  simp [Monitor.isAggregating, passes.foundNext]

/-- What is announced to a container as long as an observation adds to its report. -/
def announcedWhile (serial : Nat) (container : ContainerId) : Monitor → List Action → List Message
  | _, [] => []
  | monitor, action :: rest =>
      match monitor.step? action with
      | none => []
      | some next =>
          (if next.isAggregating serial then monitor.announcedBy container action else []) ++
            next.announcedWhile serial container rest

theorem announcedWhile_append {container : ContainerId} {first : List Action} (second : List Action)
    (runs : monitor.run? first = some next) :
    monitor.announcedWhile serial container (first ++ second) =
      monitor.announcedWhile serial container first ++ next.announcedWhile serial container second := by
  induction first generalizing monitor with
  | nil =>
    obtain rfl := Option.some.inj runs
    rfl
  | cons action rest ih =>
    obtain ⟨middle, stepped, runs⟩ := Option.bind_eq_some_iff.mp runs
    simp only [List.cons_append, announcedWhile, stepped, ih runs, List.append_assoc]

theorem container_of_mem_announcedWhile {container : ContainerId} {event : Event}
    (announced : .event event ∈ monitor.announcedWhile serial container actions) :
    event.container = container := by
  induction actions generalizing monitor with
  | nil => simp [announcedWhile] at announced
  | cons action rest ih =>
    unfold announcedWhile at announced
    split at announced
    · simp at announced
    · rcases List.mem_append.mp announced with now | later
      · split at now
        · cases action <;> simp only [announcedBy, List.not_mem_nil] at now
          exact container_of_mem_announced now
        · simp at now
      · exact ih later

/-- Whatever else happens, a listener goes on hearing, and is given what is announced to its container. -/
theorem Passes.hears (passes : Passes serial monitor action next before after)
    (subscribed : before.aggregator.subscription? = some subscription)
    (hears : Hears monitor.accumulator.live subscription) (foreign : ∀ move, action ≠ .aggregate serial move)
    (alone : action ≠ .intrude before.container) :
    Hears next.accumulator.live subscription ∧ next.accumulator.live.inbox subscription.token =
      monitor.accumulator.live.inbox subscription.token ++ monitor.announcedBy before.container action := by
  have sound := passes.sound
  have member := (sound.observation?_eq_some_iff.mp passes.found).1
  have container := ((sound.fits before member).subscribed subscription subscribed).1
  rw [accumulator_step passes.stepped]
  have silent : Hears (monitor.accumulator.run []).live subscription ∧
      (monitor.accumulator.run []).live.inbox subscription.token =
        monitor.accumulator.live.inbox subscription.token ++ [] :=
    ⟨hears, (List.append_nil _).symm⟩
  cases action with
  | ingest line => exact container ▸ hears.ingest sound.accumulator line
  | exclude other =>
    have lasts : (Operation.exclude other).ends subscription = false := rfl
    exact hears.apply sound.accumulator lasts (by simp)
  | intrude other =>
    have differs : other ≠ subscription.container := fun same => alone (by rw [same, container])
    have lasts : (Operation.register other).ends subscription = false := decide_eq_false differs
    exact hears.apply sound.accumulator lasts (by simp)
  | aggregate number move =>
    have other : number ≠ serial := fun same => foreign move (by rw [same])
    simp only [operations, announcedBy, List.append_nil]
    cases mover : monitor.observation? number with
    | none => exact ⟨hears, rfl⟩
    | some observation =>
      obtain ⟨memberOther, numbered⟩ := sound.observation?_eq_some_iff.mp mover
      have apart : before.Apart observation := sound.apart_of_ne member memberOther fun same =>
        other (numbered.symm.trans (same ▸ passes.serial_eq))
      exact hears.run_foreign sound.accumulator fun operation made =>
        isForeign_of_mem_operationsOf apart subscribed container made
  | elapse | request | enroll | sbomReady | vulnerabilitiesReady | expire | abort | report | send | hire | take
  | prepare | stored | divert | closeQueue | forgetPod | retainPods => exact silent

/-! ## Runs -/

/-- A number that has been given to an observation is not given to a later one. -/
theorem Separate.observed_before_step (separate : monitor.Separate) (stepped : monitor.step? action = some next)
    (issued : serial < monitor.nextSerial) (foundNext : next.observation? serial = some after) :
    ∃ before, monitor.observation? serial = some before := by
  obtain ⟨memberNext, numbered⟩ := (separate.step stepped).observation?_eq_some_iff.mp foundNext
  rcases mem_active_step stepped memberNext with ⟨start, identity, -, -, rfl⟩ | earlier | ⟨old, earlier, revised⟩
  · exact absurd numbered (Nat.ne_of_gt issued)
  · exact ⟨after, separate.observation?_eq_some_iff.mpr ⟨earlier, numbered⟩⟩
  · exact ⟨old, separate.observation?_eq_some_iff.mpr ⟨earlier, revised.serial.symm.trans numbered⟩⟩

theorem Separate.observed_before (separate : monitor.Separate) (runs : monitor.run? actions = some next)
    (issued : serial < monitor.nextSerial) (foundNext : next.observation? serial = some after) :
    ∃ before, monitor.observation? serial = some before := by
  induction actions generalizing monitor with
  | nil => exact ⟨after, Option.some.inj runs ▸ foundNext⟩
  | cons action rest ih =>
    obtain ⟨middle, stepped, runs⟩ := Option.bind_eq_some_iff.mp runs
    obtain ⟨between, found⟩ :=
      ih (separate.step stepped) runs (Nat.lt_of_lt_of_le issued (nextSerial_le_step stepped))
    exact separate.observed_before_step stepped issued found

theorem run?_append (monitor : Monitor) (first second : List Action) :
    monitor.run? (first ++ second) = (monitor.run? first).bind (·.run? second) := by
  induction first generalizing monitor with
  | nil => rfl
  | cons action rest ih =>
    simp only [List.cons_append, run?, Option.bind_assoc]
    exact congrArg _ (funext ih)

/-- What holds at first, and after each action if it did before, holds after every run. -/
theorem run_induction_concat {initial : Monitor} {motive : List Action → Monitor → Prop} (first : motive [] initial)
    (step : ∀ past monitor action next, initial.run? past = some monitor → monitor.step? action = some next →
      motive past monitor → motive (past ++ [action]) next)
    (runs : initial.run? actions = some monitor) : motive actions monitor := by
  induction actions using List.reverseRecOn generalizing monitor with
  | nil => exact Option.some.inj runs ▸ first
  | append_singleton past action ih =>
    rw [run?_append] at runs
    obtain ⟨middle, before, steps⟩ := Option.bind_eq_some_iff.mp runs
    obtain ⟨next, stepped, same⟩ := Option.bind_eq_some_iff.mp steps
    exact Option.some.inj same ▸ step past middle action next before stepped (ih before)

/-- The state after a run, if the run is possible. -/
def reached (monitor : Monitor) (actions : List Action) : Monitor :=
  (monitor.run? actions).getD monitor

theorem run?_eq_some_reached (possible : (monitor.run? actions).isSome = true) :
    monitor.run? actions = some (monitor.reached actions) := by
  obtain ⟨next, runs⟩ := Option.isSome_iff_exists.mp possible
  rw [reached, runs, Option.getD_some]

/-- What each step keeps true of an aggregator and of what it is to hear, a run keeps true. Nothing is
asked of a step after lost events have been announced, or when an outsider registers for the
container. -/
theorem Sound.follow (Holds : List Message → Live → Aggregator → Prop)
    (step : ∀ {monitor next : Monitor} {action : Action} {before after : Observation} {heard : List Message},
      Passes serial monitor action next before after → action ≠ .intrude before.container → .overflow ∉ heard →
      Holds heard monitor.accumulator.live before.aggregator →
      Holds (heard ++ if next.isAggregating serial then monitor.announcedBy before.container action else [])
        next.accumulator.live after.aggregator)
    (sound : monitor.Sound) (found : monitor.observation? serial = some before) {heard : List Message}
    (holds : Holds heard monitor.accumulator.live before.aggregator)
    (alone : .intrude before.container ∉ actions)
    (complete : .overflow ∉ heard ++ monitor.announcedWhile serial before.container actions)
    (runs : monitor.run? actions = some next) (foundNext : next.observation? serial = some after) :
    after.start = before.start ∧ after.identity = before.identity ∧
      Holds (heard ++ monitor.announcedWhile serial before.container actions) next.accumulator.live
        after.aggregator := by
  induction actions generalizing monitor before heard with
  | nil =>
    obtain rfl := Option.some.inj runs
    obtain rfl := Option.some.inj (found.symm.trans foundNext)
    exact ⟨rfl, rfl, by simpa [announcedWhile] using holds⟩
  | cons action rest ih =>
    obtain ⟨middle, stepped, runs⟩ := Option.bind_eq_some_iff.mp runs
    have issued : serial < monitor.nextSerial := by
      obtain ⟨member, numbered⟩ := sound.observation?_eq_some_iff.mp found
      exact numbered ▸ (sound.fits before member).serial
    obtain ⟨between, foundBetween⟩ := (sound.step stepped).observed_before runs
      (Nat.lt_of_lt_of_le issued (nextSerial_le_step stepped)) foundNext
    have passes : Passes serial monitor action middle before between :=
      ⟨⟨sound.toSeparate, stepped, found, foundBetween⟩, sound⟩
    obtain ⟨sameStart, sameIdentity⟩ := passes.start_eq
    have container : between.container = before.container := congrArg Start.container sameStart
    rw [List.mem_cons, not_or] at alone
    simp only [announcedWhile, stepped, ← List.append_assoc] at complete ⊢
    have silent : .overflow ∉ heard := fun lost =>
      complete (List.mem_append_left _ (List.mem_append_left _ lost))
    have held := step passes (Ne.symm alone.1) silent holds
    rw [← container] at alone complete held ⊢
    obtain ⟨start, identity, kept⟩ := ih (sound.step stepped) foundBetween held alone.2 complete runs
    exact ⟨start.trans sameStart, identity.trans sameIdentity, kept⟩

end Observatory.Monitor
