import Observatory.Proofs.Monitor.Step

/-! # Sound monitors

Running observations have nothing in common: no number, no container and no listener. Main statement:
this holds in every state that a monitor can reach, so no observation can disturb the listener of
another one.
-/

namespace Observatory

open Accumulator Aggregation Trace

namespace Observation

variable {observation other old new : Observation} {nextSerial nextToken : Nat}

/-- The observations share neither their number nor their container nor their listener. -/
structure Apart (observation other : Observation) : Prop where
  serial : observation.serial ≠ other.serial
  container : observation.container ≠ other.container
  token : ∀ subscription, observation.aggregator.subscription? = some subscription →
    ∀ foreign, other.aggregator.subscription? = some foreign → subscription.token ≠ foreign.token

theorem Apart.symm (apart : observation.Apart other) : other.Apart observation where
  serial := apart.serial.symm
  container := apart.container.symm
  token subscription subscribed foreign subscribedOther :=
    (apart.token foreign subscribedOther subscription subscribed).symm

instance : Std.Symm Apart := ⟨fun _ _ => Apart.symm⟩

/-- The observation has been numbered, listens to its own container, and has no other result than that of
its aggregator. -/
structure Fits (nextSerial nextToken : Nat) (observation : Observation) : Prop where
  serial : observation.serial < nextSerial
  subscribed : ∀ subscription, observation.aggregator.subscription? = some subscription →
    subscription.container = observation.container ∧ subscription.token < nextToken
  reported : ∀ result, observation.aggregation.result = some result →
    ∃ outcome, observation.aggregator = .ended outcome ∧ result = outcome.mapError Error.message

/-- An observation goes on fitting when later numbers and tokens are given out. -/
theorem Fits.mono {laterSerial laterToken : Nat} (fits : observation.Fits nextSerial nextToken)
    (serial : nextSerial ≤ laterSerial) (token : nextToken ≤ laterToken) :
    observation.Fits laterSerial laterToken where
  serial := Nat.lt_of_lt_of_le fits.serial serial
  subscribed subscription subscribed :=
    (fits.subscribed subscription subscribed).imp_right fun issued => Nat.lt_of_lt_of_le issued token
  reported := fits.reported

end Observation

namespace Monitor

variable {monitor next : Monitor} {action : Action} {observation other old new : Observation}

/-- A move keeps the listener that the aggregator has, or makes a new one. -/
theorem Moved.subscription? {container : ContainerId} {stopped : Bool} {acc after : Accumulator} {move : Move}
    {aggregator moved : Aggregator} (moves : Moved container stopped acc move aggregator moved after)
    {subscription : Subscription} (subscribed : moved.subscription? = some subscription) :
    aggregator.subscription? = some subscription ∨
      subscription = (acc.register container).2 ∧ after = (acc.register container).1 := by
  cases moves with
  | subscribed => exact .inr ⟨(Option.some.inj subscribed).symm, rfl⟩
  | left => contradiction
  | replayed | received | overflowed | closed | heeded | drained | skipped | completed => exact .inl subscribed

/-- The running observations are apart, and so are their listeners. -/
structure Separate (monitor : Monitor) : Prop where
  live : monitor.accumulator.live.Sound
  fits : ∀ observation ∈ monitor.active,
    observation.Fits monitor.nextSerial monitor.accumulator.live.nextToken
  apart : monitor.active.Pairwise Observation.Apart

structure Sound (monitor : Monitor) : Prop extends monitor.Separate where
  accumulator : monitor.accumulator.Sound

theorem separate_empty (policy : Policy) (cacheSize : Nat) : (empty policy cacheSize).Separate where
  live := Live.sound_empty
  fits _ member := absurd member List.not_mem_nil
  apart := List.Pairwise.nil

theorem sound_empty (policy : Policy) {cacheSize : Nat} (positive : 0 < cacheSize) :
    (empty policy cacheSize).Sound :=
  ⟨separate_empty policy cacheSize, Accumulator.sound_empty positive⟩

/-- Two observations have nothing in common. -/
theorem Separate.apart_of_ne (separate : monitor.Separate) (member : observation ∈ monitor.active)
    (memberOther : other ∈ monitor.active) (differ : observation ≠ other) : observation.Apart other :=
  separate.apart.forall member memberOther differ

/-- An observation is known by its number. -/
theorem Separate.eq_of_serial (separate : monitor.Separate) (member : observation ∈ monitor.active)
    (memberOther : other ∈ monitor.active) (same : observation.serial = other.serial) : observation = other := by
  by_contra differ
  exact (separate.apart_of_ne member memberOther differ).serial same

/-! ## One step -/

private theorem fits_begun (start : Start) (identity : ResourceIdentity) (deadline serial token : Nat) :
    ({ Observation.ofStart serial start identity deadline with phase := .watching } : Observation).Fits
      (serial + 1) token where
  serial := Nat.lt_succ_self serial
  subscribed _ subscribed := nomatch subscribed
  reported _ completed := nomatch completed

theorem Revised.fits {acc after : Accumulator} {nextSerial : Nat} (revised : Revised acc after action old new)
    (fits : old.Fits nextSerial acc.live.nextToken) (later : acc.live.nextToken ≤ after.live.nextToken) :
    new.Fits nextSerial after.live.nextToken where
  serial := revised.serial ▸ fits.serial
  subscribed subscription subscribed := by
    have container : new.container = old.container := congrArg Start.container revised.start
    rw [container]
    have kept (before : old.aggregator.subscription? = some subscription) :
        subscription.container = old.container ∧ subscription.token < after.live.nextToken :=
      (fits.subscribed subscription before).imp_right fun issued => Nat.lt_of_lt_of_le issued later
    rcases revised.aggregator with ⟨move, -, moved⟩ | same
    · rcases moved.subscription? subscribed with before | ⟨rfl, rfl⟩
      · exact kept before
      · exact ⟨rfl, Nat.lt_succ_self _⟩
    · exact kept (same ▸ subscribed)
  reported result completed := by
    rcases revised.aggregation with same | ⟨outcome, ended, result'⟩
    · rw [same] at completed
      obtain ⟨outcome, ended, rfl⟩ := fits.reported result completed
      rcases revised.aggregator with ⟨move, -, moved⟩ | unmoved
      · -- an aggregator that has ended does not move
        rw [ended] at moved
        cases moved
      · exact ⟨outcome, unmoved ▸ ended, rfl⟩
    · exact ⟨outcome, ended, Option.some.inj (completed.symm.trans result')⟩

/-- What becomes of an observation has nothing in common with the others either. -/
theorem Revised.apart {acc after : Accumulator} {nextSerial : Nat} (revised : Revised acc after action old new)
    (apart : old.Apart other) (fits : other.Fits nextSerial acc.live.nextToken) : new.Apart other where
  serial := revised.serial ▸ apart.serial
  container := by
    have same : new.container = old.container := congrArg Start.container revised.start
    exact same ▸ apart.container
  token subscription subscribed foreign subscribedOther := by
    rcases revised.aggregator with ⟨move, -, moved⟩ | same
    · rcases moved.subscription? subscribed with before | ⟨rfl, -⟩
      · exact apart.token subscription before foreign subscribedOther
      · -- a new token is larger than every token in use
        have older := (fits.subscribed foreign subscribedOther).2
        exact Nat.ne_of_gt older
    · exact apart.token subscription (same ▸ subscribed) foreign subscribedOther

private theorem Separate.apart_replace (separate : monitor.Separate) (member : old ∈ monitor.active)
    {after : Accumulator} (revised : Revised monitor.accumulator after action old new) :
    (monitor.replace new).active.Pairwise Observation.Apart :=
  pairwise_map_replace separate.apart (fun apart => apart.serial) member revised.serial
    fun other memberOther apart => revised.apart apart (separate.fits other memberOther)

/-- The observations stay apart, whatever the action is. -/
theorem Separate.step (separate : monitor.Separate) (stepped : monitor.step? action = some next) :
    next.Separate := by
  have accumulator := accumulator_step stepped
  have later : monitor.accumulator.live.nextToken ≤ next.accumulator.live.nextToken :=
    accumulator ▸ nextToken_le_run separate.live _
  refine ⟨accumulator ▸ sound_live_run separate.live _, ?_, ?_⟩
  · intro observation member
    have numbers := nextSerial_le_step stepped
    rcases mem_active_step stepped member with ⟨start, identity, -, serial, rfl⟩ | before | ⟨old, before, revised⟩
    · exact serial ▸ fits_begun start identity _ _ _
    · exact (separate.fits observation before).mono numbers later
    · exact (revised.fits (separate.fits old before) later).mono numbers (Nat.le_refl _)
  · cases effect_of_step stepped with
    | kept active serial => exact active ▸ separate.apart
    | begun start identity _ unobserved active serial =>
      rw [active, List.pairwise_append]
      refine ⟨separate.apart, List.pairwise_singleton _ _, fun observation member fresh isFresh => ?_⟩
      obtain rfl := List.mem_singleton.mp isFresh
      have container : observation.container ≠ start.container := by
        simpa using List.find?_eq_none.mp unobserved observation member
      exact ⟨Nat.ne_of_lt (separate.fits observation member).serial, container, nofun⟩
    | revised old new memberOld revised active serial => exact active ▸ separate.apart_replace memberOld revised
    | ended old memberOld active serial => exact active ▸ separate.apart.filter _

theorem Sound.step (sound : monitor.Sound) (stepped : monitor.step? action = some next) : next.Sound :=
  ⟨sound.toSeparate.step stepped, accumulator_step stepped ▸ sound.accumulator.run _⟩

/-- Every run keeps the observations apart and the accumulator in order. -/
theorem Sound.run (sound : monitor.Sound) {actions : List Action} (runs : monitor.run? actions = some next) :
    next.Sound :=
  run_induction sound (fun _ _ _ _ sound stepped => sound.step stepped) runs

/-- The observation with a number is the one that runs under it. -/
theorem Separate.observation?_eq_some_iff (separate : monitor.Separate) {serial : Nat} :
    monitor.observation? serial = some observation ↔
      observation ∈ monitor.active ∧ observation.serial = serial := by
  constructor
  · intro found
    exact ⟨List.mem_of_find?_eq_some found, by simpa using List.find?_some found⟩
  · rintro ⟨member, rfl⟩
    cases found : monitor.observation? observation.serial with
    | none => exact absurd (List.find?_eq_none.mp found observation member) (by simp)
    | some other =>
      have same : other.serial = observation.serial := by simpa using List.find?_some found
      rw [separate.eq_of_serial (List.mem_of_find?_eq_some found) member same]

end Monitor

end Observatory
