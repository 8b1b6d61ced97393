import Observatory.Proofs.Finished
import Observatory.Proofs.Monitor.Answers

/-! # One start at a time

The watch has at most one start on its way, and nothing but the watch starts a container. Main statement: in
every state of a vigil, a container that is asked about or whose start is entering is not tracked, and no
container that has finished is observed again.
-/

namespace Observatory

open Cluster

/-- No two starts of the container are on their way, and none while it is tracked. -/
structure Door.Sole (isAsked : Prop) (door : Door) : Prop where
  finished : door.isFinished = true → door.isObserved = false
  waiting : 0 < door.waiting → door.isObserved = false ∧ door.isFinished = false ∧ door.waiting = 1
  asked : isAsked → door.isObserved = false ∧ door.isFinished = false ∧ door.waiting = 0

/-- Without a new start the door stays as it has to be. -/
theorem Door.Sole.passage {isAsked : Prop} {door after : Door} (sole : door.Sole isAsked)
    (passage : Monitor.Passage door after) (fewer : after.waiting ≤ door.waiting) : after.Sole isAsked := by
  cases passage with
  | aside | refused => exact ⟨sole.finished, sole.waiting, sole.asked⟩
  | entered => exact absurd fewer (Nat.not_succ_le_self _)
  | declined observed waiting => exact absurd observed (by simp [(sole.waiting waiting).1])
  | admitted unobserved waiting =>
    obtain ⟨-, unfinished, last⟩ := sole.waiting waiting
    constructor
    · exact fun finished => absurd finished (by simp [unfinished])
    · exact fun still => absurd still (by simp [last])
    · exact fun asked => absurd (sole.asked asked).2.2 (by simp [last])
  | ended observed =>
    constructor
    · exact fun _ => rfl
    · exact fun waits => absurd observed (by simp [(sole.waiting waits).1])
    · exact fun asked => absurd observed (by simp [(sole.asked asked).1])
  | forgotten =>
    constructor
    · exact fun finished => absurd finished (by simp)
    · exact fun waits => ⟨(sole.waiting waits).1, rfl, (sole.waiting waits).2.2⟩
    · exact fun asked => ⟨(sole.asked asked).1, rfl, (sole.asked asked).2.2⟩

/-- The container that was asked about is started. -/
theorem Door.Sole.start {isAsked : Prop} {door after : Door} (sole : door.Sole isAsked) (asked : isAsked)
    (passage : Monitor.Passage door after) : after.Sole False := by
  obtain ⟨unobserved, unfinished, nobody⟩ := sole.asked asked
  refine ⟨?_, ?_, False.elim⟩ <;> cases passage with
  | aside | refused | entered | forgotten => simp [unobserved, unfinished, nobody]
  | declined _ waiting | admitted _ waiting => exact absurd nobody (Nat.ne_of_gt waiting)
  | ended observed => exact absurd observed (by simp [unobserved])

namespace Vigil

variable {place : Place} {vigil next : Vigil} {happening : Happening} {event : WatchEvent} {container : ContainerId}

/-! ## Events -/

/-- The containers that an event excludes. -/
def excluded (place : Place) : WatchEvent → List RunningContainer
  | .listed pod | .applied pod => place.ownContainers pod
  | .listingBegins | .listingEnds | .deleted _ | .failed => []

/-- An event excludes the monitor's own containers and leaves the observations and their listeners alone. -/
structure Excludes (place : Place) (vigil : Vigil) (event : WatchEvent) (next : Vigil) : Prop where
  accumulator : next.monitor.accumulator = (excluded place event).foldl (·.addOwn ·.id) vigil.monitor.accumulator
  nextSerial : next.monitor.nextSerial = vigil.monitor.nextSerial

theorem excludes_step (stepped : vigil.step? place (.event event) = some next) :
    Excludes place vigil event next := by
  obtain ⟨⟨isSynced, listing⟩, pending, asking, monitor⟩ := vigil
  obtain ⟨-⟩ := goes_of_step stepped
  cases event with
  | listed pod => cases isSynced <;> exact ⟨rfl, rfl⟩
  | listingEnds => cases listing <;> exact ⟨rfl, rfl⟩
  | listingBegins | applied pod | deleted pod | failed => exact ⟨rfl, rfl⟩

theorem live_foldl_addOwn (accumulator : Accumulator) (containers : List RunningContainer) :
    (containers.foldl (·.addOwn ·.id) accumulator).live = accumulator.live := by
  induction containers generalizing accumulator with
  | nil => rfl
  | cons container rest ih => rw [List.foldl_cons, ih, Accumulator.live_addOwn]

/-! ## Starts -/

/-- The credentials of the container are being looked up. -/
def IsAsking (vigil : Vigil) (container : ContainerId) : Prop :=
  ∃ sighting ∈ vigil.asking, sighting.container.id = container

/-- No container has two starts on their way, or one while it is tracked. -/
structure Sole (vigil : Vigil) : Prop where
  separate : vigil.monitor.Separate
  door : ∀ container, (vigil.monitor.door container).Sole (vigil.IsAsking container)

theorem sole_empty (policy : Policy) (cacheSize : Nat) : (empty policy cacheSize).Sole where
  separate := Monitor.separate_empty policy cacheSize
  door container := by
    constructor
    · exact fun _ => rfl
    · exact fun waits => absurd waits (Nat.lt_irrefl 0)
    · rintro ⟨sighting, asked, -⟩
      contradiction

theorem Sole.step_event (sole : vigil.Sole) (stepped : vigil.step? place (.event event) = some next) : next.Sole := by
  have attends := attends_step stepped
  have excludes := excludes_step stepped
  have live : next.monitor.accumulator.live = vigil.monitor.accumulator.live := by
    rw [excludes.accumulator, live_foldl_addOwn]
  constructor
  · refine ⟨live ▸ sole.separate.live, ?_, attends.active ▸ sole.separate.apart⟩
    rw [attends.active, excludes.nextSerial, live]
    exact sole.separate.fits
  · intro container
    have observed : (next.monitor.door container).isObserved = (vigil.monitor.door container).isObserved := by
      simp only [Monitor.door, Monitor.observing?, attends.active]
    have nobody : (next.monitor.door container).waiting = 0 := by simp [Monitor.door, attends.entering]
    constructor
    · intro finished
      simp only [Monitor.door, attends.finished] at finished
      rw [observed]
      exact (sole.door container).finished (Table.contains_of_contains_filter finished)
    · intro waits
      omega
    · rintro ⟨sighting, asked, -⟩
      rw [attends.asking] at asked
      contradiction

/-- A monitor that has only written something down is as it was to observations and starts. -/
theorem Sole.write (sole : vigil.Sole) (entries : List Entry) :
    Sole { vigil with monitor := vigil.monitor.write entries } where
  separate := ⟨sole.separate.live, sole.separate.fits, sole.separate.apart⟩
  door container := ⟨(sole.door container).finished, (sole.door container).waiting, (sole.door container).asked⟩

/-- The start that was asked about is on its way now. -/
theorem Sole.request (sole : vigil.Sole) {sighting : Sighting} (asking : vigil.asking = some sighting)
    (credentials : List Credential) :
    let start := Monitor.startOf sighting.pod sighting.container credentials
    Sole { vigil with asking := none, monitor := vigil.monitor.request start } := by
  intro start
  have requested : vigil.monitor.step? (.request start) = some (vigil.monitor.request start) := rfl
  refine ⟨sole.separate.step requested, fun container => ?_⟩
  have passage := Monitor.passage_step sole.separate requested container
  by_cases own : start.container = container
  · have started := (sole.door container).start ⟨sighting, asking, own⟩ passage
    exact ⟨started.finished, started.waiting, fun ⟨_, asked, _⟩ => nomatch asked⟩
  · have fewer := Monitor.waiting_le_step requested fun same => own (Option.some.inj same)
    have kept := (sole.door container).passage passage fewer
    exact ⟨kept.finished, kept.waiting, fun ⟨_, asked, _⟩ => nomatch asked⟩

theorem Sole.act (sole : vigil.Sole) {action : Action} {monitor : Monitor} (unwatchful : ¬ action.isWatchful = true)
    (stepped : vigil.monitor.step? action = some monitor) : Sole { vigil with monitor := monitor } := by
  refine ⟨sole.separate.step stepped, fun container => ?_⟩
  have unrequested : action.requested? ≠ some container := by
    cases action with
    | request start => exact absurd rfl unwatchful
    | _ => exact nofun
  exact (sole.door container).passage (Monitor.passage_step sole.separate stepped container)
    (Monitor.waiting_le_step stepped unrequested)

theorem Sole.step (sole : vigil.Sole) (stepped : vigil.step? place happening = some next) : next.Sole := by
  cases goes_of_step stepped with
  | event event => exact sole.step_event stepped
  | passed => exact ⟨sole.separate, sole.door⟩
  | @asked lookups sighting pending unasked unentered _ unsettled =>
    obtain ⟨-, untracked⟩ := Bool.or_eq_false_iff.mp unsettled
    obtain ⟨unobserved, unfinished⟩ := Bool.or_eq_false_iff.mp untracked
    refine ⟨(sole.write _).separate, fun container => ?_⟩
    have written := (sole.write (lookups.map .lookup)).door container
    refine ⟨written.finished, written.waiting, ?_⟩
    rintro ⟨other, asked, rfl⟩
    obtain rfl := Option.some.inj asked
    exact ⟨unobserved, unfinished, by simp [Monitor.door, Monitor.write, unentered]⟩
  | started credentials lookups asking => exact (sole.request asking credentials).write _
  | acted unwatchful acted => exact sole.act unwatchful acted

theorem Sole.run (sole : vigil.Sole) {happenings : List Happening}
    (runs : vigil.run? place happenings = some next) : next.Sole := by
  induction happenings generalizing vigil with
  | nil => exact Option.some.inj runs ▸ sole
  | cons happening rest ih =>
    obtain ⟨middle, stepped, runs⟩ := Option.bind_eq_some_iff.mp runs
    exact ih (sole.step stepped) runs

/-- A container that has finished is not observed. -/
theorem Sole.observing?_eq_none (sole : vigil.Sole) {pod : PodKey}
    (finished : vigil.monitor.finished.get? container = some pod) : vigil.monitor.observing? container = none := by
  have known : (vigil.monitor.door container).isFinished = true := by
    simp [Monitor.door, Table.contains_eq_isSome, finished]
  simpa [Monitor.door] using (sole.door container).finished known

end Vigil

end Observatory
