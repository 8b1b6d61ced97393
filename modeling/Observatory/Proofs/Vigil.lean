import Observatory.Proofs.Monitor.Step
import Observatory.Proofs.Watch
import Mathlib.Logic.Relation

/-! # Vigils

A monitor together with the watch that feeds it, under every timing. The watch takes one event at a time: it
takes the next one only when every container of the last one has been looked at and its start is over. In
between, and while it asks the cluster, the monitor may do anything else. Main statement: to follow events by
schedule is one way in which a vigil can go.
-/

namespace Observatory

open Cluster

/-- A container of a pod that the watch has come upon. -/
structure Sighting where
  pod : Pod
  container : RunningContainer

structure Vigil where
  watch : Watch
  /-- Containers that have yet to be looked at. -/
  pending : List Sighting
  /-- The container whose credentials are being looked up. -/
  asking : Option Sighting
  monitor : Monitor

inductive Happening where
  /-- The watch takes an event. -/
  | event (event : WatchEvent)
  /-- The watch looks at the next container, and asks for its credentials if it is to be observed. -/
  | look (lookups : List Lookup)
  /-- The credentials are known, and the container is started. -/
  | start (credentials : List Credential) (lookups : List Lookup)
  /-- Something else happens. -/
  | act (action : Action)

def Happening.event? : Happening → Option WatchEvent
  | .event taken => some taken
  | .look _ | .start .. | .act _ => none

/-- The events among the happenings. -/
def eventsOf (happenings : List Happening) : List WatchEvent := happenings.filterMap Happening.event?

theorem eventsOf_concat (happenings : List Happening) (happening : Happening) :
    eventsOf (happenings ++ [happening]) = eventsOf happenings ++ happening.event?.toList := by
  cases taken : happening.event? <;> simp [eventsOf, taken]

namespace Action

/-- Only the watch does this. -/
def isWatchful : Action → Bool
  | .request _ | .forgetPod _ | .retainPods _ => true
  | _ => false

/-- A schedule may pick this. -/
def isScheduled : Action → Bool
  | .sbomReady .. | .vulnerabilitiesReady .. | .aggregate .. | .expire _ | .abort _ | .report _ | .send _ | .take
  | .prepare | .stored _ => true
  | _ => false

theorem isWatchful_of_isScheduled {action : Action} (scheduled : action.isScheduled = true) :
    action.isWatchful = false := by
  cases action <;> simp_all [isScheduled, isWatchful]

theorem not_forgets_of_not_isWatchful {action : Action} (unwatchful : ¬ action.isWatchful = true) :
    Monitor.forgets action = false := by
  cases action <;> simp_all [isWatchful, Monitor.forgets]

end Action

namespace Vigil

def empty (policy : Policy) (cacheSize : Nat) : Vigil := ⟨.empty, [], none, .empty policy cacheSize⟩

/-- No start is on its way. -/
def isFree (vigil : Vigil) : Bool := vigil.asking.isNone && vigil.monitor.entering.isEmpty

/-- Do what the watch wants, but leave the containers that it wants to be observed for later. -/
def attend (place : Place) (vigil : Vigil) : Request → Vigil
  | .identify pod =>
      let accumulator := (place.ownContainers pod).foldl (·.addOwn ·.id) vigil.monitor.accumulator
      { vigil with monitor := { vigil.monitor with accumulator := accumulator } }
  | .observe pod => { vigil with pending := vigil.pending ++ (place.foreignContainers pod).map (⟨pod, ·⟩) }
  | .forget pod => { vigil with monitor := vigil.monitor.forgetPod pod }
  | .retain pods => { vigil with monitor := vigil.monitor.retainPods pods }

/-- The container need not be observed. -/
def isSettled (vigil : Vigil) (container : ContainerId) : Bool :=
  vigil.monitor.accumulator.isOwn container || vigil.monitor.isTracked container

/-- The state after a happening, if it is possible. -/
def step? (place : Place) (vigil : Vigil) : Happening → Option Vigil
  | .event event =>
      if vigil.isFree && vigil.pending.isEmpty then
        let (watch, requests) := vigil.watch.step event
        some (requests.foldl (attend place) { vigil with watch := watch })
      else none
  | .look lookups =>
      match vigil.pending with
      | [] => none
      | sighting :: pending =>
          if vigil.isFree then
            if vigil.isSettled sighting.container.id then some { vigil with pending := pending }
            else
              let monitor := vigil.monitor.write (lookups.map .lookup)
              some { vigil with pending := pending, asking := some sighting, monitor := monitor }
          else none
  | .start credentials lookups =>
      match vigil.asking with
      | none => none
      | some sighting =>
          let start := Monitor.startOf sighting.pod sighting.container credentials
          let monitor := (vigil.monitor.request start).write (lookups.map .lookup)
          some { vigil with asking := none, monitor := monitor }
  | .act action =>
      if action.isWatchful then none
      else (vigil.monitor.step? action).map fun monitor => { vigil with monitor := monitor }

/-- The state after a sequence of happenings, if they are possible one after the other. -/
def run? (place : Place) (vigil : Vigil) (happenings : List Happening) : Option Vigil :=
  happenings.foldlM (step? place) vigil

variable {place : Place} {vigil next : Vigil} {happening : Happening}

/-- One case for each way in which a vigil can go on. -/
inductive Goes (place : Place) (vigil : Vigil) : Happening → Vigil → Prop
  | event (event : WatchEvent) (unasked : vigil.asking = none) (unentered : vigil.monitor.entering = [])
      (idle : vigil.pending = []) :
      Goes place vigil (.event event)
        ((vigil.watch.step event).2.foldl (attend place) { vigil with watch := (vigil.watch.step event).1 })
  | passed (lookups : List Lookup) {sighting : Sighting} {pending : List Sighting}
      (unasked : vigil.asking = none) (unentered : vigil.monitor.entering = [])
      (next : vigil.pending = sighting :: pending) (settled : vigil.isSettled sighting.container.id = true) :
      Goes place vigil (.look lookups) { vigil with pending := pending }
  | asked (lookups : List Lookup) {sighting : Sighting} {pending : List Sighting}
      (unasked : vigil.asking = none) (unentered : vigil.monitor.entering = [])
      (next : vigil.pending = sighting :: pending) (unsettled : vigil.isSettled sighting.container.id = false) :
      Goes place vigil (.look lookups)
        { vigil with
          pending := pending, asking := some sighting, monitor := vigil.monitor.write (lookups.map .lookup) }
  | started (credentials : List Credential) (lookups : List Lookup) {sighting : Sighting}
      (asking : vigil.asking = some sighting) :
      Goes place vigil (.start credentials lookups)
        { vigil with
          asking := none
          monitor := (vigil.monitor.request (Monitor.startOf sighting.pod sighting.container credentials)).write
            (lookups.map .lookup) }
  | acted {action : Action} {monitor : Monitor} (unwatchful : ¬ action.isWatchful = true)
      (stepped : vigil.monitor.step? action = some monitor) :
      Goes place vigil (.act action) { vigil with monitor := monitor }

theorem isFree_iff : vigil.isFree = true ↔ vigil.asking = none ∧ vigil.monitor.entering = [] := by
  simp [isFree]

/-- A happening is an event, a step of the watch or an action of the monitor. -/
theorem goes_of_step (stepped : vigil.step? place happening = some next) : Goes place vigil happening next := by
  cases happening with
  | event event =>
    obtain ⟨ready, attended⟩ := Option.ite_none_right_eq_some.mp stepped
    obtain ⟨free, idle⟩ := Bool.and_eq_true_iff.mp ready
    obtain ⟨unasked, unentered⟩ := isFree_iff.mp free
    obtain rfl := Option.some.inj attended
    exact .event event unasked unentered (List.isEmpty_iff.mp idle)
  | look lookups =>
    simp only [step?] at stepped
    split at stepped
    case h_1 => contradiction
    case h_2 sighting pending due =>
      obtain ⟨free, looked⟩ := Option.ite_none_right_eq_some.mp stepped
      obtain ⟨unasked, unentered⟩ := isFree_iff.mp free
      split at looked
      case isTrue settled =>
        obtain rfl := Option.some.inj looked
        exact .passed lookups unasked unentered due settled
      case isFalse unsettled =>
        obtain rfl := Option.some.inj looked
        exact .asked lookups unasked unentered due (by simpa using unsettled)
  | start credentials lookups =>
    simp only [step?] at stepped
    split at stepped
    case h_1 => contradiction
    case h_2 sighting asking =>
      obtain rfl := Option.some.inj stepped
      exact .started credentials lookups asking
  | act action =>
    simp only [step?] at stepped
    split at stepped
    case isTrue => contradiction
    case isFalse unwatchful =>
      obtain ⟨monitor, acted, rfl⟩ := Option.map_eq_some_iff.mp stepped
      exact .acted unwatchful acted

end Vigil

/-! ## Schedules are runs -/

namespace Monitor

variable {surroundings : Surroundings} {monitor next : Monitor} {turn : Turn} {action : Action}

/-- The monitor goes on by itself. -/
def Settles : Monitor → Monitor → Prop :=
  Relation.ReflTransGen fun monitor next => ∃ action, action.isScheduled = true ∧ monitor.step? action = some next

theorem isScheduled_of_observationAction? {observation : Observation}
    (picked : monitor.observationAction? observation = some action) : action.isScheduled = true := by
  unfold observationAction? at picked
  split at picked
  · obtain rfl := Option.some.inj picked
    rfl
  · split at picked
    · obtain rfl := Option.some.inj picked
      rfl
    · split_ifs at picked <;> (obtain rfl := Option.some.inj picked; rfl)

/-- What the worker does next. -/
theorem workerAction?_spec (picked : monitor.workerAction? surroundings = some action) :
    action = .take ∨ action = .prepare ∨ ∃ answer, action = .stored answer := by
  unfold workerAction? at picked
  cases worker : monitor.worker with
  | absent => simp [worker] at picked
  | idle =>
    obtain ⟨-, rfl⟩ : _ ∧ Action.take = action := by simpa [worker] using picked
    exact .inl rfl
  | preparing serial task =>
    rw [worker] at picked
    dsimp only at picked
    split at picked
    · exact .inr (.inl (Option.some.inj picked).symm)
    · contradiction
  | storing serial task artifact since =>
    obtain ⟨-, rfl⟩ : _ ∧ Action.stored (surroundings.store artifact).value = action := by
      simpa [worker] using picked
    exact .inr (.inr ⟨_, rfl⟩)

theorem isScheduled_of_next? (picked : monitor.next? surroundings turn = some action) :
    action.isScheduled = true := by
  cases turn with
  | arrivals =>
    simp only [next?] at picked
    split at picked
    · obtain rfl := Option.some.inj picked
      unfold Surroundings.inquiryAnswer
      split <;> rfl
    · obtain ⟨observation, -, picked⟩ := List.exists_of_findSome?_eq_some picked
      exact isScheduled_of_observationAction? picked
  | worker => obtain rfl | rfl | ⟨answer, rfl⟩ := workerAction?_spec picked <;> rfl
  | sender serial =>
    simp only [next?] at picked
    split at picked
    · obtain ⟨-, sent⟩ := Option.ite_none_right_eq_some.mp picked
      obtain rfl := Option.some.inj sent
      rfl
    · contradiction

theorem settles_turnFor (surroundings : Surroundings) (turn : Turn) (fuel : Nat) (monitor : Monitor) :
    monitor.Settles (turnFor surroundings turn fuel monitor) := by
  induction fuel generalizing monitor with
  | zero => exact .refl
  | succ fuel ih =>
    unfold turnFor
    split
    case h_1 next stepped =>
      obtain ⟨action, picked, stepped⟩ := Option.bind_eq_some_iff.mp stepped
      exact .head ⟨action, isScheduled_of_next? picked, stepped⟩ (ih next)
    case h_2 => exact .refl

theorem settles_takeTurns (surroundings : Surroundings) (turns : List Turn) (monitor : Monitor) :
    monitor.Settles (monitor.takeTurns surroundings turns) := by
  induction turns generalizing monitor with
  | nil => exact .refl
  | cons turn rest ih => exact (settles_turnFor surroundings turn monitor.work monitor).trans (ih _)

/-- To settle is to take scheduled actions only. -/
theorem settles_settleFor (surroundings : Surroundings) (fuel : Nat) (monitor : Monitor) :
    monitor.Settles (settleFor surroundings fuel monitor) := by
  induction fuel generalizing monitor with
  | zero => exact .refl
  | succ fuel ih =>
    unfold settleFor
    split
    · exact .refl
    · have round : monitor.Settles (monitor.round surroundings) :=
        (settles_takeTurns surroundings [.arrivals, .worker] monitor).trans (settles_takeTurns surroundings _ _)
      exact round.trans (ih _)

theorem settles_whileAsking (surroundings : Surroundings) (lookups : List Lookup) (monitor : Monitor) :
    monitor.Settles (monitor.whileAsking surroundings lookups) := by
  unfold whileAsking
  split
  · exact settles_settleFor surroundings _ monitor
  · exact .refl

/-- A monitor that settles neither asks for a start nor enrolls one. -/
theorem Settles.entering (settles : monitor.Settles next) : next.entering = monitor.entering := by
  induction settles with
  | refl => rfl
  | tail _ step ih =>
    obtain ⟨action, scheduled, stepped⟩ := step
    rcases (tracks_step stepped).entering with same | ⟨start, rfl, -⟩ | ⟨index, identity, rfl, -⟩
    · exact same.trans ih
    · contradiction
    · contradiction

/-- The first start that is entering can be enrolled. -/
theorem exists_enroll? {start : Start} {rest : List Start} (entering : monitor.entering = start :: rest)
    (identity : ResourceIdentity) :
    ∃ enrolled, monitor.enroll? 0 identity = some enrolled ∧ enrolled.entering = rest := by
  cases enrolls : monitor.enroll? 0 identity with
  | none =>
    simp only [enroll?, entering, Option.bind_eq_bind, List.getElem?_cons_zero, Option.bind_some, Option.pure_def]
      at enrolls
    split at enrolls <;> contradiction
  | some enrolled =>
    refine ⟨enrolled, rfl, ?_⟩
    obtain ⟨start, -, ⟨-, rfl⟩ | ⟨-, rfl⟩⟩ := enroll?_spec enrolls <;> simp [write, begin, entering]

/-- A start by schedule: it is refused at once, or it is enrolled when its identity is known. -/
theorem start_spec (surroundings : Surroundings) (entering : monitor.entering = []) (start : Start) :
    ((monitor.start surroundings start).1 = monitor.request start ∧ (monitor.request start).entering = []) ∨
      ∃ identity, ∃ lookups : List Lookup, ∃ asked,
        ((monitor.request start).write (lookups.map .lookup)).Settles asked ∧
        asked.enroll? 0 identity = some (monitor.start surroundings start).1 ∧
        (monitor.start surroundings start).1.entering = [] := by
  unfold Monitor.start
  split
  case isTrue tracked => exact .inl ⟨rfl, by simp [request, write, tracked, entering]⟩
  case isFalse untracked =>
    obtain ⟨identity, lookups⟩ := ResourceIdentity.resolve surroundings.cluster.ownerSource start.pod.namespace_
      start.pod.name start.owner start.image
    have settles :=
      settles_whileAsking surroundings lookups ((monitor.request start).write (lookups.map .lookup))
    have waiting := settles.entering
    rw [show ((monitor.request start).write (lookups.map .lookup)).entering = [start] by
      simp [request, write, untracked, entering]] at waiting
    obtain ⟨enrolled, enrolls, done⟩ := exists_enroll? waiting identity
    refine .inr ⟨identity, lookups, _, settles, ?_⟩
    simp only [waiting, List.length_singleton, Nat.sub_self, enrolls]
    exact ⟨trivial, done⟩

end Monitor

namespace Vigil

variable {place : Place} {origin vigil middle next : Vigil} {happening : Happening} {happenings : List Happening}
  {events later : List WatchEvent}

theorem run?_concat (happenings : List Happening) (happening : Happening) :
    vigil.run? place (happenings ++ [happening]) = (vigil.run? place happenings).bind (·.step? place happening) := by
  simp only [run?, List.foldlM_append, List.foldlM_cons, List.foldlM_nil, bind_pure]
  rfl

theorem run?_append (earlier later : List Happening) :
    vigil.run? place (earlier ++ later) = (vigil.run? place earlier).bind (·.run? place later) :=
  List.foldlM_append

/-- What holds at first, and after each happening if it did before, holds after every run. -/
theorem run_induction {Holds : List Happening → Vigil → Prop} (first : Holds [] origin)
    (step : ∀ past vigil happening next, origin.run? place past = some vigil →
      vigil.step? place happening = some next → Holds past vigil → Holds (past ++ [happening]) next)
    (runs : origin.run? place happenings = some vigil) : Holds happenings vigil := by
  induction happenings using List.reverseRecOn generalizing vigil with
  | nil => exact Option.some.inj runs ▸ first
  | append_singleton past happening ih =>
    rw [run?_concat] at runs
    obtain ⟨middle, before, stepped⟩ := Option.bind_eq_some_iff.mp runs
    exact step past middle happening vigil before stepped (ih before)

/-- Some happenings with these events lead from one state to the other. -/
def Reaches (place : Place) (events : List WatchEvent) (vigil next : Vigil) : Prop :=
  ∃ happenings, eventsOf happenings = events ∧ vigil.run? place happenings = some next

theorem Reaches.refl (place : Place) (vigil : Vigil) : Reaches place [] vigil vigil := ⟨[], rfl, rfl⟩

theorem Reaches.single (happening : Happening) (stepped : vigil.step? place happening = some next) :
    Reaches place happening.event?.toList vigil next :=
  ⟨[happening], eventsOf_concat [] happening, by simp [run?, stepped]⟩

/-- What is reached can be gone on from. -/
theorem Reaches.trans (first : Reaches place events vigil middle) (second : Reaches place later middle next) :
    Reaches place (events ++ later) vigil next := by
  obtain ⟨happenings, rfl, runs⟩ := first
  obtain ⟨rest, rfl, runsRest⟩ := second
  refine ⟨happenings ++ rest, List.filterMap_append .., ?_⟩
  rw [run?, List.foldlM_append]
  exact Option.bind_eq_some_iff.mpr ⟨middle, runs, runsRest⟩

/-- What the monitor does by itself can happen in a vigil. -/
theorem reaches_settled {monitor : Monitor} (settles : vigil.monitor.Settles monitor) :
    Reaches place [] vigil { vigil with monitor := monitor } := by
  induction settles with
  | refl => exact .refl place vigil
  | @tail before after _ step ih =>
    obtain ⟨action, scheduled, stepped⟩ := step
    have happens : step? place { vigil with monitor := before } (.act action) =
        some { vigil with monitor := after } := by
      simp [step?, Action.isWatchful_of_isScheduled scheduled, stepped]
    exact ih.trans (Reaches.single (.act action) happens)

/-! ## To follow events is a run -/

section Follow

variable {monitor : Monitor} (surroundings : Surroundings) (place : Place) (watch : Watch) (pending : List Sighting)
  (sighting : Sighting)

/-- A container that has been asked about is started. -/
theorem reaches_start (entering : monitor.entering = [])
    (credentials : List Credential) :
    let started := (monitor.start surroundings (Monitor.startOf sighting.pod sighting.container credentials)).1
    Reaches place [] ⟨watch, pending, some sighting, monitor⟩ ⟨watch, pending, none, started⟩ ∧
      started.entering = [] := by
  intro started
  have happens (lookups : List Lookup) : Reaches place [] ⟨watch, pending, some sighting, monitor⟩
      ⟨watch, pending, none, (monitor.request (Monitor.startOf sighting.pod sighting.container credentials)).write
        (lookups.map .lookup)⟩ :=
    Reaches.single (.start credentials lookups) rfl
  rcases Monitor.start_spec surroundings entering (Monitor.startOf sighting.pod sighting.container credentials) with
    ⟨refused, done⟩ | ⟨identity, lookups, asked, settles, enrolls, done⟩
  · refine ⟨?_, by rwa [← refused] at done⟩
    simpa [started, refused, Monitor.write] using happens []
  · refine ⟨?_, done⟩
    have enrolled : step? place ⟨watch, pending, none, asked⟩ (.act (.enroll 0 identity)) =
        some ⟨watch, pending, none, started⟩ := by
      simp [step?, Action.isWatchful, Monitor.step?, enrolls, started]
    exact (happens lookups).trans ((reaches_settled settles).trans (Reaches.single _ enrolled))

/-- The watch goes to the next container. -/
theorem reaches_observe (entering : monitor.entering = []) :
    let observed := monitor.observe surroundings sighting.pod sighting.container
    Reaches place [] ⟨watch, sighting :: pending, none, monitor⟩ ⟨watch, pending, none, observed⟩ ∧
      observed.entering = [] := by
  intro observed
  by_cases settled : monitor.accumulator.isOwn sighting.container.id || monitor.isTracked sighting.container.id
  · have same : observed = monitor := if_pos settled
    have passed : step? place ⟨watch, sighting :: pending, none, monitor⟩ (.look []) =
        some ⟨watch, pending, none, monitor⟩ := by
      simp [step?, isFree, isSettled, entering, settled]
    rw [same]
    exact ⟨Reaches.single _ passed, entering⟩
  · obtain ⟨credentials, lookups, same⟩ : ∃ credentials, ∃ lookups : List Lookup, observed =
        (((monitor.write (lookups.map .lookup)).whileAsking surroundings lookups).start surroundings
          (Monitor.startOf sighting.pod sighting.container credentials)).1 :=
      ⟨_, _, if_neg settled⟩
    have asks : step? place ⟨watch, sighting :: pending, none, monitor⟩ (.look lookups) =
        some ⟨watch, pending, some sighting, monitor.write (lookups.map .lookup)⟩ := by
      simp [step?, isFree, isSettled, entering, settled]
    have settles := Monitor.settles_whileAsking surroundings lookups (monitor.write (lookups.map .lookup))
    have ⟨starts, done⟩ := reaches_start surroundings place watch pending sighting
      (settles.entering.trans entering) credentials
    rw [same]
    exact ⟨(Reaches.single _ asks).trans ((reaches_settled settles).trans starts), done⟩

/-- The watch goes to the containers of a pod, one after the other. -/
theorem reaches_observeAll (pod : Pod) (containers : List RunningContainer) (entering : monitor.entering = []) :
    let observed := containers.foldl (·.observe surroundings pod) monitor
    Reaches place [] ⟨watch, containers.map (⟨pod, ·⟩), none, monitor⟩ ⟨watch, [], none, observed⟩ ∧
      observed.entering = [] := by
  induction containers generalizing monitor with
  | nil => exact ⟨.refl place _, entering⟩
  | cons container rest ih =>
    have ⟨first, free⟩ := reaches_observe surroundings place watch (rest.map (⟨pod, ·⟩)) ⟨pod, container⟩ entering
    have ⟨others, done⟩ := ih free
    exact ⟨first.trans others, done⟩

/-- One event by schedule. -/
theorem reaches_event (event : WatchEvent) (entering : monitor.entering = []) :
    let performed := (watch.step event).2.foldl (·.perform surroundings place) monitor
    Reaches place [event] ⟨watch, [], none, monitor⟩ ⟨(watch.step event).1, [], none, performed⟩ ∧
      performed.entering = [] := by
  -- the requests are attended at once; what is left are the containers of the pod that is to be observed
  have happens : Reaches place [event] ⟨watch, [], none, monitor⟩
      ((watch.step event).2.foldl (attend place) ⟨(watch.step event).1, [], none, monitor⟩) :=
    Reaches.single (.event event) (by simp [step?, isFree, entering])
  have identified (pod : Pod) : (monitor.perform surroundings place (.identify pod)).entering = [] := entering
  have observes (watch : Watch) (pod : Pod) :=
    reaches_observeAll surroundings place watch pod (place.foreignContainers pod) (identified pod)
  cases event with
  | listingBegins | failed | deleted pod => exact ⟨happens, entering⟩
  | listingEnds =>
    obtain ⟨isSynced, listing⟩ := watch
    cases listing <;> exact ⟨happens, entering⟩
  | applied pod =>
    have ⟨looks, done⟩ := observes watch pod
    exact ⟨happens.trans looks, done⟩
  | listed pod =>
    obtain ⟨isSynced, listing⟩ := watch
    cases isSynced with
    | false => exact ⟨happens, entering⟩
    | true =>
      have ⟨looks, done⟩ := observes ⟨true, listing.map (· ++ [pod.key])⟩ pod
      exact ⟨happens.trans looks, done⟩

/-- To follow events by schedule is one way in which a vigil can go. -/
theorem reaches_follow (events : List WatchEvent) (entering : monitor.entering = []) :
    let followed := monitor.follow surroundings place watch events
    Reaches place events ⟨watch, [], none, monitor⟩ ⟨followed.1, [], none, followed.2⟩ ∧ followed.2.entering = [] := by
  induction events generalizing watch monitor with
  | nil => exact ⟨.refl place _, entering⟩
  | cons event rest ih =>
    have ⟨first, free⟩ := reaches_event surroundings place watch event entering
    have ⟨later, done⟩ := ih (watch.step event).1 free
    exact ⟨first.trans later, done⟩

end Follow

end Vigil

end Observatory
