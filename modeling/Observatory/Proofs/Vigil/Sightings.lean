import Observatory.Proofs.Text.Split
import Observatory.Proofs.Vigil.Single

/-! # What the watch observes

Which containers are to be started is read off the events alone: those that run in a pod of the node, not the
monitor's own, when the pod is applied or when it is listed after a listing has been completed. Main statement:
under every timing, the watch comes to these containers in this order, once for each time an event shows them,
and starts those that are then neither excluded nor tracked. When it is done with an event, each of them is
excluded or tracked. Nothing else is ever observed.
-/

namespace Observatory

open Cluster

/-- The container runs in the pod, and the uri of its runtime tells its id. -/
def Cluster.Pod.Runs (pod : Pod) (container : RunningContainer) : Prop :=
  ∃ status ∈ pod.statuses, status.isRunning = true ∧ ∃ uri id, status.runtimeUri = some uri ∧
    ContainerId.ofRuntimeUri? uri = some id ∧
    container = ⟨id, status.name, status.image, imageDigest status.imageId⟩

/-- What it means for a container to be listed as running. -/
theorem Cluster.Pod.mem_runningContainers_iff {pod : Pod} {container : RunningContainer} :
    container ∈ pod.runningContainers ↔ pod.Runs container := by
  simp only [runningContainers, Runs, List.mem_filterMap]
  refine exists_congr fun status => and_congr_right fun _ => ?_
  cases status.isRunning <;> simp [Option.bind_eq_some_iff, eq_comm (a := container)]

namespace Place

/-- The pod is on the node, and its name does not tell that it is one of the monitor's own. -/
def Concerns (place : Place) (pod : Pod) : Prop :=
  pod.nodeName = some place.node ∧ ∀ name, pod.metadata.name = some name → ¬ place.marker.toList <:+: name.toList

/-- Containers of the own pod, and of pods elsewhere, are not looked at. -/
theorem mem_foreignContainers_iff {place : Place} {pod : Pod} {container : RunningContainer} :
    container ∈ place.foreignContainers pod ↔ place.Concerns pod ∧ pod.Runs container := by
  have foreign : place.isOwn pod = false ↔
      ∀ name, pod.metadata.name = some name → ¬ place.marker.toList <:+: name.toList := by
    unfold isOwn
    cases pod.metadata.name with
    | none => simp
    | some name => simp [← Text.occursIn_iff_isInfix]
  rw [foreignContainers, Concerns, ← foreign, ← Pod.mem_runningContainers_iff, ← List.mem_ite_nil_right]
  simp [Pod.isOnNode]

end Place

/-! ## The containers that are due -/

/-- The last of the events shows the pod to be observed: it is applied, or it is listed and a listing has been
completed before. -/
def WatchEvent.Shown (events : List WatchEvent) (pod : Pod) : Prop :=
  events.getLast? = some (.applied pod) ∨ events.getLast? = some (.listed pod) ∧ .listingEnds ∈ events

/-- The watch is synced once a listing has ended. -/
theorem Watch.isSynced_after_iff {events : List WatchEvent} :
    (after events).isSynced = true ↔ .listingEnds ∈ events := by
  induction events using List.reverseRecOn with
  | nil => simp [after, Watch.empty]
  | append_singleton events event ih =>
    rw [after_concat]
    cases event <;> simp [step, ih]

/-- The watch comes to a container while it handles the last of these events. -/
structure Visit where
  events : List WatchEvent
  sighting : Sighting

/-- The container is tracked, or a start of it is waiting. -/
def Door.IsTaken (door : Door) : Prop :=
  door.isObserved = true ∨ door.isFinished = true ∨ 0 < door.waiting

/-- Unless the container is forgotten, it is tracked and waits no less than before. -/
theorem Door.IsTaken.passage {door after : Door} (taken : door.IsTaken) (passage : Monitor.Passage door after)
    (remembers : door.isFinished = true → after.isFinished = true) : after.IsTaken := by
  cases passage with
  | aside | refused => exact taken
  | entered => exact .inr (.inr (Nat.succ_pos _))
  | declined observed => exact .inl observed
  | admitted => exact .inl rfl
  | ended => exact .inr (.inl rfl)
  | forgotten => exact taken.imp id (Or.imp_left remembers)

namespace Vigil

open WatchEvent

variable {place : Place} {policy : Policy} {cacheSize : Nat} {origin vigil next : Vigil}
  {past happenings : List Happening} {happening : Happening} {events : List WatchEvent} {event : WatchEvent}
  {container : ContainerId} {sighting : Sighting}

/-- The containers that the last of the events calls for. -/
def due (place : Place) (events : List WatchEvent) : List Sighting :=
  match events.getLast? with
  | some (.applied pod) => (place.foreignContainers pod).map (Sighting.mk pod)
  | some (.listed pod) => if .listingEnds ∈ events then (place.foreignContainers pod).map (Sighting.mk pod) else []
  | some .listingBegins | some .listingEnds | some (.deleted _) | some .failed | none => []

/-- What is due after some events: each running container of a pod that the last one has shown. -/
theorem mem_due_iff : sighting ∈ due place events ↔
    Shown events sighting.pod ∧ place.Concerns sighting.pod ∧ sighting.pod.Runs sighting.container := by
  have member (pod : Pod) : sighting ∈ (place.foreignContainers pod).map (Sighting.mk pod) ↔
      pod = sighting.pod ∧ place.Concerns sighting.pod ∧ sighting.pod.Runs sighting.container := by
    constructor
    · intro member
      obtain ⟨container, foreign, rfl⟩ := List.mem_map.mp member
      exact ⟨rfl, Place.mem_foreignContainers_iff.mp foreign⟩
    · rintro ⟨rfl, foreign⟩
      exact List.mem_map.mpr ⟨sighting.container, Place.mem_foreignContainers_iff.mpr foreign, rfl⟩
  unfold due Shown
  split <;> rename_i last <;> simp only [last]
  case h_1 pod => simp [member]
  case h_2 pod =>
    split <;> rename_i synced
    · simp [member, synced]
    · simp [synced]
  all_goals simp

/-- The visits that the events call for, one event after the other. -/
def visits (place : Place) (events : List WatchEvent) : List Visit :=
  events.inits.flatMap fun seen => (due place seen).map (Visit.mk seen)

theorem visits_concat (place : Place) (events : List WatchEvent) (event : WatchEvent) :
    visits place (events ++ [event]) =
      visits place events ++ (due place (events ++ [event])).map (Visit.mk (events ++ [event])) := by
  simp [visits, List.inits_append]

/-- An event calls for its containers at once. -/
theorem pending_of_event (stepped : vigil.step? place (.event event) = some next)
    (watch : vigil.watch = .after events) : next.pending = due place (events ++ [event]) := by
  have synced : vigil.watch.isSynced = true ↔ .listingEnds ∈ events := watch ▸ Watch.isSynced_after_iff
  obtain ⟨⟨isSynced, listing⟩, pending, asking, monitor⟩ := vigil
  obtain ⟨-, -, -, rfl⟩ := goes_of_step stepped
  cases event with
  | listingBegins | deleted _ | failed => simp [due, Watch.step, attend]
  | listingEnds => cases listing <;> simp [due, Watch.step, attend]
  | applied pod => simp [due, Watch.step, attend]
  | listed pod =>
    cases isSynced with
    | false =>
      have unsynced : .listingEnds ∉ events := fun ended => Bool.false_ne_true (synced.mpr ended)
      simp [due, Watch.step, attend, unsynced]
    | true => simp [due, Watch.step, attend, synced.mp rfl]

/-! ## Looks and calls -/

/-- What is noted at each happening of a run, in the state and after the events before it. -/
def gather {α : Type} (note : List WatchEvent → Vigil → Happening → List α) (place : Place) :
    List WatchEvent → Vigil → List Happening → List α
  | _, _, [] => []
  | events, vigil, happening :: rest =>
      note events vigil happening ++
        match vigil.step? place happening with
        | some next => gather note place (events ++ happening.event?.toList) next rest
        | none => []

theorem gather_concat {α : Type} (note : List WatchEvent → Vigil → Happening → List α)
    (runs : origin.run? place past = some vigil) (earlier : List WatchEvent) (happening : Happening) :
    gather note place earlier origin (past ++ [happening]) =
      gather note place earlier origin past ++ note (earlier ++ eventsOf past) vigil happening := by
  induction past generalizing origin earlier with
  | nil =>
    obtain rfl := Option.some.inj runs
    simp only [List.nil_append, gather, eventsOf, List.filterMap_nil, List.append_nil]
    split <;> simp
  | cons first rest ih =>
    obtain ⟨middle, stepped, runs⟩ := Option.bind_eq_some_iff.mp runs
    have events : eventsOf (first :: rest) = first.event?.toList ++ eventsOf rest := by
      cases taken : first.event? <;> simp [eventsOf, taken]
    simp only [List.cons_append, gather, stepped, ih runs, events, List.append_assoc]

/-- The container that the watch looks at, and whether it is excluded or tracked then. -/
def lookAt (events : List WatchEvent) (vigil : Vigil) : Happening → List (Visit × Bool)
  | .look _ => vigil.pending.head?.toList.map fun sighting =>
      (⟨events, sighting⟩, vigil.isSettled sighting.container.id)
  | .event _ | .start .. | .act _ => []

/-- The container that the watch starts. -/
def callAt (events : List WatchEvent) (vigil : Vigil) : Happening → List Visit
  | .start .. => vigil.asking.toList.map (Visit.mk events)
  | .event _ | .look _ | .act _ => []

/-- The looks of a run. -/
def looks (place : Place) (origin : Vigil) (happenings : List Happening) : List (Visit × Bool) :=
  gather lookAt place [] origin happenings

/-- The calls of a run: each start of a container by the watch. -/
def calls (place : Place) (origin : Vigil) (happenings : List Happening) : List Visit :=
  gather callAt place [] origin happenings

theorem looks_concat (runs : origin.run? place past = some vigil) (happening : Happening) :
    looks place origin (past ++ [happening]) = looks place origin past ++ lookAt (eventsOf past) vigil happening :=
  gather_concat lookAt runs [] happening

theorem calls_concat (runs : origin.run? place past = some vigil) (happening : Happening) :
    calls place origin (past ++ [happening]) = calls place origin past ++ callAt (eventsOf past) vigil happening :=
  gather_concat callAt runs [] happening

/-- The visits and calls so far. Those that were looked at and those that still have to be are all that the events
call for; those that were started, and the one that is about to be, were neither excluded nor tracked when they
were looked at. -/
structure Logged (place : Place) (origin : Vigil) (past : List Happening) (vigil : Vigil) : Prop where
  looked : (looks place origin past).map (·.1) ++ vigil.pending.map (Visit.mk (eventsOf past)) =
    visits place (eventsOf past)
  called : calls place origin past ++ vigil.asking.toList.map (Visit.mk (eventsOf past)) =
    ((looks place origin past).filter (!·.2)).map (·.1)

/-- The log of looks is kept by every happening. -/
theorem Logged.step (logged : Logged place origin past vigil) (watch : vigil.watch = .after (eventsOf past))
    (runs : origin.run? place past = some vigil) (stepped : vigil.step? place happening = some next) :
    Logged place origin (past ++ [happening]) next := by
  obtain ⟨looked, called⟩ := logged
  refine ⟨?_, ?_⟩ <;> rw [looks_concat runs, eventsOf_concat]
  · cases goes_of_step stepped with
    | event event _ _ idle =>
      rw [pending_of_event stepped watch]
      simp only [idle, List.map_nil, List.append_nil] at looked
      simp [Happening.event?, lookAt, visits_concat, looked]
    | passed _ _ _ due | asked _ _ _ due => simpa [Happening.event?, lookAt, due] using looked
    | started | acted => simpa [Happening.event?, lookAt] using looked
  · rw [calls_concat runs]
    cases goes_of_step stepped with
    | event event unasked =>
      rw [(attends_step stepped).asking]
      simpa [callAt, lookAt, unasked] using called
    | passed _ unasked _ due settled => simpa [Happening.event?, callAt, lookAt, due, unasked, settled] using called
    | asked _ unasked _ due unsettled =>
      simp only [unasked, Option.toList_none, List.map_nil, List.append_nil] at called
      simp [Happening.event?, callAt, lookAt, due, unsettled, called]
    | started _ _ asking => simpa [Happening.event?, callAt, lookAt, asking] using called
    | acted => simpa [Happening.event?, callAt, lookAt] using called

/-! ## What becomes of a container -/

/-- The container is excluded, tracked, or on its way to be tracked. -/
def Minds (vigil : Vigil) (container : ContainerId) : Prop :=
  container ∈ vigil.monitor.accumulator.own ∨ vigil.IsAsking container ∨ (vigil.monitor.door container).IsTaken

theorem minds_of_isSettled (settled : vigil.isSettled container = true) : vigil.Minds container := by
  rcases Bool.or_eq_true_iff.mp settled with own | tracked
  · exact .inl (of_decide_eq_true own)
  · exact .inr (.inr ((Bool.or_eq_true_iff.mp tracked).imp id .inl))

theorem Minds.isSettled (minds : vigil.Minds container) (free : vigil.isFree = true) :
    vigil.isSettled container = true := by
  obtain ⟨unasked, unentered⟩ := isFree_iff.mp free
  rcases minds with own | ⟨sighting, asked, -⟩ | observed | finished | waiting
  · exact Bool.or_eq_true_iff.mpr (.inl (decide_eq_true own))
  · exact absurd asked (by simp [unasked])
  · exact Bool.or_eq_true_iff.mpr (.inr (Bool.or_eq_true_iff.mpr (.inl observed)))
  · exact Bool.or_eq_true_iff.mpr (.inr (Bool.or_eq_true_iff.mpr (.inr finished)))
  · exact absurd waiting (by simp [Monitor.door, unentered])

theorem isTaken_step {monitor after : Monitor} {action : Action} (separate : monitor.Separate)
    (remembers : Monitor.forgets action = false) (stepped : monitor.step? action = some after)
    (taken : (monitor.door container).IsTaken) : (after.door container).IsTaken := by
  refine taken.passage (Monitor.passage_step separate stepped container) fun finished => ?_
  simp only [Monitor.door, Table.contains_eq_isSome] at finished ⊢
  rcases (Monitor.tracks_step stepped).finished_of_not_forgets remembers with same | ⟨observation, -, added⟩
  · rw [same]
    exact finished
  · rw [added, Table.get?_insert]
    split
    · rfl
    · exact finished

/-- A start that is made is waiting, unless the container is tracked. -/
theorem isTaken_request (monitor : Monitor) (start : Start) :
    ((monitor.request start).door start.container).IsTaken := by
  unfold Monitor.request
  split
  case isTrue tracked => exact (Bool.or_eq_true_iff.mp tracked).imp id .inl
  case isFalse => exact .inr (.inr (by simp [Monitor.door]))

/-- A container that is being taken care of stays so. -/
theorem Minds.step (minds : vigil.Minds container) (sole : vigil.Sole) (silent : happening.event? = none)
    (stepped : vigil.step? place happening = some next) : next.Minds container := by
  cases goes_of_step stepped with
  | event event => contradiction
  | passed => exact minds
  | asked lookups unasked =>
    rcases minds with own | ⟨sighting, asked, -⟩ | taken
    · exact .inl own
    · exact absurd asked (by simp [unasked])
    · exact .inr (.inr taken)
  | @started credentials lookups sighting asking =>
    let start := Monitor.startOf sighting.pod sighting.container credentials
    have requested : vigil.monitor.step? (.request start) = some (vigil.monitor.request start) := rfl
    rcases minds with own | ⟨other, asked, rfl⟩ | taken
    · have same := Monitor.accumulator_step requested
      exact .inl (same ▸ own)
    · obtain rfl := Option.some.inj (asking.symm.trans asked)
      exact .inr (.inr (isTaken_request vigil.monitor start))
    · have still := isTaken_step sole.separate rfl requested taken
      exact .inr (.inr still)
  | acted unwatchful acted =>
    rcases minds with own | asking | taken
    · left
      rw [Monitor.accumulator_step acted]
      exact Accumulator.own_subset_run _ _ own
    · exact .inr (.inl asking)
    · exact .inr (.inr (isTaken_step sole.separate (Action.not_forgets_of_not_isWatchful unwatchful) acted taken))

/-- The start is one of a container that some event called for. -/
def Sanctioned (place : Place) (events : List WatchEvent) (start : Start) : Prop :=
  ∃ seen sighting credentials, seen <+: events ∧ sighting ∈ due place seen ∧
    start = Monitor.startOf sighting.pod sighting.container credentials

theorem Sanctioned.append {start : Start} (sanctioned : Sanctioned place events start) (later : List WatchEvent) :
    Sanctioned place (events ++ later) start := by
  obtain ⟨seen, sighting, credentials, earlier, called, same⟩ := sanctioned
  exact ⟨seen, sighting, credentials, earlier.trans (List.prefix_append events later), called, same⟩

/-- Every container that the last event called for is minded, and everything in hand has been called for. -/
structure Tended (place : Place) (past : List Happening) (vigil : Vigil) : Prop where
  minded : ∀ sighting ∈ due place (eventsOf past), sighting ∈ vigil.pending ∨ vigil.Minds sighting.container.id
  pending : ∀ sighting ∈ vigil.pending, sighting ∈ due place (eventsOf past)
  asking : ∀ sighting ∈ vigil.asking, sighting ∈ due place (eventsOf past)
  entering : ∀ start ∈ vigil.monitor.entering, Sanctioned place (eventsOf past) start
  active : ∀ observation ∈ vigil.monitor.active, Sanctioned place (eventsOf past) observation.start

theorem tended_empty (place : Place) (policy : Policy) (cacheSize : Nat) :
    Tended place [] (empty policy cacheSize) where
  minded _ called := absurd called List.not_mem_nil
  pending _ member := absurd member List.not_mem_nil
  asking _ member := nomatch member
  entering _ member := absurd member List.not_mem_nil
  active _ member := absurd member List.not_mem_nil

/-- After an event, what it calls for is pending. -/
theorem Tended.step_event (tended : Tended place past vigil) (watch : vigil.watch = .after (eventsOf past))
    (stepped : vigil.step? place (.event event) = some next) : Tended place (past ++ [.event event]) next := by
  have events : eventsOf (past ++ [.event event]) = eventsOf past ++ [event] := eventsOf_concat past (.event event)
  have pending := pending_of_event stepped watch
  have attends := attends_step stepped
  rw [← events] at pending
  refine ⟨?_, ?_, ?_, ?_, ?_⟩
  · intro sighting called
    exact .inl (pending ▸ called)
  · intro sighting member
    exact pending ▸ member
  · intro sighting asked
    rw [attends.asking] at asked
    contradiction
  · intro start member
    rw [attends.entering] at member
    contradiction
  · intro observation member
    rw [events]
    exact (tended.active observation (attends.active ▸ member)).append [event]

/-- A container that is looked at is minded from then on. -/
theorem mem_pending_or_minds_step (silent : happening.event? = none)
    (stepped : vigil.step? place happening = some next) (member : sighting ∈ vigil.pending) :
    sighting ∈ next.pending ∨ next.Minds sighting.container.id := by
  cases goes_of_step stepped with
  | event event => contradiction
  | passed lookups _ _ due settled =>
    rcases List.mem_cons.mp (due ▸ member) with rfl | later
    · exact .inr (minds_of_isSettled settled)
    · exact .inl later
  | asked lookups _ _ due =>
    rcases List.mem_cons.mp (due ▸ member) with rfl | later
    · exact .inr (.inr (.inl ⟨sighting, rfl, rfl⟩))
    · exact .inl later
  | started | acted => exact .inl member

/-- Until the next event, what was called for is looked at and minded, and nothing is dropped. -/
theorem Tended.step_proceeds (tended : Tended place past vigil) (sole : vigil.Sole) (silent : happening.event? = none)
    (stepped : vigil.step? place happening = some next) : Tended place (past ++ [happening]) next := by
  have events : eventsOf (past ++ [happening]) = eventsOf past := by simp [eventsOf_concat, silent]
  have proceeds := proceeds_step silent stepped
  refine ⟨?_, ?_, ?_, ?_, ?_⟩ <;> rw [events]
  · intro sighting called
    rcases tended.minded sighting called with member | minds
    · exact mem_pending_or_minds_step silent stepped member
    · exact .inr (minds.step sole silent stepped)
  · intro sighting member
    exact tended.pending sighting (proceeds.pending sighting member)
  · intro sighting member
    exact (proceeds.asking sighting member).elim (tended.asking sighting) (tended.pending sighting)
  · intro start member
    rcases proceeds.entering start member with before | ⟨sighting, asked, credentials, rfl⟩
    · exact tended.entering start before
    · exact ⟨eventsOf past, sighting, credentials, List.prefix_rfl, tended.asking sighting asked, rfl⟩
  · intro observation member
    rcases proceeds.active observation member with entered | ⟨old, before, same⟩
    · exact tended.entering observation.start entered
    · exact same ▸ tended.active old before

/-- In every run, each container that the last event called for is pending or minded. -/
theorem tended_of_run (runs : (empty policy cacheSize).run? place happenings = some vigil) :
    Tended place happenings vigil := by
  refine run_induction (tended_empty place policy cacheSize) ?_ runs
  intro past vigil happening next before stepped tended
  cases happening with
  | event event => exact tended.step_event (grounded_of_run before).watch stepped
  | look _ | start _ _ | act _ => exact tended.step_proceeds ((sole_empty policy cacheSize).run before) rfl stepped

theorem logged_of_run (runs : (empty policy cacheSize).run? place happenings = some vigil) :
    Logged place (empty policy cacheSize) happenings vigil := by
  refine run_induction ⟨rfl, rfl⟩ ?_ runs
  intro past vigil happening next before stepped logged
  exact logged.step (grounded_of_run before).watch before stepped

/-! ## Every event can be done with -/

/-- The starts that are entering can all be enrolled. -/
theorem exists_reaches_enrolled (place : Place) (watch : Watch) (pending : List Sighting) (monitor : Monitor) :
    ∃ enrolled : Monitor, Reaches place [] ⟨watch, pending, none, monitor⟩ ⟨watch, pending, none, enrolled⟩ ∧
      enrolled.entering = [] := by
  induction waiting : monitor.entering generalizing monitor with
  | nil => exact ⟨monitor, .refl place _, waiting⟩
  | cons start rest ih =>
    let identity : ResourceIdentity := ⟨start.pod.namespace_, "Pod", start.pod.name, start.image⟩
    obtain ⟨first, enrolls, remaining⟩ := Monitor.exists_enroll? waiting identity
    have happens : step? place ⟨watch, pending, none, monitor⟩ (.act (.enroll 0 identity)) =
        some ⟨watch, pending, none, first⟩ := by
      simp [step?, Action.isWatchful, Monitor.step?, enrolls]
    obtain ⟨enrolled, reaches, done⟩ := ih first remaining
    exact ⟨enrolled, (Reaches.single _ happens).trans reaches, done⟩

/-- The start that is on its way can be completed. -/
theorem exists_reaches_free (place : Place) (vigil : Vigil) :
    ∃ free, Reaches place [] vigil free ∧ free.isFree = true ∧ free.pending = vigil.pending := by
  obtain ⟨watch, pending, asking, monitor⟩ := vigil
  cases asking with
  | none =>
    obtain ⟨enrolled, reaches, done⟩ := exists_reaches_enrolled place watch pending monitor
    exact ⟨_, reaches, isFree_iff.mpr ⟨rfl, done⟩, rfl⟩
  | some sighting =>
    let start := Monitor.startOf sighting.pod sighting.container []
    have starts : step? place ⟨watch, pending, some sighting, monitor⟩ (.start [] []) =
        some ⟨watch, pending, none, (monitor.request start).write []⟩ := rfl
    obtain ⟨enrolled, reaches, done⟩ :=
      exists_reaches_enrolled place watch pending ((monitor.request start).write [])
    exact ⟨_, (Reaches.single _ starts).trans reaches, isFree_iff.mpr ⟨rfl, done⟩, rfl⟩

/-- A free watch can look at the next container. -/
theorem exists_look (place : Place) {pending : List Sighting} (free : vigil.isFree = true)
    (due : vigil.pending = sighting :: pending) :
    ∃ looked, vigil.step? place (.look []) = some looked ∧ looked.pending = pending := by
  by_cases settled : vigil.isSettled sighting.container.id = true
  · exact ⟨{ vigil with pending := pending }, by simp [step?, due, free, settled], rfl⟩
  · exact ⟨{ vigil with pending := pending, asking := some sighting, monitor := vigil.monitor.write [] },
      by simp [step?, due, free, settled], rfl⟩

/-- Whatever is pending can be worked off without another event. -/
theorem exists_reaches_done (place : Place) (vigil : Vigil) :
    ∃ done, Reaches place [] vigil done ∧ done.isFree = true ∧ done.pending = [] := by
  induction due : vigil.pending generalizing vigil with
  | nil =>
    obtain ⟨free, reaches, isFree, pending⟩ := exists_reaches_free place vigil
    exact ⟨free, reaches, isFree, pending.trans due⟩
  | cons sighting rest ih =>
    obtain ⟨free, reaches, isFree, pending⟩ := exists_reaches_free place vigil
    obtain ⟨looked, looks, remaining⟩ := exists_look place isFree (pending.trans due)
    obtain ⟨done, later, finished⟩ := ih looked remaining
    exact ⟨done, reaches.trans ((Reaches.single _ looks).trans later), finished⟩

/-- What the watch has done and will do about the events of a run. -/
structure Watches (place : Place) (origin : Vigil) (happenings : List Happening) (vigil : Vigil) : Prop
    extends Logged place origin happenings vigil where
  /-- When the watch is done with the last event, all that it called for is excluded or tracked. -/
  settled : vigil.isFree = true → vigil.pending = [] →
    ∀ sighting ∈ due place (eventsOf happenings), vigil.isSettled sighting.container.id = true
  observed : ∀ observation ∈ vigil.monitor.active, Sanctioned place (eventsOf happenings) observation.start
  completes : ∃ done, Reaches place [] vigil done ∧ done.isFree = true ∧ done.pending = []

/-- In every run, what the events call for is looked at in turn, what was neither excluded nor tracked is started, and
whatever is left can be done. -/
theorem watches_of_run (runs : (empty policy cacheSize).run? place happenings = some vigil) :
    Watches place (empty policy cacheSize) happenings vigil := by
  have tended := tended_of_run runs
  refine ⟨logged_of_run runs, fun free idle sighting called => ?_, tended.active, exists_reaches_done place vigil⟩
  rcases tended.minded sighting called with member | minds
  · exact absurd (idle ▸ member) List.not_mem_nil
  · exact minds.isSettled free

/-- The watch starts a container exactly when the event that it handles shows the container running in a pod of
concern and the container is neither excluded nor tracked at that moment, under every timing. After each event
the containers that it showed are excluded or tracked, also when the events are followed by schedule, and no
other container is observed. -/
theorem started_exactly_when_due (place : Place) (policy : Policy) (cacheSize : Nat) :
    (∀ happenings vigil, (empty policy cacheSize).run? place happenings = some vigil →
      Watches place (empty policy cacheSize) happenings vigil) ∧
    (∀ events sighting, sighting ∈ due place events ↔
      Shown events sighting.pod ∧ place.Concerns sighting.pod ∧ sighting.pod.Runs sighting.container) ∧
    ∀ surroundings events,
      let followed := ((Monitor.empty policy cacheSize).follow surroundings place .empty events).2
      (∀ sighting ∈ due place events,
        followed.accumulator.isOwn sighting.container.id = true ∨ followed.isTracked sighting.container.id = true) ∧
      ∀ observation ∈ followed.active, Sanctioned place events observation.start := by
  refine ⟨fun happenings vigil runs => watches_of_run runs, fun events sighting => mem_due_iff, ?_⟩
  intro surroundings events followed
  obtain ⟨⟨happenings, rfl, runs⟩, unentered⟩ :=
    @reaches_follow (.empty policy cacheSize) surroundings place .empty events rfl
  have watches := watches_of_run runs
  refine ⟨fun sighting called => ?_, watches.observed⟩
  exact Bool.or_eq_true_iff.mp (watches.settled (isFree_iff.mpr ⟨rfl, unentered⟩) rfl sighting called)

private def market : Place := ⟨"worker-1", "monitor"⟩

private def lenient : Policy := ⟨5, ⟨false, false⟩, 1⟩

private def ownPod : Pod where
  metadata := ⟨some "the-monitor-0", none, some "default", []⟩
  nodeName := some "worker-1"
  pullSecrets := []
  statuses := [⟨"monitor", "monitor:1", "", some "containerd://aaaaaaaaaaaaaaaa", true⟩]

/-- Two containers with the same short id, one that does not run and one whose id cannot be told. -/
private def stallPod : Pod where
  metadata := ⟨some "stall-0", none, some "default", []⟩
  nodeName := some "worker-1"
  pullSecrets := []
  statuses :=
    [⟨"left", "stall:1", "", some "containerd://fedcba9876540000", true⟩,
      ⟨"right", "stall:1", "", some "containerd://fedcba9876541111", true⟩,
      ⟨"idle", "stall:1", "", some "containerd://0000000000000000", false⟩,
      ⟨"odd", "stall:1", "", some "fedcba9876540000", true⟩]

private theorem valid_stall : ContainerId.Valid "fedcba987654" := by decide

private def stallContainer : ContainerId := ⟨"fedcba987654", valid_stall⟩

/-- Both pods are listed at first and applied later, the monitor's own one first. -/
private def appliedLater : List Happening :=
  [.event .listingBegins, .event (.listed ownPod), .event (.listed stallPod), .event .listingEnds,
    .event (.applied ownPod), .event .failed, .event (.applied stallPod), .look [], .start [] [],
    .act (.enroll 0 ⟨"default", "Pod", "stall-0", "stall:1"⟩), .look []]

/-- Of two containers with the same id, the first is started and the second is found to be tracked. -/
theorem started_exactly_when_due_of_appliedLater : ∃ vigil,
    (empty lenient 1).run? market appliedLater = some vigil ∧ vigil.isFree = true ∧ vigil.pending = [] ∧
      (looks market (empty lenient 1) appliedLater).map (fun look => (look.1.events.length, look.2)) =
        [(7, false), (7, true)] ∧
      (calls market (empty lenient 1) appliedLater).map (·.sighting.container.name) = ["left"] ∧
      Watches market (empty lenient 1) appliedLater vigil ∧ vigil.isSettled stallContainer = true := by
  have facts : ((empty lenient 1).run? market appliedLater).any (fun vigil =>
      vigil.isFree && vigil.pending.isEmpty) = true ∧
      (looks market (empty lenient 1) appliedLater).map (fun look => (look.1.events.length, look.2)) =
        [(7, false), (7, true)] ∧
      (calls market (empty lenient 1) appliedLater).map (·.sighting.container.name) = ["left"] ∧
      (due market (eventsOf appliedLater)).map (·.container.id) = [stallContainer, stallContainer] := by
    decide +kernel
  obtain ⟨possible, looked, called, shown⟩ := facts
  simp only [Option.any_eq_true, Bool.and_eq_true, List.isEmpty_iff] at possible
  obtain ⟨vigil, runs, free, idle⟩ := possible
  have watches := (started_exactly_when_due market lenient 1).1 appliedLater vigil runs
  have member : stallContainer ∈ (due market (eventsOf appliedLater)).map (·.container.id) := shown ▸ List.mem_cons_self
  obtain ⟨sighting, due, same⟩ := List.mem_map.mp member
  exact ⟨vigil, runs, free, idle, looked, called, watches, same ▸ watches.settled free idle sighting due⟩

end Vigil

end Observatory
