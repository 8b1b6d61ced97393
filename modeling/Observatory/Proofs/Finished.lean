import Observatory.Proofs.Table
import Observatory.Proofs.Vigil

/-! # Finished containers and their pods

A finished container is remembered so that it is not observed again, and is forgotten when its pod is gone.
Main statement: under every timing, the pod of each finished container lives, except that the last event that
told that it is gone came while the container was still observed. Such a container finishes after its pod is
gone, and is remembered all the same.
-/

namespace Observatory

open Cluster WatchEvent

/-- A running observation comes from a start that was entering, or was running before. -/
theorem Monitor.start_of_mem_active_step {monitor next : Monitor} {action : Action} {observation : Observation}
    (stepped : monitor.step? action = some next) (member : observation ∈ next.active) :
    observation.start ∈ monitor.entering ∨ ∃ old ∈ monitor.active, observation.start = old.start := by
  rcases mem_active_step stepped member with ⟨start, identity, entered, -, rfl⟩ | before | ⟨old, before, revised⟩
  · exact .inl entered
  · exact .inr ⟨observation, before, rfl⟩
  · exact .inr ⟨old, before, revised.start⟩

namespace Vigil

variable {place : Place} {origin vigil next : Vigil} {past : List Happening} {happening : Happening}
  {event : WatchEvent} {container : ContainerId} {pod : PodKey}

/-- When an event last told that the pod is gone, the container was being observed. -/
def Orphaned (place : Place) (origin : Vigil) (past : List Happening) (container : ContainerId) (pod : PodKey) :
    Prop :=
  ∃ earlier event later middle, past = earlier ++ .event event :: later ∧
    origin.run? place earlier = some middle ∧ Removes pod (eventsOf earlier) event ∧
    Unremoved pod (eventsOf earlier ++ [event]) (eventsOf later) ∧
    ∃ observation ∈ middle.monitor.active, observation.container = container ∧ observation.start.pod = pod

/-- There is a reason to remember the container. -/
def Warranted (place : Place) (origin : Vigil) (past : List Happening) (container : ContainerId) (pod : PodKey) :
    Prop :=
  Lives pod (eventsOf past) ∨ Orphaned place origin past container pod

theorem Warranted.concat (warranted : Warranted place origin past container pod)
    (kept : ∀ event ∈ happening.event?, ¬ Removes pod (eventsOf past) event) :
    Warranted place origin (past ++ [happening]) container pod := by
  rcases warranted with lives | ⟨earlier, event, later, middle, rfl, runs, removes, unremoved, observed⟩
  · left
    rw [eventsOf_concat]
    cases taken : happening.event? with
    | none => simpa using lives
    | some event => exact lives_concat.mpr (.inr ⟨lives, kept event taken⟩)
  · refine .inr ⟨earlier, event, later ++ [happening], middle, by simp, runs, removes, ?_, observed⟩
    rw [eventsOf_concat]
    cases taken : happening.event? with
    | none => simpa using unremoved
    | some event' =>
      refine unremoved_concat.mpr ⟨unremoved, ?_⟩
      simpa [eventsOf, Happening.event?] using kept event' taken

/-- Everything that the vigil has in hand or remembers is warranted. -/
structure Grounded (place : Place) (origin : Vigil) (past : List Happening) (vigil : Vigil) : Prop where
  watch : vigil.watch = .after (eventsOf past)
  distinct : vigil.monitor.finished.Distinct
  pending : ∀ sighting ∈ vigil.pending, Lives sighting.pod.key (eventsOf past)
  asking : ∀ sighting ∈ vigil.asking, Lives sighting.pod.key (eventsOf past)
  entering : ∀ start ∈ vigil.monitor.entering, Lives start.pod (eventsOf past)
  active : ∀ observation ∈ vigil.monitor.active,
    Warranted place origin past observation.container observation.start.pod
  finished : ∀ container pod, vigil.monitor.finished.get? container = some pod →
    Warranted place origin past container pod

theorem grounded_empty (place : Place) (policy : Policy) (cacheSize : Nat) :
    Grounded place (.empty policy cacheSize) [] (.empty policy cacheSize) where
  watch := rfl
  distinct := Table.distinct_empty
  pending _ member := absurd member List.not_mem_nil
  asking _ member := nomatch member
  entering _ member := absurd member List.not_mem_nil
  active _ member := absurd member List.not_mem_nil
  finished _ _ found := nomatch found

/-! ## Events -/

/-- What an event does at once. -/
structure Attends (vigil : Vigil) (event : WatchEvent) (next : Vigil) : Prop where
  watch : next.watch = (vigil.watch.step event).1
  pending : ∀ sighting ∈ next.pending, event.names sighting.pod.key = true
  asking : next.asking = none
  entering : next.monitor.entering = []
  active : next.monitor.active = vigil.monitor.active
  finished : next.monitor.finished = vigil.monitor.finished.filter fun _ pod => !vigil.watch.drops pod event

/-- What an event does to a vigil. -/
theorem attends_step (stepped : vigil.step? place (.event event) = some next) : Attends vigil event next := by
  obtain ⟨⟨isSynced, listing⟩, pending, asking, monitor⟩ := vigil
  obtain ⟨-, rfl, entering, rfl⟩ := goes_of_step stepped
  have unforgotten : monitor.finished = monitor.finished.filter fun _ _ => true := by simp [Table.filter]
  have idles : ∀ sighting ∈ ([] : List Sighting), event.names sighting.pod.key = true :=
    fun _ member => absurd member List.not_mem_nil
  have observes {pod : Pod} (names : event.names pod.key = true) :
      ∀ sighting ∈ (place.foreignContainers pod).map (Sighting.mk pod), event.names sighting.pod.key = true := by
    intro sighting member
    obtain ⟨container, -, rfl⟩ := List.mem_map.mp member
    exact names
  cases event with
  | listingBegins | failed => exact ⟨rfl, idles, rfl, entering, rfl, unforgotten⟩
  | applied pod => exact ⟨rfl, observes (by simp [names]), rfl, entering, rfl, unforgotten⟩
  | listed pod =>
    cases isSynced with
    | false => exact ⟨rfl, idles, rfl, entering, rfl, unforgotten⟩
    | true => exact ⟨rfl, observes (by simp [names]), rfl, entering, rfl, unforgotten⟩
  | deleted pod =>
    refine ⟨rfl, idles, rfl, entering, rfl, ?_⟩
    simp [Watch.step, attend, Monitor.forgetPod, Watch.drops, eq_comm]
  | listingEnds =>
    cases listing with
    | none => exact ⟨rfl, idles, rfl, entering, rfl, unforgotten⟩
    | some pods =>
      refine ⟨rfl, idles, rfl, entering, rfl, ?_⟩
      simp [Watch.step, attend, Monitor.retainPods, Watch.drops]

/-- An event that removes a pod lets its finished containers be forgotten. -/
theorem Grounded.step_event (grounded : Grounded place origin past vigil) (runs : origin.run? place past = some vigil)
    (attends : Attends vigil event next) : Grounded place origin (past ++ [.event event]) next := by
  have events : eventsOf (past ++ [.event event]) = eventsOf past ++ [event] := eventsOf_concat past (.event event)
  have kept {container : ContainerId} {pod : PodKey} (warranted : Warranted place origin past container pod)
      (stays : ¬ Removes pod (eventsOf past) event) :
      Warranted place origin (past ++ [.event event]) container pod :=
    warranted.concat fun taken same => Option.some.inj same ▸ stays
  refine ⟨?_, ?_, ?_, ?_, ?_, ?_, ?_⟩
  · rw [attends.watch, events, Watch.after_concat, grounded.watch]
  · rw [attends.finished]
    exact grounded.distinct.filter _
  · intro sighting member
    rw [events]
    exact lives_concat.mpr (.inl (attends.pending sighting member))
  · intro sighting member
    rw [attends.asking] at member
    contradiction
  · intro start member
    rw [attends.entering] at member
    contradiction
  · intro observation member
    rw [attends.active] at member
    by_cases removes : Removes observation.start.pod (eventsOf past) event
    · -- the event does not reach running observations
      exact .inr ⟨past, event, [], vigil, rfl, runs, removes, unremoved_nil, observation, member, rfl, rfl⟩
    · exact kept (grounded.active observation member) removes
  · intro container pod found
    rw [attends.finished, grounded.distinct.get?_filter, Option.filter_eq_some_iff, grounded.watch] at found
    obtain ⟨found, remembered⟩ := found
    refine kept (grounded.finished container pod found) fun removes => ?_
    simp [Watch.drops_after_iff.mpr removes] at remembered

/-! ## Everything else -/

/-- What any other happening does: containers move from hand to hand, and none comes from elsewhere. -/
structure Proceeds (vigil next : Vigil) : Prop where
  watch : next.watch = vigil.watch
  pending : ∀ sighting ∈ next.pending, sighting ∈ vigil.pending
  asking : ∀ sighting ∈ next.asking, sighting ∈ vigil.asking ∨ sighting ∈ vigil.pending
  entering : ∀ start ∈ next.monitor.entering, start ∈ vigil.monitor.entering ∨
    ∃ sighting ∈ vigil.asking, ∃ credentials, start = Monitor.startOf sighting.pod sighting.container credentials
  active : ∀ observation ∈ next.monitor.active, observation.start ∈ vigil.monitor.entering ∨
    ∃ old ∈ vigil.monitor.active, observation.start = old.start
  finished : next.monitor.finished = vigil.monitor.finished ∨
    ∃ observation ∈ vigil.monitor.active,
      next.monitor.finished = vigil.monitor.finished.insert observation.container observation.start.pod

/-- What everything else does to it. -/
theorem proceeds_step (silent : happening.event? = none) (stepped : vigil.step? place happening = some next) :
    Proceeds vigil next := by
  have unchanged : ∀ observation ∈ vigil.monitor.active, observation.start ∈ vigil.monitor.entering ∨
      ∃ old ∈ vigil.monitor.active, observation.start = old.start :=
    fun observation member => .inr ⟨observation, member, rfl⟩
  cases goes_of_step stepped with
  | event event => contradiction
  | passed lookups _ _ due =>
    exact ⟨rfl, fun _ => due ▸ List.mem_cons_of_mem _, fun _ => .inl, fun _ => .inl, unchanged, .inl rfl⟩
  | asked lookups _ _ due =>
    refine ⟨rfl, fun _ => due ▸ List.mem_cons_of_mem _, fun other asked => ?_, fun _ => .inl, unchanged, .inl rfl⟩
    obtain rfl := Option.some.inj asked
    exact .inr (due ▸ List.mem_cons_self)
  | @started credentials lookups sighting asking =>
    have requested : vigil.monitor.step? (.request (Monitor.startOf sighting.pod sighting.container credentials)) =
      some (vigil.monitor.request (Monitor.startOf sighting.pod sighting.container credentials)) := rfl
    have tracks := Monitor.tracks_step requested
    refine ⟨rfl, fun _ => id, fun _ asked => absurd asked (Option.not_mem_none _), fun start member => ?_,
      fun _ member => Monitor.start_of_mem_active_step requested member, tracks.finished_of_not_forgets rfl⟩
    rcases tracks.entering with same | ⟨added, requests, appended⟩ | ⟨index, identity, enrolls, -⟩
    · exact .inl (same ▸ member)
    · rcases List.mem_append.mp (appended ▸ member) with before | new
      · exact .inl before
      · obtain rfl := Action.request.inj requests
        obtain rfl := List.mem_singleton.mp new
        exact .inr ⟨sighting, asking, credentials, rfl⟩
    · contradiction
  | acted unwatchful acted =>
    have tracks := Monitor.tracks_step acted
    have remembers := Action.not_forgets_of_not_isWatchful unwatchful
    refine ⟨rfl, fun _ => id, fun _ => .inl, fun start member => .inl ?_,
      fun _ => Monitor.start_of_mem_active_step acted, tracks.finished_of_not_forgets remembers⟩
    rcases tracks.entering with same | ⟨start, rfl, -⟩ | ⟨index, identity, -, erased⟩
    · exact same ▸ member
    · exact absurd rfl unwatchful
    · exact List.mem_of_mem_eraseIdx (erased ▸ member)

theorem Grounded.step_proceeds (grounded : Grounded place origin past vigil) (silent : happening.event? = none)
    (proceeds : Proceeds vigil next) : Grounded place origin (past ++ [happening]) next := by
  have events : eventsOf (past ++ [happening]) = eventsOf past := by simp [eventsOf_concat, silent]
  have kept {container : ContainerId} {pod : PodKey} (warranted : Warranted place origin past container pod) :
      Warranted place origin (past ++ [happening]) container pod :=
    warranted.concat fun taken same => absurd (silent.symm.trans same) nofun
  refine ⟨?_, ?_, ?_, ?_, ?_, ?_, ?_⟩
  · rw [proceeds.watch, events, grounded.watch]
  · rcases proceeds.finished with same | ⟨observation, -, added⟩
    · exact same ▸ grounded.distinct
    · exact added ▸ grounded.distinct.insert _ _
  · intro sighting member
    exact events ▸ grounded.pending sighting (proceeds.pending sighting member)
  · intro sighting member
    rw [events]
    exact (proceeds.asking sighting member).elim (grounded.asking sighting) (grounded.pending sighting)
  · intro start member
    rw [events]
    rcases proceeds.entering start member with before | ⟨sighting, asked, credentials, rfl⟩
    · exact grounded.entering start before
    · exact grounded.asking sighting asked
  · intro observation member
    rcases proceeds.active observation member with entered | ⟨old, before, same⟩
    · exact kept (.inl (grounded.entering _ entered))
    · have warranted := grounded.active old before
      rw [Observation.container, ← same] at warranted
      exact kept warranted
  · intro container pod found
    rcases proceeds.finished with same | ⟨observation, member, added⟩
    · exact kept (grounded.finished container pod (same ▸ found))
    · rw [added, Table.get?_insert] at found
      split at found
      case isTrue finishes =>
        rw [finishes, ← Option.some.inj found]
        exact kept (grounded.active observation member)
      case isFalse => exact kept (grounded.finished container pod found)

/-! ## Runs -/

/-- In every run, each finished container has a reason to be remembered. -/
theorem grounded_of_run {policy : Policy} {cacheSize : Nat}
    (runs : (empty policy cacheSize).run? place past = some vigil) :
    Grounded place (empty policy cacheSize) past vigil := by
  refine run_induction (grounded_empty place policy cacheSize) ?_ runs
  intro past vigil happening next before stepped grounded
  cases happening with
  | event event => exact grounded.step_event before (attends_step stepped)
  | look _ | start _ _ | act _ => exact grounded.step_proceeds rfl (proceeds_step rfl stepped)

/-- Every finished container belongs to a pod that lives, or to one that was gone before the container had
finished. -/
theorem lives_or_orphaned_of_finished {policy : Policy} {cacheSize : Nat} {happenings : List Happening}
    (runs : (empty policy cacheSize).run? place happenings = some vigil)
    (finished : vigil.monitor.finished.get? container = some pod) :
    Lives pod (eventsOf happenings) ∨ Orphaned place (empty policy cacheSize) happenings container pod :=
  (grounded_of_run runs).finished container pod finished

private def cluster : Place := ⟨"worker-1", "monitor"⟩

private def idle : Policy := ⟨5, ⟨false, false⟩, 1⟩

private def web : Pod where
  metadata := ⟨some "web-0", none, some "default", []⟩
  nodeName := some "worker-1"
  pullSecrets := []
  statuses := [⟨"web", "web:1", "", some "containerd://0123456789abcdef", true⟩]

private def webContainer : ContainerId := ⟨"0123456789ab", by decide⟩

/-- The container of the pod is observed. -/
private def observed : List Happening :=
  [.event .listingBegins, .event .listingEnds, .event (.applied web), .look [], .start [] [],
    .act (.enroll 0 ⟨"default", "Pod", "web-0", "web:1"⟩), .act (.aggregate 0 .subscribe), .act (.aggregate 0 .replay)]

/-- The window of the observation ends, and there is nothing to be done about its results. -/
private def concluded : List Happening :=
  [.act (.elapse 5), .act (.expire 0), .act (.aggregate 0 .heed), .act (.aggregate 0 .drain),
    .act (.aggregate 0 .leave), .act (.report 0)]

/-- A listing names the pod. -/
private def relisted : List Happening :=
  [.event .listingBegins, .event (.listed web), .look [], .event .listingEnds]

theorem lives_or_orphaned_of_relisted : ∃ vigil,
    (empty idle 1).run? cluster (observed ++ concluded ++ relisted) = some vigil ∧
      vigil.monitor.finished.get? webContainer = some web.key ∧
      (Lives web.key (eventsOf (observed ++ concluded ++ relisted)) ∨
        Orphaned cluster (empty idle 1) (observed ++ concluded ++ relisted) webContainer web.key) := by
  have facts : ((empty idle 1).run? cluster (observed ++ concluded ++ relisted)).map
      (·.monitor.finished.get? webContainer) = some (some web.key) := by
    decide +kernel
  obtain ⟨vigil, runs, finished⟩ := Option.map_eq_some_iff.mp facts
  exact ⟨vigil, runs, finished, lives_or_orphaned_of_finished runs finished⟩

/-- A container whose pod is deleted while it is observed is remembered although its pod is gone. -/
theorem finished_despite_deletion : ∃ vigil,
    (empty idle 1).run? cluster (observed ++ .event (.deleted web) :: concluded) = some vigil ∧
      vigil.monitor.finished.get? webContainer = some web.key ∧
      ¬ Lives web.key (eventsOf (observed ++ .event (.deleted web) :: concluded)) := by
  have facts : ((empty idle 1).run? cluster (observed ++ .event (.deleted web) :: concluded)).map
      (·.monitor.finished.get? webContainer) = some (some web.key) := by
    decide +kernel
  obtain ⟨vigil, runs, finished⟩ := Option.map_eq_some_iff.mp facts
  refine ⟨vigil, runs, finished, ?_⟩
  have events : eventsOf (observed ++ .event (.deleted web) :: concluded) = eventsOf observed ++ [.deleted web] := rfl
  rw [events, lives_concat]
  rintro (names | ⟨-, kept⟩)
  · exact Bool.false_ne_true names
  · exact kept rfl

end Vigil

end Observatory
