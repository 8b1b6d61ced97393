import Observatory.Proofs.Vigil.Single

/-! # How long finished containers are remembered

Main statement: a container that has finished is tracked until the first event that tells that its pod is
gone, and not after that, under every timing. Such an event is the deletion of the pod, or the end of a listing
that has not named the pod since it began. No event reaches a container that is still observed.
-/

namespace Observatory.Vigil

open Cluster WatchEvent

variable {place : Place} {policy : Policy} {cacheSize : Nat} {vigil latest next : Vigil}
  {past earlier later : List Happening} {happening : Happening} {event : WatchEvent} {container : ContainerId}
  {pod : PodKey}

/-- What the next event does to what the monitor tracks. -/
structure Forgets (events : List WatchEvent) (vigil : Vigil) (event : WatchEvent) (next : Vigil) : Prop where
  active : next.monitor.active = vigil.monitor.active
  finished_iff : ∀ container pod, next.monitor.finished.get? container = some pod ↔
    vigil.monitor.finished.get? container = some pod ∧ ¬ Removes pod events event
  tracked_iff : ∀ container pod, vigil.monitor.finished.get? container = some pod →
    (next.monitor.isTracked container = true ↔ ¬ Removes pod events event)
  /-- A listing that is begun anew, or one that ends without having begun, makes nothing forgotten. -/
  unlisted : event = .listingBegins ∨ event = .listingEnds ∧ (∀ pods, ¬ Lists events pods) →
    next.monitor.finished = vigil.monitor.finished

/-! ## Events -/

theorem get?_finished_of_event (grounded : Grounded place (empty policy cacheSize) past vigil)
    (attends : Attends vigil event next) (container : ContainerId) (pod : PodKey) :
    next.monitor.finished.get? container = some pod ↔
      vigil.monitor.finished.get? container = some pod ∧ ¬ Removes pod (eventsOf past) event := by
  rw [attends.finished, grounded.distinct.get?_filter, Option.filter_eq_some_iff, grounded.watch, Bool.not_eq_true',
    ← Watch.drops_after_iff, Bool.not_eq_true]

theorem isTracked_of_finished (finished : vigil.monitor.finished.get? container = some pod) :
    vigil.monitor.isTracked container = true := by
  simp [Monitor.isTracked, Table.contains_eq_isSome, finished]

theorem forgets_of_event (runs : (empty policy cacheSize).run? place past = some vigil)
    (stepped : vigil.step? place (.event event) = some next) : Forgets (eventsOf past) vigil event next := by
  have grounded := grounded_of_run runs
  have attends := attends_step stepped
  have finished_iff := get?_finished_of_event grounded attends
  refine ⟨attends.active, finished_iff, fun container pod finished => ?_, fun unlisted => ?_⟩
  · constructor
    · intro tracked removes
      -- it was not observed before the event, so only its being finished can make it tracked
      have unobserved : next.monitor.observing? container = none := by
        rw [Monitor.observing?, attends.active]
        exact ((sole_empty policy cacheSize).run runs).observing?_eq_none finished
      have contained : next.monitor.finished.contains container = true := by
        simpa [Monitor.isTracked, unobserved] using tracked
      obtain ⟨owner, found⟩ := Option.isSome_iff_exists.mp contained
      obtain ⟨before, stays⟩ := (finished_iff container owner).mp found
      obtain rfl : pod = owner := Option.some.inj (finished.symm.trans before)
      exact stays removes
    · intro stays
      exact isTracked_of_finished ((finished_iff container pod).mpr ⟨finished, stays⟩)
  · have kept : ∀ owner, vigil.watch.drops owner event = false := by
      intro owner
      rw [grounded.watch, ← Bool.not_eq_true, Watch.drops_after_iff]
      rcases unlisted with rfl | ⟨rfl, closed⟩
      · exact id
      · rintro ⟨pods, listed, -⟩
        exact closed pods listed
    rw [attends.finished]
    simp [Table.filter, kept]

/-! ## Everything else -/

/-- Whatever else happens, a finished container stays so with its pod. -/
theorem get?_finished_of_proceeds (sole : vigil.Sole) (proceeds : Proceeds vigil next)
    (finished : vigil.monitor.finished.get? container = some pod) :
    next.monitor.finished.get? container = some pod := by
  rcases proceeds.finished with same | ⟨observation, member, added⟩
  · rw [same, finished]
  · have differs : container ≠ observation.container := by
      rintro rfl
      have observed := (Monitor.isSome_observing?_iff vigil.monitor observation.container).mpr ⟨observation, member, rfl⟩
      rw [sole.observing?_eq_none finished] at observed
      contradiction
    rw [added, Table.get?_insert, if_neg differs, finished]

theorem get?_finished_of_unremoved (runs : (empty policy cacheSize).run? place earlier = some vigil)
    (finished : vigil.monitor.finished.get? container = some pod) (continues : vigil.run? place later = some latest)
    (unremoved : Unremoved pod (eventsOf earlier) (eventsOf later)) :
    latest.monitor.finished.get? container = some pod := by
  induction later using List.reverseRecOn generalizing latest with
  | nil => exact Option.some.inj continues ▸ finished
  | append_singleton later happening ih =>
    rw [run?_concat] at continues
    obtain ⟨middle, before, stepped⟩ := Option.bind_eq_some_iff.mp continues
    have reached : (empty policy cacheSize).run? place (earlier ++ later) = some middle := by
      rw [run?_append, runs]
      exact before
    cases happening with
    | event event =>
      rw [eventsOf_concat, Happening.event?, Option.toList_some, unremoved_concat] at unremoved
      refine ((forgets_of_event reached stepped).finished_iff container pod).mpr ⟨ih before unremoved.1, ?_⟩
      simpa [eventsOf] using unremoved.2
    | look _ | start _ _ | act _ =>
      rw [eventsOf_concat, Happening.event?, Option.toList_none, List.append_nil] at unremoved
      exact get?_finished_of_proceeds ((sole_empty policy cacheSize).run reached) (proceeds_step rfl stepped)
        (ih before unremoved)

/-- A finished container stays tracked, with its pod, until an event tells that the pod is gone. Each event makes
the monitor forget exactly the finished containers of the pods that it tells to be gone, and leaves the
observed ones alone. -/
theorem remembered_until_removed (runs : (empty policy cacheSize).run? place earlier = some vigil)
    (continues : vigil.run? place later = some latest) :
    (∀ container pod, vigil.monitor.finished.get? container = some pod →
      Unremoved pod (eventsOf earlier) (eventsOf later) →
        latest.monitor.finished.get? container = some pod ∧ latest.monitor.isTracked container = true) ∧
      ∀ event next, latest.step? place (.event event) = some next →
        Forgets (eventsOf (earlier ++ later)) latest event next := by
  constructor
  · intro container pod finished unremoved
    have still := get?_finished_of_unremoved runs finished continues unremoved
    exact ⟨still, isTracked_of_finished still⟩
  · intro event next stepped
    have reached : (empty policy cacheSize).run? place (earlier ++ later) = some latest := by
      rw [run?_append, runs]
      exact continues
    exact forgets_of_event reached stepped

private def depot : Place := ⟨"worker-1", "monitor"⟩

private def brief : Policy := ⟨5, ⟨false, false⟩, 1⟩

private def shopPod : Pod where
  metadata := ⟨some "shop-0", none, some "default", []⟩
  nodeName := some "worker-1"
  pullSecrets := []
  statuses := [⟨"shop", "shop:1", "", some "containerd://fedcba9876543210", true⟩]

private def shopContainer : ContainerId := ⟨"fedcba987654", by decide⟩

/-- The container of the pod is observed for as long as it has to be. -/
private def observedOut : List Happening :=
  [.event .listingBegins, .event .listingEnds, .event (.applied shopPod), .look [], .start [] [],
    .act (.enroll 0 ⟨"default", "Pod", "shop-0", "shop:1"⟩), .act (.aggregate 0 .subscribe),
    .act (.aggregate 0 .replay), .act (.elapse 5), .act (.expire 0), .act (.aggregate 0 .heed),
    .act (.aggregate 0 .drain), .act (.aggregate 0 .leave), .act (.report 0)]

/-- A listing is begun twice and names the pod then, another end follows, and a listing is begun that has not
named the pod yet. -/
private def listedTwice : List Happening :=
  [.event .listingBegins, .event .failed, .event .listingBegins, .event (.listed shopPod), .look [],
    .event .listingEnds, .event .listingEnds, .event .listingBegins]

theorem remembered_until_removed_of_listedTwice : ∃ vigil latest next,
    (empty brief 1).run? depot observedOut = some vigil ∧ vigil.run? depot listedTwice = some latest ∧
      latest.step? depot (.event .listingEnds) = some next ∧
      vigil.monitor.finished.get? shopContainer = some shopPod.key ∧
      Unremoved shopPod.key (eventsOf observedOut) (eventsOf listedTwice) ∧
      latest.monitor.isTracked shopContainer = true ∧ next.monitor.isTracked shopContainer = false := by
  have possible : ((empty brief 1).run? depot observedOut).any (fun vigil =>
      vigil.monitor.finished.get? shopContainer = some shopPod.key &&
        (vigil.run? depot listedTwice).any fun latest => (latest.step? depot (.event .listingEnds)).isSome) = true := by
    decide +kernel
  have unremoved : Unremoved shopPod.key (eventsOf observedOut) (eventsOf listedTwice) ∧
      Removes shopPod.key (eventsOf (observedOut ++ listedTwice)) .listingEnds := by
    decide +kernel
  simp only [Option.any_eq_true, Bool.and_eq_true, decide_eq_true_eq, Option.isSome_iff_exists] at possible
  obtain ⟨vigil, runs, finished, latest, continues, next, stepped⟩ := possible
  obtain ⟨kept, forgets⟩ := remembered_until_removed runs continues
  obtain ⟨still, tracked⟩ := kept shopContainer shopPod.key finished unremoved.1
  have forgotten := (forgets .listingEnds next stepped).tracked_iff shopContainer shopPod.key still
  exact ⟨vigil, latest, next, runs, continues, stepped, finished, unremoved.1, tracked,
    by simpa [unremoved.2] using forgotten⟩

end Observatory.Vigil
