import Observatory.Proofs.Cache.Order
import Mathlib.Order.Bounds.Basic

/-! # Where an event is put, and what is lost by it

The scan for a place ends at the first vacant slot and does not look at those behind it, and the oldest
bucket is looked for by a scan of its own. Main statement: on a ring that insertions have made, both agree
with a rule about all slots at once. The event joins the lowest bucket that accepts it; if none does, it
opens the lowest vacant slot; if none is vacant, it takes the place of the oldest bucket. Nothing else
changes, so an arrival is shown until the slot that holds it is given up.
-/

namespace Observatory.Cache

open Calendar Trace

namespace Placement

def slot : Placement → Nat
  | .claimed slot | .appended slot | .evicted slot => slot

/-- What is left of the slot's bucket for the event to be added to. -/
def kept : Placement → Bucket → Bucket
  | .claimed _, bucket | .appended _, bucket => bucket
  | .evicted _, _ => .vacant

end Placement

namespace Ring

variable {ring : Ring} {filled : List Bucket} {free slot size : Nat} {event : Event} {time : Timestamp}
  {placement other : Placement}

/-! ## The place of an event -/

def AcceptsAt (ring : Ring) (time : Timestamp) (slot : Nat) : Prop :=
  ∃ bucket ∈ ring.buckets[slot]?, bucket.accepts time = true

def VacantAt (ring : Ring) (slot : Nat) : Prop :=
  ∃ bucket ∈ ring.buckets[slot]?, bucket.firstSeen = none

/-- The place of an event of this time, by what all slots hold. -/
def Belongs (ring : Ring) (time : Timestamp) : Placement → Prop
  | .appended slot => IsLeast {slot | ring.AcceptsAt time slot} slot
  | .claimed slot => (∀ slot, ¬ ring.AcceptsAt time slot) ∧ IsLeast {slot | ring.VacantAt slot} slot
  | .evicted slot => (∀ slot, ¬ ring.AcceptsAt time slot) ∧ (∀ slot, ¬ ring.VacantAt slot) ∧
      ∃ first, ring.firstSeenAt? slot = some first ∧
        ∀ other start, other ≠ slot → ring.firstSeenAt? other = some start → first.before start = true

theorem Belongs.unique (belongs : ring.Belongs time placement) (belongsOther : ring.Belongs time other) :
    placement = other := by
  cases placement with
  | appended slot =>
    cases other with
    | appended slotOther => rw [IsLeast.unique belongs belongsOther]
    | claimed slotOther | evicted slotOther => exact absurd belongs.1 (belongsOther.1 slot)
  | claimed slot =>
    cases other with
    | appended slotOther => exact absurd belongsOther.1 (belongs.1 slotOther)
    | claimed slotOther => rw [IsLeast.unique belongs.2 belongsOther.2]
    | evicted slotOther => exact absurd belongs.2.1 (belongsOther.2.1 slot)
  | evicted slot =>
    cases other with
    | appended slotOther => exact absurd belongsOther.1 (belongs.1 slotOther)
    | claimed slotOther => exact absurd belongsOther.2.1 (belongs.2.1 slotOther)
    | evicted slotOther =>
      obtain ⟨-, -, first, opened, oldest⟩ := belongs
      obtain ⟨-, -, start, openedOther, oldestOther⟩ := belongsOther
      by_contra differ
      have distinct : slot ≠ slotOther := fun same => differ (congrArg Placement.evicted same)
      have earlier := oldest slotOther start distinct.symm openedOther
      exact Timestamp.not_before_of_before earlier (oldestOther slot first distinct opened)

theorem Layout.getElem?_eq_some_iff (layout : ring.Layout filled free) {bucket : Bucket} :
    ring.buckets[slot]? = some bucket ↔ filled[slot]? = some bucket ∨
      filled.length ≤ slot ∧ slot < filled.length + free ∧ bucket = .vacant := by
  rw [layout.buckets_eq]
  rcases Nat.lt_or_ge slot filled.length with inside | beyond
  · rw [List.getElem?_append_left inside]
    exact ⟨.inl, fun found => found.resolve_right fun outside => by omega⟩
  · have spare : slot - filled.length < free ↔ slot < filled.length + free := by omega
    rw [List.getElem?_append_right beyond, List.getElem?_replicate, List.getElem?_eq_none beyond]
    simp [beyond, spare, eq_comm]

theorem Layout.acceptsAt_iff (layout : ring.Layout filled free) :
    ring.AcceptsAt time slot ↔ ∃ bucket ∈ filled[slot]?, bucket.accepts time = true := by
  simp only [AcceptsAt, Option.mem_def, layout.getElem?_eq_some_iff]
  constructor
  · rintro ⟨bucket, found | ⟨-, -, rfl⟩, accepts⟩
    · exact ⟨bucket, found, accepts⟩
    · cases accepts
  · rintro ⟨bucket, found, accepts⟩
    exact ⟨bucket, .inl found, accepts⟩

theorem Layout.vacantAt_iff (layout : ring.Layout filled free) :
    ring.VacantAt slot ↔ filled.length ≤ slot ∧ slot < filled.length + free := by
  simp only [VacantAt, Option.mem_def, layout.getElem?_eq_some_iff]
  constructor
  · rintro ⟨bucket, found | ⟨beyond, inside, -⟩, vacant⟩
    · have opened := layout.opened bucket (List.mem_of_getElem? found)
      simp [vacant] at opened
    · exact ⟨beyond, inside⟩
  · rintro ⟨beyond, inside⟩
    exact ⟨.vacant, .inr ⟨beyond, inside, rfl⟩, rfl⟩

theorem Layout.not_acceptsAt (layout : ring.Layout filled free)
    (refused : ∀ bucket ∈ filled, bucket.accepts time = false) (slot : Nat) : ¬ ring.AcceptsAt time slot := by
  rw [layout.acceptsAt_iff]
  rintro ⟨bucket, found, accepts⟩
  simp [refused bucket (List.mem_of_getElem? found)] at accepts

theorem Inserted.belongs {filled' : List Bucket} {free' : Nat} (invariant : ring.Invariant filled free)
    (inserted : Inserted event filled free filled' free' (some placement)) :
    ring.Belongs event.timestamp placement := by
  have layout := invariant.toLayout
  cases inserted with
  | @appended left right bucket free refused accepted =>
    refine ⟨layout.acceptsAt_iff.mpr ⟨bucket, by simp, accepted⟩, fun slot accepts => ?_⟩
    by_contra lower
    obtain ⟨earlier, found, accepts⟩ := layout.acceptsAt_iff.mp accepts
    rw [Option.mem_def, List.getElem?_append_left (by omega)] at found
    simp [refused earlier (List.mem_of_getElem? found)] at accepts
  | @claimed filled free refused =>
    refine ⟨layout.not_acceptsAt refused, layout.vacantAt_iff.mpr (by omega), fun slot vacant => ?_⟩
    exact (layout.vacantAt_iff.mp vacant).1
  | @evicted left right bucket first refused opened oldest =>
    have openedAt : ring.firstSeenAt? left.length = some first := by
      rw [layout.firstSeenAt?]
      simpa using opened
    refine ⟨layout.not_acceptsAt refused, fun slot vacant => ?_, first, openedAt, fun slot start differs openedStart => ?_⟩
    · have bounds := layout.vacantAt_iff.mp vacant
      omega
    · -- the two are a second apart, so one of them is older
      have apart := invariant.toWellFormed.separated _ _ _ _ differs openedStart openedAt
      have notWithin : start.withinSecond first = false := by
        rw [← Bool.not_eq_true, Timestamp.withinSecond_iff]
        omega
      rw [layout.firstSeenAt?] at openedStart
      obtain ⟨later, found, opens⟩ := Option.bind_eq_some_iff.mp openedStart
      exact (Timestamp.before_or_before_of_not_withinSecond notWithin).resolve_left
        (oldest later (List.mem_of_getElem? found) start opens)

/-! ## What is stored and what is lost -/

/-- The event has been stored at this place, where there was this bucket before. -/
structure Stores (ring : Ring) (event : Event) (placement : Placement) (old : Bucket) (ring' : Ring) : Prop where
  size_eq : ring'.size = ring.size
  found : ring.buckets[placement.slot]? = some old
  others : ∀ slot, slot ≠ placement.slot → ring'.buckets[slot]? = ring.buckets[slot]?
  /-- The event is the first one of its bucket, unless the bucket had one. -/
  firstSeen_eq : ring'.firstSeenAt? placement.slot = (placement.kept old).firstSeen.or (some event.timestamp)
  /-- The event comes last among those of its container, and the other containers keep theirs. -/
  lookup_eq : ∃ new ∈ ring'.buckets[placement.slot]?, ∀ container, new.events.get? container =
    if container = event.container then some ((placement.kept old).eventsOf container ++ [event])
    else (placement.kept old).events.get? container
  /-- A query gains the event and loses what is not kept of the bucket. -/
  eventsOf_eq : ∀ container, ∃ before after,
    ring.eventsOf container = before ++ old.eventsOf container ++ after ∧
    ring'.eventsOf container = before ++ ((placement.kept old).eventsOf container ++
      if event.container = container then [event] else []) ++ after

theorem stores_of_replaced {ring' : Ring} {left right : List Bucket} {old new : Bucket}
    (before : ring.buckets = left ++ old :: right) (after : ring'.buckets = left ++ new :: right)
    (here : placement.slot = left.length)
    (start : new.firstSeen = (placement.kept old).firstSeen.or (some event.timestamp))
    (events : new.events = ((placement.kept old).push event).events) :
    ring.Stores event placement old ring' where
  size_eq := by simp [size, before, after]
  found := by simp [before, here]
  others slot differs := by
    rw [before, after]
    exact getElem?_replace old new (here ▸ differs)
  firstSeen_eq := by simp [firstSeenAt?, after, here, start]
  lookup_eq := by
    refine ⟨new, by simp [after, here], fun container => ?_⟩
    rw [events, Bucket.push, Table.get?_insert]
    split
    · rename_i same
      rw [same]
    · rfl
  eventsOf_eq container := by
    have added : new.eventsOf container = (placement.kept old).eventsOf container ++
        if event.container = container then [event] else [] := by
      rw [← Bucket.eventsOf_push, Bucket.eventsOf, events]
      rfl
    refine ⟨left.flatMap (·.eventsOf container), right.flatMap (·.eventsOf container), ?_, ?_⟩
    · simp [eventsOf, before]
    · simp [eventsOf, after, added]

theorem Inserted.stores {ring' : Ring} {filled' : List Bucket} {free' : Nat} (layout : ring.Layout filled free)
    (layout' : ring'.Layout filled' free')
    (inserted : Inserted event filled free filled' free' (some placement)) :
    ∃ old, ring.Stores event placement old ring' := by
  have before := layout.buckets_eq
  have after := layout'.buckets_eq
  cases inserted with
  | @appended left right bucket free refused accepted =>
    obtain ⟨first, opened, -⟩ := Bucket.accepts_iff.mp accepted
    rw [List.append_assoc] at before after
    exact ⟨bucket, stores_of_replaced before after rfl (by simp [Placement.kept, opened]) rfl⟩
  | @claimed filled free refused =>
    rw [List.replicate_succ] at before
    rw [List.append_assoc] at after
    exact ⟨.vacant, stores_of_replaced before after rfl rfl rfl⟩
  | @evicted left right bucket first refused opened oldest =>
    rw [List.append_assoc] at before after
    exact ⟨bucket, stores_of_replaced before after rfl rfl rfl⟩

/-- An event is stored where it belongs. -/
theorem exists_stores (positive : 0 < size) (events : List Event) (event : Event) :
    let ring := (empty size).insertAll events
    ∃ placement, (ring.insert event).2 = some placement ∧ ring.Belongs event.timestamp placement ∧
      ∃ old, ring.Stores event placement old (ring.insert event).1 := by
  intro ring
  obtain ⟨filled, free, invariant, total⟩ := (invariant_empty size).insertAll events
  obtain ⟨filled', free', inserted, layout'⟩ := invariant.toLayout.insert event
  obtain ⟨placement, placed⟩ := invariant.exists_placement (by simpa [total] using positive) event
  rw [placed] at inserted
  exact ⟨placement, placed, inserted.belongs invariant, inserted.stores invariant.toLayout layout'⟩

end Ring

/-! ## Arrivals that are no longer held -/

variable {size : Nat} {events : List Event} {event : Event} {arrival : Arrival} {slot : Nat}

theorem holdings_concat (size : Nat) (events : List Event) (event : Event) :
    holdings size (events ++ [event]) = enter (holdings size events) (event, events.length)
      (((Ring.empty size).insertAll events).insert event).2 := by
  have ring := Ledger.ring_recordAll (.empty size) events.zipIdx
  rw [Ledger.empty_ring, List.zipIdx_map_fst] at ring
  rw [← ring, holdings, List.zipIdx_append]
  simp [Ledger.recordAll, Ledger.record, holdings]

theorem HeldAt.number_lt (heldAt : HeldAt size events arrival slot) : arrival.2 < events.length :=
  (List.getElem?_eq_some_iff.mp heldAt.getElem?_number).1

/-- An arrival is held in one slot only. -/
theorem HeldAt.slot_unique {other : Nat} (heldAt : HeldAt size events arrival slot)
    (heldAtOther : HeldAt size events arrival other) : slot = other := by
  have twice (low high : Nat) (heldLow : HeldAt size events arrival low) (heldHigh : HeldAt size events arrival high) :
      ¬ low < high := fun below => by
    have pair := heldLow.pair_sublist heldHigh (.inl below)
    simpa using (nodup_holdings size events).sublist pair
  have notBelow := twice slot other heldAt heldAtOther
  have notAbove := twice other slot heldAtOther heldAt
  omega

/-- A vacant slot holds nothing. -/
theorem not_heldAt_of_vacantAt (vacant : ((Ring.empty size).insertAll events).VacantAt slot) :
    ¬ HeldAt size events arrival slot := by
  intro heldAt
  obtain ⟨bucket, found, opened, -⟩ := heldAt.exists_bucket
  obtain ⟨empty, foundEmpty, unopened⟩ := vacant
  obtain rfl : bucket = empty := Option.some.inj (found.symm.trans foundEmpty)
  simp [unopened] at opened

/-- The insertion enters its arrival in the slot that it says. -/
theorem exists_heldAt_concat (positive : 0 < size) (events : List Event) (event : Event) :
    ∃ slot, HeldAt size (events ++ [event]) (event, events.length) slot := by
  obtain ⟨placement, placed, -, old, stores⟩ := Ring.exists_stores positive events event
  have sameLength := (holds_holdings size events).length_eq
  have bound : placement.slot < (holdings size events).length := by
    rw [← sameLength]
    exact (List.getElem?_eq_some_iff.mp stores.found).1
  refine ⟨placement.slot, ?_⟩
  rw [HeldAt, holdings_concat, placed]
  cases placement with
  | appended slot | claimed slot | evicted slot =>
    simp only [Placement.slot] at bound ⊢
    simp [enter, bound]

/-- One more insertion leaves what was held where it is, unless it gives up the slot. -/
theorem heldAt_concat_iff (positive : 0 < size) (older : arrival.2 < events.length) :
    HeldAt size (events ++ [event]) arrival slot ↔ HeldAt size events arrival slot ∧
      (((Ring.empty size).insertAll events).insert event).2 ≠ some (.evicted slot) := by
  obtain ⟨placement, placed, belongs, -⟩ := Ring.exists_stores positive events event
  have differs : arrival ≠ (event, events.length) := by
    rintro rfl
    exact Nat.lt_irrefl _ older
  rw [HeldAt, holdings_concat, placed]
  cases placement with
  | appended place =>
    by_cases here : place = slot <;> simp [enter, HeldAt, here, differs]
  | claimed place =>
    by_cases here : place = slot
    · -- only a vacant slot is claimed
      have nothing : ¬ HeldAt size events arrival place := not_heldAt_of_vacantAt belongs.2.1
      rw [here] at nothing
      simp [enter, here, differs, nothing]
    · simp [enter, HeldAt, here]
  | evicted place =>
    by_cases here : place = slot <;> simp [enter, HeldAt, here, differs]

/-- The insertion with this number takes the place of the bucket that holds the arrival. -/
def GivesUp (size : Nat) (events : List Event) (number : Nat) (arrival : Arrival) : Prop :=
  ∃ event ∈ events[number]?, ∃ slot, HeldAt size (events.take number) arrival slot ∧
    (((Ring.empty size).insertAll (events.take number)).insert event).2 = some (.evicted slot)

theorem GivesUp.number_lt {number : Nat} (givesUp : GivesUp size events number arrival) :
    arrival.2 < number ∧ number < events.length := by
  obtain ⟨event, found, slot, heldAt, -⟩ := givesUp
  have older := heldAt.number_lt
  rw [List.length_take] at older
  exact ⟨by omega, (List.getElem?_eq_some_iff.mp found).1⟩

theorem givesUp_concat_iff {number : Nat} :
    GivesUp size (events ++ [event]) number arrival ↔ GivesUp size events number arrival ∨
      number = events.length ∧ ∃ slot, HeldAt size events arrival slot ∧
        (((Ring.empty size).insertAll events).insert event).2 = some (.evicted slot) := by
  rcases Nat.lt_trichotomy number events.length with earlier | rfl | beyond
  · simp [GivesUp, List.getElem?_append_left earlier, List.take_append_of_le_length (Nat.le_of_lt earlier),
      Nat.ne_of_lt earlier]
  · simp [GivesUp]
  · have none : (events ++ [event])[number]? = none := List.getElem?_eq_none (by simp; omega)
    simp [GivesUp, none, Nat.le_of_lt beyond, Nat.ne_of_gt beyond]

/-- An arrival is held until the slot that holds it is given up. -/
theorem exists_heldAt_iff (positive : 0 < size) {number : Nat} (listed : events[number]? = some event) :
    (∃ slot, HeldAt size events (event, number) slot) ↔
      ∀ later, ¬ GivesUp size events later (event, number) := by
  induction events using List.reverseRecOn with
  | nil => simp at listed
  | append_singleton events last ih =>
    rcases Nat.lt_or_ge number events.length with older | newest
    · rw [List.getElem?_append_left older] at listed
      have step (slot : Nat) : HeldAt size (events ++ [last]) (event, number) slot ↔ _ :=
        heldAt_concat_iff positive older
      simp only [step, givesUp_concat_iff, not_or, forall_and, ← ih listed]
      constructor
      · rintro ⟨slot, heldAt, stays⟩
        refine ⟨⟨slot, heldAt⟩, ?_⟩
        rintro later ⟨rfl, place, heldAtPlace, givenUp⟩
        exact stays (heldAt.slot_unique heldAtPlace ▸ givenUp)
      · rintro ⟨⟨slot, heldAt⟩, stays⟩
        exact ⟨slot, heldAt, fun givenUp => stays events.length ⟨rfl, slot, heldAt, givenUp⟩⟩
    · have bound := (List.getElem?_eq_some_iff.mp listed).1
      rw [List.length_append, List.length_singleton] at bound
      obtain rfl : number = events.length := by omega
      obtain rfl : last = event := by simpa using listed
      refine iff_of_true (exists_heldAt_concat positive events last) fun later givesUp => ?_
      have bounds := givesUp.number_lt
      simp only [List.length_append, List.length_singleton] at bounds
      omega

theorem mem_shown_iff {container : ContainerId} :
    arrival ∈ shown size events container ↔
      (∃ slot, HeldAt size events arrival slot) ∧ arrival.1.container = container := by
  simp only [shown, HeldAt, List.mem_filter, List.mem_flatten, decide_eq_true_eq]
  refine and_congr_left fun _ => ⟨?_, ?_⟩
  · rintro ⟨held, member, inHeld⟩
    obtain ⟨slot, found⟩ := List.getElem?_of_mem member
    exact ⟨slot, held, found, inHeld⟩
  · rintro ⟨slot, held, found, inHeld⟩
    exact ⟨held, List.mem_of_getElem? found, inHeld⟩

/-- An insertion into a ring that insertions have made puts the event where it belongs, which is one place, and
changes nothing else. What a query shows are the arrivals whose slot has not been given up since. -/
theorem stored_until_given_up (size : Nat) (positive : 0 < size) (events : List Event) (event : Event) :
    let ring := (Ring.empty size).insertAll events
    (∃ placement old, (ring.insert event).2 = some placement ∧
        (∀ other, ring.Belongs event.timestamp other ↔ other = placement) ∧
        ring.Stores event placement old (ring.insert event).1) ∧
      ∀ container, (shown size events container).map (·.1) = ring.eventsOf container ∧
        ∀ stored number, (stored, number) ∈ shown size events container ↔
          events[number]? = some stored ∧ stored.container = container ∧
            ∀ later, ¬ GivesUp size events later (stored, number) := by
  intro ring
  obtain ⟨placement, placed, belongs, old, stores⟩ := Ring.exists_stores positive events event
  refine ⟨⟨placement, old, placed, fun other => ⟨fun belongsOther => belongsOther.unique belongs, ?_⟩, stores⟩,
    fun container => ⟨map_shown size events container, fun stored number => ?_⟩⟩
  · rintro rfl
    exact belongs
  · rw [mem_shown_iff]
    constructor
    · rintro ⟨⟨slot, heldAt⟩, same⟩
      have listed := heldAt.getElem?_number
      exact ⟨listed, same, (exists_heldAt_iff positive listed).mp ⟨slot, heldAt⟩⟩
    · rintro ⟨listed, same, unbroken⟩
      exact ⟨(exists_heldAt_iff positive listed).mpr unbroken, same⟩

/-- Events of one container at these seconds of a minute, in the order in which they arrive. -/
private def pulses (seconds : List String) : List Event :=
  seconds.filterMap fun second =>
    (Trace.readFields (Text.joinWith Trace.separator
      [("2024-01-01T00:00:" ++ second).toList, ['a'], [], ['1'], ['2'], [], [], []])).toOption

/-- A full ring whose oldest bucket was the last to be added to: it is given up all the same. -/
theorem stored_until_given_up_of_busy :
    let ring := (Ring.empty 2).insertAll (pulses ["00.0", "02.0", "00.9"])
    ∃ late ∈ pulses ["05.0"], ∃ old, ring.Belongs late.timestamp (.evicted 0) ∧
      ring.Stores late (.evicted 0) old (ring.insert late).1 := by
  have evicts : ∃ late ∈ pulses ["05.0"],
      (((Ring.empty 2).insertAll (pulses ["00.0", "02.0", "00.9"])).insert late).2 = some (.evicted 0) := by
    decide +kernel
  obtain ⟨late, member, evicted⟩ := evicts
  obtain ⟨⟨placement, old, placed, belongs, stores⟩, -⟩ := stored_until_given_up 2 (by decide) _ late
  obtain rfl := Option.some.inj (placed.symm.trans evicted)
  exact ⟨late, member, old, (belongs _).mpr rfl, stores⟩

end Observatory.Cache
