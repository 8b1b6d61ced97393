import Observatory.Cache.Bucket
import Observatory.Proofs.Calendar.Difference
import Observatory.Proofs.Table

/-! # Well-formed buckets

A bucket that was opened by one event and then given only events that it accepts: its first event is
still among the stored ones, and all of them lie within one second of it.
-/

namespace Observatory.Cache.Bucket

open Calendar Trace

variable {bucket : Bucket} {event other : Event}

/-- All events of a bucket, of whatever container. -/
def stored (bucket : Bucket) : List Event :=
  bucket.events.values.flatten

theorem mem_stored_iff : event ∈ bucket.stored ↔ ∃ entry ∈ bucket.events.entries, event ∈ entry.2 := by
  simp only [stored, Table.values, List.mem_flatten, List.mem_map]
  constructor
  · rintro ⟨-, ⟨entry, member, rfl⟩, inEntry⟩
    exact ⟨entry, member, inEntry⟩
  · rintro ⟨entry, member, inEntry⟩
    exact ⟨_, ⟨entry, member, rfl⟩, inEntry⟩

/-- What is found under a container stands in one of its entries. -/
theorem exists_entry_of_mem_eventsOf {container : ContainerId} (found : event ∈ bucket.eventsOf container) :
    ∃ events, (container, events) ∈ bucket.events.entries ∧ event ∈ events := by
  cases lookup : bucket.events.get? container with
  | none => simp [eventsOf, lookup] at found
  | some events =>
    simp only [eventsOf, lookup, Option.getD_some] at found
    exact ⟨events, Table.mem_entries_of_get? lookup, found⟩

structure WellFormed (bucket : Bucket) : Prop where
  distinct : bucket.events.Distinct
  vacant_iff : bucket.firstSeen = none ↔ bucket.events.entries = []
  /-- No container is listed without an event, nor with an event of another one. -/
  keyed : ∀ entry ∈ bucket.events.entries, entry.2 ≠ [] ∧ ∀ event ∈ entry.2, event.container = entry.1
  /-- Every stored event is less than a second away from the first one, in both directions. -/
  near : ∀ first, bucket.firstSeen = some first → ∀ event ∈ bucket.stored,
    event.timestamp.difference first < second ∧ first.difference event.timestamp < second
  first_stored : ∀ first, bucket.firstSeen = some first → ∃ event ∈ bucket.stored, event.timestamp = first

/-- A bucket accepts what is within a second of its first event. -/
theorem accepts_iff {time : Timestamp} :
    bucket.accepts time = true ↔ ∃ first, bucket.firstSeen = some first ∧ time.withinSecond first = true := by
  cases opened : bucket.firstSeen with
  | none => simp [accepts, opened]
  | some first => simp [accepts, opened]

theorem wellFormed_vacant : vacant.WellFormed where
  distinct := Table.distinct_empty
  vacant_iff := iff_of_true rfl rfl
  keyed _ member := absurd member List.not_mem_nil
  near _ opened := nomatch opened
  first_stored _ opened := nomatch opened

/-- What a bucket has for a container is what it stores of it. -/
theorem WellFormed.mem_eventsOf_iff (wellFormed : bucket.WellFormed) {container : ContainerId} :
    event ∈ bucket.eventsOf container ↔ event ∈ bucket.stored ∧ event.container = container := by
  rw [mem_stored_iff]
  constructor
  · intro found
    obtain ⟨events, member, inEvents⟩ := exists_entry_of_mem_eventsOf found
    exact ⟨⟨_, member, inEvents⟩, (wellFormed.keyed _ member).2 event inEvents⟩
  · rintro ⟨⟨⟨key, events⟩, member, inEvents⟩, rfl⟩
    obtain rfl : event.container = key := (wellFormed.keyed _ member).2 event inEvents
    rw [wellFormed.distinct.mem_entries_iff] at member
    simpa [eventsOf, member] using inEvents

/-! ## Pushing -/

@[simp] theorem push_firstSeen (bucket : Bucket) (event : Event) :
    (bucket.push event).firstSeen = bucket.firstSeen := rfl

@[simp] theorem opened_firstSeen (event : Event) : (opened event).firstSeen = some event.timestamp := rfl

@[simp] theorem eventsOf_vacant (container : ContainerId) : vacant.eventsOf container = [] := rfl

/-- An event goes to the end of those of its container. -/
theorem eventsOf_push (bucket : Bucket) (event : Event) (container : ContainerId) :
    (bucket.push event).eventsOf container =
      bucket.eventsOf container ++ if event.container = container then [event] else [] := by
  simp only [eventsOf, push, Table.get?_insert]
  by_cases same : container = event.container
  · simp [same]
  · simp [same, Ne.symm same]

/-- Pushing adds the event and nothing else. -/
theorem mem_stored_push (distinct : bucket.events.Distinct) :
    other ∈ (bucket.push event).stored ↔ other ∈ bucket.stored ∨ other = event := by
  simp only [mem_stored_iff, push, Table.mem_entries_insert]
  constructor
  · rintro ⟨entry, ⟨-, member⟩ | rfl, inEntry⟩
    · exact .inl ⟨entry, member, inEntry⟩
    · rcases List.mem_append.mp inEntry with earlier | last
      · obtain ⟨events, member, inEntry⟩ := exists_entry_of_mem_eventsOf earlier
        exact .inl ⟨_, member, inEntry⟩
      · exact .inr (List.mem_singleton.mp last)
  · rintro (⟨entry, member, inEntry⟩ | rfl)
    · by_cases same : entry.1 = event.container
      · have found := distinct.mem_entries_iff.mp member
        refine ⟨_, .inr rfl, List.mem_append_left _ ?_⟩
        simpa [eventsOf, ← same, found] using inEntry
      · exact ⟨entry, .inl ⟨same, member⟩, inEntry⟩
    · exact ⟨_, .inr rfl, by simp⟩

/-- A bucket stays well formed while it is given only what it accepts. -/
theorem WellFormed.push (wellFormed : bucket.WellFormed) (accepted : bucket.accepts event.timestamp = true) :
    (bucket.push event).WellFormed := by
  obtain ⟨first, opened, within⟩ := accepts_iff.mp accepted
  refine ⟨wellFormed.distinct.insert _ _, ?_, ?_, ?_, ?_⟩
  · simp [opened, Bucket.push, Table.insert]
  · intro entry member
    rcases Table.mem_entries_insert.mp member with ⟨-, old⟩ | rfl
    · exact wellFormed.keyed entry old
    · refine ⟨by simp, fun stored inEntry => ?_⟩
      rcases List.mem_append.mp inEntry with earlier | last
      · obtain ⟨events, old, inEvents⟩ := exists_entry_of_mem_eventsOf earlier
        exact (wellFormed.keyed _ old).2 stored inEvents
      · rw [List.mem_singleton.mp last]
  · intro start openedAt stored member
    rcases (mem_stored_push wellFormed.distinct).mp member with old | rfl
    · exact wellFormed.near start openedAt stored old
    · obtain rfl : first = start := Option.some.inj (opened.symm.trans openedAt)
      have bounds := Timestamp.withinSecond_iff.mp within
      have antisymm := Timestamp.difference_antisymm first stored.timestamp
      exact ⟨bounds.1, by omega⟩
  · intro start openedAt
    obtain ⟨stored, old, same⟩ := wellFormed.first_stored start openedAt
    exact ⟨stored, (mem_stored_push wellFormed.distinct).mpr (.inl old), same⟩

theorem wellFormed_opened (event : Event) : (opened event).WellFormed := by
  have only : ∀ stored ∈ (opened event).stored, stored = event := fun stored member => by
    simpa [opened, Bucket.push, Bucket.stored, Table.insert, Table.erase, Table.values, Table.empty,
      eventsOf, Table.get?] using member
  refine ⟨Table.distinct_empty.insert _ _, ?_, ?_, ?_, ?_⟩
  · simp [opened, Bucket.push, Table.insert]
  · intro entry member
    obtain rfl : entry = (event.container, [event]) := by
      simpa [opened, Bucket.push, Table.insert, Table.erase, Table.empty, eventsOf, Table.get?] using member
    simp
  · intro first openedAt stored member
    obtain rfl : event.timestamp = first := Option.some.inj openedAt
    rw [only stored member, Timestamp.difference_self]
    decide
  · intro first openedAt
    refine ⟨event, ?_, Option.some.inj openedAt⟩
    exact (mem_stored_push Table.distinct_empty).mpr (.inr rfl)

end Observatory.Cache.Bucket
