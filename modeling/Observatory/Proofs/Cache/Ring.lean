import Observatory.Cache.Ring
import Observatory.Proofs.Cache.Bucket

/-! # The ring's representation invariant

The filled buckets of a ring come before the vacant ones, and an insertion either adds to a filled bucket
that accepts the event, or opens the first vacant bucket, or opens the bucket with the oldest first
event anew. `Inserted` is this case distinction; everything else about a ring follows from it. Main
statement: after any insertions, no bucket accepts the first event of another, so that the bucket to be
given up next is always unique.
-/

namespace Observatory.Cache.Ring

open Calendar Trace

variable {ring : Ring} {filled : List Bucket} {free : Nat} {event : Event}

/-- Store events one after the other. -/
def insertAll (ring : Ring) (events : List Event) : Ring :=
  events.foldl (fun ring event => (ring.insert event).1) ring

theorem insertAll_append (ring : Ring) (events later : List Event) :
    ring.insertAll (events ++ later) = (ring.insertAll events).insertAll later :=
  List.foldl_append ..

/-! ## The oldest bucket -/

/-- The better candidate of the best one so far and the next bucket. -/
private def older (best : Option (Nat × Timestamp)) (slot : Nat) (bucket : Bucket) :
    Option (Nat × Timestamp) :=
  match bucket.firstSeen, best with
  | none, best => best
  | some first, none => some (slot, first)
  | some first, some (old, oldest) =>
      if first.before oldest then some (slot, first) else some (old, oldest)

private theorem oldestFrom_cons (best : Option (Nat × Timestamp)) (slot : Nat) (bucket : Bucket)
    (rest : List Bucket) :
    oldestFrom best slot (bucket :: rest) = oldestFrom (older best slot bucket) (slot + 1) rest := rfl

private theorem older_eq_none_iff {best : Option (Nat × Timestamp)} {slot : Nat} {bucket : Bucket} :
    older best slot bucket = none ↔ best = none ∧ bucket.firstSeen = none := by
  unfold older
  split <;> simp_all
  split <;> simp

/-- The better candidate is one of the two, and neither of them is older. -/
private theorem older_spec {best : Option (Nat × Timestamp)} {slot : Nat} {bucket : Bucket}
    {chosen : Nat × Timestamp} (chooses : older best slot bucket = some chosen) :
    (best = some chosen ∨ chosen.1 = slot ∧ bucket.firstSeen = some chosen.2) ∧
      (∀ old, best = some old → ¬ old.2.before chosen.2 = true) ∧
      ∀ first, bucket.firstSeen = some first → ¬ first.before chosen.2 = true := by
  unfold older at chooses
  cases opened : bucket.firstSeen with
  | none =>
    simp only [opened] at chooses
    refine ⟨.inl chooses, fun old same => ?_, by simp⟩
    obtain rfl : old = chosen := Option.some.inj (same.symm.trans chooses)
    exact Timestamp.not_before_self _
  | some first =>
    cases best with
    | none =>
      simp only [opened, Option.some.injEq] at chooses
      subst chooses
      exact ⟨.inr ⟨rfl, rfl⟩, by simp, by simp [Timestamp.not_before_self]⟩
    | some old =>
      obtain ⟨slotOfOld, oldest⟩ := old
      simp only [opened] at chooses
      split at chooses <;> rename_i earlier <;> obtain rfl := Option.some.inj chooses
      · refine ⟨.inr ⟨rfl, rfl⟩, ?_, by simp [Timestamp.not_before_self]⟩
        rintro old ⟨rfl⟩
        exact Timestamp.not_before_of_before earlier
      · refine ⟨.inl rfl, ?_, ?_⟩
        · rintro old ⟨rfl⟩
          exact Timestamp.not_before_self _
        · rintro time ⟨rfl⟩
          exact earlier

/-- The scan ends with the best candidate from before or with one of the buckets, and nothing that it
saw is older. -/
private theorem oldestFrom_spec {best : Option (Nat × Timestamp)} {slot : Nat} {buckets : List Bucket}
    {chosen : Nat × Timestamp} (chooses : oldestFrom best slot buckets = some chosen) :
    (best = some chosen ∨ ∃ left bucket right, buckets = left ++ bucket :: right ∧
        chosen.1 = slot + left.length ∧ bucket.firstSeen = some chosen.2) ∧
      (∀ old, best = some old → ¬ old.2.before chosen.2 = true) ∧
      ∀ bucket ∈ buckets, ∀ first, bucket.firstSeen = some first → ¬ first.before chosen.2 = true := by
  induction buckets generalizing best slot with
  | nil =>
    refine ⟨.inl chooses, fun old same => ?_, by simp⟩
    obtain rfl : old = chosen := Option.some.inj (same.symm.trans chooses)
    exact Timestamp.not_before_self _
  | cons head rest ih =>
    rw [oldestFrom_cons] at chooses
    obtain ⟨origin, oldestOfBest, oldestOfRest⟩ := ih chooses
    -- what the head is compared with is no older than the final choice either
    have compared : ∀ candidate, older best slot head = some candidate →
        (∀ old, best = some old → ¬ old.2.before chosen.2 = true) ∧
          ∀ first, head.firstSeen = some first → ¬ first.before chosen.2 = true := by
      intro candidate better
      obtain ⟨-, ofBest, ofHead⟩ := older_spec better
      exact ⟨fun old same => Timestamp.not_before_trans (ofBest old same) (oldestOfBest _ better),
        fun first opens => Timestamp.not_before_trans (ofHead first opens) (oldestOfBest _ better)⟩
    refine ⟨?_, fun old same => ?_, fun bucket member first opens => ?_⟩
    · rcases origin with better | ⟨left, bucket, right, rfl, slotOf, opens⟩
      · rcases (older_spec better).1 with best | ⟨slotOf, opens⟩
        · exact .inl best
        · exact .inr ⟨[], head, rest, rfl, slotOf, opens⟩
      · refine .inr ⟨head :: left, bucket, right, rfl, ?_, opens⟩
        simp only [List.length_cons]
        omega
    · cases better : older best slot head with
      | none => simp [(older_eq_none_iff.mp better).1] at same
      | some candidate => exact (compared candidate better).1 old same
    · rcases List.mem_cons.mp member with rfl | member
      · cases better : older best slot bucket with
        | none => simp [(older_eq_none_iff.mp better).2] at opens
        | some candidate => exact (compared candidate better).2 first opens
      · exact oldestOfRest bucket member first opens

private theorem oldestFrom_eq_none {best : Option (Nat × Timestamp)} {slot : Nat} {buckets : List Bucket}
    (none_chosen : oldestFrom best slot buckets = none) :
    best = none ∧ ∀ bucket ∈ buckets, bucket.firstSeen = none := by
  induction buckets generalizing best slot with
  | nil => exact ⟨none_chosen, by simp⟩
  | cons head rest ih =>
    obtain ⟨better, restVacant⟩ := ih (oldestFrom_cons .. ▸ none_chosen)
    obtain ⟨noBest, headVacant⟩ := older_eq_none_iff.mp better
    exact ⟨noBest, by simpa [headVacant] using restVacant⟩

/-- The slot of the oldest first event: no filled bucket is older. -/
theorem oldest?_spec {slot : Nat} (oldest : ring.oldest? = some slot) :
    ∃ left bucket right first, ring.buckets = left ++ bucket :: right ∧ slot = left.length ∧
      bucket.firstSeen = some first ∧
      ∀ other ∈ ring.buckets, ∀ time, other.firstSeen = some time → ¬ time.before first = true := by
  obtain ⟨⟨found, first⟩, chooses, rfl⟩ := Option.map_eq_some_iff.mp oldest
  obtain ⟨origin, -, none_older⟩ := oldestFrom_spec chooses
  obtain absurdity | ⟨left, bucket, right, split, slotOf, opens⟩ := origin
  · cases absurdity
  · exact ⟨left, bucket, right, first, split, by simpa using slotOf, opens, none_older⟩

/-- Only a ring without any event has no oldest bucket. -/
theorem oldest?_eq_none (nothing : ring.oldest? = none) : ∀ bucket ∈ ring.buckets, bucket.firstSeen = none :=
  (oldestFrom_eq_none (Option.map_eq_none_iff.mp nothing)).2

/-! ## What an insertion does -/

/-- The filled buckets of a ring, followed by its vacant ones. -/
structure Layout (ring : Ring) (filled : List Bucket) (free : Nat) : Prop where
  buckets_eq : ring.buckets = filled ++ List.replicate free .vacant
  opened : ∀ bucket ∈ filled, bucket.firstSeen.isSome = true

/-- How an insertion changes the filled buckets and the number of vacant ones. -/
inductive Inserted (event : Event) : List Bucket → Nat → List Bucket → Nat → Option Placement → Prop
  | appended {left right : List Bucket} {bucket : Bucket} {free : Nat}
      (refused : ∀ other ∈ left, other.accepts event.timestamp = false)
      (accepted : bucket.accepts event.timestamp = true) :
      Inserted event (left ++ bucket :: right) free (left ++ bucket.push event :: right) free
        (some (.appended left.length))
  | claimed {filled : List Bucket} {free : Nat}
      (refused : ∀ other ∈ filled, other.accepts event.timestamp = false) :
      Inserted event filled (free + 1) (filled ++ [.opened event]) free (some (.claimed filled.length))
  | evicted {left right : List Bucket} {bucket : Bucket} {first : Timestamp}
      (refused : ∀ other ∈ left ++ bucket :: right, other.accepts event.timestamp = false)
      (opened : bucket.firstSeen = some first)
      (oldest : ∀ other ∈ left ++ bucket :: right, ∀ time, other.firstSeen = some time →
        ¬ time.before first = true) :
      Inserted event (left ++ bucket :: right) 0 (left ++ .opened event :: right) 0
        (some (.evicted left.length))
  /-- A ring without buckets has no place. -/
  | lost : Inserted event [] 0 [] 0 none

theorem layout_empty (size : Nat) : (empty size).Layout [] size := ⟨rfl, by simp⟩

private theorem isVacant_eq_false {bucket : Bucket} (opened : bucket.firstSeen.isSome = true) :
    bucket.isVacant = false := by
  simpa [Bucket.isVacant, Option.isSome_iff_ne_none] using opened

/-- The scan passes over filled buckets that refuse the time. -/
private theorem firstFit_append {time : Timestamp} (slot : Nat) (left rest : List Bucket)
    (opened : ∀ bucket ∈ left, bucket.firstSeen.isSome = true)
    (refused : ∀ bucket ∈ left, bucket.accepts time = false) :
    firstFit time slot (left ++ rest) = firstFit time (slot + left.length) rest := by
  induction left generalizing slot with
  | nil => rfl
  | cons head left ih =>
    have here := isVacant_eq_false (opened head List.mem_cons_self)
    have next := ih (slot + 1) (fun bucket member => opened bucket (List.mem_cons_of_mem _ member))
      (fun bucket member => refused bucket (List.mem_cons_of_mem _ member))
    rw [List.cons_append, firstFit, here, refused head List.mem_cons_self]
    simp only [Bool.false_eq_true, ↓reduceIte, next, List.length_cons]
    congr 1
    omega

/-- What holds of all buckets still does when one is replaced by another of which it holds. -/
private theorem forall_mem_replace {P : Bucket → Prop} {left right : List Bucket} {old new : Bucket}
    (all : ∀ bucket ∈ left ++ old :: right, P bucket) (holds : P new) :
    ∀ bucket ∈ left ++ new :: right, P bucket := by
  simp only [List.mem_append, List.mem_cons] at all ⊢
  rintro bucket (before | rfl | after)
  · exact all bucket (.inl before)
  · exact holds
  · exact all bucket (.inr (.inr after))

private theorem modify_append_cons (left right : List Bucket) (bucket : Bucket) (f : Bucket → Bucket) :
    (left ++ bucket :: right).modify left.length f = left ++ f bucket :: right := by
  induction left with
  | nil => rfl
  | cons head left ih => simp [List.modify_succ_cons, ih]

private theorem firstFit_of_refused {time : Timestamp} (layout : ring.Layout filled free)
    (refused : ∀ bucket ∈ filled, bucket.accepts time = false) :
    firstFit time 0 ring.buckets = firstFit time filled.length (List.replicate free .vacant) := by
  rw [layout.buckets_eq, firstFit_append 0 filled _ layout.opened refused, Nat.zero_add]

/-- An event goes to the first bucket that accepts it. -/
private theorem insert_eq_appended {left right : List Bucket} {bucket : Bucket}
    (layout : ring.Layout (left ++ bucket :: right) free)
    (refused : ∀ other ∈ left, other.accepts event.timestamp = false)
    (accepted : bucket.accepts event.timestamp = true) :
    ring.insert event =
      (⟨left ++ bucket.push event :: right ++ List.replicate free .vacant⟩, some (.appended left.length)) := by
  have opened : ∀ other ∈ left, other.firstSeen.isSome = true := fun other member =>
    layout.opened other (List.mem_append_left _ member)
  have bucketOpened := isVacant_eq_false (layout.opened bucket (by simp))
  have place : ring.place? event.timestamp = some (.appended left.length) := by
    rw [place?, layout.buckets_eq, List.append_assoc, firstFit_append 0 left _ opened refused]
    simp [firstFit, bucketOpened, accepted]
  rw [insert, place]
  simp only [layout.buckets_eq, List.append_assoc, List.cons_append, modify_append_cons]

/-- If none does, it opens the first bucket that is free. -/
private theorem insert_eq_claimed (layout : ring.Layout filled (free + 1))
    (refused : ∀ other ∈ filled, other.accepts event.timestamp = false) :
    ring.insert event =
      (⟨filled ++ [.opened event] ++ List.replicate free .vacant⟩, some (.claimed filled.length)) := by
  have place : ring.place? event.timestamp = some (.claimed filled.length) := by
    rw [place?, firstFit_of_refused layout refused]
    rfl
  rw [insert, place]
  simp [layout.buckets_eq, List.replicate_succ]

/-- If none is free, it takes the place of the oldest one. -/
private theorem insert_eq_evicted {left right : List Bucket} {bucket : Bucket}
    (layout : ring.Layout (left ++ bucket :: right) 0)
    (refused : ∀ other ∈ left ++ bucket :: right, other.accepts event.timestamp = false)
    (oldest : ring.oldest? = some left.length) :
    ring.insert event = (⟨left ++ .opened event :: right⟩, some (.evicted left.length)) := by
  have place : ring.place? event.timestamp = some (.evicted left.length) := by
    rw [place?, firstFit_of_refused layout refused, oldest]
    rfl
  rw [insert, place]
  simp [layout.buckets_eq]

/-- Every insertion into a ring with this layout is one of the four. -/
theorem Layout.insert (layout : ring.Layout filled free) (event : Event) :
    ∃ filled' free', Inserted event filled free filled' free' (ring.insert event).2 ∧
      (ring.insert event).1.Layout filled' free' := by
  cases first : filled.find? (·.accepts event.timestamp) with
  | some bucket =>
    obtain ⟨accepted, left, right, rfl, refused⟩ := List.find?_eq_some_iff_append.mp first
    simp only [Bool.not_eq_true'] at refused
    rw [insert_eq_appended layout refused accepted]
    exact ⟨_, _, .appended refused accepted, rfl,
      forall_mem_replace layout.opened (layout.opened bucket (by simp))⟩
  | none =>
    have refused : ∀ bucket ∈ filled, bucket.accepts event.timestamp = false := by
      simpa using List.find?_eq_none.mp first
    cases free with
    | succ free =>
      rw [insert_eq_claimed layout refused]
      refine ⟨_, _, .claimed refused, rfl, ?_⟩
      simpa [or_imp, forall_and] using layout.opened
    | zero =>
      have buckets : ring.buckets = filled := by simpa using layout.buckets_eq
      cases oldest : ring.oldest? with
      | none =>
        -- nothing is filled, and there is nothing to give up
        have vacant := oldest?_eq_none oldest
        obtain rfl : filled = [] := by
          rw [List.eq_nil_iff_forall_not_mem]
          intro bucket member
          have opened := layout.opened bucket member
          simp [vacant bucket (buckets ▸ member)] at opened
        have place : ring.place? event.timestamp = none := by
          rw [place?, firstFit_of_refused layout refused, oldest]
          rfl
        refine ⟨[], 0, ?_, ?_⟩ <;> rw [Ring.insert, place]
        · exact .lost
        · exact layout
      | some slot =>
        obtain ⟨left, bucket, right, time, split, rfl, opened, none_older⟩ := oldest?_spec oldest
        obtain rfl := buckets.symm.trans split
        rw [split] at none_older
        rw [insert_eq_evicted layout refused oldest]
        exact ⟨_, _, .evicted refused opened none_older, by simp, forall_mem_replace layout.opened rfl⟩

/-- An event changes no more than one bucket, so the size stays. -/
theorem Inserted.size {filled' : List Bucket} {free' : Nat} {placement : Option Placement}
    (inserted : Inserted event filled free filled' free' placement) :
    filled'.length + free' = filled.length + free := by
  cases inserted <;> simp
  omega

/-- A ring with buckets has a place for every event. -/
theorem Layout.exists_placement (layout : ring.Layout filled free) (positive : 0 < filled.length + free)
    (event : Event) : ∃ placement, (ring.insert event).2 = some placement := by
  obtain ⟨filled', free', inserted, -⟩ := layout.insert event
  cases placed : (ring.insert event).2 with
  | some placement => exact ⟨placement, rfl⟩
  | none =>
    rw [placed] at inserted
    cases inserted
    simp at positive

/-! ## The invariant -/

/-- No two of these first events lie within one second. -/
def Apart (filled : List Bucket) : Prop :=
  filled.Pairwise fun bucket other => ∀ first time, bucket.firstSeen = some first →
    other.firstSeen = some time → first.withinSecond time = false

/-- A bucket that refuses an event is apart from the bucket that the event opens. -/
private theorem not_withinSecond_of_refused {bucket : Bucket}
    (refused : bucket.accepts event.timestamp = false) {first : Timestamp}
    (opened : bucket.firstSeen = some first) : first.withinSecond event.timestamp = false := by
  rw [Timestamp.withinSecond_comm]
  simpa [Bucket.accepts, opened] using refused

/-- The buckets stay more than a second apart. -/
private theorem Inserted.apart {filled' : List Bucket} {free' : Nat} {placement : Option Placement}
    (inserted : Inserted event filled free filled' free' placement) (apart : Apart filled) :
    Apart filled' := by
  unfold Apart at apart ⊢
  cases inserted with
  | lost => exact .nil
  | appended refused accepted =>
    simpa only [List.pairwise_append, List.pairwise_cons, List.forall_mem_cons, Bucket.push_firstSeen] using apart
  | claimed refused =>
    rw [List.pairwise_append]
    refine ⟨apart, List.pairwise_singleton _ _, fun bucket member other single first time opened new => ?_⟩
    obtain rfl := List.mem_singleton.mp single
    obtain rfl : event.timestamp = time := Option.some.inj new
    exact not_withinSecond_of_refused (refused bucket member) opened
  | @evicted left right bucket first refused opened oldest =>
    simp only [List.pairwise_append, List.pairwise_cons, List.forall_mem_cons] at apart ⊢
    obtain ⟨leftApart, ⟨-, rightApart⟩, across⟩ := apart
    refine ⟨leftApart, ⟨fun other member first time new opened => ?_, rightApart⟩,
      fun other member => ⟨fun first time opened new => ?_, (across other member).2⟩⟩
    · obtain rfl : event.timestamp = first := Option.some.inj new
      rw [Timestamp.withinSecond_comm]
      exact not_withinSecond_of_refused (refused other (by simp [member])) opened
    · obtain rfl : event.timestamp = time := Option.some.inj new
      exact not_withinSecond_of_refused (refused other (by simp [member])) opened

private theorem Inserted.wellFormed {filled' : List Bucket} {free' : Nat} {placement : Option Placement}
    (inserted : Inserted event filled free filled' free' placement)
    (wellFormed : ∀ bucket ∈ filled, bucket.WellFormed) : ∀ bucket ∈ filled', bucket.WellFormed := by
  cases inserted with
  | lost => exact wellFormed
  | appended refused accepted =>
    exact forall_mem_replace wellFormed ((wellFormed _ (by simp)).push accepted)
  | claimed refused =>
    simpa [or_imp, forall_and, Bucket.wellFormed_opened] using wellFormed
  | evicted refused opened oldest => exact forall_mem_replace wellFormed (Bucket.wellFormed_opened event)

/-- The state of a ring after any insertions. -/
structure Invariant (ring : Ring) (filled : List Bucket) (free : Nat) : Prop extends
    ring.Layout filled free where
  apart : Apart filled
  wellFormed : ∀ bucket ∈ filled, bucket.WellFormed

theorem invariant_empty (size : Nat) : (empty size).Invariant [] size :=
  ⟨layout_empty size, .nil, by simp⟩

/-- The invariant of the ring is kept by every event. -/
theorem Invariant.insert (invariant : ring.Invariant filled free) (event : Event) :
    ∃ filled' free', (ring.insert event).1.Invariant filled' free' ∧
      filled'.length + free' = filled.length + free := by
  obtain ⟨filled', free', inserted, layout⟩ := invariant.toLayout.insert event
  exact ⟨filled', free', ⟨layout, inserted.apart invariant.apart, inserted.wellFormed invariant.wellFormed⟩,
    inserted.size⟩

/-- So it is by any number of events. -/
theorem Invariant.insertAll (invariant : ring.Invariant filled free) (events : List Event) :
    ∃ filled' free', (ring.insertAll events).Invariant filled' free' ∧
      filled'.length + free' = filled.length + free := by
  induction events generalizing ring filled free with
  | nil => exact ⟨filled, free, invariant, rfl⟩
  | cons event rest ih =>
    obtain ⟨middle, spare, step, sameSize⟩ := invariant.insert event
    obtain ⟨filled', free', run, size⟩ := ih step
    exact ⟨filled', free', run, size.trans sameSize⟩

theorem Invariant.wellFormed_of_mem (invariant : ring.Invariant filled free) {bucket : Bucket}
    (member : bucket ∈ ring.buckets) : bucket.WellFormed := by
  rw [invariant.buckets_eq, List.mem_append] at member
  rcases member with opened | vacant
  · exact invariant.wellFormed bucket opened
  · rw [List.eq_of_mem_replicate vacant]
    exact Bucket.wellFormed_vacant

/-- All events of a ring, of whatever container. -/
def stored (ring : Ring) : List Event :=
  ring.buckets.flatMap (·.stored)

/-- What is found for a container is what is stored for it. -/
theorem Invariant.mem_eventsOf_iff (invariant : ring.Invariant filled free) {event : Event}
    {container : ContainerId} :
    event ∈ ring.eventsOf container ↔ event ∈ ring.stored ∧ event.container = container := by
  simp only [eventsOf, stored, List.mem_flatMap]
  constructor
  · rintro ⟨bucket, member, found⟩
    obtain ⟨inBucket, same⟩ := (invariant.wellFormed_of_mem member).mem_eventsOf_iff.mp found
    exact ⟨⟨bucket, member, inBucket⟩, same⟩
  · rintro ⟨⟨bucket, member, inBucket⟩, same⟩
    exact ⟨bucket, member, (invariant.wellFormed_of_mem member).mem_eventsOf_iff.mpr ⟨inBucket, same⟩⟩

/-! ## Slots -/

/-- The first event of a slot, if the slot is filled. -/
def firstSeenAt? (ring : Ring) (slot : Nat) : Option Timestamp :=
  ring.buckets[slot]?.bind (·.firstSeen)

/-- A ring of the given size, slot by slot. -/
structure WellFormed (ring : Ring) (size : Nat) : Prop where
  size_eq : ring.size = size
  bucket : ∀ bucket ∈ ring.buckets, bucket.WellFormed
  /-- The filled slots come first. -/
  vacant_after : ∀ slot later, slot < later → ring.firstSeenAt? slot = none → ring.firstSeenAt? later = none
  separated : ∀ slot other first time, slot ≠ other → ring.firstSeenAt? slot = some first →
    ring.firstSeenAt? other = some time → second ≤ (first.difference time).natAbs
  distinct : ∀ slot other first time, slot ≠ other → ring.firstSeenAt? slot = some first →
    ring.firstSeenAt? other = some time → first ≠ time
  /-- A slot with nothing older is the one to be given up, so there are no two of them. -/
  oldest_iff : ∀ slot, ring.oldest? = some slot ↔ ∃ first, ring.firstSeenAt? slot = some first ∧
    ∀ other time, ring.firstSeenAt? other = some time → ¬ time.before first = true
  oldest_exists : ∀ slot first, ring.firstSeenAt? slot = some first → ∃ victim, ring.oldest? = some victim

theorem Layout.firstSeenAt? (layout : ring.Layout filled free) (slot : Nat) :
    ring.firstSeenAt? slot = filled[slot]?.bind (·.firstSeen) := by
  rw [Ring.firstSeenAt?, layout.buckets_eq, List.getElem?_append]
  split
  · rfl
  · rename_i beyond
    rw [List.getElem?_eq_none (Nat.le_of_not_lt beyond), List.getElem?_replicate]
    split <;> rfl

theorem Layout.firstSeenAt?_eq_none_iff (layout : ring.Layout filled free) {slot : Nat} :
    ring.firstSeenAt? slot = none ↔ filled.length ≤ slot := by
  rw [layout.firstSeenAt?, ← List.getElem?_eq_none_iff]
  cases found : filled[slot]? with
  | none => simp
  | some bucket =>
    have opened := layout.opened bucket (List.mem_of_getElem? found)
    simpa [Option.isSome_iff_ne_none] using opened

/-- Two buckets never begin within a second of each other. -/
private theorem Invariant.separated (invariant : ring.Invariant filled free) {slot other : Nat}
    {first time : Timestamp} (differ : slot ≠ other) (opened : ring.firstSeenAt? slot = some first)
    (openedOther : ring.firstSeenAt? other = some time) : first.withinSecond time = false := by
  rw [invariant.firstSeenAt?] at opened openedOther
  obtain ⟨bucket, found, opens⟩ := Option.bind_eq_some_iff.mp opened
  obtain ⟨bucketOther, foundOther, opensOther⟩ := Option.bind_eq_some_iff.mp openedOther
  obtain ⟨bound, rfl⟩ := List.getElem?_eq_some_iff.mp found
  obtain ⟨boundOther, rfl⟩ := List.getElem?_eq_some_iff.mp foundOther
  have pairs := List.pairwise_iff_getElem.mp invariant.apart
  rcases Nat.lt_or_gt_of_ne differ with earlier | later
  · exact pairs slot other bound boundOther earlier first time opens opensOther
  · rw [Timestamp.withinSecond_comm]
    exact pairs other slot boundOther bound later time first opensOther opens

/-- The slot that is given up is filled, and no filled slot is older. -/
private theorem oldest?_firstSeenAt? {slot : Nat} (oldest : ring.oldest? = some slot) :
    ∃ first, ring.firstSeenAt? slot = some first ∧
      ∀ other time, ring.firstSeenAt? other = some time → ¬ time.before first = true := by
  obtain ⟨left, bucket, right, first, split, rfl, opens, none_older⟩ := oldest?_spec oldest
  refine ⟨first, by simp [firstSeenAt?, split, opens], fun other time openedOther => ?_⟩
  obtain ⟨found, at_, opensOther⟩ := Option.bind_eq_some_iff.mp openedOther
  exact none_older found (List.mem_of_getElem? at_) time opensOther

private theorem oldest?_exists {slot : Nat} {first : Timestamp} (opened : ring.firstSeenAt? slot = some first) :
    ∃ victim, ring.oldest? = some victim := by
  cases oldest : ring.oldest? with
  | some victim => exact ⟨victim, rfl⟩
  | none =>
    obtain ⟨bucket, found, opens⟩ := Option.bind_eq_some_iff.mp opened
    simp [oldest?_eq_none oldest bucket (List.mem_of_getElem? found)] at opens

/-- A ring with the invariant is well formed, as its buckets show from outside. -/
theorem Invariant.toWellFormed (invariant : ring.Invariant filled free) :
    ring.WellFormed (filled.length + free) where
  size_eq := by simp [size, invariant.buckets_eq]
  bucket _ member := invariant.wellFormed_of_mem member
  vacant_after slot later order vacant := by
    rw [invariant.firstSeenAt?_eq_none_iff] at vacant ⊢
    omega
  separated slot other first time differ opened openedOther := by
    have apart := invariant.separated differ opened openedOther
    rw [← Bool.not_eq_true, Timestamp.withinSecond_iff] at apart
    omega
  distinct slot other first time differ opened openedOther same := by
    have apart := invariant.separated differ opened openedOther
    simp [same] at apart
  oldest_iff slot := by
    refine ⟨oldest?_firstSeenAt?, ?_⟩
    rintro ⟨first, opened, none_older⟩
    obtain ⟨victim, oldest⟩ := oldest?_exists opened
    obtain ⟨time, openedVictim, none_older_victim⟩ := oldest?_firstSeenAt? oldest
    -- two slots with nothing older would be a second apart, hence ordered
    by_contra other
    have differ : slot ≠ victim := by
      rintro rfl
      exact other oldest
    rcases Timestamp.before_or_before_of_not_withinSecond (invariant.separated differ opened openedVictim) with
      earlier | later
    · exact none_older_victim slot first opened earlier
    · exact none_older victim time openedVictim later
  oldest_exists _ _ opened := oldest?_exists opened

/-- After any insertions into an empty ring: the slots are as many as before, those filled come first,
each holds what lies within a second of its first event, and no two first events do. -/
theorem wellFormed_insertAll_empty (size : Nat) (events : List Event) :
    ((empty size).insertAll events).WellFormed size := by
  obtain ⟨filled, free, invariant, sameSize⟩ := (invariant_empty size).insertAll events
  have wellFormed := invariant.toWellFormed
  rwa [sameSize, List.length_nil, Nat.zero_add] at wellFormed

end Observatory.Cache.Ring
