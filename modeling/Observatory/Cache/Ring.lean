import Observatory.Cache.Bucket

/-! # The ring of buckets

A fixed number of buckets. An event joins the first bucket that accepts it, unless an empty bucket
comes before; where neither exists, the bucket with the oldest first event is given up for it. A ring
without buckets stores nothing.
-/

namespace Observatory.Cache

open Calendar Trace

structure Ring where
  buckets : List Bucket
deriving DecidableEq, Repr

/-- Where an event was stored. -/
inductive Placement where
  | claimed (slot : Nat)
  | appended (slot : Nat)
  | evicted (slot : Nat)
deriving DecidableEq, Repr

namespace Ring

def empty (size : Nat) : Ring := ⟨List.replicate size .vacant⟩

def size (ring : Ring) : Nat := ring.buckets.length

/-- The first bucket, counted from `slot`, that is empty or accepts the time. -/
def firstFit (time : Timestamp) : Nat → List Bucket → Option Placement
  | _, [] => none
  | slot, bucket :: rest =>
      if bucket.isVacant then some (.claimed slot)
      else if bucket.accepts time then some (.appended slot)
      else firstFit time (slot + 1) rest

/-- The slot, counted from `slot`, of the oldest first event; the lowest one if several are as old.
`best` is the oldest of the slots before. -/
def oldestFrom : Option (Nat × Timestamp) → Nat → List Bucket → Option (Nat × Timestamp)
  | best, _, [] => best
  | best, slot, bucket :: rest =>
      let best :=
        match bucket.firstSeen, best with
        | none, best => best
        | some first, none => some (slot, first)
        | some first, some (old, oldest) =>
            if first.before oldest then some (slot, first) else some (old, oldest)
      oldestFrom best (slot + 1) rest

def oldest? (ring : Ring) : Option Nat :=
  (oldestFrom none 0 ring.buckets).map (·.1)

/-- Where an event of this time belongs. -/
def place? (ring : Ring) (time : Timestamp) : Option Placement :=
  (firstFit time 0 ring.buckets).orElse fun _ => ring.oldest?.map .evicted

/-- Store an event where it belongs. -/
def insert (ring : Ring) (event : Event) : Ring × Option Placement :=
  match ring.place? event.timestamp with
  | none => (ring, none)
  | some (.appended slot) => (⟨ring.buckets.modify slot (·.push event)⟩, some (.appended slot))
  | some (.claimed slot) => (⟨ring.buckets.set slot (.opened event)⟩, some (.claimed slot))
  | some (.evicted slot) => (⟨ring.buckets.set slot (.opened event)⟩, some (.evicted slot))

/-- The stored events of a container, slot by slot. -/
def eventsOf (ring : Ring) (container : ContainerId) : List Event :=
  ring.buckets.flatMap (·.eventsOf container)

/-- The time of each slot's first event. -/
def firstSeen (ring : Ring) : List (Option Timestamp) :=
  ring.buckets.map (·.firstSeen)

end Ring

end Observatory.Cache
