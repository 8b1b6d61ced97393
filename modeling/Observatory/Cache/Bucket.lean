import Observatory.Table
import Observatory.Trace.Event

/-! # Buckets

A bucket holds the events, of all containers, that lie within one second of its first event.
-/

namespace Observatory.Cache

open Calendar Trace

structure Bucket where
  firstSeen : Option Timestamp
  events : Table ContainerId (List Event)
deriving DecidableEq, Repr

namespace Bucket

def vacant : Bucket := ⟨none, .empty⟩

def isVacant (bucket : Bucket) : Bool :=
  bucket.firstSeen.isNone

/-- The time is less than one second away from the first event. -/
def accepts (bucket : Bucket) (time : Timestamp) : Bool :=
  match bucket.firstSeen with
  | some first => time.withinSecond first
  | none => false

/-- The events of a container, in arrival order. -/
def eventsOf (bucket : Bucket) (container : ContainerId) : List Event :=
  (bucket.events.get? container).getD []

/-- Add an event after the others of its container. -/
def push (bucket : Bucket) (event : Event) : Bucket :=
  { bucket with events := bucket.events.insert event.container (bucket.eventsOf event.container ++ [event]) }

/-- A bucket opened by its first event. -/
def opened (event : Event) : Bucket :=
  push ⟨some event.timestamp, .empty⟩ event

end Bucket

end Observatory.Cache
