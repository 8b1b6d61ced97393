import Observatory.Accumulator
import Observatory.Aggregation.Report

/-! # Aggregators

An aggregator registers a listener for one container, replays what the cache holds, and then folds
live events into its report until it is stopped. An event that is both in the replay and in the inbox
is counted once: its live copy uses up its replayed copy. Lost events end the aggregation, unless the
notice is found only while the inbox is emptied after a stop.

Each function below is one atomic step. Which steps are taken when is decided elsewhere; between any
two of them lines may arrive.
-/

namespace Observatory.Aggregation

open Trace

inductive Error where
  | overflow (container : ContainerId)
  | streamClosed (container : ContainerId)
deriving DecidableEq, Repr

def Error.message : Error → String
  | .overflow container =>
      "tracer dropped events while aggregating container `" ++ container.text ++ "`"
  | .streamClosed container =>
      "live stream of container `" ++ container.text ++ "` closed unexpectedly"

/-- Replayed events whose live copy has not been seen, with their number. -/
abbrev Replayed := Table Event Nat

namespace Replayed

def add (replayed : Replayed) (event : Event) : Replayed :=
  replayed.insert event ((replayed.get? event).getD 0 + 1)

def ofList (events : List Event) : Replayed :=
  events.foldl add .empty

/-- Use up one replayed copy; `none` if none is left. -/
def take? (replayed : Replayed) (event : Event) : Option Replayed :=
  match replayed.get? event with
  | none => none
  | some count =>
      if count - 1 = 0 then some (replayed.erase event) else some (replayed.insert event (count - 1))

end Replayed

/-- The report so far. -/
structure Progress where
  report : Report
  replayed : Replayed
deriving DecidableEq, Repr

namespace Progress

/-- Start from the cached events. -/
def ofCache (cached : List Event) : Progress :=
  ⟨cached.foldl Report.record .empty, Replayed.ofList cached⟩

/-- Count a live event, unless it is the copy of a replayed one. -/
def record (progress : Progress) (event : Event) : Progress :=
  match progress.replayed.take? event with
  | some replayed => { progress with replayed := replayed }
  | none => { progress with report := progress.report.record event }

end Progress

abbrev Outcome := Except Error Report

/-- Where an aggregator stands. -/
inductive Aggregator where
  | created
  | subscribed (subscription : Subscription)
  | listening (subscription : Subscription) (progress : Progress)
  | draining (subscription : Subscription) (progress : Progress)
  | leaving (subscription : Subscription) (outcome : Outcome)
  | ended (outcome : Outcome)
deriving Repr

namespace Aggregator

def outcome? : Aggregator → Option Outcome
  | .ended outcome => some outcome
  | _ => none

/-- Register the listener. -/
def subscribe? (container : ContainerId) (acc : Accumulator) : Aggregator → Option (Aggregator × Accumulator)
  | .created =>
      let (acc, subscription) := acc.register container
      some (.subscribed subscription, acc)
  | _ => none

/-- Read the cache. -/
def replay? (acc : Accumulator) : Aggregator → Option Aggregator
  | .subscribed subscription =>
      some (.listening subscription (.ofCache (acc.query subscription.container)))
  | _ => none

/-- Handle what the inbox holds next, or find the registration gone. -/
def receive? (acc : Accumulator) : Aggregator → Option (Aggregator × Accumulator)
  | .listening subscription progress =>
      match acc.receive subscription.token with
      | (.message (.event event), acc) => some (.listening subscription (progress.record event), acc)
      | (.message .overflow, acc) =>
          some (.leaving subscription (.error (.overflow subscription.container)), acc)
      | (.closed, acc) =>
          some (.leaving subscription (.error (.streamClosed subscription.container)), acc)
      | (.pending, _) => none
  | _ => none

/-- Notice the stop. -/
def stop? : Aggregator → Option Aggregator
  | .listening subscription progress => some (.draining subscription progress)
  | _ => none

/-- Record one more pending event after the stop; with an empty inbox the report is complete. -/
def drain? (acc : Accumulator) : Aggregator → Option (Aggregator × Accumulator)
  | .draining subscription progress =>
      match acc.receive subscription.token with
      | (.message (.event event), acc) => some (.draining subscription (progress.record event), acc)
      | (.message .overflow, acc) => some (.draining subscription progress, acc)
      | (_, acc) => some (.leaving subscription (.ok progress.report), acc)
  | _ => none

/-- Give up the registration and the inbox. -/
def leave? (acc : Accumulator) : Aggregator → Option (Aggregator × Accumulator)
  | .leaving subscription outcome =>
      some (.ended outcome, (acc.unregister subscription).dropInbox subscription.token)
  | _ => none

/-- The next step of an aggregator, preferring a stop over a pending message; `none` if it waits or has
ended. -/
def step? (container : ContainerId) (stopped : Bool) (aggregator : Aggregator) (acc : Accumulator) :
    Option (Aggregator × Accumulator) :=
  match aggregator with
  | .created => aggregator.subscribe? container acc
  | .subscribed _ => (aggregator.replay? acc).map (·, acc)
  | .listening .. => if stopped then aggregator.stop?.map (·, acc) else aggregator.receive? acc
  | .draining .. => aggregator.drain? acc
  | .leaving .. => aggregator.leave? acc
  | .ended _ => none

/-- A bound on the steps that are left: a pending message takes one, and so does each stage. -/
def work (aggregator : Aggregator) (acc : Accumulator) : Nat :=
  match aggregator with
  | .created => 6
  | .subscribed subscription => 5 + (acc.live.inbox subscription.token).length
  | .listening subscription _ => 4 + (acc.live.inbox subscription.token).length
  | .draining subscription _ => 3 + (acc.live.inbox subscription.token).length
  | .leaving .. => 1
  | .ended _ => 0

/-- Take steps, at most this many, until the aggregator waits. -/
def runFor (container : ContainerId) (stopped : Bool) : Nat → Aggregator → Accumulator →
    Aggregator × Accumulator
  | 0, aggregator, acc => (aggregator, acc)
  | fuel + 1, aggregator, acc =>
      match aggregator.step? container stopped acc with
      | some (aggregator, acc) => runFor container stopped fuel aggregator acc
      | none => (aggregator, acc)

/-- Take steps until the aggregator waits or has ended. -/
def run (container : ContainerId) (stopped : Bool) (aggregator : Aggregator) (acc : Accumulator) :
    Aggregator × Accumulator :=
  runFor container stopped (aggregator.work acc) aggregator acc

end Aggregator

end Observatory.Aggregation
