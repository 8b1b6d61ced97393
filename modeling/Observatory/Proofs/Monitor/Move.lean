import Observatory.Monitor.Step
import Observatory.Proofs.Delivery

/-! # Moves of aggregators

Each move is described once: from where to where it leads, what it finds in the inbox, and which
operations it makes on the accumulator.
-/

namespace Observatory.Monitor

open Accumulator Aggregation Trace

variable {container : ContainerId} {stopped : Bool} {acc after : Accumulator} {move : Move}
  {aggregator moved : Aggregator} {subscription : Subscription}

/-- What a move does to an aggregator and to the accumulator. -/
inductive Moved (container : ContainerId) (stopped : Bool) (acc : Accumulator) :
    Move → Aggregator → Aggregator → Accumulator → Prop
  | subscribed : Moved container stopped acc .subscribe .created (.subscribed (acc.register container).2)
      (acc.register container).1
  | replayed (subscription : Subscription) : Moved container stopped acc .replay (.subscribed subscription)
      (.listening subscription (.ofCache (acc.query subscription.container))) acc
  | received {after : Accumulator} (subscription : Subscription) (progress : Progress) (event : Event)
      (result : acc.receive subscription.token = (.message (.event event), after)) :
      Moved container stopped acc .receive (.listening subscription progress)
        (.listening subscription (progress.record event)) after
  | overflowed {after : Accumulator} (subscription : Subscription) (progress : Progress)
      (result : acc.receive subscription.token = (.message .overflow, after)) :
      Moved container stopped acc .receive (.listening subscription progress)
        (.leaving subscription (.error (.overflow subscription.container))) after
  | closed {after : Accumulator} (subscription : Subscription) (progress : Progress)
      (result : acc.receive subscription.token = (.closed, after)) :
      Moved container stopped acc .receive (.listening subscription progress)
        (.leaving subscription (.error (.streamClosed subscription.container))) after
  | heeded (subscription : Subscription) (progress : Progress) (told : stopped = true) :
      Moved container stopped acc .heed (.listening subscription progress) (.draining subscription progress) acc
  | drained {after : Accumulator} (subscription : Subscription) (progress : Progress) (event : Event)
      (result : acc.receive subscription.token = (.message (.event event), after)) :
      Moved container stopped acc .drain (.draining subscription progress)
        (.draining subscription (progress.record event)) after
  | skipped {after : Accumulator} (subscription : Subscription) (progress : Progress)
      (result : acc.receive subscription.token = (.message .overflow, after)) :
      Moved container stopped acc .drain (.draining subscription progress)
        (.draining subscription progress) after
  | completed {after : Accumulator} (subscription : Subscription) (progress : Progress) (found : Received)
      (result : acc.receive subscription.token = (found, after))
      (nothing : ∀ message, found ≠ .message message) :
      Moved container stopped acc .drain (.draining subscription progress)
        (.leaving subscription (.ok progress.report)) after
  | left (subscription : Subscription) (outcome : Aggregation.Outcome) :
      Moved container stopped acc .leave (.leaving subscription outcome) (.ended outcome)
        ((acc.unregister subscription).dropInbox subscription.token)

theorem moved_of_moveAggregator? {observation : Observation}
    (moves : moveAggregator? move observation acc = some (moved, after)) :
    Moved observation.container observation.isStopped acc move observation.aggregator moved after := by
  simp only [moveAggregator?] at moves
  generalize observation.aggregator = aggregator at moves
  cases move with
  | subscribe =>
    cases aggregator <;>
      simp only [Aggregator.subscribe?, Option.some.injEq, Prod.mk.injEq, reduceCtorEq] at moves
    obtain ⟨rfl, rfl⟩ := moves
    exact .subscribed
  | replay =>
    cases aggregator <;>
      simp only [Aggregator.replay?, Option.map_none, Option.map_some, Option.some.injEq, Prod.mk.injEq,
        reduceCtorEq] at moves
    obtain ⟨rfl, rfl⟩ := moves
    exact .replayed _
  | receive =>
    cases aggregator <;> simp only [Aggregator.receive?, reduceCtorEq] at moves
    split at moves <;>
      simp only [Option.some.injEq, Prod.mk.injEq, reduceCtorEq] at moves <;> obtain ⟨rfl, rfl⟩ := moves
    · exact .received _ _ _ ‹_›
    · exact .overflowed _ _ ‹_›
    · exact .closed _ _ ‹_›
  | heed =>
    simp only [Option.ite_none_right_eq_some] at moves
    obtain ⟨told, moves⟩ := moves
    cases aggregator <;>
      simp only [Aggregator.stop?, Option.map_none, Option.map_some, Option.some.injEq, Prod.mk.injEq,
        reduceCtorEq] at moves
    obtain ⟨rfl, rfl⟩ := moves
    exact .heeded _ _ told
  | drain =>
    cases aggregator <;> simp only [Aggregator.drain?, reduceCtorEq] at moves
    split at moves <;> simp only [Option.some.injEq, Prod.mk.injEq] at moves <;> obtain ⟨rfl, rfl⟩ := moves
    · exact .drained _ _ _ ‹_›
    · exact .skipped _ _ ‹_›
    · rename_i found _ noEvent noOverflow result
      refine .completed _ _ found result fun message same => ?_
      cases message with
      | event event => exact noEvent event (same ▸ rfl)
      | overflow => exact noOverflow (same ▸ rfl)
  | leave =>
    cases aggregator <;> simp only [Aggregator.leave?, Option.some.injEq, Prod.mk.injEq, reduceCtorEq] at moves
    obtain ⟨rfl, rfl⟩ := moves
    exact .left _ _

/-! ## Operations -/

/-- The operations on the accumulator that a move makes. -/
def operationsOf (container : ContainerId) : Move → Aggregator → List Operation
  | .subscribe, .created => [.register container]
  | .receive, .listening subscription _ => [.receive subscription.token]
  | .drain, .draining subscription _ => [.receive subscription.token]
  | .leave, .leaving subscription _ => [.unregister subscription, .drop subscription.token]
  | _, _ => []

theorem Moved.accumulator_eq (moves : Moved container stopped acc move aggregator moved after) :
    after = acc.run (operationsOf container move aggregator) := by
  cases moves with
  | subscribed | replayed | heeded | left => rfl
  | received _ _ _ result | overflowed _ _ result | closed _ _ result | drained _ _ _ result | skipped _ _ result
  | completed _ _ _ result => exact (congrArg Prod.snd result).symm

end Observatory.Monitor

namespace Observatory.Aggregation.Aggregator

/-- The registration that the aggregator has made and not yet given up. -/
def subscription? : Aggregator → Option Subscription
  | .created | .ended _ => none
  | .subscribed subscription | .listening subscription _ | .draining subscription _ | .leaving subscription _ =>
      some subscription

/-- The aggregator still adds to its report. -/
def isRunning : Aggregator → Bool
  | .created | .subscribed _ | .listening .. | .draining .. => true
  | .leaving .. | .ended _ => false

theorem eq_ended_of_outcome? {aggregator : Aggregator} {outcome : Outcome}
    (ended : aggregator.outcome? = some outcome) : aggregator = .ended outcome := by
  cases aggregator <;> simp only [outcome?, Option.some.injEq, reduceCtorEq] at ended
  rw [ended]

end Observatory.Aggregation.Aggregator
