import Observatory.Proofs.Delivery

/-! # Accepted events

What operations put into the ring, whatever else they do. Main statements: the ring of an accumulator is
what the accepted events make of it, and as long as no events are lost, what is announced to a container is
what was accepted for it.
-/

namespace Observatory.Accumulator

open Trace

variable {acc : Accumulator} {subscription : Subscription} {operation : Operation} {operations : List Operation}

/-- The event that an operation puts into the ring, if the ring has a place for it. -/
def accepted (acc : Accumulator) : Operation → List Event
  | .ingest line =>
      match acc.message? line with
      | some (.event event) => [event]
      | some .overflow | none => []
  | .exclude _ | .register _ | .unregister _ | .receive _ | .drop _ => []

/-- All events that operations put into the ring, one after the other. -/
def acceptedOver : Accumulator → List Operation → List Event
  | _, [] => []
  | acc, operation :: rest => acc.accepted operation ++ acceptedOver (acc.apply operation) rest

theorem acceptedOver_append (acc : Accumulator) (first rest : List Operation) :
    acceptedOver acc (first ++ rest) = acceptedOver acc first ++ acceptedOver (acc.run first) rest := by
  induction first generalizing acc with
  | nil => rfl
  | cons operation first ih =>
    rw [List.cons_append, acceptedOver, acceptedOver, ih, List.append_assoc]
    rfl

theorem Sound.ring_apply (sound : acc.Sound) (operation : Operation) :
    (acc.apply operation).ring = acc.ring.insertAll (acc.accepted operation) := by
  cases operation with
  | ingest line =>
    simp only [Accumulator.apply, Accumulator.ingest, accepted]
    cases acc.message? line with
    | none => rfl
    | some message =>
      cases message with
      | overflow => rfl
      | event event => exact congrArg Accumulator.ring (sound.accept_eq event)
  | exclude container => exact ring_addOwn acc container
  | register _ | unregister _ | receive _ | drop _ => rfl

/-- The ring holds what was accepted. -/
theorem Sound.ring_run (sound : acc.Sound) (operations : List Operation) :
    (acc.run operations).ring = acc.ring.insertAll (acceptedOver acc operations) := by
  induction operations generalizing acc with
  | nil => rfl
  | cons operation rest ih =>
    rw [acceptedOver, Cache.Ring.insertAll_append, ← sound.ring_apply]
    exact ih (sound.apply operation)

/-- Without a loss, what is announced to a container are the events of it that were accepted. -/
theorem announced_eq_accepted {container : ContainerId} (complete : .overflow ∉ acc.announced container operation) :
    acc.announced container operation =
      ((acc.accepted operation).filter (·.container = container)).map .event := by
  cases operation with
  | ingest line =>
    simp only [announced, accepted] at complete ⊢
    cases meaning : acc.message? line with
    | none => rfl
    | some message =>
      cases message with
      | overflow => simp [meaning] at complete
      | event event => by_cases same : event.container = container <;> simp [same]
  | exclude _ | register _ | unregister _ | receive _ | drop _ => rfl

theorem announcedUntilEnd_append {first : List Operation}
    (lasts : ∀ operation ∈ first, operation.ends subscription = false) (rest : List Operation) :
    announcedUntilEnd subscription acc (first ++ rest) =
      announcedUntilEnd subscription acc first ++ announcedUntilEnd subscription (acc.run first) rest := by
  induction first generalizing acc with
  | nil => rfl
  | cons operation first ih =>
    rw [List.forall_mem_cons] at lasts
    simp only [List.cons_append, announcedUntilEnd, lasts.1, Bool.false_eq_true, ↓reduceIte, List.append_assoc]
    rw [ih lasts.2]
    rfl

end Observatory.Accumulator
