import Observatory.Accumulator
import Observatory.Proofs.Cache.Ring
import Observatory.Proofs.Live

/-! # Delivery to live listeners

A listener's inbox is seen through what has been received from it and what it still holds. Main
statement: the two together are what was announced to its container from its registration until the
registration was taken back or replaced, whatever else was done to the accumulator in between.
-/

namespace Observatory.Accumulator

open Trace

variable {acc : Accumulator} {token : Nat} {container : ContainerId} {subscription : Subscription}

/-- Everything that can be done to an accumulator. -/
inductive Operation where
  | ingest (line : List Char)
  | exclude (container : ContainerId)
  | register (container : ContainerId)
  | unregister (subscription : Subscription)
  | receive (token : Nat)
  | drop (token : Nat)
deriving DecidableEq, Repr

def apply (acc : Accumulator) : Operation → Accumulator
  | .ingest line => acc.ingest line
  | .exclude container => acc.addOwn container
  | .register container => (acc.register container).1
  | .unregister subscription => acc.unregister subscription
  | .receive token => (acc.receive token).2
  | .drop token => acc.dropInbox token

def run (acc : Accumulator) (operations : List Operation) : Accumulator :=
  operations.foldl apply acc

/-! ## What is received and what is announced -/

/-- What an operation takes out of an inbox. -/
def received (acc : Accumulator) (token : Nat) : Operation → List Message
  | .receive other =>
      if other = token then
        match (acc.receive token).1 with
        | .message message => [message]
        | .pending | .closed => []
      else []
  | _ => []

/-- All that operations take out of an inbox, one after the other. -/
def receivedOver (token : Nat) : Accumulator → List Operation → List Message
  | _, [] => []
  | acc, operation :: rest => acc.received token operation ++ receivedOver token (acc.apply operation) rest

/-- What an operation announces to a container: a line of its own, or lost events. -/
def announced (acc : Accumulator) (container : ContainerId) : Operation → List Message
  | .ingest line =>
      match acc.message? line with
      | some (.event event) => if event.container = container then [.event event] else []
      | some .overflow => [.overflow]
      | none => []
  | _ => []

theorem container_of_mem_announced {event : Event} {operation : Operation}
    (member : .event event ∈ acc.announced container operation) : event.container = container := by
  cases operation with
  | ingest line =>
    simp only [announced] at member
    split at member
    · split at member
      · rename_i same
        rw [List.mem_singleton, Message.event.injEq] at member
        exact member ▸ same
      · contradiction
    · simp at member
    · contradiction
  | exclude _ | register _ | unregister _ | receive _ | drop _ => contradiction

/-- The operation ends a registration: by its own handle, or by a newer one of the container. -/
def Operation.ends (subscription : Subscription) : Operation → Bool
  | .unregister other => other = subscription
  | .register container => container = subscription.container
  | _ => false

/-- All that operations announce to a container before one of them ends the registration. -/
def announcedUntilEnd (subscription : Subscription) : Accumulator → List Operation → List Message
  | _, [] => []
  | acc, operation :: rest =>
      if operation.ends subscription then []
      else acc.announced subscription.container operation ++
        announcedUntilEnd subscription (acc.apply operation) rest

/-! ## One operation -/

/-- The registrations are sound, and the ring is in order and has a place for every event. -/
structure Sound (acc : Accumulator) : Prop where
  live : acc.live.Sound
  stores : ∃ filled free, acc.ring.Invariant filled free ∧ 0 < filled.length + free

theorem sound_empty {size : Nat} (positive : 0 < size) : (empty size).Sound :=
  ⟨Live.sound_empty, [], size, Cache.Ring.invariant_empty size, by simpa using positive⟩

/-- An event that is accepted is stored and forwarded. -/
theorem Sound.accept_eq (sound : acc.Sound) (event : Event) :
    acc.accept event = { acc with ring := (acc.ring.insert event).1, live := acc.live.forward event } := by
  obtain ⟨filled, free, invariant, positive⟩ := sound.stores
  obtain ⟨placement, placed⟩ := invariant.exists_placement positive event
  unfold accept
  generalize acc.ring.insert event = inserted at placed
  obtain ⟨ring, place⟩ := inserted
  obtain rfl : place = some placement := placed
  rfl

theorem Sound.stores_ingest (sound : acc.Sound) (line : List Char) :
    ∃ filled free, (acc.ingest line).ring.Invariant filled free ∧ 0 < filled.length + free := by
  unfold Accumulator.ingest
  split
  · exact sound.stores
  · exact sound.stores
  · rename_i event _
    rw [sound.accept_eq]
    obtain ⟨filled, free, invariant, positive⟩ := sound.stores
    obtain ⟨filled', free', next, size⟩ := invariant.insert event
    exact ⟨filled', free', next, size ▸ positive⟩

/-- An event is passed on, or the ring has no place for it. -/
theorem live_accept (acc : Accumulator) (event : Event) :
    (acc.accept event).live = acc.live ∨ (acc.accept event).live = acc.live.forward event := by
  unfold accept
  split
  · exact .inr rfl
  · exact .inl rfl

@[simp] theorem live_addOwn (acc : Accumulator) (container : ContainerId) :
    (acc.addOwn container).live = acc.live := by
  unfold addOwn
  split <;> rfl

@[simp] theorem ring_addOwn (acc : Accumulator) (container : ContainerId) :
    (acc.addOwn container).ring = acc.ring := by
  unfold addOwn
  split <;> rfl

/-- Registrations stay sound whatever is done, even if the ring has no place at all. -/
theorem sound_live_apply (sound : acc.live.Sound) (operation : Operation) : (acc.apply operation).live.Sound := by
  cases operation with
  | ingest line =>
    simp only [Accumulator.apply, Accumulator.ingest]
    split
    · exact sound
    · exact sound.broadcastOverflow
    · rename_i event _
      rcases acc.live_accept event with same | forwarded
      · exact same ▸ sound
      · exact forwarded ▸ sound.forward event
  | exclude container => simpa only [Accumulator.apply, live_addOwn] using sound
  | register container => exact sound.register container
  | unregister subscription => exact sound.unregister subscription
  | receive token => exact sound.receive token
  | drop token => exact sound.of_le sound.distinct rfl fun _ _ registered => registered

theorem sound_live_run (sound : acc.live.Sound) (operations : List Operation) : (acc.run operations).live.Sound := by
  induction operations generalizing acc with
  | nil => exact sound
  | cons operation rest ih => exact ih (sound_live_apply sound operation)

theorem nextToken_le_apply (sound : acc.live.Sound) (operation : Operation) :
    acc.live.nextToken ≤ (acc.apply operation).live.nextToken := by
  cases operation with
  | ingest line =>
    simp only [Accumulator.apply, Accumulator.ingest]
    split
    · exact Nat.le_refl _
    · exact Nat.le_of_eq sound.broadcast_spec.2.1.symm
    · rename_i event _
      rcases acc.live_accept event with same | forwarded
      · exact Nat.le_of_eq (by rw [same])
      · exact Nat.le_of_eq (by rw [forwarded, Live.nextToken_forward])
  | exclude container => exact Nat.le_of_eq (congrArg Live.nextToken (live_addOwn acc container)).symm
  | register container => exact Nat.le_succ _
  | unregister subscription => exact Nat.le_of_eq (Live.nextToken_unregister ..).symm
  | receive token => exact Nat.le_of_eq (Live.receive_frame acc.live token).2.1.symm
  | drop token => exact Nat.le_refl _

theorem nextToken_le_run (sound : acc.live.Sound) (operations : List Operation) :
    acc.live.nextToken ≤ (acc.run operations).live.nextToken := by
  induction operations generalizing acc with
  | nil => exact Nat.le_refl _
  | cons operation rest ih =>
    exact Nat.le_trans (nextToken_le_apply sound operation) (ih (sound_live_apply sound operation))

theorem Sound.apply (sound : acc.Sound) (operation : Operation) : (acc.apply operation).Sound := by
  refine ⟨sound_live_apply sound.live operation, ?_⟩
  cases operation with
  | ingest line => exact sound.stores_ingest line
  | exclude container => simpa only [Accumulator.apply, ring_addOwn] using sound.stores
  | register | unregister | receive | drop => exact sound.stores

/-- Every operation keeps the accumulator in order. -/
theorem Sound.run (sound : acc.Sound) (operations : List Operation) : (acc.run operations).Sound := by
  induction operations generalizing acc with
  | nil => exact sound
  | cons operation rest ih => exact ih (sound.apply operation)

/-- A container that is excluded stays so. -/
theorem own_subset_apply (acc : Accumulator) (operation : Operation) : acc.own ⊆ (acc.apply operation).own := by
  cases operation with
  | ingest line =>
    simp only [Accumulator.apply, Accumulator.ingest]
    split
    case h_1 | h_2 => exact List.Subset.refl _
    case h_3 event _ =>
      unfold accept
      split <;> exact List.Subset.refl _
  | exclude container =>
    simp only [Accumulator.apply, addOwn]
    split
    · exact List.Subset.refl _
    · exact List.subset_append_left _ _
  | register _ | unregister _ | receive _ | drop _ => exact List.Subset.refl _

/-- What is excluded stays so. -/
theorem own_subset_run (acc : Accumulator) (operations : List Operation) : acc.own ⊆ (acc.run operations).own := by
  induction operations generalizing acc with
  | nil => exact List.Subset.refl _
  | cons operation rest ih => exact List.Subset.trans (own_subset_apply acc operation) (ih (acc.apply operation))

/-! ## Listeners -/

/-- The listener has its registration and its inbox. -/
structure Hears (live : Live) (subscription : Subscription) : Prop where
  registered : live.listeners.get? subscription.container = some subscription.token
  kept : live.inboxes.contains subscription.token = true

/-- The token has been issued and is not registered, so it never will be again. -/
structure Lost (live : Live) (token : Nat) : Prop where
  issued : token < live.nextToken
  unregistered : ∀ container, live.listeners.get? container ≠ some token

theorem Lost.isOpen_eq_false {live : Live} (lost : Lost live token) (sound : live.Sound) :
    live.isOpen token = false := by
  rw [← Bool.not_eq_true, sound.isOpen_iff]
  rintro ⟨container, registered⟩
  exact lost.unregistered container registered

/-- Registrations that have only been taken away do not come back. -/
theorem Lost.of_le {live next : Live} (lost : Lost live token) (sameToken : next.nextToken = live.nextToken)
    (fewer : ∀ container token, next.listeners.get? container = some token →
      live.listeners.get? container = some token) : Lost next token :=
  ⟨sameToken ▸ lost.issued, fun container registered => lost.unregistered container (fewer _ _ registered)⟩

/-- A registration is lost when another listener takes its place, and stays lost. -/
theorem lost_register {live : Live} (issued : token < live.nextToken)
    (gone : ∀ other, other ≠ container → live.listeners.get? other ≠ some token) :
    Lost (live.register container).1 token := by
  refine ⟨Nat.lt_succ_of_lt issued, fun other registered => ?_⟩
  simp only [Live.register, Table.get?_insert] at registered
  split at registered
  · obtain same := Option.some.inj registered
    omega
  · rename_i differs
    exact gone other differs registered

/-- Taking a message out moves it from the inbox to what has been received. -/
theorem received_receive_append_inbox (acc : Accumulator) (other token : Nat) :
    acc.received token (.receive other) ++ (acc.receive other).2.live.inbox token = acc.live.inbox token := by
  by_cases same : other = token
  · subst same
    cases waiting : acc.live.inbox other with
    | nil =>
      simp only [received, receive, Live.receive_of_inbox_nil waiting, waiting, ↓reduceIte, List.append_nil]
      cases acc.live.isOpen other <;> rfl
    | cons message rest =>
      obtain ⟨first, left⟩ := Live.receive_of_inbox_cons waiting
      simp [received, receive, first, left]
  · have frame := (Live.receive_frame acc.live other).2.2.2 token (Ne.symm same)
    simpa [received, receive, same] using frame

/-- An inbox that has been made is kept until it is given up. -/
theorem contains_inboxes_apply (sound : acc.live.Sound) (issued : token < acc.live.nextToken) {operation : Operation}
    (kept : operation ≠ .drop token) :
    (acc.apply operation).live.inboxes.contains token = acc.live.inboxes.contains token := by
  cases operation with
  | ingest line =>
    simp only [Accumulator.apply, Accumulator.ingest]
    split
    · rfl
    · exact sound.broadcast_spec.2.2.1 token
    · rename_i event _
      rcases acc.live_accept event with same | forwarded
      · rw [same]
      · rw [forwarded, Live.contains_inboxes_forward]
  | exclude container => simp [Accumulator.apply]
  | register container =>
    simp [Accumulator.apply, register, Live.register, Table.contains_eq_isSome, Table.get?_insert, Nat.ne_of_lt issued]
  | unregister subscription => simp [Accumulator.apply, unregister]
  | receive other => exact (Live.receive_frame acc.live other).2.2.1 token
  | drop other =>
    have differs : token ≠ other := fun same => kept (by rw [same])
    simp [Accumulator.apply, dropInbox, Live.dropInbox, Table.contains_eq_isSome, Table.get?_erase, differs]

/-- Nothing leaves an inbox unless it is received or given up with it. -/
theorem inbox_prefix_apply (sound : acc.live.Sound) (issued : token < acc.live.nextToken) {operation : Operation}
    (unread : operation ≠ .receive token) (kept : operation ≠ .drop token) :
    acc.live.inbox token <+: (acc.apply operation).live.inbox token := by
  cases operation with
  | ingest line =>
    simp only [Accumulator.apply, Accumulator.ingest]
    split
    · exact List.prefix_rfl
    · rw [sound.broadcast_spec.2.2.2]
      exact List.prefix_append _ _
    · rename_i event _
      rcases acc.live_accept event with same | forwarded
      · exact same.symm ▸ List.prefix_rfl
      · rw [forwarded, Live.inbox_forward]
        exact List.prefix_append _ _
  | exclude container => simp [Accumulator.apply]
  | register container => simp [Accumulator.apply, register, Live.inbox_register issued]
  | unregister subscription => simp [Accumulator.apply, unregister, Live.inbox]
  | receive other =>
    have differs : token ≠ other := fun same => unread (by rw [same])
    have same := (Live.receive_frame acc.live other).2.2.2 token differs
    simp [Accumulator.apply, receive, same]
  | drop other =>
    have differs : token ≠ other := fun same => kept (by rw [same])
    simp [Accumulator.apply, dropInbox, Live.inbox_dropInbox differs]

theorem contains_inboxes_run (sound : acc.live.Sound) (issued : token < acc.live.nextToken)
    {operations : List Operation} (kept : .drop token ∉ operations) :
    (acc.run operations).live.inboxes.contains token = acc.live.inboxes.contains token := by
  induction operations generalizing acc with
  | nil => rfl
  | cons operation rest ih =>
    rw [List.mem_cons, not_or] at kept
    have later := Nat.lt_of_lt_of_le issued (nextToken_le_apply sound operation)
    exact (ih (sound_live_apply sound operation) later kept.2).trans
      (contains_inboxes_apply sound issued (Ne.symm kept.1))

/-- An inbox that nobody reads only grows. -/
theorem inbox_prefix_run (sound : acc.live.Sound) (issued : token < acc.live.nextToken)
    {operations : List Operation} (unread : .receive token ∉ operations) (kept : .drop token ∉ operations) :
    acc.live.inbox token <+: (acc.run operations).live.inbox token := by
  induction operations generalizing acc with
  | nil => exact List.prefix_rfl
  | cons operation rest ih =>
    rw [List.mem_cons, not_or] at unread kept
    have later := Nat.lt_of_lt_of_le issued (nextToken_le_apply sound operation)
    exact (inbox_prefix_apply sound issued (Ne.symm unread.1) (Ne.symm kept.1)).trans
      (ih (sound_live_apply sound operation) later unread.2 kept.2)

/-- A listener gets what a line announces to its container. -/
theorem Hears.ingest (hears : Hears acc.live subscription) (sound : acc.Sound) (line : List Char) :
    Hears (acc.ingest line).live subscription ∧ (acc.ingest line).live.inbox subscription.token =
      acc.live.inbox subscription.token ++ acc.announced subscription.container (.ingest line) := by
  cases meaning : acc.message? line with
  | none => simpa [Accumulator.ingest, announced, meaning] using hears
  | some message =>
    cases message with
    | overflow =>
      obtain ⟨listeners, -, contains, inbox⟩ := sound.live.broadcast_spec
      have isOpen : acc.live.isOpen subscription.token = true := sound.live.isOpen_iff.mpr ⟨_, hears.registered⟩
      simp only [Accumulator.ingest, announced, meaning]
      refine ⟨⟨?_, ?_⟩, ?_⟩
      · simp [listeners, hears.registered, hears.kept, Option.filter]
      · simp [contains, hears.kept]
      · simp [inbox, isOpen, hears.kept]
    | event event =>
      simp only [Accumulator.ingest, announced, meaning, sound.accept_eq]
      refine ⟨⟨?_, by simpa using hears.kept⟩, ?_⟩
      · rw [Live.get?_listeners_forward]
        split <;> simp [hears.registered, hears.kept, Option.filter]
      · rw [Live.inbox_forward]
        congr 1
        by_cases same : event.container = subscription.container
        · simp [same, hears.registered, hears.kept]
        · -- another container's listener has another token
          have other : acc.live.listeners.get? event.container ≠ some subscription.token := fun registered =>
            same (sound.live.unique _ _ _ registered hears.registered)
          simp [same, other]

/-- A listener that was replaced gets nothing more. -/
theorem Lost.ingest (lost : Lost acc.live token) (sound : acc.Sound) (line : List Char) :
    Lost (acc.ingest line).live token ∧ (acc.ingest line).live.inbox token = acc.live.inbox token := by
  unfold Accumulator.ingest
  cases meaning : acc.message? line with
  | none => exact ⟨lost, rfl⟩
  | some message =>
    cases message with
    | overflow =>
      obtain ⟨listeners, nextToken, -, inbox⟩ := sound.live.broadcast_spec
      refine ⟨lost.of_le nextToken fun container token registered => ?_, ?_⟩
      · rw [listeners] at registered
        exact (Option.filter_eq_some_iff.mp registered).1
      · simp [inbox, lost.isOpen_eq_false sound.live]
    | event event =>
      simp only [sound.accept_eq]
      refine ⟨lost.of_le (Live.nextToken_forward ..) fun container token registered => ?_, ?_⟩
      · rw [Live.get?_listeners_forward] at registered
        split at registered
        · exact (Option.filter_eq_some_iff.mp registered).1
        · exact registered
      · simp [Live.inbox_forward, lost.unregistered event.container]

/-- While its registration lasts, a listener is given what is announced to its container. -/
theorem Hears.apply (hears : Hears acc.live subscription) (sound : acc.Sound) {operation : Operation}
    (lasts : operation.ends subscription = false) (kept : operation ≠ .drop subscription.token) :
    Hears (acc.apply operation).live subscription ∧
      acc.received subscription.token operation ++ (acc.apply operation).live.inbox subscription.token =
        acc.live.inbox subscription.token ++ acc.announced subscription.container operation := by
  cases operation with
  | ingest line => exact hears.ingest sound line
  | exclude container =>
    simp only [Accumulator.apply, live_addOwn]
    exact ⟨hears, by simp [received, announced]⟩
  | register container =>
    have differs : subscription.container ≠ container := fun same => by simp [Operation.ends, same] at lasts
    have older := sound.live.issued _ _ hears.registered
    simp only [Accumulator.apply, register, Live.register, received, announced, List.append_nil, List.nil_append]
    refine ⟨⟨by simp [Table.get?_insert, differs, hears.registered], ?_⟩, ?_⟩
    · have kept := hears.kept
      simp only [Table.contains_eq_isSome, Table.get?_insert] at kept ⊢
      split <;> simp [kept]
    · exact Live.inbox_register older
  | unregister other =>
    have differs : other ≠ subscription := fun same => by simp [Operation.ends, same] at lasts
    have stays : ¬ (subscription.token = other.token ∧ subscription.container = other.container) := by
      rintro ⟨sameToken, sameContainer⟩
      exact differs (by cases other; cases subscription; simp_all)
    simp only [Accumulator.apply, unregister, received, announced, List.append_nil, List.nil_append]
    refine ⟨⟨?_, by simpa using hears.kept⟩, by simp [Live.inbox]⟩
    rw [Live.get?_listeners_unregister, hears.registered, if_neg (by simpa using stays)]
  | receive other =>
    obtain ⟨listeners, -, contains, -⟩ := Live.receive_frame acc.live other
    refine ⟨⟨?_, ?_⟩, ?_⟩
    · simpa [Accumulator.apply, receive, listeners] using hears.registered
    · simpa [Accumulator.apply, receive, contains] using hears.kept
    · simpa [Accumulator.apply, announced] using received_receive_append_inbox acc other subscription.token
  | drop other =>
    have differs : subscription.token ≠ other := fun same => kept (by rw [same])
    simp only [Accumulator.apply, dropInbox, received, announced, List.append_nil, List.nil_append]
    refine ⟨⟨hears.registered, ?_⟩, Live.inbox_dropInbox differs⟩
    simpa [Live.dropInbox, Table.contains_eq_isSome, Table.get?_erase, differs] using hears.kept

/-- The end of a registration takes nothing out of the inbox and puts nothing in. -/
theorem Hears.ended (hears : Hears acc.live subscription) (sound : acc.Sound) {operation : Operation}
    (ends : operation.ends subscription = true) :
    Lost (acc.apply operation).live subscription.token ∧
      acc.received subscription.token operation ++ (acc.apply operation).live.inbox subscription.token =
        acc.live.inbox subscription.token := by
  have older := sound.live.issued _ _ hears.registered
  cases operation with
  | register container =>
    obtain rfl : container = subscription.container := by simpa [Operation.ends] using ends
    refine ⟨lost_register older fun other differs registered => differs ?_, Live.inbox_register older⟩
    exact sound.live.unique _ _ _ registered hears.registered
  | unregister other =>
    obtain rfl : other = subscription := by simpa [Operation.ends] using ends
    simp only [Accumulator.apply, unregister, received, List.nil_append]
    refine ⟨⟨by simpa using older, fun container registered => ?_⟩, by simp [Live.inbox]⟩
    rw [Live.get?_listeners_unregister] at registered
    split at registered
    · contradiction
    · rename_i differs
      exact differs ⟨registered, sound.live.unique _ _ _ registered hears.registered⟩
  | ingest line => simp [Operation.ends] at ends
  | exclude container => simp [Operation.ends] at ends
  | receive token => simp [Operation.ends] at ends
  | drop token => simp [Operation.ends] at ends

/-- After its registration has ended, a listener is given nothing more. -/
theorem Lost.apply (lost : Lost acc.live token) (sound : acc.Sound) {operation : Operation}
    (kept : operation ≠ .drop token) :
    Lost (acc.apply operation).live token ∧
      acc.received token operation ++ (acc.apply operation).live.inbox token = acc.live.inbox token := by
  cases operation with
  | ingest line => exact lost.ingest sound line
  | exclude container =>
    simp only [Accumulator.apply, live_addOwn]
    exact ⟨lost, rfl⟩
  | register container =>
    exact ⟨lost_register lost.issued fun other _ => lost.unregistered other, Live.inbox_register lost.issued⟩
  | unregister other =>
    simp only [Accumulator.apply, unregister, received, List.nil_append]
    refine ⟨lost.of_le (by simp) fun container token registered => ?_, by simp [Live.inbox]⟩
    rw [Live.get?_listeners_unregister] at registered
    split at registered
    · contradiction
    · exact registered
  | receive other =>
    obtain ⟨listeners, nextToken, -, -⟩ := Live.receive_frame acc.live other
    refine ⟨lost.of_le nextToken fun container token registered => ?_,
      received_receive_append_inbox acc other token⟩
    simpa [Accumulator.apply, receive, listeners] using registered
  | drop other =>
    have differs : token ≠ other := fun same => kept (by rw [same])
    exact ⟨lost.of_le rfl fun _ _ registered => registered, Live.inbox_dropInbox differs⟩

/-! ## Runs -/

/-- What a lost listener has in its inbox is all that it will ever receive. -/
theorem Lost.run (lost : Lost acc.live token) (sound : acc.Sound) {operations : List Operation}
    (kept : .drop token ∉ operations) :
    receivedOver token acc operations ++ (acc.run operations).live.inbox token = acc.live.inbox token := by
  induction operations generalizing acc with
  | nil => rfl
  | cons operation rest ih =>
    rw [List.mem_cons, not_or] at kept
    obtain ⟨still, step⟩ := lost.apply sound (Ne.symm kept.1)
    have tail := ih still (sound.apply operation) kept.2
    rw [receivedOver, List.append_assoc, ← step]
    exact congrArg _ tail

/-- What a listener has received and what is waiting for it grows by what is announced to its container,
until its registration ends. -/
theorem Hears.run (hears : Hears acc.live subscription) (sound : acc.Sound) {operations : List Operation}
    (kept : .drop subscription.token ∉ operations) :
    receivedOver subscription.token acc operations ++ (acc.run operations).live.inbox subscription.token =
      acc.live.inbox subscription.token ++ announcedUntilEnd subscription acc operations := by
  induction operations generalizing acc with
  | nil => simp [receivedOver, announcedUntilEnd, Accumulator.run]
  | cons operation rest ih =>
    rw [List.mem_cons, not_or] at kept
    rw [receivedOver, announcedUntilEnd]
    cases ends : operation.ends subscription with
    | true =>
      obtain ⟨lost, step⟩ := hears.ended sound ends
      have tail := lost.run (sound.apply operation) kept.2
      simp only [↓reduceIte, List.append_nil]
      rw [List.append_assoc, ← step]
      exact congrArg _ tail
    | false =>
      obtain ⟨still, step⟩ := hears.apply sound ends (Ne.symm kept.1)
      have tail := ih still (sound.apply operation) kept.2
      simp only [Bool.false_eq_true, ↓reduceIte]
      rw [← List.append_assoc (acc.live.inbox _), ← step, List.append_assoc, List.append_assoc]
      exact congrArg _ tail

theorem hears_register (acc : Accumulator) (container : ContainerId) :
    Hears (acc.register container).1.live (acc.register container).2 :=
  ⟨Table.get?_insert_self .., by simp [register, Live.register, Table.contains_eq_isSome]⟩

/-! ## Operations of other listeners -/

/-- The operation is made for a listener with another container and another token. -/
def Operation.IsForeign (subscription : Subscription) : Operation → Prop
  | .register container => container ≠ subscription.container
  | .unregister other => other.token ≠ subscription.token
  | .receive token | .drop token => token ≠ subscription.token
  | .ingest _ | .exclude _ => False

/-- A listener stays one as long as others mind their own business. -/
theorem Hears.run_foreign (hears : Hears acc.live subscription) (sound : acc.Sound)
    {operations : List Operation}
    (foreign : ∀ operation ∈ operations, operation.IsForeign subscription) :
    Hears (acc.run operations).live subscription ∧
      (acc.run operations).live.inbox subscription.token = acc.live.inbox subscription.token := by
  induction operations generalizing acc with
  | nil => exact ⟨hears, rfl⟩
  | cons operation rest ih =>
    have differs := foreign operation (List.mem_cons_self ..)
    have lasts : operation.ends subscription = false := by
      cases operation with
      | unregister other =>
        refine decide_eq_false fun same => differs ?_
        rw [same]
      | register container => exact decide_eq_false differs
      | ingest _ | exclude _ | receive _ | drop _ => rfl
    have kept : operation ≠ .drop subscription.token := by
      rintro rfl
      exact differs rfl
    have silent : acc.announced subscription.container operation = [] ∧
        acc.received subscription.token operation = [] := by
      cases operation with
      | receive token => exact ⟨rfl, if_neg differs⟩
      | ingest _ | exclude _ => exact differs.elim
      | register _ | unregister _ | drop _ => exact ⟨rfl, rfl⟩
    obtain ⟨still, step⟩ := hears.apply sound lasts kept
    rw [silent.1, silent.2, List.nil_append, List.append_nil] at step
    obtain ⟨hears, inbox⟩ := ih still (sound.apply operation) fun operation member =>
      foreign operation (List.mem_cons_of_mem _ member)
    exact ⟨hears, inbox.trans step⟩

/-- A listener that hears finds the first message of its inbox, if there is one, and is never told that
its registration is gone. -/
theorem Hears.receive (hears : Hears acc.live subscription) (sound : acc.Sound) {found : Received}
    {after : Accumulator}
    (result : acc.receive subscription.token = (found, after)) :
    Hears after.live subscription ∧
      ((∃ message, found = .message message ∧
          acc.live.inbox subscription.token = message :: after.live.inbox subscription.token) ∨
        found = .pending ∧ acc.live.inbox subscription.token = [] ∧ after = acc) := by
  have lasts : (Operation.receive subscription.token).ends subscription = false := rfl
  obtain ⟨still, -⟩ := hears.apply sound lasts (by simp)
  obtain rfl : (acc.receive subscription.token).1 = found := congrArg Prod.fst result
  obtain rfl : (acc.receive subscription.token).2 = after := congrArg Prod.snd result
  refine ⟨still, ?_⟩
  cases waiting : acc.live.inbox subscription.token with
  | nil =>
    have isOpen : acc.live.isOpen subscription.token = true := sound.live.isOpen_iff.mpr ⟨_, hears.registered⟩
    have nothing := Live.receive_of_inbox_nil waiting
    rw [if_pos isOpen] at nothing
    simp [Accumulator.receive, nothing]
  | cons message rest =>
    obtain ⟨first, left⟩ := Live.receive_of_inbox_cons waiting
    exact .inl ⟨message, first, by rw [← left]; rfl⟩

/-- From its registration on, and as long as its inbox is kept, a listener has received or still finds
exactly what was announced to its container before the registration ended. -/
theorem received_append_inbox_eq_announced {size : Nat} (positive : 0 < size) (before after : List Operation)
    (container : ContainerId)
    (kept : .drop (((empty size).run before).register container).2.token ∉ after) :
    let registered := ((empty size).run before).register container
    receivedOver registered.2.token registered.1 after ++
        (registered.1.run after).live.inbox registered.2.token =
      announcedUntilEnd registered.2 registered.1 after := by
  intro registered
  have sound := ((sound_empty positive).run before).apply (.register container)
  have all := (hears_register ((empty size).run before) container).run sound kept
  have fresh : registered.1.live.inbox registered.2.token = [] := Live.inbox_register_self ..
  rwa [fresh, List.nil_append] at all

private theorem valid_a : ContainerId.Valid "a" := by decide

private theorem valid_b : ContainerId.Valid "b" := by decide

private def containerA : ContainerId := ⟨"a", valid_a⟩

private def containerB : ContainerId := ⟨"b", valid_b⟩

private def openatLine (id : String) : List Char :=
  Text.joinWith separator
    ["2024-01-01T00:00:00.0".toList, id.toList, [], ['1'], ['2'], "openat".toList, [], []]

/-- A line of another container, a foreign handle and a newer registration elsewhere change nothing; the
listener's own handle ends the delivery. -/
private def interleaving : List Operation :=
  [.ingest (openatLine "a"), .register containerB, .ingest (openatLine "b"), .receive 0, .drop 1,
    .ingest overflowMarker, .unregister ⟨containerA, 1⟩, .ingest (openatLine "a"),
    .unregister ⟨containerA, 0⟩, .ingest (openatLine "a")]

/-- The listener hears of its own container and of lost events, until its own handle is given up. -/
theorem received_append_inbox_interleaving :
    .drop (((empty 1).run []).register containerA).2.token ∉ interleaving ∧
      receivedOver 0 ((empty 1).register containerA).1 interleaving ++
          (((empty 1).register containerA).1.run interleaving).live.inbox 0 =
        [openatLine "a", overflowMarker, openatLine "a"].filterMap (empty 1).message? ∧
      ([openatLine "a", overflowMarker, openatLine "a"].filterMap (empty 1).message?).length = 3 := by
  have kept : .drop (((empty 1).run []).register containerA).2.token ∉ interleaving := by decide +kernel
  refine ⟨kept, ?_, by decide +kernel⟩
  have exact_ := received_append_inbox_eq_announced (by decide : 0 < 1) [] interleaving containerA kept
  exact exact_.trans (by decide +kernel)

end Observatory.Accumulator
