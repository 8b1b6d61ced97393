import Observatory.Live
import Observatory.Proofs.Table

/-! # Registrations and inboxes

What each operation does to the registration of a container and to an inbox. A token is registered at
most once and never again, so a listener either has its registration or has lost it for good.
-/

namespace Observatory.Live

open Trace

variable {live : Live} {container : ContainerId} {token : Nat} {event : Event} {subscription : Subscription}

/-- Registered tokens have been issued, and no token is registered twice. -/
structure Sound (live : Live) : Prop where
  distinct : live.listeners.Distinct
  issued : ∀ container token, live.listeners.get? container = some token → token < live.nextToken
  unique : ∀ container other token, live.listeners.get? container = some token →
    live.listeners.get? other = some token → container = other

theorem sound_empty : empty.Sound := ⟨Table.distinct_empty, nofun, nofun⟩

/-- Registrations that have only been taken away leave a sound state sound. -/
theorem Sound.of_le {next : Live} (sound : live.Sound) (distinct : next.listeners.Distinct)
    (sameToken : next.nextToken = live.nextToken)
    (fewer : ∀ container token, next.listeners.get? container = some token →
      live.listeners.get? container = some token) : next.Sound where
  distinct := distinct
  issued container token registered := sameToken ▸ sound.issued container token (fewer _ _ registered)
  unique container other token registered registeredOther :=
    sound.unique container other token (fewer _ _ registered) (fewer _ _ registeredOther)

/-- A channel is open as long as a container has it. -/
theorem Sound.isOpen_iff (sound : live.Sound) :
    live.isOpen token = true ↔ ∃ container, live.listeners.get? container = some token := by
  rw [isOpen, List.contains_iff_mem, sound.distinct.mem_values_iff]

/-! ## Registering -/

/-- A listener that registers takes the place of the one before, with a token that was never used. -/
theorem Sound.register (sound : live.Sound) (container : ContainerId) : (live.register container).1.Sound where
  distinct := sound.distinct.insert _ _
  issued other token registered := by
    simp only [Live.register, Table.get?_insert] at registered ⊢
    split at registered
    · obtain rfl := Option.some.inj registered
      omega
    · have old := sound.issued other token registered
      omega
  unique first second token registered registeredOther := by
    simp only [Live.register, Table.get?_insert] at registered registeredOther
    -- the new token is larger than every registered one
    split at registered <;> split at registeredOther
    · simp_all
    · have old := sound.issued second token registeredOther
      simp at registered
      omega
    · have old := sound.issued first token registered
      simp at registeredOther
      omega
    · exact sound.unique first second token registered registeredOther

/-- A new listener begins with an empty inbox and leaves the others as they are. -/
theorem inbox_register_self (live : Live) (container : ContainerId) :
    (live.register container).1.inbox live.nextToken = [] := by
  simp [inbox, Live.register]

/-- Those who registered earlier have in their inboxes what they had. -/
theorem inbox_register (older : token < live.nextToken) :
    (live.register container).1.inbox token = live.inbox token := by
  simp [inbox, Live.register, Table.get?_insert, Nat.ne_of_lt older]

/-- A listener that leaves keeps the others in order. -/
theorem Sound.unregister (sound : live.Sound) (subscription : Subscription) :
    (live.unregister subscription).Sound := by
  unfold Live.unregister
  split
  · refine sound.of_le (sound.distinct.erase _) rfl fun container token registered => ?_
    simp only [Table.get?_erase] at registered
    split at registered
    · contradiction
    · exact registered
  · exact sound

/-- A listener gives up its container only if no other has taken it over. -/
theorem get?_listeners_unregister (live : Live) (subscription : Subscription) (container : ContainerId) :
    (live.unregister subscription).listeners.get? container =
      if live.listeners.get? container = some subscription.token ∧ container = subscription.container then none
      else live.listeners.get? container := by
  unfold unregister
  by_cases same : container = subscription.container
  · subst same
    split <;> simp_all [Table.get?_erase]
  · split <;> simp [same, Table.get?_erase]

@[simp] theorem inboxes_unregister (live : Live) (subscription : Subscription) :
    (live.unregister subscription).inboxes = live.inboxes := by
  unfold unregister
  split <;> rfl

@[simp] theorem nextToken_unregister (live : Live) (subscription : Subscription) :
    (live.unregister subscription).nextToken = live.nextToken := by
  unfold unregister
  split <;> rfl

/-! ## Inboxes -/

/-- To drop an inbox leaves the others alone. -/
theorem inbox_dropInbox {other : Nat} (differs : token ≠ other) :
    (live.dropInbox other).inbox token = live.inbox token := by
  simp [inbox, dropInbox, Table.get?_erase, differs]

/-- A message goes to the end of one inbox, if it is still there. -/
theorem inbox_deliver (live : Live) (other : Nat) (message : Message) (token : Nat) :
    (live.deliver other message).inbox token =
      live.inbox token ++ if token = other ∧ live.inboxes.contains token = true then [message] else [] := by
  by_cases same : token = other
  · subst same
    simp only [inbox, deliver, Table.get?_modify, Table.contains_eq_isSome, ↓reduceIte, true_and]
    cases live.inboxes.get? token <;> simp
  · simp [inbox, deliver, Table.get?_modify, same]

@[simp] theorem contains_inboxes_deliver (live : Live) (other : Nat) (message : Message) (token : Nat) :
    (live.deliver other message).inboxes.contains token = live.inboxes.contains token :=
  Table.contains_modify ..

/-! ## Forwarding -/

/-- An event goes to the listener of its container and to nobody else. -/
theorem inbox_forward (live : Live) (event : Event) (token : Nat) :
    (live.forward event).inbox token = live.inbox token ++
      if live.listeners.get? event.container = some token ∧ live.inboxes.contains token = true then
        [.event event] else [] := by
  unfold forward
  cases registered : live.listeners.get? event.container with
  | none => simp
  | some other =>
    by_cases kept : live.inboxes.contains other = true
    · simp only [kept, ↓reduceIte, inbox_deliver, Option.some.injEq, eq_comm]
    · by_cases same : other = token
      · simp [← same, kept, inbox]
      · simp [same, kept, inbox]

/-- A listener without an inbox is forgotten when an event comes for it. -/
theorem get?_listeners_forward (live : Live) (event : Event) (container : ContainerId) :
    (live.forward event).listeners.get? container =
      if container = event.container then (live.listeners.get? container).filter (live.inboxes.contains ·)
      else live.listeners.get? container := by
  unfold forward
  cases registered : live.listeners.get? event.container with
  | none =>
    by_cases same : container = event.container
    · simp [same, registered]
    · simp [same]
  | some other =>
    by_cases kept : live.inboxes.contains other = true
    · by_cases same : container = event.container
      · simp [same, registered, kept, deliver, Option.filter]
      · simp [same, kept, deliver]
    · by_cases same : container = event.container
      · simp [same, registered, kept, Table.get?_erase, Option.filter]
      · simp [same, kept, Table.get?_erase]

@[simp] theorem contains_inboxes_forward (live : Live) (event : Event) (token : Nat) :
    (live.forward event).inboxes.contains token = live.inboxes.contains token := by
  unfold forward
  split
  · rfl
  · split <;> simp

@[simp] theorem nextToken_forward (live : Live) (event : Event) :
    (live.forward event).nextToken = live.nextToken := by
  unfold forward
  split
  · rfl
  · split <;> rfl

/-- To forward an event keeps the listeners in order. -/
theorem Sound.forward (sound : live.Sound) (event : Event) : (live.forward event).Sound := by
  refine sound.of_le ?_ (nextToken_forward live event) fun container token registered => ?_
  · unfold Live.forward
    split
    · exact sound.distinct
    · split
      · exact sound.distinct
      · exact sound.distinct.erase _
  · rw [get?_listeners_forward] at registered
    split at registered
    · exact (Option.filter_eq_some_iff.mp registered).1
    · exact registered

/-! ## Broadcasting -/

/-- Every inbox of the list that exists gets the message, once if the list has no repetition. -/
private theorem foldl_deliver (tokens : List Nat) (nodup : tokens.Nodup) (message : Message) (live : Live) :
    let next := tokens.foldl (fun live token => live.deliver token message) live
    next.listeners = live.listeners ∧ next.nextToken = live.nextToken ∧
      (∀ token, next.inboxes.contains token = live.inboxes.contains token) ∧
      ∀ token, next.inbox token = live.inbox token ++
        if token ∈ tokens ∧ live.inboxes.contains token = true then [message] else [] := by
  induction tokens generalizing live with
  | nil => simp
  | cons first rest ih =>
    rw [List.nodup_cons] at nodup
    obtain ⟨listeners, nextToken, contains, inbox⟩ := ih nodup.2 (live.deliver first message)
    refine ⟨listeners, nextToken, fun token => by simp [contains], fun token => ?_⟩
    rw [List.foldl_cons, inbox, inbox_deliver, contains_inboxes_deliver, List.append_assoc]
    congr 1
    by_cases same : token = first
    · subst same
      simp [nodup.1]
    · simp [same]

private theorem nodup_values (sound : live.Sound) : live.listeners.values.Nodup := by
  refine (List.nodup_map_iff_inj_on sound.distinct.of_map).mpr ?_
  rintro ⟨container, token⟩ member ⟨other, tokenOther⟩ memberOther same
  simp only at same
  subst same
  rw [sound.distinct.mem_entries_iff] at member memberOther
  rw [sound.unique container other token member memberOther]

private theorem Sound.reached (sound : live.Sound) :
    ({ live with listeners := live.listeners.filter fun _ token => live.inboxes.contains token } : Live).Sound := by
  refine sound.of_le (sound.distinct.filter _) rfl fun container token registered => ?_
  rw [sound.distinct.get?_filter] at registered
  exact (Option.filter_eq_some_iff.mp registered).1

/-- Lost events are announced to every listener that still has an inbox, and those without are forgotten. -/
theorem Sound.broadcast_spec (sound : live.Sound) :
    (∀ container, live.broadcastOverflow.listeners.get? container =
        (live.listeners.get? container).filter (live.inboxes.contains ·)) ∧
      live.broadcastOverflow.nextToken = live.nextToken ∧
      (∀ token, live.broadcastOverflow.inboxes.contains token = live.inboxes.contains token) ∧
      ∀ token, live.broadcastOverflow.inbox token = live.inbox token ++
        if live.isOpen token = true ∧ live.inboxes.contains token = true then [.overflow] else [] := by
  obtain ⟨listeners, nextToken, contains, inbox⟩ :=
    foldl_deliver _ (nodup_values sound.reached) .overflow
      { live with listeners := live.listeners.filter fun _ token => live.inboxes.contains token }
  refine ⟨fun container => ?_, nextToken, contains, fun token => (inbox token).trans ?_⟩
  · rw [broadcastOverflow, listeners, sound.distinct.get?_filter]
  · congr 1
    congr 1
    rw [eq_iff_iff, (sound.distinct.filter _).mem_values_iff, sound.isOpen_iff]
    simp only [sound.distinct.get?_filter, Option.filter_eq_some_iff]
    constructor
    · rintro ⟨⟨container, registered, -⟩, kept⟩
      exact ⟨⟨container, registered⟩, kept⟩
    · rintro ⟨⟨container, registered⟩, kept⟩
      exact ⟨⟨container, registered, kept⟩, kept⟩

theorem Sound.broadcastOverflow (sound : live.Sound) : live.broadcastOverflow.Sound := by
  obtain ⟨listeners, nextToken, -, -⟩ := sound.broadcast_spec
  refine sound.of_le ?_ nextToken fun container token registered => ?_
  · have same := (foldl_deliver _ (nodup_values sound.reached) .overflow
      { live with listeners := live.listeners.filter fun _ token => live.inboxes.contains token }).1
    rw [Live.broadcastOverflow, same]
    exact sound.distinct.filter _
  · rw [listeners] at registered
    exact (Option.filter_eq_some_iff.mp registered).1

/-! ## Receiving -/

/-- What came first is received first. -/
theorem receive_of_inbox_cons {message : Message} {rest : List Message}
    (waiting : live.inbox token = message :: rest) :
    (live.receive token).1 = .message message ∧ (live.receive token).2.inbox token = rest := by
  have present : (live.inboxes.get? token).isSome = true := by
    cases found : live.inboxes.get? token with
    | none => simp [inbox, found] at waiting
    | some messages => rfl
  rw [receive, waiting]
  refine ⟨rfl, ?_⟩
  obtain ⟨messages, found⟩ := Option.isSome_iff_exists.mp present
  simp [inbox, Table.get?_modify, found]

/-- With nothing in the inbox, a listener waits or learns that its channel is closed. -/
theorem receive_of_inbox_nil (waiting : live.inbox token = []) :
    live.receive token = (if live.isOpen token then .pending else .closed, live) := by
  rw [receive, waiting]

/-- To receive changes the own inbox only. -/
theorem receive_frame (live : Live) (token : Nat) :
    (live.receive token).2.listeners = live.listeners ∧ (live.receive token).2.nextToken = live.nextToken ∧
      (∀ other, (live.receive token).2.inboxes.contains other = live.inboxes.contains other) ∧
      ∀ other, other ≠ token → (live.receive token).2.inbox other = live.inbox other := by
  unfold receive
  split
  · refine ⟨rfl, rfl, fun other => Table.contains_modify .., fun other differs => ?_⟩
    simp [inbox, Table.get?_modify, differs]
  · exact ⟨rfl, rfl, fun _ => rfl, fun _ _ => rfl⟩

theorem Sound.receive (sound : live.Sound) (token : Nat) : (live.receive token).2.Sound := by
  obtain ⟨listeners, nextToken, -, -⟩ := receive_frame live token
  refine sound.of_le (listeners ▸ sound.distinct) nextToken fun container token registered => ?_
  rwa [listeners] at registered

end Observatory.Live
