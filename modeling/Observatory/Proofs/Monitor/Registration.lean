import Observatory.Proofs.Monitor.Overflow
import Observatory.Proofs.Monitor.Tally

/-! # Registered listeners

An aggregator registers a listener when it begins and gives it up when it ends. As long as nothing else
registers listeners, main statement: at every moment just the aggregators that are between the two have a
registration, each for its own container and under its own token. So no registration outlives its observation,
no listener finds its stream closed, and lost events are the only reason for which an observation is aborted.
-/

namespace Observatory

open Accumulator Aggregation Trace

namespace Aggregation.Aggregator

/-- What the aggregator has come to, whether or not it has left already. -/
def verdict? : Aggregator → Option Outcome
  | .leaving _ outcome | .ended outcome => some outcome
  | .created | .subscribed _ | .listening .. | .draining .. => none

end Aggregation.Aggregator

namespace Accumulator

variable {acc : Accumulator} {container : ContainerId}

/-- Lines leave all registrations in place, as long as each has its inbox. -/
theorem get?_listeners_ingest (sound : acc.live.Sound)
    (kept : ∀ container token, acc.live.listeners.get? container = some token →
      acc.live.inboxes.contains token = true) (line : List Char) (container : ContainerId) :
    (acc.ingest line).live.listeners.get? container = acc.live.listeners.get? container := by
  have filtered : (acc.live.listeners.get? container).filter (acc.live.inboxes.contains ·) =
      acc.live.listeners.get? container := by
    cases registered : acc.live.listeners.get? container with
    | none => rfl
    | some token => simp [Option.filter, kept container token registered]
  unfold ingest
  split
  · rfl
  · rw [sound.broadcast_spec.1, filtered]
  · rename_i event _
    rcases live_accept acc event with same | forwarded
    · rw [same]
    · rw [forwarded, Live.get?_listeners_forward, filtered, ite_self]

/-- A registered listener waits for more, and does not find its stream closed. -/
theorem receive_ne_closed (sound : acc.live.Sound) {token : Nat}
    (registered : acc.live.listeners.get? container = some token) : (acc.receive token).1 ≠ .closed := by
  have isOpen := sound.isOpen_iff.mpr ⟨container, registered⟩
  simp only [receive]
  cases waiting : acc.live.inbox token with
  | nil => simp [Live.receive_of_inbox_nil waiting, isOpen]
  | cons message rest => simp [(Live.receive_of_inbox_cons waiting).1]

end Accumulator

namespace Books

variable {books next : Books}

/-- What is retained has been recorded. -/
def Retains (books : Books) : Prop :=
  ∀ record ∈ books.retention.records, ∃ serial, .finished serial record ∈ books.course

theorem Retains.write (retains : books.Retains) (entries : List Entry) : (books.write entries).Retains :=
  fun record member => (retains record member).imp fun _ told => List.mem_append_left _ told

theorem Retains.finish (retains : books.Retains) (observation : Observation) (outcome : Outcome) :
    (books.finish observation outcome).Retains := by
  intro record member
  have known : record ∈ books.retention.records ∨ record = recordOf observation outcome := by
    simp only [Books.finish, Retention.push] at member
    split at member
    · exact .inl member
    · rcases List.mem_append.mp member with earlier | now
      · exact .inl (List.mem_of_mem_drop earlier)
      · exact .inr (List.mem_singleton.mp now)
  rcases known with earlier | rfl
  · exact (retains record earlier).imp fun _ told => List.mem_append_left _ told
  · exact ⟨observation.serial, by simp [Books.finish]⟩

/-- What is recorded in a turn is retained. -/
theorem Retains.turn (retains : books.Retains) (turn : Turn books next) : next.Retains := by
  cases turn with
  | kept | amended | reported | sent | concluded => exact retains
  | begun | expired | taken | unexpected | offered => exact retains.write _
  | aborted => exact (retains.write _).finish _ _
  | completed | ended => exact retains.finish _ _

theorem Retains.breach (retains : books.Retains) (breach : Breach books next) : next.Retains := by
  cases breach with
  | diverted | closed | dropped => exact retains
  | droppedLast => exact retains.finish _ _

end Books

namespace Monitor

variable {monitor next : Monitor} {action : Action} {actions : List Action} {serial : Nat}
  {before after observation : Observation} {container : ContainerId}

/-- The token under which a container is registered. -/
def registered? (monitor : Monitor) (container : ContainerId) : Option Nat :=
  monitor.accumulator.live.listeners.get? container

/-! ## Moves -/

/-- A move keeps the registration of the container in step with the aggregator, and the others as they are. -/
theorem Moved.get?_listeners {stopped : Bool} {acc later : Accumulator} {move : Move}
    {aggregator moved : Aggregator} (moves : Moved container stopped acc move aggregator moved later)
    (own : ∀ subscription, aggregator.subscription? = some subscription → subscription.container = container)
    (registered : acc.live.listeners.get? container = aggregator.subscription?.map (·.token)) (other : ContainerId) :
    later.live.listeners.get? other =
      if other = container then moved.subscription?.map (·.token) else acc.live.listeners.get? other := by
  have unchanged (same : later.live.listeners = acc.live.listeners)
      (subscription : moved.subscription? = aggregator.subscription?) :
      later.live.listeners.get? other =
        if other = container then moved.subscription?.map (·.token) else acc.live.listeners.get? other := by
    rw [same, subscription, ← registered]
    split
    · rename_i isOwn
      rw [isOwn]
    · rfl
  have received {token : Nat} {found : Received} (result : acc.receive token = (found, later)) :
      later.live.listeners = acc.live.listeners := by
    have same : (acc.receive token).2 = later := congrArg Prod.snd result
    exact same ▸ (Live.receive_frame acc.live token).1
  cases moves with
  | subscribed => exact Table.get?_insert ..
  | replayed | heeded => exact unchanged rfl rfl
  | received _ _ _ result | overflowed _ _ result | closed _ _ result | drained _ _ _ result | skipped _ _ result
  | completed _ _ _ result => exact unchanged (received result) rfl
  | left subscription outcome =>
    have isOwn := own subscription rfl
    have left : ((acc.unregister subscription).dropInbox subscription.token).live.listeners.get? other =
        (acc.live.unregister subscription).listeners.get? other := rfl
    rw [left, Live.get?_listeners_unregister, isOwn]
    by_cases same : other = container
    · simp [same, registered, Aggregator.subscription?]
    · simp [same]

/-- What an aggregator can come to as long as it is registered. -/
theorem Moved.verdict? {stopped : Bool} {acc later : Accumulator} {move : Move} {aggregator moved : Aggregator}
    (moves : Moved container stopped acc move aggregator moved later) (sound : acc.live.Sound)
    (own : ∀ subscription, aggregator.subscription? = some subscription → subscription.container = container)
    (registered : acc.live.listeners.get? container = aggregator.subscription?.map (·.token))
    {outcome : Aggregation.Outcome} (verdict : moved.verdict? = some outcome) :
    aggregator.verdict? = some outcome ∨ (∃ report, outcome = .ok report) ∨ outcome = .error (.overflow container) := by
  cases moves with
  | subscribed | replayed | received | heeded | drained | skipped => contradiction
  | overflowed subscription =>
    obtain rfl := Option.some.inj verdict
    exact .inr (.inr (by rw [own subscription rfl]))
  | closed subscription progress result =>
    exact absurd (congrArg Prod.fst result) (receive_ne_closed sound registered)
  | completed =>
    obtain rfl := Option.some.inj verdict
    exact .inr (.inl ⟨_, rfl⟩)
  | left => exact .inl verdict

/-! ## The invariant -/

/-- Registrations are in step with the aggregators. An observation that has tasks has its result, so its
aggregator has ended, and just lost events have led to an abort. -/
structure Enlisted (monitor : Monitor) : Prop extends monitor.Attentive where
  registered : ∀ observation ∈ monitor.active,
    monitor.registered? observation.container = observation.aggregator.subscription?.map (·.token)
  unobserved : ∀ container, (∀ observation ∈ monitor.active, observation.container ≠ container) →
    monitor.registered? container = none
  verdict : ∀ observation ∈ monitor.active, ∀ outcome, observation.aggregator.verdict? = some outcome →
    (∃ report, outcome = .ok report) ∨ outcome = .error (.overflow observation.container)
  announced : ∀ serial standing, (monitor.desk serial).standing = some standing → standing.unsent ≠ [] →
    standing.result ≠ none
  stored : ∀ serial, (monitor.desk serial).storing ≠ none → serial < monitor.nextSerial ∧
    ∀ standing, (monitor.desk serial).standing = some standing → standing.result ≠ none
  aborted : ∀ serial, ∀ record ∈ (monitor.desk serial).records, ∀ reason, record.outcome = .aborted reason →
    reason = (Error.overflow record.container).message

theorem enlisted_empty (policy : Policy) (cacheSize : Nat) : (empty policy cacheSize).Enlisted where
  toAttentive := attentive_empty policy cacheSize
  registered _ member := absurd member List.not_mem_nil
  unobserved _ _ := rfl
  verdict _ member := absurd member List.not_mem_nil
  announced _ _ standing := nomatch standing
  stored _ storing := absurd rfl storing
  aborted _ _ member := absurd member List.not_mem_nil

theorem Separate.container_of_subscription (separate : monitor.Separate) (member : observation ∈ monitor.active)
    {subscription : Subscription} (subscribed : observation.aggregator.subscription? = some subscription) :
    subscription.container = observation.container :=
  ((separate.fits observation member).subscribed subscription subscribed).1

/-- An aggregator whose observation has a result has ended. -/
theorem Separate.ended_of_result (separate : monitor.Separate) (member : observation ∈ monitor.active)
    (reported : observation.aggregation.result ≠ none) : ∃ outcome, observation.aggregator = .ended outcome := by
  obtain ⟨result, completed⟩ := Option.ne_none_iff_exists'.mp reported
  obtain ⟨outcome, ended, -⟩ := (separate.fits observation member).reported result completed
  exact ⟨outcome, ended⟩

/-- A container has a listener just when an observation of it is subscribed. -/
theorem Enlisted.registered_iff (enlisted : monitor.Enlisted) (container : ContainerId) (token : Nat) :
    monitor.registered? container = some token ↔ ∃ observation ∈ monitor.active,
      observation.container = container ∧ observation.aggregator.subscription? = some ⟨container, token⟩ := by
  constructor
  · intro registered
    have observed : ∃ observation ∈ monitor.active, observation.container = container := by
      by_contra unobserved
      push Not at unobserved
      rw [enlisted.unobserved container unobserved] at registered
      contradiction
    obtain ⟨observation, member, rfl⟩ := observed
    rw [enlisted.registered observation member] at registered
    obtain ⟨subscription, subscribed, rfl⟩ := Option.map_eq_some_iff.mp registered
    refine ⟨observation, member, rfl, ?_⟩
    rw [subscribed, ← enlisted.container_of_subscription member subscribed]
  · rintro ⟨observation, member, rfl, subscribed⟩
    rw [enlisted.registered observation member, subscribed]
    rfl

/-- A listener has its inbox. -/
theorem Enlisted.kept_of_registered (enlisted : monitor.Enlisted) {token : Nat}
    (registered : monitor.registered? container = some token) :
    monitor.accumulator.live.inboxes.contains token = true := by
  obtain ⟨observation, member, -, subscribed⟩ := (enlisted.registered_iff container token).mp registered
  exact enlisted.kept observation member _ subscribed

/-- A registration changes only by a move of the aggregator of its container, and then with it. -/
theorem Enlisted.registered?_step (enlisted : monitor.Enlisted) (stepped : monitor.step? action = some next)
    (alone : ∀ container, action ≠ .intrude container) (container : ContainerId) :
    (∃ serial move before aggregator, action = .aggregate serial move ∧
        monitor.observation? serial = some before ∧ before.container = container ∧
        next.observation? serial = some { before with aggregator := aggregator } ∧
        Moved container before.isStopped monitor.accumulator move before.aggregator aggregator next.accumulator ∧
        next.registered? container = aggregator.subscription?.map (·.token)) ∨
      (∀ serial move before, action = .aggregate serial move → monitor.observation? serial = some before →
          before.container ≠ container) ∧
        next.registered? container = monitor.registered? container := by
  cases action with
  | aggregate serial move =>
    obtain ⟨before, aggregator, found, foundNext, moves⟩ := moved_of_aggregate stepped
    have member := (mem_active_of_observation? found).1
    have registrations := moves.get?_listeners
      (fun _ subscribed => enlisted.container_of_subscription member subscribed)
      (enlisted.registered before member) container
    by_cases same : container = before.container
    · subst same
      rw [if_pos rfl] at registrations
      exact .inl ⟨serial, move, before, aggregator, rfl, found, rfl, foundNext, moves, registrations⟩
    · rw [if_neg same] at registrations
      refine .inr ⟨?_, registrations⟩
      rintro _ _ other ⟨⟩ foundOther
      obtain rfl := Option.some.inj (found.symm.trans foundOther)
      exact Ne.symm same
  | intrude other => exact absurd rfl (alone other)
  | ingest line =>
    obtain rfl := Option.some.inj stepped
    refine .inr ⟨by rintro _ _ _ ⟨⟩, get?_listeners_ingest enlisted.live ?_ line container⟩
    intro container token registered
    exact enlisted.kept_of_registered registered
  | exclude other =>
    obtain rfl := Option.some.inj stepped
    exact .inr ⟨by rintro _ _ _ ⟨⟩, by simp [registered?]⟩
  | elapse | request | enroll | sbomReady | vulnerabilitiesReady | expire | abort | report | send | hire | take
  | prepare | stored | divert | closeQueue | forgetPod | retainPods =>
    refine .inr ⟨by rintro _ _ _ ⟨⟩, ?_⟩
    rw [registered?, accumulator_step stepped]
    rfl

/-! ## Steps -/

/-- An observation that runs after a step ran before it, or is the only one of its container. -/
theorem Separate.continues_or_fresh (separate : monitor.Separate) (stepped : monitor.step? action = some next)
    (member : after ∈ next.active) :
    (∃ before, Continues after.serial monitor action next before after) ∨
      after.aggregator = .created ∧ ∀ observation ∈ monitor.active, observation.container ≠ after.container := by
  have foundNext := (separate.step stepped).observation?_eq_some_iff.mpr ⟨member, rfl⟩
  have continues {before : Observation} (earlier : before ∈ monitor.active) (same : before.serial = after.serial) :
      Continues after.serial monitor action next before after :=
    ⟨separate, stepped, separate.observation?_eq_some_iff.mpr ⟨earlier, same⟩, foundNext⟩
  cases effect_of_step stepped with
  | kept active => exact .inl ⟨after, continues (active ▸ member) rfl⟩
  | begun start identity entering unobserved active =>
    rw [active, List.mem_append, List.mem_singleton] at member
    rcases member with earlier | rfl
    · exact .inl ⟨after, continues earlier rfl⟩
    · refine .inr ⟨rfl, fun observation member => ?_⟩
      have differs : observation.container ≠ start.container := by
        simpa using List.find?_eq_none.mp unobserved observation member
      exact differs
  | revised old new earlier revised active =>
    rw [active] at member
    obtain ⟨other, memberOther, same⟩ := List.mem_map.mp member
    split at same
    · subst same
      exact .inl ⟨old, continues earlier revised.serial.symm⟩
    · subst same
      exact .inl ⟨other, continues memberOther rfl⟩
  | ended old earlier active =>
    rw [active] at member
    exact .inl ⟨after, continues (List.mem_of_mem_filter member) rfl⟩

/-- An observation does not end before its aggregator. -/
theorem Enlisted.ended_of_gone (enlisted : monitor.Enlisted) (stepped : monitor.step? action = some next)
    (found : monitor.observation? serial = some observation) (gone : next.observation? serial = none) :
    ∃ outcome, observation.aggregator = .ended outcome := by
  have member := (mem_active_of_observation? found).1
  have tally := tally_step enlisted.toSeparate stepped serial
  have closed : (next.desk serial).standing = none := by simp [desk, gone]
  have standing : (monitor.desk serial).standing = some observation.standing := by simp [desk, found]
  generalize next.desk serial = desk at tally closed
  generalize monitor.attempt? serial action = attempt at tally
  cases tally with
  | aside | offered => exact absurd (standing.symm.trans closed) (by simp)
  | begun | announced | sent => contradiction
  | aborted old foundOld watching outcome ended | unserved old foundOld stopped unreported outcome ended =>
    obtain rfl := Option.some.inj (found.symm.trans foundOld)
    exact ⟨outcome, ended⟩
  | dropped old foundOld service rest announced =>
    obtain rfl := Option.some.inj (found.symm.trans foundOld)
    refine enlisted.ended_of_result member (enlisted.announced serial _ standing ?_)
    simp [Observation.standing, announced]
  | underived old foundOld task preparing reason derives =>
    obtain rfl := Option.some.inj (found.symm.trans foundOld)
    refine enlisted.ended_of_result member fun unreported => ?_
    simp [Observation.derive?, unreported] at derives
  | answered old foundOld task artifact since storing =>
    have atStore : (monitor.desk serial).storing ≠ none := by simp [Monitor.desk, storing, Worker.storing?]
    exact enlisted.ended_of_result member ((enlisted.stored serial atStore).2 _ standing)

/-- After every action, the listener of an observed container is its observation. -/
theorem Enlisted.registered_step (enlisted : monitor.Enlisted) (stepped : monitor.step? action = some next)
    (alone : ∀ container, action ≠ .intrude container) (member : after ∈ next.active) :
    next.registered? after.container = after.aggregator.subscription?.map (·.token) := by
  have separate := enlisted.toSeparate
  rcases enlisted.registered?_step stepped alone after.container with
    ⟨serial, move, before, aggregator, rfl, found, own, foundNext, -, registered⟩ | ⟨foreign, same⟩
  · -- the observation that has moved is the one of the container
    have isMoved : after = { before with aggregator := aggregator } := by
      by_contra differ
      have moved := (mem_active_of_observation? foundNext).1
      exact ((separate.step stepped).apart_of_ne member moved differ).container own.symm
    rw [registered, isMoved]
  · rw [same]
    rcases separate.continues_or_fresh stepped member with ⟨before, continues⟩ | ⟨created, unobserved⟩
    · have container : after.container = before.container := congrArg Start.container continues.start_eq.1
      have memberBefore := (mem_active_of_observation? continues.found).1
      rcases continues.moved_or_unmoved with ⟨move, rfl, -⟩ | ⟨-, unmoved⟩
      · exact absurd container.symm (foreign _ move before rfl continues.found)
      · rw [container, unmoved, enlisted.registered before memberBefore]
    · rw [created, enlisted.unobserved _ unobserved]
      rfl

/-- A container that is not observed has no listener. -/
theorem Enlisted.unobserved_step (enlisted : monitor.Enlisted) (stepped : monitor.step? action = some next)
    (alone : ∀ container, action ≠ .intrude container)
    (unobserved : ∀ observation ∈ next.active, observation.container ≠ container) :
    next.registered? container = none := by
  rcases enlisted.registered?_step stepped alone container with
    ⟨serial, move, before, aggregator, rfl, found, own, foundNext, -, -⟩ | ⟨-, same⟩
  · have moved := unobserved _ (mem_active_of_observation? foundNext).1
    exact absurd own moved
  · rw [same]
    by_cases observed : ∃ observation ∈ monitor.active, observation.container = container
    · -- the observation has just ended, so its aggregator had left
      obtain ⟨observation, member, rfl⟩ := observed
      have found := enlisted.observation?_eq_some_iff.mpr ⟨member, rfl⟩
      have gone : next.observation? observation.serial = none := by
        by_contra goesOn
        obtain ⟨after, foundNext⟩ := Option.ne_none_iff_exists'.mp goesOn
        have continues : Continues observation.serial monitor action next observation after :=
          ⟨enlisted.toSeparate, stepped, found, foundNext⟩
        have container : after.container = observation.container := congrArg Start.container continues.start_eq.1
        exact unobserved after (mem_active_of_observation? foundNext).1 container
      obtain ⟨outcome, ended⟩ := enlisted.ended_of_gone stepped found gone
      rw [enlisted.registered observation member, ended]
      rfl
    · push Not at observed
      exact enlisted.unobserved container observed

/-- An aggregation ends with a report, or with the loss of events. -/
theorem Enlisted.verdict_step (enlisted : monitor.Enlisted) (stepped : monitor.step? action = some next)
    (member : after ∈ next.active) {outcome : Aggregation.Outcome}
    (verdict : after.aggregator.verdict? = some outcome) :
    (∃ report, outcome = .ok report) ∨ outcome = .error (.overflow after.container) := by
  rcases enlisted.toSeparate.continues_or_fresh stepped member with ⟨before, continues⟩ | ⟨created, -⟩
  · have container : after.container = before.container := congrArg Start.container continues.start_eq.1
    have memberBefore := (mem_active_of_observation? continues.found).1
    rw [container]
    rcases continues.moved_or_unmoved with ⟨move, -, moves⟩ | ⟨-, unmoved⟩
    · rcases moves.verdict? enlisted.live
        (fun _ subscribed => enlisted.container_of_subscription memberBefore subscribed)
        (enlisted.registered before memberBefore) verdict with earlier | now
      · exact enlisted.verdict before memberBefore outcome earlier
      · exact now
    · exact enlisted.verdict before memberBefore outcome (unmoved ▸ verdict)
  · rw [created] at verdict
    contradiction

/-- Within its window an aggregator ends only with lost events. -/
theorem Enlisted.overflow_of_watching (enlisted : monitor.Enlisted) (member : observation ∈ monitor.active)
    (watching : observation.phase = .watching) {outcome : Aggregation.Outcome}
    (ended : observation.aggregator = .ended outcome) : outcome = .error (.overflow observation.container) := by
  have unstopped := enlisted.unstopped observation member watching
  rcases enlisted.verdict observation member outcome (by rw [ended]; rfl) with ⟨report, rfl⟩ | overflow
  · rw [ended] at unstopped
    contradiction
  · exact overflow

/-- Where the tasks of an observation stand as they do: it has just begun, its result has just come, or it had
that result before. -/
theorem Tally.stood {attempt : Option Attempt} {desk : Desk} (tally : Tally monitor serial attempt desk)
    {standing : Standing} (stands : desk.standing = some standing) :
    serial = monitor.nextSerial ∧ standing.unsent = [] ∨ standing.result ≠ none ∨
      ∃ earlier, (monitor.desk serial).standing = some earlier ∧ standing.result = earlier.result ∧
        (standing.unsent ≠ [] → earlier.unsent ≠ []) := by
  have stood {old : Observation} (found : monitor.observation? serial = some old) :
      (monitor.desk serial).standing = some old.standing := by
    simp [Monitor.desk, found]
  cases tally with
  | aside | offered => exact .inr (.inr ⟨standing, stands, rfl, id⟩)
  | begun start identity fresh =>
    obtain rfl := Option.some.inj stands
    exact .inl ⟨fresh, rfl⟩
  | aborted | unserved => contradiction
  | announced =>
    obtain rfl := Option.some.inj stands
    exact .inr (.inl (by simp))
  | sent old found service rest announced =>
    obtain rfl := Option.some.inj stands
    exact .inr (.inr ⟨_, stood found, rfl, fun _ => by simp [Observation.standing, announced]⟩)
  | dropped old found service rest announced =>
    unfold Desk.conclude at stands
    split at stands
    · contradiction
    · obtain rfl := Option.some.inj stands
      exact .inr (.inr ⟨_, stood found, rfl, fun _ => by simp [Observation.standing, announced]⟩)
  | underived old found | answered old found =>
    unfold Desk.conclude at stands
    split at stands
    · contradiction
    · obtain rfl := Option.some.inj stands
      exact .inr (.inr ⟨_, stood found, rfl, id⟩)

theorem Enlisted.announced_step (enlisted : monitor.Enlisted) (stepped : monitor.step? action = some next)
    {standing : Standing} (stands : (next.desk serial).standing = some standing) (unsent : standing.unsent ≠ []) :
    standing.result ≠ none := by
  have tally := tally_step enlisted.toSeparate stepped serial
  rcases tally.stood stands with ⟨-, none⟩ | reported | ⟨earlier, stood, same, announced⟩
  · exact absurd none unsent
  · exact reported
  · exact same ▸ enlisted.announced serial earlier stood (announced unsent)

theorem Enlisted.stored_step (enlisted : monitor.Enlisted) (stepped : monitor.step? action = some next)
    (atStore : (next.desk serial).storing ≠ none) : serial < next.nextSerial ∧
      ∀ standing, (next.desk serial).standing = some standing → standing.result ≠ none := by
  have tally := tally_step enlisted.toSeparate stepped serial
  have stored : serial < monitor.nextSerial ∧
      ∀ standing, (monitor.desk serial).standing = some standing → standing.result ≠ none := by
    generalize next.desk serial = desk at tally atStore
    generalize monitor.attempt? serial action = attempt at tally
    cases tally with
    | offered old found task preparing derived derives =>
      obtain ⟨member, numbered⟩ := mem_active_of_observation? found
      refine ⟨numbered ▸ (enlisted.fits old member).serial, fun standing stands unreported => ?_⟩
      have same : old.standing = standing := by simpa [Monitor.desk, found] using stands
      subst same
      have pending : old.aggregation.result = none := unreported
      simp [Observation.derive?, pending] at derives
    | aside | begun | aborted | announced | unserved | sent => exact enlisted.stored serial atStore
    | dropped old found service rest announced =>
      refine enlisted.stored serial fun none => atStore ?_
      unfold Desk.conclude
      split <;> exact none
    | underived | answered => contradiction
  refine ⟨Nat.lt_of_lt_of_le stored.1 (nextSerial_le_step stepped), fun standing stands => ?_⟩
  rcases tally.stood stands with ⟨fresh, -⟩ | reported | ⟨earlier, stood, same, -⟩
  · exact absurd fresh (Nat.ne_of_lt stored.1)
  · exact reported
  · exact same ▸ stored.2 earlier stood

/-- An observation is aborted for lost events only. -/
theorem Enlisted.aborted_step (enlisted : monitor.Enlisted) (stepped : monitor.step? action = some next)
    {record : Record} (recorded : record ∈ (next.desk serial).records) {reason : String}
    (aborted : record.outcome = .aborted reason) : reason = (Error.overflow record.container).message := by
  have kept := enlisted.aborted serial record
  have tally := tally_step enlisted.toSeparate stepped serial
  generalize next.desk serial = desk at tally recorded
  generalize monitor.attempt? serial action = attempt at tally
  -- the records are as before, but for one of a completed observation
  have completed {old : Observation} {failed : Bool}
      (concluded : record ∈ ((monitor.desk serial).conclude old failed).records) :
      reason = (Error.overflow record.container).message := by
    unfold Desk.conclude at concluded
    split at concluded
    · rcases List.mem_append.mp concluded with earlier | now
      · exact kept earlier reason aborted
      · obtain rfl := List.mem_singleton.mp now
        contradiction
    · exact kept concluded reason aborted
  cases tally with
  | aside | begun | announced | sent | offered => exact kept recorded reason aborted
  | aborted old found watching outcome ended =>
    rcases List.mem_append.mp recorded with earlier | now
    · exact kept earlier reason aborted
    · obtain rfl := List.mem_singleton.mp now
      have overflow := enlisted.overflow_of_watching (mem_active_of_observation? found).1 watching ended
      rw [← Outcome.aborted.inj aborted, overflow]
      rfl
  | unserved old found =>
    rcases List.mem_append.mp recorded with earlier | now
    · exact kept earlier reason aborted
    · obtain rfl := List.mem_singleton.mp now
      contradiction
  | dropped | underived | answered => exact completed recorded

/-- The invariant is kept by every action, unless somebody else registers. -/
theorem Enlisted.step (enlisted : monitor.Enlisted) (stepped : monitor.step? action = some next)
    (alone : ∀ container, action ≠ .intrude container) : next.Enlisted where
  toAttentive := enlisted.toAttentive.step stepped
  registered _ member := enlisted.registered_step stepped alone member
  unobserved _ unobserved := enlisted.unobserved_step stepped alone unobserved
  verdict _ member _ verdict := enlisted.verdict_step stepped member verdict
  announced _ _ stands unsent := enlisted.announced_step stepped stands unsent
  stored _ atStore := enlisted.stored_step stepped atStore
  aborted _ _ recorded _ aborted := enlisted.aborted_step stepped recorded aborted

theorem Enlisted.run (enlisted : monitor.Enlisted) (alone : ∀ container, .intrude container ∉ actions)
    (runs : monitor.run? actions = some next) : next.Enlisted := by
  refine run_induction enlisted (fun action member _ _ enlisted stepped => ?_) runs
  refine enlisted.step stepped fun container same => ?_
  exact alone container (same ▸ member)

theorem retains_run (retains : monitor.books.Retains) (runs : monitor.run? actions = some next) :
    next.books.Retains := by
  refine run_induction (motive := fun monitor => monitor.books.Retains) retains (fun _ _ _ _ retains stepped => ?_) runs
  rcases books_step stepped with turn | ⟨-, breach⟩
  · exact retains.turn turn
  · exact retains.breach breach

/-! ## Runs -/

/-- Registrations agree with the aggregators, and will do so after the next action. -/
structure Agrees (monitor : Monitor) : Prop where
  /-- No container has two running observations. -/
  single : monitor.active.Pairwise fun observation other => observation.container ≠ other.container
  /-- Just the aggregators that have subscribed and not ended are registered, under their own tokens. -/
  registered_iff : ∀ container token, monitor.registered? container = some token ↔
    ∃ observation ∈ monitor.active, observation.container = container ∧
      observation.aggregator.subscription? = some ⟨container, token⟩
  /-- An aggregator that ends gives up its own registration and no other. -/
  left : ∀ action next, monitor.step? action = some next → ∀ serial before after,
    monitor.observation? serial = some before → next.observation? serial = some after →
    before.aggregator.outcome? = none → after.aggregator.outcome? ≠ none →
    next.registered? before.container = none ∧
      ∀ other, other ≠ before.container → next.registered? other = monitor.registered? other
  /-- An observation does not end before its aggregator, and leaves no registration behind. -/
  outlived : ∀ action next, monitor.step? action = some next → ∀ serial before,
    monitor.observation? serial = some before → next.observation? serial = none →
    before.aggregator.outcome? ≠ none ∧ next.registered? before.container = none
  /-- No aggregator finds its stream closed. -/
  unclosed : ∀ observation ∈ monitor.active, ∀ container,
    observation.aggregator.verdict? ≠ some (.error (.streamClosed container))
  /-- No aggregation ends with a report before the deadline. -/
  unfinished : ∀ observation ∈ monitor.active, observation.phase = .watching → ∀ report,
    observation.aggregator.outcome? ≠ some (.ok report)
  /-- Lost events are the only reason for an abort. -/
  aborted : ∀ serial record reason, .finished serial record ∈ monitor.journal → record.outcome = .aborted reason →
    reason = (Error.overflow record.container).message
  abortedRetained : ∀ record ∈ monitor.retention.records, ∀ reason, record.outcome = .aborted reason →
    reason = (Error.overflow record.container).message

/-- An aggregator ends by the last of its moves. -/
theorem Enlisted.left (enlisted : monitor.Enlisted) (continues : Continues serial monitor action next before after)
    (running : before.aggregator.outcome? = none) (ended : after.aggregator.outcome? ≠ none) :
    next.registered? before.container = none ∧
      ∀ other, other ≠ before.container → next.registered? other = monitor.registered? other := by
  have member := (mem_active_of_observation? continues.found).1
  rcases continues.moved_or_unmoved with ⟨move, -, moves⟩ | ⟨-, unmoved⟩
  · have registrations := moves.get?_listeners
      (fun _ subscribed => enlisted.container_of_subscription member subscribed) (enlisted.registered before member)
    obtain ⟨outcome, ended⟩ := Option.ne_none_iff_exists'.mp ended
    have none : after.aggregator.subscription? = none := by
      rw [Aggregator.eq_ended_of_outcome? ended]
      rfl
    constructor
    · rw [registered?, registrations, if_pos rfl, none]
      rfl
    · intro other differs
      rw [registered?, registrations, if_neg differs]
      rfl
  · exact absurd (unmoved ▸ running) ended

theorem Enlisted.outlived (enlisted : monitor.Enlisted) (stepped : monitor.step? action = some next)
    (found : monitor.observation? serial = some before) (gone : next.observation? serial = none) :
    before.aggregator.outcome? ≠ none ∧ next.registered? before.container = none := by
  obtain ⟨outcome, ended⟩ := enlisted.ended_of_gone stepped found gone
  refine ⟨by simp [ended, Aggregator.outcome?], ?_⟩
  have alone : ∀ container, action ≠ .intrude container := by
    rintro container rfl
    obtain rfl := Option.some.inj stepped
    exact absurd (found.symm.trans gone) (by simp)
  have member := (mem_active_of_observation? found).1
  rcases enlisted.registered?_step stepped alone before.container with
    ⟨number, move, mover, aggregator, rfl, foundMover, own, foundNext, -⟩ | ⟨-, same⟩
  · -- the observation of the container that has moved is not the one that has ended
    obtain ⟨memberMover, numbered⟩ := mem_active_of_observation? foundMover
    have isMover : mover = before := by
      by_contra differ
      exact (enlisted.apart_of_ne memberMover member differ).container own
    rw [← numbered, isMover, (mem_active_of_observation? found).2, gone] at foundNext
    contradiction
  · rw [same, enlisted.registered before member, ended]
    rfl

/-- In every run in which nobody else registers, no container is observed twice at a time, just the aggregators that
have subscribed and not ended are registered, and no observation leaves a registration behind. -/
theorem agrees_of_run {policy : Policy} {cacheSize : Nat}
    (runs : (empty policy cacheSize).run? actions = some monitor)
    (alone : ∀ container, .intrude container ∉ actions) : monitor.Agrees := by
  have enlisted := (enlisted_empty policy cacheSize).run alone runs
  have aborted (serial : Nat) (record : Record) (reason : String) (told : .finished serial record ∈ monitor.journal)
      (outcome : record.outcome = .aborted reason) : reason = (Error.overflow record.container).message := by
    refine enlisted.aborted serial record (List.mem_filterMap.mpr ⟨_, told, ?_⟩) reason outcome
    exact if_pos rfl
  refine ⟨enlisted.apart.imp fun apart => apart.container, enlisted.registered_iff, ?_, ?_, ?_, ?_, aborted, ?_⟩
  · intro action next stepped serial before after found foundNext running ended
    exact enlisted.left ⟨enlisted.toSeparate, stepped, found, foundNext⟩ running ended
  · intro action next stepped serial before found gone
    exact enlisted.outlived stepped found gone
  · intro observation member container closed
    rcases enlisted.verdict observation member _ closed with ⟨report, same⟩ | same
    · contradiction
    · exact absurd (Except.error.inj same) (by simp)
  · intro observation member watching report finished
    have overflow := enlisted.overflow_of_watching member watching (Aggregator.eq_ended_of_outcome? finished)
    contradiction
  · intro record member reason outcome
    have retains : (empty policy cacheSize).books.Retains := fun _ retained => absurd retained List.not_mem_nil
    obtain ⟨serial, told⟩ := retains_run retains runs record member
    exact aborted serial record reason (List.mem_of_mem_filter told) outcome

private theorem valid_mail : ContainerId.Valid "mail" := by decide

private theorem valid_spam : ContainerId.Valid "spam" := by decide

private def startOfMail : Start :=
  ⟨⟨"mail", valid_mail⟩, "mail", ⟨"default", "mail-0"⟩, none, "mail:1", "", []⟩

private def startOfSpam : Start :=
  ⟨⟨"spam", valid_spam⟩, "spam", ⟨"default", "mail-0"⟩, none, "spam:1", "", []⟩

private def listens (serial : Nat) : List Action :=
  [.aggregate serial .subscribe, .aggregate serial .replay]

/-- Both containers of a pod lose events. One is aborted and, after its pod is forgotten, observed again; the other
one has not looked into its inbox yet. -/
private def observedAgain : List Action :=
  [.request startOfMail, .enroll 0 ⟨"default", "Pod", "mail-0", "mail:1"⟩,
    .request startOfSpam, .enroll 0 ⟨"default", "Pod", "mail-0", "spam:1"⟩] ++ listens 0 ++ listens 1 ++
    [.ingest overflowMarker, .aggregate 0 .receive, .aggregate 0 .leave, .abort 0, .forgetPod ⟨"default", "mail-0"⟩,
      .request startOfMail, .enroll 0 ⟨"default", "Pod", "mail-0", "mail:1"⟩] ++ listens 2

/-- A container is observed again after it was forgotten, under a new token. -/
theorem agrees_of_observedAgain : ∃ monitor,
    (empty ⟨5, ⟨true, true⟩, 1⟩ 1).run? observedAgain = some monitor ∧
      monitor.active.map (·.container.text) = ["spam", "mail"] ∧
      monitor.registered? startOfSpam.container = some 1 ∧ monitor.registered? startOfMail.container = some 2 ∧
      monitor.retention.records.map (·.outcome) =
        [.aborted "tracer dropped events while aggregating container `mail`"] ∧ monitor.Agrees := by
  let monitor := (empty ⟨5, ⟨true, true⟩, 1⟩ 1).reached observedAgain
  have facts : ((empty ⟨5, ⟨true, true⟩, 1⟩ 1).run? observedAgain).isSome = true ∧
      monitor.active.map (·.container.text) = ["spam", "mail"] ∧
      monitor.registered? startOfSpam.container = some 1 ∧ monitor.registered? startOfMail.container = some 2 ∧
      monitor.retention.records.map (·.outcome) =
        [.aborted "tracer dropped events while aggregating container `mail`"] := by
    decide +kernel
  obtain ⟨runs, active, spam, mail, retained⟩ := facts
  have runs := run?_eq_some_reached runs
  exact ⟨monitor, runs, active, spam, mail, retained,
    agrees_of_run runs (by simp [observedAgain, listens])⟩

end Monitor

end Observatory
