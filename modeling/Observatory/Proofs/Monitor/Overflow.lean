import Observatory.Proofs.Monitor.Books
import Observatory.Proofs.Monitor.Session

/-! # Lost events

The tracer tells when it has lost events, and every listener is given that notice. An observation that has
been given one must not lead to an artifact, since its profile may be too narrow. Main statement: it does
not, if its listener was registered when the notice came and the notice is not left in the inbox until the
aggregator heeds its stop. In both other cases it may, as the two runs at the end show.
-/

namespace Observatory

open Accumulator Aggregation Trace

namespace Aggregation.Aggregator

/-- The aggregator has not begun to complete its report. -/
def isUnstopped : Aggregator → Bool
  | .created | .subscribed _ | .listening .. | .leaving _ (.error _) | .ended (.error _) => true
  | .draining .. | .leaving _ (.ok _) | .ended (.ok _) => false

/-- The aggregator has failed, or a notice of lost events waits for it. -/
def Spoiled (live : Live) : Aggregator → Prop
  | .subscribed subscription | .listening subscription _ => .overflow ∈ live.inbox subscription.token
  | .leaving _ (.error _) | .ended (.error _) => True
  | .created | .draining .. | .leaving _ (.ok _) | .ended (.ok _) => False

/-- What comes later into the inbox does not undo the loss. -/
theorem Spoiled.mono {live later : Live} {aggregator : Aggregator} (spoiled : aggregator.Spoiled live)
    (grows : ∀ subscription, aggregator.subscription? = some subscription →
      live.inbox subscription.token <+: later.inbox subscription.token) : aggregator.Spoiled later := by
  cases aggregator with
  | subscribed subscription | listening subscription _ => exact (grows subscription rfl).subset spoiled
  | leaving _ outcome | ended outcome => cases outcome <;> exact spoiled
  | created | draining => exact spoiled

theorem spoiled_of_notice {live : Live} {aggregator : Aggregator} {subscription : Subscription}
    (unstopped : aggregator.isUnstopped = true) (subscribed : aggregator.subscription? = some subscription)
    (notice : .overflow ∈ live.inbox subscription.token) : aggregator.Spoiled live := by
  cases aggregator with
  | created | ended | draining => contradiction
  | subscribed | listening =>
    obtain rfl := Option.some.inj subscribed
    exact notice
  | leaving _ outcome =>
    cases outcome with
    | error => trivial
    | ok => contradiction

end Aggregation.Aggregator

namespace Books

variable {books next : Books} {serial : Nat} {artifact : Artifact}

/-- An artifact is handed to the store only for an observation whose tasks can be derived. -/
theorem Turn.offered_mem (turn : Turn books next) (told : .offered serial artifact ∈ next.course) :
    .offered serial artifact ∈ books.course ∨
      ∃ old ∈ books.active, old.serial = serial ∧ ∃ service derived, old.derive? service = some (.ok derived) := by
  cases turn with
  | offered old member task working derived derives =>
    rcases List.mem_append.mp told with before | now
    · exact .inl before
    · obtain ⟨same, -⟩ := Entry.offered.inj (List.mem_singleton.mp now)
      exact .inr ⟨old, member, same.symm, task.service, derived, derives⟩
  | kept | amended | reported | sent | concluded => exact .inl told
  | begun | expired | aborted | completed | unexpected | ended =>
    exact .inl (by simpa [begin, write, replace, finish] using told)
  | taken old member task rest idle first own =>
    refine .inl ?_
    rcases List.mem_append.mp told with before | now
    · exact before
    · split at now <;> simp at now

theorem Breach.offered_mem (breach : Breach books next) (told : .offered serial artifact ∈ next.course) :
    .offered serial artifact ∈ books.course := by
  cases breach with
  | diverted | closed | dropped => exact told
  | droppedLast => simpa [finish] using told

end Books

namespace Monitor

variable {monitor next : Monitor} {action : Action} {serial : Nat} {before after observation : Observation}
  {artifact : Artifact} {subscription : Subscription}

/-- An artifact is handed over only if it could be derived. -/
theorem offered_mem_step (stepped : monitor.step? action = some next)
    (told : .offered serial artifact ∈ next.journal) :
    .offered serial artifact ∈ monitor.journal ∨
      ∃ old ∈ monitor.active, old.serial = serial ∧ ∃ service derived, old.derive? service = some (.ok derived) := by
  have told : .offered serial artifact ∈ next.books.course := List.mem_filter.mpr ⟨told, rfl⟩
  rcases books_step stepped with turn | ⟨-, breach⟩
  · exact (turn.offered_mem told).imp_left List.mem_of_mem_filter
  · exact .inl (List.mem_of_mem_filter (breach.offered_mem told))

/-- An artifact can be derived only if the aggregator has ended with a report. -/
theorem Separate.ended_of_derive? (separate : monitor.Separate) (member : observation ∈ monitor.active)
    {service : Service} {derived : Observation.Derived}
    (derives : observation.derive? service = some (.ok derived)) :
    ∃ report, observation.aggregator = .ended (.ok report) := by
  cases completed : observation.aggregation.result with
  | none => simp [Observation.derive?, completed] at derives
  | some result =>
    obtain ⟨outcome, ended, rfl⟩ := (separate.fits observation member).reported result completed
    cases outcome with
    | error error => simp [Observation.derive?, completed, Except.mapError] at derives
    | ok report => exact ⟨report, ended⟩

/-! ## Attentive monitors -/

/-- An aggregator is not stopped within its window, it has an inbox as long as it has a listener, and nothing
is handed to the store before it has ended with a report. -/
structure Attentive (monitor : Monitor) : Prop extends monitor.Separate where
  unstopped : ∀ observation ∈ monitor.active, observation.phase = .watching →
    observation.aggregator.isUnstopped = true
  kept : ∀ observation ∈ monitor.active, ∀ subscription, observation.aggregator.subscription? = some subscription →
    monitor.accumulator.live.inboxes.contains subscription.token = true
  offered : ∀ serial artifact, .offered serial artifact ∈ monitor.journal → serial < monitor.nextSerial ∧
    ∀ observation ∈ monitor.active, observation.serial = serial →
      ∃ report, observation.aggregator = .ended (.ok report)

theorem attentive_empty (policy : Policy) (cacheSize : Nat) : (empty policy cacheSize).Attentive where
  toSeparate := separate_empty policy cacheSize
  unstopped _ member := absurd member List.not_mem_nil
  kept _ member := absurd member List.not_mem_nil
  offered _ _ told := absurd told List.not_mem_nil

/-- An aggregator that nobody has told to stop goes on. -/
theorem Moved.isUnstopped {container : ContainerId} {acc later : Accumulator} {move : Move}
    {aggregator moved : Aggregator} (moves : Moved container false acc move aggregator moved later)
    (unstopped : aggregator.isUnstopped = true) : moved.isUnstopped = true := by
  cases moves with
  | subscribed | replayed | received | overflowed | closed => rfl
  | heeded _ _ told => contradiction
  | drained | skipped | completed => contradiction
  | left _ outcome =>
    cases outcome with
    | error => rfl
    | ok => contradiction

theorem Moved.drop_notMem {container : ContainerId} {stopped : Bool} {acc later : Accumulator} {move : Move}
    {aggregator moved : Aggregator} (moves : Moved container stopped acc move aggregator moved later)
    (subscribed : moved.subscription? = some subscription) {token : Nat} :
    .drop token ∉ operationsOf container move aggregator := by
  cases moves with
  | left => contradiction
  | subscribed | replayed | received | overflowed | closed | heeded | drained | skipped | completed =>
    simp [operationsOf]

/-- An aggregator that has ended stays as it is. -/
theorem Continues.ended (continues : Continues serial monitor action next before after) {outcome : Aggregation.Outcome}
    (ended : before.aggregator = .ended outcome) : after.aggregator = .ended outcome := by
  rcases continues.moved_or_unmoved with ⟨move, -, moves⟩ | ⟨-, unmoved⟩
  · rw [ended] at moves
    cases moves
  · exact unmoved.trans ended

theorem Continues.isUnstopped (continues : Continues serial monitor action next before after)
    (watching : after.phase = .watching)
    (unstopped : before.phase = .watching → before.aggregator.isUnstopped = true) :
    after.aggregator.isUnstopped = true := by
  have watchingBefore : before.phase = .watching := by
    rcases continues.eq_or_revised with rfl | revised
    · exact watching
    · exact revised.watching watching
  rcases continues.moved_or_unmoved with ⟨move, -, moves⟩ | ⟨-, unmoved⟩
  · have untold : before.isStopped = false := by simp [Observation.isStopped, watchingBefore]
    rw [untold] at moves
    exact moves.isUnstopped (unstopped watchingBefore)
  · exact unmoved ▸ unstopped watchingBefore

/-- As long as it has its listener, an aggregator does not give up its inbox. -/
theorem Continues.kept (continues : Continues serial monitor action next before after)
    (kept : ∀ subscription, before.aggregator.subscription? = some subscription →
      monitor.accumulator.live.inboxes.contains subscription.token = true)
    (subscribed : after.aggregator.subscription? = some subscription) :
    next.accumulator.live.inboxes.contains subscription.token = true := by
  have separate := continues.separate
  have member := (separate.observation?_eq_some_iff.mp continues.found).1
  have undropped (same : before.aggregator.subscription? = some subscription) {operations : List Operation}
      (undropped : .drop subscription.token ∉ operations) :
      (monitor.accumulator.run operations).live.inboxes.contains subscription.token = true := by
    have issued := ((separate.fits before member).subscribed subscription same).2
    rw [contains_inboxes_run separate.live issued undropped]
    exact kept subscription same
  rcases continues.moved_or_unmoved with ⟨move, rfl, moves⟩ | ⟨foreign, unmoved⟩
  · rcases moves.subscription? subscribed with same | ⟨rfl, registers⟩
    · rw [moves.accumulator_eq]
      exact undropped same (moves.drop_notMem subscribed)
    · rw [registers]
      exact (hears_register ..).kept
  · rw [unmoved] at subscribed
    rw [accumulator_step continues.stepped]
    exact undropped subscribed (continues.untouched subscribed foreign).2

/-- Whatever the action is, an aggregator goes on within its window and keeps its inbox. -/
theorem Attentive.step (attentive : monitor.Attentive) (stepped : monitor.step? action = some next) :
    next.Attentive := by
  have separate := attentive.toSeparate
  refine ⟨separate.step stepped, ?_, ?_, ?_⟩
  · intro observation member watching
    rcases separate.begun_or_continues stepped member with ⟨created, -⟩ | ⟨before, earlier, -, continues⟩
    · rw [created]
      rfl
    · exact continues.isUnstopped watching (attentive.unstopped before earlier)
  · intro observation member subscription subscribed
    rcases separate.begun_or_continues stepped member with ⟨created, -⟩ | ⟨before, earlier, -, continues⟩
    · rw [created] at subscribed
      contradiction
    · exact continues.kept (attentive.kept before earlier) subscribed
  · intro serial artifact told
    have reported : serial < monitor.nextSerial ∧ ∀ observation ∈ monitor.active, observation.serial = serial →
        ∃ report, observation.aggregator = .ended (.ok report) := by
      rcases offered_mem_step stepped told with earlier | ⟨old, member, rfl, service, derived, derives⟩
      · exact attentive.offered serial artifact earlier
      · refine ⟨(separate.fits old member).serial, fun observation found same => ?_⟩
        obtain rfl := separate.eq_of_serial found member same
        exact separate.ended_of_derive? member derives
    refine ⟨Nat.lt_of_lt_of_le reported.1 (nextSerial_le_step stepped), fun observation member numbered => ?_⟩
    obtain ⟨before, found⟩ := separate.observed_before_step stepped reported.1
      ((separate.step stepped).observation?_eq_some_iff.mpr ⟨member, numbered⟩)
    obtain ⟨earlier, same⟩ := separate.observation?_eq_some_iff.mp found
    obtain ⟨report, ended⟩ := reported.2 before earlier same
    have continues : Continues serial monitor action next before observation :=
      ⟨separate, stepped, found, (separate.step stepped).observation?_eq_some_iff.mpr ⟨member, numbered⟩⟩
    exact ⟨report, continues.ended ended⟩

theorem Attentive.run (attentive : monitor.Attentive) {actions : List Action}
    (runs : monitor.run? actions = some next) : next.Attentive :=
  run_induction attentive (fun _ _ _ _ attentive stepped => attentive.step stepped) runs

/-! ## Spoiled observations -/

/-- A notice of lost events waits in the inbox of the observation. -/
def hasNotice (monitor : Monitor) (serial : Nat) : Bool :=
  (monitor.observation? serial).any fun observation =>
    observation.aggregator.subscription?.any fun subscription =>
      .overflow ∈ monitor.accumulator.live.inbox subscription.token

/-- The listener of the observation is the registered one of its container. -/
def isRegistered (monitor : Monitor) (serial : Nat) : Bool :=
  (monitor.observation? serial).any fun observation =>
    observation.aggregator.subscription?.any fun subscription =>
      monitor.accumulator.live.listeners.get? observation.container = some subscription.token

/-- In the run, the observation does not heed its stop as long as a notice waits in its inbox. -/
def heedsNotices (serial : Nat) : Monitor → List Action → Bool
  | _, [] => true
  | monitor, action :: rest =>
      (match action with
        | .aggregate number .heed => number ≠ serial || !monitor.hasNotice serial
        | _ => true) &&
      match monitor.step? action with
      | some next => next.heedsNotices serial rest
      | none => true

/-- A notice that is not thrown away spoils the aggregation for good. -/
theorem Moved.spoiled {container : ContainerId} {stopped : Bool} {acc later : Accumulator} {move : Move}
    {aggregator moved : Aggregator} (moves : Moved container stopped acc move aggregator moved later)
    (spoiled : aggregator.Spoiled acc.live)
    (heeds : move = .heed → ∀ subscription, aggregator.subscription? = some subscription →
      .overflow ∉ acc.live.inbox subscription.token) : moved.Spoiled later.live := by
  cases moves with
  | subscribed | drained | skipped | completed => contradiction
  | replayed => exact spoiled
  | received subscription progress event result =>
    -- the notice is not the message that was taken out
    have split := received_receive_append_inbox acc subscription.token subscription.token
    simp only [Accumulator.received, result, ↓reduceIte] at split
    have waiting : .overflow ∈ acc.live.inbox subscription.token := spoiled
    rw [← split] at waiting
    simpa [Aggregator.Spoiled] using waiting
  | overflowed | closed => trivial
  | heeded subscription => exact absurd spoiled (heeds rfl subscription rfl)
  | left _ outcome =>
    cases outcome with
    | error => trivial
    | ok => contradiction

theorem overflow_notMem_of_hasNotice (silent : monitor.hasNotice serial = false)
    (found : monitor.observation? serial = some observation)
    (subscribed : observation.aggregator.subscription? = some subscription) :
    .overflow ∉ monitor.accumulator.live.inbox subscription.token := by
  simpa [hasNotice, found, subscribed] using silent

theorem Continues.spoiled (continues : Continues serial monitor action next before after)
    (spoiled : before.aggregator.Spoiled monitor.accumulator.live)
    (heeds : action = .aggregate serial .heed → monitor.hasNotice serial = false) :
    after.aggregator.Spoiled next.accumulator.live := by
  rcases continues.moved_or_unmoved with ⟨move, rfl, moves⟩ | ⟨foreign, unmoved⟩
  · refine moves.spoiled spoiled ?_
    rintro rfl subscription subscribed
    exact overflow_notMem_of_hasNotice (heeds rfl) continues.found subscribed
  · rw [unmoved, accumulator_step continues.stepped]
    refine spoiled.mono fun subscription subscribed => ?_
    have separate := continues.separate
    have member := (separate.observation?_eq_some_iff.mp continues.found).1
    have issued := ((separate.fits before member).subscribed subscription subscribed).2
    obtain ⟨unread, kept⟩ := continues.untouched subscribed foreign
    exact inbox_prefix_run separate.live issued unread kept

/-- Nothing has been handed to the store for the observation, and as long as it runs it is spoiled. -/
structure Doomed (serial : Nat) (monitor : Monitor) : Prop where
  issued : serial < monitor.nextSerial
  spoiled : ∀ observation, monitor.observation? serial = some observation →
    observation.aggregator.Spoiled monitor.accumulator.live
  unoffered : ∀ artifact, .offered serial artifact ∉ monitor.journal

/-- An observation that has lost events will not have anything for the store. -/
theorem Doomed.step (doomed : Doomed serial monitor) (separate : monitor.Separate)
    (stepped : monitor.step? action = some next)
    (heeds : action = .aggregate serial .heed → monitor.hasNotice serial = false) : Doomed serial next where
  issued := Nat.lt_of_lt_of_le doomed.issued (nextSerial_le_step stepped)
  spoiled observation foundNext := by
    obtain ⟨before, found⟩ := separate.observed_before_step stepped doomed.issued foundNext
    have continues : Continues serial monitor action next before observation := ⟨separate, stepped, found, foundNext⟩
    exact continues.spoiled (doomed.spoiled before found) heeds
  unoffered artifact told := by
    rcases offered_mem_step stepped told with earlier | ⟨old, member, numbered, service, derived, derives⟩
    · exact doomed.unoffered artifact earlier
    · have spoiled := doomed.spoiled old (separate.observation?_eq_some_iff.mpr ⟨member, numbered⟩)
      obtain ⟨report, ended⟩ := separate.ended_of_derive? member derives
      rw [ended] at spoiled
      exact spoiled

/-- Nor will it later, as long as it does not heed the stop with the notice unread. -/
theorem Doomed.run (doomed : Doomed serial monitor) (separate : monitor.Separate) {actions : List Action}
    (heeds : monitor.heedsNotices serial actions = true) (runs : monitor.run? actions = some next) :
    Doomed serial next := by
  induction actions generalizing monitor with
  | nil => exact Option.some.inj runs ▸ doomed
  | cons action rest ih =>
    obtain ⟨middle, stepped, runs⟩ := Option.bind_eq_some_iff.mp runs
    simp only [heedsNotices, stepped, Bool.and_eq_true] at heeds
    refine ih (doomed.step separate stepped ?_) (separate.step stepped) heeds.2 runs
    rintro rfl
    simpa using heeds.1

/-- A notice of lost events spoils every observation within its window whose listener is registered. -/
theorem Attentive.doomed_of_overflow (attentive : monitor.Attentive)
    (observed : monitor.observation? serial = some observation) (watching : observation.phase = .watching)
    (registered : monitor.isRegistered serial = true) {line : List Char}
    (lost : monitor.accumulator.message? line = some .overflow)
    (stepped : monitor.step? (.ingest line) = some next) : Doomed serial next := by
  obtain ⟨member, numbered⟩ := attentive.observation?_eq_some_iff.mp observed
  have unstopped := attentive.unstopped observation member watching
  obtain rfl := Option.some.inj stepped
  have ingested : monitor.accumulator.ingest line =
      { monitor.accumulator with live := monitor.accumulator.live.broadcastOverflow } := by
    simp [Accumulator.ingest, lost]
  refine ⟨numbered ▸ (attentive.fits observation member).serial, ?_, ?_⟩
  · intro same found
    obtain rfl := Option.some.inj (observed.symm.trans found)
    simp only [isRegistered, observed, Option.any_some, Option.any_eq_true, decide_eq_true_eq] at registered
    obtain ⟨subscription, subscribed, registered⟩ := registered
    have notice : .overflow ∈ (monitor.accumulator.ingest line).live.inbox subscription.token := by
      have kept := attentive.kept observation member subscription subscribed
      have isOpen := attentive.live.isOpen_iff.mpr ⟨_, registered⟩
      simp [ingested, attentive.live.broadcast_spec.2.2.2, kept, isOpen]
    exact Aggregator.spoiled_of_notice unstopped subscribed notice
  · intro artifact told
    obtain ⟨report, ended⟩ := (attentive.offered serial artifact told).2 observation member numbered
    rw [ended] at unstopped
    contradiction

/-- A line tells of lost events within the window of an observation whose listener is registered, and the
observation does not heed its stop before it has found that notice. Then no artifact of it is ever handed to
the store. -/
theorem offered_notMem_of_overflow {policy : Policy} {cacheSize : Nat} {earlier later : List Action} {line : List Char}
    (runs : (empty policy cacheSize).run? earlier = some monitor)
    (observed : monitor.observation? serial = some observation) (watching : observation.phase = .watching)
    (registered : monitor.isRegistered serial = true) (lost : monitor.accumulator.message? line = some .overflow)
    (goesOn : monitor.run? (.ingest line :: later) = some next)
    (heeds : monitor.heedsNotices serial (.ingest line :: later) = true) (artifact : Artifact) :
    .offered serial artifact ∉ next.journal := by
  have attentive := (attentive_empty policy cacheSize).run runs
  obtain ⟨middle, stepped, goesOn⟩ := Option.bind_eq_some_iff.mp goesOn
  have doomed := attentive.doomed_of_overflow observed watching registered lost stepped
  simp only [heedsNotices, stepped, Bool.true_and] at heeds
  exact (doomed.run (attentive.toSeparate.step stepped) heeds goesOn).unoffered artifact

private theorem valid_queue : ContainerId.Valid "queue" := by decide

private def profiled : Policy := ⟨5, ⟨false, true⟩, 1⟩

private def startOfQueue : List Action :=
  [.request ⟨⟨"queue", valid_queue⟩, "queue", ⟨"default", "queue-0"⟩, none, "queue:1", "", []⟩,
    .enroll 0 ⟨"default", "Pod", "queue-0", "queue:1"⟩]

/-- From the end of the aggregation to the artifact. -/
private def afterAggregation : List Action :=
  [.aggregate 0 .leave, .report 0, .hire, .send 0, .take, .prepare]

/-- The deadline comes before the notice is found, and the notice is found before the stop is heeded. -/
private def noticeFound : List Action :=
  [.aggregate 0 .replay, .elapse 5, .expire 0, .aggregate 0 .receive] ++ afterAggregation

/-- The notice is found before the deadline comes. -/
theorem offered_notMem_of_noticeFound : ∃ monitor next,
    (empty profiled 1).run? (startOfQueue ++ [.aggregate 0 .subscribe]) = some monitor ∧
      (monitor.observation? 0).map (·.phase) = some .watching ∧
      monitor.run? (.ingest overflowMarker :: noticeFound) = some next ∧
      next.observation? 0 = none ∧ ∀ artifact, .offered 0 artifact ∉ next.journal := by
  let monitor := (empty profiled 1).reached (startOfQueue ++ [.aggregate 0 .subscribe])
  let next := monitor.reached (.ingest overflowMarker :: noticeFound)
  have facts : ((empty profiled 1).run? (startOfQueue ++ [.aggregate 0 .subscribe])).isSome = true ∧
      (monitor.run? (.ingest overflowMarker :: noticeFound)).isSome = true ∧
      (monitor.observation? 0).map (·.phase) = some .watching ∧ monitor.isRegistered 0 = true ∧
      monitor.accumulator.message? overflowMarker = some .overflow ∧
      monitor.heedsNotices 0 (.ingest overflowMarker :: noticeFound) = true ∧
      (next.observation? 0).isNone = true := by
    decide +kernel
  obtain ⟨runs, goesOn, phase, registered, lost, heeds, ended⟩ := facts
  have runs := run?_eq_some_reached runs
  have goesOn := run?_eq_some_reached goesOn
  obtain ⟨observation, observed, watching⟩ := Option.map_eq_some_iff.mp phase
  refine ⟨monitor, next, runs, phase, goesOn, Option.isNone_iff_eq_none.mp ended, ?_⟩
  exact offered_notMem_of_overflow runs observed watching registered lost goesOn heeds

/-! ## Notices that come too early or too late -/

/-- An artifact is handed to the store although a line told of lost events within the window. -/
private def OffersDespiteLoss (earlier later : List Action) : Prop :=
  ∃ monitor next artifact, (empty profiled 1).run? earlier = some monitor ∧
    (monitor.observation? 0).map (·.phase) = some .watching ∧
    monitor.accumulator.message? overflowMarker = some .overflow ∧
    monitor.run? (.ingest overflowMarker :: later) = some next ∧ .offered 0 artifact ∈ next.journal

private def artifactOfQueue : Artifact :=
  .ofProfile "namespace-default.pod-queue-0.imagename-queue:1" (.allowOnly [])

private theorem offersDespiteLoss {earlier later : List Action}
    (facts : ((empty profiled 1).run? earlier).isSome = true ∧
      (((empty profiled 1).reached earlier).run? (.ingest overflowMarker :: later)).isSome = true ∧
      (((empty profiled 1).reached earlier).observation? 0).map (·.phase) = some .watching ∧
      ((empty profiled 1).reached earlier).accumulator.message? overflowMarker = some .overflow ∧
      .offered 0 artifactOfQueue ∈
        (((empty profiled 1).reached earlier).reached (.ingest overflowMarker :: later)).journal) :
    OffersDespiteLoss earlier later :=
  ⟨_, _, artifactOfQueue, run?_eq_some_reached facts.1, facts.2.2.1, facts.2.2.2.1, run?_eq_some_reached facts.2.1,
    facts.2.2.2.2⟩

/-- A notice that comes before the listener is registered reaches nobody, and one that is in the inbox when the
stop is heeded is skipped. -/
theorem offered_despite_overflow :
    OffersDespiteLoss startOfQueue
        ([.aggregate 0 .subscribe, .aggregate 0 .replay, .elapse 5, .expire 0, .aggregate 0 .heed,
          .aggregate 0 .drain] ++ afterAggregation) ∧
      OffersDespiteLoss (startOfQueue ++ [.aggregate 0 .subscribe, .aggregate 0 .replay])
        ([.elapse 5, .expire 0, .aggregate 0 .heed, .aggregate 0 .drain, .aggregate 0 .drain] ++ afterAggregation) := by
  constructor
  · exact offersDespiteLoss (by decide +kernel)
  · exact offersDespiteLoss (by decide +kernel)

end Monitor

end Observatory
