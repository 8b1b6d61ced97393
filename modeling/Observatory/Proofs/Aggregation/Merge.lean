import Observatory.Proofs.Aggregation.Count
import Observatory.Proofs.Monitor.Profile

/-! # Merging the replay with the live events

Each live event uses up a replayed copy of itself or is added to the report. Main statement: however the
receipt of messages is interleaved with everything else, and whether they are received before the stop or
after it, the report that is returned lists the replayed and the live events, counts the replayed ones and
those by which the live ones exceed them, and does not depend on the order of the live ones.
-/

namespace Observatory.Aggregation

open Accumulator Trace
open Monitor (eventsIn)

variable {report other : Report} {progress : Progress} {event : Event} {events replayed live : List Event}
  {subscription : Subscription} {acc : Accumulator}

/-! ## What a report lists -/

/-- The report lists the system calls and the files of these events. -/
structure Report.Shows (report : Report) (events : List Event) : Prop where
  syscalls_eq : report.syscalls = Sorted.ofList (events.flatMap syscallOf)
  files_eq : report.files = Sorted.ofList (events.flatMap filesOf)

namespace Report.Shows

private theorem ofList_append (names added : List String) :
    Sorted.ofList (names ++ added) =
      added.foldl (fun sorted name => Sorted.insert name sorted) (Sorted.ofList names) :=
  List.foldl_append

theorem record (shows : report.Shows events) (event : Event) : (report.record event).Shows (events ++ [event]) := by
  constructor
  · rw [List.flatMap_append, List.flatMap_singleton, ofList_append, ← shows.syscalls_eq]
    rfl
  · rw [List.flatMap_append, List.flatMap_singleton, ofList_append, ← shows.files_eq]
    rfl

/-- What is listed depends on which events there are and on nothing else. -/
theorem congr {others : List Event} (shows : report.Shows events) (same : ∀ event, event ∈ events ↔ event ∈ others) :
    report.Shows others := by
  have names (namesOf : Event → List String) :
      Sorted.ofList (events.flatMap namesOf) = Sorted.ofList (others.flatMap namesOf) := by
    apply Sorted.ofList_congr
    intro name
    simp only [List.mem_flatMap, same]
  exact ⟨shows.syscalls_eq.trans (names syscallOf), shows.files_eq.trans (names filesOf)⟩

theorem recordAll (events : List Event) : (events.foldl Report.record .empty).Shows events := by
  induction events using List.reverseRecOn with
  | nil => exact ⟨rfl, rfl⟩
  | append_singleton events event ih =>
    rw [List.foldl_append]
    exact ih.record event

end Report.Shows

/-- The report of a replay and of live events: it lists what recording all of them lists, and it counts the live
events that are more than their replayed copies. -/
structure Report.Merges (report : Report) (replayed live : List Event) : Prop where
  syscalls_eq : report.syscalls = ((replayed ++ live).foldl Report.record .empty).syscalls
  files_eq : report.files = ((replayed ++ live).foldl Report.record .empty).files
  events_eq : report.events = replayed.length + ((live : Multiset Event) - (replayed : Multiset Event)).card

theorem Report.Merges.eq_of_perm {others : List Event} (merges : report.Merges replayed live)
    (mergesOther : other.Merges replayed others) (same : live.Perm others) : report = other := by
  have shows := Report.Shows.recordAll (replayed ++ live)
  have showsOther := Report.Shows.recordAll (replayed ++ others)
  have showsSame := shows.congr fun event => (List.Perm.append_left replayed same).mem_iff
  have syscalls : report.syscalls = other.syscalls := by
    rw [merges.syscalls_eq, mergesOther.syscalls_eq, showsSame.syscalls_eq, showsOther.syscalls_eq]
  have files : report.files = other.files := by
    rw [merges.files_eq, mergesOther.files_eq, showsSame.files_eq, showsOther.files_eq]
  have number : report.events = other.events := by
    rw [merges.events_eq, mergesOther.events_eq, Multiset.coe_eq_coe.mpr same]
  cases report
  cases other
  simp_all

/-! ## Progress -/

/-- The progress after a replay and the receipt of live events. -/
structure Progress.Merges (progress : Progress) (replayed live : List Event) : Prop where
  shows : progress.report.Shows (replayed ++ live)
  counts : progress.Counts replayed live

namespace Progress.Merges

theorem ofCache (replayed : List Event) : (Progress.ofCache replayed).Merges replayed [] where
  shows := by
    rw [List.append_nil]
    exact Report.Shows.recordAll replayed
  counts := Progress.counts_ofCache replayed

theorem record (merges : progress.Merges replayed live) (event : Event) :
    (progress.record event).Merges replayed (live ++ [event]) := by
  constructor
  · rcases merges.counts.expects.take? event with ⟨-, nothing⟩ | ⟨expected, rest, taken, -⟩
    · rw [Progress.record, nothing, ← List.append_assoc]
      exact merges.shows.record event
    · -- the copy has been listed with the replay
      have known : event ∈ replayed := Multiset.mem_of_le (Multiset.sub_le_self _ _) expected
      rw [Progress.record, taken]
      apply merges.shows.congr
      intro other
      simp only [List.mem_append, List.mem_singleton]
      constructor
      · exact fun member => member.imp_right .inl
      · rintro (replay | earlier | rfl)
        · exact .inl replay
        · exact .inr earlier
        · exact .inl known
  · have counts := merges.counts.record event
    rwa [← coe_append_singleton] at counts

theorem toReport (merges : progress.Merges replayed live) : progress.report.Merges replayed live := by
  have all := Report.Shows.recordAll (replayed ++ live)
  exact ⟨merges.shows.syscalls_eq.trans all.syscalls_eq.symm, merges.shows.files_eq.trans all.files_eq.symm,
    merges.counts.events_eq⟩

/-- A copy that is still expected is expected at least once. -/
theorem count_pos (merges : progress.Merges replayed live) {count : Nat}
    (expected : progress.replayed.get? event = some count) : 0 < count := by
  rw [merges.counts.expects event] at expected
  split at expected
  · rename_i member
    rw [← Option.some.inj expected]
    exact Multiset.count_pos.mpr member
  · contradiction

end Progress.Merges

/-! ## Happenings -/

/-- What can happen around an aggregator: something is done to the accumulator, or the aggregator takes its next
step, which heeds the stop or not. -/
inductive Happening where
  | other (operation : Operation)
  | own (heeds : Bool)
deriving DecidableEq, Repr

namespace Aggregator

/-- The error with which the aggregator leaves or has ended. -/
def error? : Aggregator → Option Error
  | .leaving _ (.error error) | .ended (.error error) => some error
  | _ => none

/-- An aggregator that has nothing to do waits. -/
def after (container : ContainerId) (state : Aggregator × Accumulator) : Happening → Aggregator × Accumulator
  | .other operation => (state.1, state.2.apply operation)
  | .own heeds => (state.1.step? container heeds state.2).getD state

/-- What the aggregator takes out of its inbox. -/
def taken (state : Aggregator × Accumulator) : Happening → List Message
  | .other _ => []
  | .own heeds =>
      match state.1 with
      | .listening subscription _ =>
          if heeds then [] else state.2.received subscription.token (.receive subscription.token)
      | .draining subscription _ => state.2.received subscription.token (.receive subscription.token)
      | _ => []

/-- All that the aggregator takes out of its inbox, one message after the other. -/
def takenOver (container : ContainerId) : Aggregator × Accumulator → List Happening → List Message
  | _, [] => []
  | state, happening :: rest => taken state happening ++ takenOver container (after container state happening) rest

end Aggregator

/-- Why an aggregation gives up: lost events were announced to it, or its registration is gone. -/
inductive GivesUp (subscription : Subscription) (messages : List Message) : Error → Prop
  | overflow (announced : .overflow ∈ messages) : GivesUp subscription messages (.overflow subscription.container)
  | closed : GivesUp subscription messages (.streamClosed subscription.container)

/-- Where an aggregation stands that has replayed these events and received these messages. -/
inductive Merging (subscription : Subscription) (replayed : List Event) (messages : List Message) : Aggregator → Prop
  | listening {progress : Progress} (merges : progress.Merges replayed (eventsIn messages)) :
      Merging subscription replayed messages (.listening subscription progress)
  | draining {progress : Progress} (merges : progress.Merges replayed (eventsIn messages)) :
      Merging subscription replayed messages (.draining subscription progress)
  | leaving {report : Report} (merges : report.Merges replayed (eventsIn messages)) :
      Merging subscription replayed messages (.leaving subscription (.ok report))
  | ended {report : Report} (merges : report.Merges replayed (eventsIn messages)) :
      Merging subscription replayed messages (.ended (.ok report))
  | failing {error : Error} (reason : GivesUp subscription messages error) :
      Merging subscription replayed messages (.leaving subscription (.error error))
  | failed {error : Error} (reason : GivesUp subscription messages error) :
      Merging subscription replayed messages (.ended (.error error))

namespace Merging

variable {state : Aggregator × Accumulator} {messages : List Message} {aggregator : Aggregator}

/-- A message that is received is an event for the report, or it announces lost events. -/
private theorem eventsIn_append (messages : List Message) (message : Message) :
    eventsIn (messages ++ [message]) =
      match message with
      | .event event => eventsIn messages ++ [event]
      | .overflow => eventsIn messages := by
  cases message <;> simp [eventsIn]

/-- Whatever happens, the messages are those received so far and those that are received then. -/
theorem after (merging : Merging subscription replayed messages state.1) (container : ContainerId)
    (happening : Happening) :
    Merging subscription replayed (messages ++ Aggregator.taken state happening)
      (Aggregator.after container state happening).1 := by
  obtain ⟨aggregator, acc⟩ := state
  cases happening with
  | other operation =>
    rw [Aggregator.taken, List.append_nil]
    exact merging
  | own heeds =>
    cases merging with
    | listening merges =>
      cases heeds with
      | true =>
        simp only [Aggregator.after, Aggregator.taken, Aggregator.step?, Aggregator.stop?, ↓reduceIte, List.append_nil,
          Option.map_some, Option.getD_some]
        exact .draining merges
      | false =>
        rcases result : acc.receive subscription.token with ⟨found, later⟩
        simp only [Aggregator.after, Aggregator.taken, Aggregator.step?, Aggregator.receive?, Bool.false_eq_true,
          ↓reduceIte, Accumulator.received, result]
        rcases found with (event | _) | _ | _
        · apply Merging.listening
          rw [eventsIn_append]
          exact merges.record event
        · exact .failing (.overflow (by simp))
        · rw [List.append_nil]
          exact .listening merges
        · exact .failing .closed
    | draining merges =>
      rcases result : acc.receive subscription.token with ⟨found, later⟩
      simp only [Aggregator.after, Aggregator.taken, Aggregator.step?, Aggregator.drain?, Accumulator.received,
        ↓reduceIte, result]
      rcases found with (event | _) | _ | _
      · apply Merging.draining
        rw [eventsIn_append]
        exact merges.record event
      · apply Merging.draining
        rw [eventsIn_append]
        exact merges
      · rw [List.append_nil]
        exact .leaving merges.toReport
      · rw [List.append_nil]
        exact .leaving merges.toReport
    | leaving merges =>
      rw [Aggregator.taken, List.append_nil]
      exact .ended merges
    | ended merges =>
      rw [Aggregator.taken, List.append_nil]
      exact .ended merges
    | failing reason =>
      rw [Aggregator.taken, List.append_nil]
      exact .failed reason
    | failed reason =>
      rw [Aggregator.taken, List.append_nil]
      exact .failed reason

theorem run (merging : Merging subscription replayed messages state.1) (container : ContainerId)
    (happenings : List Happening) :
    Merging subscription replayed (messages ++ Aggregator.takenOver container state happenings)
      (happenings.foldl (Aggregator.after container) state).1 := by
  induction happenings generalizing state messages with
  | nil =>
    rw [Aggregator.takenOver, List.append_nil]
    exact merging
  | cons happening rest ih =>
    have later := ih (merging.after container happening)
    rwa [List.append_assoc] at later

theorem error?_of_complete (merging : Merging subscription replayed messages aggregator)
    (complete : .overflow ∉ messages) :
    aggregator.error? = none ∨ aggregator.error? = some (.streamClosed subscription.container) := by
  have closed {error : Error} (reason : GivesUp subscription messages error) :
      error = .streamClosed subscription.container := by
    cases reason with
    | overflow announced => exact absurd announced complete
    | closed => rfl
  cases merging with
  | listening | draining | leaving | ended => exact .inl rfl
  | failing reason => exact .inr (congrArg some (closed reason))
  | failed reason => exact .inr (congrArg some (closed reason))

end Merging

/-! ## Stopping -/

/-- Steps that heed the stop. -/
def stopping (count : Nat) : List Happening := List.replicate count (.own true)

/-- An aggregator that empties its inbox returns a report when it has done so. -/
theorem exists_ended_of_draining (container : ContainerId) (acc : Accumulator) (progress : Progress) :
    ∃ count report, ((stopping count).foldl (Aggregator.after container) (.draining subscription progress, acc)).1 =
      .ended (.ok report) := by
  induction waiting : acc.live.inbox subscription.token generalizing acc progress with
  | nil =>
    have nothing := Live.receive_of_inbox_nil waiting
    refine ⟨2, progress.report, ?_⟩
    cases isOpen : acc.live.isOpen subscription.token <;>
      simp [stopping, List.replicate, Aggregator.after, Aggregator.step?, Aggregator.drain?, Aggregator.leave?,
        Accumulator.receive, nothing, isOpen]
  | cons message rest ih =>
    obtain ⟨first, left⟩ := Live.receive_of_inbox_cons waiting
    obtain ⟨next, step⟩ : ∃ next, Aggregator.after container (.draining subscription progress, acc) (.own true) =
        (.draining subscription next, (acc.receive subscription.token).2) := by
      cases message with
      | event event =>
        refine ⟨progress.record event, ?_⟩
        simp [Aggregator.after, Aggregator.step?, Aggregator.drain?, Accumulator.receive, first]
      | overflow =>
        refine ⟨progress, ?_⟩
        simp [Aggregator.after, Aggregator.step?, Aggregator.drain?, Accumulator.receive, first]
    obtain ⟨count, report, ended⟩ := ih (acc.receive subscription.token).2 next left
    refine ⟨count + 1, report, ?_⟩
    rw [stopping, List.replicate_succ, List.foldl_cons, step]
    exact ended

/-- An aggregation that has not failed returns a report once it is stopped. -/
theorem Merging.exists_ended {messages : List Message} {state : Aggregator × Accumulator}
    (merging : Merging subscription replayed messages state.1) (sound : state.1.error? = none)
    (container : ContainerId) :
    ∃ count report, ((stopping count).foldl (Aggregator.after container) state).1 = .ended (.ok report) := by
  obtain ⟨aggregator, acc⟩ := state
  cases merging with
  | listening merges =>
    obtain ⟨count, report, ended⟩ := exists_ended_of_draining container acc _
    exact ⟨count + 1, report, ended⟩
  | draining merges => exact exists_ended_of_draining container acc _
  | leaving merges => exact ⟨1, _, rfl⟩
  | ended merges => exact ⟨0, _, rfl⟩
  | failing reason => contradiction
  | failed reason => contradiction

/-! ## Receptions -/

/-- An aggregation from its replay on: what it has replayed, and what has happened since. -/
structure Reception where
  subscription : Subscription
  accumulator : Accumulator
  replayed : List Event
  happenings : List Happening

namespace Reception

/-- Where the replay leaves the aggregator. -/
def start (reception : Reception) : Aggregator × Accumulator :=
  (.listening reception.subscription (.ofCache reception.replayed), reception.accumulator)

def state (reception : Reception) : Aggregator × Accumulator :=
  reception.happenings.foldl (Aggregator.after reception.subscription.container) reception.start

/-- Everything that the aggregator has received, before the stop and after it. -/
def messages (reception : Reception) : List Message :=
  Aggregator.takenOver reception.subscription.container reception.start reception.happenings

def received (reception : Reception) : List Event := eventsIn reception.messages

def Returns (reception : Reception) (report : Report) : Prop :=
  reception.state.1.outcome? = some (.ok report)

instance (reception : Reception) (report : Report) : Decidable (reception.Returns report) :=
  inferInstanceAs (Decidable (_ = _))

/-- The aggregation goes on and is stopped. -/
def stopped (reception : Reception) (count : Nat) : Reception :=
  { reception with happenings := reception.happenings ++ stopping count }

theorem merging (reception : Reception) :
    Merging reception.subscription reception.replayed reception.messages reception.state.1 := by
  have start : Merging reception.subscription reception.replayed [] reception.start.1 :=
    .listening (.ofCache reception.replayed)
  exact start.run reception.subscription.container reception.happenings

theorem merges_of_returns {reception : Reception} (returns : reception.Returns report) :
    report.Merges reception.replayed reception.received := by
  have merging := reception.merging
  rw [Returns] at returns
  generalize reception.state.1 = aggregator at merging returns
  cases merging with
  | ended merges =>
    obtain rfl : _ = report := by simpa [Aggregator.outcome?] using returns
    exact merges
  | failed reason => simp [Aggregator.outcome?] at returns
  | listening | draining | leaving | failing => simp [Aggregator.outcome?] at returns

theorem exists_returns_stopped {reception : Reception} (sound : reception.state.1.error? = none) :
    ∃ count report, (reception.stopped count).Returns report := by
  obtain ⟨count, report, ended⟩ := reception.merging.exists_ended sound reception.subscription.container
  refine ⟨count, report, ?_⟩
  rw [Returns, state, stopped, List.foldl_append]
  exact congrArg Aggregator.outcome? ended

/-- No count of the replayed events that the aggregator looks up is zero. -/
theorem count_pos {reception : Reception} {count : Nat}
    (current : reception.state.1 = .listening reception.subscription progress ∨
      reception.state.1 = .draining reception.subscription progress)
    (found : progress.replayed.get? event = some count) : 0 < count := by
  have merging := reception.merging
  rcases current with listening | draining
  · rw [listening] at merging
    cases merging with
    | listening merges => exact merges.count_pos found
  · rw [draining] at merging
    cases merging with
    | draining merges => exact merges.count_pos found

end Reception

/-- The replay and the live events are merged as multisets: what is returned lists all of them and counts a live
event only if it is more than its replayed copies. Unless lost events are announced or the registration is gone, a
stop makes the aggregation return. The order of the live events does not matter, and no copy is used up that is not
there. -/
theorem returns_merged (reception : Reception) :
    (reception.replayed = reception.accumulator.query reception.subscription.container →
      (Aggregator.subscribed reception.subscription).replay? reception.accumulator = some reception.start.1) ∧
    (∀ report, reception.Returns report → report.Merges reception.replayed reception.received) ∧
    (.overflow ∉ reception.messages →
      reception.state.1.error? = some (.streamClosed reception.subscription.container) ∨
        ∃ count report, (reception.stopped count).Returns report) ∧
    (∀ (reordered : Reception) (report other : Report), reordered.replayed = reception.replayed →
      (reordered.received : Multiset Event) = reception.received →
      reception.Returns report → reordered.Returns other → report = other) ∧
    ∀ (progress : Progress) (event : Event) (count : Nat),
      reception.state.1 = .listening reception.subscription progress ∨
        reception.state.1 = .draining reception.subscription progress →
      progress.replayed.get? event = some count → 0 < count := by
  refine ⟨?_, ?_, ?_, ?_, ?_⟩
  · intro cached
    rw [Reception.start, cached]
    rfl
  · intro report returns
    exact Reception.merges_of_returns returns
  · intro complete
    rcases reception.merging.error?_of_complete complete with sound | closed
    · exact .inr (Reception.exists_returns_stopped sound)
    · exact .inl closed
  · intro reordered report other cached same returns returnsOther
    have merges := Reception.merges_of_returns returns
    have mergesOther := Reception.merges_of_returns returnsOther
    rw [cached] at mergesOther
    exact merges.eq_of_perm mergesOther (Multiset.coe_eq_coe.mp same).symm
  · intro progress event count current found
    exact Reception.count_pos current found

private def timedLine (time : String) : List Char :=
  Text.joinWith separator
    [("2024-01-01T00:00:" ++ time).toList, ['c'], [], ['1'], ['2'], "open".toList, "/etc/passwd".toList, []]

/-- Two equal events and a third one are replayed. -/
private def listenerOf (happenings : List Happening) : Reception :=
  let cached := (Accumulator.empty 4).run
    [.ingest (timedLine "00.0"), .ingest (timedLine "00.0"), .ingest (timedLine "01.0")]
  let registered := cached.register ⟨"c", by decide⟩
  ⟨registered.2, registered.1, registered.1.query registered.2.container, happenings⟩

/-- The repeated event comes three times more and then a new one; the last two are received after the stop. -/
private def resumed : Reception :=
  listenerOf [.other (.ingest (timedLine "00.0")), .own false, .other (.ingest (timedLine "00.0")), .own false,
    .other (.ingest (timedLine "00.0")), .own true, .other (.ingest (timedLine "02.0")), .own true, .own true,
    .own true, .own true]

/-- The same live events in another order, all of them before the stop. -/
private def reversed : Reception :=
  listenerOf [.other (.ingest (timedLine "02.0")), .own false, .other (.ingest (timedLine "00.0")), .own false,
    .other (.ingest (timedLine "00.0")), .own false, .other (.ingest (timedLine "00.0")), .own false, .own true,
    .own true, .own true]

theorem returns_merged_of_resumed :
    (Aggregator.subscribed resumed.subscription).replay? resumed.accumulator = some resumed.start.1 ∧
      resumed.replayed.length = 3 ∧ resumed.received.length = 4 ∧ resumed.received ≠ reversed.received ∧
      (∃ count report, (resumed.stopped count).Returns report) ∧
      ∃ report, resumed.Returns report ∧ reversed.Returns report ∧
        report.Merges resumed.replayed resumed.received ∧ report.events = 5 := by
  have sizes : resumed.replayed.length = 3 ∧ resumed.received.length = 4 ∧ resumed.received ≠ reversed.received := by
    decide +kernel
  have complete : .overflow ∉ resumed.messages ∧
      resumed.state.1.error? ≠ some (.streamClosed resumed.subscription.container) := by
    decide +kernel
  have same : reversed.replayed = resumed.replayed ∧ reversed.received.Perm resumed.received := by
    decide +kernel
  have returns : resumed.Returns ⟨["open"], ["/etc/passwd"], 5⟩ ∧ ∃ other ∈ reversed.state.1.outcome?, other.isOk := by
    decide +kernel
  obtain ⟨replay, merges, exists_report, unordered, -⟩ := returns_merged resumed
  obtain ⟨⟨error⟩ | ⟨other⟩, returnsOther, isOk⟩ := returns.2
  · exact Bool.noConfusion isOk
  · obtain rfl := unordered reversed _ other same.1 (Multiset.coe_eq_coe.mpr same.2) returns.1 returnsOther
    exact ⟨replay rfl, sizes.1, sizes.2.1, sizes.2.2, (exists_report complete.1).resolve_left complete.2, _, returns.1,
      returnsOther, merges _ returns.1, rfl⟩

end Observatory.Aggregation
