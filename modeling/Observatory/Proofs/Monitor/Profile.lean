import Observatory.Proofs.Aggregation.Progress
import Observatory.Proofs.Monitor.Session
import Observatory.Proofs.Text.ByteOrder

/-! # Exact profiles

An event can reach a report through the cache, through the inbox, through both, or while the inbox is
emptied after the stop. Main statement: the profile that is handed to the store allows exactly the
system calls of those events of the container that were in the ring at the replay or were announced
from the registration until the aggregation was complete.
-/

namespace Observatory.Monitor

open Accumulator Aggregation Trace

variable {monitor next : Monitor} {action : Action} {serial : Nat} {before after : Observation}
  {subscription : Subscription} {cached : List Event} {heard : List Message} {progress : Progress}
  {acc later : Accumulator} {found : Received}

/-- The events among messages. -/
def eventsIn (messages : List Message) : List Event :=
  messages.filterMap fun
    | .event event => some event
    | .overflow => none

theorem mem_eventsIn {event : Event} {messages : List Message} :
    event ∈ eventsIn messages ↔ .event event ∈ messages := by
  simp only [eventsIn, List.mem_filterMap]
  constructor
  · rintro ⟨message, member, same⟩
    cases message with
    | event other => exact Option.some.inj same ▸ member
    | overflow => contradiction
  · intro member
    exact ⟨_, member, rfl⟩

/-! ## Gathering -/

/-- The listener hears, and the progress covers what it has received of what it was to hear. -/
structure Gathers (subscription : Subscription) (cached : List Event) (heard : List Message) (live : Live)
    (progress : Progress) : Prop where
  hears : Hears live subscription
  covers : ∃ received, received ++ live.inbox subscription.token = heard ∧
    progress.Covers cached (eventsIn received)

theorem Gathers.receive (gathers : Gathers subscription cached heard acc.live progress) (sound : acc.Sound)
    {event : Event} (result : acc.receive subscription.token = (.message (.event event), later)) :
    Gathers subscription cached heard later.live (progress.record event) := by
  obtain ⟨received, split, covers⟩ := gathers.covers
  obtain ⟨hears, ⟨message, same, inbox⟩ | ⟨pending, -⟩⟩ := gathers.hears.receive sound result
  · obtain rfl := Received.message.inj same
    refine ⟨hears, received ++ [.event event], ?_, ?_⟩
    · rw [← split, inbox, List.append_assoc, List.singleton_append]
    · have recorded := covers.record event
      simpa [eventsIn] using recorded
  · contradiction

/-- Without lost events there is no reason to give up. -/
theorem Gathers.received_ne (gathers : Gathers subscription cached heard acc.live progress) (sound : acc.Sound)
    (complete : .overflow ∉ heard) (result : acc.receive subscription.token = (found, later)) :
    found ≠ .message .overflow ∧ found ≠ .closed := by
  obtain ⟨received, split, -⟩ := gathers.covers
  obtain ⟨-, ⟨message, rfl, inbox⟩ | ⟨rfl, -⟩⟩ := gathers.hears.receive sound result
  · refine ⟨fun same => complete ?_, nofun⟩
    obtain rfl := Received.message.inj same
    rw [← split, inbox]
    simp
  · exact ⟨nofun, nofun⟩

/-- Once the inbox is empty, everything has been received. -/
theorem Gathers.lists (gathers : Gathers subscription cached heard acc.live progress) (sound : acc.Sound)
    (result : acc.receive subscription.token = (found, later))
    (nothing : ∀ message, found ≠ .message message) :
    progress.report.Lists (cached ++ eventsIn heard) := by
  obtain ⟨received, split, covers⟩ := gathers.covers
  obtain ⟨-, ⟨message, same, -⟩ | ⟨-, inbox, -⟩⟩ := gathers.hears.receive sound result
  · exact absurd same (nothing message)
  · rw [inbox, List.append_nil] at split
    exact split ▸ covers.lists

/-! ## Stages of an aggregation -/

/-- How far an aggregation has come after the replay, if no events were lost. -/
inductive Stage (subscription : Subscription) (cached : List Event) (heard : List Message) (live : Live) :
    Aggregator → Prop
  | listening {progress : Progress} (gathers : Gathers subscription cached heard live progress) :
      Stage subscription cached heard live (.listening subscription progress)
  | draining {progress : Progress} (gathers : Gathers subscription cached heard live progress) :
      Stage subscription cached heard live (.draining subscription progress)
  | leaving {report : Report} (lists : report.Lists (cached ++ eventsIn heard)) :
      Stage subscription cached heard live (.leaving subscription (.ok report))
  | ended {report : Report} (lists : report.Lists (cached ++ eventsIn heard)) :
      Stage subscription cached heard live (.ended (.ok report))

theorem Stage.moved {container : ContainerId} {stopped : Bool} {move : Move} {aggregator moved : Aggregator}
    (stage : Stage subscription cached heard acc.live aggregator) (sound : acc.Sound)
    (complete : .overflow ∉ heard) (moves : Moved container stopped acc move aggregator moved later) :
    Stage subscription cached heard later.live moved := by
  cases stage with
  | listening gathers =>
    cases moves with
    | received _ _ event result => exact .listening (gathers.receive sound result)
    | overflowed _ _ result => exact absurd rfl (gathers.received_ne sound complete result).1
    | closed _ _ result => exact absurd rfl (gathers.received_ne sound complete result).2
    | heeded => exact .draining gathers
  | draining gathers =>
    cases moves with
    | drained _ _ event result => exact .draining (gathers.receive sound result)
    | skipped _ _ result => exact absurd rfl (gathers.received_ne sound complete result).1
    | completed _ _ _ result nothing => exact .leaving (gathers.lists sound result nothing)
  | leaving lists =>
    cases moves with
    | left => exact .ended lists
  | ended lists => cases moves

/-- What is announced while the aggregator gathers is to be heard, and nothing after that. -/
theorem Stage.extend {live grown : Live} {announced : List Message} {aggregator : Aggregator}
    (stage : Stage subscription cached heard live aggregator)
    (gathers : aggregator.subscription? = some subscription → ∀ {progress},
      Gathers subscription cached heard live progress →
        Gathers subscription cached (heard ++ announced) grown progress) :
    Stage subscription cached (heard ++ if aggregator.isRunning then announced else []) grown aggregator := by
  cases stage with
  | listening gathered => exact .listening (gathers rfl gathered)
  | draining gathered => exact .draining (gathers rfl gathered)
  | leaving lists => exact .leaving ((List.append_nil heard).symm ▸ lists)
  | ended lists => exact .ended ((List.append_nil heard).symm ▸ lists)

theorem Gathers.announced (gathers : Gathers subscription cached heard monitor.accumulator.live progress)
    (passes : Passes serial monitor action next before after)
    (subscribed : before.aggregator.subscription? = some subscription)
    (foreign : ∀ move, action ≠ .aggregate serial move) (alone : action ≠ .intrude before.container) :
    Gathers subscription cached (heard ++ monitor.announcedBy before.container action) next.accumulator.live
      progress := by
  obtain ⟨hears, inbox⟩ := passes.hears subscribed gathers.hears foreign alone
  obtain ⟨received, split, covers⟩ := gathers.covers
  exact ⟨hears, received, by rw [inbox, ← split, List.append_assoc], covers⟩

theorem Passes.stage (passes : Passes serial monitor action next before after)
    (alone : action ≠ .intrude before.container) (complete : .overflow ∉ heard)
    (stage : Stage subscription cached heard monitor.accumulator.live before.aggregator) :
    Stage subscription cached
      (heard ++ if next.isAggregating serial then monitor.announcedBy before.container action else [])
      next.accumulator.live after.aggregator := by
  rw [passes.isAggregating]
  rcases passes.moved_or_unmoved with ⟨move, rfl, moved⟩ | ⟨foreign, unmoved⟩
  · simp only [announcedBy, ite_self, List.append_nil]
    exact stage.moved passes.sound.accumulator complete moved
  · rw [unmoved]
    exact stage.extend fun subscribed _ gathers => gathers.announced passes subscribed foreign alone

/-- As long as the aggregator has not replayed the cache, its inbox holds all that was announced. -/
structure Awaits (subscription : Subscription) (heard : List Message) (live : Live)
    (aggregator : Aggregator) : Prop where
  begun : aggregator ≠ .created
  hears : ∀ other, aggregator = .subscribed other →
    other = subscription ∧ Hears live subscription ∧ live.inbox subscription.token = heard

/-- A listener is registered only by the first move, so no later move leads back to waiting. -/
theorem Moved.ne_subscribed {container : ContainerId} {stopped : Bool} {move : Move}
    {aggregator moved : Aggregator}
    (moves : Moved container stopped acc move aggregator moved later) (begun : aggregator ≠ .created) :
    moved ≠ .created ∧ ∀ other, moved ≠ .subscribed other := by
  cases moves with
  | subscribed => contradiction
  | replayed | received | overflowed | closed | heeded | drained | skipped | completed | left =>
    exact ⟨nofun, nofun⟩

theorem Passes.awaits (passes : Passes serial monitor action next before after)
    (alone : action ≠ .intrude before.container)
    (awaits : Awaits subscription heard monitor.accumulator.live before.aggregator) :
    Awaits subscription
      (heard ++ if next.isAggregating serial then monitor.announcedBy before.container action else [])
      next.accumulator.live after.aggregator := by
  rw [passes.isAggregating]
  rcases passes.moved_or_unmoved with ⟨move, rfl, moved⟩ | ⟨foreign, unmoved⟩
  · obtain ⟨begun, replayed⟩ := moved.ne_subscribed awaits.begun
    exact ⟨begun, fun other waiting => absurd waiting (replayed other)⟩
  · refine ⟨unmoved ▸ awaits.begun, fun other waiting => ?_⟩
    rw [unmoved] at waiting ⊢
    obtain ⟨rfl, hears, inbox⟩ := awaits.hears other waiting
    have subscribed : before.aggregator.subscription? = some other := by rw [waiting]; rfl
    obtain ⟨still, grown⟩ := passes.hears subscribed hears foreign alone
    refine ⟨rfl, still, ?_⟩
    rw [grown, inbox, waiting]
    rfl

/-! ## From the registration to the profile -/

private theorem Moved.subscribe {container : ContainerId} {stopped : Bool} {aggregator moved : Aggregator}
    (moves : Moved container stopped acc .subscribe aggregator moved later) :
    moved = .subscribed (acc.register container).2 ∧ later = (acc.register container).1 := by
  cases moves
  exact ⟨rfl, rfl⟩

private theorem Moved.replay {container : ContainerId} {stopped : Bool} {aggregator moved : Aggregator}
    (moves : Moved container stopped acc .replay aggregator moved later) :
    ∃ subscription, aggregator = .subscribed subscription ∧
      moved = .listening subscription (.ofCache (acc.query subscription.container)) ∧ later = acc := by
  cases moves with
  | replayed subscription => exact ⟨subscription, rfl, rfl, rfl⟩

/-- A new listener has its registration, and nothing has been announced to it. -/
theorem awaits_of_subscribe (stepped : monitor.step? (.aggregate serial .subscribe) = some next)
    (observed : next.observation? serial = some after) :
    ∃ subscription, Awaits subscription [] next.accumulator.live after.aggregator := by
  obtain ⟨before, aggregator, -, foundNext, moved⟩ := moved_of_aggregate stepped
  obtain rfl := Option.some.inj (foundNext.symm.trans observed)
  obtain ⟨rfl, registered⟩ := moved.subscribe
  refine ⟨(monitor.accumulator.register before.container).2, nofun, fun other same => ?_⟩
  obtain rfl := Aggregator.subscribed.inj same
  rw [registered]
  exact ⟨rfl, hears_register _ _, Live.inbox_register_self ..⟩

/-- The replay begins the report with what the cache holds. -/
theorem stage_of_replay (sound : monitor.Sound) (found : monitor.observation? serial = some before)
    (awaits : Awaits subscription heard monitor.accumulator.live before.aggregator)
    (stepped : monitor.step? (.aggregate serial .replay) = some next)
    (foundNext : next.observation? serial = some after) :
    Stage subscription (monitor.accumulator.query before.container) heard next.accumulator.live
      after.aggregator := by
  obtain ⟨_, aggregator, same, observed, moved⟩ := moved_of_aggregate stepped
  obtain rfl := Option.some.inj (found.symm.trans same)
  obtain rfl := Option.some.inj (observed.symm.trans foundNext)
  obtain ⟨other, waiting, rfl, unchanged⟩ := moved.replay
  obtain ⟨rfl, hears, inbox⟩ := awaits.hears other waiting
  have member := (sound.observation?_eq_some_iff.mp found).1
  have container : other.container = before.container :=
    ((sound.fits before member).subscribed other (by rw [waiting]; rfl)).1
  rw [unchanged, container]
  exact .listening ⟨hears, [], inbox, Progress.covers_ofCache _⟩

/-- From the registration over the replay to any later state in which the observation still runs. -/
theorem Sound.stage_of_session {registered replaying latest : Monitor} {between session : List Action}
    {observation last : Observation} (sound : registered.Sound)
    (observed : registered.observation? serial = some observation)
    (awaits : Awaits subscription [] registered.accumulator.live observation.aggregator)
    (waits : registered.run? between = some replaying)
    (runs : replaying.run? (.aggregate serial .replay :: session) = some latest)
    (alone : .intrude observation.container ∉ between ++ session)
    (complete : .overflow ∉ registered.announcedWhile serial observation.container
      (between ++ .aggregate serial .replay :: session))
    (lasts : latest.observation? serial = some last) :
    (last.start = observation.start ∧ last.identity = observation.identity) ∧
      Stage subscription (replaying.accumulator.query observation.container)
        (registered.announcedWhile serial observation.container
          (between ++ .aggregate serial .replay :: session))
        latest.accumulator.live last.aggregator := by
  rw [announcedWhile_append _ waits] at complete ⊢
  obtain ⟨listening, stepped, runs⟩ := Option.bind_eq_some_iff.mp runs
  obtain ⟨waiting, aggregator, foundWaiting, foundListening, -⟩ := moved_of_aggregate stepped
  have silent : replaying.announcedWhile serial observation.container (.aggregate serial .replay :: session) =
      listening.announcedWhile serial observation.container session := by
    simp [announcedWhile, stepped, announcedBy]
  rw [silent] at complete ⊢
  rw [List.mem_append, not_or] at alone
  obtain ⟨sameStart, sameIdentity, waited⟩ := sound.follow (Awaits subscription)
    (fun passes alone _ awaits => passes.awaits alone awaits) observed awaits alone.1
    (fun lost => complete (List.mem_append_left _ lost)) waits foundWaiting
  have container : waiting.container = observation.container := congrArg Start.container sameStart
  rw [List.nil_append, ← container] at waited
  rw [← container] at alone complete ⊢
  have soundReplaying := sound.run waits
  have stage := stage_of_replay soundReplaying foundWaiting waited stepped foundListening
  obtain ⟨start, identity, stage⟩ := (soundReplaying.step stepped).follow
    (Stage subscription (replaying.accumulator.query waiting.container))
    (fun passes alone complete stage => passes.stage alone complete stage) foundListening stage
    alone.2 complete runs lasts
  exact ⟨⟨start.trans sameStart, identity.trans sameIdentity⟩, stage⟩

private theorem Stage.report_of_ended {live : Live} {outcome : Aggregation.Outcome}
    (stage : Stage subscription cached heard live (.ended outcome)) :
    ∃ report, outcome = .ok report ∧ report.Lists (cached ++ eventsIn heard) := by
  cases stage with
  | ended lists => exact ⟨_, rfl, lists⟩

/-- A profile is derived from the complete report, and from nothing else. -/
theorem Stage.derive? (stage : Stage subscription cached heard monitor.accumulator.live before.aggregator)
    (sound : monitor.Sound) (found : monitor.observation? serial = some before)
    {result : Except String Observation.Derived} (derives : before.derive? .containerProfiling = some result) :
    ∃ report : Report, report.Lists (cached ++ eventsIn heard) ∧
      result = .ok ⟨.ofProfile before.resourceName (.allowOnly report.syscalls), 0⟩ := by
  have member := (sound.observation?_eq_some_iff.mp found).1
  cases completed : before.aggregation.result with
  | none => simp [Observation.derive?, completed] at derives
  | some outcome =>
    obtain ⟨outcome, ended, rfl⟩ := (sound.fits before member).reported outcome completed
    rw [ended] at stage
    obtain ⟨report, rfl, lists⟩ := stage.report_of_ended
    refine ⟨report, lists, ?_⟩
    simp only [Observation.derive?, completed, Except.mapError, Option.some.injEq] at derives
    exact derives.symm

private theorem mem_query_append_eventsIn (sound : acc.Sound) {container : ContainerId} {event : Event}
    (announced : .event event ∈ heard → event.container = container) :
    event ∈ acc.query container ++ eventsIn heard ↔
      event.container = container ∧ (event ∈ acc.ring.stored ∨ .event event ∈ heard) := by
  obtain ⟨filled, free, invariant, -⟩ := sound.stores
  rw [List.mem_append, Accumulator.query, invariant.mem_eventsOf_iff, mem_eventsIn]
  constructor
  · rintro (⟨stored, same⟩ | live)
    · exact ⟨same, .inl stored⟩
    · exact ⟨announced live, .inr live⟩
  · rintro ⟨same, stored | live⟩
    · exact .inl ⟨stored, same⟩
    · exact .inr live

/-- An observation registers its listener, replays the cache, and is told of no lost events while it
aggregates; nobody outside registers for its container. Then the profile that is handed to the store
lists, in the order of their bytes, the named system calls of exactly those events of its container that
were stored at the replay or announced from the registration until the inbox was found empty after the
stop. -/
theorem allowed_iff_stored_or_announced {policy : Policy} {cacheSize : Nat} (positive : 0 < cacheSize)
    {earlier between session : List Action} {registered replaying preparing offered : Monitor}
    {observation : Observation} {task : Task}
    (registers : (empty policy cacheSize).run? (earlier ++ [.aggregate serial .subscribe]) = some registered)
    (observed : registered.observation? serial = some observation)
    (waits : registered.run? between = some replaying)
    (runs : replaying.run? (.aggregate serial .replay :: session) = some preparing)
    (working : preparing.worker = .preparing serial task) (profiling : task.service = .containerProfiling)
    (prepares : preparing.step? .prepare = some offered)
    (alone : .intrude observation.container ∉ between ++ session)
    (complete : .overflow ∉ registered.announcedWhile serial observation.container
      (between ++ .aggregate serial .replay :: session)) :
    ∃ profile : SyscallProfile,
      offered.journal = preparing.journal ++ [.offered serial (.ofProfile observation.resourceName profile)] ∧
      profile.allowed.Pairwise
        (fun name other => Text.Utf8.encode name.toList < Text.Utf8.encode other.toList) ∧
      ∀ name, name ∈ profile.allowed ↔ name ≠ "" ∧ ∃ event : Event,
        event.container = observation.container ∧ event.syscall = name ∧
        (event ∈ replaying.accumulator.ring.stored ∨
          .event event ∈ registered.announcedWhile serial observation.container
            (between ++ .aggregate serial .replay :: session)) := by
  rw [run?_append] at registers
  obtain ⟨starting, begins, registers⟩ := Option.bind_eq_some_iff.mp registers
  obtain ⟨_, subscribes, same⟩ := Option.bind_eq_some_iff.mp registers
  obtain rfl := Option.some.inj same
  have sound := ((sound_empty policy positive).run begins).step subscribes
  have soundReplaying := sound.run waits
  obtain ⟨subscription, awaits⟩ := awaits_of_subscribe subscribes observed
  obtain ⟨_, _, last, workingLast, lasts, outcome⟩ := prepare?_spec prepares
  obtain ⟨rfl, rfl⟩ := Worker.preparing.inj (working.symm.trans workingLast)
  obtain ⟨⟨-, identity⟩, stage⟩ := sound.stage_of_session observed awaits waits runs alone complete lasts
  rw [profiling] at outcome
  have soundPreparing := soundReplaying.run runs
  obtain ⟨derived, derives, rfl⟩ | ⟨reason, derives, -⟩ := outcome
  · obtain ⟨report, lists, same⟩ := stage.derive? soundPreparing lasts derives
    obtain rfl := Except.ok.inj same
    refine ⟨.allowOnly report.syscalls, ?_, ?_, fun name => ?_⟩
    · simp only [noticeOf, Artifact.ofProfile, write, List.nil_append, Observation.resourceName, identity]
    · rw [SyscallProfile.allowed_allowOnly]
      exact Text.Utf8.pairwise_encode_lt (Sorted.pairwise_ofList _)
    · rw [SyscallProfile.allowed_allowOnly, Sorted.mem_ofList, lists.mem_iff]
      refine and_congr_right fun _ => exists_congr fun event => ?_
      rw [mem_query_append_eventsIn soundReplaying.accumulator container_of_mem_announcedWhile, and_assoc]
      exact and_congr_right fun _ => and_comm
  · obtain ⟨report, -, same⟩ := stage.derive? soundPreparing lasts derives
    contradiction

private theorem valid_web : ContainerId.Valid "web" := by decide

private theorem valid_own : ContainerId.Valid "own" := by decide

private def web : ContainerId := ⟨"web", valid_web⟩

private def traced (container syscall : String) : Action :=
  .ingest (Text.joinWith separator
    ["2024-01-01T00:00:00.0".toList, container.toList, [], ['1'], ['2'], syscall.toList, [], []])

private def profilingOnly : Policy := ⟨5, ⟨false, true⟩, 1⟩

/-- One event is in the cache before the container starts. -/
private def startOfWeb : List Action :=
  [.exclude ⟨"own", valid_own⟩, traced "web" "read",
    .request ⟨web, "web", ⟨"default", "web-0"⟩, none, "nginx:1", "", []⟩,
    .enroll 0 ⟨"default", "Pod", "web-0", "nginx:1"⟩]

/-- The monitor's own lines and those of another container count for nothing, and neither does what comes
after the aggregation. An event that comes after the deadline is still in the inbox when it is emptied. -/
private def sessionOfWeb : List Action :=
  [traced "own" "ptrace", traced "db" "mount", .aggregate 0 .receive, .elapse 5, .expire 0, traced "web" "close",
    .aggregate 0 .heed, .aggregate 0 .drain, .aggregate 0 .drain, .aggregate 0 .leave, traced "web" "late",
    .report 0, .hire, .send 0, .take]

theorem allowed_of_web : ∃ registered replaying preparing offered observation profile,
    (empty profilingOnly 1).run? (startOfWeb ++ [.aggregate 0 .subscribe]) = some registered ∧
      registered.observation? 0 = some observation ∧ observation.container = web ∧
      registered.run? [traced "web" "openat"] = some replaying ∧
      replaying.run? (.aggregate 0 .replay :: sessionOfWeb) = some preparing ∧
      preparing.step? .prepare = some offered ∧
      offered.journal = preparing.journal ++ [.offered 0 (.ofProfile observation.resourceName profile)] ∧
      profile.allowed = ["close", "openat", "read"] := by
  let registered := (empty profilingOnly 1).reached (startOfWeb ++ [.aggregate 0 .subscribe])
  let replaying := registered.reached [traced "web" "openat"]
  let preparing := replaying.reached (.aggregate 0 .replay :: sessionOfWeb)
  have facts : ((empty profilingOnly 1).run? (startOfWeb ++ [.aggregate 0 .subscribe])).isSome = true ∧
      (registered.run? [traced "web" "openat"]).isSome = true ∧
      (replaying.run? (.aggregate 0 .replay :: sessionOfWeb)).isSome = true ∧
      (registered.observation? 0).map (·.container) = some web ∧
      preparing.worker = .preparing 0 ⟨web, .containerProfiling⟩ ∧
      (preparing.step? .prepare).bind (·.journal.getLast?) = some (.offered 0 (.ofProfile
        "namespace-default.pod-web-0.imagename-nginx:1" (.allowOnly ["close", "openat", "read"]))) ∧
      .overflow ∉ registered.announcedWhile 0 web
        ([traced "web" "openat"] ++ .aggregate 0 .replay :: sessionOfWeb) := by
    decide +kernel
  obtain ⟨registers, waits, runs, container, working, last, complete⟩ := facts
  obtain ⟨observation, observed, isWeb⟩ := Option.map_eq_some_iff.mp container
  obtain ⟨offered, prepares, last⟩ := Option.bind_eq_some_iff.mp last
  have registers := run?_eq_some_reached registers
  have waits := run?_eq_some_reached waits
  have runs := run?_eq_some_reached runs
  have alone : .intrude observation.container ∉ [traced "web" "openat"] ++ sessionOfWeb := by
    simp [sessionOfWeb, traced]
  obtain ⟨profile, journal, -, -⟩ := allowed_iff_stored_or_announced (by decide) registers observed waits
    runs working rfl prepares alone (isWeb ▸ complete)
  refine ⟨_, _, _, offered, observation, profile, registers, observed, isWeb, waits, runs, prepares, journal, ?_⟩
  rw [journal, List.getLast?_concat] at last
  simp only [Option.some.injEq, Entry.offered.injEq, Artifact.ofProfile, Artifact.mk.injEq, true_and] at last
  rw [last.2]
  decide +kernel

end Observatory.Monitor
