import Observatory.Proofs.Acceptance
import Observatory.Proofs.Aggregation.Progress
import Observatory.Proofs.Cache.Arrivals
import Mathlib.Data.Multiset.AddSub
import Mathlib.Data.Multiset.UnionInter

/-! # How many events a report counts

A live event uses up a replayed copy of itself, and copies are told apart by their value only. Main
statement: a report counts the events that the replay found from before the registration and those accepted
since, less one for each later event that the replay did not find but that is taken for the copy of an
equal earlier one.
-/

namespace Observatory.Aggregation

open Accumulator Cache Trace

variable {progress : Progress} {replayed : Replayed} {copies cached received : Multiset Event}

/-! ## Copies -/

/-- These are the replayed events whose live copies are still expected. -/
def Replayed.Expects (replayed : Replayed) (copies : Multiset Event) : Prop :=
  ∀ event, replayed.get? event = if event ∈ copies then some (copies.count event) else none

theorem Replayed.Expects.add (expects : replayed.Expects copies) (event : Event) :
    (replayed.add event).Expects (event ::ₘ copies) := by
  intro other
  rw [Replayed.add, Table.get?_insert]
  by_cases same : other = event
  · subst same
    by_cases member : other ∈ copies <;> simp [expects other, member]
  · simp [same, expects other, Multiset.count_cons_of_ne same]

theorem Replayed.expects_ofList (events : List Event) : (ofList events).Expects events := by
  suffices general : ∀ (replayed : Replayed) (copies : Multiset Event), replayed.Expects copies →
      (events.foldl Replayed.add replayed).Expects (copies + events) by
    have whole := general .empty 0 fun event => by simp
    rwa [Multiset.zero_add] at whole
  induction events with
  | nil => simp
  | cons first rest ih =>
    intro replayed copies expects
    have tail := ih (replayed.add first) _ (expects.add first)
    rwa [Multiset.cons_add, ← Multiset.add_cons, Multiset.cons_coe] at tail

/-- A copy is found exactly if one is expected, and it is then expected once less. -/
theorem Replayed.Expects.take? (expects : replayed.Expects copies) (event : Event) :
    (event ∉ copies ∧ replayed.take? event = none) ∨
      event ∈ copies ∧ ∃ rest, replayed.take? event = some rest ∧ rest.Expects (copies.erase event) := by
  by_cases member : event ∈ copies
  · refine .inr ⟨member, ?_⟩
    have found : replayed.get? event = some (copies.count event) := by rw [expects event, if_pos member]
    have positive := Multiset.count_pos.mpr member
    simp only [Replayed.take?, found]
    split
    · rename_i last
      refine ⟨_, rfl, fun other => ?_⟩
      rw [Table.get?_erase]
      by_cases same : other = event
      · subst same
        have gone : other ∉ copies.erase other := by
          rw [← Multiset.count_eq_zero, Multiset.count_erase_self]
          omega
        simp [gone]
      · simp [same, expects other, Multiset.mem_erase_of_ne same, Multiset.count_erase_of_ne same]
    · rename_i more
      refine ⟨_, rfl, fun other => ?_⟩
      rw [Table.get?_insert]
      by_cases same : other = event
      · subst same
        have left : other ∈ copies.erase other := by
          rw [← Multiset.count_pos, Multiset.count_erase_self]
          omega
        simp [left]
      · simp [same, expects other, Multiset.mem_erase_of_ne same, Multiset.count_erase_of_ne same]
  · refine .inl ⟨member, ?_⟩
    simp [Replayed.take?, expects event, member]

/-! ## Counting -/

/-- The progress after a replay of cached events and the receipt of live ones: of the live ones, those are
counted that are more than their cached copies. -/
structure Progress.Counts (progress : Progress) (cached received : Multiset Event) : Prop where
  events_eq : progress.report.events = cached.card + (received - cached).card
  expects : progress.replayed.Expects (cached - received)

theorem events_record (report : Report) (event : Event) : (report.record event).events = report.events + 1 := rfl

theorem events_foldl_record (report : Report) (events : List Event) :
    (events.foldl Report.record report).events = report.events + events.length := by
  induction events generalizing report with
  | nil => rfl
  | cons event rest ih =>
    rw [List.foldl_cons, ih, events_record, List.length_cons]
    omega

theorem Progress.counts_ofCache (cached : List Event) : (ofCache cached).Counts cached 0 := by
  constructor
  · have nothing : (0 : Multiset Event) - cached = 0 := Multiset.ext' fun event => by simp
    simp [ofCache, events_foldl_record, Report.empty, nothing]
  · rw [Multiset.sub_zero]
    exact Replayed.expects_ofList cached

/-- One more event is a surplus unless a copy of it is left over. -/
private theorem cons_sub (event : Event) (received cached : Multiset Event) :
    event ::ₘ received - cached =
      if event ∈ cached - received then received - cached else event ::ₘ (received - cached) := by
  ext other
  simp only [Multiset.mem_sub]
  by_cases same : other = event
  · subst same
    split <;> simp only [Multiset.count_sub, Multiset.count_cons_self] <;> omega
  · split <;> simp [Multiset.count_cons_of_ne same]

theorem Progress.Counts.record (counts : progress.Counts cached received) (event : Event) :
    (progress.record event).Counts cached (event ::ₘ received) := by
  have fewer : cached - (event ::ₘ received) = (cached - received).erase event := by
    rw [← Multiset.singleton_add, Multiset.add_comm, Multiset.sub_add_eq_sub_sub, Multiset.sub_singleton]
  rcases counts.expects.take? event with ⟨absent, nothing⟩ | ⟨present, rest, taken, expects⟩
  · rw [Progress.record, nothing]
    constructor
    · rw [events_record, counts.events_eq, cons_sub, if_neg absent, Multiset.card_cons, Nat.add_assoc]
    · rw [fewer, Multiset.erase_of_notMem absent]
      exact counts.expects
  · rw [Progress.record, taken]
    constructor
    · rw [cons_sub, if_pos present]
      exact counts.events_eq
    · rwa [fewer]

/-! ## Aggregations -/

/-- What may happen while an aggregator listens: something is done to the accumulator, or it looks into its
inbox. -/
inductive Beat where
  | other (operation : Operation)
  | look
deriving DecidableEq, Repr

def Beat.operation (token : Nat) : Beat → Operation
  | .other operation => operation
  | .look => .receive token

def Beat.other? : Beat → Option Operation
  | .other operation => some operation
  | .look => none

/-- An aggregator that finds nothing goes on waiting. -/
def Aggregator.beat (state : Aggregator × Accumulator) : Beat → Aggregator × Accumulator
  | .other operation => (state.1, state.2.apply operation)
  | .look => (state.1.receive? state.2).getD state

/-- The outcome of an aggregation that registers, lets something happen, replays the cache, listens for some
beats and is then stopped. -/
def Aggregator.outcomeOf? (container : ContainerId) (acc : Accumulator) (between : List Operation)
    (beats : List Beat) : Option Outcome := do
  let (aggregator, acc) ← Aggregator.created.subscribe? container acc
  let acc := acc.run between
  let aggregator ← aggregator.replay? acc
  let (aggregator, acc) := beats.foldl beat (aggregator, acc)
  (aggregator.run container true acc).1.outcome?

/-- The operation leaves the registration and the inbox alone. -/
def Spares (subscription : Subscription) (operation : Operation) : Prop :=
  operation.ends subscription = false ∧ operation ≠ .receive subscription.token ∧
    operation ≠ .drop subscription.token

instance (subscription : Subscription) (operation : Operation) : Decidable (Spares subscription operation) :=
  inferInstanceAs (Decidable (_ ∧ _ ∧ _))

/-- The listener hears, and these events wait in its inbox. -/
structure Waits (subscription : Subscription) (acc : Accumulator) (waiting : List Event) : Prop where
  sound : acc.Sound
  hears : Hears acc.live subscription
  inbox_eq : acc.live.inbox subscription.token = waiting.map .event

variable {subscription : Subscription} {acc : Accumulator} {waiting events : List Event} {operation : Operation}

theorem Waits.apply (waits : Waits subscription acc waiting) (spares : Spares subscription operation)
    (complete : .overflow ∉ acc.announced subscription.container operation) :
    Waits subscription (acc.apply operation)
      (waiting ++ (acc.accepted operation).filter (·.container = subscription.container)) := by
  obtain ⟨lasts, unread, kept⟩ := spares
  obtain ⟨hears, grown⟩ := waits.hears.apply waits.sound lasts kept
  have nothing : acc.received subscription.token operation = [] := by
    cases operation with
    | receive token =>
      have differs : token ≠ subscription.token := fun same => unread (by rw [same])
      simp [Accumulator.received, differs]
    | ingest _ | exclude _ | register _ | unregister _ | drop _ => rfl
  rw [nothing, List.nil_append, waits.inbox_eq, announced_eq_accepted complete, ← List.map_append] at grown
  exact ⟨waits.sound.apply operation, hears, grown⟩

theorem Waits.run (waits : Waits subscription acc waiting) {operations : List Operation}
    (spared : ∀ operation ∈ operations, Spares subscription operation)
    (complete : .overflow ∉ announcedUntilEnd subscription acc operations) :
    Waits subscription (acc.run operations)
      (waiting ++ (acceptedOver acc operations).filter (·.container = subscription.container)) := by
  induction operations generalizing acc waiting with
  | nil => simpa [acceptedOver, Accumulator.run] using waits
  | cons operation rest ih =>
    rw [List.forall_mem_cons] at spared
    simp only [announcedUntilEnd, spared.1.1, Bool.false_eq_true, ↓reduceIte, List.mem_append, not_or] at complete
    have tail := ih (waits.apply spared.1 complete.1) spared.2 complete.2
    rw [acceptedOver, List.filter_append, ← List.append_assoc]
    exact tail

/-- The listener finds the first waiting event, or nothing. -/
theorem Waits.receive (waits : Waits subscription acc waiting) :
    (waiting = [] ∧ acc.receive subscription.token = (.pending, acc)) ∨
      ∃ event rest after, waiting = event :: rest ∧
        acc.receive subscription.token = (.message (.event event), after) ∧ Waits subscription after rest := by
  cases result : acc.receive subscription.token with
  | mk found after =>
    have still : after.Sound := by
      have sound := waits.sound.apply (.receive subscription.token)
      rwa [Accumulator.apply, result] at sound
    obtain ⟨hears, ⟨message, rfl, inbox⟩ | ⟨rfl, inbox, rfl⟩⟩ := waits.hears.receive waits.sound result
    · rw [waits.inbox_eq] at inbox
      obtain ⟨event, rest, rfl, rfl, remaining⟩ := List.map_eq_cons_iff.mp inbox
      exact .inr ⟨event, rest, after, rfl, rfl, still, hears, remaining.symm⟩
    · rw [waits.inbox_eq, List.map_eq_nil_iff] at inbox
      exact .inl ⟨inbox, rfl⟩

/-- A stopped aggregator records what waits and ends with its report. -/
theorem Waits.drain (waits : Waits subscription acc waiting) (container : ContainerId) (progress : Progress) :
    (Aggregator.runFor container true (3 + waiting.length) (.draining subscription progress) acc).1 =
      .ended (.ok (waiting.foldl Progress.record progress).report) := by
  induction waiting generalizing acc progress with
  | nil =>
    obtain ⟨-, result⟩ | ⟨event, rest, after, absurdity, -⟩ := waits.receive
    · simp [Aggregator.runFor, Aggregator.step?, Aggregator.drain?, Aggregator.leave?, result]
    · contradiction
  | cons event rest ih =>
    obtain ⟨absurdity, -⟩ | ⟨first, others, after, same, result, next⟩ := waits.receive
    · contradiction
    · obtain ⟨rfl, rfl⟩ := List.cons.inj same
      have tail := ih next (progress.record event)
      rw [List.length_cons, ← Nat.add_assoc, Aggregator.runFor]
      simpa [Aggregator.step?, Aggregator.drain?, result] using tail

theorem Waits.stop (waits : Waits subscription acc waiting) (container : ContainerId) (progress : Progress) :
    (Aggregator.run container true (.listening subscription progress) acc).1.outcome? =
      some (.ok (waiting.foldl Progress.record progress).report) := by
  have work : Aggregator.work (.listening subscription progress) acc = 3 + waiting.length + 1 := by
    simp only [Aggregator.work, waits.inbox_eq, List.length_map]
    omega
  have drained := waits.drain container progress
  rw [Aggregator.run, work, Aggregator.runFor]
  simp [Aggregator.step?, Aggregator.stop?, drained, Aggregator.outcome?]

/-! ## Beats -/

/-- The progress counts what has been received of these events; the others wait. -/
structure Listens (subscription : Subscription) (cached : Multiset Event) (events : List Event)
    (acc : Accumulator) (progress : Progress) : Prop where
  split : ∃ received waiting, received ++ waiting = events ∧ Waits subscription acc waiting ∧
    progress.Counts cached received

theorem coe_append_singleton (received : List Event) (event : Event) :
    ((received ++ [event] : List Event) : Multiset Event) = event ::ₘ received := by
  rw [Multiset.cons_coe, Multiset.coe_eq_coe]
  exact List.perm_append_singleton event received

theorem Listens.other (listens : Listens subscription cached events acc progress)
    (spares : Spares subscription operation)
    (complete : .overflow ∉ acc.announced subscription.container operation) :
    Listens subscription cached
      (events ++ (acc.accepted operation).filter (·.container = subscription.container)) (acc.apply operation)
      progress := by
  obtain ⟨received, waiting, rfl, waits, counts⟩ := listens.split
  exact ⟨received, _, (List.append_assoc ..).symm, waits.apply spares complete, counts⟩

theorem Listens.look (listens : Listens subscription cached events acc progress) :
    ∃ next, Aggregator.beat (.listening subscription progress, acc) .look =
        (.listening subscription next, acc.apply (.receive subscription.token)) ∧
      Listens subscription cached events (acc.apply (.receive subscription.token)) next := by
  obtain ⟨received, waiting, rfl, waits, counts⟩ := listens.split
  simp only [Aggregator.beat, Aggregator.receive?, Accumulator.apply]
  obtain ⟨rfl, result⟩ | ⟨event, rest, after, rfl, result, next⟩ := waits.receive
  · rw [result]
    exact ⟨progress, rfl, listens⟩
  · rw [result]
    refine ⟨progress.record event, rfl, received ++ [event], rest, by simp, next, ?_⟩
    rw [coe_append_singleton]
    exact counts.record event

/-- While an aggregator listens, it receives what is accepted for its container, now or later. -/
theorem Listens.beats (listens : Listens subscription cached events acc progress) {beats : List Beat}
    (spared : ∀ operation ∈ beats.filterMap Beat.other?, Spares subscription operation)
    (complete : .overflow ∉ announcedUntilEnd subscription acc (beats.map (Beat.operation subscription.token))) :
    ∃ next, beats.foldl Aggregator.beat (.listening subscription progress, acc) =
        (.listening subscription next, acc.run (beats.map (Beat.operation subscription.token))) ∧
      Listens subscription cached
        (events ++ (acceptedOver acc (beats.map (Beat.operation subscription.token))).filter
          (·.container = subscription.container))
        (acc.run (beats.map (Beat.operation subscription.token))) next := by
  induction beats generalizing acc events progress with
  | nil => exact ⟨progress, rfl, by simpa [acceptedOver, Accumulator.run] using listens⟩
  | cons beat rest ih =>
    cases beat with
    | other operation =>
      obtain ⟨spares, sparedRest⟩ := List.forall_mem_cons.mp spared
      simp only [List.map_cons, Beat.operation, announcedUntilEnd, spares.1, Bool.false_eq_true, ↓reduceIte,
        List.mem_append, not_or] at complete
      obtain ⟨next, same, after⟩ := ih (listens.other spares complete.1) sparedRest complete.2
      refine ⟨next, same, ?_⟩
      simp only [List.map_cons, Beat.operation, acceptedOver, List.filter_append, ← List.append_assoc]
      exact after
    | look =>
      obtain ⟨middle, looked, still⟩ := listens.look
      obtain ⟨next, same, after⟩ := ih still spared complete
      exact ⟨next, by rw [List.foldl_cons, looked]; exact same, after⟩

theorem Progress.Counts.foldl_record {received : List Event} (counts : progress.Counts cached received)
    (waiting : List Event) :
    (waiting.foldl Progress.record progress).Counts cached ((received ++ waiting : List Event) : Multiset Event) := by
  induction waiting generalizing progress received with
  | nil => simpa using counts
  | cons event rest ih =>
    have recorded := counts.record event
    rw [← coe_append_singleton] at recorded
    simpa using ih recorded

theorem waits_register (sound : acc.Sound) (container : ContainerId) :
    Waits (acc.register container).2 (acc.register container).1 [] where
  sound := sound.apply (.register container)
  hears := hears_register acc container
  inbox_eq := Live.inbox_register_self ..

/-- The report of a whole aggregation: what the replay found, and what was accepted since beyond that. -/
theorem exists_report (sound : acc.Sound) (container : ContainerId) (between : List Operation) (beats : List Beat) :
    let registered := acc.register container
    let since := between ++ beats.map (Beat.operation registered.2.token)
    (∀ operation ∈ between ++ beats.filterMap Beat.other?, Spares registered.2 operation) →
    .overflow ∉ announcedUntilEnd registered.2 registered.1 since →
    ∃ report, Aggregator.outcomeOf? container acc between beats = some (.ok report) ∧
      report.events = ((registered.1.run between).query container).length +
        (((acceptedOver registered.1 since).filter (·.container = container) : Multiset Event) -
          ((registered.1.run between).query container : Multiset Event)).card := by
  intro registered since spared complete
  obtain ⟨sparedBetween, sparedBeats⟩ := List.forall_mem_append.mp spared
  rw [announcedUntilEnd_append (fun operation member => (sparedBetween operation member).1), List.mem_append,
    not_or] at complete
  have waits := (waits_register sound container).run sparedBetween complete.1
  have listens : Listens registered.2 ((registered.1.run between).query container : Multiset Event)
      ((acceptedOver registered.1 between).filter (·.container = container)) (registered.1.run between)
      (.ofCache ((registered.1.run between).query container)) :=
    ⟨[], _, rfl, waits, Progress.counts_ofCache _⟩
  obtain ⟨next, reached, after⟩ := listens.beats sparedBeats complete.2
  obtain ⟨received, waiting, all, waits, counts⟩ := after.split
  refine ⟨(waiting.foldl Progress.record next).report, ?_, ?_⟩
  · have outcome : Aggregator.outcomeOf? container acc between beats =
        let stopped := beats.foldl Aggregator.beat
          (.listening registered.2 (.ofCache ((registered.1.run between).query container)), registered.1.run between)
        (stopped.1.run container true stopped.2).1.outcome? := rfl
    rw [outcome, reached]
    exact waits.stop container next
  · have total := (counts.foldl_record waiting).events_eq
    rw [all, show registered.2.container = container from rfl, ← List.filter_append, ← acceptedOver_append,
      Multiset.coe_card] at total
    exact total

/-! ## Events from before and after the registration -/

/-- An aggregation and everything around it: what is done to an empty accumulator before the container is
registered, until the replay, and until the stop. -/
structure Course where
  size : Nat
  container : ContainerId
  before : List Operation
  between : List Operation
  beats : List Beat

namespace Course

variable (course : Course)

/-- The accumulator before the registration. -/
def start : Accumulator := (Accumulator.empty course.size).run course.before

/-- The accumulator after the registration, and the handle of the registration. -/
def registered : Accumulator × Subscription := course.start.register course.container

/-- What is done between the registration and the stop. -/
def since : List Operation :=
  course.between ++ course.beats.map (Beat.operation course.registered.2.token)

def outcome? : Option Outcome :=
  Aggregator.outcomeOf? course.container course.start course.between course.beats

/-- Everything accepted before the registration. -/
def old : List Event := acceptedOver (.empty course.size) course.before

/-- Everything accepted between the registration and the replay. -/
def fresh : List Event := acceptedOver course.registered.1 course.between

/-- The container's arrivals that are in the ring at the replay. -/
def found : List Arrival := shown course.size (course.old ++ course.fresh) course.container

/-- The container's events that were accepted before the registration and are still there at the replay. -/
def early : List Event := (course.found.filter (·.2 < course.old.length)).map (·.1)

/-- The container's events that were accepted after the registration and are there at the replay. -/
def twofold : List Event := (course.found.filter (course.old.length ≤ ·.2)).map (·.1)

/-- The container's events that were accepted after the registration and before the stop. -/
def live : List Event := (acceptedOver course.registered.1 course.since).filter (·.container = course.container)

/-- Nobody else touches the registration and its inbox. -/
def IsSpared : Prop :=
  ∀ operation ∈ course.between ++ course.beats.filterMap Beat.other?, Spares course.registered.2 operation

instance : Decidable course.IsSpared :=
  inferInstanceAs (Decidable (∀ operation ∈ _, _))

/-- No overflow is announced between the registration and the stop. -/
def IsComplete : Prop :=
  .overflow ∉ announcedUntilEnd course.registered.2 course.registered.1 course.since

instance : Decidable course.IsComplete :=
  inferInstanceAs (Decidable (_ ∉ _))

variable {course : Course}

/-- What the replay finds is the query of the ring with everything accepted until then. -/
theorem query_eq (positive : 0 < course.size) :
    (course.registered.1.run course.between).query course.container = course.found.map (·.1) := by
  have started : course.start.Sound := (sound_empty positive).run course.before
  have registered : course.registered.1.Sound := started.apply (.register course.container)
  have ring : (course.registered.1.run course.between).ring =
      (Ring.empty course.size).insertAll (course.old ++ course.fresh) := by
    have same : course.registered.1.ring = (Ring.empty course.size).insertAll course.old :=
      (sound_empty positive).ring_run course.before
    rw [registered.ring_run, same, Ring.insertAll_append, fresh]
  rw [query, ring, found, map_shown]

/-- It finds events of both kinds. -/
theorem coe_found (course : Course) :
    (course.found.map (·.1) : Multiset Event) = (course.early : Multiset Event) + course.twofold := by
  have split := Multiset.filter_add_not (·.2 < course.old.length) (course.found : Multiset Arrival)
  have images := congrArg (Multiset.map Prod.fst) split
  rw [Multiset.map_add] at images
  simpa [early, twofold] using images.symm

/-- What was found of the later events is among them. -/
theorem twofold_le_live (course : Course) : (course.twofold : Multiset Event) ≤ course.live := by
  have inFresh := subperm_shown_later course.size course.old course.fresh course.container
  have inLive : (course.fresh.filter (·.container = course.container)).Sublist course.live := by
    rw [live, since, acceptedOver_append, List.filter_append]
    exact List.sublist_append_left _ _
  exact Multiset.coe_le.mpr (inFresh.trans inLive.subperm)

end Course

/-- Later events are counted unless they are taken for copies of what was found. -/
private theorem card_recount {early twofold live : Multiset Event} (among : twofold ≤ live) :
    (early + twofold).card + (live - (early + twofold)).card + (early ∩ (live - twofold)).card =
      early.card + live.card := by
  have remaining : live - (early + twofold) = live - twofold - early := by
    rw [Multiset.add_comm, Multiset.sub_add_eq_sub_sub]
  have parts : (live - twofold - early).card + (early ∩ (live - twofold)).card = (live - twofold).card := by
    rw [Multiset.inter_comm, ← Multiset.card_add, Multiset.sub_add_inter]
  have whole : (live - twofold).card + twofold.card = live.card := by
    rw [← Multiset.card_add, Multiset.sub_add_cancel among]
  rw [remaining, Multiset.card_add]
  omega

/-- No later event is left to be taken for an early one. -/
private theorem card_inter_eq_zero_iff {early twofold live : List Event} :
    ((early : Multiset Event) ∩ (live - twofold)).card = 0 ↔ ∀ event ∈ early, live.count event ≤ twofold.count event := by
  rw [Multiset.card_eq_zero, Multiset.eq_zero_iff_forall_notMem]
  simp only [Multiset.mem_inter, Multiset.mem_coe, Multiset.mem_sub, Multiset.coe_count, not_and, Nat.not_lt]

/-- An aggregation that is stopped without an overflow returns a report. It counts the container's events
that were accepted before the registration and are still there at the replay, and those accepted from the
registration until the stop, except those of the latter that the replay did not find and that are taken for
the live copies of equal events among the former. -/
theorem events_of_course (course : Course) (positive : 0 < course.size) (spared : course.IsSpared)
    (complete : course.IsComplete) :
    ∃ report, course.outcome? = some (.ok report) ∧
      report.events + ((course.early : Multiset Event) ∩ (course.live - course.twofold)).card =
        course.early.length + course.live.length ∧
      (report.events = course.early.length + course.live.length ↔
        ∀ event ∈ course.early, course.live.count event ≤ course.twofold.count event) := by
  obtain ⟨report, outcome, events⟩ :=
    exists_report ((sound_empty positive).run course.before) course.container course.between course.beats spared
      complete
  have total : report.events + ((course.early : Multiset Event) ∩ (course.live - course.twofold)).card =
      course.early.length + course.live.length := by
    have counted : report.events = ((course.registered.1.run course.between).query course.container).length +
        ((course.live : Multiset Event) - (course.registered.1.run course.between).query course.container).card := events
    rw [counted, ← Multiset.coe_card, Course.query_eq positive, Course.coe_found]
    exact card_recount course.twofold_le_live
  refine ⟨report, outcome, total, ?_⟩
  rw [← card_inter_eq_zero_iff]
  omega

private theorem valid_c : ContainerId.Valid "c" := by decide

private def writeLine (time : String) : List Char :=
  Text.joinWith separator
    [("2024-01-01T00:00:" ++ time).toList, ['c'], [], ['1'], ['2'], "write".toList, [], []]

/-- The first line comes again between the registration and the replay, and the second one after it. -/
private def repetitive : Course where
  size := 4
  container := ⟨"c", valid_c⟩
  before := [.ingest (writeLine "00.0"), .ingest (writeLine "01.0")]
  between := [.exclude ⟨"d", by decide⟩, .ingest (writeLine "00.0")]
  beats := [.look, .other (.ingest (writeLine "01.0")), .look, .other (.ingest (writeLine "02.0"))]

theorem events_of_repetitive :
    ∃ report, repetitive.outcome? = some (.ok report) ∧ report.events = 4 ∧
      repetitive.early.length = 2 ∧ repetitive.live.length = 3 := by
  have facts : repetitive.IsSpared ∧ repetitive.IsComplete ∧ repetitive.early.length = 2 ∧
      repetitive.live.length = 3 ∧
      ((repetitive.early : Multiset Event) ∩ (repetitive.live - repetitive.twofold)).card = 1 := by
    decide +kernel
  obtain ⟨spared, complete, early, live, mistaken⟩ := facts
  obtain ⟨report, outcome, total, -⟩ := events_of_course repetitive (by decide) spared complete
  exact ⟨report, outcome, by omega, early, live⟩

/-- A line comes before the registration and once more after the replay. -/
private def recurring : Course where
  size := 4
  container := ⟨"c", valid_c⟩
  before := [.ingest (writeLine "00.0")]
  between := []
  beats := [.other (.ingest (writeLine "00.0"))]

/-- The second of two equal events is not counted, although it was accepted after the replay. -/
theorem recurring_uncounted :
    0 < recurring.size ∧ recurring.IsSpared ∧ recurring.IsComplete ∧
      recurring.outcome? = some (.ok ⟨["write"], [], 1⟩) ∧ recurring.early.length = 1 ∧ recurring.live.length = 1 := by
  decide +kernel

end Observatory.Aggregation
