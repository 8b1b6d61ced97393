import Observatory.Proofs.Monitor.Lifecycle
import Observatory.Proofs.Vigil
import Mathlib.Algebra.Order.BigOperators.Group.List
import Mathlib.Algebra.Order.Ring.Nat

/-! # What is left to do

A monitor that goes on by itself has only so much to do. Main statement: each of its actions takes something off
a measure of what is left to do, and the bound that schedules use is larger than the measure.
-/

namespace Observatory

open Aggregation Accumulator

namespace Aggregation.Aggregator

/-- What is left to do for an aggregator depends on its own inbox only. -/
theorem work_congr {aggregator : Aggregator} {acc after : Accumulator}
    (inbox : ∀ subscription, aggregator.subscription? = some subscription →
      after.live.inbox subscription.token = acc.live.inbox subscription.token) :
    aggregator.work after = aggregator.work acc := by
  cases aggregator with
  | created | leaving | ended => rfl
  | subscribed subscription | listening subscription progress | draining subscription progress =>
    simp only [work, inbox subscription rfl]

end Aggregation.Aggregator

namespace Monitor

section Moves

variable {container : ContainerId} {stopped : Bool} {acc after : Accumulator} {move : Move}
  {aggregator moved : Aggregator}

private theorem inbox_of_message {token : Nat} {message : Trace.Message}
    (result : acc.receive token = (.message message, after)) :
    acc.live.inbox token = message :: after.live.inbox token := by
  have found : (acc.live.receive token).1 = .message message := congrArg Prod.fst result
  have live : (acc.live.receive token).2 = after.live := congrArg (·.2.live) result
  cases waiting : acc.live.inbox token with
  | nil =>
    rw [Live.receive_of_inbox_nil waiting] at found
    dsimp only at found
    split at found <;> contradiction
  | cons first rest =>
    obtain ⟨received, left⟩ := Live.receive_of_inbox_cons waiting
    rw [← live, left, Received.message.inj (received.symm.trans found)]

/-- A move brings an aggregator closer to its end. -/
theorem Moved.work_lt (moves : Moved container stopped acc move aggregator moved after) :
    moved.work after < aggregator.work acc := by
  cases moves with
  | subscribed =>
    have fresh : (acc.register container).1.live.inbox (acc.register container).2.token = [] :=
      Live.inbox_register_self acc.live container
    simp [Aggregator.work, fresh]
  | replayed | heeded | left => simp [Aggregator.work]
  | received _ _ _ result | drained _ _ _ result | skipped _ _ result =>
    simp [Aggregator.work, inbox_of_message result]
  | overflowed | closed | completed =>
    simp only [Aggregator.work]
    omega

/-- A move leaves the inboxes of others alone. -/
theorem Moved.inbox_eq (moves : Moved container stopped acc move aggregator moved after) {token : Nat}
    (issued : token < acc.live.nextToken)
    (foreign : ∀ subscription, aggregator.subscription? = some subscription → token ≠ subscription.token) :
    after.live.inbox token = acc.live.inbox token := by
  have received (subscription : Subscription) (subscribed : aggregator.subscription? = some subscription)
      {found : Received} (result : acc.receive subscription.token = (found, after)) :
      after.live.inbox token = acc.live.inbox token := by
    obtain ⟨-, rfl⟩ := Prod.mk.inj result
    exact (Live.receive_frame acc.live subscription.token).2.2.2 token (foreign subscription subscribed)
  cases moves with
  | subscribed => exact Live.inbox_register issued
  | replayed | heeded => rfl
  | received subscription _ _ result | drained subscription _ _ result | overflowed subscription _ result
  | closed subscription _ result | skipped subscription _ result | completed subscription _ _ result =>
    exact received subscription rfl result
  | left subscription outcome =>
    have dropped : ((acc.live.unregister subscription).dropInbox subscription.token).inbox token = _ :=
      Live.inbox_dropInbox (foreign subscription rfl)
    simpa [Accumulator.dropInbox, Accumulator.unregister, Live.inbox] using dropped

end Moves

end Monitor

namespace Monitor

variable {monitor next : Monitor} {action : Action} {observation old new other : Observation} {serial : Nat}
  {before after active : List Observation}

/-! ## One among the observations -/

/-- An observation with those that began before it and after it. -/
structure Among (active : List Observation) (old : Observation) (before after : List Observation) : Prop where
  split : active = before ++ old :: after
  others : ∀ other ∈ before ++ after, other.serial ≠ old.serial

theorem Separate.among (separate : monitor.Separate) (member : old ∈ monitor.active) :
    ∃ before after, Among monitor.active old before after := by
  obtain ⟨before, after, split⟩ := List.append_of_mem member
  refine ⟨before, after, split, fun other found => ?_⟩
  have apart := separate.apart
  rw [split] at apart
  obtain ⟨-, later, across⟩ := List.pairwise_append.mp apart
  rcases List.mem_append.mp found with isBefore | isAfter
  · exact (across other isBefore old (List.mem_cons_self ..)).serial
  · exact ((List.pairwise_cons.mp later).1 other isAfter).serial.symm

theorem Among.mem (among : Among active old before after) : old ∈ active := by simp [among.split]

theorem Among.replace (among : Among active old before after) (serial : new.serial = old.serial) :
    (active.map fun other => if other.serial = new.serial then new else other) = before ++ new :: after := by
  have unchanged (part : List Observation) (others : ∀ other ∈ part, other.serial ≠ old.serial) :
      (part.map fun other => if other.serial = new.serial then new else other) = part := by
    refine (List.map_congr_left fun other found => ?_).trans (List.map_id _)
    exact if_neg (serial ▸ others other found)
  have first := unchanged before fun other found => among.others other (List.mem_append_left _ found)
  have second := unchanged after fun other found => among.others other (List.mem_append_right _ found)
  rw [among.split, List.map_append, List.map_cons, if_pos serial.symm, first, second]

theorem Among.filter (among : Among active old before after) :
    active.filter (·.serial ≠ old.serial) = before ++ after := by
  have first : before.filter (·.serial ≠ old.serial) = before := by
    simpa using fun other found => among.others other (List.mem_append_left _ found)
  have second : after.filter (·.serial ≠ old.serial) = after := by
    simpa using fun other found => among.others other (List.mem_append_right _ found)
  rw [among.split, List.filter_append, List.filter_cons_of_neg (by simp), first, second]

private theorem Among.sum_others {f g : Observation → Nat} (among : Among active old before after)
    (others : ∀ other ∈ active, other.serial ≠ old.serial → g other ≤ f other) :
    (before.map g).sum + (after.map g).sum + f old ≤ (active.map f).sum := by
  have first : (before.map g).sum ≤ (before.map f).sum := List.sum_le_sum fun other found =>
    others other (by simp [among.split, found]) (among.others other (List.mem_append_left _ found))
  have second : (after.map g).sum ≤ (after.map f).sum := List.sum_le_sum fun other found =>
    others other (by simp [among.split, found]) (among.others other (List.mem_append_right _ found))
  rw [among.split]
  simp only [List.map_append, List.map_cons, List.sum_append, List.sum_cons]
  omega

theorem Among.sum_replace {f g : Observation → Nat} (among : Among active old before after)
    (serial : new.serial = old.serial)
    (others : ∀ other ∈ active, other.serial ≠ old.serial → g other ≤ f other) :
    ((active.map fun other => if other.serial = new.serial then new else other).map g).sum + f old ≤
      (active.map f).sum + g new := by
  have rest := among.sum_others others
  rw [among.replace serial]
  simp only [List.map_append, List.map_cons, List.sum_append, List.sum_cons]
  omega

theorem Among.sum_filter {f g : Observation → Nat} (among : Among active old before after)
    (others : ∀ other ∈ active, other.serial ≠ old.serial → g other ≤ f other) :
    ((active.filter (·.serial ≠ old.serial)).map g).sum + f old ≤ (active.map f).sum := by
  have rest := among.sum_others others
  rw [among.filter]
  simp only [List.map_append, List.sum_append]
  omega

end Monitor

/-! ## What is left to do -/

/-- The sender waits for a place, or has one that is kept for it. -/
def TaskQueue.knows (queue : TaskQueue) (sender : Nat) : Bool := sender ∈ queue.granted ++ queue.waiting

namespace TaskQueue

variable {queue after : TaskQueue} {sender other : Nat} {task : Task}

/-- What becomes of a queue that is offered a task, and whether the task went in. -/
inductive Offered (queue : TaskQueue) (sender : Nat) (task : Task) : TaskQueue → Bool → Prop
  | granted (member : sender ∈ queue.granted) :
      Offered queue sender task
        { queue with tasks := queue.tasks ++ [task], granted := queue.granted.erase sender } true
  | free (fresh : sender ∉ queue.granted) (room : queue.hasRoom = true) :
      Offered queue sender task { queue with tasks := queue.tasks ++ [task] } true
  | full (fresh : sender ∉ queue.granted) (room : queue.hasRoom = false) :
      Offered queue sender task { queue with waiting := queue.waiting ++ [sender] } false

theorem offered_of_offer {accepted : Bool} (offers : queue.offer sender task = (after, accepted)) :
    Offered queue sender task after accepted := by
  unfold offer at offers
  split at offers
  · rename_i member
    obtain ⟨rfl, rfl⟩ := Prod.mk.inj offers
    exact .granted member
  · rename_i fresh
    split at offers
    · rename_i room
      obtain ⟨rfl, rfl⟩ := Prod.mk.inj offers
      exact .free fresh room
    · rename_i full
      obtain ⟨rfl, rfl⟩ := Prod.mk.inj offers
      exact .full fresh (by simpa using full)

/-- An offer concerns its sender only. -/
theorem Offered.knows {accepted : Bool} (offered : Offered queue sender task after accepted)
    (differs : other ≠ sender) : after.knows other = queue.knows other := by
  cases offered with
  | granted member => simp [TaskQueue.knows, List.mem_erase_of_ne differs]
  | free fresh room => rfl
  | full fresh room => simp [TaskQueue.knows, differs]

theorem Offered.distinct {accepted : Bool} (offered : Offered queue sender task after accepted)
    (distinct : (queue.granted ++ queue.waiting).Nodup) (unblocked : sender ∉ queue.waiting) :
    (after.granted ++ after.waiting).Nodup := by
  cases offered with
  | granted member => exact distinct.sublist (List.erase_sublist.append_right _)
  | free fresh room => exact distinct
  | full fresh room =>
    rw [← List.append_assoc]
    refine distinct.append (List.nodup_singleton sender) ?_
    simp [fresh, unblocked]

/-- A sender whose task went in does not wait any longer. -/
theorem Offered.mem_senders (offered : Offered queue sender task after true)
    (distinct : (queue.granted ++ queue.waiting).Nodup) (unblocked : sender ∉ queue.waiting)
    (member : other ∈ after.granted ++ after.waiting) :
    other ∈ queue.granted ++ queue.waiting ∧ other ≠ sender := by
  cases offered with
  | granted granted =>
    rcases List.mem_append.mp member with still | waits
    · obtain ⟨differs, before⟩ := (List.Nodup.mem_erase_iff (List.Nodup.of_append_left distinct)).mp still
      exact ⟨List.mem_append_left _ before, differs⟩
    · exact ⟨List.mem_append_right _ waits, fun same => unblocked (same ▸ waits)⟩
  | free fresh room =>
    refine ⟨member, ?_⟩
    rintro rfl
    rcases List.mem_append.mp member with granted | waits
    · exact fresh granted
    · exact unblocked waits

/-- There is no room as long as someone waits. -/
theorem Offered.hasRoom {accepted : Bool} (offered : Offered queue sender task after accepted)
    (full : queue.waiting ≠ [] → queue.hasRoom = false) (some : after.waiting ≠ []) : after.hasRoom = false := by
  cases offered with
  | granted member =>
    have none := full some
    have positive := List.length_pos_of_mem member
    simp only [TaskQueue.hasRoom, List.length_append, List.length_singleton, List.length_erase_of_mem member,
      decide_eq_false_iff_not] at none ⊢
    omega
  | free fresh room => exact absurd (room.symm.trans (full some)) (by decide)
  | full fresh room => exact room

/-- A place that becomes free is kept for the sender that has waited longest. -/
theorem senders_of_take? (taken : queue.take? = some (task, after)) :
    after.granted ++ after.waiting = queue.granted ++ queue.waiting := by
  unfold take? at taken
  split at taken
  · contradiction
  · split at taken <;> obtain ⟨-, rfl⟩ := Prod.mk.inj (Option.some.inj taken)
    · rfl
    · rename_i waiting
      simp [waiting]

/-- There is no more room than before when someone still waits. -/
theorem hasRoom_of_take? (taken : queue.take? = some (task, after)) (some : after.waiting ≠ []) :
    queue.waiting ≠ [] ∧ after.hasRoom = queue.hasRoom := by
  unfold take? at taken
  split at taken
  · contradiction
  · rename_i tasks
    split at taken <;> rename_i waiting <;> obtain ⟨-, rfl⟩ := Prod.mk.inj (Option.some.inj taken)
    · exact absurd waiting some
    · refine ⟨by simp [waiting], ?_⟩
      simp only [hasRoom, tasks, List.length_append, List.length_cons, List.length_nil]
      congr 2
      omega

end TaskQueue

/-- How many actions a worker needs at most before it is idle. -/
def Worker.effort : Worker → Nat
  | .absent | .idle => 0
  | .preparing .. => 2
  | .storing .. => 1

namespace Monitor

/-- How many actions an observation needs at most. A task that is not yet sent needs five: its sender may have to
wait, then sends it, and the worker takes it, derives its artifact and has it stored. -/
def effortOf (monitor : Monitor) (observation : Observation) : Nat :=
  observation.aggregator.work monitor.accumulator + (if observation.phase = .watching then 1 else 0) +
    (if observation.aggregation.isPending then 11 else 0) +
    (5 * observation.unsent.length - (monitor.queue.knows observation.serial).toNat)

/-- How many actions are left at most beside those of the observations. -/
def overhead (monitor : Monitor) : Nat :=
  3 * monitor.queue.tasks.length + monitor.worker.effort + monitor.inquiries.length

/-- How many actions are left at most before the monitor is quiet. -/
def effort (monitor : Monitor) : Nat :=
  (monitor.active.map monitor.effortOf).sum + monitor.overhead

variable {monitor next : Monitor} {action : Action} {observation old new other : Observation} {serial : Nat}
  {before after active : List Observation}

theorem effortOf_congr (accumulator : next.accumulator = monitor.accumulator)
    (known : next.queue.knows observation.serial = monitor.queue.knows observation.serial) :
    next.effortOf observation = monitor.effortOf observation := by
  simp only [effortOf, accumulator, known]

/-- One observation is changed. -/
theorem effort_replaced (among : Among monitor.active old before after)
    (active : next.active = (monitor.replace new).active) (serial : new.serial = old.serial)
    (others : ∀ other ∈ monitor.active, other.serial ≠ old.serial → next.effortOf other ≤ monitor.effortOf other) :
    next.effort + (monitor.effortOf old + monitor.overhead) ≤ monitor.effort + (next.effortOf new + next.overhead) := by
  have sum := among.sum_replace serial others
  simp only [effort, active, replace]
  omega

/-- One observation ends. -/
theorem effort_removed (among : Among monitor.active old before after)
    (active : next.active = monitor.active.filter (·.serial ≠ old.serial))
    (others : ∀ other ∈ monitor.active, other.serial ≠ old.serial → next.effortOf other ≤ monitor.effortOf other) :
    next.effort + (monitor.effortOf old + monitor.overhead) ≤ monitor.effort + next.overhead := by
  have sum := among.sum_filter others
  simp only [effort, active]
  omega

/-! ## One action -/

/-- A scan has its result. -/
private theorem effort_change {base : Monitor} {inquiry : Inquiry} {f : Observation → Observation}
    (separate : monitor.Separate) (member : inquiry ∈ monitor.inquiries)
    (same : base.active = monitor.active ∧ base.accumulator = monitor.accumulator ∧ base.queue = monitor.queue ∧
      base.worker = monitor.worker ∧ base.inquiries = monitor.inquiries.erase inquiry)
    (revises : ∀ observation, (f observation).serial = observation.serial ∧
      monitor.effortOf (f observation) = monitor.effortOf observation) :
    (base.change serial f).effort < monitor.effort := by
  obtain ⟨active, accumulator, queue, worker, inquiries⟩ := same
  have fewer : base.overhead < monitor.overhead := by
    have positive := List.length_pos_of_mem member
    simp only [overhead, queue, worker, inquiries, List.length_erase_of_mem member]
    omega
  have unchanged (observation : Observation) : base.effortOf observation = monitor.effortOf observation :=
    effortOf_congr accumulator (by rw [queue])
  unfold change
  cases found : base.observation? serial with
  | none =>
    have sum : base.active.map base.effortOf = monitor.active.map monitor.effortOf := by
      rw [active]
      exact List.map_congr_left fun observation _ => unchanged observation
    simp only [effort, sum]
    omega
  | some observation =>
    obtain ⟨memberOld, -⟩ := mem_active_of_observation? found
    obtain ⟨before, after, among⟩ := separate.among (active ▸ memberOld)
    obtain ⟨serial, same⟩ := revises observation
    have replacedActive : (base.replace (f observation)).active = (monitor.replace (f observation)).active := by
      simp only [replace, active]
    have replaced := effort_replaced among replacedActive serial fun other _ _ => Nat.le_of_eq (unchanged other)
    have own : (base.replace (f observation)).effortOf (f observation) = monitor.effortOf observation :=
      (unchanged _).trans same
    have kept : (base.replace (f observation)).overhead = base.overhead := rfl
    dsimp only
    omega

/-- The aggregator of an observation has moved. -/
private theorem effort_aggregate {move : Move} (separate : monitor.Separate)
    (stepped : monitor.aggregate? serial move = some next) : next.effort < monitor.effort := by
  obtain ⟨old, aggregator, acc, found, moved, same⟩ := aggregate?_spec stepped
  obtain ⟨member, rfl⟩ := mem_active_of_observation? found
  obtain ⟨before, after, among⟩ := separate.among member
  have replaced : next.effort + (monitor.effortOf old + monitor.overhead) ≤
      monitor.effort + (next.effortOf { old with aggregator := aggregator } + next.overhead) := by
    refine effort_replaced among (by rw [same]; rfl) rfl fun other memberOther differs => ?_
    have apart : other.Apart old := separate.apart_of_ne memberOther member fun same => differs (by rw [same])
    have untouched : other.aggregator.work acc = other.aggregator.work monitor.accumulator :=
      Aggregator.work_congr fun subscription subscribed =>
        moved.inbox_eq ((separate.fits other memberOther).subscribed subscription subscribed).2
          (apart.token subscription subscribed)
    simp only [same, effortOf, replace, untouched]
    exact Nat.le_refl _
  have own := moved.work_lt
  have less : next.effortOf { old with aggregator := aggregator } < monitor.effortOf old := by
    simp only [same, effortOf, replace]
    omega
  have kept : next.overhead = monitor.overhead := by rw [same]; rfl
  omega

private theorem effort_expire (separate : monitor.Separate)
    (stepped : monitor.expire? serial = some next) : next.effort < monitor.effort := by
  obtain ⟨old, found, watching, -, rfl⟩ := expire?_spec stepped
  obtain ⟨before, after, among⟩ := separate.among (mem_active_of_observation? found).1
  have replaced : (monitor.enter old .stoppedByTimer).effort + (monitor.effortOf old + monitor.overhead) ≤
      monitor.effort + (monitor.effortOf { old with phase := .stoppedByTimer } + monitor.overhead) :=
    effort_replaced among rfl rfl fun other _ _ => Nat.le_refl _
  have less : monitor.effortOf { old with phase := .stoppedByTimer } < monitor.effortOf old := by
    simp only [effortOf, watching, reduceCtorEq, ↓reduceIte]
    omega
  omega

private theorem effort_abort (separate : monitor.Separate)
    (stepped : monitor.abort? serial = some next) : next.effort < monitor.effort := by
  obtain ⟨old, outcome, aborted, found, -, watching, -, -, reached⟩ := abort?_spec stepped
  obtain ⟨member, rfl⟩ := mem_active_of_observation? found
  obtain ⟨before, after, among⟩ := separate.among member
  have removed := effort_removed among (active_abort? stepped) fun other _ _ => reached ▸ Nat.le_refl _
  have positive : 0 < monitor.effortOf old := by
    simp only [effortOf, watching, ↓reduceIte]
    omega
  have kept : next.overhead = monitor.overhead := by rw [reached]; rfl
  omega

theorem length_services_le (services : EnabledServices) : services.toList.length ≤ 2 := by
  obtain ⟨relevantCves, containerProfiling⟩ := services
  cases relevantCves <;> cases containerProfiling <;> decide

private theorem effort_report (separate : monitor.Separate)
    (stepped : monitor.report? serial = some next) : next.effort < monitor.effort := by
  obtain ⟨old, outcome, notice, reported, found, -, -, pending, -, same, outcomes⟩ := report?_spec stepped
  obtain ⟨before, after, among⟩ := separate.among (mem_active_of_observation? found).1
  have serial : reported.serial = old.serial := by rw [same]
  have many : 11 + (monitor.effortOf reported - 10) ≤ monitor.effortOf old := by
    have services := length_services_le monitor.policy.services
    simp only [same, effortOf, Completion.isPending, Completion.complete, pending, Option.isNone_none, ↓reduceIte,
      Option.none_or, Option.isNone_some, Bool.false_eq_true]
    omega
  obtain ⟨-, reached⟩ | ⟨-, reached⟩ := outcomes
  · have active : next.active = monitor.active.filter (·.serial ≠ old.serial) := by
      rw [reached, ← serial]
      exact filter_active_replace monitor reported
    have removed := effort_removed among active fun other _ _ => reached ▸ Nat.le_refl _
    have kept : next.overhead = monitor.overhead := by rw [reached]; rfl
    omega
  · have replaced := effort_replaced among (show next.active = _ by rw [reached]; rfl) serial fun other _ _ =>
      reached ▸ Nat.le_refl _
    have own : next.effortOf reported = monitor.effortOf reported := by rw [reached]; rfl
    have kept : next.overhead = monitor.overhead := by rw [reached]; rfl
    omega

/-- A task is done. -/
private theorem effort_concludeTask (base : Monitor) (among : Among base.active old before after) (failed : Bool) :
    (base.concludeTask old failed).effort ≤ base.effort := by
  generalize reached : base.concludeTask old failed = next
  by_cases last : old.pendingTasks = 1
  · have concluded : next = (base.replace (old.taskDone failed).1).finish (old.taskDone failed).1
        (.completed (old.taskDone failed).1.failedTasks) := by
      simp [← reached, concludeTask, Observation.taskDone, last]
    have active : next.active = base.active.filter (·.serial ≠ old.serial) := by
      rw [concluded]
      exact filter_active_replace base (old.taskDone failed).1
    have removed := effort_removed among active fun other _ _ => concluded ▸ Nat.le_refl _
    have kept : next.overhead = base.overhead := by rw [concluded]; rfl
    omega
  · have concluded : next = base.replace (old.taskDone failed).1 := by
      simp [← reached, concludeTask, Observation.taskDone, last]
    have replaced : next.effort + (base.effortOf old + base.overhead) ≤
        base.effort + (next.effortOf (old.taskDone failed).1 + next.overhead) :=
      effort_replaced among (by rw [concluded]) rfl fun other _ _ => concluded ▸ Nat.le_refl _
    have own : next.effortOf (old.taskDone failed).1 = base.effortOf old := by rw [concluded]; rfl
    have kept : next.overhead = base.overhead := by rw [concluded]; rfl
    omega

private theorem effort_send (kept : monitor.Kept) (stepped : monitor.send? serial = some next) :
    next.effort < monitor.effort := by
  obtain ⟨old, service, unsent, found, announced, ⟨-, unblocked, queue, offers⟩ | ⟨closed, -⟩⟩ := send?_spec stepped
  · obtain ⟨member, rfl⟩ := mem_active_of_observation? found
    obtain ⟨before, after, among⟩ := kept.among member
    have length : old.unsent.length = unsent.length + 1 := by rw [announced, List.length_cons]
    obtain ⟨accepted, reached⟩ | ⟨refused, reached⟩ := offers
    · have offered := TaskQueue.offered_of_offer accepted
      have replaced : next.effort + (monitor.effortOf old + monitor.overhead) ≤
          monitor.effort + (next.effortOf { old with unsent := unsent } + next.overhead) := by
        refine effort_replaced among (by rw [reached]; rfl) rfl fun other _ differs => Nat.le_of_eq ?_
        exact effortOf_congr (by rw [reached]; rfl) (by rw [reached]; exact offered.knows differs)
      have own : next.effortOf { old with unsent := unsent } + 4 ≤ monitor.effortOf old := by
        have atMost := Bool.toNat_le (monitor.queue.knows old.serial)
        simp only [reached, effortOf, replace, length]
        omega
      have longer : next.overhead = monitor.overhead + 3 := by
        simp only [reached, overhead, replace, (TaskQueue.tasks_of_accepted accepted).1, List.length_append,
          List.length_singleton]
        omega
      omega
    · have offered := TaskQueue.offered_of_offer refused
      have replaced : next.effort + (monitor.effortOf old + monitor.overhead) ≤
          monitor.effort + (next.effortOf old + next.overhead) := by
        refine effort_replaced among ?_ rfl fun other _ differs => Nat.le_of_eq ?_
        · rw [reached]
          exact among.split.trans (among.replace rfl).symm
        · exact effortOf_congr (by rw [reached]) (by rw [reached]; exact offered.knows differs)
      have own : next.effortOf old < monitor.effortOf old := by
        have unknown : monitor.queue.knows old.serial = false := by
          simp only [TaskQueue.isBlocked, decide_eq_false_iff_not] at unblocked
          cases offered with
          | full fresh => simp [TaskQueue.knows, fresh, unblocked]
        have known : queue.knows old.serial = true := by
          cases offered with
          | full => simp [TaskQueue.knows]
        simp only [reached, effortOf, unknown, known, length, Bool.toNat_true, Bool.toNat_false]
        omega
      have kept : next.overhead = monitor.overhead := by
        simp only [reached, overhead, (TaskQueue.tasks_of_refused refused).1]
      omega
  · exact absurd (kept.isOpen.symm.trans closed) (by decide)

private theorem effort_take (separate : monitor.Separate) (stepped : monitor.take? = some next) :
    next.effort < monitor.effort := by
  obtain ⟨task, queue, idle, taken, outcomes⟩ := take?_spec stepped
  have fewer := congrArg List.length (TaskQueue.tasks_of_take? taken).1
  have known (sender : Nat) : queue.knows sender = monitor.queue.knows sender := by
    simp only [TaskQueue.knows, TaskQueue.senders_of_take? taken]
  obtain ⟨-, reached⟩ | ⟨old, observed, reached⟩ := outcomes
  · have same (observation : Observation) : next.effortOf observation = monitor.effortOf observation :=
      effortOf_congr (by rw [reached]; rfl) (by rw [reached]; exact known _)
    have sum : next.active.map next.effortOf = monitor.active.map monitor.effortOf := by
      rw [show next.active = monitor.active by rw [reached]; rfl]
      exact List.map_congr_left fun observation _ => same observation
    have less : next.overhead < monitor.overhead := by
      simp only [reached, overhead, write, idle, Worker.effort, fewer, List.length_cons]
      omega
    simp only [effort, sum]
    omega
  · obtain ⟨before, after, among⟩ := separate.among (List.mem_of_find?_eq_some observed)
    have replaced : next.effort + (monitor.effortOf old + monitor.overhead) ≤
        monitor.effort + (next.effortOf { old with phase := .pipelineRunning } + next.overhead) := by
      refine effort_replaced among (by rw [reached]; rfl) rfl fun other _ _ => Nat.le_of_eq ?_
      exact effortOf_congr (by rw [reached]; rfl) (by rw [reached]; exact known _)
    have own : next.effortOf { old with phase := .pipelineRunning } ≤ monitor.effortOf old := by
      simp only [reached, effortOf, enter, write, replace, known, reduceCtorEq, ↓reduceIte]
      omega
    have less : next.overhead < monitor.overhead := by
      simp only [reached, overhead, enter, write, replace, idle, Worker.effort, fewer, List.length_cons]
      omega
    omega

/-- Only the worker has gone on. -/
private theorem effort_worker (active : next.active = monitor.active)
    (accumulator : next.accumulator = monitor.accumulator) (queue : next.queue = monitor.queue)
    (inquiries : next.inquiries = monitor.inquiries) :
    next.effort + monitor.worker.effort = monitor.effort + next.worker.effort := by
  have sum : next.active.map next.effortOf = monitor.active.map monitor.effortOf := by
    rw [active]
    exact List.map_congr_left fun observation _ => effortOf_congr accumulator (by rw [queue])
  simp only [effort, overhead, sum, queue, inquiries]
  omega

private theorem effort_prepare (separate : monitor.Separate) (stepped : monitor.prepare? = some next) :
    next.effort < monitor.effort := by
  obtain ⟨serial, task, old, busy, found, ⟨derived, -, reached⟩ | ⟨reason, -, reached⟩⟩ := prepare?_spec stepped
  · have same : next.effort + monitor.worker.effort = monitor.effort + next.worker.effort := by
      refine effort_worker ?_ ?_ ?_ ?_ <;> rw [reached] <;> rfl
    rw [show next.worker = _ from congrArg Monitor.worker reached, busy] at same
    simp only [Worker.effort] at same
    omega
  · obtain ⟨before, after, among⟩ := separate.among (mem_active_of_observation? found).1
    let base := { monitor with worker := .idle }.write [.notice (.taskFailed task reason)]
    have concluded : next.effort ≤ base.effort := reached ▸ effort_concludeTask base among true
    have same : base.effort + monitor.worker.effort = monitor.effort + base.worker.effort := effort_worker rfl rfl rfl rfl
    rw [busy, show base.worker = .idle from rfl] at same
    simp only [Worker.effort] at same
    omega

private theorem effort_stored {result : Except String Unit} (separate : monitor.Separate)
    (stepped : monitor.stored? result = some next) : next.effort < monitor.effort := by
  obtain ⟨serial, task, artifact, since, old, entries, failed, busy, found, -, -, reached⟩ := stored?_spec stepped
  obtain ⟨before, after, among⟩ := separate.among (mem_active_of_observation? found).1
  let base := { monitor with worker := .idle }.write entries
  have concluded : next.effort ≤ base.effort := reached ▸ effort_concludeTask base among failed
  have same : base.effort + monitor.worker.effort = monitor.effort + base.worker.effort := effort_worker rfl rfl rfl rfl
  rw [busy, show base.worker = .idle from rfl] at same
  simp only [Worker.effort] at same
  omega

/-- Whatever a monitor does by itself, less is left to do. -/
theorem Kept.effort_lt (kept : monitor.Kept) (scheduled : action.isScheduled = true)
    (stepped : monitor.step? action = some next) : next.effort < monitor.effort := by
  cases action with
  | ingest | exclude | intrude | elapse | request | enroll | hire | divert | closeQueue | forgetPod | retainPods =>
    contradiction
  | sbomReady serial result =>
    obtain ⟨inquiry, entries, asked, -, rfl⟩ := sbomReady?_spec stepped
    exact effort_change kept.toSeparate (List.mem_of_find?_eq_some asked) ⟨rfl, rfl, rfl, rfl, rfl⟩
      fun observation => ⟨rfl, rfl⟩
  | vulnerabilitiesReady serial result =>
    obtain ⟨inquiry, entries, asked, -, rfl⟩ := vulnerabilitiesReady?_spec stepped
    exact effort_change kept.toSeparate (List.mem_of_find?_eq_some asked) ⟨rfl, rfl, rfl, rfl, rfl⟩
      fun observation => ⟨rfl, rfl⟩
  | aggregate serial move => exact effort_aggregate kept.toSeparate stepped
  | expire serial => exact effort_expire kept.toSeparate stepped
  | abort serial => exact effort_abort kept.toSeparate stepped
  | report serial => exact effort_report kept.toSeparate stepped
  | send serial => exact effort_send kept stepped
  | take => exact effort_take kept.toSeparate stepped
  | prepare => exact effort_prepare kept.toSeparate stepped
  | stored result => exact effort_stored kept.toSeparate stepped

/-- The bound that schedules use is large enough. -/
theorem Kept.effort_lt_work (kept : monitor.Kept) : monitor.effort < monitor.work := by
  have each : ∀ observation ∈ monitor.active,
      monitor.effortOf observation ≤ observation.aggregator.work monitor.accumulator + 16 := by
    intro observation member
    have stands := kept.accounted.stands observation member
    have services := length_services_le monitor.policy.services
    have few : observation.unsent.length ≤ 2 := by
      have suffix := stands.ordered.length_le
      simp only [Books.outstanding, List.length_append] at suffix
      exact Nat.le_trans (by omega) (Nat.le_trans suffix services)
    by_cases pending : observation.aggregation.result = none
    · have unsent : observation.unsent = [] := by
        have nothing := (stands.unannounced pending).2
        simp only [Books.outstanding, List.append_eq_nil_iff] at nothing
        exact nothing.2
      simp only [effortOf, Completion.isPending, pending, unsent, Option.isNone_none, ↓reduceIte, List.length_nil]
      split <;> omega
    · have reported : observation.aggregation.isPending = false := by
        simpa [Completion.isPending] using Option.isSome_iff_ne_none.mpr pending
      simp only [effortOf, reported, Bool.false_eq_true, ↓reduceIte]
      split <;> omega
  have sum := List.sum_le_sum each
  have worker : monitor.worker.effort ≤ 2 := by cases monitor.worker <;> simp [Worker.effort]
  simp only [effort, overhead, work, ← List.sum_eq_foldl] at sum ⊢
  omega

end Monitor

end Observatory
