import Observatory.Proofs.Delivery
import Observatory.Proofs.Trace.Grammar

/-! # Excluded containers

Whose line it is can be told by two cuts, without reading its fields. Main statements: the two cuts agree with
the reading of the line, the lines of excluded containers are the only ones that are passed over, and they
leave no trace, so that two histories lead to the same state if they differ only by such lines.
-/

namespace Observatory

open Trace

namespace Trace

variable {line id : List Char} {event : Event}

/-- A line is somebody's if it has a third piece, and the second piece says whose. -/
theorem emitter?_eq_some_iff :
    emitter? line = some id ↔ ∃ first rest, Text.splitOn separator line = first :: id :: rest ∧ rest ≠ [] := by
  have solid := unbordered_separator.1
  simp only [emitter?, Option.bind_eq_bind, Option.bind_eq_some_iff, Prod.exists, Option.pure_def, Option.some.injEq]
  constructor
  · rintro ⟨first, after, cut, found, last, again, rfl⟩
    refine ⟨first, Text.splitOn separator last, ?_, Text.splitOn_ne_nil solid last⟩
    simp only [Text.splitOn_eq solid line, cut, Text.splitOn_eq solid after, again]
  · rintro ⟨first, rest, pieces, more⟩
    rw [Text.splitOn_eq solid] at pieces
    cases cut : Text.splitOnce separator line with
    | none => simp [cut] at pieces
    | some parts =>
      obtain ⟨before, after⟩ := parts
      simp only [cut, List.cons.injEq] at pieces
      obtain ⟨-, pieces⟩ := pieces
      rw [Text.splitOn_eq solid] at pieces
      cases again : Text.splitOnce separator after with
      | none =>
        simp only [again, List.cons.injEq] at pieces
        exact absurd pieces.2.symm more
      | some parts =>
        obtain ⟨found, last⟩ := parts
        simp only [again, List.cons.injEq] at pieces
        exact ⟨before, after, rfl, found, last, again, pieces.1⟩

/-- A line is emitted by the container that it has in its second field. -/
theorem isEmittedBy_iff {line id : String} :
    isEmittedBy line id = true ↔
      ∃ first rest, Text.splitOn separator line.toList = first :: id.toList :: rest ∧ rest ≠ [] := by
  rw [isEmittedBy, beq_iff_eq, emitter?_eq_some_iff]

/-- The line of an event is that of its container, whatever the other fields mention. -/
theorem emitter?_of_event (read : readLine line = .ok (.event event)) :
    emitter? line = some event.container.text.toList := by
  obtain ⟨fields, rfl, plain, denotes⟩ := readLine_eq_event_iff.mp read
  have same : event.container.text.toList = fields.container := by
    have valid := denotes.container
    unfold ContainerId.ofString? at valid
    split at valid
    · rw [← Option.some.inj valid, String.toList_ofList]
    · contradiction
  rw [emitter?_eq_some_iff, same]
  exact ⟨_, _, splitOn_toLine plain, List.cons_ne_nil _ _⟩

/-- The message is an event of the container. -/
def Message.isOf (container : ContainerId) : Message → Bool
  | .event event => event.container = container
  | .overflow => false

end Trace

theorem ContainerId.eq_of_text {container other : ContainerId} (same : container.text.toList = other.text.toList) :
    container = other := by
  cases container
  cases other
  simpa [String.toList_inj] using same

/-! ## Other containers in the ring -/

namespace Cache.Ring

variable {container : ContainerId} {event : Event}

/-- A change that shows no more of a container in any bucket shows no more of it in the ring. -/
private theorem sublist_flatMap_modify {change : Bucket → Bucket}
    (fewer : ∀ bucket : Bucket, ((change bucket).eventsOf container).Sublist (bucket.eventsOf container))
    (buckets : List Bucket) (slot : Nat) :
    ((buckets.modify slot change).flatMap (·.eventsOf container)).Sublist (buckets.flatMap (·.eventsOf container)) := by
  induction buckets generalizing slot with
  | nil => simp
  | cons bucket rest ih =>
    cases slot with
    | zero =>
      rw [List.modify_zero_cons, List.flatMap_cons, List.flatMap_cons]
      exact (fewer bucket).append_right _
    | succ slot =>
      rw [List.modify_succ_cons, List.flatMap_cons, List.flatMap_cons]
      exact (ih slot).append_left _

/-- An event of another container adds nothing to what is shown of this one. -/
theorem sublist_eventsOf_insert (ring : Ring) (differs : event.container ≠ container) :
    ((ring.insert event).1.eventsOf container).Sublist (ring.eventsOf container) := by
  have pushed (bucket : Bucket) : (bucket.push event).eventsOf container = bucket.eventsOf container := by
    rw [Bucket.eventsOf_push, if_neg differs, List.append_nil]
  have opened : (Bucket.opened event).eventsOf container = [] := pushed ⟨some event.timestamp, .empty⟩
  have joins (slot : Nat) : ((ring.buckets.modify slot (·.push event)).flatMap (·.eventsOf container)).Sublist
      (ring.eventsOf container) := by
    apply sublist_flatMap_modify
    intro bucket
    rw [pushed]
  have replaces (slot : Nat) : ((ring.buckets.set slot (.opened event)).flatMap (·.eventsOf container)).Sublist
      (ring.eventsOf container) := by
    rw [List.set_eq_modify]
    apply sublist_flatMap_modify
    intro bucket
    rw [opened]
    exact List.nil_sublist _
  unfold insert
  split
  · exact List.Sublist.refl _
  · exact joins _
  · exact replaces _
  · exact replaces _

end Cache.Ring

namespace Accumulator

variable {acc : Accumulator} {container : ContainerId} {event : Event} {line : List Char} {operation : Operation}
  {operations first second : List Operation} {token : Nat}

/-! ## The excluded containers -/

@[simp] theorem own_accept (acc : Accumulator) (event : Event) : (acc.accept event).own = acc.own := by
  unfold accept
  split <;> rfl

@[simp] theorem own_ingest (acc : Accumulator) (line : List Char) : (acc.ingest line).own = acc.own := by
  unfold ingest
  split
  · rfl
  · rfl
  · exact own_accept ..

theorem mem_own_apply :
    container ∈ (acc.apply operation).own ↔ container ∈ acc.own ∨ operation = .exclude container := by
  cases operation with
  | ingest line => simp [apply]
  | exclude other =>
    simp only [apply, addOwn, Operation.exclude.injEq]
    split
    · rename_i known
      constructor
      · exact .inl
      · rintro (member | rfl)
        · exact member
        · exact known
    · simp [eq_comm]
  | register _ | unregister _ | receive _ | drop _ => simp [apply, register, unregister, receive, dropInbox]

/-- Just those containers are excluded that were before, or that some operation excludes. -/
theorem mem_own_run : container ∈ (acc.run operations).own ↔ container ∈ acc.own ∨ .exclude container ∈ operations := by
  induction operations generalizing acc with
  | nil => simp [run]
  | cons operation rest ih =>
    have step := @ih (acc.apply operation)
    rw [mem_own_apply] at step
    rw [List.mem_cons, ← or_assoc, eq_comm (b := operation)]
    exact step

/-- A line is ignored if its emitter is excluded. -/
theorem isSelfEmitted_iff :
    acc.isSelfEmitted line = true ↔ ∃ container ∈ acc.own, emitter? line = some container.text.toList := by
  simp [isSelfEmitted]

/-- A line that reads as an event is passed over exactly if the container of the event is excluded. -/
theorem isSelfEmitted_iff_of_event (read : readLine line = .ok (.event event)) :
    acc.isSelfEmitted line = true ↔ event.container ∈ acc.own := by
  rw [isSelfEmitted_iff, emitter?_of_event read]
  constructor
  · rintro ⟨container, member, same⟩
    rwa [ContainerId.eq_of_text (Option.some.inj same)]
  · intro member
    exact ⟨event.container, member, rfl⟩

/-- A line becomes an event if it can be read as one and its container is not excluded. -/
theorem message?_eq_event_iff :
    acc.message? line = some (.event event) ↔ readLine line = .ok (.event event) ∧ event.container ∉ acc.own := by
  have result : (readLine line).toOption = some (.event event) ↔ readLine line = .ok (.event event) := by
    cases readLine line <;> simp [Except.toOption]
  unfold message?
  constructor
  · intro meaning
    split at meaning
    · contradiction
    · rename_i other
      have read := result.mp meaning
      rw [isSelfEmitted_iff_of_event read] at other
      exact ⟨read, other⟩
  · rintro ⟨read, other⟩
    rw [if_neg (by rwa [isSelfEmitted_iff_of_event read]), result]
    exact read

/-! ## No trace -/

/-- From here on, nothing of the container gets in: what the ring shows of it, and what any listener takes out
of its inbox or still finds there, was there before. -/
def Shuns (acc : Accumulator) (container : ContainerId) : Prop :=
  ∀ operations,
    ((acc.run operations).query container).Sublist (acc.query container) ∧
      ∀ token,
        ((receivedOver token acc operations ++ (acc.run operations).live.inbox token).filter
          (·.isOf container)).Sublist ((acc.live.inbox token).filter (·.isOf container))

/-- A message of others adds nothing of the container. -/
private theorem filter_append_of_others {messages added : List Message}
    (others : ∀ message ∈ added, message.isOf container = false) :
    (messages ++ added).filter (·.isOf container) = messages.filter (·.isOf container) := by
  have nothing : added.filter (·.isOf container) = [] := by
    rw [List.filter_eq_nil_iff]
    intro message member
    simp [others message member]
  rw [List.filter_append, nothing, List.append_nil]

theorem query_ingest_sublist (own : container ∈ acc.own) (line : List Char) :
    ((acc.ingest line).query container).Sublist (acc.query container) := by
  unfold ingest
  split
  · exact List.Sublist.refl _
  · exact List.Sublist.refl _
  · rename_i event meaning
    have differs : event.container ≠ container := by
      rintro rfl
      exact (message?_eq_event_iff.mp meaning).2 own
    have inserted := acc.ring.sublist_eventsOf_insert differs
    unfold accept
    split
    · rename_i ring _ placed
      rwa [placed] at inserted
    · exact List.Sublist.refl _

theorem filter_inbox_ingest (own : container ∈ acc.own) (sound : acc.live.Sound) (line : List Char) (token : Nat) :
    ((acc.ingest line).live.inbox token).filter (·.isOf container) =
      (acc.live.inbox token).filter (·.isOf container) := by
  unfold ingest
  split
  · rfl
  · simp only [sound.broadcast_spec.2.2.2]
    apply filter_append_of_others
    intro message member
    split at member
    · rw [List.mem_singleton.mp member, Message.isOf]
    · contradiction
  · rename_i event meaning
    rcases acc.live_accept event with same | forwarded
    · rw [same]
    · rw [forwarded, Live.inbox_forward]
      apply filter_append_of_others
      intro message member
      split at member
      · rw [List.mem_singleton.mp member, Message.isOf, decide_eq_false_iff_not]
        rintro rfl
        exact (message?_eq_event_iff.mp meaning).2 own
      · contradiction

/-- One operation lets nothing of an excluded container in. -/
theorem sublist_apply (own : container ∈ acc.own) (sound : acc.live.Sound) (operation : Operation) :
    ((acc.apply operation).query container).Sublist (acc.query container) ∧
      ∀ token, ((acc.received token operation ++ (acc.apply operation).live.inbox token).filter
        (·.isOf container)).Sublist ((acc.live.inbox token).filter (·.isOf container)) := by
  cases operation with
  | ingest line =>
    refine ⟨query_ingest_sublist own line, fun token => ?_⟩
    simp only [apply, received, List.nil_append, filter_inbox_ingest own sound]
    exact List.Sublist.refl _
  | exclude other => simp [apply, received, query]
  | register other =>
    refine ⟨List.Sublist.refl _, fun token => ?_⟩
    by_cases fresh : token = acc.live.nextToken
    · subst fresh
      simp [apply, received, register, Live.inbox_register_self]
    · have kept : (acc.live.register other).1.inbox token = acc.live.inbox token := by
        simp [Live.inbox, Live.register, Table.get?_insert, fresh]
      simp [apply, received, register, kept]
  | unregister subscription => simp [apply, received, unregister, query, Live.inbox]
  | receive other =>
    refine ⟨List.Sublist.refl _, fun token => ?_⟩
    have moved := received_receive_append_inbox acc other token
    simp only [apply, moved]
    exact List.Sublist.refl _
  | drop other =>
    refine ⟨List.Sublist.refl _, fun token => ?_⟩
    by_cases same : token = other
    · simp [apply, received, dropInbox, Live.dropInbox, Live.inbox, Table.get?_erase, same]
    · simp [apply, received, dropInbox, Live.inbox_dropInbox same]

/-- An excluded container leaves nothing new in the store, nor in any inbox. -/
theorem shuns_of_mem_own (own : container ∈ acc.own) (sound : acc.live.Sound) : acc.Shuns container := by
  intro operations
  induction operations generalizing acc with
  | nil => exact ⟨List.Sublist.refl _, fun token => List.Sublist.refl _⟩
  | cons operation rest ih =>
    obtain ⟨shown, given⟩ := sublist_apply own sound operation
    obtain ⟨shownLater, givenLater⟩ := ih (own_subset_apply acc operation own) (sound_live_apply sound operation)
    refine ⟨shownLater.trans shown, fun token => ?_⟩
    rw [receivedOver, List.append_assoc, List.filter_append]
    have now := given token
    rw [List.filter_append] at now
    exact ((givenLater token).append_left _).trans now

/-! ## Histories that differ by lines of excluded containers -/

/-- The histories differ only by lines that are passed over when they come. -/
inductive SameButOwn : Accumulator → List Operation → List Operation → Prop
  | nil (acc : Accumulator) : SameButOwn acc [] []
  | both {acc : Accumulator} {first second : List Operation} (operation : Operation)
      (later : SameButOwn (acc.apply operation) first second) :
      SameButOwn acc (operation :: first) (operation :: second)
  | left {acc : Accumulator} {line : List Char} {first second : List Operation}
      (own : acc.isSelfEmitted line = true) (later : SameButOwn acc first second) :
      SameButOwn acc (.ingest line :: first) second
  | right {acc : Accumulator} {line : List Char} {first second : List Operation}
      (own : acc.isSelfEmitted line = true) (later : SameButOwn acc first second) :
      SameButOwn acc first (.ingest line :: second)

theorem apply_ingest_of_isSelfEmitted (own : acc.isSelfEmitted line = true) : acc.apply (.ingest line) = acc := by
  simp [apply, ingest, message?, own]

/-- Lines of excluded containers may as well be left out. -/
theorem SameButOwn.run_eq (same : SameButOwn acc first second) : acc.run first = acc.run second := by
  induction same with
  | nil => rfl
  | both operation later ih => exact ih
  | left own later ih =>
    rw [run, List.foldl_cons, apply_ingest_of_isSelfEmitted own]
    exact ih
  | right own later ih =>
    rw [run, run, List.foldl_cons, apply_ingest_of_isSelfEmitted own]
    exact ih

theorem SameButOwn.receivedOver_eq (same : SameButOwn acc first second) (token : Nat) :
    receivedOver token acc first = receivedOver token acc second := by
  induction same with
  | nil => rfl
  | both operation later ih => rw [receivedOver, receivedOver, ih]
  | left own later ih =>
    rw [receivedOver, apply_ingest_of_isSelfEmitted own]
    exact ih
  | right own later ih =>
    rw [receivedOver, apply_ingest_of_isSelfEmitted own]
    exact ih

/-- The lines of a container are told by their pieces, in agreement with the reading of the line. After any
history, the lines that are passed over are those of the excluded containers and no others; nothing of an
excluded container gets in any more; and histories that go on from there and differ only by lines that are
passed over lead to the same state and give every listener the same messages. -/
theorem own_lines_leave_no_trace (size : Nat) (history : List Operation) :
    let acc := (empty size).run history
    (∀ line id, isEmittedBy line id = true ↔
        ∃ first rest, Text.splitOn separator line.toList = first :: id.toList :: rest ∧ rest ≠ []) ∧
      (∀ line event, readLine line.toList = .ok (.event event) →
        ∀ id, isEmittedBy line id = true ↔ event.container.text = id) ∧
      (∀ line : String, acc.isSelfEmitted line.toList = true ↔
        ∃ container, .exclude container ∈ history ∧ isEmittedBy line container.text = true) ∧
      (∀ line event, readLine line = .ok (.event event) → .exclude event.container ∉ history →
        acc.ingest line = acc.accept event) ∧
      (∀ container, .exclude container ∈ history → acc.Shuns container) ∧
      ∀ first second, SameButOwn acc first second →
        acc.run first = acc.run second ∧ ∀ token, receivedOver token acc first = receivedOver token acc second := by
  intro acc
  have excluded {container : ContainerId} : container ∈ acc.own ↔ .exclude container ∈ history := by
    rw [mem_own_run]
    simp [empty]
  refine ⟨fun line id => isEmittedBy_iff, ?_, ?_, ?_, ?_, ?_⟩
  · intro line event read id
    rw [isEmittedBy, beq_iff_eq, emitter?_of_event read, Option.some.injEq, String.toList_inj]
  · intro line
    rw [isSelfEmitted_iff]
    simp only [excluded, isEmittedBy, beq_iff_eq]
  · intro line event read other
    rw [ingest, message?_eq_event_iff.mpr ⟨read, fun own => other (excluded.mp own)⟩]
  · intro container member
    exact shuns_of_mem_own (excluded.mpr member) (sound_live_run Live.sound_empty history)
  · intro first second same
    exact ⟨same.run_eq, same.receivedOver_eq⟩

private theorem valid_agent : ContainerId.Valid "agent" := by decide

private theorem valid_site : ContainerId.Valid "site" := by decide

private def agent : ContainerId := ⟨"agent", valid_agent⟩

private def site : ContainerId := ⟨"site", valid_site⟩

/-- An overflow notice that comes from the excluded container. -/
private def agentNotice : List Char :=
  Text.joinWith separator [[], "agent".toList, overflowMarker]

/-- A line of another container that mentions the excluded one in all its other fields. -/
private def siteLine : List Char :=
  Text.joinWith separator
    ["2024-01-01T00:00:00.0+agent".toList, "site".toList, "agent".toList, ['1'], ['2'], "agent".toList,
      "agent".toList, "agent".toList]

private def agentExcluded : Accumulator :=
  (empty 1).run [.register site, .exclude agent]

theorem own_lines_leave_no_trace_of_notice :
    SameButOwn agentExcluded [.ingest agentNotice, .ingest siteLine] [.ingest siteLine] ∧
      agentExcluded.run [.ingest agentNotice, .ingest siteLine] = agentExcluded.run [.ingest siteLine] ∧
      readLine agentNotice = .ok .overflow ∧ agentExcluded.Shuns agent ∧
      ((agentExcluded.run [.ingest siteLine]).live.inbox 0).length = 1 := by
  have own : agentExcluded.isSelfEmitted agentNotice = true := by decide +kernel
  have same : SameButOwn agentExcluded [.ingest agentNotice, .ingest siteLine] [.ingest siteLine] :=
    .left own (.both _ (.nil _))
  obtain ⟨-, -, -, -, shuns, equal⟩ := own_lines_leave_no_trace 1 [.register site, .exclude agent]
  exact ⟨same, (equal _ _ same).1, by decide +kernel, shuns agent (by decide), by decide +kernel⟩

end Accumulator

end Observatory
