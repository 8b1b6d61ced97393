import Observatory.Proofs.Cache.Arrivals

/-! # The order in which a query shows events

A query goes through the slots and not through time. Main statement: of two events of one container that
are both still held, the one in the lower slot is shown first, and in one slot the one that arrived first.
If the events came in the order of their times and less than a second apart, the later one is in the lower
slot only if the ring has come round between them, leap seconds apart.
-/

namespace Observatory.Cache

open Calendar Trace

variable {size : Nat} {events : List Event} {container : ContainerId} {first later : Arrival}
  {slot other : Nat}

/-- The arrival is held in this slot. -/
def HeldAt (size : Nat) (events : List Event) (arrival : Arrival) (slot : Nat) : Prop :=
  ∃ held ∈ (holdings size events)[slot]?, arrival ∈ held

instance (size : Nat) (events : List Event) (arrival : Arrival) (slot : Nat) :
    Decidable (HeldAt size events arrival slot) :=
  inferInstanceAs (Decidable (∃ held ∈ (holdings size events)[slot]?, arrival ∈ held))

theorem HeldAt.getElem?_number (heldAt : HeldAt size events first slot) : events[first.2]? = some first.1 := by
  obtain ⟨held, found, member⟩ := heldAt
  have present := (sublist_of_mem_holdings (List.mem_of_getElem? found)).subset member
  exact List.mem_zipIdx_iff_getElem?.mp present

/-! ## Precedence -/

/-- Members of different lists stand in the order of the lists. -/
private theorem pair_sublist_flatten {α : Type} {lists : List (List α)} {left right : List α} {a b : α}
    {low high : Nat} (order : low < high) (foundLeft : lists[low]? = some left)
    (foundRight : lists[high]? = some right) (inLeft : a ∈ left) (inRight : b ∈ right) :
    [a, b].Sublist lists.flatten := by
  induction lists generalizing low high with
  | nil => simp at foundLeft
  | cons list rest ih =>
    obtain ⟨high, rfl⟩ := Nat.exists_eq_add_one_of_ne_zero (Nat.ne_zero_of_lt order)
    rw [List.getElem?_cons_succ] at foundRight
    rw [List.flatten_cons]
    cases low with
    | zero =>
      obtain rfl : list = left := by simpa using foundLeft
      have inRest : b ∈ rest.flatten := List.mem_flatten_of_mem (List.mem_of_getElem? foundRight) inRight
      exact (List.singleton_sublist.mpr inLeft).append (List.singleton_sublist.mpr inRest)
    | succ low =>
      exact (ih (by omega) foundLeft foundRight).trans (List.sublist_append_right _ _)

/-- Of two members of a list in ascending order, the lesser one comes first. -/
private theorem pair_sublist_of_ascending {list : List Arrival}
    (ascending : list.Pairwise fun arrival next => arrival.2 < next.2) (inFirst : first ∈ list)
    (inLater : later ∈ list) (order : first.2 < later.2) : [first, later].Sublist list := by
  induction ascending with
  | nil => cases inFirst
  | @cons head rest below _ ih =>
    rcases List.mem_cons.mp inFirst with rfl | firstInRest <;>
      rcases List.mem_cons.mp inLater with rfl | laterInRest
    · omega
    · exact (List.singleton_sublist.mpr laterInRest).cons_cons first
    · have := below first firstInRest
      omega
    · exact (ih firstInRest laterInRest).cons head

/-- Without repetitions, two elements are not in both orders. -/
private theorem not_pair_sublist_of_nodup {α : Type} {list : List α} {a b : α} (distinct : list.Nodup)
    (order : [a, b].Sublist list) : ¬ [b, a].Sublist list := by
  induction list with
  | nil => cases order
  | cons head rest ih =>
    obtain ⟨fresh, distinctRest⟩ := List.nodup_cons.mp distinct
    intro reverse
    cases order with
    | cons _ order =>
      cases reverse with
      | cons _ reverse => exact ih distinctRest order reverse
      | cons_cons _ reverse => exact fresh (order.subset (by simp))
    | cons_cons _ order =>
      cases reverse with
      | cons _ reverse => exact fresh (reverse.subset (by simp))
      | cons_cons _ reverse => exact fresh (reverse.subset (by simp))

theorem HeldAt.pair_sublist (firstAt : HeldAt size events first slot) (laterAt : HeldAt size events later other)
    (order : slot < other ∨ slot = other ∧ first.2 < later.2) :
    [first, later].Sublist (holdings size events).flatten := by
  obtain ⟨held, found, inHeld⟩ := firstAt
  obtain ⟨heldOther, foundOther, inOther⟩ := laterAt
  rcases order with below | ⟨rfl, earlier⟩
  · exact pair_sublist_flatten below found foundOther inHeld inOther
  · obtain rfl : held = heldOther := Option.some.inj (found.symm.trans foundOther)
    have member := List.mem_of_getElem? found
    have ascending := (pairwise_zipIdx events).sublist (sublist_of_mem_holdings member)
    exact (pair_sublist_of_ascending ascending inHeld inOther earlier).trans (List.sublist_flatten_of_mem member)

/-- A query shows the arrival of the lower slot first, and in one slot the earlier one. -/
theorem HeldAt.pair_sublist_shown_iff (firstAt : HeldAt size events first slot)
    (laterAt : HeldAt size events later other) (ofFirst : first.1.container = container)
    (ofLater : later.1.container = container) (earlier : first.2 < later.2) :
    ([first, later].Sublist (shown size events container) ↔ slot ≤ other) ∧
      ([later, first].Sublist (shown size events container) ↔ other < slot) := by
  have inOrder (below : slot ≤ other) : [first, later].Sublist (shown size events container) := by
    have pair := firstAt.pair_sublist laterAt (by omega)
    simpa [shown, ofFirst, ofLater] using pair.filter fun arrival => decide (arrival.1.container = container)
  have reversed (above : other < slot) : [later, first].Sublist (shown size events container) := by
    have pair := laterAt.pair_sublist firstAt (.inl above)
    simpa [shown, ofFirst, ofLater] using pair.filter fun arrival => decide (arrival.1.container = container)
  have distinct : (shown size events container).Nodup := (nodup_holdings size events).filter _
  refine ⟨⟨fun pair => ?_, inOrder⟩, fun pair => ?_, reversed⟩
  · by_contra above
    exact not_pair_sublist_of_nodup distinct pair (reversed (by omega))
  · by_contra below
    exact not_pair_sublist_of_nodup distinct pair (inOrder (by omega))

/-! ## Coming round -/

theorem joins_of_mem_groups {first event : Event} {rest : List Event}
    (listed : first :: rest ∈ groups events) (member : event ∈ rest) : joins first event = true := by
  fun_induction groups events with
  | case1 => cases listed
  | case2 head tail ih =>
    rcases List.mem_cons.mp listed with here | further
    · obtain ⟨rfl, rfl⟩ := List.cons.inj here
      exact List.all_eq_true.mp List.all_takeWhile event member
    · exact ih further

/-- Every event of a group lies in the second that the first one begins. -/
theorem instant_of_mem_group
    (ordered : events.Pairwise fun event later => ¬ later.timestamp.before event.timestamp = true)
    (regular : ∀ event ∈ events, event.timestamp.isLeapSecond = false) {first event : Event} {rest : List Event}
    (listed : first :: rest ∈ groups events) (member : event ∈ first :: rest) :
    first.timestamp.instant ≤ event.timestamp.instant ∧
      event.timestamp.instant < first.timestamp.instant + second := by
  have within : (first :: rest).Sublist events := by
    have sublist := List.sublist_flatten_of_mem listed
    rwa [flatten_groups] at sublist
  have regularFirst := regular first (within.subset List.mem_cons_self)
  have regularEvent := regular event (within.subset member)
  rcases List.mem_cons.mp member with rfl | inRest
  · simp only [second]
    omega
  · have notBefore := (List.pairwise_cons.mp (ordered.sublist within)).1 event inRest
    rw [Timestamp.before_iff_instant_lt regularEvent regularFirst] at notBefore
    exact ⟨by omega, (joins_iff regularFirst regularEvent).mp (joins_of_mem_groups listed inRest)⟩

/-- The bucket of a slot in which something is held has been opened, and holds what is entered there. -/
theorem HeldAt.exists_bucket (heldAt : HeldAt size events first slot) :
    ∃ bucket, ((Ring.empty size).insertAll events).buckets[slot]? = some bucket ∧
      bucket.firstSeen.isSome = true ∧ first.1 ∈ bucket.eventsOf first.1.container := by
  obtain ⟨held, found, member⟩ := heldAt
  obtain ⟨sameLength, agree⟩ := List.forall₂_iff_get.mp (holds_holdings size events)
  obtain ⟨bound, rfl⟩ := List.getElem?_eq_some_iff.mp found
  have holds := agree slot (sameLength ▸ bound) bound
  refine ⟨_, List.getElem?_eq_getElem (sameLength ▸ bound), ?_, ?_⟩
  · have opened := holds.firstSeen_eq
    rw [List.get_eq_getElem] at opened
    rw [opened]
    cases listed : (holdings size events)[slot] with
    | nil => simp [listed] at member
    | cons head rest => simp [listed]
  · rw [List.get_eq_getElem, List.get_eq_getElem] at holds
    rw [holds.eventsOf_eq, List.mem_filter]
    exact ⟨List.mem_map_of_mem member, by simp⟩

/-- In the order of time and without leap seconds, a slot holds events of one group, whose number tells the
slot. -/
theorem HeldAt.exists_group (heldAt : HeldAt size events first slot) {filled : List Bucket} {free : Nat}
    (layout : ((Ring.empty size).insertAll events).Layout filled free)
    (window : Window size (groups events) filled) :
    ∃ number group, (groups events)[number]? = some group ∧ number % size = slot ∧ first.1 ∈ group := by
  obtain ⟨bucket, found, opened, shown⟩ := heldAt.exists_bucket
  have filledAt : filled[slot]? = some bucket := by
    have inside : ¬ filled.length ≤ slot := by
      rw [← layout.firstSeenAt?_eq_none_iff, Ring.firstSeenAt?, found]
      simpa [Option.isSome_iff_ne_none] using opened
    rwa [layout.buckets_eq, List.getElem?_append_left (by omega)] at found
  obtain ⟨number, group, listed, -, sameSlot, holds⟩ := window.number_of_slot filledAt
  rw [holds.eventsOf_eq] at shown
  exact ⟨number, group, listed, sameSlot, (List.mem_filter.mp shown).1⟩

/-- Less than a second later comes the same group or the next one. -/
theorem number_of_near (spaced : Spaced (groups events))
    (ordered : events.Pairwise fun event later => ¬ later.timestamp.before event.timestamp = true)
    (regular : ∀ event ∈ events, event.timestamp.isLeapSecond = false) {event next : Event}
    {number follower : Nat} {group others : List Event} (listed : (groups events)[number]? = some group)
    (listedNext : (groups events)[follower]? = some others) (member : event ∈ group) (memberNext : next ∈ others)
    (late : event.timestamp.instant ≤ next.timestamp.instant)
    (near : next.timestamp.instant < event.timestamp.instant + second) :
    follower = number ∨ follower = number + 1 := by
  obtain ⟨first, rest, rfl, -⟩ := spaced.begins group (List.mem_of_getElem? listed)
  obtain ⟨begin, tail, rfl, -⟩ := spaced.begins others (List.mem_of_getElem? listedNext)
  have inGroup := instant_of_mem_group ordered regular (List.mem_of_getElem? listed) member
  have inOthers := instant_of_mem_group ordered regular (List.mem_of_getElem? listedNext) memberNext
  simp only [second] at near inGroup inOthers
  rcases Nat.lt_trichotomy follower number with before | same | after
  · have gap := spaced.gap before listedNext listed
    simp only [second] at gap
    omega
  · exact .inl same
  · by_contra apart
    -- a group between the two fills a whole second
    have bound := (List.getElem?_eq_some_iff.mp listedNext).1
    have listedBetween := List.getElem?_eq_getElem (show number + 1 < (groups events).length by omega)
    obtain ⟨between, more, same, -⟩ := spaced.begins _ (List.mem_of_getElem? listedBetween)
    rw [same] at listedBetween
    have gap := spaced.gap (by omega) listed listedBetween
    have gapNext := spaced.gap (by omega) listedBetween listedNext
    simp only [second] at gap gapNext
    omega

/-- The remainder falls only when it comes round. -/
private theorem come_round {number size : Nat} (falls : (number + 1) % size < number % size) :
    (number + 1) % size = 0 ∧ number % size + 1 = size := by
  rcases Nat.eq_zero_or_pos size with rfl | positive
  · simp only [Nat.mod_zero] at falls
    omega
  · have bound := Nat.mod_lt number positive
    rw [← Nat.mod_add_mod] at falls ⊢
    rcases Nat.lt_or_ge (number % size + 1) size with inside | last
    · rw [Nat.mod_eq_of_lt inside] at falls
      omega
    · have whole : number % size + 1 = size := by omega
      rw [whole]
      exact ⟨Nat.mod_self size, rfl⟩

theorem HeldAt.slots_of_reversed (firstAt : HeldAt size events first slot)
    (laterAt : HeldAt size events later other)
    (ordered : events.Pairwise fun event later => ¬ later.timestamp.before event.timestamp = true)
    (regular : ∀ event ∈ events, event.timestamp.isLeapSecond = false) (earlier : first.2 < later.2)
    (near : later.1.timestamp.withinSecond first.1.timestamp = true) (below : other < slot) :
    other = 0 ∧ slot + 1 = size := by
  have positive : 0 < size := by
    obtain ⟨bucket, found, -⟩ := firstAt.exists_bucket
    have bound := (List.getElem?_eq_some_iff.mp found).1
    rw [← Ring.size, (Ring.wellFormed_insertAll_empty size events).size_eq] at bound
    omega
  obtain ⟨spaced, filled, free, layout, -, window⟩ := exists_window positive events ordered regular
  obtain ⟨number, group, listed, rfl, member⟩ := firstAt.exists_group layout window
  obtain ⟨follower, others, listedNext, rfl, memberNext⟩ := laterAt.exists_group layout window
  have regularFirst := regular _ (List.mem_of_getElem? firstAt.getElem?_number)
  have regularLater := regular _ (List.mem_of_getElem? laterAt.getElem?_number)
  have late : first.1.timestamp.instant ≤ later.1.timestamp.instant := by
    obtain ⟨bound, same⟩ := List.getElem?_eq_some_iff.mp firstAt.getElem?_number
    obtain ⟨boundLater, sameLater⟩ := List.getElem?_eq_some_iff.mp laterAt.getElem?_number
    have notBefore := List.pairwise_iff_getElem.mp ordered _ _ bound boundLater earlier
    rw [same, sameLater, Timestamp.before_iff_instant_lt regularLater regularFirst] at notBefore
    omega
  rw [Timestamp.withinSecond_iff, Timestamp.difference_eq_instant_sub regularLater regularFirst] at near
  rcases number_of_near spaced ordered regular listed listedNext member memberNext late (by omega) with rfl | rfl
  · omega
  · exact come_round below

/-- Two events of one container, less than a second apart, that came in the order of time and are both still
held: a query shows them in the order of arrival unless the later one is in a lower slot. Without leap
seconds it is there only if the ring has come round in between, from its last slot to its first. -/
theorem shown_by_slot (size : Nat) (events : List Event)
    (ordered : events.Pairwise fun event later => ¬ later.timestamp.before event.timestamp = true)
    (container : ContainerId) (first later : Arrival) (slot other : Nat)
    (firstAt : HeldAt size events first slot) (laterAt : HeldAt size events later other)
    (ofFirst : first.1.container = container) (ofLater : later.1.container = container)
    (earlier : first.2 < later.2) (near : later.1.timestamp.withinSecond first.1.timestamp = true) :
    (shown size events container).map (·.1) = ((Ring.empty size).insertAll events).eventsOf container ∧
      events[first.2]? = some first.1 ∧ events[later.2]? = some later.1 ∧
      ([first, later].Sublist (shown size events container) ↔ slot ≤ other) ∧
      ([later, first].Sublist (shown size events container) ↔ other < slot) ∧
      ((∀ event ∈ events, event.timestamp.isLeapSecond = false) → other < slot → other = 0 ∧ slot + 1 = size) := by
  obtain ⟨inOrder, reversed⟩ := firstAt.pair_sublist_shown_iff laterAt ofFirst ofLater earlier
  refine ⟨map_shown size events container, firstAt.getElem?_number, laterAt.getElem?_number, inOrder, reversed, ?_⟩
  intro regular below
  exact firstAt.slots_of_reversed laterAt ordered regular earlier near below

/-- Events of one container at these times of an hour, numbered by their processes. -/
private def burst (times : List String) : List Event :=
  times.zipIdx.filterMap fun (time, number) =>
    (Trace.readFields (Text.joinWith Trace.separator
      [("2024-01-01T00:" ++ time).toList, ['a'], [], ['1'], [Nat.digitChar number], [], [], []])).toOption

private def wrapped : List Event := burst ["00:00.0", "00:01.0", "00:01.9", "00:02.0"]

/-- Two slots and three groups: the last event is in the slot before that of the one which it follows. -/
theorem shown_by_slot_of_wrapped :
    ∃ first later, wrapped[2]? = some first ∧ wrapped[3]? = some later ∧
      HeldAt 2 wrapped (first, 2) 1 ∧ HeldAt 2 wrapped (later, 3) 0 ∧
      [(later, 3), (first, 2)].Sublist (shown 2 wrapped first.container) ∧
      ¬ [(first, 2), (later, 3)].Sublist (shown 2 wrapped first.container) := by
  have facts : (wrapped.Pairwise fun event later => ¬ later.timestamp.before event.timestamp = true) ∧
      ∃ first ∈ wrapped, ∃ later ∈ wrapped, HeldAt 2 wrapped (first, 2) 1 ∧ HeldAt 2 wrapped (later, 3) 0 ∧
        later.container = first.container ∧ later.timestamp.withinSecond first.timestamp = true := by
    decide +kernel
  obtain ⟨ordered, first, -, later, -, firstAt, laterAt, sameContainer, near⟩ := facts
  obtain ⟨-, found, foundLater, inOrder, reversed, -⟩ := shown_by_slot 2 wrapped ordered first.container
    (first, 2) (later, 3) 1 0 firstAt laterAt rfl sameContainer (by simp) near
  exact ⟨first, later, found, foundLater, firstAt, laterAt, reversed.mpr (by simp), by simp [inOrder]⟩

private def leaping : List Event := burst ["00:59.9", "00:60.95", "01:00.0"]

/-- Events in the order of time, less than a second apart and both still held, that a query shows in the
reverse order: in a ring that has come round, and about a leap second in one that has not. -/
theorem shown_reversed :
    (wrapped.Pairwise fun event later => ¬ later.timestamp.before event.timestamp = true) ∧
      (∃ first ∈ wrapped, ∃ later ∈ wrapped, later.timestamp.withinSecond first.timestamp = true ∧
        ((first, 2) : Arrival) ∈ shown 2 wrapped first.container ∧ (later, 3) ∈ shown 2 wrapped first.container ∧
        ¬ [(first, 2), (later, 3)].Sublist (shown 2 wrapped first.container) ∧
        (((Ring.empty 2).insertAll wrapped).eventsOf first.container).map (·.pid) = [3, 1, 2]) ∧
      (leaping.Pairwise fun event later => ¬ later.timestamp.before event.timestamp = true) ∧
      ∃ first ∈ leaping, ∃ later ∈ leaping, later.timestamp.withinSecond first.timestamp = true ∧
        ((first, 1) : Arrival) ∈ shown 3 leaping first.container ∧ (later, 2) ∈ shown 3 leaping first.container ∧
        ¬ [(first, 1), (later, 2)].Sublist (shown 3 leaping first.container) ∧
        (((Ring.empty 3).insertAll leaping).eventsOf first.container).map (·.pid) = [0, 2, 1] := by
  decide +kernel

end Observatory.Cache
