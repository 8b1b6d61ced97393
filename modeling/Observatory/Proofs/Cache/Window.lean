import Observatory.Proofs.Cache.Ring
import Observatory.Trace.Line
import Mathlib.Data.List.Induction

/-! # The ring as a sliding window

Events that arrive in the order of their times, none of them in a leap second, fall into groups: a group
ends before the first event that is a second or more after the event that began it. Main statement: a
ring of `size` buckets then holds the last `size` groups, the group with number `n` in slot `n % size`.
The scan for a place looks at slots by index and not by age, so this needs that no older group takes a
newer event, and that the slots are given up in turn.
-/

namespace Observatory.Cache

open Calendar Trace

/-! ## Groups -/

/-- The event comes less than a second after the one that began the group. -/
def joins (first event : Event) : Bool :=
  event.timestamp.difference first.timestamp < second

/-- Split events into groups, each as long as events join the one that began it. -/
def groups : List Event → List (List Event)
  | [] => []
  | first :: rest => (first :: rest.takeWhile (joins first)) :: groups (rest.dropWhile (joins first))
termination_by events => events.length
decreasing_by
  have shorter := (List.dropWhile_sublist (joins first) (l := rest)).length_le
  simp only [List.length_cons]
  omega

theorem flatten_groups (events : List Event) : (groups events).flatten = events := by
  fun_induction groups events with
  | case1 => rfl
  | case2 first rest ih => simp [ih]

/-- What one more event does to the groups. -/
inductive Grouped (event : Event) : List (List Event) → List (List Event) → Prop
  | first : Grouped event [] [[event]]
  | joined {earlier : List (List Event)} {first : Event} {rest : List Event}
      (near : joins first event = true) :
      Grouped event (earlier ++ [first :: rest]) (earlier ++ [first :: (rest ++ [event])])
  | begun {earlier : List (List Event)} {first : Event} {rest : List Event}
      (far : joins first event = false) :
      Grouped event (earlier ++ [first :: rest]) (earlier ++ [first :: rest] ++ [[event]])

theorem Grouped.cons {event : Event} {before after : List (List Event)} (group : List Event)
    (grouped : Grouped event before after) (nonempty : before ≠ []) :
    Grouped event (group :: before) (group :: after) := by
  cases grouped with
  | first => exact absurd rfl nonempty
  | @joined earlier first rest near => exact @Grouped.joined event (group :: earlier) first rest near
  | @begun earlier first rest far => exact @Grouped.begun event (group :: earlier) first rest far

theorem groups_concat (events : List Event) (event : Event) :
    Grouped event (groups events) (groups (events ++ [event])) := by
  fun_induction groups events with
  | case1 => simpa [groups] using Grouped.first
  | case2 first rest ih =>
    rw [List.cons_append, groups, List.takeWhile_append, List.dropWhile_append]
    cases remaining : rest.dropWhile (joins first) with
    | nil =>
      -- the last group is the only one, and the event may join it
      have whole : rest.takeWhile (joins first) = rest := by
        have split := List.takeWhile_append_dropWhile (p := joins first) (l := rest)
        rwa [remaining, List.append_nil] at split
      rw [whole]
      cases near : joins first event with
      | true => simpa [near, groups] using @Grouped.joined event [] first rest near
      | false => simpa [near, groups] using @Grouped.begun event [] first rest near
    | cons head tail =>
      have shorter : (rest.takeWhile (joins first)).length ≠ rest.length := by
        intro whole
        have split := congrArg List.length (List.takeWhile_append_dropWhile (p := joins first) (l := rest))
        rw [List.length_append, remaining, List.length_cons] at split
        omega
      rw [remaining] at ih
      simpa [shorter] using ih.cons _ (by simp [groups])

/-- The events that begin groups are a second or more apart, and none is in a leap second. -/
structure Spaced (groups : List (List Event)) : Prop where
  begins : ∀ group ∈ groups, ∃ first rest, group = first :: rest ∧ first.timestamp.isLeapSecond = false
  gaps : groups.Pairwise fun group later => ∀ first rest next others, group = first :: rest →
    later = next :: others → first.timestamp.instant + (second : Int) ≤ next.timestamp.instant

theorem Spaced.gap {groups : List (List Event)} (spaced : Spaced groups) {number later : Nat} {first next : Event}
    {rest others : List Event} (order : number < later) (listed : groups[number]? = some (first :: rest))
    (listedLater : groups[later]? = some (next :: others)) :
    first.timestamp.instant + (second : Int) ≤ next.timestamp.instant := by
  obtain ⟨bound, same⟩ := List.getElem?_eq_some_iff.mp listed
  obtain ⟨boundLater, sameLater⟩ := List.getElem?_eq_some_iff.mp listedLater
  exact List.pairwise_iff_getElem.mp spaced.gaps number later bound boundLater order
    first rest next others same sameLater

theorem joins_iff {first event : Event} (regularFirst : first.timestamp.isLeapSecond = false)
    (regular : event.timestamp.isLeapSecond = false) :
    joins first event = true ↔ event.timestamp.instant < first.timestamp.instant + second := by
  rw [joins, decide_eq_true_eq, Timestamp.difference_eq_instant_sub regular regularFirst]
  omega

theorem Grouped.spaced {event : Event} {before after : List (List Event)}
    (grouped : Grouped event before after) (spaced : Spaced before)
    (regular : event.timestamp.isLeapSecond = false) : Spaced after := by
  cases grouped with
  | first => exact ⟨by simpa using regular, List.pairwise_singleton _ _⟩
  | @joined earlier first rest near =>
    obtain ⟨begins, gaps⟩ := spaced
    simp only [List.forall_mem_append, List.forall_mem_singleton, List.pairwise_append,
      List.pairwise_singleton, true_and] at begins gaps
    obtain ⟨beginsEarlier, begun, others, ⟨rfl, rfl⟩, regularFirst⟩ := begins
    constructor
    · rw [List.forall_mem_append, List.forall_mem_singleton]
      exact ⟨beginsEarlier, first, _, rfl, regularFirst⟩
    · rw [List.pairwise_append]
      refine ⟨gaps.1, List.pairwise_singleton _ _,
        fun group member later single start tail next others same sameLater => ?_⟩
      obtain rfl := List.mem_singleton.mp single
      obtain ⟨rfl, -⟩ := List.cons.inj sameLater
      exact gaps.2 group member start tail first rest same rfl
  | @begun earlier first rest far =>
    have regularFirst : first.timestamp.isLeapSecond = false := by
      obtain ⟨begun, others, ⟨rfl, rfl⟩, regularFirst⟩ := spaced.begins (first :: rest) (by simp)
      exact regularFirst
    have late : first.timestamp.instant + (second : Int) ≤ event.timestamp.instant := by
      rw [← Bool.not_eq_true, joins_iff regularFirst regular] at far
      omega
    constructor
    · rw [List.forall_mem_append]
      exact ⟨spaced.begins, by simpa using regular⟩
    · rw [List.pairwise_append]
      refine ⟨spaced.gaps, List.pairwise_singleton _ _,
        fun group member later single start tail next others same sameLater => ?_⟩
      obtain rfl := List.mem_singleton.mp single
      obtain ⟨rfl, -⟩ := List.cons.inj sameLater
      rcases List.mem_append.mp member with inEarlier | last
      · have gap := (List.pairwise_append.mp spaced.gaps).2.2 group inEarlier _ (List.mem_singleton_self _)
          start tail first rest same rfl
        simp only [second] at gap late ⊢
        omega
      · obtain rfl := List.mem_singleton.mp last
        obtain ⟨rfl, -⟩ := List.cons.inj same
        exact late

/-! ## Buckets that hold a group -/

/-- The bucket was opened by the first event of the group and holds the group's events, by container and
in their order, and nothing else. -/
structure Bucket.Holds (bucket : Bucket) (group : List Event) : Prop where
  firstSeen_eq : bucket.firstSeen = group.head?.map (·.timestamp)
  lookup_eq : ∀ container, bucket.events.get? container =
    (some (group.filter (·.container = container))).filter (· ≠ [])

namespace Bucket

variable {bucket : Bucket} {group : List Event}

theorem Holds.eventsOf_eq (holds : bucket.Holds group) (container : ContainerId) :
    bucket.eventsOf container = group.filter (·.container = container) := by
  rw [eventsOf, holds.lookup_eq]
  cases group.filter (·.container = container) <;> rfl

theorem Holds.push {first : Event} {rest : List Event} (holds : bucket.Holds (first :: rest)) (event : Event) :
    (bucket.push event).Holds (first :: (rest ++ [event])) := by
  refine ⟨holds.firstSeen_eq, fun container => ?_⟩
  rw [← List.cons_append, List.filter_append, Bucket.push, Table.get?_insert, holds.eventsOf_eq]
  by_cases same : container = event.container
  · simp [same, Option.filter]
  · simp [same, Ne.symm same, holds.lookup_eq]

theorem holds_opened (event : Event) : (opened event).Holds [event] := by
  refine ⟨rfl, fun container => ?_⟩
  rw [opened, Bucket.push, Table.get?_insert]
  by_cases same : container = event.container
  · simp [same, Option.filter, eventsOf]
  · simp [same, Ne.symm same, Option.filter]

/-- A bucket that holds a group accepts exactly the later events that join the group. -/
theorem Holds.accepts_eq {first event : Event} {rest : List Event} (holds : bucket.Holds (first :: rest))
    (regularFirst : first.timestamp.isLeapSecond = false) (regular : event.timestamp.isLeapSecond = false)
    (later : first.timestamp.instant ≤ event.timestamp.instant) :
    bucket.accepts event.timestamp = joins first event := by
  have opened : bucket.firstSeen = some first.timestamp := holds.firstSeen_eq
  rw [Bool.eq_iff_iff, accepts_iff, joins_iff regularFirst regular]
  simp only [opened, Option.some.injEq, exists_eq_left', Timestamp.withinSecond_iff,
    Timestamp.difference_eq_instant_sub regular regularFirst, second]
  omega

end Bucket

/-! ## Slots and group numbers -/

/-- The latest of `count` groups whose slot this is. -/
def latestIn (size count slot : Nat) : Nat :=
  slot + size * ((count - 1 - slot) / size)

theorem latestIn_spec {size count slot : Nat} (filled : slot < min count size) :
    latestIn size count slot < count ∧ count ≤ latestIn size count slot + size ∧
      latestIn size count slot % size = slot := by
  have split := Nat.div_add_mod (count - 1 - slot) size
  have rest := Nat.mod_lt (count - 1 - slot) (show 0 < size by omega)
  unfold latestIn
  refine ⟨by omega, by omega, ?_⟩
  rw [Nat.add_mul_mod_self_left, Nat.mod_eq_of_lt (by omega)]

/-- Two groups of one slot are at least a whole ring apart. -/
theorem eq_of_mod_eq {size number later : Nat} (order : number ≤ later) (near : later < number + size)
    (sameSlot : number % size = later % size) : number = later := by
  have left := Nat.div_add_mod number size
  have right := Nat.div_add_mod later size
  rcases Nat.lt_or_ge (number / size) (later / size) with less | more
  · have := Nat.mul_le_mul_left size (Nat.succ_le_of_lt less)
    rw [Nat.mul_succ] at this
    omega
  · have := Nat.mul_le_mul_left size more
    omega

/-- The filled buckets hold the last groups, each in the slot of its number. -/
structure Window (size : Nat) (groups : List (List Event)) (filled : List Bucket) : Prop where
  length_eq : filled.length = min groups.length size
  held : ∀ number group, groups[number]? = some group → groups.length ≤ number + size →
    ∃ bucket, filled[number % size]? = some bucket ∧ bucket.Holds group

variable {size : Nat} {groups : List (List Event)} {filled : List Bucket} {free : Nat} {event : Event}

/-- Every filled bucket holds one of the last groups. -/
theorem Window.number_of_slot (window : Window size groups filled) {slot : Nat} {bucket : Bucket}
    (found : filled[slot]? = some bucket) :
    ∃ number group, groups[number]? = some group ∧ groups.length ≤ number + size ∧ number % size = slot ∧
      bucket.Holds group := by
  obtain ⟨bound, -⟩ := List.getElem?_eq_some_iff.mp found
  obtain ⟨inside, recent, sameSlot⟩ := latestIn_spec (window.length_eq ▸ bound)
  have listed := List.getElem?_eq_getElem inside
  obtain ⟨held, foundHeld, holds⟩ := window.held _ _ listed recent
  rw [sameSlot, found] at foundHeld
  exact ⟨_, _, listed, recent, sameSlot, Option.some.inj foundHeld ▸ holds⟩

/-- Every group that began before another refuses what comes after that other one began. -/
theorem Spaced.refuses (spaced : Spaced groups) (regular : event.timestamp.isLeapSecond = false)
    {number later : Nat} {first next : Event} {rest others : List Event} (order : number < later)
    (listed : groups[number]? = some (first :: rest)) (listedLater : groups[later]? = some (next :: others))
    (late : next.timestamp.instant ≤ event.timestamp.instant) : joins first event = false := by
  obtain ⟨begun, tail, ⟨rfl, rfl⟩, regularFirst⟩ := spaced.begins _ (List.mem_of_getElem? listed)
  have gap := spaced.gap order listed listedLater
  rw [← Bool.not_eq_true, joins_iff regularFirst regular]
  omega

theorem getElem?_replace {left right : List Bucket} (old new : Bucket) {slot : Nat}
    (differs : slot ≠ left.length) : (left ++ new :: right)[slot]? = (left ++ old :: right)[slot]? := by
  rcases Nat.lt_or_gt_of_ne differs with below | above
  · rw [List.getElem?_append_left below, List.getElem?_append_left below]
  · obtain ⟨beyond, rfl⟩ := Nat.exists_eq_add_of_lt above
    simp [List.getElem?_append, Nat.add_assoc]

/-- A new group in the slot of its number takes the place of the group a whole ring before it. -/
theorem Window.extend (window : Window size groups filled) {filled' : List Bucket}
    (length_eq : filled'.length = min (groups.length + 1) size)
    (placed : filled'[groups.length % size]? = some (.opened event))
    (kept : ∀ slot, slot ≠ groups.length % size → filled'[slot]? = filled[slot]?) :
    Window size (groups ++ [[event]]) filled' := by
  refine ⟨by simpa using length_eq, fun number group listed recent => ?_⟩
  rw [List.length_append, List.length_singleton] at recent
  rcases Nat.lt_or_ge number groups.length with old | new
  · rw [List.getElem?_append_left old] at listed
    obtain ⟨bucket, found, holds⟩ := window.held number group listed (by omega)
    have otherSlot : number % size ≠ groups.length % size := fun sameSlot => by
      have same := eq_of_mod_eq (by omega) (by omega) sameSlot
      omega
    exact ⟨bucket, (kept _ otherSlot).trans found, holds⟩
  · obtain ⟨bound, -⟩ := List.getElem?_eq_some_iff.mp listed
    rw [List.length_append, List.length_singleton] at bound
    obtain rfl : number = groups.length := by omega
    obtain rfl : [event] = group := by simpa using listed
    exact ⟨_, placed, Bucket.holds_opened event⟩

/-- In a full window, the bucket with nothing older holds the group a whole ring before the next. -/
theorem Window.slot_of_oldest (window : Window size groups filled) (spaced : Spaced groups)
    (positive : 0 < size) (full : size ≤ groups.length) {slot : Nat} {bucket : Bucket} {time : Timestamp}
    (found : filled[slot]? = some bucket) (opened : bucket.firstSeen = some time)
    (oldest : ∀ other ∈ filled, ∀ first, other.firstSeen = some first → ¬ first.before time = true) :
    slot = groups.length % size := by
  obtain ⟨number, group, listed, recent, rfl, holds⟩ := window.number_of_slot found
  have listedOldest := List.getElem?_eq_getElem (show groups.length - size < groups.length by omega)
  obtain ⟨other, foundOther, holdsOther⟩ := window.held _ _ listedOldest (by omega)
  obtain ⟨first, rest, rfl, regularFirst⟩ := spaced.begins group (List.mem_of_getElem? listed)
  obtain ⟨next, others, same, regularNext⟩ := spaced.begins _ (List.mem_of_getElem? listedOldest)
  rw [same] at listedOldest holdsOther
  obtain rfl : first.timestamp = time := Option.some.inj (holds.firstSeen_eq.symm.trans opened)
  have notBefore := oldest other (List.mem_of_getElem? foundOther) next.timestamp holdsOther.firstSeen_eq
  rw [Timestamp.before_iff_instant_lt regularNext regularFirst] at notBefore
  have numbered : number = groups.length - size := by
    by_contra differ
    have gap := spaced.gap (by omega) listedOldest listed
    simp only [second] at gap
    omega
  rw [numbered, ← Nat.add_mod_right, Nat.sub_add_cancel full]

/-- The event begins a group, so it takes the next slot in turn. -/
theorem Window.begin (window : Window size groups filled) (spaced : Spaced groups)
    {filled' : List Bucket} {free' : Nat} {placement : Option Placement} (positive : 0 < size)
    (total : filled.length + free = size) (inserted : Ring.Inserted event filled free filled' free' placement)
    (regular : event.timestamp.isLeapSecond = false)
    (late : ∀ first rest, first :: rest ∈ groups → first.timestamp.instant ≤ event.timestamp.instant)
    (far : ∀ first rest, first :: rest ∈ groups → joins first event = false) :
    Window size (groups ++ [[event]]) filled' := by
  have length_eq := window.length_eq
  cases inserted with
  | lost =>
    simp only [List.length_nil] at total
    omega
  | @appended left right bucket free refused accepted =>
    -- the bucket holds a group, and no group takes the event
    have found : (left ++ bucket :: right)[left.length]? = some bucket := by simp
    obtain ⟨number, group, listed, -, -, holds⟩ := window.number_of_slot found
    have member := List.mem_of_getElem? listed
    obtain ⟨first, rest, rfl, regularFirst⟩ := spaced.begins group member
    rw [holds.accepts_eq regularFirst regular (late first rest member), far first rest member] at accepted
    contradiction
  | @claimed filled free refused =>
    have slot : groups.length % size = filled.length := by
      rw [Nat.mod_eq_of_lt (by omega)]
      omega
    refine window.extend (by simp; omega) (by simp [slot]) fun other differs => ?_
    rw [slot] at differs
    rcases Nat.lt_or_gt_of_ne differs with below | above
    · rw [List.getElem?_append_left below]
    · rw [List.getElem?_eq_none (by simp; omega), List.getElem?_eq_none (by omega)]
  | @evicted left right bucket time refused opened oldest =>
    have found : (left ++ bucket :: right)[left.length]? = some bucket := by simp
    have slot := window.slot_of_oldest spaced positive (by omega) found opened oldest
    refine window.extend ?_ (by simp [← slot]) fun other differs => ?_
    · simp only [List.length_append, List.length_cons] at length_eq total ⊢
      omega
    · exact getElem?_replace _ _ (slot ▸ differs)

/-- The event joins the last group, so it goes where that group is. -/
theorem Window.join {earlier : List (List Event)} {first : Event} {rest : List Event}
    (window : Window size (earlier ++ [first :: rest]) filled) (spaced : Spaced (earlier ++ [first :: rest]))
    {filled' : List Bucket} {free' : Nat} {placement : Option Placement}
    (inserted : Ring.Inserted event filled free filled' free' placement)
    (positive : 0 < size) (regular : event.timestamp.isLeapSecond = false)
    (late : ∀ first' rest', first' :: rest' ∈ earlier ++ [first :: rest] →
      first'.timestamp.instant ≤ event.timestamp.instant)
    (near : joins first event = true) :
    Window size (earlier ++ [first :: (rest ++ [event])]) filled' := by
  have listedLast : (earlier ++ [first :: rest])[earlier.length]? = some (first :: rest) := by simp
  have lateLast := late first rest (by simp)
  obtain ⟨last, foundLast, holdsLast⟩ := window.held _ _ listedLast (by simp; omega)
  have regularFirst : first.timestamp.isLeapSecond = false := by
    obtain ⟨begun, tail, ⟨rfl, rfl⟩, regularFirst⟩ := spaced.begins (first :: rest) (by simp)
    exact regularFirst
  have accepts : last.accepts event.timestamp = true :=
    (holdsLast.accepts_eq regularFirst regular lateLast).trans near
  cases inserted with
  | lost => simp at foundLast
  | claimed refused => simp [refused last (List.mem_of_getElem? foundLast)] at accepts
  | evicted refused opened oldest => simp [refused last (List.mem_of_getElem? foundLast)] at accepts
  | @appended left right bucket free refused accepted =>
    have found : (left ++ bucket :: right)[left.length]? = some bucket := by simp
    obtain ⟨number, group, listed, recent, slot, holds⟩ := window.number_of_slot found
    obtain ⟨begun, tail, rfl, regularBegun⟩ := spaced.begins group (List.mem_of_getElem? listed)
    -- an older group would have refused the event
    have numbered : number = earlier.length := by
      obtain ⟨bound, -⟩ := List.getElem?_eq_some_iff.mp listed
      rw [List.length_append, List.length_singleton] at bound
      by_contra differs
      have refusal := spaced.refuses regular (by omega) listed listedLast lateLast
      rw [holds.accepts_eq regularBegun regular (late begun tail (List.mem_of_getElem? listed)), refusal]
        at accepted
      contradiction
    subst numbered
    obtain ⟨rfl, rfl⟩ := List.cons.inj (Option.some.inj (listed.symm.trans listedLast))
    refine ⟨by simpa using window.length_eq, fun number group listed recent => ?_⟩
    rw [List.length_append, List.length_singleton] at recent
    rcases Nat.lt_or_ge number earlier.length with old | new
    · rw [List.getElem?_append_left old] at listed
      obtain ⟨other, found, holdsOther⟩ := window.held number group
        (by rw [List.getElem?_append_left old, listed]) (by simpa using recent)
      have otherSlot : number % size ≠ left.length := fun sameSlot => by
        have same := eq_of_mod_eq (Nat.le_of_lt old) (by omega) (sameSlot.trans slot.symm)
        omega
      exact ⟨other, (getElem?_replace _ _ otherSlot).trans found, holdsOther⟩
    · obtain ⟨bound, -⟩ := List.getElem?_eq_some_iff.mp listed
      rw [List.length_append, List.length_singleton] at bound
      obtain rfl : number = earlier.length := by omega
      obtain rfl : begun :: (tail ++ [event]) = group := by simpa using listed
      exact ⟨_, by simp [slot], holds.push event⟩

/-! ## Runs -/

/-- Insertions in the order of time keep the last groups in the ring. -/
theorem exists_window (positive : 0 < size) (events : List Event)
    (ordered : events.Pairwise fun event later => ¬ later.timestamp.before event.timestamp = true)
    (regular : ∀ event ∈ events, event.timestamp.isLeapSecond = false) :
    Spaced (Cache.groups events) ∧ ∃ filled free, ((Ring.empty size).insertAll events).Layout filled free ∧
      filled.length + free = size ∧ Window size (Cache.groups events) filled := by
  induction events using List.reverseRecOn with
  | nil =>
    refine ⟨⟨by simp [Cache.groups], by simp [Cache.groups]⟩, [], size, Ring.layout_empty size, by simp, ?_⟩
    exact ⟨by simp [Cache.groups], by simp [Cache.groups]⟩
  | append_singleton events event ih =>
    rw [List.pairwise_append] at ordered
    rw [List.forall_mem_append, List.forall_mem_singleton] at regular
    obtain ⟨spaced, filled, free, layout, total, window⟩ := ih ordered.1 regular.1
    obtain ⟨filled', free', inserted, layout'⟩ := layout.insert event
    have late : ∀ first rest, first :: rest ∈ Cache.groups events →
        first.timestamp.instant ≤ event.timestamp.instant := by
      intro first rest member
      have inEvents : first ∈ events := by
        rw [← flatten_groups events, List.mem_flatten]
        exact ⟨_, member, by simp⟩
      have notBefore := ordered.2.2 first inEvents event (by simp)
      rw [Timestamp.before_iff_instant_lt regular.2 (regular.1 first inEvents)] at notBefore
      omega
    have grouped := groups_concat events event
    refine ⟨grouped.spaced spaced regular.2, filled', free', ?_, inserted.size.trans total, ?_⟩
    · simpa [Ring.insertAll] using layout'
    · generalize Cache.groups events = before at *
      generalize Cache.groups (events ++ [event]) = after at *
      cases grouped with
      | first => exact window.begin spaced positive total inserted regular.2 late (by simp)
      | joined near => exact window.join spaced inserted positive regular.2 late near
      | @begun earlier first rest far =>
        refine window.begin spaced positive total inserted regular.2 late fun other tail member => ?_
        obtain ⟨number, listed⟩ := List.getElem?_of_mem member
        have bound := (List.getElem?_eq_some_iff.mp listed).1
        rw [List.length_append, List.length_singleton] at bound
        rcases Nat.lt_or_ge number earlier.length with old | last
        · have listedLast : (earlier ++ [first :: rest])[earlier.length]? = some (first :: rest) := by simp
          exact spaced.refuses regular.2 old listed listedLast (late first rest (by simp))
        · obtain rfl : number = earlier.length := by omega
          obtain ⟨rfl, rfl⟩ : first = other ∧ rest = tail := by simpa using listed
          exact far

/-- The ring holds the last of these groups, as many as it has slots. -/
structure Ring.ShowsLast (ring : Ring) (size : Nat) (groups : List (List Event)) : Prop where
  size_eq : ring.size = size
  held : ∀ number group, groups[number]? = some group → groups.length ≤ number + size →
    ∃ bucket, ring.buckets[number % size]? = some bucket ∧ bucket.Holds group
  /-- Slots that no group has reached yet. -/
  vacant : ∀ slot bucket, groups.length ≤ slot → ring.buckets[slot]? = some bucket → bucket = .vacant
  /-- A query goes through the held groups by slot. -/
  eventsOf_eq : ∀ container, ring.eventsOf container =
    (List.range (min groups.length size)).flatMap fun slot =>
      (groups[latestIn size groups.length slot]?.getD []).filter (·.container = container)

theorem Window.showsLast {ring : Ring} (window : Window size groups filled) (layout : ring.Layout filled free)
    (total : filled.length + free = size) : ring.ShowsLast size groups where
  size_eq := by simpa [Ring.size, layout.buckets_eq] using total
  held number group listed recent := by
    obtain ⟨bucket, found, holds⟩ := window.held number group listed recent
    refine ⟨bucket, ?_, holds⟩
    rw [layout.buckets_eq, List.getElem?_append_left (List.getElem?_eq_some_iff.mp found).1, found]
  vacant slot bucket beyond found := by
    have length_eq := window.length_eq
    rw [layout.buckets_eq, List.getElem?_append_right (by omega)] at found
    exact List.eq_of_mem_replicate (List.mem_of_getElem? found)
  eventsOf_eq container := by
    have slots : filled.map (·.eventsOf container) = (List.range (min groups.length size)).map fun slot =>
        (groups[latestIn size groups.length slot]?.getD []).filter (·.container = container) := by
      refine List.ext_getElem (by simpa using window.length_eq) fun slot bound _ => ?_
      rw [List.length_map] at bound
      obtain ⟨inside, recent, sameSlot⟩ := latestIn_spec (window.length_eq ▸ bound)
      obtain ⟨bucket, found, holds⟩ := window.held _ _ (List.getElem?_eq_getElem inside) recent
      rw [sameSlot, List.getElem?_eq_getElem bound] at found
      obtain rfl := Option.some.inj found
      simp [holds.eventsOf_eq, List.getElem?_eq_getElem inside]
    have vacants : (List.replicate free Bucket.vacant).flatMap (·.eventsOf container) = [] := by simp
    rw [Ring.eventsOf, layout.buckets_eq, List.flatMap_append, vacants, List.append_nil, List.flatMap_def, slots,
      List.flatMap_def]

theorem Ring.ShowsLast.eventsOf_eq_filter {ring : Ring} (shows : ring.ShowsLast size groups)
    (few : groups.length ≤ size) (container : ContainerId) :
    ring.eventsOf container = groups.flatten.filter (·.container = container) := by
  have whole : ((List.range groups.length).map fun slot => groups[latestIn size groups.length slot]?.getD []) =
      groups := by
    refine List.ext_getElem (by simp) fun slot _ bound => ?_
    have same : latestIn size groups.length slot = slot := by
      rw [latestIn, Nat.div_eq_of_lt (by omega), Nat.mul_zero, Nat.add_zero]
    simp [same, bound]
  have filtered := congrArg (fun listed => (listed.map (List.filter (·.container = container))).flatten) whole
  rw [List.map_map] at filtered
  rw [shows.eventsOf_eq, Nat.min_eq_left few, List.filter_flatten]
  exact filtered

/-- In the order of time and without leap seconds, a ring shows the last groups of what was inserted, and
everything as long as there are no more groups than slots. -/
theorem showsLast_insertAll_empty (size : Nat) (positive : 0 < size) (events : List Event)
    (ordered : events.Pairwise fun event later => ¬ later.timestamp.before event.timestamp = true)
    (regular : ∀ event ∈ events, event.timestamp.isLeapSecond = false) :
    ((Ring.empty size).insertAll events).ShowsLast size (Cache.groups events) ∧
      ((Cache.groups events).length ≤ size → ∀ container,
        ((Ring.empty size).insertAll events).eventsOf container = events.filter (·.container = container)) := by
  obtain ⟨-, filled, free, layout, total, window⟩ := exists_window positive events ordered regular
  have shows := window.showsLast layout total
  refine ⟨shows, fun few container => ?_⟩
  rw [shows.eventsOf_eq_filter few, flatten_groups]

/-- Events of one container at these seconds of a minute. -/
private def ticks (seconds : List String) : List Event :=
  seconds.filterMap fun second =>
    (Trace.readFields (Text.joinWith Trace.separator
      [("2024-01-01T00:00:" ++ second).toList, ['a'], [], ['1'], ['2'], [], [], []])).toOption

/-- Two slots and three groups, so that the third takes the slot of the first. -/
theorem showsLast_three_groups_in_two_slots :
    let events := ticks ["00.0", "00.7", "01.0", "02.9", "03.5"]
    events.length = 5 ∧
      (events.Pairwise fun event later => ¬ later.timestamp.before event.timestamp = true) ∧
      (∀ event ∈ events, event.timestamp.isLeapSecond = false) ∧
      ((Ring.empty 2).insertAll events).ShowsLast 2
        [ticks ["00.0", "00.7"], ticks ["01.0"], ticks ["02.9", "03.5"]] := by
  intro events
  have facts : events.length = 5 ∧
      (events.Pairwise fun event later => ¬ later.timestamp.before event.timestamp = true) ∧
      (∀ event ∈ events, event.timestamp.isLeapSecond = false) ∧
      Cache.groups events = [ticks ["00.0", "00.7"], ticks ["01.0"], ticks ["02.9", "03.5"]] := by
    decide +kernel
  obtain ⟨complete, ordered, regular, split⟩ := facts
  exact ⟨complete, ordered, regular,
    split ▸ (showsLast_insertAll_empty 2 (by decide) events ordered regular).1⟩

end Observatory.Cache
