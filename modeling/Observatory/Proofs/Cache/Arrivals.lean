import Observatory.Proofs.Cache.Window
import Mathlib.Data.List.Sigma
import Mathlib.Data.List.Perm.Subperm

/-! # The arrivals that a ring still holds

Equal events may be inserted more than once, so what a ring holds is followed by the number of each
insertion. The arrivals are entered in a second list of slots wherever the ring says that it has put them.
Main statement: slot by slot, the ring holds the arrivals entered there and shows them in their order; in
each slot they stand in the order of arrival, and none stands in two slots.
-/

namespace Observatory.Cache

open Calendar Trace

/-- An event with its number among the insertions. -/
abbrev Arrival := Event × Nat

/-- Enter an arrival where its event was placed. -/
def enter (slots : List (List Arrival)) (arrival : Arrival) : Option Placement → List (List Arrival)
  | some (.appended slot) => slots.modify slot (· ++ [arrival])
  | some (.claimed slot) | some (.evicted slot) => slots.modify slot fun _ => [arrival]
  | none => slots

/-- A ring together with the arrivals that are in its slots. -/
structure Ledger where
  ring : Ring
  slots : List (List Arrival)

namespace Ledger

def empty (size : Nat) : Ledger := ⟨.empty size, List.replicate size []⟩

/-- Insert the event of an arrival, and enter it where it was placed. -/
def record (ledger : Ledger) (arrival : Arrival) : Ledger :=
  let (ring, placement) := ledger.ring.insert arrival.1
  ⟨ring, enter ledger.slots arrival placement⟩

def recordAll (ledger : Ledger) (arrivals : List Arrival) : Ledger :=
  arrivals.foldl record ledger

variable {ledger : Ledger} {arrivals : List Arrival} {arrival : Arrival}

@[simp] theorem empty_ring (size : Nat) : (empty size).ring = .empty size := rfl

/-- The ledger has the ring that the events alone lead to. -/
theorem ring_recordAll (ledger : Ledger) (arrivals : List Arrival) :
    (ledger.recordAll arrivals).ring = ledger.ring.insertAll (arrivals.map (·.1)) := by
  induction arrivals generalizing ledger with
  | nil => rfl
  | cons arrival rest ih => exact ih (ledger.record arrival)

/-! ## One more arrival -/

/-- Two lists that agree slot by slot still do when the same slot of both is changed in step. -/
private theorem forall₂_modify {α β : Type} {R : α → β → Prop} {left right : List α} {old new : α}
    {slots : List β} {change : β → β} (agree : List.Forall₂ R (left ++ old :: right) slots)
    (changed : ∀ slot, R old slot → R new (change slot)) :
    List.Forall₂ R (left ++ new :: right) (slots.modify left.length change) := by
  induction left generalizing slots with
  | nil =>
    cases agree with
    | cons here rest => exact .cons (changed _ here) rest
  | cons head left ih =>
    cases agree with
    | cons here rest => exact .cons here (ih rest)

private theorem mem_modify {α : Type} {slots : List α} {slot : Nat} {change : α → α} {held : α}
    (member : held ∈ slots.modify slot change) : held ∈ slots ∨ ∃ old ∈ slots, held = change old := by
  obtain ⟨index, found⟩ := List.getElem?_of_mem member
  rw [List.getElem?_modify] at found
  obtain ⟨old, foundOld, same⟩ := Option.map_eq_some_iff.mp found
  split at same
  · exact .inr ⟨old, List.mem_of_getElem? foundOld, same.symm⟩
  · exact .inl (same ▸ List.mem_of_getElem? foundOld)

private theorem subperm_flatten_modify {slots : List (List Arrival)} {slot : Nat}
    {change : List Arrival → List Arrival} (grows : ∀ held, (change held).Subperm (held ++ [arrival])) :
    (slots.modify slot change).flatten.Subperm (slots.flatten ++ [arrival]) := by
  induction slots generalizing slot with
  | nil => simp
  | cons held rest ih =>
    cases slot with
    | zero =>
      have moved : (held ++ [arrival] ++ rest.flatten).Perm (held ++ (rest.flatten ++ [arrival])) := by
        rw [List.append_assoc]
        exact List.perm_append_comm.append_left held
      rw [List.flatten_cons, List.append_assoc]
      exact ((List.subperm_append_right _).mpr (grows held)).trans moved.subperm
    | succ slot =>
      rw [List.modify_succ_cons, List.flatten_cons, List.flatten_cons, List.append_assoc]
      exact (List.subperm_append_left held).mpr ih

/-- What a ledger says about the arrivals that were recorded in it. -/
structure Keeps (ledger : Ledger) (arrivals : List Arrival) : Prop where
  holds : List.Forall₂ (fun bucket held => bucket.Holds (held.map (·.1))) ledger.ring.buckets ledger.slots
  sublist : ∀ held ∈ ledger.slots, held.Sublist arrivals
  subperm : ledger.slots.flatten.Subperm arrivals

theorem keeps_empty (size : Nat) : (empty size).Keeps [] where
  holds := by
    have vacant : Bucket.vacant.Holds [] := ⟨rfl, fun _ => rfl⟩
    exact List.forall₂_iff_get.mpr ⟨by simp [empty, Ring.empty], fun _ _ _ => by simpa [empty, Ring.empty]⟩
  sublist held member := by simp [List.eq_of_mem_replicate member]
  subperm := by simp [empty]

/-- One bucket was replaced, and its slot has the arrival at its end or to itself. -/
private theorem Keeps.modify {left right : List Bucket} {old new : Bucket} {ring : Ring}
    {change : List Arrival → List Arrival} (keeps : ledger.Keeps arrivals)
    (before : ledger.ring.buckets = left ++ old :: right) (after : ring.buckets = left ++ new :: right)
    (holds : ∀ held, old.Holds (held.map (·.1)) → new.Holds ((change held).map (·.1)))
    (changes : ∀ held, change held = held ++ [arrival] ∨ change held = [arrival]) :
    Keeps ⟨ring, ledger.slots.modify left.length change⟩ (arrivals ++ [arrival]) where
  holds := by
    rw [after]
    exact forall₂_modify (before ▸ keeps.holds) holds
  sublist held member := by
    rcases mem_modify member with same | ⟨old, present, rfl⟩
    · exact (keeps.sublist held same).trans (List.sublist_append_left _ _)
    · rcases changes old with last | alone
      · exact last ▸ (keeps.sublist old present).append_right [arrival]
      · exact alone ▸ List.sublist_append_right _ _
  subperm := by
    have grows : ∀ held, (change held).Subperm (held ++ [arrival]) := fun held => by
      rcases changes held with last | alone
      · exact last ▸ List.Subperm.refl _
      · exact alone ▸ (List.sublist_append_right held [arrival]).subperm
    exact (subperm_flatten_modify grows).trans ((List.subperm_append_right _).mpr keeps.subperm)

/-- A slot holds events in the order in which they arrived, and each at most once. -/
theorem Keeps.record {filled : List Bucket} {free : Nat} (keeps : ledger.Keeps arrivals)
    (layout : ledger.ring.Layout filled free) (arrival : Arrival) :
    (ledger.record arrival).Keeps (arrivals ++ [arrival]) := by
  obtain ⟨filled', free', inserted, layout'⟩ := layout.insert arrival.1
  unfold Ledger.record
  generalize ledger.ring.insert arrival.1 = result at inserted layout'
  obtain ⟨ring, placement⟩ := result
  have before := layout.buckets_eq
  have after : ring.buckets = _ := layout'.buckets_eq
  have opened : ∀ held : List Arrival, (Bucket.opened arrival.1).Holds ([arrival].map (·.1)) := fun _ =>
    Bucket.holds_opened arrival.1
  simp only at inserted
  cases inserted with
  | @appended left right bucket _ _ accepted =>
    rw [List.append_assoc] at before after
    refine keeps.modify before after (fun held holds => ?_) fun _ => .inl rfl
    -- a bucket that accepts something has been opened, so its slot is not empty
    obtain ⟨first, opened, -⟩ := Bucket.accepts_iff.mp accepted
    cases held with
    | nil => exact absurd (opened.symm.trans holds.firstSeen_eq) (by simp)
    | cons head rest => simpa using holds.push arrival.1
  | claimed =>
    rw [List.replicate_succ] at before
    rw [List.append_assoc] at after
    exact keeps.modify before after (fun held _ => opened held) fun _ => .inr rfl
  | evicted =>
    rw [List.append_assoc] at before after
    exact keeps.modify before after (fun held _ => opened held) fun _ => .inr rfl
  | lost =>
    refine ⟨by simpa [after, before, enter] using keeps.holds, fun held member => ?_, ?_⟩
    · exact (keeps.sublist held member).trans (List.sublist_append_left _ _)
    · exact keeps.subperm.trans (List.sublist_append_left _ _).subperm

theorem keeps_recordAll (size : Nat) (arrivals : List Arrival) :
    ((empty size).recordAll arrivals).Keeps arrivals := by
  induction arrivals using List.reverseRecOn with
  | nil => exact keeps_empty size
  | append_singleton arrivals arrival ih =>
    obtain ⟨filled, free, invariant, -⟩ := (Ring.invariant_empty size).insertAll (arrivals.map (·.1))
    rw [← empty_ring, ← ring_recordAll] at invariant
    simpa [recordAll] using ih.record invariant.toLayout arrival

end Ledger

/-- The arrivals in each slot of a ring after these insertions. -/
def holdings (size : Nat) (events : List Event) : List (List Arrival) :=
  ((Ledger.empty size).recordAll events.zipIdx).slots

/-- What a query for the container shows, with the number of each insertion. -/
def shown (size : Nat) (events : List Event) (container : ContainerId) : List Arrival :=
  (holdings size events).flatten.filter (·.1.container = container)

variable {size : Nat} {events : List Event} {container : ContainerId}

/-- The slots of the ledger hold what the buckets of the ring hold. -/
theorem holds_holdings (size : Nat) (events : List Event) :
    List.Forall₂ (fun bucket held => bucket.Holds (held.map (·.1)))
      ((Ring.empty size).insertAll events).buckets (holdings size events) := by
  have holds := (Ledger.keeps_recordAll size events.zipIdx).holds
  rwa [Ledger.ring_recordAll, Ledger.empty_ring, List.zipIdx_map_fst] at holds

theorem sublist_of_mem_holdings {held : List Arrival} (member : held ∈ holdings size events) :
    held.Sublist events.zipIdx :=
  (Ledger.keeps_recordAll size events.zipIdx).sublist held member

/-- What is held has arrived, and was not held twice. -/
theorem subperm_flatten_holdings (size : Nat) (events : List Event) :
    (holdings size events).flatten.Subperm events.zipIdx :=
  (Ledger.keeps_recordAll size events.zipIdx).subperm

/-- A query shows the events of the arrivals that are held, and nothing else. -/
theorem map_shown (size : Nat) (events : List Event) (container : ContainerId) :
    (shown size events container).map (·.1) = ((Ring.empty size).insertAll events).eventsOf container := by
  have agree := holds_holdings size events
  unfold shown Ring.eventsOf
  generalize ((Ring.empty size).insertAll events).buckets = buckets, holdings size events = slots at agree ⊢
  induction agree with
  | nil => rfl
  | cons holds _ ih =>
    rw [List.flatten_cons, List.filter_append, List.map_append, ih, List.flatMap_cons, holds.eventsOf_eq,
      List.filter_map]
    rfl

theorem pairwise_zipIdx (events : List Event) :
    events.zipIdx.Pairwise fun arrival later => arrival.2 < later.2 := by
  rw [← List.pairwise_map (f := Prod.snd) (R := (· < ·)), List.zipIdx_map_snd]
  exact List.pairwise_lt_range'

theorem nodup_holdings (size : Nat) (events : List Event) : (holdings size events).flatten.Nodup := by
  have distinct : events.zipIdx.Nodup := .of_map Prod.snd (List.nodup_zipIdx_map_snd events)
  obtain ⟨arrivals, perm, sublist⟩ := subperm_flatten_holdings size events
  exact perm.nodup_iff.mp (distinct.sublist sublist)

/-- What is shown of the later insertions is among them. -/
theorem subperm_shown_later (size : Nat) (events later : List Event) (container : ContainerId) :
    (((shown size (events ++ later) container).filter (events.length ≤ ·.2)).map (·.1)).Subperm
      (later.filter (·.container = container)) := by
  have numbered : ((events ++ later).zipIdx.filter (events.length ≤ ·.2)).map (·.1) = later := by
    have none_before : events.zipIdx.filter (events.length ≤ ·.2) = [] := by
      rw [List.filter_eq_nil_iff]
      intro arrival member
      have bound := (List.getElem?_eq_some_iff.mp (List.mem_zipIdx_iff_getElem?.mp member)).1
      simpa using bound
    have all_after : (later.zipIdx events.length).filter (events.length ≤ ·.2) = later.zipIdx events.length := by
      rw [List.filter_eq_self]
      intro arrival member
      simpa using List.le_snd_of_mem_zipIdx member
    rw [List.zipIdx_append, List.filter_append, none_before, Nat.zero_add, all_after, List.nil_append,
      List.zipIdx_map_fst]
  have whole : later.filter (·.container = container) =
      (((events ++ later).zipIdx.filter (events.length ≤ ·.2)).filter (·.1.container = container)).map (·.1) := by
    nth_rewrite 1 [← numbered]
    rw [List.filter_map]
    rfl
  obtain ⟨arrivals, perm, sublist⟩ := ((subperm_flatten_holdings size (events ++ later)).filter
    (events.length ≤ ·.2)).filter (·.1.container = container)
  rw [whole, shown, List.filter_comm]
  exact ⟨arrivals.map (·.1), perm.map _, sublist.map _⟩

end Observatory.Cache
