import Observatory.Aggregation.Aggregator
import Observatory.Proofs.Sorted
import Observatory.Proofs.Table

/-! # What a report lists

A report lists the system calls of the events that were added to it. Main statement: the progress of an
aggregation lists those of the cached and of the received events, although an event that is in both is
added only once, because what is left out has been added before.
-/

namespace Observatory.Aggregation

open Trace

variable {report : Report} {progress : Progress} {event : Event} {events cached received : List Event}

/-- The report lists the named system calls of these events, in order and without repetition. -/
structure Report.Lists (report : Report) (events : List Event) : Prop where
  sorted : report.syscalls.Pairwise (· < ·)
  mem_iff : ∀ name, name ∈ report.syscalls ↔ name ≠ "" ∧ ∃ event ∈ events, event.syscall = name

namespace Report.Lists

theorem empty : Report.empty.Lists [] := ⟨List.Pairwise.nil, by simp [Report.empty]⟩

private theorem mem_syscallOf {name : String} :
    name ∈ syscallOf event ↔ name ≠ "" ∧ event.syscall = name := by
  unfold syscallOf
  split
  · rename_i unnamed
    simp only [List.not_mem_nil, false_iff, not_and]
    intro named same
    exact named (same ▸ unnamed)
  · rename_i named
    rw [List.mem_singleton]
    constructor
    · rintro rfl
      exact ⟨named, rfl⟩
    · rintro ⟨-, same⟩
      exact same.symm

theorem record (lists : report.Lists events) (event : Event) :
    (report.record event).Lists (events ++ [event]) := by
  obtain ⟨sorted, members⟩ := Sorted.foldl_insert (syscallOf event) lists.sorted
  refine ⟨sorted, fun name => ?_⟩
  rw [Report.record, members, lists.mem_iff, mem_syscallOf, ← and_or_left]
  simp [or_and_right, exists_or]

/-- An event that has been added need not be added again. -/
theorem repeated (lists : report.Lists events) (known : event ∈ events) :
    report.Lists (events ++ [event]) := by
  refine ⟨lists.sorted, fun name => ?_⟩
  rw [lists.mem_iff]
  refine and_congr_right fun _ => ⟨?_, ?_⟩
  · rintro ⟨other, member, same⟩
    exact ⟨other, List.mem_append_left _ member, same⟩
  · rintro ⟨other, member, same⟩
    rcases List.mem_append.mp member with old | new
    · exact ⟨other, old, same⟩
    · obtain rfl := List.mem_singleton.mp new
      exact ⟨other, known, same⟩

/-- A report lists the events that were recorded. -/
theorem foldl_record (lists : report.Lists events) (added : List Event) :
    (added.foldl Report.record report).Lists (events ++ added) := by
  induction added generalizing report events with
  | nil => simpa using lists
  | cons event rest ih => simpa using ih (lists.record event)

end Report.Lists

/-! ## Replayed events -/

/-- Every replayed event whose live copy is still expected is one of these. -/
def Replayed.Within (replayed : Replayed) (events : List Event) : Prop :=
  ∀ event count, replayed.get? event = some count → event ∈ events

theorem Replayed.within_ofList (events : List Event) : (ofList events).Within events := by
  suffices general : ∀ (replayed : Replayed), replayed.Within events → ∀ added ⊆ events,
      (added.foldl Replayed.add replayed).Within events from
    general .empty (fun event count found => by simp at found) events (List.Subset.refl _)
  intro replayed within added known
  induction added generalizing replayed with
  | nil => exact within
  | cons first rest ih =>
    refine ih (replayed.add first) (fun event count found => ?_) (List.subset_of_cons_subset known)
    simp only [Replayed.add, Table.get?_insert] at found
    split at found
    · rename_i same
      exact same ▸ known (List.mem_cons_self ..)
    · exact within event count found

/-- Only what was replayed is taken for a copy. -/
theorem Replayed.Within.take? {replayed rest : Replayed} (within : replayed.Within events)
    (taken : replayed.take? event = some rest) : event ∈ events ∧ rest.Within events := by
  unfold Replayed.take? at taken
  split at taken
  · contradiction
  · rename_i count found
    have known := within event count found
    refine ⟨known, fun other left remains => ?_⟩
    split at taken
    · obtain rfl := Option.some.inj taken
      rw [Table.get?_erase] at remains
      split at remains
      · contradiction
      · exact within other left remains
    · obtain rfl := Option.some.inj taken
      rw [Table.get?_insert] at remains
      split at remains
      · rename_i same
        exact same ▸ known
      · exact within other left remains

/-! ## Progress -/

/-- The progress after a replay of cached events and the receipt of live ones. -/
structure Progress.Covers (progress : Progress) (cached received : List Event) : Prop where
  lists : progress.report.Lists (cached ++ received)
  within : progress.replayed.Within cached

theorem Progress.covers_ofCache (cached : List Event) : (ofCache cached).Covers cached [] :=
  ⟨by simpa [ofCache] using Report.Lists.empty.foldl_record cached, Replayed.within_ofList cached⟩

/-- An event that is received is listed, or was replayed before. -/
theorem Progress.Covers.record (covers : progress.Covers cached received) (event : Event) :
    (progress.record event).Covers cached (received ++ [event]) := by
  unfold Progress.record
  split
  · rename_i rest taken
    obtain ⟨known, within⟩ := covers.within.take? taken
    have repeated := covers.lists.repeated (List.mem_append_left received known)
    exact ⟨by simpa using repeated, within⟩
  · have recorded := covers.lists.record event
    exact ⟨by simpa using recorded, covers.within⟩

end Observatory.Aggregation
