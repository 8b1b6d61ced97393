import Observatory.Proofs.Aggregation.Merge
import Observatory.Proofs.Text.ByteOrder
import Mathlib.Data.List.Destutter

/-! # Canonical profiles

A profile is stored as it is, so two monitors that saw the same system calls should derive the same one. Main
statement: a profile that is to allow some names is told by which names these are. It lists them in the order of their
bytes, as any way of sorting them and leaving out repeated neighbours would, and it lists the system calls of a report
as the report does, whatever the order and the repetitions of the recorded events.
-/

namespace Observatory

open Aggregation (Report)
open Text.Utf8 (encode)
open Trace (Event)

variable {names others arranged : List String} {events : List Event}

/-! ## Sorted names -/

theorem Text.Utf8.le_of_encode_le {name other : String} (notHigher : encode name.toList ≤ encode other.toList) :
    name ≤ other := by
  refine String.not_lt.mp fun higher => ?_
  exact List.not_lt.mpr notHigher (encode_lt_encode (String.lt_iff.mp higher))

/-- However names have been sorted, without repeated neighbours they are the distinct names in order. -/
theorem Sorted.destutter_eq_ofList (same : arranged.Perm names) (sorted : arranged.Pairwise (· ≤ ·)) :
    arranged.destutter (· ≠ ·) = ofList names := by
  have sortedDistinct := (sorted.sublist (List.dedup_sublist arranged)).and (List.nodup_dedup arranged)
  rw [sorted.destutter_eq_dedup]
  apply eq_ofList
  · exact sortedDistinct.imp fun ⟨notHigher, differs⟩ => lt_of_not_lt_of_ne (String.not_lt.mpr notHigher) differs.symm
  · intro name
    rw [List.mem_dedup, same.mem_iff]

/-! ## Recorded events -/

namespace Aggregation.Report

theorem mem_syscallOf {event : Event} {name : String} : name ∈ syscallOf event ↔ name ≠ "" ∧ event.syscall = name := by
  unfold syscallOf
  split
  · rename_i unnamed
    simp [unnamed, eq_comm]
  · rename_i named
    rw [List.mem_singleton, eq_comm]
    refine ⟨?_, And.right⟩
    rintro rfl
    exact ⟨named, rfl⟩

theorem Shows.mem_syscalls {report : Report} (shows : report.Shows events) (name : String) :
    name ∈ report.syscalls ↔ name ≠ "" ∧ ∃ event ∈ events, event.syscall = name := by
  simp only [shows.syscalls_eq, Sorted.mem_ofList, List.mem_flatMap, mem_syscallOf]
  grind

theorem Shows.pairwise_syscalls {report : Report} (shows : report.Shows events) :
    report.syscalls.Pairwise (· < ·) := by
  rw [shows.syscalls_eq]
  exact Sorted.pairwise_ofList _

end Aggregation.Report

/-! ## Profiles -/

namespace SyscallProfile

theorem allowOnly_congr (same : ∀ name, name ∈ names ↔ name ∈ others) : allowOnly names = allowOnly others := by
  unfold allowOnly
  rw [Sorted.ofList_congr same]

theorem mem_allowed_allowOnly (name : String) : name ∈ (allowOnly names).allowed ↔ name ∈ names := by
  rw [allowed_allowOnly, Sorted.mem_ofList]

/-- The profile of some names depends on which names there are, and so does the profile of some events, which lists
their system calls as the report does. -/
theorem allowOnly_canonical (names : List String) (events : List Event) :
    (∀ others, (∀ name, name ∈ names ↔ name ∈ others) → allowOnly names = allowOnly others) ∧
      (allowOnly names).allowed.Pairwise (fun name other => encode name.toList < encode other.toList) ∧
      (∀ name, name ∈ (allowOnly names).allowed ↔ name ∈ names) ∧
      (∀ arranged : List String, arranged.Perm names →
        arranged.Pairwise (fun name other => encode name.toList ≤ encode other.toList) →
        (allowOnly names).allowed = arranged.destutter (· ≠ ·)) ∧
      allowOnly (allowOnly names).allowed = allowOnly names ∧
      (allowOnly (events.foldl Report.record .empty).syscalls).allowed =
        (events.foldl Report.record .empty).syscalls ∧
      (∀ name, name ∈ (events.foldl Report.record .empty).syscalls ↔
        name ≠ "" ∧ ∃ event ∈ events, event.syscall = name) ∧
      ∀ others : List Event, (∀ event, event ∈ events ↔ event ∈ others) →
        (others.foldl Report.record .empty).syscalls = (events.foldl Report.record .empty).syscalls := by
  have shows := Report.Shows.recordAll events
  refine ⟨fun others => allowOnly_congr, ?_, mem_allowed_allowOnly, fun arranged same sorted => ?_,
    allowOnly_congr mem_allowed_allowOnly, ?_, shows.mem_syscalls, fun others same => ?_⟩
  · rw [allowed_allowOnly]
    exact Text.Utf8.pairwise_encode_lt (Sorted.pairwise_ofList names)
  · rw [allowed_allowOnly, Sorted.destutter_eq_ofList same (sorted.imp Text.Utf8.le_of_encode_le)]
  · rw [allowed_allowOnly, Sorted.ofList_of_pairwise shows.pairwise_syscalls]
  · rw [(Report.Shows.recordAll others).syscalls_eq, (shows.congr same).syscalls_eq]

/-- Events with these system calls. -/
private def calls (names : List String) : List Event :=
  names.filterMap fun name =>
    (Trace.readFields (Text.joinWith Trace.separator
      ["2024-01-01T00:00:00.0".toList, ['a'], [], ['1'], ['2'], name.toList, [], []])).toOption

/-- The first of the names in the order of bytes would be the second in that of two-byte units. -/
theorem allowOnly_canonical_of_supplementary :
    (calls ["😀", "", "\uffff"]).length = 3 ∧
      allowOnly ["😀", "\uffff", "😀"] = allowOnly ["\uffff", "😀"] ∧
      (allowOnly ["😀", "\uffff", "😀"]).allowed = ["\uffff", "😀"] ∧
      (allowOnly ((calls ["😀", "", "\uffff"]).foldl Report.record .empty).syscalls).allowed =
        ((calls ["\uffff", "😀", "", "😀"]).foldl Report.record .empty).syscalls := by
  have names : ∀ name, name ∈ ["😀", "\uffff", "😀"] ↔ name ∈ ["\uffff", "😀"] := by simp [or_comm]
  have sorted : ["\uffff", "😀", "😀"].Perm ["😀", "\uffff", "😀"] ∧
      ["\uffff", "😀", "😀"].Pairwise fun name other => encode name.toList ≤ encode other.toList := by
    decide +kernel
  have events : (calls ["😀", "", "\uffff"]).length = 3 ∧
      calls ["😀", "", "\uffff"] ⊆ calls ["\uffff", "😀", "", "😀"] ∧
      calls ["\uffff", "😀", "", "😀"] ⊆ calls ["😀", "", "\uffff"] := by
    decide +kernel
  obtain ⟨congr, -, -, arranged, -, listed, -, unordered⟩ :=
    allowOnly_canonical ["😀", "\uffff", "😀"] (calls ["😀", "", "\uffff"])
  refine ⟨events.1, congr _ names, (arranged _ sorted.1 sorted.2).trans (by decide +kernel), ?_⟩
  rw [listed, unordered _ fun event => ⟨@events.2.1 event, @events.2.2 event⟩]

end SyscallProfile

end Observatory
