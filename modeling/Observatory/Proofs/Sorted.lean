import Observatory.Profile

/-! # Sorted names

Adding names one by one gives the distinct names in increasing order, whatever order they come in. Main
statement: a profile that is to allow some names allows these and lists them in that order.
-/

namespace Observatory

variable {name other : String} {names : List String}

namespace Sorted

theorem mem_insert : other ∈ insert name names ↔ other = name ∨ other ∈ names := by
  induction names with
  | nil => simp [insert]
  | cons first rest ih =>
    simp only [insert]
    split
    · exact List.mem_cons
    · split
      · rename_i same
        simp [same]
      · rw [List.mem_cons, ih, List.mem_cons]
        exact or_left_comm

theorem lt_of_not_lt_of_ne (notLower : ¬ name < other) (differs : name ≠ other) : other < name := by
  by_cases greater : other < name
  · exact greater
  · exact absurd (String.le_antisymm (String.not_lt.mp greater) (String.not_lt.mp notLower)) differs

theorem pairwise_insert (name : String) (sorted : names.Pairwise (· < ·)) :
    (insert name names).Pairwise (· < ·) := by
  induction names with
  | nil => exact List.pairwise_singleton _ name
  | cons first rest ih =>
    obtain ⟨lowest, sortedRest⟩ := List.pairwise_cons.mp sorted
    simp only [insert]
    split
    · rename_i lower
      refine List.pairwise_cons.mpr ⟨fun other member => ?_, sorted⟩
      rcases List.mem_cons.mp member with rfl | later
      · exact lower
      · exact String.lt_trans lower (lowest other later)
    · split
      · exact sorted
      · rename_i notLower differs
        refine List.pairwise_cons.mpr ⟨fun other member => ?_, ih sortedRest⟩
        rcases mem_insert.mp member with rfl | later
        · exact lt_of_not_lt_of_ne notLower differs
        · exact lowest other later

/-- Adding names to sorted names. -/
theorem foldl_insert (added : List String) (sorted : names.Pairwise (· < ·)) :
    (added.foldl (fun names name => insert name names) names).Pairwise (· < ·) ∧
      ∀ other, other ∈ added.foldl (fun names name => insert name names) names ↔
        other ∈ names ∨ other ∈ added := by
  induction added generalizing names with
  | nil => exact ⟨sorted, by simp⟩
  | cons name rest ih =>
    obtain ⟨sortedAll, members⟩ := ih (pairwise_insert name sorted)
    refine ⟨sortedAll, fun other => ?_⟩
    rw [List.foldl_cons, members, mem_insert, List.mem_cons, or_assoc, or_left_comm]

theorem pairwise_ofList (names : List String) : (ofList names).Pairwise (· < ·) :=
  (foldl_insert names List.Pairwise.nil).1

theorem mem_ofList : other ∈ ofList names ↔ other ∈ names :=
  ((foldl_insert names List.Pairwise.nil).2 other).trans (by simp)

/-- Names in strictly increasing order are told by which they are. -/
theorem eq_ofList {sorted : List String} (increasing : sorted.Pairwise (· < ·))
    (same : ∀ name, name ∈ sorted ↔ name ∈ names) : sorted = ofList names := by
  have distinct {names : List String} (increasing : names.Pairwise (· < ·)) : names.Nodup :=
    increasing.imp fun lower => by
      rintro rfl
      exact String.lt_irrefl _ lower
  apply List.Perm.eq_of_pairwise _ increasing (pairwise_ofList names)
  · rw [List.perm_ext_iff_of_nodup (distinct increasing) (distinct (pairwise_ofList names))]
    intro name
    rw [mem_ofList, same]
  · intro name other _ _ lower higher
    exact absurd (String.lt_trans lower higher) (String.lt_irrefl _)

/-- The order and the repetitions of names do not matter. -/
theorem ofList_congr {others : List String} (same : ∀ name, name ∈ names ↔ name ∈ others) :
    ofList names = ofList others :=
  eq_ofList (pairwise_ofList names) fun name => by rw [mem_ofList, same]

theorem ofList_of_pairwise (increasing : names.Pairwise (· < ·)) : ofList names = names :=
  (eq_ofList increasing fun _ => Iff.rfl).symm

end Sorted

namespace SyscallProfile

theorem allowed_allowOnly (names : List String) : (allowOnly names).allowed = Sorted.ofList names := by
  cases sorted : Sorted.ofList names with
  | nil => simp [allowOnly, allowed, sorted]
  | cons first rest => simp [allowOnly, allowed, sorted]

end SyscallProfile

end Observatory
