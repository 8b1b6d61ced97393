import Observatory.Cluster.Owner

/-! # Chains of owners

From a reference the chain of owners goes on through jobs and replica sets that the cluster finds, to the
first owner of each. It can end in any other kind, in an object without owner or in one that is not found, and
it need not end. Main statement: whatever the cluster answers, resolving gives the last element of a chain of
at most eight if that element is known, and no owner in all other cases; and it asks about the first eight
elements, in their order, and about nothing else.
-/

namespace Observatory.Cluster

variable {source : OwnerSource} {namespace_ : String} {start owner next : OwnerRef} {kind name : String}
  {depth position : Nat}

namespace OwnerSource

/-- The element that the chain goes on with. -/
def next? (source : OwnerSource) (namespace_ : String) (owner : OwnerRef) : Option OwnerRef :=
  if owner.kind = .job ∨ owner.kind = .replicaSet then
    (source.fetch owner.kind namespace_ owner.name).bind (·.owner)
  else none

/-- The element of a chain at this position, if the chain is long enough. -/
def ownerAt (source : OwnerSource) (namespace_ : String) (start : OwnerRef) : Nat → Option OwnerRef
  | 0 => some start
  | position + 1 => (source.ownerAt namespace_ start position).bind (source.next? namespace_)

/-- The name by which an owner is known: that of the object if there is one to be found, and that of the
reference if the kind is enough. -/
inductive Known (source : OwnerSource) (namespace_ : String) (owner : OwnerRef) : String → Prop
  | plain (isPlain : owner.kind = .pod ∨ owner.kind = .node) : Known source namespace_ owner owner.name
  | custom {kind : String} {kinds : List String} (isCustom : owner.kind = .custom kind)
      (listed : source.customKinds = some kinds) (member : kind ∈ kinds) :
      Known source namespace_ owner owner.name
  | found {object : FetchedOwner} (lookedUp : owner.kind.isLookedUp = true)
      (fetched : source.fetch owner.kind namespace_ owner.name = some object) :
      Known source namespace_ owner object.name

/-- The chain ends at this position, in an owner of this kind that is known by this name. -/
def EndsAt (source : OwnerSource) (namespace_ : String) (start : OwnerRef) (position : Nat)
    (kind name : String) : Prop :=
  ∃ last, source.ownerAt namespace_ start position = some last ∧ source.next? namespace_ last = none ∧
    source.Known namespace_ last name ∧ last.kind.name = kind

/-- The first elements of a chain, at most this many. -/
def owners (source : OwnerSource) (namespace_ : String) (start : OwnerRef) (depth : Nat) : List OwnerRef :=
  (List.range depth).filterMap (source.ownerAt namespace_ start)

/-! ## One element further -/

theorem ownerAt_succ (source : OwnerSource) (namespace_ : String) (start : OwnerRef) (position : Nat) :
    source.ownerAt namespace_ start (position + 1) =
      (source.next? namespace_ start).bind (source.ownerAt namespace_ · position) := by
  induction position with
  | zero => simp [ownerAt]
  | succ position ih =>
    rw [ownerAt, ih, Option.bind_assoc]
    rfl

theorem owners_succ (source : OwnerSource) (namespace_ : String) (start : OwnerRef) (depth : Nat) :
    source.owners namespace_ start (depth + 1) =
      start :: (source.next? namespace_ start).elim [] (source.owners namespace_ · depth) := by
  have shifted : (List.range depth).filterMap (fun position => source.ownerAt namespace_ start (position + 1)) =
      (source.next? namespace_ start).elim [] (source.owners namespace_ · depth) := by
    simp only [ownerAt_succ]
    cases source.next? namespace_ start with
    | none => simp
    | some next => rfl
  rw [owners, List.range_succ_eq_map, List.filterMap_cons, List.filterMap_map]
  exact congrArg (start :: ·) shifted

/-- A chain ends at its first owner, or as the chain of the next one does. -/
theorem exists_endsAt_succ_iff :
    (∃ position < depth + 1, source.EndsAt namespace_ start position kind name) ↔
      source.next? namespace_ start = none ∧ source.Known namespace_ start name ∧ start.kind.name = kind ∨
        ∃ next, source.next? namespace_ start = some next ∧
          ∃ position < depth, source.EndsAt namespace_ next position kind name := by
  constructor
  · rintro ⟨position, bound, last, reached, final, known⟩
    cases position with
    | zero =>
      obtain rfl : start = last := Option.some.inj reached
      exact .inl ⟨final, known⟩
    | succ position =>
      rw [ownerAt_succ] at reached
      obtain ⟨next, follows, reached⟩ := Option.bind_eq_some_iff.mp reached
      exact .inr ⟨next, follows, position, by omega, last, reached, final, known⟩
  · rintro (⟨final, known⟩ | ⟨next, follows, position, bound, last, reached, ends⟩)
    · exact ⟨0, by omega, start, rfl, final, known⟩
    · exact ⟨position + 1, by omega, last, by rw [ownerAt_succ, follows, Option.bind_some, reached], ends⟩

end OwnerSource

/-- What the cluster is asked about an owner. -/
def OwnerRef.question? (namespace_ : String) (owner : OwnerRef) : Option Lookup :=
  if owner.kind.isLookedUp then some (.object owner.kind.name namespace_ owner.name)
  else if owner.kind.isCustom then some .customKinds
  else none

/-! ## Resolving -/

namespace OwnerSource

theorem known_iff_of_isLookedUp (lookedUp : owner.kind.isLookedUp = true) :
    source.Known namespace_ owner name ↔
      ∃ object, source.fetch owner.kind namespace_ owner.name = some object ∧ object.name = name := by
  constructor
  · rintro (⟨pod | node⟩ | ⟨isCustom, -⟩ | ⟨-, fetched⟩)
    · simp [pod, OwnerKind.isLookedUp] at lookedUp
    · simp [node, OwnerKind.isLookedUp] at lookedUp
    · simp [isCustom, OwnerKind.isLookedUp] at lookedUp
    · exact ⟨_, fetched, rfl⟩
  · rintro ⟨object, fetched, rfl⟩
    exact .found lookedUp fetched

theorem known_iff_of_isPlain (isPlain : owner.kind = .pod ∨ owner.kind = .node) :
    source.Known namespace_ owner name ↔ owner.name = name := by
  constructor
  · rintro (_ | ⟨isCustom, -⟩ | ⟨lookedUp, -⟩)
    · rfl
    · rfl
    · rcases isPlain with pod | node
      · simp [pod, OwnerKind.isLookedUp] at lookedUp
      · simp [node, OwnerKind.isLookedUp] at lookedUp
  · rintro rfl
    exact .plain isPlain

theorem known_iff_of_isCustom (isCustom : owner.kind = .custom kind) :
    source.Known namespace_ owner name ↔ kind ∈ source.customKinds.getD [] ∧ owner.name = name := by
  constructor
  · rintro (⟨pod | node⟩ | ⟨same, listed, member⟩ | ⟨lookedUp, -⟩)
    · simp [pod] at isCustom
    · simp [node] at isCustom
    · obtain rfl : kind = _ := OwnerKind.custom.inj (isCustom.symm.trans same)
      simpa [listed] using member
    · simp [isCustom, OwnerKind.isLookedUp] at lookedUp
  · rintro ⟨member, rfl⟩
    cases listed : source.customKinds with
    | none => simp [listed] at member
    | some kinds => exact .custom isCustom listed (by simpa [listed] using member)

/-- Only some kinds of owners are followed further. -/
theorem next?_eq (source : OwnerSource) (namespace_ : String) (owner : OwnerRef) :
    source.next? namespace_ owner =
      if owner.kind.followsOwner then (source.fetch owner.kind namespace_ owner.name).bind (·.owner) else none := by
  obtain ⟨kind, name⟩ := owner
  cases kind <;> rfl

/-- The chain goes on from a job or a replica set that was found. -/
theorem next?_eq_some_iff : source.next? namespace_ owner = some next ↔
    owner.kind.followsOwner = true ∧ ∃ object, source.fetch owner.kind namespace_ owner.name = some object ∧
      object.owner = some next := by
  rw [next?_eq]
  split <;> simp_all [Option.bind_eq_some_iff]

end OwnerSource

theorem OwnerKind.isLookedUp_of_followsOwner {kind : OwnerKind} (follows : kind.followsOwner = true) :
    kind.isLookedUp = true := by
  cases kind with
  | job | replicaSet => rfl
  | deployment | daemonSet | statefulSet | cronJob | pod | node | custom kind => cases follows

private theorem resolveWithin_eq (lookedUp : owner.kind.isLookedUp = true) :
    resolveWithin source namespace_ (depth + 1) owner =
      match source.fetch owner.kind namespace_ owner.name with
      | none => (.unknown, [.object owner.kind.name namespace_ owner.name])
      | some object =>
          match object.owner, owner.kind.followsOwner with
          | some next, true =>
              ((resolveWithin source namespace_ depth next).1,
                .object owner.kind.name namespace_ owner.name :: (resolveWithin source namespace_ depth next).2)
          | _, _ => (.resolved owner.kind.name object.name, [.object owner.kind.name namespace_ owner.name]) := by
  obtain ⟨kind, name⟩ := owner
  cases kind with
  | pod | node | custom kind => cases lookedUp
  | deployment | daemonSet | statefulSet | job | cronJob | replicaSet => rfl

/-- Where the chain goes on, the next element is resolved in place of this one. -/
theorem resolveWithin_of_next (follows : source.next? namespace_ start = some next) :
    resolveWithin source namespace_ (depth + 1) start =
      ((resolveWithin source namespace_ depth next).1,
        .object start.kind.name namespace_ start.name :: (resolveWithin source namespace_ depth next).2) := by
  obtain ⟨followed, object, fetched, owned⟩ := OwnerSource.next?_eq_some_iff.mp follows
  rw [resolveWithin_eq (OwnerKind.isLookedUp_of_followsOwner followed)]
  simp [fetched, owned, followed]

/-- The last element of a chain is resolved to the name by which it is known. -/
theorem resolveWithin_of_final (final : source.next? namespace_ start = none) :
    (resolveWithin source namespace_ (depth + 1) start).2 = (start.question? namespace_).toList ∧
      ∀ kind name, (resolveWithin source namespace_ (depth + 1) start).1 = .resolved kind name ↔
        source.Known namespace_ start name ∧ start.kind.name = kind := by
  cases lookedUp : start.kind.isLookedUp with
  | true =>
    simp only [resolveWithin_eq lookedUp, OwnerRef.question?, lookedUp, OwnerSource.known_iff_of_isLookedUp lookedUp]
    cases fetched : source.fetch start.kind namespace_ start.name with
    | none => simp
    | some object =>
      -- an owner of the object would be the next element
      have unowned : object.owner = none ∨ start.kind.followsOwner = false := by
        cases owned : object.owner with
        | none => exact .inl rfl
        | some next =>
          refine .inr (Bool.eq_false_iff.mpr fun followed => ?_)
          rw [OwnerSource.next?_eq_some_iff.mpr ⟨followed, object, fetched, owned⟩] at final
          cases final
      rcases unowned with unowned | unfollowed
      · simp [unowned, and_comm]
      · simp [unfollowed, and_comm]
  | false =>
    obtain ⟨ownerKind, given⟩ := start
    cases ownerKind with
    | deployment | daemonSet | statefulSet | job | cronJob | replicaSet => cases lookedUp
    | pod | node =>
      simp only [OwnerSource.known_iff_of_isPlain, true_or, or_true]
      simp [resolveWithin, OwnerRef.question?, lookedUp, OwnerKind.isCustom, and_comm]
    | custom custom =>
      have known (name : String) : source.Known namespace_ ⟨.custom custom, given⟩ name ↔ _ :=
        OwnerSource.known_iff_of_isCustom rfl
      by_cases member : custom ∈ source.customKinds.getD [] <;>
        simp [resolveWithin, OwnerRef.question?, lookedUp, OwnerKind.isCustom, OwnerKind.name, known, member, and_comm]

/-! ## Whole chains -/

/-- An owner is resolved just when its chain ends within the depth. -/
theorem resolveWithin_eq_resolved_iff :
    (resolveWithin source namespace_ depth start).1 = .resolved kind name ↔
      ∃ position < depth, source.EndsAt namespace_ start position kind name := by
  induction depth generalizing start with
  | zero => simp [resolveWithin]
  | succ depth ih =>
    rw [OwnerSource.exists_endsAt_succ_iff]
    cases follows : source.next? namespace_ start with
    | none => simp [(resolveWithin_of_final follows).2]
    | some next => simp [resolveWithin_of_next follows, ih]

/-- Each owner along the chain is asked for once. -/
theorem lookups_resolveWithin (source : OwnerSource) (namespace_ : String) (depth : Nat) (start : OwnerRef) :
    (resolveWithin source namespace_ depth start).2 =
      (source.owners namespace_ start depth).filterMap (·.question? namespace_) := by
  induction depth generalizing start with
  | zero => rfl
  | succ depth ih =>
    rw [OwnerSource.owners_succ]
    cases follows : source.next? namespace_ start with
    | none =>
      rw [(resolveWithin_of_final follows).1, List.filterMap_cons]
      cases start.question? namespace_ <;> rfl
    | some next =>
      have followed := (OwnerSource.next?_eq_some_iff.mp follows).1
      have asked : start.question? namespace_ = some (.object start.kind.name namespace_ start.name) := by
        rw [OwnerRef.question?, if_pos (OwnerKind.isLookedUp_of_followsOwner followed)]
      rw [resolveWithin_of_next follows, List.filterMap_cons_some asked, ih]
      rfl

/-- No chain goes beyond a custom kind, so their list is asked for once at most. -/
theorem count_customKinds_le (source : OwnerSource) (namespace_ : String) (depth : Nat) (start : OwnerRef) :
    (resolveWithin source namespace_ depth start).2.count .customKinds ≤ 1 := by
  induction depth generalizing start with
  | zero => exact Nat.zero_le 1
  | succ depth ih =>
    cases follows : source.next? namespace_ start with
    | none =>
      rw [(resolveWithin_of_final follows).1]
      cases start.question? namespace_ with
      | none => simp
      | some question => exact List.count_le_length
    | some next =>
      rw [resolveWithin_of_next follows, List.count_cons_of_ne (by simp)]
      exact ih next

/-- Whatever the cluster answers, the owner is the last element of a chain that ends within eight elements in an
owner that is known, and there is none for any other chain. The questions are those about the first eight
elements in their order, so at most eight objects and one list of custom kinds are asked for. -/
theorem resolveOwner_of_chain (source : OwnerSource) (namespace_ : String) (start : OwnerRef) :
    let answer := resolveOwner source namespace_ start
    (∀ kind name, answer.1 = .resolved kind name ↔
        ∃ position < 8, source.EndsAt namespace_ start position kind name) ∧
      (answer.1 = .unknown ↔ ¬ ∃ position < 8, ∃ kind name, source.EndsAt namespace_ start position kind name) ∧
      answer.2 = (source.owners namespace_ start 8).filterMap (·.question? namespace_) ∧
      (answer.2.filter (· ≠ .customKinds)).length ≤ 8 ∧ answer.2.count .customKinds ≤ 1 := by
  intro answer
  have resolved (kind name : String) : answer.1 = .resolved kind name ↔ _ := resolveWithin_eq_resolved_iff
  have asked : answer.2 = _ := lookups_resolveWithin source namespace_ 8 start
  have few : answer.2.length ≤ 8 := by
    have elements := List.length_filterMap_le (source.ownerAt namespace_ start) (List.range 8)
    rw [List.length_range] at elements
    rw [asked]
    exact Nat.le_trans (List.length_filterMap_le ..) elements
  refine ⟨resolved, ?_, asked, Nat.le_trans (List.length_filter_le ..) few, count_customKinds_le ..⟩
  cases result : answer.1 with
  | unknown =>
    refine iff_of_true rfl ?_
    rintro ⟨position, bound, kind, name, ends⟩
    have known := (resolved kind name).mpr ⟨position, bound, ends⟩
    simp [result] at known
  | resolved kind name =>
    obtain ⟨position, bound, ends⟩ := (resolved kind name).mp result
    exact iff_of_false (by simp) fun endless => endless ⟨position, bound, kind, name, ends⟩

/-- Replica sets that own one another up to this height, and a node that owns the topmost. -/
private def ladder (height : Nat) : OwnerSource where
  fetch _ _ name :=
    some ⟨name, some (if name.length < height then ⟨.replicaSet, name ++ "+"⟩ else ⟨.node, "worker"⟩)⟩
  customKinds := none

-- a node at the eighth place is still reached, though it is not asked about, and at the ninth it is not
example :
    resolveOwner (ladder 7) "shop" ⟨.replicaSet, "+"⟩ =
        (.resolved "Node" "worker",
          (List.range 7).map fun n => .object "ReplicaSet" "shop" (String.ofList (List.replicate (n + 1) '+'))) ∧
      (resolveOwner (ladder 8) "shop" ⟨.replicaSet, "+"⟩).1 = .unknown := by
  decide +kernel

end Observatory.Cluster
