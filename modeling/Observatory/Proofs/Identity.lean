import Observatory.Identity
import Observatory.Proofs.Text.Utf8

/-! # Names that do not collide

The name of a workload's artifacts is put together from its namespace, its kind, its own name and the image,
and whoever has the same name overwrites the artifacts. Main statement: as long as namespaces have no dot, kinds
no dash, and names do not contain the text that comes before the image, two workloads share a name only if they
agree in all four, kinds up to case. Names may still contain dots, dashes and all but the end of that text, and
images anything.
-/

namespace Observatory

namespace Text

/-! ## Lowercase text -/

/-- No run leads below the small letters or out of the characters. -/
private theorem target_of_mem_lowercaseRuns {run : LowercaseRun} (member : run ∈ lowercaseRuns) {n : Nat}
    (bound : n ≤ run.last - run.first) : 'a'.toNat ≤ run.target + n ∧ (run.target + n).isValidChar := by
  have checked : lowercaseRuns.all (fun run => 'a'.toNat ≤ run.target &&
      (run.target + (run.last - run.first) < 0xD800 ||
        0xDFFF < run.target && run.target + (run.last - run.first) < 0x110000)) = true := by
    decide +kernel
  have here := List.all_eq_true.mp checked run member
  simp only [Bool.and_eq_true, Bool.or_eq_true, decide_eq_true_eq] at here
  refine ⟨by omega, ?_⟩
  unfold Nat.isValidChar
  omega

private theorem toLower_eq_self_or (c : Char) : c.toLower = c ∨ 'a'.toNat ≤ c.toLower.toNat := by
  unfold Char.toLower
  split
  · rename_i capital
    have lower := UInt32.le_iff_toNat_le.mp capital.1
    have upper := UInt32.le_iff_toNat_le.mp capital.2
    have bounds : 65 ≤ c.val.toNat ∧ c.val.toNat ≤ 90 := ⟨lower, upper⟩
    right
    change 97 ≤ (c.val + 32).toNat
    rw [UInt32.toNat_add]
    simp only [UInt32.reduceToNat]
    omega
  · exact .inl rfl

/-- A character that is not kept becomes a small letter or one beyond them. -/
theorem lowercaseChar_eq_self_or (c : Char) : lowercaseChar c = c ∨ 'a'.toNat ≤ (lowercaseChar c).toNat := by
  unfold lowercaseChar
  split
  · exact toLower_eq_self_or c
  · split
    · rename_i run found
      have covered := List.find?_some found
      simp only [LowercaseRun.covers, Bool.and_eq_true, decide_eq_true_eq] at covered
      obtain ⟨above, valid⟩ := target_of_mem_lowercaseRuns (List.mem_of_find?_eq_some found)
        (show c.toNat - run.first ≤ run.last - run.first by omega)
      rw [toNat_ofNat valid]
      exact .inr above
    · exact .inl rfl

private theorem mem_of_mem_lowercaseFrom {before text : List Char} {c : Char} (below : c.toNat < 'a'.toNat)
    (member : c ∈ lowercaseFrom before text) : c ∈ text := by
  induction text generalizing before with
  | nil => exact member
  | cons first rest ih =>
    rcases List.mem_append.mp member with here | later
    · split at here
      · -- both forms of the small sigma lie beyond the small letters
        split at here <;> obtain rfl := List.mem_singleton.mp here <;> exact absurd below (by decide)
      · split at here
        · rcases List.mem_pair.mp here with rfl | rfl <;> exact absurd below (by decide)
        · obtain rfl := List.mem_singleton.mp here
          rcases lowercaseChar_eq_self_or first with same | above
          · rw [same]
            exact List.mem_cons_self
          · omega
    · exact List.mem_cons_of_mem _ (ih later)

/-- Lowercasing brings in nothing that comes before the small letters. -/
theorem mem_of_mem_lowercase {text : List Char} {c : Char} (below : c.toNat < 'a'.toNat)
    (member : c ∈ lowercase text) : c ∈ text :=
  mem_of_mem_lowercaseFrom below member

end Text

namespace ResourceIdentity

open Text

variable {identity other : ResourceIdentity}

/-! ## Workloads and their names -/

/-- The parts of the name can be told apart. -/
structure Separable (identity : ResourceIdentity) : Prop where
  undotted : '.' ∉ identity.namespace_.toList
  undashed : '-' ∉ identity.ancestorKind.toList
  unmarked : ¬ ".imagename-".toList <:+: identity.ancestorName.toList

instance (identity : ResourceIdentity) : Decidable identity.Separable :=
  decidable_of_iff (_ ∧ _ ∧ _) ⟨fun ⟨undotted, undashed, unmarked⟩ => ⟨undotted, undashed, unmarked⟩,
    fun separable => ⟨separable.undotted, separable.undashed, separable.unmarked⟩⟩

theorem Separable.not_dot_infix (separable : identity.Separable) : ¬ ['.'] <:+: identity.namespace_.toList :=
  mt (List.singleton_infix_iff _ _).mp separable.undotted

theorem Separable.not_dash_infix (separable : identity.Separable) :
    ¬ ['-'] <:+: lowercase identity.ancestorKind.toList := by
  rw [List.singleton_infix_iff]
  exact mt (mem_of_mem_lowercase (by decide)) separable.undashed

/-- The name with its separators in view. -/
theorem toList_resourceName (identity : ResourceIdentity) :
    identity.resourceName.toList = "namespace-".toList ++ (identity.namespace_.toList ++ (['.'] ++
      (lowercase identity.ancestorKind.toList ++ (['-'] ++
        (identity.ancestorName.toList ++ (".imagename-".toList ++ identity.image.toList)))))) := by
  unfold resourceName
  generalize "namespace-".toList = front, ".imagename-".toList = mark
  simp

/-- Workloads that can be told apart share a name exactly if they agree in namespace, own name and image, and
in kind up to case. -/
theorem resourceName_eq_iff (identity other : ResourceIdentity) (separable : identity.Separable)
    (separableOther : other.Separable) :
    identity.resourceName = other.resourceName ↔
      identity.namespace_ = other.namespace_ ∧
        lowercase identity.ancestorKind.toList = lowercase other.ancestorKind.toList ∧
        identity.ancestorName = other.ancestorName ∧ identity.image = other.image := by
  have dot : Unbordered ['.'] := by decide
  have dash : Unbordered ['-'] := by decide
  have mark : Unbordered ".imagename-".toList := by decide
  constructor
  · intro same
    have texts := congrArg String.toList same
    rw [toList_resourceName, toList_resourceName, List.append_cancel_left_eq] at texts
    -- the name is cut at its first dot, then at the first dash, then at the first mark
    obtain ⟨namespaces, texts⟩ := dot.append_inj separable.not_dot_infix separableOther.not_dot_infix texts
    obtain ⟨kinds, texts⟩ := dash.append_inj separable.not_dash_infix separableOther.not_dash_infix texts
    obtain ⟨names, images⟩ := mark.append_inj separable.unmarked separableOther.unmarked texts
    exact ⟨String.toList_inj.mp namespaces, kinds, String.toList_inj.mp names, String.toList_inj.mp images⟩
  · rintro ⟨namespaces, kinds, names, images⟩
    rw [← String.toList_inj, toList_resourceName, toList_resourceName, namespaces, kinds, names, images]

/-- A name that ends in most of the mark, beside one without it, and kinds that differ in case. -/
theorem resourceName_eq_iff_of_lookalikes :
    let first : ResourceIdentity := ⟨"shop", "ReplicaSet", "web.imagename", "-a.imagename-b"⟩
    let louder : ResourceIdentity := ⟨"shop", "REPLICASET", "web.imagename", "-a.imagename-b"⟩
    let shorter : ResourceIdentity := ⟨"shop", "ReplicaSet", "web", ".imagename--a.imagename-b"⟩
    first.Separable ∧ louder.Separable ∧ shorter.Separable ∧ first.resourceName = louder.resourceName ∧
      first.resourceName ≠ shorter.resourceName := by
  intro first louder shorter
  have separable : first.Separable ∧ louder.Separable ∧ shorter.Separable := by decide +kernel
  obtain ⟨separableFirst, separableLouder, separableShorter⟩ := separable
  refine ⟨separableFirst, separableLouder, separableShorter, ?_, fun same => ?_⟩
  · exact (resourceName_eq_iff first louder separableFirst separableLouder).mpr ⟨rfl, by decide +kernel, rfl, rfl⟩
  · have agree := (resourceName_eq_iff first shorter separableFirst separableShorter).mp same
    exact absurd agree.2.2.1 (by decide +kernel)

end ResourceIdentity

end Observatory
