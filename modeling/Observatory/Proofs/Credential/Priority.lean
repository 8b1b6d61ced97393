import Observatory.Proofs.Text.Split
import Observatory.Scanner
import Mathlib.Data.List.TakeWhile

/-! # The credential that a scanner is given

A scanner is given the first credential only, and the first one whose registry contains the name of the image's
registry is moved there. Main statements: nothing else is moved, and nothing is lost or repeated; and for an image of
a named registry what comes first is the registry's own credential exactly if no credential for a registry whose name
contains it stands before. Otherwise the scanner is given the credential of another registry.
-/

namespace Observatory.Credential

open Text

variable {credential : Credential} {credentials : List Credential} {registry image : String}

/-! ## Moving to the front -/

section MoveToFront

variable {α : Type} {p : α → Bool} {items before after : List α} {found : α}

theorem moveToFront_append (passed : ∀ item ∈ before, p item = false) (wanted : p found = true) :
    moveToFront p (before ++ found :: after) = found :: (before ++ after) := by
  have skipped : ∀ item ∈ before, (!p item) = true := by simpa using passed
  have stops : ¬ (!p found) = true := by simp [wanted]
  rw [moveToFront, List.dropWhile_append_of_pos skipped, @List.dropWhile_cons_of_neg _ (!p ·) _ _ stops,
    List.takeWhile_append_of_pos skipped, @List.takeWhile_cons_of_neg _ (!p ·) _ _ stops]
  simp

/-- The first element with the property comes first, and the others keep their order. -/
theorem moveToFront_of_find? (first : items.find? p = some found) :
    ∃ before after, items = before ++ found :: after ∧ (∀ item ∈ before, p item = false) ∧ p found = true ∧
      moveToFront p items = found :: (before ++ after) := by
  obtain ⟨wanted, before, after, rfl, passed⟩ := List.find?_eq_some_iff_append.mp first
  have passed : ∀ item ∈ before, p item = false := by simpa using passed
  exact ⟨before, after, rfl, passed, wanted, moveToFront_append passed wanted⟩

theorem moveToFront_of_find?_eq_none (absent : items.find? p = none) : moveToFront p items = items := by
  have skipped : ∀ item ∈ items, (!p item) = true := by simpa using absent
  rw [moveToFront, List.dropWhile_eq_nil_iff.mpr skipped]

theorem moveToFront_eq_append (p : α → Bool) (items : List α) :
    moveToFront p items = (items.find? p).toList ++ items.eraseP p := by
  cases first : items.find? p with
  | none =>
    rw [moveToFront_of_find?_eq_none first, List.eraseP_of_forall_not (List.find?_eq_none.mp first)]
    rfl
  | some found =>
    obtain ⟨before, after, rfl, passed, wanted, moved⟩ := moveToFront_of_find? first
    rw [moved, List.eraseP_append_right _ (by simpa using passed), List.eraseP_cons_of_pos wanted]
    rfl

theorem moveToFront_perm (p : α → Bool) (items : List α) : (moveToFront p items).Perm items := by
  cases first : items.find? p with
  | none => rw [moveToFront_of_find?_eq_none first]
  | some found =>
    obtain ⟨before, after, rfl, -, -, moved⟩ := moveToFront_of_find? first
    rw [moved]
    exact List.perm_middle.symm

theorem moveToFront_moveToFront (p : α → Bool) (items : List α) :
    moveToFront p (moveToFront p items) = moveToFront p items := by
  cases first : items.find? p with
  | none => rw [moveToFront_of_find?_eq_none first, moveToFront_of_find?_eq_none first]
  | some found =>
    obtain ⟨before, after, rfl, -, wanted, moved⟩ := moveToFront_of_find? first
    rw [moved]
    exact @moveToFront_append α p [] _ found (by simp) wanted

theorem rotateRight_append_singleton (before : List α) (found : α) :
    (before ++ [found]).rotateRight 1 = found :: before := by
  cases before with
  | nil => rfl
  | cons first rest => simp [List.rotateRight]

/-- What moves is the part that ends with the first element that has the property, by one place. -/
theorem moveToFront_eq_rotateRight {position : Nat} (first : items.findIdx? p = some position) :
    moveToFront p items = (items.take (position + 1)).rotateRight 1 ++ items.drop (position + 1) := by
  obtain ⟨bound, wanted, passed⟩ := List.findIdx?_eq_some_iff_getElem.mp first
  have skipped : ∀ item ∈ items.take position, p item = false := by
    intro item member
    obtain ⟨earlier, smaller, rfl⟩ := List.mem_take_iff_getElem.mp member
    simpa using passed earlier (by omega)
  calc moveToFront p items
      = moveToFront p (items.take position ++ items[position] :: items.drop (position + 1)) := by simp
    _ = items[position] :: (items.take position ++ items.drop (position + 1)) := moveToFront_append skipped wanted
    _ = (items.take (position + 1)).rotateRight 1 ++ items.drop (position + 1) := by
      rw [← List.take_append_getElem bound, rotateRight_append_singleton, List.cons_append]

end MoveToFront

/-! ## Registries that contain one another -/

/-- The name of the registry stands in that of the credential. -/
def Mentions (credential : Credential) (registry : String) : Prop :=
  registry.toList <:+: credential.registry.toList

instance (credential : Credential) (registry : String) : Decidable (credential.Mentions registry) :=
  inferInstanceAs (Decidable (_ <:+: _))

theorem isFor_iff (named : registry ≠ defaultRegistry) :
    credential.isFor registry = true ↔ credential.Mentions registry := by
  simp [isFor, named, occursIn_iff_isInfix, Mentions]

/-- The second name of the default registry contains the first, so it makes no difference. -/
theorem isFor_iff_mentions : credential.isFor registry = true ↔ credential.Mentions registry := by
  by_cases named : registry = defaultRegistry
  · subst named
    have inside : defaultRegistry.toList <:+: "index.docker.io".toList := by decide
    simp only [isFor, Bool.or_eq_true, Bool.and_eq_true, occursIn_iff_isInfix, Mentions, or_iff_left_iff_imp]
    exact fun second => inside.trans second.2
  · exact isFor_iff named

theorem prioritize_eq_moveToFront (credentials : List Credential) (image : String) :
    prioritize credentials image = moveToFront (·.Mentions (imageRegistry image)) credentials := by
  have same : (fun credential : Credential => credential.isFor (imageRegistry image)) =
      fun credential => decide (credential.Mentions (imageRegistry image)) := by
    funext credential
    rw [Bool.eq_iff_iff, isFor_iff_mentions, decide_eq_true_iff]
  rw [prioritize, same]

/-- The first credential that mentions an image's registry comes first, and the others follow as they were. -/
theorem prioritize_moves_first (credentials : List Credential) (image : String) :
    prioritize credentials image =
        (credentials.find? (·.Mentions (imageRegistry image))).toList ++
          credentials.eraseP (·.Mentions (imageRegistry image)) ∧
      (∀ position, credentials.findIdx? (·.Mentions (imageRegistry image)) = some position →
        prioritize credentials image =
          (credentials.take (position + 1)).rotateRight 1 ++ credentials.drop (position + 1)) ∧
      ((∀ credential ∈ credentials, ¬ credential.Mentions (imageRegistry image)) →
        prioritize credentials image = credentials) ∧
      (prioritize credentials image).Perm credentials ∧
      (prioritize credentials image).tail.Sublist credentials ∧
      prioritize (prioritize credentials image) image = prioritize credentials image := by
  simp only [prioritize_eq_moveToFront]
  refine ⟨moveToFront_eq_append _ _, fun position => moveToFront_eq_rotateRight, fun unmentioned => ?_,
    moveToFront_perm _ _, ?_, moveToFront_moveToFront _ _⟩
  · exact moveToFront_of_find?_eq_none (List.find?_eq_none.mpr (by simpa using unmentioned))
  · rw [moveToFront_eq_append]
    cases credentials.find? (·.Mentions (imageRegistry image)) with
    | none => exact (List.tail_sublist _).trans List.eraseP_sublist
    | some first => exact List.eraseP_sublist

private def ofRegistry (registry : String) : Credential :=
  ⟨registry, "user", "password", ""⟩

/-- A credential under the second name of the default registry goes before the one in front of it. -/
theorem prioritize_moves_first_of_alias :
    [ofRegistry "quay.io", ofRegistry "index.docker.io", ofRegistry "docker.io"].findIdx?
        (·.Mentions (imageRegistry "nginx:1.25")) = some 1 ∧
      prioritize [ofRegistry "quay.io", ofRegistry "index.docker.io", ofRegistry "docker.io"] "nginx:1.25" =
        [ofRegistry "index.docker.io", ofRegistry "quay.io", ofRegistry "docker.io"] ∧
      prioritize [ofRegistry "index.docker.io", ofRegistry "quay.io", ofRegistry "docker.io"] "nginx:1.25" =
        [ofRegistry "index.docker.io", ofRegistry "quay.io", ofRegistry "docker.io"] ∧
      prioritize [ofRegistry "quay.io"] "nginx:1.25" = [ofRegistry "quay.io"] := by
  have first : [ofRegistry "quay.io", ofRegistry "index.docker.io", ofRegistry "docker.io"].findIdx?
      (·.Mentions (imageRegistry "nginx:1.25")) = some 1 := by
    decide +kernel
  obtain ⟨-, rotated, -, -, -, again⟩ :=
    prioritize_moves_first [ofRegistry "quay.io", ofRegistry "index.docker.io", ofRegistry "docker.io"] "nginx:1.25"
  obtain ⟨-, -, unmoved, -⟩ := prioritize_moves_first [ofRegistry "quay.io"] "nginx:1.25"
  have moved := rotated 1 first
  rw [moved] at again
  exact ⟨first, moved, again, unmoved (by decide +kernel)⟩

theorem mentions_of_eq (own : credential.registry = registry) : credential.Mentions registry := by
  rw [Mentions, own]

theorem lookup_environment (scan : Scan) (credential : Credential) (others : List Credential) :
    (scan.environment (credential :: others)).lookup (scan.variableStem ++ "AUTHORITY") = some credential.registry := by
  simp [Scan.environment]

/-- The first of some credentials that mentions a registry is the registry's own exactly if none that stands before
the own ones mentions it. -/
theorem registry_eq_iff {before after : List Credential} (passed : ∀ other ∈ before, ¬ other.Mentions registry)
    (mentions : credential.Mentions registry) :
    credential.registry = registry ↔
      ∀ other ∈ (before ++ credential :: after).takeWhile (·.registry ≠ registry), ¬ other.Mentions registry := by
  constructor
  · intro own other member
    have stops : (credential :: after).takeWhile (·.registry ≠ registry) = [] := by simp [own]
    rw [List.takeWhile_append, stops, List.append_nil] at member
    split at member
    · exact passed other member
    · exact passed other (List.takeWhile_subset _ member)
  · intro unmentioned
    by_contra differs
    have others : ∀ other ∈ before, decide (other.registry ≠ registry) = true := by
      intro other member
      rw [decide_eq_true_iff]
      exact fun own => passed other member (mentions_of_eq own)
    refine unmentioned credential ?_ mentions
    rw [List.takeWhile_append_of_pos others]
    simp [differs]

/-- The credential of an image's registry comes first exactly if none of a registry that contains its name stands
before it. What comes first is what scanners are given, and it mentions the registry in any case. -/
theorem own_first_iff (credentials : List Credential) (image : String) (named : imageRegistry image ≠ defaultRegistry)
    (own : ∃ credential ∈ credentials, credential.registry = imageRegistry image) :
    ∃ first others, prioritize credentials image = first :: others ∧ first.Mentions (imageRegistry image) ∧
      (∀ scan : Scan, (scan.environment (prioritize credentials image)).lookup (scan.variableStem ++ "AUTHORITY") =
        some first.registry) ∧
      (first.registry = imageRegistry image ↔
        ∀ credential ∈ credentials.takeWhile (·.registry ≠ imageRegistry image),
          ¬ credential.Mentions (imageRegistry image)) := by
  obtain ⟨holder, member, holds⟩ := own
  have isThere : (credentials.find? (·.isFor (imageRegistry image))).isSome :=
    List.find?_isSome.mpr ⟨holder, member, (isFor_iff named).mpr (mentions_of_eq holds)⟩
  obtain ⟨first, found⟩ := Option.isSome_iff_exists.mp isThere
  obtain ⟨before, after, rfl, passed, wanted, moved⟩ := moveToFront_of_find? found
  have mentions := (isFor_iff named).mp wanted
  have passed : ∀ other ∈ before, ¬ other.Mentions (imageRegistry image) := by
    intro other member
    rw [← isFor_iff named, passed other member]
    exact Bool.false_ne_true
  have front : prioritize (before ++ first :: after) image = first :: (before ++ after) := moved
  refine ⟨first, before ++ after, front, mentions, fun scan => ?_, registry_eq_iff passed mentions⟩
  rw [front, lookup_environment]

/-- A registry that contains the name of the wanted one stands behind it, and one that does not stands before. -/
theorem own_first_of_mirror :
    imageRegistry "gcr.io/org/app" ≠ defaultRegistry ∧
      ofRegistry "gcr.io" ∈ [ofRegistry "quay.io", ofRegistry "gcr.io", ofRegistry "eu.gcr.io"] ∧
      ∃ first others,
        prioritize [ofRegistry "quay.io", ofRegistry "gcr.io", ofRegistry "eu.gcr.io"] "gcr.io/org/app" =
          first :: others ∧
        first.registry = "gcr.io" := by
  have image : imageRegistry "gcr.io/org/app" = "gcr.io" := by decide +kernel
  have named : imageRegistry "gcr.io/org/app" ≠ defaultRegistry := by decide +kernel
  obtain ⟨first, others, front, -, -, own⟩ :=
    own_first_iff [ofRegistry "quay.io", ofRegistry "gcr.io", ofRegistry "eu.gcr.io"] "gcr.io/org/app" named
      ⟨ofRegistry "gcr.io", by simp, image.symm⟩
  refine ⟨named, by simp, first, others, front, ?_⟩
  rw [← image]
  exact own.mpr (by decide +kernel)

/-- The credential of a region's registry comes before that of the registry itself in every secret that has both,
since names are in order there, and it is the one that the scanners of the registry's images are given. -/
theorem lookalike_first :
    imageRegistry "gcr.io/org/app" = "gcr.io" ∧ "gcr.io" ≠ defaultRegistry ∧ "eu.gcr.io" < "gcr.io" ∧
      ofRegistry "gcr.io" ∈ [ofRegistry "eu.gcr.io", ofRegistry "gcr.io"] ∧
      prioritize [ofRegistry "eu.gcr.io", ofRegistry "gcr.io"] "gcr.io/org/app" =
        [ofRegistry "eu.gcr.io", ofRegistry "gcr.io"] ∧
      (Scan.sbom.environment (prioritize [ofRegistry "eu.gcr.io", ofRegistry "gcr.io"] "gcr.io/org/app")).lookup
        "SYFT_REGISTRY_AUTH_AUTHORITY" = some "eu.gcr.io" := by
  decide +kernel

end Observatory.Credential
