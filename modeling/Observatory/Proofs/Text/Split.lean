import Observatory.Text.Split
import Mathlib.Data.List.Infix

/-! # Pieces of a text

A text is cut at its separators from the left. Whether a cut can be undone depends on the separator alone:
if none of its ends is one of its beginnings, then no match reaches from a piece into the separator behind
it. Main statements: the pieces of a text are the one way to join it from pieces that do not contain such a
separator, and a pattern that shares no element with the separator stands in a text exactly if it stands in
one of its pieces.
-/

namespace Observatory.Text

variable {α : Type} [DecidableEq α] {separator pattern text piece before after : List α} {pieces : List (List α)}

theorem occursIn_iff_isInfix (pattern text : List α) : occursIn pattern text = true ↔ pattern <:+: text := by
  induction text with
  | nil => simp [occursIn]
  | cons c rest ih => rw [occursIn, Bool.or_eq_true, List.isPrefixOf_iff_prefix, ih, List.infix_cons_iff]

/-! ## The first cut -/

/-- The first cut leaves the separator out and nothing else, and what stands before it does not contain the
separator. -/
theorem splitOnce_eq_some (solid : separator ≠ []) (cut : splitOnce separator text = some (before, after)) :
    text = before ++ separator ++ after ∧ ¬ separator <:+: before := by
  induction text generalizing before with
  | nil => simp [splitOnce, solid] at cut
  | cons c rest ih =>
    simp only [splitOnce] at cut
    split at cut
    · rename_i here
      obtain ⟨tail, whole⟩ := List.isPrefixOf_iff_prefix.mp here
      obtain ⟨rfl, rfl⟩ : [] = before ∧ (c :: rest).drop separator.length = after := by simpa using cut
      constructor
      · rw [← whole, List.drop_left, List.nil_append]
      · intro inside
        exact solid (List.infix_nil.mp inside)
    · rename_i notHere
      obtain ⟨⟨shorter, last⟩, found, same⟩ := Option.map_eq_some_iff.mp cut
      obtain ⟨rfl, rfl⟩ : c :: shorter = before ∧ last = after := by simpa using same
      obtain ⟨whole, absent⟩ := ih found
      constructor
      · rw [whole, List.cons_append, List.cons_append]
      · intro inside
        rcases List.infix_cons_iff.mp inside with start | later
        · -- what begins a piece begins the text as well
          apply notHere
          rw [List.isPrefixOf_iff_prefix, whole, List.append_assoc, ← List.cons_append]
          exact start.trans (List.prefix_append _ _)
        · exact absent later

theorem splitOnce_eq_none_iff : splitOnce separator text = none ↔ ¬ separator <:+: text := by
  induction text with
  | nil => simp [splitOnce]
  | cons c rest ih =>
    simp only [splitOnce, ← List.isPrefixOf_iff_prefix, List.infix_cons_iff]
    split
    · simp_all
    · simp_all [List.isPrefixOf_iff_prefix]

/-! ## All cuts -/

/-- The elements of a separator that has been found are passed over. -/
private theorem splitFrom_eq (skip : Nat) (text : List α) :
    splitFrom separator skip text = splitOn separator (text.drop skip) := by
  induction text generalizing skip with
  | nil => cases skip <;> simp [splitFrom, splitOn]
  | cons c rest ih =>
    cases skip with
    | zero => rfl
    | succ skip => rw [splitFrom, ih, List.drop_succ_cons]

theorem splitOn_cons (solid : separator ≠ []) (c : α) (rest : List α) :
    splitOn separator (c :: rest) =
      if separator.isPrefixOf (c :: rest) then [] :: splitOn separator ((c :: rest).drop separator.length)
      else (splitOn separator rest).modifyHead (c :: ·) := by
  have length := List.length_pos_iff.mpr solid
  rw [splitOn, splitFrom, splitFrom_eq]
  obtain ⟨shorter, same⟩ : ∃ shorter, separator.length = shorter + 1 := ⟨separator.length - 1, by omega⟩
  rw [same, Nat.add_sub_cancel, List.drop_succ_cons]
  rfl

/-- Cutting everywhere is cutting once and then cutting what is left. -/
theorem splitOn_eq (solid : separator ≠ []) (text : List α) :
    splitOn separator text =
      match splitOnce separator text with
      | none => [text]
      | some (before, after) => before :: splitOn separator after := by
  induction text with
  | nil => simp [splitOn, splitFrom, splitOnce, solid]
  | cons c rest ih =>
    rw [splitOn_cons solid, splitOnce]
    split
    · rfl
    · rw [ih]
      cases splitOnce separator rest with
      | none => rfl
      | some cut => rfl

theorem splitOn_of_notInfix (solid : separator ≠ []) (absent : ¬ separator <:+: text) :
    splitOn separator text = [text] := by
  rw [splitOn_eq solid, splitOnce_eq_none_iff.mpr absent]

theorem splitOn_ne_nil (solid : separator ≠ []) (text : List α) : splitOn separator text ≠ [] := by
  rw [splitOn_eq solid]
  split <;> exact List.cons_ne_nil _ _

/-! ## Separators without a border -/

/-- No proper end of the separator is one of its beginnings. -/
def Unbordered (separator : List α) : Prop :=
  separator ≠ [] ∧ ∀ n < separator.length, 0 < n → (separator.drop n).isPrefixOf separator = false

instance (separator : List α) : Decidable (Unbordered separator) :=
  inferInstanceAs (Decidable (_ ∧ ∀ n < separator.length, _))

/-- A match that begins in a piece lies in the piece. -/
private theorem Unbordered.not_prefix (unbordered : Unbordered separator) {c : α}
    (absent : ¬ separator <:+: c :: piece) (rest : List α) : ¬ separator <+: c :: piece ++ (separator ++ rest) := by
  intro start
  have front := List.prefix_append (c :: piece) (separator ++ rest)
  rcases List.prefix_or_prefix_of_prefix start front with inside | across
  · exact absent inside.isInfix
  · -- the match would go on into the separator, and its end would be a border
    obtain ⟨border, same⟩ := across
    have proper : (c :: piece).length < separator.length := by
      by_contra long
      have whole := List.IsPrefix.eq_of_length_le ⟨border, same⟩ (by omega)
      exact absent (whole ▸ List.infix_refl _)
    have ending : separator.drop (c :: piece).length = border := by rw [← same, List.drop_left]
    have beginning : border <+: separator ++ rest := by
      apply (List.prefix_append_right_inj (c :: piece)).mp
      rwa [same]
    have short : border.length ≤ separator.length := by
      rw [← ending, List.length_drop]
      omega
    have none := unbordered.2 (c :: piece).length proper (Nat.succ_pos _)
    rw [ending, Bool.eq_false_iff, Ne, List.isPrefixOf_iff_prefix] at none
    exact none (List.prefix_of_prefix_length_le beginning (List.prefix_append _ _) short)

theorem Unbordered.splitOnce_append (unbordered : Unbordered separator) (absent : ¬ separator <:+: piece)
    (rest : List α) : splitOnce separator (piece ++ (separator ++ rest)) = some (piece, rest) := by
  induction piece with
  | nil =>
    obtain ⟨first, others, same⟩ := List.exists_cons_of_ne_nil unbordered.1
    have here : separator.isPrefixOf (first :: (others ++ rest)) = true := by
      rw [List.isPrefixOf_iff_prefix, ← List.cons_append, ← same]
      exact List.prefix_append _ _
    have tail : (first :: (others ++ rest)).drop separator.length = rest := by
      rw [← List.cons_append, ← same, List.drop_left]
    rw [List.nil_append, same, List.cons_append, splitOnce, ← same, if_pos here, tail]
  | cons c piece ih =>
    have notHere := unbordered.not_prefix absent rest
    have shorter : ¬ separator <:+: piece := fun inside => absent (List.infix_cons_iff.mpr (.inr inside))
    rw [List.cons_append, splitOnce, if_neg (by rwa [List.isPrefixOf_iff_prefix, ← List.cons_append]), ih shorter]
    rfl

/-- A text is cut at such a separator in one way only. -/
theorem Unbordered.append_inj (unbordered : Unbordered separator) {other rest restOther : List α}
    (absent : ¬ separator <:+: piece) (absentOther : ¬ separator <:+: other)
    (same : piece ++ (separator ++ rest) = other ++ (separator ++ restOther)) : piece = other ∧ rest = restOther := by
  have cut := unbordered.splitOnce_append absent rest
  rw [same, unbordered.splitOnce_append absentOther] at cut
  obtain ⟨rfl, rfl⟩ := Prod.mk.inj (Option.some.inj cut)
  exact ⟨rfl, rfl⟩

theorem Unbordered.splitOn_append (unbordered : Unbordered separator) (absent : ¬ separator <:+: piece)
    (rest : List α) : splitOn separator (piece ++ (separator ++ rest)) = piece :: splitOn separator rest := by
  rw [splitOn_eq unbordered.1, unbordered.splitOnce_append absent]

/-! ## Joining -/

omit [DecidableEq α] in
theorem joinWith_cons (solid : pieces ≠ []) (separator piece : List α) :
    joinWith separator (piece :: pieces) = piece ++ (separator ++ joinWith separator pieces) := by
  obtain ⟨first, others, rfl⟩ := List.exists_cons_of_ne_nil solid
  rw [joinWith, List.append_assoc]
  exact List.cons_ne_nil _ _

omit [DecidableEq α] in
theorem joinWith_append {others : List (List α)} (solid : pieces ≠ []) (solidOthers : others ≠ []) :
    joinWith separator (pieces ++ others) =
      joinWith separator pieces ++ (separator ++ joinWith separator others) := by
  induction pieces with
  | nil => contradiction
  | cons piece rest ih =>
    by_cases last : rest = []
    · rw [last, List.singleton_append, joinWith_cons solidOthers, joinWith]
    · rw [List.cons_append, joinWith_cons (by simp [last]), ih last, joinWith_cons last]
      simp only [List.append_assoc]

/-- Joining undoes the cuts, and no piece contains the separator. -/
theorem joinWith_splitOn (solid : separator ≠ []) (text : List α) :
    joinWith separator (splitOn separator text) = text ∧ ∀ piece ∈ splitOn separator text, ¬ separator <:+: piece := by
  -- what follows the first cut is shorter than the text
  induction bound : text.length using Nat.strong_induction_on generalizing text with
  | _ length ih =>
    rw [splitOn_eq solid]
    cases cut : splitOnce separator text with
    | none => simpa [joinWith] using splitOnce_eq_none_iff.mp cut
    | some parts =>
      obtain ⟨before, after⟩ := parts
      obtain ⟨whole, absent⟩ := splitOnce_eq_some solid cut
      have shorter : after.length < length := by
        have positive := List.length_pos_iff.mpr solid
        have sum := congrArg List.length whole
        simp only [List.length_append] at sum
        omega
      obtain ⟨joined, free⟩ := ih after.length shorter after rfl
      constructor
      · rw [joinWith_cons (splitOn_ne_nil solid after), joined, whole, List.append_assoc]
      · rw [List.forall_mem_cons]
        exact ⟨absent, free⟩

theorem Unbordered.splitOn_joinWith (unbordered : Unbordered separator) (solid : pieces ≠ [])
    (free : ∀ piece ∈ pieces, ¬ separator <:+: piece) : splitOn separator (joinWith separator pieces) = pieces := by
  induction pieces with
  | nil => contradiction
  | cons piece others ih =>
    rw [List.forall_mem_cons] at free
    by_cases last : others = []
    · rw [last, joinWith, splitOn_of_notInfix unbordered.1 free.1]
    · rw [joinWith_cons last, unbordered.splitOn_append free.1, ih last free.2]

/-- There is one way to join a text from pieces without the separator. -/
theorem Unbordered.splitOn_eq_iff (unbordered : Unbordered separator) (solid : pieces ≠ []) :
    splitOn separator text = pieces ↔
      text = joinWith separator pieces ∧ ∀ piece ∈ pieces, ¬ separator <:+: piece := by
  constructor
  · rintro rfl
    obtain ⟨joined, free⟩ := joinWith_splitOn unbordered.1 text
    exact ⟨joined.symm, free⟩
  · rintro ⟨rfl, free⟩
    exact unbordered.splitOn_joinWith solid free

/-- A text is cut at each of its separators apart from what stands on the other side of it. -/
theorem Unbordered.splitOn_append_append (unbordered : Unbordered separator) (before after : List α) :
    splitOn separator (before ++ (separator ++ after)) = splitOn separator before ++ splitOn separator after := by
  have solid (text : List α) := splitOn_ne_nil unbordered.1 text
  obtain ⟨joinedBefore, freeBefore⟩ := joinWith_splitOn unbordered.1 before
  obtain ⟨joinedAfter, freeAfter⟩ := joinWith_splitOn unbordered.1 after
  rw [unbordered.splitOn_eq_iff (by simp [solid]), joinWith_append (solid before) (solid after), joinedBefore,
    joinedAfter]
  exact ⟨rfl, List.forall_mem_append.mpr ⟨freeBefore, freeAfter⟩⟩

/-! ## Patterns in a joined text -/

omit [DecidableEq α] in
/-- A pattern does not reach across what it has no element of. -/
theorem infix_append_append_iff (pattern_ne : pattern ≠ []) (solid : separator ≠ [])
    (foreign : ∀ c ∈ pattern, c ∉ separator) (before after : List α) :
    pattern <:+: before ++ (separator ++ after) ↔ pattern <:+: before ∨ pattern <:+: after := by
  have apart {part : List α} (inPattern : part <:+: pattern) (inSeparator : part <:+: separator) : part = [] := by
    by_contra some
    obtain ⟨c, member⟩ := List.exists_mem_of_ne_nil part some
    exact foreign c (inPattern.subset member) (inSeparator.subset member)
  constructor
  · intro inside
    rcases List.infix_append_iff.mp inside with left | right | ⟨ending, beginning, rfl, atEnd, atStart⟩
    · exact .inl left
    · rcases List.infix_append_iff.mp right with within | right | ⟨ending, beginning, rfl, atEnd, atStart⟩
      · exact absurd (apart (List.infix_refl _) within) pattern_ne
      · exact .inr right
      · obtain rfl := apart (List.prefix_append ending beginning).isInfix atEnd.isInfix
        exact .inr atStart.isInfix
    · -- the second half begins with an element of the separator unless it is empty
      cases beginning with
      | nil => exact .inl (by simpa using atEnd.isInfix)
      | cons c others =>
        obtain ⟨first, tail, rfl⟩ := List.exists_cons_of_ne_nil solid
        rw [List.cons_append, List.cons_prefix_cons] at atStart
        have shared := foreign c (by simp)
        simp [atStart.1] at shared
  · rintro (left | right)
    · exact left.trans (List.prefix_append _ _).isInfix
    · exact right.trans ((List.suffix_append _ _).trans (List.suffix_append _ _)).isInfix

omit [DecidableEq α] in
theorem infix_joinWith_iff (pattern_ne : pattern ≠ []) (solid : separator ≠ [])
    (foreign : ∀ c ∈ pattern, c ∉ separator) (pieces : List (List α)) :
    pattern <:+: joinWith separator pieces ↔ ∃ piece ∈ pieces, pattern <:+: piece := by
  induction pieces with
  | nil => simpa [joinWith] using pattern_ne
  | cons piece others ih =>
    by_cases last : others = []
    · simp [last, joinWith]
    · rw [joinWith_cons last, infix_append_append_iff pattern_ne solid foreign, ih]
      simp

end Observatory.Text
