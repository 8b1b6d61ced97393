import Observatory.Settings
import Observatory.Proofs.Text.Decimal
import Observatory.Proofs.Text.Split
import Mathlib.Logic.Function.Basic

/-! # The filter on the command line

The tracer is told which categories of system calls to report by a comma-separated list, read from a variable and
written as an argument. Main statement: the categories that are read from any text are not empty, have no white space
at their ends and no commas in them, and the argument that is written for them reads back as the same categories. So
settings that differ in their filters start the tracer with different arguments.
-/

namespace Observatory

/-! ## Trimming -/

namespace Text

variable {text first last : List Char}

/-- The text does not begin or end with white space. -/
def Trimmed (text : List Char) : Prop :=
  (∀ c ∈ text.head?, isBlank c = false) ∧ ∀ c ∈ text.getLast?, isBlank c = false

theorem trimStart_eq_self (solid : ∀ c ∈ text.head?, isBlank c = false) : trimStart text = text := by
  cases text with
  | nil => rfl
  | cons c rest => exact trimStart_cons (solid c rfl) rest

theorem not_isBlank_head?_trimStart (text : List Char) : ∀ c ∈ (trimStart text).head?, isBlank c = false := by
  intro c first
  have stops := List.head?_dropWhile_not isBlank text
  rw [trimStart, Option.mem_def] at first
  simpa [first] using stops

/-- There is nothing more to trim off a text that was trimmed. -/
theorem Trimmed.trim_eq (trimmed : Trimmed text) : trim text = text := by
  have solid : ∀ c ∈ text.reverse.head?, isBlank c = false := by
    rw [List.head?_reverse]
    exact trimmed.2
  have kept := trimStart_eq_self solid
  rw [trimStart] at kept
  rw [trim, trimStart_eq_self trimmed.1, trimEnd, kept, List.reverse_reverse]

theorem trimEnd_isPrefix (text : List Char) : trimEnd text <+: text := by
  rw [← List.reverse_suffix, trimEnd, List.reverse_reverse]
  exact List.dropWhile_suffix _

/-- What was trimmed has no blank at either end. -/
theorem trimmed_trim (text : List Char) : Trimmed (trim text) := by
  constructor
  · -- what is cut off at the end leaves the first character alone, unless nothing is left
    intro c first
    obtain ⟨cut, whole⟩ := trimEnd_isPrefix (trimStart text)
    apply not_isBlank_head?_trimStart text c
    rw [← whole, List.head?_append, ← trim, Option.mem_def.mp first]
    rfl
  · intro c last
    rw [trim, trimEnd, List.getLast?_reverse] at last
    exact not_isBlank_head?_trimStart _ c last

/-- The middle does not matter for being trimmed. -/
theorem Trimmed.append (trimmed : Trimmed first) (trimmedLast : Trimmed last) (solid : first ≠ [])
    (solidLast : last ≠ []) (middle : List Char) : Trimmed (first ++ (middle ++ last)) := by
  obtain ⟨c, rest, rfl⟩ := List.exists_cons_of_ne_nil solid
  constructor
  · exact trimmed.1
  · rw [← List.append_assoc, List.getLast?_append_of_ne_nil _ solidLast]
    exact trimmedLast.2

theorem mem_of_mem_trim {c : Char} (member : c ∈ trim text) : c ∈ text :=
  (List.dropWhile_sublist isBlank).subset ((trimEnd_isPrefix _).subset member)

end Text

/-! ## Categories -/

namespace Tracer

open Text

variable {category text : List Char} {categories : List (List Char)}

/-- What the list can be made of. -/
structure IsCategory (category : List Char) : Prop where
  ne_nil : category ≠ []
  trim_eq : trim category = category
  no_comma : ',' ∉ category

theorem unbordered_comma : Unbordered [','] := by decide

/-- What is read as a category can be one. -/
theorem isCategory_of_mem_readFilter (member : category ∈ readFilter text) : IsCategory category := by
  obtain ⟨trimmed, solid⟩ := List.mem_filter.mp member
  obtain ⟨piece, isPiece, rfl⟩ := List.mem_map.mp trimmed
  have free := (joinWith_splitOn unbordered_comma.1 text).2 piece isPiece
  constructor
  · simpa using solid
  · exact (trimmed_trim piece).trim_eq
  · intro comma
    exact free ((List.singleton_infix_iff _ _).mpr (mem_of_mem_trim comma))

/-- Categories that were joined by commas are read as they were. -/
theorem readFilter_writeFilter (solid : categories ≠ []) (all : ∀ category ∈ categories, IsCategory category) :
    readFilter (writeFilter categories) = categories := by
  have cut : splitOn [','] (writeFilter categories) = categories := by
    refine unbordered_comma.splitOn_joinWith solid fun category member => ?_
    rw [List.singleton_infix_iff]
    exact (all category member).no_comma
  have trimmed : categories.map trim = categories :=
    (List.map_congr_left fun category member => (all category member).trim_eq).trans (List.map_id _)
  rw [readFilter, cut, trimmed]
  exact List.filter_eq_self.mpr fun category member => by simp [(all category member).ne_nil]

theorem writeFilter_ne_nil (solid : categories ≠ []) (all : ∀ category ∈ categories, IsCategory category) :
    writeFilter categories ≠ [] := by
  intro empty
  have back := readFilter_writeFilter solid all
  rw [empty] at back
  exact solid back.symm

/-- The ends of the list are ends of categories. -/
theorem trimmed_writeFilter (solid : categories ≠ []) (all : ∀ category ∈ categories, IsCategory category) :
    Trimmed (writeFilter categories) := by
  induction categories with
  | nil => contradiction
  | cons category rest ih =>
    obtain ⟨isCategory, all⟩ := List.forall_mem_cons.mp all
    have trimmed : Trimmed category := isCategory.trim_eq ▸ trimmed_trim category
    by_cases last : rest = []
    · rw [last]
      exact trimmed
    · rw [writeFilter, joinWith_cons last]
      exact trimmed.append (ih last all) isCategory.ne_nil (writeFilter_ne_nil last all) [',']

/-- What follows an option among arguments. -/
def optionValue? (option : String) : List String → Option String
  | [] => none
  | argument :: rest => if argument = option then rest.head? else optionValue? option rest

/-- The filter is found among the arguments, unless it is empty. -/
theorem optionValue?_arguments (tracer : Tracer) :
    optionValue? "--filter" tracer.arguments =
      if tracer.filter.isEmpty then none else some (String.ofList (writeFilter tracer.filter)) := by
  obtain ⟨program, filter, includeHost, mainThreadOnly⟩ := tracer
  cases filter <;> cases includeHost <;> cases mainThreadOnly <;> simp [arguments, optionValue?]

end Tracer

/-! ## Settings -/

namespace Settings

open Tracer (IsCategory optionValue?)

variable {source again : Variables} {settings : Settings}

theorem isCategory_of_mem_syscallFilter (source : Variables) :
    ∀ category ∈ syscallFilter source, IsCategory category := by
  intro category member
  unfold syscallFilter at member
  split at member
  · exact Tracer.isCategory_of_mem_readFilter member
  · contradiction

theorem value?_eq_none {key : String} (unset : source key = none) : value? source key = none := by
  rw [value?, unset]
  rfl

/-- A variable that was set to something trimmed has that value. -/
theorem value?_eq_some {key value : String} (set : source key = some value) (trimmed : Text.Trimmed value.toList)
    (solid : value.toList ≠ []) : value? source key = some value := by
  simp [value?, set, trimmed.trim_eq, solid]

/-- The argument that the tracer is given reads back as its filter. -/
theorem syscallFilter_of_optionValue? {tracer : Tracer} (built : tracer.filter = syscallFilter source)
    (given : again "TRACER_SYSCALL_FILTER" = optionValue? "--filter" tracer.arguments) :
    syscallFilter again = tracer.filter := by
  have all : ∀ category ∈ tracer.filter, IsCategory category := built ▸ isCategory_of_mem_syscallFilter source
  rw [Tracer.optionValue?_arguments] at given
  by_cases empty : tracer.filter = []
  · rw [if_pos (by simp [empty])] at given
    rw [syscallFilter, value?_eq_none given, empty]
  · rw [if_neg (by simp [empty])] at given
    have trimmed := Tracer.trimmed_writeFilter empty all
    have solid := Tracer.writeFilter_ne_nil empty all
    rw [syscallFilter, value?_eq_some given (by simpa using trimmed) (by simpa using solid)]
    simpa using Tracer.readFilter_writeFilter empty all

/-- The filter is read apart from everything else. -/
theorem ofVariables_congr (others : ∀ key, key ≠ "TRACER_SYSCALL_FILTER" → again key = source key)
    (filter : syscallFilter again = syscallFilter source) : ofVariables again = ofVariables source := by
  have values (key : String) (other : key ≠ "TRACER_SYSCALL_FILTER") : value? again key = value? source key := by
    rw [value?, value?, others key other]
  simp (disch := decide) only [ofVariables, readOr, required, valueOr, values, filter]

private theorem exists_of_bind_eq_ok {ε α β : Type} {first : Except ε α} {next : α → Except ε β} {result : β}
    (both : first >>= next = .ok result) : ∃ value, first = .ok value ∧ next value = .ok result := by
  cases first with
  | error reason => contradiction
  | ok value => exact ⟨value, rfl, both⟩

/-- The settings have the filter that the variables say. -/
theorem filter_eq_syscallFilter (read : ofVariables source = .ok settings) :
    settings.tracer.filter = syscallFilter source := by
  unfold ofVariables at read
  iterate 11 obtain ⟨_, -, read⟩ := exists_of_bind_eq_ok read
  obtain rfl := Except.ok.inj read
  rfl

/-- The filter survives the command line: what the tracer is told about it is enough to set it up again. -/
theorem filter_survives_arguments (source : Variables) :
    (∀ category ∈ syscallFilter source, category ≠ [] ∧ Text.trim category = category ∧ ',' ∉ category) ∧
      (∀ (tracer : Tracer) (again : Variables), tracer.filter = syscallFilter source →
        again "TRACER_SYSCALL_FILTER" = optionValue? "--filter" tracer.arguments →
        syscallFilter again = syscallFilter source) ∧
      (∀ settings, ofVariables source = .ok settings →
        settings.tracer.filter = syscallFilter source ∧
          ofVariables (Function.update source "TRACER_SYSCALL_FILTER"
            (optionValue? "--filter" settings.tracer.arguments)) = .ok settings) ∧
      ∀ other settings otherSettings, ofVariables source = .ok settings → ofVariables other = .ok otherSettings →
        settings.tracer.filter ≠ otherSettings.tracer.filter →
        settings.tracer.arguments ≠ otherSettings.tracer.arguments := by
  refine ⟨?_, ?_, ?_, ?_⟩
  · intro category member
    obtain ⟨solid, trimmed, free⟩ := isCategory_of_mem_syscallFilter source category member
    exact ⟨solid, trimmed, free⟩
  · intro tracer again built given
    rw [← built]
    exact syscallFilter_of_optionValue? built given
  · intro settings read
    have built := filter_eq_syscallFilter read
    refine ⟨built, ?_⟩
    rw [← read]
    refine ofVariables_congr (fun key other => Function.update_of_ne other _ _) ?_
    rw [← built]
    exact syscallFilter_of_optionValue? built (Function.update_self _ _ _)
  · intro other settings otherSettings read readOther differ same
    -- both filters are read off the arguments
    have again : syscallFilter (fun _ => optionValue? "--filter" settings.tracer.arguments) = settings.tracer.filter :=
      syscallFilter_of_optionValue? (filter_eq_syscallFilter read) rfl
    rw [same, syscallFilter_of_optionValue? (filter_eq_syscallFilter readOther) rfl] at again
    exact differ again.symm

/-- Variables with this filter. -/
private def filtered (filter : String) : Variables := fun key =>
  match key with
  | "NODE_NAME" => some "worker-1"
  | "DATABASE_URL" => some "mysql://db"
  | "TRACER_SYSCALL_FILTER" => some filter
  | _ => none

/-- Empty entries, wide blanks, a blank inside of a category and a category that looks like an option. -/
private def untidy : Variables := filtered ", \u3000net work\u3000,,--filter ,"

/-- Nothing but separators. -/
private def hollow : Variables := filtered " ,\u3000, "

private theorem exists_settings {arguments : List String}
    (read : (ofVariables source).toOption.map (·.tracer.arguments) = some arguments) :
    ∃ settings, ofVariables source = .ok settings ∧ settings.tracer.arguments = arguments := by
  cases outcome : ofVariables source with
  | error reason => simp [outcome, Except.toOption] at read
  | ok settings => exact ⟨settings, rfl, by simpa [outcome, Except.toOption] using read⟩

/-- Blanks, empty parts and a category that looks like an option. -/
theorem filter_survives_arguments_of_untidy :
    syscallFilter untidy = ["net work".toList, "--filter".toList] ∧ syscallFilter hollow = [] ∧
      syscallFilter (filtered "net work,--filter") = ["net work".toList, "--filter".toList] ∧
      ∃ settings others, ofVariables untidy = .ok settings ∧ ofVariables hollow = .ok others ∧
        ofVariables (Function.update untidy "TRACER_SYSCALL_FILTER" (some "net work,--filter")) = .ok settings ∧
        ofVariables (Function.update hollow "TRACER_SYSCALL_FILTER" none) = .ok others ∧
        settings.tracer.arguments ≠ others.tracer.arguments := by
  have filters : syscallFilter untidy = ["net work".toList, "--filter".toList] ∧ syscallFilter hollow = [] := by
    decide +kernel
  obtain ⟨settings, read, arguments⟩ : ∃ settings, ofVariables untidy = .ok settings ∧
      settings.tracer.arguments = ["--filter", "net work,--filter"] :=
    exists_settings (by decide +kernel)
  obtain ⟨others, readOthers, noArguments⟩ : ∃ others, ofVariables hollow = .ok others ∧
      others.tracer.arguments = [] :=
    exists_settings (by decide +kernel)
  have written : optionValue? "--filter" settings.tracer.arguments = some "net work,--filter" := by
    rw [arguments]
    rfl
  have unwritten : optionValue? "--filter" others.tracer.arguments = none := by
    rw [noArguments]
    rfl
  obtain ⟨-, reread, rebuilt, different⟩ := filter_survives_arguments untidy
  obtain ⟨-, -, rebuiltOthers, -⟩ := filter_survives_arguments hollow
  obtain ⟨built, same⟩ := rebuilt settings read
  obtain ⟨builtOthers, sameOthers⟩ := rebuiltOthers others readOthers
  have again := reread settings.tracer (filtered "net work,--filter") built written.symm
  have differ : settings.tracer.filter ≠ others.tracer.filter := by
    rw [built, builtOthers, filters.1, filters.2]
    exact List.cons_ne_nil _ _
  exact ⟨filters.1, filters.2, again.trans filters.1, settings, others, read, readOthers, written ▸ same,
    unwritten ▸ sameOthers, different hollow settings others read readOthers differ⟩

end Settings

end Observatory
