import Observatory.Watch
import Mathlib.Data.List.Induction

/-! # Pods in the stream of watch events

When a pod is there, read off the events alone: it has been named, and has neither been deleted since nor
been left out of a listing that was completed since. Main statements: the watch knows the listing in
progress, and each further event settles for every pod whether it is still there.
-/

namespace Observatory

open Cluster

namespace WatchEvent

variable {key : PodKey} {before since events : List WatchEvent} {event : WatchEvent} {pods : List PodKey}

/-- The event shows that the pod is there. -/
def names (key : PodKey) : WatchEvent → Bool
  | .listed pod | .applied pod => pod.key = key
  | .listingBegins | .listingEnds | .deleted _ | .failed => false

/-- The pod that the event adds to a listing. -/
def listed? : WatchEvent → Option PodKey
  | .listed pod => some pod.key
  | .listingBegins | .listingEnds | .applied _ | .deleted _ | .failed => none

/-- The event begins or ends a listing. -/
def isBound : WatchEvent → Bool
  | .listingBegins | .listingEnds => true
  | .listed _ | .applied _ | .deleted _ | .failed => false

/-- A listing is in progress and has named these pods so far. -/
def Lists (events : List WatchEvent) (pods : List PodKey) : Prop :=
  ∃ earlier inside, events = earlier ++ .listingBegins :: inside ∧ (∀ event ∈ inside, event.isBound = false) ∧
    inside.filterMap listed? = pods

/-- After these events, the next one tells that the pod is gone. -/
def Removes (key : PodKey) (events : List WatchEvent) : WatchEvent → Prop
  | .deleted pod => pod.key = key
  | .listingEnds => ∃ pods, Lists events pods ∧ key ∉ pods
  | .listingBegins | .listed _ | .applied _ | .failed => False

/-- None of the later events tells that the pod is gone. -/
def Unremoved (key : PodKey) (before since : List WatchEvent) : Prop :=
  ∀ between event rest, since = between ++ event :: rest → ¬ Removes key (before ++ between) event

/-- The pod has been named, and no event has told since that it is gone. -/
def Lives (key : PodKey) (events : List WatchEvent) : Prop :=
  ∃ earlier naming since, events = earlier ++ naming :: since ∧ naming.names key = true ∧
    Unremoved key (earlier ++ [naming]) since

/-! ## One more event -/

/-- Where a list that has been split may end. -/
private theorem split_concat {α : Type} {list front back : List α} {last middle : α}
    (same : list ++ [last] = front ++ middle :: back) :
    (back = [] ∧ front = list ∧ middle = last) ∨ ∃ rest, back = rest ++ [last] ∧ list = front ++ middle :: rest := by
  rcases List.eq_nil_or_concat back with rfl | ⟨rest, other, rfl⟩
  · obtain ⟨rfl, singleton⟩ := List.append_inj' same rfl
    exact .inl ⟨rfl, rfl, (List.cons.inj singleton).1.symm⟩
  · rw [List.concat_eq_append, ← List.cons_append, ← List.append_assoc] at same
    obtain ⟨rfl, singleton⟩ := List.append_inj' same rfl
    obtain rfl := (List.cons.inj singleton).1
    exact .inr ⟨rest, List.concat_eq_append, rfl⟩

theorem unremoved_nil : Unremoved key before [] :=
  fun between _ _ split => absurd split (by simp)

/-- A pod was not removed since if it was not removed before, nor by the last event. -/
theorem unremoved_concat :
    Unremoved key before (since ++ [event]) ↔ Unremoved key before since ∧ ¬ Removes key (before ++ since) event := by
  constructor
  · intro unremoved
    refine ⟨fun between other rest split => ?_, unremoved since event [] rfl⟩
    exact unremoved between other (rest ++ [event]) (by simp [split])
  · rintro ⟨unremoved, kept⟩ between other rest split
    obtain ⟨-, rfl, rfl⟩ | ⟨rest, -, rfl⟩ := split_concat split
    · exact kept
    · exact unremoved between other rest rfl

theorem unremoved_cons :
    Unremoved key before (event :: since) ↔ ¬ Removes key before event ∧ Unremoved key (before ++ [event]) since := by
  constructor
  · intro unremoved
    refine ⟨by simpa using unremoved [] event since rfl, fun between other rest split => ?_⟩
    simpa using unremoved (event :: between) other rest (by simp [split])
  · rintro ⟨kept, unremoved⟩ between other rest split
    rcases List.cons_eq_append_iff.mp split with ⟨rfl, same⟩ | ⟨between, rfl, same⟩
    · obtain ⟨rfl, -⟩ := List.cons.inj same
      simpa using kept
    · simpa using unremoved between other rest same

/-- A pod lives if the last event names it, or if it lived before and was not removed. -/
theorem lives_concat :
    Lives key (events ++ [event]) ↔ event.names key = true ∨ Lives key events ∧ ¬ Removes key events event := by
  constructor
  · rintro ⟨earlier, naming, since, same, names, unremoved⟩
    obtain ⟨-, -, rfl⟩ | ⟨rest, rfl, rfl⟩ := split_concat same
    · exact .inl names
    · have ⟨before, last⟩ := unremoved_concat.mp unremoved
      exact .inr ⟨⟨earlier, naming, rest, rfl, names, before⟩, by simpa using last⟩
  · rintro (names | ⟨⟨earlier, naming, since, rfl, names, unremoved⟩, kept⟩)
    · exact ⟨events, event, [], rfl, names, unremoved_nil⟩
    · exact ⟨earlier, naming, since ++ [event], by simp, names,
        unremoved_concat.mpr ⟨unremoved, by simpa using kept⟩⟩

theorem not_lists_nil : ¬ Lists [] pods := by
  rintro ⟨earlier, inside, same, -⟩
  simp at same

theorem lists_concat_begins : Lists (events ++ [.listingBegins]) pods ↔ pods = [] := by
  constructor
  · rintro ⟨earlier, inside, same, unbounded, rfl⟩
    obtain ⟨rfl, -, -⟩ | ⟨rest, rfl, -⟩ := split_concat same
    · rfl
    · exact absurd (unbounded .listingBegins (by simp)) (by decide)
  · rintro rfl
    exact ⟨events, [], rfl, by simp, rfl⟩

theorem not_lists_concat_ends : ¬ Lists (events ++ [.listingEnds]) pods := by
  rintro ⟨earlier, inside, same, unbounded, -⟩
  obtain ⟨-, -, same⟩ | ⟨rest, rfl, -⟩ := split_concat same
  · contradiction
  · exact absurd (unbounded .listingEnds (by simp)) (by decide)

/-- Inside a listing, each event adds the pod that it lists. -/
theorem lists_concat (event : WatchEvent) (inner : event.isBound = false) :
    Lists (events ++ [event]) pods ↔ ∃ listed, Lists events listed ∧ listed ++ event.listed?.toList = pods := by
  have adds (inside : List WatchEvent) :
      (inside ++ [event]).filterMap listed? = inside.filterMap listed? ++ event.listed?.toList := by
    cases listed : event.listed? <;> simp [listed]
  constructor
  · rintro ⟨earlier, inside, same, unbounded, rfl⟩
    obtain ⟨-, -, rfl⟩ | ⟨rest, rfl, rfl⟩ := split_concat same
    · contradiction
    · exact ⟨rest.filterMap listed?,
        ⟨earlier, rest, rfl, fun other member => unbounded other (List.mem_append_left _ member), rfl⟩,
        (adds rest).symm⟩
  · rintro ⟨listed, ⟨earlier, inside, rfl, unbounded, rfl⟩, rfl⟩
    refine ⟨earlier, inside ++ [event], by simp, fun other member => ?_, adds inside⟩
    rcases List.mem_append.mp member with earlier | last
    · exact unbounded other earlier
    · exact List.mem_singleton.mp last ▸ inner

end WatchEvent

namespace Watch

open WatchEvent

variable {events : List WatchEvent} {pods : List PodKey}

/-- The watch after these events. -/
def after (events : List WatchEvent) : Watch :=
  events.foldl (fun watch event => (watch.step event).1) .empty

theorem after_concat (events : List WatchEvent) (event : WatchEvent) :
    after (events ++ [event]) = ((after events).step event).1 := by
  simp [after]

/-- The watch keeps the pods of the listing that is going on. -/
theorem listing_after_eq_some_iff : (after events).listing = some pods ↔ Lists events pods := by
  induction events using List.reverseRecOn generalizing pods with
  | nil => simp [after, Watch.empty, not_lists_nil]
  | append_singleton events event ih =>
    rw [after_concat]
    cases event with
    | listingBegins => simp [step, lists_concat_begins, eq_comm]
    | listingEnds => simp [step, not_lists_concat_ends]
    | listed pod => simp [step, ih, lists_concat (.listed pod) rfl, listed?]
    | applied pod => simp [step, ih, lists_concat (.applied pod) rfl, listed?]
    | deleted pod => simp [step, ih, lists_concat (.deleted pod) rfl, listed?]
    | failed => simp [step, ih, lists_concat .failed rfl, listed?]

/-- The watch takes the event to say that the pod is gone. -/
def drops (watch : Watch) (key : PodKey) : WatchEvent → Bool
  | .deleted pod => pod.key = key
  | .listingEnds => watch.listing.any (key ∉ ·)
  | .listingBegins | .listed _ | .applied _ | .failed => false

/-- The watch drops a pod just when the event removes it. -/
theorem drops_after_iff {key : PodKey} {event : WatchEvent} :
    (after events).drops key event = true ↔ Removes key events event := by
  cases event with
  | listingEnds =>
    simp only [drops, Removes, ← listing_after_eq_some_iff]
    cases (after events).listing <;> simp
  | listingBegins | listed _ | applied _ | deleted _ | failed => simp [drops, Removes]

end Watch

instance (key : PodKey) (events : List WatchEvent) (event : WatchEvent) :
    Decidable (WatchEvent.Removes key events event) :=
  decidable_of_iff _ Watch.drops_after_iff

instance decidableUnremoved (key : PodKey) :
    (before since : List WatchEvent) → Decidable (WatchEvent.Unremoved key before since)
  | _, [] => isTrue WatchEvent.unremoved_nil
  | before, event :: since =>
      have := decidableUnremoved key (before ++ [event]) since
      decidable_of_iff _ WatchEvent.unremoved_cons.symm

end Observatory
