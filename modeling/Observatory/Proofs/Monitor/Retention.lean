import Observatory.Proofs.Monitor.Lifecycle
import Mathlib.Data.List.DropRight

/-! # Retained records

An observation ends when it is aborted, when it has no tasks, with the last of its tasks, or when the queue is
gone that should have taken it. Each of these places writes a record of its own accord. Main statement: every
observation is nevertheless recorded just once, when it ends, and what is retained are the records of the last
observations to end, in that order, whatever becomes of the queue.
-/

namespace Observatory

namespace Retention

/-- If the last records are retained before a push, they are so after it. -/
theorem push_rtake (capacity : Nat) (pushed : List Record) (record : Record) :
    push ⟨capacity, pushed.rtake capacity⟩ record = ⟨capacity, (pushed ++ [record]).rtake capacity⟩ := by
  cases capacity with
  | zero => simp [push]
  | succ places =>
    have older : (pushed.rtake (places + 1)).drop ((pushed.rtake (places + 1)).length + 1 - (places + 1)) =
        pushed.rtake places := by
      simp only [List.rtake, List.drop_drop, List.length_drop]
      congr 1
      omega
    simp only [push, Nat.add_one_ne_zero, ↓reduceIte, older, List.rtake_concat_succ]

/-- What is retained are the last records, as many as there is room for. -/
theorem foldl_push (capacity : Nat) (pushed : List Record) :
    pushed.foldl push (.empty capacity) = ⟨capacity, pushed.rtake capacity⟩ := by
  induction pushed using List.reverseRecOn with
  | nil => simp [empty]
  | append_singleton pushed record ih =>
    rw [List.foldl_append, ih]
    exact push_rtake capacity pushed record

end Retention

namespace Books

variable {books next : Books} {old : Observation}

/-! ## What is recorded in a step -/

/-- How the running observations come out of a step. Nothing is recorded, unless one of them ends. -/
inductive Passage (books next : Books) : Prop
  | goesOn (serials : next.active.map (·.serial) = books.active.map (·.serial))
      (issued : next.nextSerial = books.nextSerial) (retention : next.retention = books.retention)
      (outcomes : ∀ serial, next.outcomes serial = books.outcomes serial)
  | begins (serials : next.active.map (·.serial) = books.active.map (·.serial) ++ [books.nextSerial])
      (issued : next.nextSerial = books.nextSerial + 1) (retention : next.retention = books.retention)
      (outcomes : ∀ serial, next.outcomes serial = books.outcomes serial)
  | ends (old : Observation) (member : old ∈ books.active) (outcome : Outcome)
      (active : next.active = books.active.filter (·.serial ≠ old.serial))
      (issued : next.nextSerial = books.nextSerial)
      (retention : next.retention = books.retention.push (recordOf old outcome))
      (outcomes : ∀ serial, next.outcomes serial =
        books.outcomes serial ++ if old.serial = serial then [outcome] else [])

theorem serials_replace (books : Books) (new : Observation) :
    (books.replace new).active.map (·.serial) = books.active.map (·.serial) := by
  simp only [replace, List.map_map]
  refine List.map_congr_left fun other _ => ?_
  by_cases same : other.serial = new.serial <;> simp [same]

/-- Only a record tells of an outcome. -/
theorem outcomes_of_silent {entries : List Entry} (course : next.course = books.course ++ entries)
    (silent : ∀ entry ∈ entries, entry.record? = none) (serial : Nat) :
    next.outcomes serial = books.outcomes serial := by
  have nothing : entries.filterMap (Entry.outcomeOf? serial) = [] := by
    refine List.filterMap_eq_nil_iff.mpr fun entry member => ?_
    have unrecorded := silent entry member
    cases entry with
    | finished => contradiction
    | answered | lookup | scan | phase | offered | stored | notice => rfl
  rw [outcomes, course, List.filterMap_append, nothing, List.append_nil, outcomes]

/-- An observation that is recorded after its last phases ends. -/
theorem Passage.of_recorded (member : old ∈ books.active) (outcome : Outcome)
    (active : next.active = books.active.filter (·.serial ≠ old.serial))
    (issued : next.nextSerial = books.nextSerial)
    (retention : next.retention = books.retention.push (recordOf old outcome)) (visited : List Phase)
    (course : next.course =
      books.course ++ visited.map (.phase old.serial) ++ [.finished old.serial (recordOf old outcome)]) :
    Passage books next := by
  refine .ends old member outcome active issued retention fun serial => ?_
  have before : (books.write (visited.map (.phase old.serial))).outcomes serial = books.outcomes serial :=
    outcomes_of_silent rfl (by simp [Entry.record?]) serial
  rw [← before, outcomes, course, List.filterMap_append]
  by_cases own : old.serial = serial <;> simp [outcomes, write, Entry.outcomeOf?, recordOf, own]

theorem Turn.passage (turn : Turn books next) : Passage books next := by
  cases turn with
  | kept => exact .goesOn rfl rfl rfl fun _ => rfl
  | begun start identity deadline unobserved =>
    exact .begins (by simp [begin, Observation.ofStart]) rfl rfl (outcomes_begin books start identity deadline)
  | amended | reported | sent | concluded => exact .goesOn (serials_replace ..) rfl rfl fun _ => rfl
  | expired =>
    exact .goesOn (serials_replace ..) rfl rfl (outcomes_of_silent rfl (by simp [Entry.record?]))
  | taken =>
    refine .goesOn (serials_replace ..) rfl rfl (outcomes_of_silent rfl ?_)
    split <;> simp [Entry.record?]
  | unexpected | offered => exact .goesOn rfl rfl rfl (outcomes_of_silent rfl (by simp [Entry.record?]))
  | aborted old member watching reason =>
    exact .of_recorded member (.aborted reason) rfl rfl rfl [.stoppedByOverflow, .done] (by simp [write, finish])
  | completed old member | ended old member => exact .of_recorded member _ rfl rfl rfl [.done] (List.append_cons ..)

theorem Breach.passage (breach : Breach books next) : Passage books next := by
  cases breach with
  | diverted | closed => exact .goesOn rfl rfl rfl fun _ => rfl
  | dropped => exact .goesOn (serials_replace ..) rfl rfl fun _ => rfl
  | droppedLast old member => exact .of_recorded member _ rfl rfl rfl [.done] (List.append_cons ..)

end Books

namespace Monitor

variable {capacity : Nat} {monitor next : Monitor} {action : Action} {actions : List Action} {old : Observation}
  {ended : List Observation}

/-- An action ends one observation at most, and records it if it does. -/
theorem passage_of_step (stepped : monitor.step? action = some next) : Books.Passage monitor.books next.books := by
  rcases books_step stepped with turn | ⟨-, breach⟩
  · exact turn.passage
  · exact breach.passage

/-! ## Endings -/

/-- The observations that run in one state and no longer in the next. -/
def endingsAt (monitor next : Monitor) : List Observation :=
  monitor.active.filter fun observation => (next.observation? observation.serial).isNone

/-- The observations that end in a run, in the order in which they do. -/
def endings (monitor : Monitor) : List Action → List Observation
  | [] => []
  | action :: rest =>
      match monitor.step? action with
      | some next => monitor.endingsAt next ++ next.endings rest
      | none => []

/-- What has been recorded of an observation. -/
def recordsOf (monitor : Monitor) (observation : Observation) : List Record :=
  (monitor.outcomes observation.serial).map (Books.recordOf observation)

theorem observation?_eq_none_iff {serial : Nat} :
    monitor.observation? serial = none ↔ serial ∉ monitor.active.map (·.serial) := by
  simp [observation?]

theorem endingsAt_eq_nil (serials : monitor.active.map (·.serial) ⊆ next.active.map (·.serial)) :
    monitor.endingsAt next = [] := by
  refine List.filter_eq_nil_iff.mpr fun observation member gone => ?_
  have missing := observation?_eq_none_iff.mp (Option.isNone_iff_eq_none.mp gone)
  exact missing (serials (List.mem_map_of_mem member))

theorem observation?_of_removed (active : next.active = monitor.active.filter (·.serial ≠ old.serial)) {serial : Nat} :
    next.observation? serial = none ↔ monitor.observation? serial = none ∨ serial = old.serial := by
  have serials : next.active.map (·.serial) = (monitor.active.map (·.serial)).filter (· ≠ old.serial) := by
    rw [active, List.filter_map]
    rfl
  rw [observation?_eq_none_iff, observation?_eq_none_iff, serials, List.mem_filter, decide_eq_true_iff, not_and_or,
    not_ne_iff]

/-- No other observation has the number of this one. -/
theorem Separate.filter_serial_eq (separate : monitor.Separate) (member : old ∈ monitor.active) :
    monitor.active.filter (fun other => decide (other.serial = old.serial)) = [old] := by
  obtain ⟨before, after, split⟩ := List.append_of_mem member
  have apart := separate.apart
  rw [split, List.pairwise_append, List.pairwise_cons] at apart
  obtain ⟨-, ⟨apartAfter, -⟩, apartBefore⟩ := apart
  have noneBefore : before.filter (fun other => decide (other.serial = old.serial)) = [] := by
    refine List.filter_eq_nil_iff.mpr fun other earlier same => ?_
    exact (apartBefore other earlier old (List.mem_cons_self ..)).serial (of_decide_eq_true same)
  have noneAfter : after.filter (fun other => decide (other.serial = old.serial)) = [] := by
    refine List.filter_eq_nil_iff.mpr fun other later same => ?_
    exact (apartAfter other later).serial (of_decide_eq_true same).symm
  simp [split, noneBefore, noneAfter]

/-- Only the observation that has been taken out has ended. -/
theorem Separate.endingsAt_eq (separate : monitor.Separate) (member : old ∈ monitor.active)
    (active : next.active = monitor.active.filter (·.serial ≠ old.serial)) : monitor.endingsAt next = [old] := by
  have gone : ∀ observation ∈ monitor.active,
      (next.observation? observation.serial).isNone = decide (observation.serial = old.serial) := by
    intro observation running
    have found := separate.observation?_eq_some_iff.mpr ⟨running, rfl⟩
    rw [Bool.eq_iff_iff, Option.isNone_iff_eq_none, decide_eq_true_iff, observation?_of_removed active, found]
    simp
  rw [endingsAt, List.filter_congr gone]
  exact separate.filter_serial_eq member

/-! ## Runs -/

/-- Of the observations that have ended, in this order, the last are retained. -/
structure Retained (capacity : Nat) (monitor : Monitor) (ended : List Observation) : Prop where
  /-- No observation ends twice. -/
  once : (ended.map (·.serial)).Nodup
  /-- Those have ended that have begun and run no longer. -/
  ended_iff : ∀ serial, serial ∈ ended.map (·.serial) ↔
    serial < monitor.nextSerial ∧ monitor.observation? serial = none
  /-- There is one record of each. -/
  recorded : ∀ observation ∈ ended, ∃ outcome, monitor.recordsOf observation = [Books.recordOf observation outcome]
  /-- The last of these records are retained. -/
  retained : monitor.retention.records = (ended.flatMap monitor.recordsOf).rtake capacity

/-- What each step keeps true of the observations that have ended. -/
structure Filed (capacity : Nat) (monitor : Monitor) (ended : List Observation) : Prop
    extends monitor.Separate, Retained capacity monitor ended where
  unrecorded : ∀ serial, serial ∉ ended.map (·.serial) → monitor.outcomes serial = []
  capacity_eq : monitor.retention.capacity = capacity

theorem filed_empty (policy : Policy) (cacheSize : Nat) : Filed policy.retained (empty policy cacheSize) [] where
  toSeparate := separate_empty policy cacheSize
  once := List.nodup_nil
  ended_iff serial := by simp [empty]
  recorded _ member := absurd member List.not_mem_nil
  retained := by simp [empty, Retention.empty]
  unrecorded _ _ := rfl
  capacity_eq := rfl

/-- The observations that have ended stay what they are as long as no other one ends. -/
theorem Filed.keep (filed : Filed capacity monitor ended) (separate : next.Separate)
    (known : ∀ serial, (serial < next.nextSerial ∧ next.observation? serial = none) ↔
      (serial < monitor.nextSerial ∧ monitor.observation? serial = none))
    (retention : next.retention = monitor.retention)
    (outcomes : ∀ serial, next.outcomes serial = monitor.outcomes serial) : Filed capacity next ended := by
  have records : next.recordsOf = monitor.recordsOf := by
    funext observation
    rw [recordsOf, outcomes, recordsOf]
  refine ⟨separate, ⟨filed.once, ?_, ?_, ?_⟩, ?_, ?_⟩
  · intro serial
    rw [known]
    exact filed.ended_iff serial
  · rw [records]
    exact filed.recorded
  · rw [retention, records]
    exact filed.retained
  · intro serial unended
    rw [outcomes]
    exact filed.unrecorded serial unended
  · rw [retention]
    exact filed.capacity_eq

/-- An observation that ends is added to those that have ended, and has not been one of them. -/
theorem Filed.close (filed : Filed capacity monitor ended) (separate : next.Separate)
    (member : old ∈ monitor.active) (outcome : Outcome)
    (active : next.active = monitor.active.filter (·.serial ≠ old.serial))
    (issued : next.nextSerial = monitor.nextSerial)
    (retention : next.retention = monitor.retention.push (Books.recordOf old outcome))
    (outcomes : ∀ serial, next.outcomes serial =
      monitor.outcomes serial ++ if old.serial = serial then [outcome] else []) :
    Filed capacity next (ended ++ [old]) := by
  have fresh : old.serial ∉ ended.map (·.serial) := by
    intro before
    have gone := ((filed.ended_iff old.serial).mp before).2
    exact observation?_eq_none_iff.mp gone (List.mem_map_of_mem member)
  have earlier : ∀ observation ∈ ended, next.recordsOf observation = monitor.recordsOf observation := by
    intro observation before
    have differs : old.serial ≠ observation.serial := fun same => fresh (same ▸ List.mem_map_of_mem before)
    rw [recordsOf, outcomes, if_neg differs, List.append_nil, recordsOf]
  have now : next.recordsOf old = [Books.recordOf old outcome] := by
    rw [recordsOf, outcomes, filed.unrecorded old.serial fresh, if_pos rfl]
    rfl
  have retained : next.retention = ⟨capacity, ((ended ++ [old]).flatMap next.recordsOf).rtake capacity⟩ := by
    have same : monitor.retention = ⟨capacity, (ended.flatMap monitor.recordsOf).rtake capacity⟩ := by
      rw [← filed.retained, ← filed.capacity_eq]
    rw [retention, same, Retention.push_rtake, List.flatMap_append, List.flatMap_singleton, now,
      List.flatMap_congr earlier]
  refine ⟨separate, ⟨?_, ?_, ?_, ?_⟩, ?_, ?_⟩
  · rw [List.map_append, List.map_singleton, ← List.concat_eq_append]
    exact filed.once.concat fresh
  · intro serial
    have known : old.serial < monitor.nextSerial := (filed.fits old member).serial
    rw [List.map_append, List.mem_append, filed.ended_iff, issued, observation?_of_removed active, and_or_left]
    refine or_congr_right ⟨fun isOld => ?_, fun isOld => List.mem_singleton.mpr isOld.2⟩
    obtain rfl := List.mem_singleton.mp isOld
    exact ⟨known, rfl⟩
  · intro observation has
    rcases List.mem_append.mp has with before | isOld
    · rw [earlier observation before]
      exact filed.recorded observation before
    · obtain rfl := List.mem_singleton.mp isOld
      exact ⟨outcome, now⟩
  · rw [retained]
  · intro serial unended
    rw [List.map_append, List.mem_append, not_or] at unended
    have differs : old.serial ≠ serial := fun same => unended.2 (same ▸ List.mem_singleton_self _)
    rw [outcomes, if_neg differs, List.append_nil]
    exact filed.unrecorded serial unended.1
  · rw [retained]

/-- Each observation that ends is filed. -/
theorem Filed.step (filed : Filed capacity monitor ended) (stepped : monitor.step? action = some next) :
    Filed capacity next (ended ++ monitor.endingsAt next) := by
  have separate := filed.toSeparate.step stepped
  cases passage_of_step stepped with
  | goesOn serials issued retention outcomes =>
    have serials : next.active.map (·.serial) = monitor.active.map (·.serial) := serials
    have issued : next.nextSerial = monitor.nextSerial := issued
    rw [endingsAt_eq_nil (serials ▸ List.Subset.refl _), List.append_nil]
    refine filed.keep separate (fun serial => ?_) retention (by simpa only [outcomes_books] using outcomes)
    rw [observation?_eq_none_iff, observation?_eq_none_iff, serials, issued]
  | begins serials issued retention outcomes =>
    have serials : next.active.map (·.serial) = monitor.active.map (·.serial) ++ [monitor.nextSerial] := serials
    have issued : next.nextSerial = monitor.nextSerial + 1 := issued
    rw [endingsAt_eq_nil (serials ▸ List.subset_append_left _ _), List.append_nil]
    refine filed.keep separate (fun serial => ?_) retention (by simpa only [outcomes_books] using outcomes)
    rw [observation?_eq_none_iff, observation?_eq_none_iff, serials, issued, List.mem_append, List.mem_singleton,
      not_or]
    constructor
    · rintro ⟨known, unlisted, older⟩
      exact ⟨by omega, unlisted⟩
    · rintro ⟨known, unlisted⟩
      exact ⟨Nat.lt_succ_of_lt known, unlisted, Nat.ne_of_lt known⟩
  | ends old member outcome active issued retention outcomes =>
    rw [filed.toSeparate.endingsAt_eq member active]
    exact filed.close separate member outcome active issued retention (by simpa only [outcomes_books] using outcomes)

/-- In every run, what ended is filed in this order. -/
theorem Filed.run (filed : Filed capacity monitor ended) (runs : monitor.run? actions = some next) :
    Filed capacity next (ended ++ monitor.endings actions) := by
  induction actions generalizing monitor ended with
  | nil =>
    obtain rfl := Option.some.inj runs
    rwa [endings, List.append_nil]
  | cons action rest ih =>
    obtain ⟨middle, stepped, runs⟩ := Option.bind_eq_some_iff.mp runs
    have filed := ih (filed.step stepped) runs
    rwa [endings, stepped, ← List.append_assoc]

/-- The last records that were pushed are retained, so that a monitor retains the records of the last observations
to end. -/
theorem retains_most_recent :
    (∀ (capacity : Nat) (pushed : List Record),
      (pushed.foldl Retention.push (.empty capacity)).records = pushed.rtake (min capacity pushed.length)) ∧
    ∀ (policy : Policy) (cacheSize : Nat) (actions : List Action) (monitor : Monitor),
      (empty policy cacheSize).run? actions = some monitor →
      Retained policy.retained monitor ((empty policy cacheSize).endings actions) := by
  constructor
  · intro capacity pushed
    have last : pushed.length - min capacity pushed.length = pushed.length - capacity := by omega
    rw [Retention.foldl_push, List.rtake, List.rtake, last]
  · intro policy cacheSize actions monitor runs
    exact ((filed_empty policy cacheSize).run runs).toRetained

private theorem valid_oven : ContainerId.Valid "oven" := by decide

private theorem valid_lamp : ContainerId.Valid "lamp" := by decide

/-- A container starts, and its aggregator begins to listen. -/
private def startOfKitchen (serial : Nat) (container : ContainerId) : List Action :=
  [.request ⟨container, container.text, ⟨"default", "kitchen-0"⟩, none, "kitchen:1", "", []⟩,
    .enroll 0 ⟨"default", "Pod", "kitchen-0", "kitchen:1"⟩, .aggregate serial .subscribe, .aggregate serial .replay]

/-- From the deadline of an observation to the answer of the store for its only task. -/
private def served (serial : Nat) (result : Except String Unit) : List Action :=
  [.expire serial, .aggregate serial .heed, .aggregate serial .drain, .aggregate serial .leave, .report serial,
    .send serial, .take, .prepare, .stored result]

/-- The observation of `oven` is aborted. After its pod is forgotten, `oven` is observed again beside `lamp`, and done
before it although it has begun later. -/
private def ovenTwice : List Action :=
  startOfKitchen 0 ⟨"oven", valid_oven⟩ ++
    [.ingest Trace.overflowMarker, .aggregate 0 .receive, .aggregate 0 .leave, .abort 0,
      .forgetPod ⟨"default", "kitchen-0"⟩] ++
    startOfKitchen 1 ⟨"lamp", valid_lamp⟩ ++ startOfKitchen 2 ⟨"oven", valid_oven⟩ ++
    [.elapse 5, .hire] ++ served 2 (.ok ()) ++ served 1 (.error "disk full")

/-- Three observations end, two of them of the same container, and two are retained. -/
theorem retains_most_recent_of_ovenTwice : ∃ monitor,
    (empty ⟨5, ⟨false, true⟩, 2⟩ 1).run? ovenTwice = some monitor ∧
      ((empty ⟨5, ⟨false, true⟩, 2⟩ 1).endings ovenTwice).map (·.serial) = [0, 2, 1] ∧
      monitor.retention.records.map (fun record => (record.container.text, record.outcome)) =
        [("oven", .completed 0), ("lamp", .completed 1)] ∧
      Retained 2 monitor ((empty ⟨5, ⟨false, true⟩, 2⟩ 1).endings ovenTwice) := by
  let monitor := (empty ⟨5, ⟨false, true⟩, 2⟩ 1).reached ovenTwice
  have facts : ((empty ⟨5, ⟨false, true⟩, 2⟩ 1).run? ovenTwice).isSome = true ∧
      ((empty ⟨5, ⟨false, true⟩, 2⟩ 1).endings ovenTwice).map (·.serial) = [0, 2, 1] ∧
      monitor.retention.records.map (fun record => (record.container.text, record.outcome)) =
        [("oven", .completed 0), ("lamp", .completed 1)] := by
    decide +kernel
  obtain ⟨runs, ended, records⟩ := facts
  have runs := run?_eq_some_reached runs
  exact ⟨monitor, runs, ended, records, retains_most_recent.2 _ _ _ _ runs⟩

end Monitor

end Observatory
