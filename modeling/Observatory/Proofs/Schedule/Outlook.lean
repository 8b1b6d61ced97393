import Observatory.Proofs.Schedule.Line

/-! # What is to be seen without the pipeline

The part of a monitor that scans, senders and the worker cannot change is a monitor in its own right: its observations
watch, are over and report, and nothing follows. Main statement: every monitor goes along with its bare part, step by step
and through time, so what the observations report and which profiles they have for the store depends on nothing else.
-/

namespace Observatory

namespace Observation

variable {observation : Observation}

/-- The observation without the results of its scans. -/
def bare (observation : Observation) : Observation :=
  { observation with sbom := .pending, vulnerabilities := .pending }

/-- The observation when it has reported. -/
def reporting (observation : Observation) (outcome : Aggregation.Outcome) (services : List Service) : Observation :=
  { observation with
    aggregation := observation.aggregation.complete (outcome.mapError Aggregation.Error.message)
    unsent := services
    pendingTasks := services.length }

/-- The observations that have not reported. -/
def unreported (active : List Observation) : List Observation :=
  (active.filter (·.aggregation.isPending)).map bare

theorem unreported_append (active more : List Observation) :
    unreported (active ++ more) = unreported active ++ unreported more := by
  simp [unreported]

theorem unreported_cons (active : List Observation) : unreported (observation :: active) =
    if observation.aggregation.isPending then observation.bare :: unreported active else unreported active := by
  unfold unreported
  rw [List.filter_cons]
  split <;> rfl

theorem unreported_unreported (active : List Observation) : unreported (unreported active) = unreported active := by
  induction active with
  | nil => rfl
  | cons observation active ih =>
    rw [unreported_cons]
    split
    · rename_i pending
      have still : observation.bare.aggregation.isPending = true := pending
      rw [unreported_cons, if_pos still, ih]
      rfl
    · exact ih

theorem mem_unreported {active : List Observation} (member : observation ∈ unreported active) :
    ∃ old ∈ active, observation = old.bare := by
  obtain ⟨old, listed, rfl⟩ := List.mem_map.mp member
  exact ⟨old, List.mem_of_mem_filter listed, rfl⟩

end Observation

namespace Monitor

open Observation

variable {monitor next seen : Monitor} {action : Action} {observation old new : Observation} {serial : Nat}
  {before after : List Observation}

/-- The observations that have not reported, and what was reported. -/
def bare (monitor : Monitor) : Monitor :=
  { monitor with
    active := unreported monitor.active
    finished := .empty
    retention := .empty 0
    queue := .empty
    worker := .absent
    inquiries := []
    journal := monitor.reports }

/-- The same is to be seen of two monitors. -/
theorem bare_eq (policy : next.policy = monitor.policy) (now : next.now = monitor.now)
    (nextSerial : next.nextSerial = monitor.nextSerial) (accumulator : next.accumulator = monitor.accumulator)
    (entering : next.entering = monitor.entering) (active : unreported next.active = unreported monitor.active)
    (reports : next.reports = monitor.reports) : next.bare = monitor.bare := by
  simp only [bare, policy, now, nextSerial, accumulator, entering, active, reports]

theorem reports_bare (monitor : Monitor) : monitor.bare.reports = monitor.reports := by
  simp [bare, reports]

/-- What is to be seen of what is to be seen is the same. -/
theorem bare_bare (monitor : Monitor) : monitor.bare.bare = monitor.bare :=
  bare_eq rfl rfl rfl rfl rfl (unreported_unreported _) (reports_bare monitor)

/-- What goes on behind the observations cannot be seen. -/
theorem Kept.bare_aside (kept : monitor.Kept) (aside : Aside monitor action next) : next.bare = monitor.bare := by
  refine bare_eq aside.policy aside.now aside.nextSerial aside.accumulator aside.entering ?_ aside.reports
  cases aside.progress with
  | kept active => rw [active]
  | revised old new member advanced active =>
    obtain ⟨before, after, among⟩ := kept.among member
    have replaced : next.active = before ++ new :: after := active.trans (among.replace advanced.serial)
    simp only [replaced, among.split, unreported_append, unreported_cons, advanced.aggregation]
    split
    · rename_i pending
      rw [advanced.unreported (Option.isNone_iff_eq_none.mp pending)]
      rfl
    · rfl
  | ended old member reported unsent active =>
    obtain ⟨before, after, among⟩ := kept.among member
    have removed : next.active = before ++ after := active.trans among.filter
    have settled : old.aggregation.isPending = false := by
      rw [Completion.isPending, Option.isNone_eq_false_iff, Option.isSome_iff_ne_none]
      exact reported
    simp [removed, among.split, unreported_append, unreported_cons, settled]

/-! ## What is done next -/

/-- An observation that has reported is done, apart from sending. -/
theorem Kept.observationAction?_of_reported (kept : monitor.Kept) (member : observation ∈ monitor.active)
    (reported : observation.aggregation.isPending = false) : monitor.observationAction? observation = none := by
  rw [Completion.isPending, Option.isNone_eq_false_iff] at reported
  obtain ⟨result, same⟩ := Option.isSome_iff_exists.mp reported
  obtain ⟨outcome, ended, -⟩ := (kept.fits observation member).reported result same
  have phase := ((kept.accounted.stands observation member).announced (by simp [same])).1
  have unwatched : observation.phase ≠ .watching := by
    rcases phase with stopped | running <;> simp [*]
  simp [observationAction?, unwatched, move?, ended, Aggregation.Aggregator.outcome?, Completion.isPending, same]

/-- Without the pipeline the observations do the same next. -/
theorem Kept.watchAction?_bare (kept : monitor.Kept) : monitor.bare.watchAction? = monitor.watchAction? := by
  have seen (active : List Observation) (running : active ⊆ monitor.active) :
      (unreported active).findSome? monitor.bare.observationAction? = active.findSome? monitor.observationAction? := by
    induction active with
    | nil => rfl
    | cons observation active ih =>
      have rest := ih fun other member => running (List.mem_cons_of_mem _ member)
      rw [unreported_cons]
      split
      · have same : monitor.bare.observationAction? observation.bare = monitor.observationAction? observation := rfl
        rw [List.findSome?_cons, List.findSome?_cons, same, rest]
      · rename_i reported
        have done := kept.observationAction?_of_reported (running (List.mem_cons_self ..)) (by simpa using reported)
        rw [List.findSome?_cons, done, rest]
  exact seen monitor.active (List.Subset.refl _)

theorem Among.bare (among : Among monitor.active old before after) (pending : old.aggregation.isPending = true) :
    Among monitor.bare.active old.bare (unreported before) (unreported after) := by
  refine ⟨?_, fun other member => ?_⟩
  · simp [Monitor.bare, among.split, unreported_append, unreported_cons, pending]
  · rw [← unreported_append] at member
    obtain ⟨earlier, listed, rfl⟩ := mem_unreported member
    exact among.others earlier listed

theorem Among.observation? (among : Among monitor.active old before after) :
    monitor.observation? old.serial = some old := by
  have others : before.find? (·.serial = old.serial) = none :=
    List.find?_eq_none.mpr fun other member => by simpa using among.others other (List.mem_append_left _ member)
  simp [Monitor.observation?, among.split, others]

/-- A new state of an observation that has not reported is seen alike. -/
private theorem Among.unreported_replace (among : Among monitor.active old before after) (new : Observation)
    (pending : old.aggregation.isPending = true) (numbered : new.serial = old.serial) :
    unreported (monitor.bare.replace new.bare).active = unreported (monitor.replace new).active := by
  have replaced : (monitor.bare.replace new.bare).active = unreported before ++ new.bare :: unreported after :=
    have numbered : new.bare.serial = old.bare.serial := numbered
    (among.bare pending).replace numbered
  have replacedToo : (monitor.replace new).active = before ++ new :: after := among.replace numbered
  have same : new.bare.aggregation.isPending = new.aggregation.isPending := rfl
  simp only [replaced, replacedToo, unreported_append, unreported_cons, unreported_unreported, same]
  rfl

private theorem Among.unreported_remove (among : Among monitor.active old before after)
    (pending : old.aggregation.isPending = true) :
    unreported (monitor.bare.active.filter (·.serial ≠ old.serial)) =
      unreported (monitor.active.filter (·.serial ≠ old.serial)) := by
  have removed : monitor.bare.active.filter (·.serial ≠ old.serial) = unreported before ++ unreported after :=
    (among.bare pending).filter
  simp only [removed, among.filter, unreported_append, unreported_unreported]

theorem reports_enter (monitor : Monitor) (observation : Observation) (phase : Phase) :
    (monitor.enter observation phase).reports = monitor.reports := by
  unfold enter
  dsimp only
  rw [reports_write]
  split <;> simp [Entry.isReport, reports, replace]

/-- What is told about an aggregation that was stopped. -/
def noticeOfOutcome (container : ContainerId) : Aggregation.Outcome → Notice
  | .ok report => .stopped container report
  | .error error => .stoppedInError container error.message

private theorem report?_eq {outcome : Aggregation.Outcome} (found : monitor.observation? serial = some old)
    (ended : old.aggregator.outcome? = some outcome)
    (ready : (old.isStopped && old.aggregation.isPending) = true) :
    let services := monitor.policy.services.toList
    let reported := old.reporting outcome services
    let told := (monitor.replace reported).write [.notice (noticeOfOutcome old.container outcome)]
    monitor.report? serial = some (if services.isEmpty then told.finish reported (.completed 0) else told) := by
  simp only [report?, found, ended, ready, Option.bind_eq_bind, Option.bind_some, ↓reduceIte]
  cases outcome <;> simp only [noticeOfOutcome, reporting, Except.mapError] <;> split <;> rfl

/-- An observation that reports tells the same whether there is a pipeline or not. -/
private theorem Among.report_bare (among : Among monitor.active old before after)
    (pending : old.aggregation.isPending = true) (stepped : monitor.report? old.serial = some next) :
    ∃ seen, monitor.bare.report? old.serial = some seen ∧ seen.bare = next.bare ∧
      seen.announced (.report old.serial) = next.announced (.report old.serial) := by
  have found := among.observation?
  have foundBare : monitor.bare.observation? old.serial = some old.bare := (among.bare pending).observation?
  obtain ⟨owner, outcome, -, -, observed, ended, stopped, -⟩ := report?_spec stepped
  obtain rfl : old = owner := Option.some.inj (found.symm.trans observed)
  have ready : (old.isStopped && old.aggregation.isPending) = true := by simp [Observation.isStopped, stopped, pending]
  have reaches := report?_eq found ended ready
  have endedBare : old.bare.aggregator.outcome? = some outcome := ended
  have sees := report?_eq foundBare endedBare ready
  dsimp only at reaches sees
  have policy : monitor.bare.policy = monitor.policy := rfl
  have bare : old.bare.reporting outcome monitor.policy.services.toList =
      (old.reporting outcome monitor.policy.services.toList).bare := rfl
  have container : old.bare.container = old.container := rfl
  rw [policy, bare, container] at sees
  have numbered : (old.reporting outcome monitor.policy.services.toList).serial = old.serial := rfl
  generalize old.reporting outcome monitor.policy.services.toList = reported at reaches sees numbered
  obtain rfl := Option.some.inj (stepped.symm.trans reaches)
  refine ⟨_, sees, ?_⟩
  split
  · -- without services the observation ends at once
    constructor
    · refine bare_eq rfl rfl rfl rfl rfl ?_ ?_
      · have removed := filter_active_replace monitor reported
        have removedToo := filter_active_replace monitor.bare reported.bare
        have same : reported.bare.serial = old.serial := numbered
        rw [numbered] at removed
        rw [same] at removedToo
        have remove := among.unreported_remove pending
        rw [← removed, ← removedToo, ← numbered] at remove
        exact remove
      · rw [reports_finish, reports_finish, reports_write, reports_write]
        exact congrArg (· ++ _) (reports_bare monitor)
    · have gone : old.serial = reported.bare.serial := numbered.symm
      simp [announced, observation?_finish, numbered, ← gone]
  · constructor
    · refine bare_eq rfl rfl rfl rfl rfl (among.unreported_replace reported pending numbered) ?_
      rw [reports_write, reports_write]
      exact congrArg (· ++ _) (reports_bare monitor)
    · have observed : (monitor.replace reported).observation? old.serial = some reported :=
        observation?_replace found numbered
      have observedBare : (monitor.bare.replace reported.bare).observation? old.serial = some reported.bare :=
        observation?_replace foundBare numbered
      have profile : reported.bare.profile? = reported.profile? := Observation.profile?_congr rfl rfl
      have unsent : reported.bare.unsent = reported.unsent := rfl
      have own : reported.bare.container = reported.container := rfl
      have told (base : Monitor) (entries : List Entry) :
          (base.write entries).observation? old.serial = base.observation? old.serial := rfl
      simp only [announced, told, observed, observedBare, profile, unsent, own]

/-- An observation that does something has not reported. -/
theorem Kept.pending_of_watch (kept : monitor.Kept) (watch : action.isWatch = true)
    (stepped : monitor.step? action = some next) :
    ∃ old ∈ monitor.active, old.aggregation.isPending = true ∧ ((∃ move, action = .aggregate old.serial move) ∨
      action = .expire old.serial ∨ action = .abort old.serial ∨ action = .report old.serial) := by
  have watching {old : Observation} (member : old ∈ monitor.active) (watching : old.phase = .watching) :
      old.aggregation.isPending = true :=
    Option.isNone_iff_eq_none.mpr ((kept.accounted.stands old member).unreported watching)
  cases action with
  | aggregate serial move =>
    obtain ⟨old, aggregator, acc, found, moved, -⟩ := aggregate?_spec stepped
    obtain ⟨member, rfl⟩ := mem_active_of_observation? found
    refine ⟨old, member, ?_, .inl ⟨move, rfl⟩⟩
    by_contra reported
    rw [Completion.isPending, Option.isNone_iff_eq_none] at reported
    -- an aggregator that has ended does not move
    obtain ⟨result, same⟩ := Option.ne_none_iff_exists'.mp reported
    obtain ⟨outcome, ended, -⟩ := (kept.fits old member).reported result same
    rw [ended] at moved
    cases moved
  | expire serial =>
    obtain ⟨old, found, phase, -⟩ := expire?_spec stepped
    obtain ⟨member, rfl⟩ := mem_active_of_observation? found
    exact ⟨old, member, watching member phase, .inr (.inl rfl)⟩
  | abort serial =>
    obtain ⟨old, outcome, aborted, found, -, phase, -⟩ := abort?_spec stepped
    obtain ⟨member, rfl⟩ := mem_active_of_observation? found
    exact ⟨old, member, watching member phase, .inr (.inr (.inl rfl))⟩
  | report serial =>
    obtain ⟨old, outcome, notice, reported, found, -, -, unreported, -⟩ := report?_spec stepped
    obtain ⟨member, rfl⟩ := mem_active_of_observation? found
    exact ⟨old, member, Option.isNone_iff_eq_none.mpr unreported, .inr (.inr (.inr rfl))⟩
  | ingest | exclude | intrude | elapse | request | enroll | sbomReady | vulnerabilitiesReady | send | hire | take
  | prepare | stored | divert | closeQueue | forgetPod | retainPods => contradiction

/-- What the observations do can be seen. -/
theorem Kept.step_bare (kept : monitor.Kept) (watch : action.isWatch = true)
    (stepped : monitor.step? action = some next) :
    ∃ seen, monitor.bare.step? action = some seen ∧ seen.bare = next.bare ∧
      seen.announced action = next.announced action := by
  obtain ⟨old, member, pending, acts⟩ := kept.pending_of_watch watch stepped
  obtain ⟨before, after, among⟩ := kept.among member
  have found := among.observation?
  have foundBare : monitor.bare.observation? old.serial = some old.bare := (among.bare pending).observation?
  obtain ⟨move, rfl⟩ | rfl | rfl | rfl := acts
  · simp only [step?, aggregate?, found, Option.bind_eq_bind, Option.bind_some, Option.bind_eq_some_iff,
      Option.pure_def, Option.some.injEq, Prod.exists] at stepped
    obtain ⟨aggregator, acc, moves, rfl⟩ := stepped
    have moves : moveAggregator? move old.bare monitor.bare.accumulator = some (aggregator, acc) := moves
    refine ⟨{ monitor.bare with accumulator := acc }.replace { old.bare with aggregator := aggregator }, ?_, ?_, rfl⟩
    · simp [step?, aggregate?, foundBare, moves]
    · exact bare_eq rfl rfl rfl rfl rfl
        (among.unreported_replace { old with aggregator := aggregator } pending rfl) (reports_bare monitor)
  · obtain ⟨owner, observed, watching, due, rfl⟩ := expire?_spec stepped
    obtain rfl : old = owner := Option.some.inj (found.symm.trans observed)
    refine ⟨monitor.bare.enter old.bare .stoppedByTimer, ?_, ?_, rfl⟩
    · have watching : old.bare.phase = .watching := watching
      have due : old.bare.deadline ≤ monitor.bare.now := due
      simp [step?, expire?, foundBare, watching, due]
    · refine bare_eq rfl rfl rfl rfl rfl ?_ ?_
      · exact among.unreported_replace { old with phase := .stoppedByTimer } pending rfl
      · rw [reports_enter, reports_enter, reports_bare]
  · obtain ⟨owner, outcome, aborted, observed, ended, watching, early, -, reached⟩ := abort?_spec stepped
    obtain rfl : old = owner := Option.some.inj (found.symm.trans observed)
    have sees : (monitor.bare.abort? old.serial).isSome = true := by
      have ended : old.bare.aggregator.outcome? = some outcome := ended
      have watching : old.bare.phase = .watching := watching
      have early : monitor.bare.now < old.bare.deadline := early
      simp [abort?, foundBare, ended, watching, early]
    obtain ⟨seen, sees⟩ := Option.isSome_iff_exists.mp sees
    obtain ⟨owner, outcome', aborted', observed, ended', -, -, -, reached'⟩ := abort?_spec sees
    obtain rfl : old.bare = owner := Option.some.inj (foundBare.symm.trans observed)
    obtain rfl : outcome = outcome' := Option.some.inj (ended.symm.trans ended')
    have removed := active_abort? stepped
    have removedToo := active_abort? sees
    subst reached reached'
    refine ⟨_, sees, bare_eq rfl rfl rfl rfl rfl ?_ ?_, rfl⟩
    · rw [removed, removedToo]
      exact among.unreported_remove pending
    · rw [reports_finish, reports_finish, reports_write, reports_write, reports_enter, reports_enter]
      exact congrArg (· ++ _) (reports_bare monitor)
  · exact among.report_bare pending stepped

end Monitor

/-! ## Scenes -/

/-- What is to be seen of a monitor, and the profiles that its observations have had for the store. -/
structure Scene where
  monitor : Monitor
  profiles : List (ContainerId × Option Artifact)

namespace Scene

variable {scene later other : Scene} {target due : Nat}

def setNow (scene : Scene) (now : Nat) : Scene :=
  { scene with monitor := { scene.monitor with now := now } }

/-- What is seen next, up to a given instant. Time goes on when the observations have nothing to do. -/
def next? (target : Nat) (scene : Scene) : Option Scene :=
  match scene.monitor.watchAction? with
  | some action => (scene.monitor.step? action).map fun next => ⟨next.bare, scene.profiles ++ next.announced action⟩
  | none => if scene.monitor.now < target then some (scene.setNow (scene.monitor.now + 1)) else none

/-- The scene becomes another one, up to a given instant. -/
def Becomes (target : Nat) : Scene → Scene → Prop :=
  Relation.ReflTransGen fun scene later => scene.next? target = some later

/-- A scene takes one course only. -/
theorem Becomes.unique (becomes : Becomes target scene later) (becomesToo : Becomes target scene other)
    (rests : later.next? target = none) (restsToo : other.next? target = none) : later = other := by
  have still {scene later : Scene} (rests : scene.next? target = none) (becomes : Becomes target scene later) :
      scene = later := by
    rcases becomes.cases_head with same | ⟨next, step, -⟩
    · exact same
    · exact absurd (rests.symm.trans step) (by simp)
  have functional : Relator.RightUnique fun scene later : Scene => scene.next? target = some later :=
    fun _ _ _ first second => Option.some.inj (first.symm.trans second)
  rcases Relation.ReflTransGen.total_of_right_unique functional becomes becomesToo with further | further
  · exact still rests further
  · exact (still restsToo further).symm

/-- While nothing is to be done, time goes on. -/
theorem becomes_setNow (within : due ≤ target) (ahead : scene.monitor.now ≤ due)
    (idle : ∀ now, scene.monitor.now ≤ now → now < due → (scene.setNow now).monitor.watchAction? = none) :
    Becomes target scene (scene.setNow due) := by
  induction due, ahead using Nat.le_induction with
  | base => exact .refl
  | succ now ahead ih =>
    have before := ih (by omega) fun earlier since sooner => idle earlier since (by omega)
    refine .tail before ?_
    have waits : (scene.setNow now).monitor.now < target := by
      show now < target
      omega
    simp only [next?, idle now ahead (Nat.lt_succ_self now), waits, ↓reduceIte]
    rfl

end Scene

namespace Monitor

variable {monitor next : Monitor} {scene : Scene} {action : Action} {target due : Nat} {surroundings : Surroundings}

/-- The monitor goes along with the scene: its bare part is what is to be seen, and of the profiles some have been handed
over and the others stand in line. -/
structure Shows (monitor : Monitor) (scene : Scene) : Prop where
  serves : monitor.Served
  timely : monitor.Timely
  bare : monitor.bare = scene.monitor
  lined : ∃ served left, monitor.Lined served left ∧ scene.profiles = served ++ left

theorem Shows.watchAction? (shows : monitor.Shows scene) : scene.monitor.watchAction? = monitor.watchAction? := by
  rw [← shows.bare, shows.serves.watchAction?_bare]

/-- A monitor that acts in turn goes along with its scene. -/
theorem Shows.step (shows : monitor.Shows scene) (inTurn : monitor.InTurn action)
    (stepped : monitor.step? action = some next) (target : Nat) :
    ∃ later, scene.Becomes target later ∧ next.Shows later := by
  have notDivert : action ≠ .divert := by
    rintro rfl
    exact nomatch inTurn.scheduled
  have notClose : action ≠ .closeQueue := by
    rintro rfl
    exact nomatch inTurn.scheduled
  have serves := shows.serves.step stepped notDivert notClose
  have timely := shows.timely.step shows.serves.toKept inTurn stepped
  obtain ⟨served, left, lined, profiles⟩ := shows.lined
  obtain ⟨served', left', lined', same⟩ := lined.step shows.serves shows.timely inTurn stepped
  rw [← profiles] at same
  cases behind : action.isWatch with
  | false =>
    have silent : next.announced action = [] := by
      cases action <;> first | rfl | contradiction
    rw [silent, List.append_nil] at same
    have bare := shows.serves.bare_aside (shows.serves.aside_step inTurn.scheduled behind stepped)
    exact ⟨scene, .refl, serves, timely, bare.trans shows.bare, served', left', lined', same.symm⟩
  | true =>
    have picked := inTurn.watch behind
    obtain ⟨seen, sees, bare, announced⟩ := shows.serves.step_bare behind stepped
    refine ⟨⟨next.bare, scene.profiles ++ next.announced action⟩, .single ?_, serves, timely, rfl, served', left', lined',
      same.symm⟩
    rw [shows.bare] at sees
    simp only [Scene.next?, shows.watchAction?, picked, sees, Option.map_some, bare, announced]

theorem Shows.prompt (shows : monitor.Shows scene) (prompt : monitor.Prompt next) (target : Nat) :
    ∃ later, scene.Becomes target later ∧ next.Shows later := by
  induction prompt with
  | refl => exact ⟨scene, .refl, shows⟩
  | tail _ step ih =>
    obtain ⟨middle, becomes, shows⟩ := ih
    obtain ⟨action, inTurn, stepped⟩ := step
    obtain ⟨later, further, shows⟩ := shows.step inTurn stepped target
    exact ⟨later, becomes.trans further, shows⟩

theorem watchAction?_of_isQuiet (quiet : monitor.isQuiet surroundings = true) : monitor.watchAction? = none :=
  List.findSome?_eq_none_iff.mpr fun _ member => observationAction?_of_isQuiet quiet member

/-- A monitor that settles takes the scene to where nothing more is to be done. -/
theorem Shows.settle (shows : monitor.Shows scene) (surroundings : Surroundings) (target : Nat) :
    ∃ later, scene.Becomes target later ∧ (monitor.settle surroundings).Shows later ∧
      later.monitor.watchAction? = none := by
  obtain ⟨later, becomes, showsLater⟩ := shows.prompt (shows.serves.prompt_settle surroundings) target
  exact ⟨later, becomes, showsLater, showsLater.watchAction?.trans
    (watchAction?_of_isQuiet (shows.serves.isQuiet_settle surroundings))⟩

/-! ## Time -/

/-- The observations stay in order while time passes. -/
theorem Timely.setNow (timely : monitor.Timely) {now : Nat} (ahead : monitor.now ≤ now) :
    Timely { monitor with now := now } where
  inOrder := timely.inOrder
  latest observation member :=
    Nat.le_trans (timely.latest observation member) (Nat.add_le_add_right ahead _)
  elapsed observation member left := Nat.le_trans (timely.elapsed observation member left) ahead

theorem Shows.setNow (shows : monitor.Shows scene) {now : Nat} (ahead : monitor.now ≤ now) :
    Shows { monitor with now := now } (scene.setNow now) := by
  obtain ⟨served, left, lined, profiles⟩ := shows.lined
  refine ⟨shows.serves.setNow now, shows.timely.setNow ahead, ?_, served, left,
    ⟨lined.inLine, lined.known, lined.handed⟩, profiles⟩
  rw [Scene.setNow, ← shows.bare]
  rfl

/-- Nothing is to be done before the next deadline. -/
theorem watchAction?_setNow (idle : monitor.watchAction? = none) {now : Nat}
    (early : ∀ observation ∈ monitor.active, observation.phase = .watching → now < observation.deadline) :
    ({ monitor with now := now } : Monitor).watchAction? = none := by
  refine List.findSome?_eq_none_iff.mpr fun observation member => ?_
  have still := List.findSome?_eq_none_iff.mp idle observation member
  have undue : ¬(observation.phase = .watching ∧ observation.deadline ≤ now) := fun due =>
    absurd (early observation member due.1) (Nat.not_lt.mpr due.2)
  unfold observationAction? at still ⊢
  split at still
  · contradiction
  · rw [if_neg (by simpa using undue)]
    exact still

/-- When the observations have nothing to do, none of them is due. -/
theorem lt_deadline (idle : monitor.watchAction? = none) {observation : Observation}
    (member : observation ∈ monitor.active) (watching : observation.phase = .watching) :
    monitor.now < observation.deadline := by
  by_contra due
  have still := List.findSome?_eq_none_iff.mp idle observation member
  simp [observationAction?, watching, Nat.not_lt.mp due] at still

/-- Until the next due instant, time just goes on. -/
theorem Shows.wait (shows : monitor.Shows scene) (idle : monitor.watchAction? = none) (ahead : monitor.now ≤ due)
    (within : due ≤ target)
    (early : ∀ observation ∈ monitor.active, observation.phase = .watching → due ≤ observation.deadline) :
    scene.Becomes target (scene.setNow due) ∧ Shows { monitor with now := due } (scene.setNow due) := by
  have now : scene.monitor.now = monitor.now := by
    rw [← shows.bare]
    rfl
  refine ⟨Scene.becomes_setNow within (now ▸ ahead) fun instant since sooner => ?_, shows.setNow ahead⟩
  rw [(shows.setNow (now ▸ since)).watchAction?]
  exact watchAction?_setNow idle fun observation member watching =>
    Nat.lt_of_lt_of_le sooner (early observation member watching)

/-- Whatever the monitor shows becomes what the other one shows, and that is all up to a given instant. -/
def Leads (target : Nat) (monitor final : Monitor) : Prop :=
  ∀ scene, monitor.Shows scene → monitor.watchAction? = none → monitor.now ≤ target →
    ∃ later, scene.Becomes target later ∧ final.Shows later ∧ later.next? target = none

/-- When nothing more is due, time goes on to the end. -/
private theorem leads_last (nothing : monitor.nextDue? surroundings target = none) :
    Leads target monitor (Monitor.settle surroundings { monitor with now := target }) := by
  intro scene shows idle ahead
  obtain ⟨waits, showsThen⟩ := shows.wait idle ahead (Nat.le_refl target) fun observation member watching => by
    have due := deadline_mem_dues member watching surroundings
    exact Nat.le_of_lt (nextDue?_eq_none nothing due (lt_deadline idle member watching))
  obtain ⟨later, becomes, showsLater, rests⟩ := showsThen.settle surroundings target
  refine ⟨later, waits.trans becomes, showsLater, ?_⟩
  have now : later.monitor.now = target := by
    rw [← showsLater.bare]
    exact (settles_settle surroundings { monitor with now := target }).frame.1
  simp [Scene.next?, rests, now]

/-- Time goes on to the next due instant, and from there as before. -/
private theorem leads_instant {final : Monitor} (found : monitor.nextDue? surroundings target = some due)
    (leads : Leads target (Monitor.settle surroundings { monitor with now := due }) final) :
    Leads target monitor final := by
  intro scene shows idle ahead
  obtain ⟨-, sooner, within, first⟩ := nextDue?_eq_some found
  obtain ⟨waits, showsThen⟩ := shows.wait idle (Nat.le_of_lt sooner) within fun observation member watching => by
    have due := deadline_mem_dues member watching surroundings
    exact first _ due (lt_deadline idle member watching)
  obtain ⟨middle, becomes, showsMiddle, rests⟩ := showsThen.settle surroundings target
  have now := (settles_settle surroundings { monitor with now := due }).frame.1
  obtain ⟨later, further, showsLater, restsLater⟩ := leads middle showsMiddle (showsMiddle.watchAction?.symm.trans rests)
    (now ▸ within)
  exact ⟨later, (waits.trans becomes).trans further, showsLater, restsLater⟩

/-- A monitor goes along with the scene through time. -/
theorem Shows.advance (shows : monitor.Shows scene) (idle : scene.monitor.watchAction? = none)
    (surroundings : Surroundings) (duration : Nat) :
    ∃ later, scene.Becomes (scene.monitor.now + duration) later ∧ (monitor.advance surroundings duration).Shows later ∧
      later.next? (scene.monitor.now + duration) = none := by
  have leads : Leads (monitor.now + duration) monitor (monitor.advance surroundings duration) :=
    shows.serves.toKept.advanceFor_induction (fun _ => leads_last) (fun _ => leads_instant) shows.serves.foreseen_lt
  have now : scene.monitor.now = monitor.now := by
    rw [← shows.bare]
    rfl
  rw [now]
  exact leads scene shows (shows.watchAction?.symm.trans idle) (Nat.le_add_right _ _)

end Monitor

end Observatory
