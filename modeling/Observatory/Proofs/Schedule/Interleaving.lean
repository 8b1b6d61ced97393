import Observatory.Proofs.Schedule.Isolation

/-! # Interleavings

Scans, senders and the worker get their turns in any order among what the observations do. Main statement: two runs that
differ in nothing but what goes on behind the observations have told the same reports, and hand over the same profiles.
Each of them does so in the order in which the tasks entered its queue, and that is all that may differ when both are
through.
-/

namespace Observatory

/-- The action goes on behind the observations: a scan has its result, or the pipeline moves on. -/
def Action.isBehind : Action → Bool
  | .sbomReady .. | .vulnerabilitiesReady .. | .send _ | .hire | .take | .prepare | .stored _ => true
  | _ => false

/-- What is seen of a run. -/
def Scene.play (scene : Scene) (actions : List Action) : Scene :=
  (actions.filter (!·.isBehind)).foldl Scene.event scene

/-- The last action is seen unless it goes on behind the observations. -/
theorem Scene.play_concat (scene : Scene) (past : List Action) (action : Action) : scene.play (past ++ [action]) =
    if action.isBehind then scene.play past else (scene.play past).event action := by
  cases behind : action.isBehind <;> simp [play, behind]

namespace Monitor

variable {monitor other next : Monitor} {action : Action} {actions past : List Action} {asked : List ContainerId}
  {entry : ContainerId × Option Artifact} {served stock : List (ContainerId × Option Artifact)}
  {entered : List ContainerId} {scene : Scene}

/-! ## What is seen of a step -/

/-- What goes on behind the observations cannot be seen. -/
theorem Kept.bare_behind (kept : monitor.Kept) (behind : action.isBehind = true)
    (stepped : monitor.step? action = some next) : next.bare = monitor.bare := by
  by_cases hires : action = .hire
  · subst hires
    obtain ⟨-, rfl⟩ := hire?_spec stepped
    rfl
  · refine kept.bare_aside (kept.aside_step ?_ ?_ stepped)
    all_goals cases action <;> first | rfl | contradiction

theorem announced_of_behind (behind : action.isBehind = true) (monitor : Monitor) : monitor.announced action = [] := by
  cases action <;> first | rfl | contradiction

/-- Everything else is seen, whatever goes on behind the observations. -/
theorem StartedOnce.event_bare (once : monitor.StartedOnce asked) (kept : monitor.Kept)
    (front : action.isBehind = false) (undiverted : action ≠ .divert) (unclosed : action ≠ .closeQueue)
    (fresh : ∀ container, action.requested? = some container → container ∉ asked)
    (stepped : monitor.step? action = some next) :
    Scene.event ⟨monitor.bare, stock⟩ action = ⟨next.bare, stock ++ next.announced action⟩ := by
  by_cases watch : action.isWatch = true
  · obtain ⟨seen, sees, bare, announced⟩ := kept.step_bare watch stepped
    simp [Scene.event, sees, bare, announced]
  by_cases outside : action.isOutside = true
  · have bare := once.bare_event outside fresh
    rw [stepped, Option.getD_some] at bare
    simp [Scene.event, bare, announced_of_isOutside outside]
  cases action with
  | elapse duration =>
    obtain rfl := Option.some.inj stepped
    have bare := bare_bare { monitor with now := monitor.now + duration }
    exact congrArg (Scene.mk · _) bare
  | divert | closeQueue => contradiction
  | sbomReady | vulnerabilitiesReady | send | take | prepare | stored => contradiction
  | aggregate | expire | abort | report => exact absurd rfl watch
  | ingest | exclude | intrude | request | enroll | hire | forgetPod | retainPods => exact absurd rfl outside

/-! ## The stock -/

/-- The container has reported, and will not be observed again. -/
structure Settled (asked : List ContainerId) (entry : ContainerId × Option Artifact) (monitor : Monitor) : Prop where
  isAsked : entry.1 ∈ asked
  nobody : (monitor.door entry.1).waiting = 0
  known : monitor.Knows entry

/-- A container that has reported is done for good, as it is not started again. -/
theorem Settled.step (settled : Settled asked entry monitor) (separate : monitor.Separate)
    (stepped : monitor.step? action = some next)
    (fresh : ∀ container, action.requested? = some container → container ∉ asked) :
    Settled (asked ++ action.requested?.toList) entry next := by
  refine ⟨List.mem_append_left _ settled.isAsked, ?_, settled.known.step separate stepped fun start enters _ same => ?_⟩
  · have fewer := waiting_le_step stepped fun requested => fresh entry.1 requested settled.isAsked
    exact Nat.eq_zero_of_le_zero (settled.nobody ▸ fewer)
  · have waits : 0 < (monitor.door entry.1).waiting := List.countP_pos_iff.mpr ⟨start, enters, by simpa using same⟩
    exact absurd settled.nobody (Nat.ne_of_gt waits)

/-- The profiles that the observations have had for the store, one for each container. -/
structure Stocked (asked : List ContainerId) (stock : List (ContainerId × Option Artifact)) (monitor : Monitor) :
    Prop where
  distinct : (stock.map (·.1)).Nodup
  settled : ∀ entry ∈ stock, Settled asked entry monitor

/-- What is announced is new to the stock, as its container had not reported. -/
theorem Stocked.step (stocked : Stocked asked stock monitor) (serves : monitor.Served) (once : monitor.StartedOnce asked)
    (stepped : monitor.step? action = some next) (supply : Supply monitor next action)
    (fresh : ∀ container, action.requested? = some container → container ∉ asked) :
    Stocked (asked ++ action.requested?.toList) (stock ++ next.announced action) next := by
  have separate := serves.toSeparate
  have still (silent : next.announced action = []) :
      Stocked (asked ++ action.requested?.toList) (stock ++ next.announced action) next := by
    rw [silent, List.append_nil]
    exact ⟨stocked.distinct, fun entry listed => (stocked.settled entry listed).step separate stepped fresh⟩
  cases supply with
  | still _ _ _ _ silent => exact still silent
  | offered | taken | prepared => exact still rfl
  | announced old reported before after among unreported _ container settled _ active _ _ _ told =>
    have observed : (monitor.door old.container).isObserved = true :=
      List.find?_isSome.mpr ⟨old, among.mem, by simp⟩
    rw [told]
    refine ⟨?_, fun entry listed => ?_⟩
    · rw [List.map_append, List.map_singleton, ← List.concat_eq_append]
      refine List.Nodup.concat (fun listed => ?_) stocked.distinct
      obtain ⟨entry, earlier, same⟩ := List.mem_map.mp listed
      exact ((stocked.settled entry earlier).known old among.mem same.symm).1 unreported
    · rcases List.mem_append.mp listed with earlier | last
      · exact (stocked.settled entry earlier).step separate stepped fresh
      · obtain rfl := List.mem_singleton.mp last
        have reporting : reported ∈ next.active := by simp [active]
        refine ⟨List.mem_append_left _ ?_, ?_, container ▸ (separate.step stepped).knows reporting settled⟩
        · by_contra unasked
          exact absurd ((once old.container).unasked unasked).1 (by simp [observed])
        · have nobody : (monitor.door old.container).waiting = 0 := by
            by_contra waits
            exact absurd ((once old.container).waiting (Nat.pos_of_ne_zero waits)).1 (by simp [observed])
          exact Nat.eq_zero_of_le_zero (nobody ▸ waiting_le_step stepped (by simp [Action.requested?]))

/-! ## From the queue to the store -/

/-- The containers whose profile tasks are at the worker or in the queue, in this order. -/
def enqueued (monitor : Monitor) : List ContainerId :=
  monitor.worker.profiled?.toList ++ monitor.queue.tasks.filterMap (·.profiled?)

/-- Some of the stock has been handed over, some has a task in the queue, and the rest has yet to be sent. -/
structure Fed (stock : List (ContainerId × Option Artifact)) (entered : List ContainerId) (monitor : Monitor) :
    Prop where
  all : (entered ++ monitor.wanted.map (·.2)).Perm (stock.map (·.1))
  inOrder : ∃ served ⊆ stock, entered = served.map (·.1) ++ monitor.enqueued ∧
    monitor.profiles = served.filterMap (·.2)

theorem Fed.still (fed : Fed stock entered monitor) (enqueued : next.enqueued = monitor.enqueued)
    (wanted : next.wanted = monitor.wanted) (profiles : next.profiles = monitor.profiles) : Fed stock entered next :=
  ⟨wanted ▸ fed.all, enqueued ▸ profiles ▸ fed.inOrder⟩

/-- What is announced has yet to be sent. -/
private theorem Fed.announce (fed : Fed stock entered monitor) {old reported : Observation}
    {before after : List Observation} (among : Among monitor.active old before after) (unwanted : old.wants? = none)
    (container : reported.container = old.container) (profiling : .containerProfiling ∈ reported.unsent)
    (active : next.active = before ++ reported :: after) (worker : next.worker = monitor.worker)
    (queue : next.queue = monitor.queue) (profiles : next.profiles = monitor.profiles) :
    Fed (stock ++ [(old.container, reported.profile?)]) entered next := by
  have wanted : (next.wanted.map (·.2)).Perm (monitor.wanted.map (·.2) ++ [old.container]) := by
    have own : reported.wants? = some (reported.serial, old.container) := by
      simp [Observation.wants?, profiling, container]
    have added : next.wanted = before.filterMap Observation.wants? ++
        (reported.serial, old.container) :: after.filterMap Observation.wants? := by
      simp [Monitor.wanted, active, own]
    rw [added, among.wanted, unwanted, Option.toList_none, List.nil_append, List.map_append, List.map_cons,
      List.map_append]
    exact List.perm_middle.trans (List.perm_append_singleton _ _).symm
  refine ⟨?_, ?_⟩
  · rw [List.map_append, List.map_singleton]
    exact (wanted.append_left entered).trans (List.append_assoc .. ▸ fed.all.append_right _)
  · obtain ⟨served, within, order, handed⟩ := fed.inOrder
    refine ⟨served, List.subset_append_of_subset_left _ within, ?_, profiles.trans handed⟩
    rw [order, enqueued, enqueued, worker, queue]

/-- Whose task goes into the queue is the last one there. -/
private theorem Fed.send (fed : Fed stock entered monitor) {old : Observation} {service : Service}
    {unsent : List Service} {before after : List Observation} {accepted : Bool}
    (among : Among monitor.active old before after) (announced : old.unsent = service :: unsent)
    (last : .containerProfiling ∉ unsent)
    (offered : TaskQueue.Offered monitor.queue old.serial ⟨old.container, service⟩ next.queue accepted)
    (worker : next.worker = monitor.worker) (profiles : next.profiles = monitor.profiles)
    (wanted : next.wanted =
      if accepted then before.filterMap Observation.wants? ++ after.filterMap Observation.wants? else monitor.wanted) :
    Fed stock (entered ++ (next.queue.tasks.drop monitor.queue.tasks.length).filterMap (·.profiled?)) next := by
  have tasks := offered.tasks_eq
  have wants := among.wanted
  rw [tasks, List.drop_left]
  have enqueues : next.enqueued = monitor.enqueued ++
      (if accepted then [(⟨old.container, service⟩ : Task)] else []).filterMap (·.profiled?) := by
    simp only [enqueued, worker, tasks, List.filterMap_append, List.append_assoc]
  cases accepted with
  | false => simpa using fed.still (by simpa using enqueues) (by simpa using wanted) profiles
  | true =>
    simp only [↓reduceIte] at wanted enqueues ⊢
    cases service with
    | relevantCves =>
      have own : old.wants? = none := by simp [Observation.wants?, announced, last]
      rw [own, Option.toList_none, List.nil_append, ← wanted] at wants
      simpa [Task.profiled?] using fed.still (by simpa [Task.profiled?] using enqueues) wants.symm profiles
    | containerProfiling =>
      have own : old.wants? = some (old.serial, old.container) := by simp [Observation.wants?, announced]
      have task : [(⟨old.container, .containerProfiling⟩ : Task)].filterMap (·.profiled?) = [old.container] := rfl
      obtain ⟨served, within, order, handed⟩ := fed.inOrder
      refine ⟨?_, served, within, ?_, profiles.trans handed⟩
      · have all := fed.all
        rw [wants, own] at all
        refine List.Perm.trans ?_ all
        rw [task, wanted, List.append_assoc]
        refine List.Perm.append_left entered ?_
        simpa using List.perm_middle.symm
      · rw [enqueues, task, order, List.append_assoc]

/-- The first that has a task in the queue is served. -/
private theorem Fed.prepare (fed : Fed stock entered monitor) (kept : monitor.Kept)
    (stocked : Stocked asked stock monitor) {serial : Nat} {task : Task} {old : Observation}
    (busy : monitor.worker = .preparing serial task) (found : monitor.observation? serial = some old)
    (idle : next.worker.profiled? = none) (queue : next.queue = monitor.queue)
    (wanted : next.wanted = monitor.wanted) (profiles : next.profiles =
      monitor.profiles ++ if task.service = .containerProfiling then old.profile?.toList else []) :
    Fed stock entered next := by
  have enqueues : monitor.enqueued = task.profiled?.toList ++ next.enqueued := by
    simp only [enqueued, idle, queue, busy]
    rfl
  by_cases profiling : task.service = .containerProfiling
  · rw [if_pos profiling] at profiles
    rw [Task.profiled?, if_pos profiling, Option.toList_some, List.singleton_append] at enqueues
    obtain ⟨served, within, order, handed⟩ := fed.inOrder
    have inStock : (task.container, old.profile?) ∈ stock := by
      have enters : task.container ∈ entered := by simp [order, enqueues]
      obtain ⟨⟨_, profile⟩, listed, rfl⟩ := List.mem_map.mp (fed.all.subset (List.mem_append_left _ enters))
      have own := kept.container_of_preparing busy found
      obtain ⟨-, rfl⟩ := (stocked.settled _ listed).known old (mem_active_of_observation? found).1 own
      exact listed
    refine ⟨wanted ▸ fed.all, served ++ [(task.container, old.profile?)], ?_, ?_, ?_⟩
    · exact List.append_subset.mpr ⟨within, by simpa using inStock⟩
    · rw [order, enqueues, List.map_append, List.map_singleton, List.append_assoc, List.singleton_append]
    · rw [profiles, handed, List.filterMap_append]
      cases old.profile? <;> rfl
  · rw [if_neg profiling, List.append_nil] at profiles
    rw [Task.profiled?, if_neg profiling, Option.toList_none, List.nil_append] at enqueues
    exact fed.still enqueues.symm wanted profiles

/-- Whatever is done, those in the queue are served in the order in which they entered it. -/
theorem Fed.step (fed : Fed stock entered monitor) (serves : monitor.Served) (stocked : Stocked asked stock monitor)
    (supply : Supply monitor next action) :
    Fed (stock ++ next.announced action)
      (entered ++ (next.queue.tasks.drop monitor.queue.tasks.length).filterMap (·.profiled?)) next := by
  have nobody (queue : next.queue = monitor.queue) :
      (next.queue.tasks.drop monitor.queue.tasks.length).filterMap (·.profiled?) = [] := by
    rw [queue, List.drop_length, List.filterMap_nil]
  cases supply with
  | still worker queue wanted profiles silent =>
    rw [silent, nobody queue, List.append_nil, List.append_nil]
    exact fed.still (by rw [enqueued, enqueued, worker, queue]) wanted profiles
  | announced old reported before after among unreported _ container _ profiling active worker queue profiles told =>
    have unsent := (serves.accounted.stands old among.mem).unsent_eq_nil unreported
    rw [told, nobody queue, List.append_nil]
    exact fed.announce among (Observation.wants?_eq_none unsent) container profiling active worker queue profiles
  | offered old service unsent before after accepted among announced last _ offered worker profiles wanted =>
    have silent : next.announced (.send old.serial) = [] := rfl
    rw [silent, List.append_nil]
    exact fed.send among announced last offered worker profiles wanted
  | taken task idle taken worker wanted profiles =>
    have tasks := (TaskQueue.tasks_of_take? taken).1
    have silent : next.announced .take = [] := rfl
    have fewer : next.queue.tasks.drop monitor.queue.tasks.length = [] := by simp [tasks]
    rw [silent, fewer, List.filterMap_nil, List.append_nil, List.append_nil]
    refine fed.still ?_ wanted profiles
    rw [enqueued, enqueued, worker, idle, tasks]
    cases profiled : task.profiled? <;> simp [Worker.profiled?, profiled]
  | prepared serial task old busy found worker queue wanted profiles =>
    have silent : next.announced .prepare = [] := rfl
    rw [silent, nobody queue, List.append_nil, List.append_nil]
    exact fed.prepare serves.toKept stocked busy found worker queue wanted profiles

/-! ## Runs -/

/-- The monitor after a run of which the scene is seen, in which the tasks of these profiles have entered the queue. -/
structure Played (asked entered : List ContainerId) (scene : Scene) (monitor : Monitor) : Prop where
  serves : monitor.Served
  once : monitor.StartedOnce asked
  bare : monitor.bare = scene.monitor
  stocked : Stocked asked scene.profiles monitor
  fed : Fed scene.profiles entered monitor

/-- One action more is seen of the run, or goes on behind what is seen. -/
theorem Played.step (played : Played asked entered scene monitor) (undiverted : action ≠ .divert)
    (unclosed : action ≠ .closeQueue)
    (fresh : ∀ container, action.requested? = some container → container ∉ asked)
    (stepped : monitor.step? action = some next) :
    Played (asked ++ action.requested?.toList)
      (entered ++ (next.queue.tasks.drop monitor.queue.tasks.length).filterMap (·.profiled?))
      (if action.isBehind then scene else scene.event action) next := by
  obtain ⟨serves, once, bare, stocked, fed⟩ := played
  have supply := serves.supply stepped undiverted unclosed
  have stocked' := stocked.step serves once stepped supply fresh
  have fed' := fed.step serves stocked supply
  have serves' := serves.step stepped undiverted unclosed
  have once' := once.step serves.toSeparate stepped fresh
  split
  · rename_i behind
    rw [announced_of_behind behind, List.append_nil] at stocked' fed'
    exact ⟨serves', once', (serves.bare_behind behind stepped).trans bare, stocked', fed'⟩
  · rename_i front
    have seen : scene.event action = ⟨next.bare, scene.profiles ++ next.announced action⟩ := by
      rw [← once.event_bare serves.toKept (by simpa using front) undiverted unclosed fresh stepped, bare]
    rw [seen]
    exact ⟨serves', once', rfl, stocked', fed'⟩

/-- The containers whose profile tasks enter the queue in a run. -/
def profilesEntered (monitor : Monitor) (actions : List Action) : List ContainerId :=
  (monitor.entered actions).filterMap (·.profiled?)

theorem profilesEntered_concat {initial : Monitor} (runs : initial.run? past = some monitor)
    (stepped : monitor.step? action = some next) : initial.profilesEntered (past ++ [action]) =
      initial.profilesEntered past ++
        (next.queue.tasks.drop monitor.queue.tasks.length).filterMap (·.profiled?) := by
  rw [profilesEntered, entered, gather_concat runs stepped, List.filterMap_append]
  rfl

theorem played_empty (policy : Policy) (cacheSize : Nat) :
    Played [] [] ⟨(empty policy cacheSize).bare, []⟩ (empty policy cacheSize) where
  serves := served_empty policy cacheSize
  once := startedOnce_empty policy cacheSize
  bare := rfl
  stocked := ⟨List.nodup_nil, nofun⟩
  fed := ⟨.nil, [], List.nil_subset _, rfl, rfl⟩

/-- What goes on behind the observations changes nothing of what is seen of a run, so the scene depends on the other
actions alone. -/
theorem played_of_run {policy : Policy} {cacheSize : Nat} (runs : (empty policy cacheSize).run? actions = some monitor)
    (undiverted : .divert ∉ actions) (unclosed : .closeQueue ∉ actions)
    (once : (actions.filterMap Action.requested?).Nodup) :
    Played (actions.filterMap Action.requested?) ((empty policy cacheSize).profilesEntered actions)
      (Scene.play ⟨(empty policy cacheSize).bare, []⟩ actions) monitor := by
  let initial := empty policy cacheSize
  refine run_induction_concat (motive := fun past monitor => .divert ∉ past → .closeQueue ∉ past →
    (past.filterMap Action.requested?).Nodup → Played (past.filterMap Action.requested?) (initial.profilesEntered past)
      (Scene.play ⟨initial.bare, []⟩ past) monitor) ?_ ?_ runs undiverted unclosed once
  · exact fun _ _ _ => played_empty policy cacheSize
  · intro past monitor action next runs stepped holds undiverted unclosed once
    rw [List.mem_append, List.mem_singleton, not_or] at undiverted unclosed
    have asked : (past ++ [action]).filterMap Action.requested? =
        past.filterMap Action.requested? ++ action.requested?.toList := by
      rw [List.filterMap_append]
      cases requested : action.requested? <;> simp [requested]
    rw [asked] at once ⊢
    rw [profilesEntered_concat runs stepped, Scene.play_concat]
    refine (holds undiverted.1 unclosed.1 once.of_append_left).step (Ne.symm undiverted.2) (Ne.symm unclosed.2)
      (fun container requested isAsked => ?_) stepped
    exact List.disjoint_of_nodup_append once isAsked (by simp [requested])

/-! ## Two runs -/

/-- The profiles of the stock are handed over in the order in which their tasks have entered the queue. -/
structure Supplied (stock : List ContainerId) (profile? : ContainerId → Option Artifact) (entered : List ContainerId)
    (monitor : Monitor) : Prop where
  within : entered.Subperm stock
  handed : monitor.profiles <+: entered.filterMap profile?
  /-- In the end that is all of the stock. -/
  complete : monitor.IsThrough → entered.Perm stock ∧ monitor.profiles = entered.filterMap profile?

/-- What the stock holds for a container. -/
def profileOf (stock : List (ContainerId × Option Artifact)) (container : ContainerId) : Option Artifact :=
  (stock.lookup container).join

/-- In a stock with one entry for each container, an entry is found by its container. -/
private theorem profileOf_eq (distinct : (stock.map (·.1)).Nodup) (listed : entry ∈ stock) :
    profileOf stock entry.1 = entry.2 := by
  obtain ⟨container, profile⟩ := entry
  obtain ⟨earlier, later, rfl⟩ := List.append_of_mem listed
  have absent : earlier.lookup container = none := by
    rw [List.map_append, List.map_cons] at distinct
    refine List.lookup_eq_none_iff.mpr fun other member => bne_iff_ne.mpr ?_
    rintro rfl
    exact List.disjoint_of_nodup_append distinct (List.mem_map_of_mem member) (List.mem_cons_self ..)
  simp [profileOf, List.lookup_append, absent]

private theorem filterMap_profileOf (distinct : (stock.map (·.1)).Nodup) (within : served ⊆ stock) :
    (served.map (·.1)).filterMap (profileOf stock) = served.filterMap (·.2) := by
  rw [List.filterMap_map]
  exact List.filterMap_congr fun entry member => profileOf_eq distinct (within member)

/-- When nobody who has reported is left, there is no task left in the queue. -/
theorem Kept.enqueued_of_isThrough (kept : monitor.Kept) (through : monitor.IsThrough) : monitor.enqueued = [] := by
  have nobody := kept.line_of_isThrough through
  simp only [line, TaskQueue.line, List.append_eq_nil_iff] at nobody
  rw [enqueued, nobody.1, nobody.2.1.1, List.append_nil]

/-- After every run, profiles of what was seen have been handed over in the order of the queue. -/
theorem Played.supplied (played : Played asked entered scene monitor) :
    Supplied (scene.profiles.map (·.1)) (profileOf scene.profiles) entered monitor := by
  have kept := played.serves.toKept
  obtain ⟨served, within, order, handed⟩ := played.fed.inOrder
  have profiles := filterMap_profileOf played.stocked.distinct within
  refine ⟨?_, ?_, fun through => ⟨?_, ?_⟩⟩
  · exact (List.sublist_append_left ..).subperm.trans played.fed.all.subperm
  · rw [handed, order, List.filterMap_append, profiles]
    exact List.prefix_append ..
  · simpa [kept.wanted_of_isThrough through] using played.fed.all
  · rw [handed, order, kept.enqueued_of_isThrough through, List.append_nil, profiles]

/-- Two runs have told the same reports, and hand over the profiles of the same stock. -/
structure Concordant (entered entered' : List ContainerId) (monitor other : Monitor) : Prop where
  reports : monitor.reports = other.reports
  supplied : ∃ stock profile?, stock.Nodup ∧ Supplied stock profile? entered monitor ∧
    Supplied stock profile? entered' other
  /-- When both are through, they have handed over the same profiles. -/
  through : monitor.IsThrough → other.IsThrough → monitor.profiles.Perm other.profiles
  /-- If the tasks enter the two queues in the same order, the profiles are handed over in the same order. -/
  comparable : entered <+: entered' ∨ entered' <+: entered →
    monitor.profiles <+: other.profiles ∨ other.profiles <+: monitor.profiles
  /-- So then they are the same when both are through. -/
  profiles : entered <+: entered' ∨ entered' <+: entered → monitor.IsThrough → other.IsThrough →
    monitor.profiles = other.profiles

theorem Supplied.comparable {stock entered entered' : List ContainerId} {profile? : ContainerId → Option Artifact}
    (supplied : Supplied stock profile? entered monitor) (suppliedToo : Supplied stock profile? entered' other)
    (agree : entered <+: entered') : monitor.profiles <+: other.profiles ∨ other.profiles <+: monitor.profiles :=
  List.prefix_or_prefix_of_prefix (supplied.handed.trans (agree.filterMap profile?)) suppliedToo.handed

/-- Queues with the same order hand over the same. -/
theorem Supplied.profiles_eq {stock entered entered' : List ContainerId} {profile? : ContainerId → Option Artifact}
    (supplied : Supplied stock profile? entered monitor) (suppliedToo : Supplied stock profile? entered' other)
    (agree : entered <+: entered') (through : monitor.IsThrough) (throughToo : other.IsThrough) :
    monitor.profiles = other.profiles := by
  obtain ⟨all, handed⟩ := supplied.complete through
  obtain ⟨allToo, handedToo⟩ := suppliedToo.complete throughToo
  obtain rfl := agree.eq_of_length (all.length_eq.trans allToo.length_eq.symm)
  exact handed.trans handedToo.symm

theorem concordant_of_supplied {stock entered entered' : List ContainerId} {profile? : ContainerId → Option Artifact}
    (reports : monitor.reports = other.reports) (distinct : stock.Nodup)
    (supplied : Supplied stock profile? entered monitor) (suppliedToo : Supplied stock profile? entered' other) :
    Concordant entered entered' monitor other := by
  refine ⟨reports, ⟨stock, profile?, distinct, supplied, suppliedToo⟩, fun through throughToo => ?_, ?_, ?_⟩
  · obtain ⟨all, handed⟩ := supplied.complete through
    obtain ⟨allToo, handedToo⟩ := suppliedToo.complete throughToo
    rw [handed, handedToo]
    exact (all.trans allToo.symm).filterMap profile?
  · rintro (agree | agree)
    · exact supplied.comparable suppliedToo agree
    · exact (suppliedToo.comparable supplied agree).symm
  · rintro (agree | agree) through throughToo
    · exact supplied.profiles_eq suppliedToo agree through throughToo
    · exact (suppliedToo.profiles_eq supplied agree throughToo through).symm

theorem filterMap_requested?_filter (actions : List Action) :
    (actions.filter (!·.isBehind)).filterMap Action.requested? = actions.filterMap Action.requested? := by
  rw [List.filterMap_filter]
  refine List.filterMap_congr fun action _ => ?_
  cases action <;> rfl

/-- What goes on behind the observations, and when, cannot be seen in the reports, nor in what is handed over. It can only
be seen in the order in which that is done. -/
theorem concordant_of_interleavings {policy : Policy} {cacheSize : Nat} {first second : List Action}
    (runs : (empty policy cacheSize).run? first = some monitor)
    (runsToo : (empty policy cacheSize).run? second = some other)
    (same : first.filter (!·.isBehind) = second.filter (!·.isBehind))
    (once : (first.filterMap Action.requested?).Nodup) (undiverted : .divert ∉ first) (unclosed : .closeQueue ∉ first) :
    Concordant ((empty policy cacheSize).profilesEntered first) ((empty policy cacheSize).profilesEntered second)
      monitor other := by
  have absent {action : Action} (front : action.isBehind = false) (absent : action ∉ first) : action ∉ second := by
    intro member
    have seen : action ∈ second.filter (!·.isBehind) := List.mem_filter.mpr ⟨member, by simp [front]⟩
    exact absent (List.mem_of_mem_filter (same ▸ seen))
  have onceToo : (second.filterMap Action.requested?).Nodup := by
    rwa [← filterMap_requested?_filter, ← same, filterMap_requested?_filter]
  have played := played_of_run runs undiverted unclosed once
  have playedToo := played_of_run runsToo (absent rfl undiverted) (absent rfl unclosed) onceToo
  rw [Scene.play, ← same] at playedToo
  refine concordant_of_supplied ?_ played.stocked.distinct played.supplied playedToo.supplied
  rw [← reports_bare monitor, ← reports_bare other, played.bare, playedToo.bare]
  rfl

/-! ## Overtaking -/

private def fleet : List ContainerId :=
  [⟨"c0", by decide⟩, ⟨"c1", by decide⟩, ⟨"c2", by decide⟩, ⟨"c3", by decide⟩, ⟨"c4", by decide⟩, ⟨"c5", by decide⟩,
    ⟨"c6", by decide⟩, ⟨"c7", by decide⟩]

private def appStart (container : ContainerId) : Start :=
  ⟨container, "app", ⟨"default", container.text⟩, none, "app:1", "", []⟩

private def beginning (container : ContainerId) : List Action :=
  [.request (appStart container), .enroll 0 ⟨"default", "Pod", container.text, "app:1"⟩]

private def listening (serial : Nat) : List Action := [.aggregate serial .subscribe, .aggregate serial .replay]

private def ending (serial : Nat) : List Action :=
  [.expire serial, .aggregate serial .heed, .aggregate serial .drain, .aggregate serial .leave, .report serial]

/-- All containers start, are observed and report. -/
private def watched : List Action :=
  fleet.flatMap beginning ++ (List.range 8).flatMap listening ++ .elapse 5 :: (List.range 8).flatMap ending

/-- The scans have their results, the first five observations fill the queue, and three wait for a place. -/
private def crowded (result : Except String Sbom) : List Action :=
  .hire :: .sbomReady 0 result :: [1, 2, 3, 4, 5, 6, 7].map (Action.sbomReady · (.error "no manifest")) ++
    (List.range 8).map (Action.vulnerabilitiesReady · (.ok ⟨[]⟩)) ++
    [0, 0, 1, 1, 2, 2, 3, 3, 4, 4, 5, 6, 7].map Action.send

private def profileTask : List Action := [.take, .prepare, .stored (.ok ())]

private def scanTask : List Action := [.take, .prepare]

/-- What is left to do after the last three have sent their profiles in this order. -/
private def workedOff (order : List Nat) : List Action :=
  profileTask.tail ++ scanTask ++ (List.replicate 3 (profileTask ++ scanTask)).flatten ++ order.map Action.send ++
    (List.replicate 3 profileTask).flatten ++ (List.replicate 3 scanTask).flatten

/-- Without a list of packages there is nothing to store for the first container, and the last three all have a place in
the queue before any of them sends. -/
private def overtaking : List Action :=
  crowded (.error "no manifest") ++ profileTask ++ scanTask ++ .take :: [5, 7, 6].map Action.send ++ workedOff [5, 7, 6]

/-- With one, each of them sends before the next one has a place. -/
private def inTurn : List Action :=
  crowded (.ok .empty) ++ .take :: .send 5 :: profileTask.tail ++ .take :: .send 6 :: profileTask.tail ++
    .take :: .send 7 :: workedOff [5, 6, 7]

private theorem filter_watched {behind : List Action} (hidden : ∀ action ∈ behind, action.isBehind = true) :
    (watched ++ behind).filter (!·.isBehind) = watched := by
  have seen : ∀ action ∈ watched, (!action.isBehind) = true := by decide +kernel
  have unseen : behind.filter (!·.isBehind) = [] := List.filter_eq_nil_iff.mpr fun action member => by
    simp [hidden action member]
  rw [List.filter_append, List.filter_eq_self.mpr seen, unseen, List.append_nil]

private theorem hidden_overtaking : ∀ action ∈ overtaking, action.isBehind = true := by decide +kernel

private theorem hidden_inTurn : ∀ action ∈ inTurn, action.isBehind = true := by decide +kernel

private def profileName (serial : Nat) : String := "namespace-default.pod-c" ++ toString serial ++ ".imagename-app:1"

/-- All have reported, nothing is left to do, and the profiles were handed over in this order. -/
private def Ends (order : List Nat) (monitor : Monitor) : Prop :=
  monitor.reports.length = 8 ∧ monitor.IsThrough ∧ monitor.profiles.map (·.resourceName) = order.map profileName

private instance (order : List Nat) (monitor : Monitor) : Decidable (Ends order monitor) :=
  inferInstanceAs (Decidable (_ ∧ _ ∧ _))

private theorem ends_overtaking : ∃ monitor,
    (empty ⟨5, ⟨true, true⟩, 16⟩ 1).run? (watched ++ overtaking) = some monitor ∧
      Ends [0, 1, 2, 3, 4, 5, 7, 6] monitor := by
  have ends : ((empty ⟨5, ⟨true, true⟩, 16⟩ 1).run? (watched ++ overtaking)).any
      (fun monitor => Ends [0, 1, 2, 3, 4, 5, 7, 6] monitor) = true := by
    decide +kernel
  simpa [Option.any_eq_true] using ends

private theorem ends_inTurn : ∃ monitor,
    (empty ⟨5, ⟨true, true⟩, 16⟩ 1).run? (watched ++ inTurn) = some monitor ∧ Ends [0, 1, 2, 3, 4, 5, 6, 7] monitor := by
  have ends : ((empty ⟨5, ⟨true, true⟩, 16⟩ 1).run? (watched ++ inTurn)).any
      (fun monitor => Ends [0, 1, 2, 3, 4, 5, 6, 7] monitor) = true := by
    decide +kernel
  simpa [Option.any_eq_true] using ends

/-- Eight containers report in both runs, and all is handed over. -/
theorem concordant_of_overtaking : ∃ first second,
    (empty ⟨5, ⟨true, true⟩, 16⟩ 1).run? (watched ++ overtaking) = some first ∧
      (empty ⟨5, ⟨true, true⟩, 16⟩ 1).run? (watched ++ inTurn) = some second ∧ first.reports.length = 8 ∧
      first.IsThrough ∧ second.IsThrough ∧ Concordant ((empty ⟨5, ⟨true, true⟩, 16⟩ 1).profilesEntered (watched ++ overtaking))
        ((empty ⟨5, ⟨true, true⟩, 16⟩ 1).profilesEntered (watched ++ inTurn)) first second := by
  obtain ⟨first, runs, reports, through, -⟩ := ends_overtaking
  obtain ⟨second, runsToo, -, throughToo, -⟩ := ends_inTurn
  refine ⟨first, second, runs, runsToo, reports, through, throughToo, concordant_of_interleavings runs runsToo ?_ ?_ ?_ ?_⟩
  · rw [filter_watched hidden_overtaking, filter_watched hidden_inTurn]
  · decide +kernel
  · simp [watched, beginning, listening, ending, overtaking, crowded, workedOff, profileTask, scanTask]
  · simp [watched, beginning, listening, ending, overtaking, crowded, workedOff, profileTask, scanTask]

/-- Four containers start, and the last of their profiles would be stored by the end of the run. -/
private def convoy : List Occurrence :=
  .event .hire rfl :: (fleet.take 4).map (fun container => Occurrence.start (appStart container)) ++ [.elapse 22]

private def scanning (result : Except String Sbom) : Surroundings where
  cluster := .empty
  sbom _ := ⟨result, 0⟩
  vulnerabilities _ := ⟨.ok ⟨[]⟩, 0⟩
  store _ := ⟨.ok (), 4⟩

/-- The profiles need not be the same. As long as there is something left to do, one worker may be ahead of the other. And
when nothing is left, they may have been handed over in another order. -/
theorem profiles_ne_of_overtaking :
    ((empty ⟨5, ⟨true, true⟩, 16⟩ 1).undergo (convoy.map (scanning (.error "no manifest"), ·))).profiles.length = 4 ∧
      ((empty ⟨5, ⟨true, true⟩, 16⟩ 1).undergo (convoy.map (scanning (.ok .empty), ·))).profiles.length = 3 ∧
      ∃ first second, (empty ⟨5, ⟨true, true⟩, 16⟩ 1).run? (watched ++ overtaking) = some first ∧
        (empty ⟨5, ⟨true, true⟩, 16⟩ 1).run? (watched ++ inTurn) = some second ∧
        (watched ++ overtaking).filter (!·.isBehind) = (watched ++ inTurn).filter (!·.isBehind) ∧
        first.IsThrough ∧ second.IsThrough ∧ first.profiles ≠ second.profiles := by
  refine ⟨by decide +kernel, by decide +kernel, ?_⟩
  obtain ⟨first, runs, -, through, order⟩ := ends_overtaking
  obtain ⟨second, runsToo, -, throughToo, orderToo⟩ := ends_inTurn
  refine ⟨first, second, runs, runsToo, ?_, through, throughToo, fun same => ?_⟩
  · rw [filter_watched hidden_overtaking, filter_watched hidden_inTurn]
  · rw [same, orderToo] at order
    revert order
    decide +kernel

end Monitor

end Observatory
