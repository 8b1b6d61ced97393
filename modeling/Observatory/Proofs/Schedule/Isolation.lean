import Observatory.Proofs.Monitor.Answers
import Observatory.Proofs.Schedule.Completion
import Observatory.Proofs.Schedule.Outlook

/-! # Isolation

What the scans find, how the store answers and how long they take cannot be seen in the reports on aggregations, nor in
the profiles that are handed over. Main statement: if the same happens to two monitors on the schedule, apart from these
answers, they have told the same reports. Of the profiles that they have handed over, one has just some more than the
other, and they have handed over the same ones as soon as both workers are done. The order of the profiles is owed to the
schedule, by which those who wait for a place send in turn.
-/

namespace Observatory

/-- The action comes from outside. -/
def Action.isOutside : Action → Bool
  | .ingest _ | .exclude _ | .intrude _ | .request _ | .enroll .. | .hire | .forgetPod _ | .retainPods _ => true
  | _ => false

/-- What happens to a monitor from outside. -/
inductive Occurrence where
  | event (action : Action) (outside : action.isOutside = true)
  /-- A start from beginning to end. -/
  | start (start : Start)
  /-- Time passes. -/
  | elapse (duration : Nat)

def Occurrence.started? : Occurrence → Option ContainerId
  | .event action _ => action.requested?
  | .start request => some request.container
  | .elapse _ => none

/-! ## Containers that start once -/

/-- A container for which a start was asked at most once, and not at all unless it is one of those asked for. -/
structure Door.Single (isAsked : Prop) (door : Door) : Prop where
  unasked : ¬isAsked → door.isObserved = false ∧ door.isFinished = false ∧ door.waiting = 0
  waiting : 0 < door.waiting → door.isObserved = false ∧ door.waiting = 1

/-- As long as no other start is asked for, there is at most one. -/
theorem Door.Single.passage {isAsked : Prop} {door after : Door} (single : door.Single isAsked)
    (passage : Monitor.Passage door after) (fewer : after.waiting ≤ door.waiting) : after.Single isAsked := by
  cases passage with
  | aside | refused => exact ⟨single.unasked, single.waiting⟩
  | entered => exact absurd fewer (Nat.not_succ_le_self _)
  | declined observed waiting => exact absurd observed (by simp [(single.waiting waiting).1])
  | admitted unobserved waiting =>
    have last := (single.waiting waiting).2
    exact ⟨fun unasked => absurd last (by simp [(single.unasked unasked).2.2]), fun still => absurd still (by simp [last])⟩
  | ended observed =>
    exact ⟨fun unasked => absurd observed (by simp [(single.unasked unasked).1]),
      fun waits => absurd observed (by simp [(single.waiting waits).1])⟩
  | forgotten => exact ⟨fun unasked => ⟨(single.unasked unasked).1, rfl, (single.unasked unasked).2.2⟩, single.waiting⟩

/-- A container for which a start has not been asked before. -/
theorem Door.Single.ask {isAsked : Prop} {door after : Door} (single : door.Single isAsked) (unasked : ¬isAsked)
    (passage : Monitor.Passage door after) : after.Single True := by
  obtain ⟨unobserved, unfinished, nobody⟩ := single.unasked unasked
  refine ⟨fun absurd => (absurd trivial).elim, fun waits => ?_⟩
  cases passage with
  | aside | refused | forgotten => exact single.waiting waits
  | entered => exact ⟨unobserved, by simp [nobody]⟩
  | declined observed waiting | admitted observed waiting => exact absurd nobody (Nat.ne_of_gt waiting)
  | ended observed => exact absurd observed (by simp [unobserved])

namespace Monitor

variable {monitor other next : Monitor} {action : Action} {actions : List Action} {asked : List ContainerId}
  {container : ContainerId} {observation : Observation} {surroundings surroundings' : Surroundings} {scene : Scene}

/-- Starts were asked for the listed containers only, and for each at most once. -/
def StartedOnce (asked : List ContainerId) (monitor : Monitor) : Prop :=
  ∀ container, (monitor.door container).Single (container ∈ asked)

theorem startedOnce_empty (policy : Policy) (cacheSize : Nat) : (empty policy cacheSize).StartedOnce [] :=
  fun _ => ⟨fun _ => ⟨rfl, rfl, rfl⟩, nofun⟩

/-- An action that asks for a start of a new container lets all containers start once only. -/
theorem StartedOnce.step (once : monitor.StartedOnce asked) (separate : monitor.Separate)
    (stepped : monitor.step? action = some next)
    (fresh : ∀ container, action.requested? = some container → container ∉ asked) :
    next.StartedOnce (asked ++ action.requested?.toList) := by
  intro container
  have passage := passage_step separate stepped container
  by_cases own : action.requested? = some container
  · have single := (once container).ask (fresh container own) passage
    simpa [own] using single
  · have single := (once container).passage passage (waiting_le_step stepped own)
    simpa [own] using single

theorem StartedOnce.event (once : monitor.StartedOnce asked) (separate : monitor.Separate)
    (fresh : ∀ container, action.requested? = some container → container ∉ asked) :
    ((monitor.step? action).getD monitor).StartedOnce (asked ++ action.requested?.toList) := by
  cases stepped : monitor.step? action with
  | some next => exact once.step separate stepped fresh
  | none =>
    intro container
    refine ⟨fun unasked => (once container).unasked fun isAsked => unasked (List.mem_append_left _ isAsked), ?_⟩
    exact (once container).waiting

/-- A monitor that is left to itself starts nothing. -/
theorem StartedOnce.undisturbed (once : monitor.StartedOnce asked) (separate : monitor.Separate)
    (undisturbed : IsUndisturbed actions) (runs : monitor.run? actions = some next) : next.StartedOnce asked := by
  refine (run_induction (motive := fun monitor => monitor.StartedOnce asked ∧ monitor.Separate) ⟨once, separate⟩
    (fun action member monitor next ⟨once, separate⟩ stepped => ⟨?_, separate.step stepped⟩) runs).1
  have unasked : action.requested? = none := by
    rcases undisturbed action member with scheduled | ⟨duration, rfl⟩
    · cases action <;> first | rfl | contradiction
    · rfl
  have onceNext := once.step separate stepped (by simp [unasked])
  rwa [unasked, Option.toList_none, List.append_nil] at onceNext

theorem StartedOnce.settle (once : monitor.StartedOnce asked) (separate : monitor.Separate)
    (surroundings : Surroundings) : (monitor.settle surroundings).StartedOnce asked := by
  obtain ⟨actions, runs, undisturbed⟩ := (settles_settle surroundings monitor).exists_run
  exact once.undisturbed separate undisturbed runs

theorem StartedOnce.advance (once : monitor.StartedOnce asked) (separate : monitor.Separate)
    (surroundings : Surroundings) (duration : Nat) : (monitor.advance surroundings duration).StartedOnce asked := by
  obtain ⟨actions, runs, undisturbed⟩ := exists_run_advance monitor surroundings duration
  exact once.undisturbed separate undisturbed runs

/-- A container for which no start was asked is not known. -/
theorem StartedOnce.isTracked (once : monitor.StartedOnce asked) (unasked : container ∉ asked) :
    monitor.isTracked container = false := by
  obtain ⟨unobserved, unfinished, -⟩ := (once container).unasked unasked
  exact Bool.or_eq_false_iff.mpr ⟨unobserved, unfinished⟩

/-- A start that is waiting is the only one of its container, so nothing is observed yet. -/
theorem StartedOnce.observing? (once : monitor.StartedOnce asked) {index : Nat} {start : Start}
    (found : monitor.entering[index]? = some start) : monitor.observing? start.container = none := by
  have waits : 0 < (monitor.door start.container).waiting :=
    List.countP_pos_iff.mpr ⟨start, List.mem_of_getElem? found, by simp⟩
  simpa [door] using ((once start.container).waiting waits).1

/-! ## What happens can be seen -/

theorem observing?_bare (unobserved : monitor.observing? container = none) :
    monitor.bare.observing? container = none := by
  refine List.find?_eq_none.mpr fun observation member => ?_
  obtain ⟨old, running, rfl⟩ := Observation.mem_unreported member
  exact List.find?_eq_none.mp unobserved old running

theorem reports_begin (monitor : Monitor) (start : Start) (identity : ResourceIdentity) :
    (monitor.begin start identity).reports = monitor.reports := by
  simp [reports, begin, List.filter_map, Function.comp_def, Entry.isReport]

/-- What comes from outside changes what is to be seen in the same way, whether there is a pipeline or not. -/
theorem StartedOnce.bare_event (once : monitor.StartedOnce asked) (outside : action.isOutside = true)
    (fresh : ∀ container, action.requested? = some container → container ∉ asked) :
    ((monitor.step? action).getD monitor).bare = ((monitor.bare.step? action).getD monitor.bare).bare := by
  have active := (Observation.unreported_unreported monitor.active).symm
  have reports := (reports_bare monitor).symm
  cases action with
  | elapse | sbomReady | vulnerabilitiesReady | aggregate | expire | abort | report | send | take | prepare | stored
  | divert | closeQueue => contradiction
  | ingest | exclude | intrude | forgetPod | retainPods => exact bare_eq rfl rfl rfl rfl rfl active reports
  | request start =>
    have untracked := once.isTracked (fresh _ rfl)
    have untrackedToo : monitor.bare.isTracked start.container = false := by
      have unobserved : monitor.observing? start.container = none := by simpa using (Bool.or_eq_false_iff.mp untracked).1
      simp only [Monitor.isTracked, observing?_bare unobserved]
      rfl
    simp only [step?, request, untracked, untrackedToo, Option.getD_some]
    exact bare_eq rfl rfl rfl rfl rfl active reports
  | enroll index identity =>
    have enrolls (base : Monitor) (start : Start) (found : base.entering[index]? = some start)
        (unobserved : base.observing? start.container = none) : base.step? (.enroll index identity) =
          some ({ base with entering := base.entering.eraseIdx index }.begin start identity) := by
      have unobserved : ({ base with entering := base.entering.eraseIdx index } : Monitor).observing?
          start.container = none := unobserved
      simp [step?, enroll?, found, unobserved]
    cases found : monitor.entering[index]? with
    | none =>
      have foundToo : monitor.bare.entering[index]? = none := found
      simp [step?, enroll?, found, foundToo, bare_bare]
    | some start =>
      have unobserved := once.observing? found
      rw [enrolls monitor start found unobserved, enrolls monitor.bare start found (observing?_bare unobserved)]
      refine bare_eq rfl rfl rfl rfl rfl ?_ ?_
      · have seen (base : Monitor) : Observation.unreported (base.begin start identity).active =
            Observation.unreported base.active ++
              [{ Observation.ofStart base.nextSerial start identity (base.now + base.policy.window) with
                phase := .watching }] :=
          Observation.unreported_append ..
        rw [Option.getD_some, Option.getD_some, seen, seen]
        exact congrArg (· ++ _) active
      · rw [Option.getD_some, Option.getD_some, reports_begin, reports_begin]
        exact reports
  | hire =>
    have hires (base : Monitor) : ((base.step? .hire).getD base).bare = base.bare := by
      cases hired : base.step? .hire with
      | none => rfl
      | some next =>
        obtain ⟨-, rfl⟩ := hire?_spec hired
        rfl
    rw [hires, hires, bare_bare]

/-- What comes from outside leaves the observations in order: a new one has the latest deadline. -/
theorem Timely.event (timely : monitor.Timely) (outside : action.isOutside = true)
    (stepped : monitor.step? action = some next) : next.Timely := by
  obtain ⟨inOrder, latest, elapsed⟩ := timely
  cases action with
  | elapse | sbomReady | vulnerabilitiesReady | aggregate | expire | abort | report | send | take | prepare | stored
  | divert | closeQueue => contradiction
  | ingest | exclude | intrude | forgetPod | retainPods =>
    obtain rfl := Option.some.inj stepped
    exact ⟨inOrder, latest, elapsed⟩
  | request start =>
    obtain rfl := Option.some.inj stepped
    unfold request
    split <;> exact ⟨inOrder, latest, elapsed⟩
  | enroll index identity =>
    obtain ⟨start, -, ⟨-, rfl⟩ | ⟨-, rfl⟩⟩ := enroll?_spec stepped
    · exact ⟨inOrder, latest, elapsed⟩
    · -- the new observation is over last
      refine ⟨?_, fun observation member => ?_, fun observation member left => ?_⟩
      · refine List.pairwise_append.mpr ⟨inOrder, List.pairwise_singleton _ _, fun earlier member last isLast => ?_⟩
        obtain rfl := List.mem_singleton.mp isLast
        exact ⟨latest earlier member, fun reported => absurd rfl reported⟩
      · rcases List.mem_append.mp member with before | fresh
        · exact latest observation before
        · obtain rfl := List.mem_singleton.mp fresh
          exact Nat.le_refl _
      · rcases List.mem_append.mp member with before | fresh
        · exact elapsed observation before left
        · obtain rfl := List.mem_singleton.mp fresh
          exact absurd rfl left
  | hire =>
    obtain ⟨-, rfl⟩ := hire?_spec stepped
    exact ⟨inOrder, latest, elapsed⟩

theorem announced_of_isOutside (outside : action.isOutside = true) (monitor : Monitor) :
    monitor.announced action = [] := by
  cases action <;> first | rfl | contradiction

end Monitor

/-- What is seen after an action. -/
def Scene.event (scene : Scene) (action : Action) : Scene :=
  let next := (scene.monitor.step? action).getD scene.monitor
  ⟨next.bare, scene.profiles ++ next.announced action⟩

namespace Monitor

variable {monitor other next : Monitor} {action : Action} {actions : List Action} {asked : List ContainerId}
  {container : ContainerId} {observation : Observation} {surroundings surroundings' : Surroundings} {scene : Scene}

/-- What comes from outside is seen alike, and nobody moves up in the line. -/
theorem Shows.event (shows : monitor.Shows scene) (once : monitor.StartedOnce asked) (outside : action.isOutside = true)
    (fresh : ∀ container, action.requested? = some container → container ∉ asked) :
    ((monitor.step? action).getD monitor).Shows (scene.event action) := by
  have bare : ((monitor.step? action).getD monitor).bare = (scene.event action).monitor := by
    rw [once.bare_event outside fresh, shows.bare]
    rfl
  have silent : (scene.event action).profiles = scene.profiles := by
    simp [Scene.event, announced_of_isOutside outside]
  cases stepped : monitor.step? action with
  | none =>
    rw [stepped] at bare
    exact ⟨shows.serves, shows.timely, bare, silent ▸ shows.lined⟩
  | some next =>
    rw [stepped] at bare
    obtain ⟨served, left, lined, profiles⟩ := shows.lined
    have undiverted : action ≠ .divert := by
      rintro rfl
      contradiction
    have unclosed : action ≠ .closeQueue := by
      rintro rfl
      contradiction
    refine ⟨shows.serves.step stepped undiverted unclosed, shows.timely.event outside stepped, bare, served, left, ?_,
      silent.trans profiles⟩
    cases shows.serves.supply stepped undiverted unclosed with
    | still worker queue wanted handed =>
      exact lined.still shows.serves.toKept stepped (line_congr worker queue wanted) handed
    | announced | offered | taken | prepared => contradiction

theorem Served.write (serves : monitor.Served) {entries : List Entry}
    (aside : ∀ entry ∈ entries, entry.isCourse = false) : (monitor.write entries).Served := by
  refine ⟨⟨⟨serves.live, serves.fits, serves.apart⟩, ?_, serves.isOpen⟩,
    ⟨serves.queueing.distinct, serves.queueing.known, serves.queueing.full⟩, serves.asked⟩
  rw [books_write_aside aside]
  exact serves.accounted

/-- What is written aside cannot be seen. -/
theorem Shows.write (shows : monitor.Shows scene) {entries : List Entry}
    (aside : ∀ entry ∈ entries, entry.isCourse = false) (silent : ∀ entry ∈ entries, entry.isReport = false) :
    (monitor.write entries).Shows scene := by
  obtain ⟨served, left, lined, profiles⟩ := shows.lined
  refine ⟨shows.serves.write aside, ⟨shows.timely.inOrder, shows.timely.latest, shows.timely.elapsed⟩, ?_, served, left,
    ⟨lined.inLine, lined.known, (profiles_write_aside aside).trans lined.handed⟩, profiles⟩
  have nothing : entries.filter Entry.isReport = [] := by simpa using silent
  rw [← shows.bare]
  refine bare_eq rfl rfl rfl rfl rfl rfl ?_
  rw [reports_write, nothing, List.append_nil]

theorem Shows.now_eq (shows : monitor.Shows scene) : scene.monitor.now = monitor.now := by
  rw [← shows.bare]
  rfl

/-! ## Two monitors -/

/-- The same is to be seen of two monitors, and no container was started twice. -/
structure Alike (asked : List ContainerId) (monitor other : Monitor) : Prop where
  scene : ∃ scene, monitor.Shows scene ∧ other.Shows scene
  once : monitor.StartedOnce asked
  onceToo : other.StartedOnce asked

/-- At first there is nothing to be seen. -/
theorem alike_empty (policy : Policy) (cacheSize : Nat) :
    Alike [] (empty policy cacheSize) (empty policy cacheSize) := by
  have shows : (empty policy cacheSize).Shows ⟨(empty policy cacheSize).bare, []⟩ := by
    have nobody {observation : Observation} (member : observation ∈ (empty policy cacheSize).active) : False :=
      List.not_mem_nil member
    exact ⟨served_empty policy cacheSize, ⟨List.Pairwise.nil, fun _ member => (nobody member).elim,
      fun _ member => (nobody member).elim⟩, rfl, [], [], ⟨rfl, fun _ _ _ member => (nobody member).elim, rfl⟩, rfl⟩
  exact ⟨⟨_, shows, shows⟩, startedOnce_empty policy cacheSize, startedOnce_empty policy cacheSize⟩

/-- Monitors that are alike stay so when the same comes from outside. -/
theorem Alike.event (alike : Alike asked monitor other) (outside : action.isOutside = true)
    (fresh : ∀ container, action.requested? = some container → container ∉ asked) :
    Alike (asked ++ action.requested?.toList) ((monitor.step? action).getD monitor)
      ((other.step? action).getD other) := by
  obtain ⟨⟨scene, shows, showsToo⟩, once, onceToo⟩ := alike
  refine ⟨⟨scene.event action, shows.event once outside fresh, showsToo.event onceToo outside fresh⟩, ?_, ?_⟩
  · exact once.event shows.serves.toSeparate fresh
  · exact onceToo.event showsToo.serves.toSeparate fresh

/-- They stay so when everyone acts until both are quiet, as the course of a scene is unique. -/
theorem Alike.settle (alike : Alike asked monitor other) (surroundings surroundings' : Surroundings) :
    Alike asked (monitor.settle surroundings) (other.settle surroundings') := by
  obtain ⟨⟨scene, shows, showsToo⟩, once, onceToo⟩ := alike
  have settled {monitor : Monitor} (shows : monitor.Shows scene) (surroundings : Surroundings) :
      ∃ later, scene.Becomes scene.monitor.now later ∧ (monitor.settle surroundings).Shows later ∧
        later.next? scene.monitor.now = none := by
    obtain ⟨later, becomes, showsLater, rests⟩ := shows.settle surroundings scene.monitor.now
    have now : later.monitor.now = scene.monitor.now := by
      rw [showsLater.now_eq, shows.now_eq]
      exact (settles_settle surroundings monitor).frame.1
    exact ⟨later, becomes, showsLater, by simp [Scene.next?, rests, now]⟩
  obtain ⟨later, becomes, showsLater, rests⟩ := settled shows surroundings
  obtain ⟨later', becomes', showsLater', rests'⟩ := settled showsToo surroundings'
  obtain rfl := becomes.unique becomes' rests rests'
  exact ⟨⟨later, showsLater, showsLater'⟩, once.settle shows.serves.toSeparate surroundings,
    onceToo.settle showsToo.serves.toSeparate surroundings'⟩

/-- They stay so when time passes. -/
theorem Alike.advance (alike : Alike asked monitor other) (idle : monitor.watchAction? = none)
    (surroundings surroundings' : Surroundings) (duration : Nat) :
    Alike asked (monitor.advance surroundings duration) (other.advance surroundings' duration) := by
  obtain ⟨⟨scene, shows, showsToo⟩, once, onceToo⟩ := alike
  rw [← shows.watchAction?] at idle
  obtain ⟨later, becomes, showsLater, rests⟩ := shows.advance idle surroundings duration
  obtain ⟨later', becomes', showsLater', rests'⟩ := showsToo.advance idle surroundings' duration
  obtain rfl := becomes.unique becomes' rests rests'
  exact ⟨⟨later, showsLater, showsLater'⟩, once.advance shows.serves.toSeparate surroundings duration,
    onceToo.advance showsToo.serves.toSeparate surroundings' duration⟩

theorem Alike.write (alike : Alike asked monitor other) {entries : List Entry}
    (aside : ∀ entry ∈ entries, entry.isCourse = false) (silent : ∀ entry ∈ entries, entry.isReport = false) :
    Alike asked (monitor.write entries) (other.write entries) := by
  obtain ⟨⟨scene, shows, showsToo⟩, once, onceToo⟩ := alike
  refine ⟨⟨scene, shows.write aside silent, showsToo.write aside silent⟩, fun container => ?_, fun container => ?_⟩
  · exact ⟨(once container).unasked, (once container).waiting⟩
  · exact ⟨(onceToo container).unasked, (onceToo container).waiting⟩

theorem Alike.whileAsking (alike : Alike asked monitor other) (lookups : List Cluster.Lookup)
    (surroundings surroundings' : Surroundings) :
    Alike asked (monitor.whileAsking surroundings lookups) (other.whileAsking surroundings' lookups) := by
  unfold Monitor.whileAsking
  split
  · exact alike.settle surroundings surroundings'
  · exact alike

theorem Alike.entering (alike : Alike asked monitor other) : monitor.entering = other.entering := by
  obtain ⟨scene, shows, showsToo⟩ := alike.scene
  have same := congrArg Monitor.entering (shows.bare.trans showsToo.bare.symm)
  exact same

/-- The second half of a start that waited for an answer of the cluster. -/
private theorem Alike.enroll (alike : Alike asked monitor other) (identity : ResourceIdentity) :
    Alike asked ((monitor.step? (.enroll (monitor.entering.length - 1) identity)).getD monitor)
      ((other.step? (.enroll (other.entering.length - 1) identity)).getD other) := by
  have outside : (Action.enroll (monitor.entering.length - 1) identity).isOutside = true := rfl
  have enrolled := alike.event outside nofun
  rw [← alike.entering]
  simpa [Action.requested?] using enrolled

private theorem start_fst (surroundings : Surroundings) (monitor : Monitor) (start : Start)
    (untracked : monitor.isTracked start.container = false) :
    let resolved := ResourceIdentity.resolve surroundings.cluster.ownerSource start.pod.namespace_ start.pod.name
      start.owner start.image
    let waiting := ((monitor.request start).write (resolved.2.map .lookup)).whileAsking surroundings resolved.2
    (monitor.start surroundings start).1 =
      (waiting.step? (.enroll (waiting.entering.length - 1) resolved.1)).getD waiting := by
  dsimp only
  unfold Monitor.start
  rw [if_neg (by simp [untracked])]
  dsimp only
  split <;> rename_i enrolls <;> simp only [step?, enrolls, Option.getD_some, Option.getD_none]

/-- They stay so when a container starts, if it has the same identity in both surroundings. -/
theorem Alike.start (alike : Alike asked monitor other) (cluster : surroundings.cluster = surroundings'.cluster)
    {start : Start} (fresh : start.container ∉ asked) :
    Alike (asked ++ [start.container]) (monitor.start surroundings start).1 (other.start surroundings' start).1 := by
  rw [start_fst surroundings monitor start (alike.once.isTracked fresh),
    start_fst surroundings' other start (alike.onceToo.isTracked fresh), cluster]
  have requested : Alike (asked ++ [start.container]) (monitor.request start) (other.request start) :=
    have outside : (Action.request start).isOutside = true := rfl
    alike.event outside fun container same => Option.some.inj same ▸ fresh
  refine Alike.enroll (Alike.whileAsking (requested.write ?_ ?_) ..) _
  · simp [Entry.isCourse]
  · simp [Entry.isReport]

/-! ## Runs -/

/-- Something happens to a monitor. Before time passes, everyone acts until the monitor is quiet. -/
def meet (surroundings : Surroundings) (monitor : Monitor) : Occurrence → Monitor
  | .event action _ => (monitor.step? action).getD monitor
  | .start request => (monitor.start surroundings request).1
  | .elapse duration => (monitor.settle surroundings).advance surroundings duration

/-- One thing happens after the other. The surroundings may change in between. -/
def undergo (monitor : Monitor) (occurrences : List (Surroundings × Occurrence)) : Monitor :=
  occurrences.foldl (fun monitor entry => monitor.meet entry.1 entry.2) monitor

/-- The same happens, and workloads have the same identity. Scans and the store may answer as they like. -/
def Matches (entry other : Surroundings × Occurrence) : Prop :=
  entry.1.cluster = other.1.cluster ∧ entry.2 = other.2

theorem Alike.pass (alike : Alike asked monitor other) (surroundings surroundings' : Surroundings) (duration : Nat) :
    Alike asked ((monitor.settle surroundings).advance surroundings duration)
      ((other.settle surroundings').advance surroundings' duration) := by
  obtain ⟨scene, shows, -⟩ := alike.scene
  exact (alike.settle surroundings surroundings').advance
    (watchAction?_of_isQuiet (shows.serves.isQuiet_settle surroundings)) surroundings surroundings' duration

/-- They stay so whatever happens, if the same happens to both. -/
theorem Alike.meet (alike : Alike asked monitor other) (cluster : surroundings.cluster = surroundings'.cluster)
    {occurrence : Occurrence} (fresh : ∀ container, occurrence.started? = some container → container ∉ asked) :
    Alike (asked ++ occurrence.started?.toList) (monitor.meet surroundings occurrence)
      (other.meet surroundings' occurrence) := by
  cases occurrence with
  | event action outside => exact alike.event outside fresh
  | start request => exact alike.start cluster (fresh _ rfl)
  | elapse duration =>
    rw [show (Occurrence.elapse duration).started? = none from rfl, Option.toList_none, List.append_nil]
    exact alike.pass surroundings surroundings' duration

/-- They stay so while one thing happens after the other. -/
theorem Alike.undergo {first second : List (Surroundings × Occurrence)} (alike : Alike asked monitor other)
    (same : List.Forall₂ Matches first second) (once : (asked ++ first.filterMap (·.2.started?)).Nodup) :
    Alike (asked ++ first.filterMap (·.2.started?)) (monitor.undergo first) (other.undergo second) := by
  induction same generalizing monitor other asked with
  | nil =>
    rw [List.filterMap_nil, List.append_nil]
    exact alike
  | @cons entry entry' first second matched _ ih =>
    obtain ⟨surroundings, occurrence⟩ := entry
    obtain ⟨surroundings', occurrence'⟩ := entry'
    obtain ⟨cluster, same⟩ : surroundings.cluster = surroundings'.cluster ∧ occurrence = occurrence' := matched
    subst same
    have started : (⟨surroundings, occurrence⟩ :: first).filterMap (·.2.started?) =
        occurrence.started?.toList ++ first.filterMap (·.2.started?) := by
      cases isStart : occurrence.started? <;> simp [isStart]
    rw [started, ← List.append_assoc] at once ⊢
    refine ih (alike.meet cluster fun container own isAsked => ?_) once
    rw [own, List.nodup_append, List.nodup_append] at once
    exact once.1.2.2 container isAsked container (by simp) rfl

/-- When nobody who has reported is left, all profiles have been handed over. -/
theorem Shows.profiles_eq (shows : monitor.Shows scene) (through : monitor.IsThrough) :
    monitor.profiles = scene.profiles.filterMap (·.2) := by
  obtain ⟨served, left, lined, profiles⟩ := shows.lined
  have nobody := shows.serves.line_of_isThrough through
  obtain rfl : left = [] := List.map_eq_nil_iff.mp (lined.inLine.trans nobody)
  rw [lined.handed, profiles, List.append_nil]

/-- What has been handed over is the first part of what there is to hand over. -/
theorem Shows.profiles_isPrefix (shows : monitor.Shows scene) : monitor.profiles <+: scene.profiles.filterMap (·.2) := by
  obtain ⟨served, left, lined, profiles⟩ := shows.lined
  rw [lined.handed, profiles, List.filterMap_append]
  exact List.prefix_append ..

theorem Alike.profiles_eq (alike : Alike asked monitor other) (through : monitor.IsThrough)
    (throughToo : other.IsThrough) : monitor.profiles = other.profiles := by
  obtain ⟨scene, shows, showsToo⟩ := alike.scene
  exact (shows.profiles_eq through).trans (showsToo.profiles_eq throughToo).symm

/-- A worker that waits for nothing leaves nobody who has reported. -/
theorem Served.isThrough_of_isQuiet (serves : monitor.Served) (quiet : monitor.isQuiet surroundings = true)
    (idle : monitor.worker = .idle) : monitor.IsThrough := by
  have empty : monitor.queue.tasks = [] := by
    simp only [isQuiet, Bool.and_eq_true, Option.isNone_iff_eq_none] at quiet
    simpa [next?, workerAction?, idle] using quiet.1.2
  exact fun observation member => serves.unreported_of_idle idle empty (senders_of_isQuiet quiet) member

/-- Two monitors cannot be told apart by their reports and profiles. -/
structure Isolated (monitor other : Monitor) : Prop where
  reports : monitor.reports = other.reports
  /-- One worker may be further than the other. -/
  comparable : monitor.profiles <+: other.profiles ∨ other.profiles <+: monitor.profiles
  /-- Both workers are done with what there is. -/
  profiles : ∀ surroundings surroundings', (monitor.settle surroundings).worker = .idle →
    (other.settle surroundings').worker = .idle →
    (monitor.settle surroundings).profiles = (other.settle surroundings').profiles
  /-- However long scans and the store take, both workers will be done. -/
  eventually : monitor.worker ≠ .absent → other.worker ≠ .absent → ∀ surroundings surroundings',
    ∃ enough, ∀ duration ≥ enough, (monitor.meet surroundings (.elapse duration)).profiles =
      (other.meet surroundings' (.elapse duration)).profiles

/-- Monitors that are alike cannot be told apart by their reports and profiles. -/
theorem Alike.isolated (alike : Alike asked monitor other) : Isolated monitor other := by
  obtain ⟨scene, shows, showsToo⟩ := alike.scene
  refine ⟨?_, ?_, fun surroundings surroundings' done doneToo => ?_, fun hired hiredToo surroundings surroundings' => ?_⟩
  · rw [← reports_bare monitor, ← reports_bare other, shows.bare, showsToo.bare]
  · exact List.prefix_or_prefix_of_prefix shows.profiles_isPrefix showsToo.profiles_isPrefix
  · have settled := alike.settle surroundings surroundings'
    obtain ⟨later, showsLater, showsLaterToo⟩ := settled.scene
    exact settled.profiles_eq
      (showsLater.serves.isThrough_of_isQuiet (shows.serves.isQuiet_settle surroundings) done)
      (showsLaterToo.serves.isThrough_of_isQuiet (showsToo.serves.isQuiet_settle surroundings') doneToo)
  · obtain ⟨enough, ends⟩ := shows.serves.exists_advance hired surroundings
    obtain ⟨enough', ends'⟩ := showsToo.serves.exists_advance hiredToo surroundings'
    refine ⟨max enough enough', fun duration long => (alike.pass surroundings surroundings' duration).profiles_eq ?_ ?_⟩
    · simp [IsThrough, ends duration (Nat.le_trans (Nat.le_max_left ..) long)]
    · simp [IsThrough, ends' duration (Nat.le_trans (Nat.le_max_right ..) long)]

/-- On the schedule, what scans and the store answer cannot be seen in the reports, nor in the profiles that are handed
over. -/
theorem isolated_of_matches {policy : Policy} {cacheSize : Nat} {first second : List (Surroundings × Occurrence)}
    (same : List.Forall₂ Matches first second) (once : (first.filterMap (·.2.started?)).Nodup) :
    Isolated ((empty policy cacheSize).undergo first) ((empty policy cacheSize).undergo second) :=
  ((alike_empty policy cacheSize).undergo same once).isolated

end Monitor

end Observatory
