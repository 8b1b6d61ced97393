import Observatory.Proofs.Schedule.Serving

/-! # Whose turn it is

A schedule does not pick just any action. Of the observations the first one that can do anything goes on, and those
that send do so one after the other. Main statement: a monitor settles by actions that come in turn.
-/

namespace Observatory

/-- An observation does this by itself, apart from sending. -/
def Action.isWatch : Action → Bool
  | .aggregate .. | .expire _ | .abort _ | .report _ => true
  | _ => false

/-- The profile of a container is sent first. -/
theorem EnabledServices.containerProfiling_notMem {services : EnabledServices} {service : Service} {rest : List Service}
    (left : service :: rest <:+ services.toList) : .containerProfiling ∉ rest := by
  obtain ⟨earlier, split⟩ := left
  have within : rest ⊆ services.toList.tail := by
    rw [← split]
    cases earlier with
    | nil => exact List.Subset.refl _
    | cons first earlier => exact fun other member => List.mem_append_right _ (List.mem_cons_of_mem _ member)
  obtain ⟨relevantCves, containerProfiling⟩ := services
  intro member
  have listed := within member
  cases relevantCves <;> cases containerProfiling <;> simp [toList] at listed

namespace Monitor

variable {monitor next : Monitor} {action : Action} {observation : Observation} {serial : Nat}
  {surroundings : Surroundings} {turn : Turn}

/-- What the observations do next, apart from sending. -/
def watchAction? (monitor : Monitor) : Option Action := monitor.active.findSome? monitor.observationAction?

/-- The first of the observations that can do anything does it, and the first of the senders sends. A sender may go
on with its other tasks, but its profile comes first. -/
structure InTurn (monitor : Monitor) (action : Action) : Prop where
  scheduled : action.isScheduled = true
  watch : action.isWatch = true → monitor.watchAction? = some action
  first : ∀ serial, action = .send serial → ∀ observation, monitor.observation? serial = some observation →
    .containerProfiling ∈ observation.unsent → monitor.senders.head? = some serial

/-- The monitor goes on by itself, and everyone in turn. -/
def Prompt : Monitor → Monitor → Prop :=
  Relation.ReflTransGen fun monitor next => ∃ action, monitor.InTurn action ∧ monitor.step? action = some next

theorem Prompt.settles (prompt : monitor.Prompt next) : monitor.Settles next :=
  Relation.ReflTransGen.mono (fun _ _ ⟨action, inTurn, stepped⟩ => ⟨action, inTurn.scheduled, stepped⟩) _ _ prompt

theorem observationAction?_spec (picked : monitor.observationAction? observation = some action) :
    (∃ move, action = .aggregate observation.serial move) ∨ action = .expire observation.serial ∨
      action = .abort observation.serial ∨ action = .report observation.serial := by
  unfold observationAction? at picked
  split at picked
  · exact .inr (.inl (Option.some.inj picked).symm)
  · split at picked
    · exact .inl ⟨_, (Option.some.inj picked).symm⟩
    · split_ifs at picked
      · exact .inr (.inr (.inl (Option.some.inj picked).symm))
      · exact .inr (.inr (.inr (Option.some.inj picked).symm))

/-! ## Arrivals and the worker -/

private theorem inTurn_arrivals (picked : monitor.next? surroundings .arrivals = some action) :
    monitor.InTurn action := by
  have scheduled := isScheduled_of_next? picked
  simp only [next?] at picked
  split at picked
  · obtain rfl := Option.some.inj picked
    refine ⟨scheduled, ?_, ?_⟩ <;> (unfold Surroundings.inquiryAnswer; split <;> simp [Action.isWatch])
  · refine ⟨scheduled, fun _ => picked, ?_⟩
    rintro serial rfl
    obtain ⟨observation, -, picked⟩ := List.exists_of_findSome?_eq_some picked
    simpa using observationAction?_spec picked

private theorem inTurn_worker (picked : monitor.next? surroundings .worker = some action) : monitor.InTurn action := by
  obtain rfl | rfl | ⟨answer, rfl⟩ := workerAction?_spec picked <;>
    exact ⟨rfl, by simp [Action.isWatch], by simp⟩

private theorem prompt_turnFor
    (picks : ∀ {monitor : Monitor} {action : Action}, monitor.next? surroundings turn = some action →
      monitor.InTurn action) (fuel : Nat) (monitor : Monitor) :
    monitor.Prompt (turnFor surroundings turn fuel monitor) := by
  induction fuel generalizing monitor with
  | zero => exact .refl
  | succ fuel ih =>
    unfold turnFor
    split
    case h_1 next stepped =>
      obtain ⟨action, picked, stepped⟩ := Option.bind_eq_some_iff.mp stepped
      exact .head ⟨action, picks picked, stepped⟩ (ih next)
    case h_2 => exact .refl

/-! ## Senders -/

theorem Served.nodup_senders (served : monitor.Served) : monitor.senders.Nodup := by
  have able : ((monitor.active.filter monitor.canSend).map (·.serial)).Nodup :=
    List.pairwise_map.mpr ((served.apart.filter _).imp fun apart => apart.serial)
  have granted := List.Nodup.of_append_left served.queueing.distinct
  refine (granted.filter _).append (able.filter _) fun sender isGranted isFresh => ?_
  have fresh : sender ∉ monitor.queue.granted := by simpa using (List.mem_filter.mp isFresh).2
  exact fresh (List.mem_of_mem_filter isGranted)

private theorem filter_senders (monitor : Monitor) (serial : Nat) :
    let granted := monitor.queue.granted.filter (· ≠ serial)
    let able := ((monitor.active.filter (·.serial ≠ serial)).filter monitor.canSend).map (·.serial)
    monitor.senders.filter (· ≠ serial) = granted.filter (· ∈ able) ++ able.filter (· ∉ granted) := by
  have able : ((monitor.active.filter (·.serial ≠ serial)).filter monitor.canSend).map (·.serial) =
      ((monitor.active.filter monitor.canSend).map (·.serial)).filter (· ≠ serial) := by
    rw [List.filter_comm, List.filter_map]
    rfl
  dsimp only
  rw [able]
  simp only [senders, List.filter_append]
  congr 1
  · rw [List.filter_comm]
    refine List.filter_congr fun sender member => ?_
    have other := (List.mem_filter.mp member).2
    simp only [List.mem_filter, other, and_true]
  · rw [List.filter_comm]
    refine List.filter_congr fun sender member => ?_
    have other := (List.mem_filter.mp member).2
    simp only [List.mem_filter, other, and_true]

/-- What a sender does leaves the other senders as they are. -/
theorem Served.senders_send (served : monitor.Served) (stepped : monitor.send? serial = some next) :
    next.senders.filter (· ≠ serial) = monitor.senders.filter (· ≠ serial) := by
  obtain ⟨old, service, unsent, found, -, ⟨-, -, queue, offers⟩ | ⟨closed, -⟩⟩ := send?_spec stepped
  · obtain ⟨member, rfl⟩ := mem_active_of_observation? found
    have offered : ∃ accepted, TaskQueue.Offered monitor.queue old.serial ⟨old.container, service⟩ queue accepted := by
      obtain ⟨accepted, -⟩ | ⟨refused, -⟩ := offers
      · exact ⟨true, TaskQueue.offered_of_offer accepted⟩
      · exact ⟨false, TaskQueue.offered_of_offer refused⟩
    obtain ⟨accepted, offered⟩ := offered
    have reached : next.queue = queue := by
      obtain ⟨-, rfl⟩ | ⟨-, rfl⟩ := offers <;> rfl
    have others : next.active.filter (·.serial ≠ old.serial) = monitor.active.filter (·.serial ≠ old.serial) := by
      obtain ⟨-, rfl⟩ | ⟨-, rfl⟩ := offers
      · exact filter_active_replace monitor { old with unsent := unsent }
      · rfl
    have granted : next.queue.granted.filter (· ≠ old.serial) = monitor.queue.granted.filter (· ≠ old.serial) := by
      rw [reached]
      cases offered with
      | granted isGranted =>
        have distinct := List.Nodup.of_append_left served.queueing.distinct
        rw [distinct.erase_eq_filter, List.filter_filter]
        exact List.filter_congr fun sender _ => by simp [bne]
      | free | full => rfl
    have able : (next.active.filter (·.serial ≠ old.serial)).filter next.canSend =
        (monitor.active.filter (·.serial ≠ old.serial)).filter monitor.canSend := by
      rw [others]
      refine List.filter_congr fun other isOther => ?_
      have differs : other.serial ≠ old.serial := by simpa using (List.mem_filter.mp isOther).2
      simp only [canSend, reached, TaskQueue.isBlocked]
      cases offered with
      | granted | free => rfl
      | full => simp [differs]
    have filtered := filter_senders next old.serial
    have filteredBefore := filter_senders monitor old.serial
    dsimp only at filtered filteredBefore
    rw [filtered, filteredBefore, granted, able]
  · exact absurd (served.isOpen.symm.trans closed) (by decide)

theorem send_of_next? (picked : monitor.next? surroundings (.sender serial) = some action) : action = .send serial := by
  simp only [next?] at picked
  split at picked
  · obtain ⟨-, sent⟩ := Option.ite_none_right_eq_some.mp picked
    exact (Option.some.inj sent).symm
  · contradiction

/-- After its first task a sender has sent its profile, or has to wait. -/
private theorem Served.inTurn_send (served : monitor.Served) (stepped : monitor.send? serial = some next) :
    next.InTurn (.send serial) ∨ next.next? surroundings (.sender serial) = none := by
  obtain ⟨old, service, unsent, found, announced,
    ⟨opened, -, queue, ⟨-, rfl⟩ | ⟨refused, reached⟩⟩ | ⟨closed, -⟩⟩ := send?_spec stepped
  · obtain ⟨member, rfl⟩ := mem_active_of_observation? found
    refine .inl ⟨rfl, nofun, fun _ same observation foundNow unsentNow => ?_⟩
    obtain rfl := Action.send.inj same
    have replaced : ({ monitor with queue := queue }.replace { old with unsent := unsent }).observation? old.serial =
        some { old with unsent := unsent } := observation?_replace found rfl
    obtain rfl := Option.some.inj (foundNow.symm.trans replaced)
    have ordered := (served.accounted.stands old member).ordered
    have left : service :: unsent <:+ monitor.policy.services.toList :=
      announced ▸ (List.suffix_append _ _).trans ordered
    exact absurd unsentNow (EnabledServices.containerProfiling_notMem left)
  · right
    have observed : next.observation? serial = some old := by rw [reached]; exact found
    obtain ⟨-, rfl⟩ := mem_active_of_observation? found
    cases TaskQueue.offered_of_offer refused with
    | full =>
      have unable : next.canSend old = false := by
        rw [reached]
        simp [canSend, opened, TaskQueue.isBlocked]
      simp [next?, observed, unable]
  · exact absurd (served.isOpen.symm.trans closed) (by decide)

/-- A sender whose turn it is goes on until it has to wait, and leaves the others as they are. -/
private theorem Served.prompt_sender (served : monitor.Served)
    (inTurn : monitor.InTurn (.send serial) ∨ monitor.next? surroundings (.sender serial) = none) (fuel : Nat) :
    monitor.Prompt (turnFor surroundings (.sender serial) fuel monitor) ∧
      (turnFor surroundings (.sender serial) fuel monitor).senders.filter (· ≠ serial) =
        monitor.senders.filter (· ≠ serial) := by
  induction fuel generalizing monitor with
  | zero => exact ⟨.refl, rfl⟩
  | succ fuel ih =>
    unfold turnFor
    split
    case h_2 => exact ⟨.refl, rfl⟩
    case h_1 next stepped =>
      obtain ⟨action, picked, stepped⟩ := Option.bind_eq_some_iff.mp stepped
      obtain rfl := send_of_next? picked
      have inTurn := inTurn.resolve_right (by rw [picked]; exact Option.some_ne_none _)
      have servedNext := served.step stepped nofun nofun
      obtain ⟨prompt, others⟩ := ih servedNext (served.inTurn_send stepped)
      exact ⟨.head ⟨_, inTurn, stepped⟩ prompt, others.trans (served.senders_send stepped)⟩

/-- The first of the senders sends what it can, and the others are as before. -/
private theorem Served.sender_turn (served : monitor.Served) {rest : List Nat} (senders : monitor.senders = serial :: rest)
    (surroundings : Surroundings) :
    monitor.Prompt (turnFor surroundings (.sender serial) monitor.work monitor) ∧
      (turnFor surroundings (.sender serial) monitor.work monitor).senders = rest := by
  have inTurn : monitor.InTurn (.send serial) :=
    ⟨rfl, nofun, fun _ same _ _ _ => by cases same; rw [senders]; rfl⟩
  obtain ⟨prompt, others⟩ := served.prompt_sender (.inl inTurn) monitor.work
  refine ⟨prompt, ?_⟩
  have kept := prompt.settles.kept served.toKept
  have exhausted := served.exhausted surroundings (.sender serial)
  generalize turnFor surroundings (.sender serial) monitor.work monitor = next at others kept exhausted
  have unable : serial ∉ next.senders := by
    intro member
    obtain ⟨observation, found, able⟩ := kept.mem_senders member
    simp [next?, found, able] at exhausted
  have distinct := served.nodup_senders
  rw [senders, List.nodup_cons] at distinct
  have filtered {list : List Nat} (without : serial ∉ list) : list.filter (· ≠ serial) = list := by
    refine List.filter_eq_self.mpr fun sender member => ?_
    simp only [decide_eq_true_eq]
    exact fun own => without (own ▸ member)
  calc next.senders = next.senders.filter (· ≠ serial) := (filtered unable).symm
    _ = (serial :: rest).filter (· ≠ serial) := senders ▸ others
    _ = rest := by rw [List.filter_cons_of_neg (by simp), filtered distinct.1]

private theorem Served.prompt_senders (served : monitor.Served) {senders : List Nat} (listed : monitor.senders = senders)
    (surroundings : Surroundings) : monitor.Prompt (monitor.takeTurns surroundings (senders.map .sender)) := by
  induction senders generalizing monitor with
  | nil => exact .refl
  | cons serial rest ih =>
    obtain ⟨prompt, others⟩ := served.sender_turn listed surroundings
    exact prompt.trans (ih (prompt.settles.served served) others)

/-! ## Rounds -/

theorem Served.prompt_round (served : monitor.Served) (surroundings : Surroundings) :
    monitor.Prompt (monitor.round surroundings) := by
  have middle : monitor.Prompt (monitor.takeTurns surroundings [.arrivals, .worker]) :=
    (prompt_turnFor inTurn_arrivals _ _).trans (prompt_turnFor inTurn_worker _ _)
  exact middle.trans ((middle.settles.served served).prompt_senders rfl surroundings)

/-- A monitor settles by actions that come in turn. -/
theorem Served.prompt_settle (served : monitor.Served) (surroundings : Surroundings) :
    monitor.Prompt (monitor.settle surroundings) := by
  have prompt (fuel : Nat) : monitor.Prompt (settleFor surroundings fuel monitor) := by
    induction fuel generalizing monitor with
    | zero => exact .refl
    | succ fuel ih =>
      unfold settleFor
      split
      · exact .refl
      · have round := served.prompt_round surroundings
        exact round.trans (ih (round.settles.served served))
  exact prompt monitor.work

end Monitor

end Observatory
