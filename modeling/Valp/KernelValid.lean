/-
Every reachable Kernel State is valid.

`reduce` refuses a State that `_state_is_valid` rejects, so a branch that built
such a State would end the Task for good.  Here every branch is shown to keep the
State valid, for every event and evidence set.

* `replay_run_valid` — so every State reached from an admitted genesis is valid,
  and a Task that is not terminal can go on from it.
-/
import Valp.KernelStep

namespace Valp.Kernel

open Option (some_inj)
open List

variable {s t : State} {x : Input} {e : Event} {kind : EventKind} {status : TaskStatus}
  {effect : Effect} {w w' : WorkItem}

/-! ### Validators as propositions -/

variable {taskId : Identity} {xs : List Input}

theorem workItemIsValid_iff :
    workItemIsValid w taskId ↔ w.taskId = taskId ∧ w.workItemId.kind = .workItem ∧
      (∀ d ∈ w.dependencies, d.workItemId.kind = .workItem ∧ d.workItemId ≠ w.workItemId) ∧
      (w.dependencies.map (·.workItemId)).Nodup ∧
      ∀ a, w.currentAttempt = some a →
        attemptIsValid a ∧ a.taskId = w.taskId ∧ a.workItemId = w.workItemId := by
  simp only [workItemIsValid, Bool.and_eq_true, beq_iff_eq, hasIdentityKind, all_eq_true,
    bne_iff_ne, decide_eq_true_eq, noneOr, Option.all_eq_true, and_assoc]

/-- What the validity of an Event says about the fields a branch copies. -/
structure EventValid (e : Event) : Prop where
  eventId : e.eventId.kind = .event
  attempt : ∀ i, e.attemptId = some i → i.kind = .attempt
  dispatch : ∀ i, e.dispatchId = some i → i.kind = .dispatch
  generation : ∀ n, e.dispatchGeneration = some n → 0 ≤ n
  suspension : ∀ i, e.suspensionId = some i → i.kind = .suspension
  epoch : ∀ n, e.suspensionEpoch = some n → 0 ≤ n
  policy : ∀ i, e.waitPolicyId = some i → i.kind = .waitPolicy
  policyDigest : ∀ d, e.waitPolicyDigest = some d → isDigest d = true
  required : ∀ i ∈ e.requiredWorkItemIds, i.kind = .workItem
  wake : ∀ i, e.wakeId = some i → i.kind = .wake
  interrupt : ∀ i, e.interruptId = some i → i.kind = .interrupt

theorem EventValid.of_eventIsValid (h : eventIsValid e) : EventValid e := by
  simp only [eventIsValid, Bool.and_eq_true, hasIdentityKind, isNonNegative, noneOr,
    Option.all_eq_true, beq_iff_eq, decide_eq_true_eq, all_eq_true, and_assoc] at h
  obtain ⟨hev, -, -, -, -, -, -, hatt, hdisp, hgen, hsusp, hep,
    hpol, hdig, hreq, hwake, -, -, -, -, -, hintr, -⟩ := h
  exact ⟨hev, hatt, hdisp, hgen, hsusp, hep, hpol, hdig, hreq, hwake, hintr⟩

/-! ### Work Items -/

/-- A Work Item stays valid when it keeps its identity and dependencies, and its
Attempt, if it has one, differs from the one before in the status only. -/
theorem workItemIsValid_of_frame (hw : workItemIsValid w taskId)
    (htask' : w'.taskId = w.taskId) (hid' : w'.workItemId = w.workItemId)
    (hdeps' : w'.dependencies = w.dependencies)
    (hatt' : ∀ b, w'.currentAttempt = some b → ∃ a, w.currentAttempt = some a ∧
      b = { a with status := b.status }) :
    workItemIsValid w' taskId := by
  rw [workItemIsValid_iff] at hw ⊢
  obtain ⟨htask, hid, hdeps, hnd, hatt⟩ := hw
  rw [htask', hid', hdeps']
  refine ⟨htask, hid, hdeps, hnd, ?_⟩
  intro b hb
  obtain ⟨a, ha, hb'⟩ := hatt' b hb
  rw [hb']
  exact hatt a ha

theorem ItemMove.valid (hs : StateValid s) (he : EventValid e) (h : ItemMove s e kind w w')
    (hw : workItemIsValid w s.taskId) : workItemIsValid w' s.taskId := by
  obtain ⟨htask', hid', -, hdeps'⟩ := h.frame
  cases h with
  | created hatt hdisp hgen =>
    -- the only move that builds an Attempt: its fields come from a valid event
    rw [workItemIsValid_iff] at hw ⊢
    obtain ⟨htask, hid, hdeps, hnd, -⟩ := hw
    refine ⟨htask, hid, hdeps, hnd, ?_⟩
    intro a ha
    cases ha
    refine ⟨?_, htask.symm, rfl⟩
    simp [attemptIsValid, hasIdentityKind, isNonNegative, hs.task, hid,
      he.attempt _ hatt, he.dispatch _ hdisp, he.generation _ hgen]
  | eligible | moved =>
    refine workItemIsValid_of_frame hw htask' hid' hdeps' ?_
    intro b hb
    exact ⟨b, hb, rfl⟩
  | fenced hcur | advanced _ hcur =>
    refine workItemIsValid_of_frame hw htask' hid' hdeps' ?_
    intro b hb
    cases hb
    exact ⟨_, hcur, rfl⟩
  | cancelled =>
    refine workItemIsValid_of_frame hw htask' hid' hdeps' ?_
    intro b hb
    -- the Attempt, if any, keeps its fields whether or not it was active
    rw [cancelledWorkItem_fst] at hb
    obtain ⟨a, ha, rfl⟩ := Option.map_eq_some_iff.mp hb
    refine ⟨a, ha, ?_⟩
    rw [cancelAttempt]
    split <;> rfl

/-! ### Suspension -/

variable {u : Suspension}

theorem suspensionIsValid_iff :
    suspensionIsValid u s ↔ u.taskId = s.taskId ∧ u.suspensionId.kind = .suspension ∧
      0 ≤ u.suspensionEpoch ∧ u.waitPolicyId.kind = .waitPolicy ∧
      isDigest u.waitPolicyDigest ∧ u.requiredWorkItemIds ≠ [] ∧
      u.requiredWorkItemIds.Nodup ∧ (∀ i ∈ u.requiredWorkItemIds, i.kind = .workItem) ∧
      (∀ i ∈ u.requiredWorkItemIds, i ∈ s.workItems.map (·.workItemId)) ∧
      (u.status = .waiting → u.acceptedWakeId = none ∧ u.wakeReason = none) ∧
      (u.status = .resumed → hasIdentityKind? u.acceptedWakeId .wake ∧
        u.wakeReason = some .dependencyReady) := by
  simp only [suspensionIsValid, Bool.and_eq_true, beq_iff_eq, hasIdentityKind, isNonNegative,
    decide_eq_true_eq, bne_iff_ne, all_eq_true, contains_iff_mem, and_assoc]
  cases u.status <;> simp

theorem suspensionIsValid_congr (htask : t.taskId = s.taskId)
    (hids : t.workItems.map (·.workItemId) = s.workItems.map (·.workItemId)) :
    suspensionIsValid u t = suspensionIsValid u s := by
  rw [suspensionIsValid, suspensionIsValid, htask, hids]

theorem suspensionStarted_valid (he : EventValid e)
    (h : suspensionStarted s status e = some effect)
    (hu : effect.suspension = some u) : suspensionIsValid u s := by
  obtain ⟨-, -, -, -, hne, hnd, hsubset, _, _, _, _, hsusp, hep, hpol, hdig,
    hstd⟩ := suspensionStarted_spec h
  rw [hstd, some_inj] at hu
  rw [← hu]
  exact suspensionIsValid_iff.mpr ⟨rfl, he.suspension _ hsusp, he.epoch _ hep,
    he.policy _ hpol, he.policyDigest _ hdig, hne, hnd, he.required, hsubset,
    fun _ => ⟨rfl, rfl⟩, nofun⟩

theorem wakeAccepted_valid (hs : StateValid s) (he : EventValid e)
    (h : wakeAccepted s status e = some effect)
    (hu : effect.suspension = some u) : suspensionIsValid u s := by
  obtain ⟨-, -, -, -, current, wake, hcur, hwake, hresm⟩ := wakeAccepted_spec h
  rw [hresm, some_inj] at hu
  rw [← hu]
  obtain ⟨h1, h2, h3, h4, h5, h6, h7, h8, h9, -, -⟩ :=
    suspensionIsValid_iff.mp (hs.suspension current hcur)
  refine suspensionIsValid_iff.mpr ⟨h1, h2, h3, h4, h5, h6, h7, h8, h9,
    fun hwait => ?_, fun _ => ⟨?_, rfl⟩⟩
  · cases hwait
  · simp [hasIdentityKind?, hasIdentityKind, he.wake wake hwake]

theorem StatusMove.executing {target : TaskStatus} (h : StatusMove status kind target)
    (hkind : kind = .suspensionStarted ∨ kind = .wakeAccepted) : status = .executing := by
  cases h
  case suspended hexec => exact hexec
  case woken hexec => exact hexec
  case item hitem => rcases hkind with rfl | rfl <;> cases hitem
  case edge htask _ =>
    rcases hkind with rfl | rfl <;> rcases htask with htask | htask <;> cases htask
  all_goals rcases hkind with hkind | hkind <;> cases hkind

/-- A branch leaves a valid Suspension, and one only for a Task that is executing. -/
theorem Branch.suspension_valid (hs : StateValid s) (he : EventValid e)
    (hst : s.status = .known status) (h : Branch s status e kind effect)
    (hu : effect.suspension = some u) :
    suspensionIsValid u s ∧ status = .executing := by
  have hkept : s.suspension = some u → suspensionIsValid u s ∧ status = .executing := by
    intro hu
    have hexec := hst.symm.trans (hs.executing u hu)
    exact ⟨hs.suspension u hu, by simpa using hexec⟩
  have hmove := h.statusMove hs
  cases h with
  | interruptRequested h =>
    rw [(interruptRequested_spec h).2.2.2.2.1] at hu
    exact hkept hu
  | interruptResumed h =>
    rw [(interruptResumed_spec h).2.2.1] at hu
    exact hkept hu
  | redirectAuthorized h =>
    rw [(redirectAuthorized_spec h).2.2.2.1] at hu
    cases hu
  | taskCancelled h =>
    rw [(taskCancelled_spec h).2.2.1] at hu
    cases hu
  | suspensionStarted h =>
    exact ⟨suspensionStarted_valid he h hu, hmove.executing (Or.inl rfl)⟩
  | wakeAccepted h =>
    exact ⟨wakeAccepted_valid hs he h hu, hmove.executing (Or.inr rfl)⟩
  | item _ h =>
    obtain ⟨w, -, r, -, -, rfl⟩ := onWorkItem_spec hs h
    exact hkept hu
  | task _ h =>
    rw [(taskTransition_spec h).2.2.1] at hu
    exact hkept hu

/-! ### Control -/

theorem currentControl_version_nonneg (hs : StateValid s) :
    0 ≤ (currentControl s).intentVersion := by
  rw [currentControl]
  cases hc : s.control with
  | none => exact le_refl 0
  | some c =>
    have hval := hs.control c hc
    rw [controlIsValid, Bool.and_eq_true, isNonNegative, decide_eq_true_eq] at hval
    exact hval.1

theorem controlIsValid_active {n : Int} (hn : 0 ≤ n) :
    controlIsValid { intentVersion := n, status := .active } = true := by
  simp [controlIsValid, isNonNegative, hn]

theorem Branch.control_valid (hs : StateValid s) (he : EventValid e)
    (h : Branch s status e kind effect) {c : ControlState} (hc : effect.control = some c) :
    controlIsValid c := by
  have hver := currentControl_version_nonneg hs
  cases h with
  | interruptRequested h =>
    obtain ⟨-, ⟨i, hi⟩, -, -, -, hctrl⟩ := interruptRequested_spec h
    rw [hctrl, some_inj] at hc
    rw [← hc]
    simp [controlIsValid, isNonNegative, hver, hi, hasIdentityKind?, hasIdentityKind,
      he.interrupt i hi]
  | interruptResumed h =>
    rw [(interruptResumed_spec h).2.2.2, some_inj] at hc
    rw [← hc]
    exact controlIsValid_active hver
  | redirectAuthorized h =>
    rw [(redirectAuthorized_spec h).2.2.2.2, some_inj] at hc
    rw [← hc]
    exact controlIsValid_active (by omega)
  | taskCancelled h =>
    rw [(taskCancelled_spec h).2.2.2, some_inj] at hc
    rw [← hc]
    exact controlIsValid_active hver
  | suspensionStarted h =>
    rw [(suspensionStarted_spec h).2.2.2.1] at hc
    exact hs.control c hc
  | wakeAccepted h =>
    rw [(wakeAccepted_spec h).2.2.2.1] at hc
    exact hs.control c hc
  | item _ h =>
    obtain ⟨w, -, r, -, -, rfl⟩ := onWorkItem_spec hs h
    exact hs.control c hc
  | task _ h =>
    rw [(taskTransition_spec h).2.2.2] at hc
    exact hs.control c hc

/-! ### Steps and runs -/

/-- A valid State in which every result identity is the one `reduce` derives from
the event identity. -/
structure Sound (s : State) : Prop where
  valid : StateValid s
  resultIds : ∀ a ∈ s.acceptedEvents, a.resultId = resultIdFor a.eventId

theorem resultIdFor_injective {i j : Identity} (hkind : i.kind = j.kind)
    (h : resultIdFor i = resultIdFor j) : i = j := by
  have hvalue : i.value ++ ":accepted" = j.value ++ ":accepted" := congrArg Identity.value h
  have heq : i.value = j.value := by simpa using hvalue
  cases i
  cases j
  simp_all

theorem acceptedEvent_valid (he : EventValid x.1) :
    acceptedEventIsValid (acceptedEvent s x.1 x.2 effect) := by
  simp [acceptedEventIsValid, acceptedEvent, hasIdentityKind, he.eventId, resultIdFor,
    inputDigest, acceptedResultDigest]

theorem Sound.new_ids (hs : Sound s) (he : EventValid x.1) (hadm : Admitted s x status kind) :
    x.1.eventId ∉ s.acceptedEvents.map (·.eventId) ∧
      resultIdFor x.1.eventId ∉ s.acceptedEvents.map (·.resultId) := by
  have hnew : ∀ a ∈ s.acceptedEvents, a.eventId ≠ x.1.eventId := by
    intro a ha
    simpa using List.find?_eq_none.mp hadm.new a ha
  constructor
  · intro hmem
    obtain ⟨a, ha, heq⟩ := mem_map.mp hmem
    exact hnew a ha heq
  · intro hmem
    obtain ⟨a, ha, heq⟩ := mem_map.mp hmem
    -- result identities are derived from event identities, so one would be recorded twice
    rw [hs.resultIds a ha] at heq
    have hval := hs.valid.accepted a ha
    simp only [acceptedEventIsValid, Bool.and_eq_true, hasIdentityKind, beq_iff_eq] at hval
    have hkind : a.eventId.kind = x.1.eventId.kind := by rw [hval.1.1.1, he.eventId]
    exact hnew a ha (resultIdFor_injective hkind heq)

/-- **One step keeps the State sound.** -/
theorem step_valid (hs : Sound s) (h : step s x = some t) : Sound t := by
  obtain ⟨status, kind, before, effect, hadm, -, hbr, hset, rfl⟩ := step_cases h
  have hv := hs.valid
  have he := EventValid.of_eventIsValid hadm.inputs.2.1
  obtain ⟨hnewEvent, hnewResult⟩ := hs.new_ids he hadm
  obtain ⟨heff, hsusp⟩ := settle_spec hset
  obtain ⟨f, hf⟩ := step_items h hadm.kind_eq
  have hids : (nextState s x.1 x.2 effect).workItems.map (·.workItemId) =
      s.workItems.map (·.workItemId) := by
    rw [hf.rows, Table.map_key_map hf.key]
  -- what is left of the Suspension was left by the branch, and the status is unchanged
  have hleft : ∀ u, effect.suspension = some u →
      suspensionIsValid u s ∧ effect.status = .executing := by
    intro u hu
    rcases hsusp with ⟨hsame, hkept⟩ | ⟨-, hnone, -⟩
    · rw [hkept] at hu
      obtain ⟨hval, hexec⟩ := hbr.suspension_valid hv he hadm.status_eq hu
      refine ⟨hval, ?_⟩
      rw [heff]
      exact hsame.trans hexec
    · cases hnone.symm.trans hu
  refine ⟨?_, ?_⟩
  · refine {
      version := hv.version
      installation := hv.installation
      task := hv.task
      leaderEpoch := hv.leaderEpoch
      revision := ?_
      status := ⟨effect.status, rfl⟩
      genesis := ?_
      accepted := ?_
      items := ?_
      executing := ?_
      suspension := ?_
      control := ?_
      eventIds := ?_
      resultIds := ?_
      itemIds := ?_ }
    · -- the revision counts the recorded events
      show s.revision + 1 = ((s.acceptedEvents ++ [_]).length : Int)
      rw [hv.revision, length_append]
      rfl
    · -- no step leads back to revision 0
      intro hzero
      have hzero : s.revision + 1 = 0 := hzero
      have hnonneg := hv.revision
      omega
    · exact forall_mem_append.mpr ⟨hv.accepted, forall_mem_singleton.mpr (acceptedEvent_valid he)⟩
    · intro w' hw'
      rw [hf.rows] at hw'
      obtain ⟨w, hw, rfl⟩ := mem_map.mp hw'
      rcases hf.move w hw with hsame | hmov
      · rw [hsame]
        exact hv.items w hw
      · have hval : workItemIsValid (f w) s.taskId :=
          hmov.move.valid hv he (hv.items w hw)
        exact hval
    · intro u hu
      exact congrArg Closed.known (hleft u hu).2
    · intro u hu
      have htask : (nextState s x.1 x.2 effect).taskId = s.taskId := rfl
      rw [suspensionIsValid_congr htask hids]
      exact (hleft u hu).1
    · -- `settle` does not touch the control state that the branch left
      intro c hc
      have hc : before.control = some c := by
        rw [← hc]
        show before.control = effect.control
        rw [heff]
      exact hbr.control_valid hv he hc
    · exact Table.nodup_concat hv.eventIds hnewEvent
    · exact Table.nodup_concat hv.resultIds hnewResult
    · rw [hids]
      exact hv.itemIds
  · exact forall_mem_append.mpr ⟨hs.resultIds, forall_mem_singleton.mpr rfl⟩

variable {g : State}

theorem genesis_sound (hg : genesisIsValid g) : Sound g := by
  obtain ⟨hval, -, -, hnil⟩ := genesisIsValid_iff.mp hg
  exact ⟨hval, by simp [hnil]⟩

/-- **Every State on a run from a genesis is sound.** -/
theorem exec_sound (hg : genesisIsValid g)
    (h : Run.exec step g xs = some t) : Sound t :=
  Run.exec_invariant (fun _ _ _ hu hv => step_valid hu hv) (genesis_sound hg) h

/-! ### Going on -/

theorem exists_fresh_event (ids : List Identity) :
    ∃ i : Identity, i.kind = .event ∧ i ∉ ids := by
  -- a value longer than every value in use
  obtain ⟨n, hn⟩ : ∃ n, ∀ i ∈ ids, i.value.length ≤ n := by
    induction ids with
    | nil => exact ⟨0, by simp⟩
    | cons i ids ih =>
      obtain ⟨n, hn⟩ := ih
      refine ⟨max i.value.length n, ?_⟩
      intro j hj
      rcases mem_cons.mp hj with rfl | hj
      · exact le_max_left _ _
      · exact (hn j hj).trans (le_max_right _ _)
  have hlen : (String.ofList (List.replicate (n + 1) 'e')).length = n + 1 := by
    rw [String.length_ofList, length_replicate]
  refine ⟨⟨.event, String.ofList (List.replicate (n + 1) 'e'), ?_⟩, rfl, ?_⟩
  · intro hemp
    rw [hemp] at hlen
    simp at hlen
  · intro hmem
    have hle := hn _ hmem
    simp only [hlen] at hle
    omega

/-- An event that may end a wait is never refused because of one. -/
theorem settle_of_waitEnding (status : TaskStatus) (effect : Effect)
    (hend : kind ∈ waitEndingEvents) : ∃ effect', settle status kind effect = some effect' := by
  rw [settle]
  split
  · split
    · exact ⟨_, rfl⟩
    · rw [if_neg (by simp [hend])]
      exact ⟨_, rfl⟩
  · exact ⟨_, rfl⟩

/-- The event that fails the Task of `s`. -/
def taskFailedEvent (s : State) (eventId : Identity) : Event where
  eventId := eventId
  installationId := s.installationId
  leaderEpoch := s.leaderEpoch
  taskId := s.taskId
  kind := .known .taskFailed
  expectedRevision := s.revision

/-- **A Task that is not terminal can always go on**: at the least it can fail. -/
theorem StateValid.exists_step (hs : StateValid s) (hst : s.status = .known status)
    (hopen : status.isTerminal = false) : ∃ x t, step s x = some t := by
  obtain ⟨i, hi, hfr⟩ := exists_fresh_event (s.acceptedEvents.map (·.eventId))
  have hrev : 0 ≤ s.revision := by
    have := hs.revision
    omega
  have hev : eventIsValid (taskFailedEvent s i) := by
    simp [eventIsValid, taskFailedEvent, hasIdentityKind, isNonNegative, noneOr, hi,
      hs.installation, hs.task, hs.leaderEpoch, hrev, Closed.isKnown]
  have htr : ∃ effect,
      transition s status (taskFailedEvent s i) .taskFailed = some effect := by
    -- the event is an edge from every open status, passes an interrupt and ends a wait
    have hedge : kernelTaskTransitions status .taskFailed = some .failed := by
      cases status <;> first | rfl | cases hopen
    have hpass : EventKind.taskFailed ∈ interruptedEvents := by simp [interruptedEvents]
    have hend : EventKind.taskFailed ∈ waitEndingEvents := by simp [waitEndingEvents]
    obtain ⟨effect, heff⟩ := settle_of_waitEnding status
      { status := .failed, workItems := s.workItems, suspension := s.suspension,
        control := s.control } hend
    exact ⟨effect, by simpa [transition, hpass, branch, taskTransition, hedge] using heff⟩
  obtain ⟨effect, heff⟩ := htr
  refine ⟨(taskFailedEvent s i, []), _, step_iff.mpr ⟨status, .taskFailed, effect, ?_, heff, rfl⟩⟩
  refine ⟨hst, rfl, rfl, ?_, rfl, ?_, rfl, rfl⟩
  · simp only [inputIsValid, stateIsValid_iff.mpr hs, hev, Bool.true_and]
    simp [taskFailedEvent, evidenceSetIsValid, authorityIsValid, authorityBoundEvents]
  · rw [find?_eq_none]
    intro a ha
    have hne : a.eventId ≠ i := fun heq => hfr (heq ▸ mem_map_of_mem ha)
    simpa [taskFailedEvent] using hne

/-! ### Evaluating runs -/

/-- `step` without the check of the State, which hashes are part of. -/
def stepTrusting (s : State) (x : Input) : Option State :=
  match s.status, x.1.kind with
  | .known status, .known kind =>
    if hasUnknownEnum x.1 || !(eventIsValid x.1 && evidenceSetIsValid x.2 &&
        x.1.installationId == s.installationId && x.1.leaderEpoch == s.leaderEpoch &&
        authorityIsValid x.1 kind x.2) || attemptEventIsStale s x.1 kind ||
        (s.acceptedEvents.any fun item => item.eventId == x.1.eventId) ||
        x.1.taskId != s.taskId || x.1.expectedRevision != s.revision then none
    else (transition s status x.1 kind).map (nextState s x.1 x.2)
  | _, _ => none

theorem step_eq_trusting (hs : StateValid s) (x : Input) : step s x = stepTrusting s x := by
  have hval := stateIsValid_iff.mpr hs
  refine Option.ext fun t => ?_
  rw [step_iff, stepTrusting]
  constructor
  · rintro ⟨status, kind, effect, hadm, heff, rfl⟩
    obtain ⟨-, h1, h2, h3, h4, h5⟩ := hadm.inputs
    have hnew := hadm.new
    rw [find?_eq_none] at hnew
    simp only [hadm.status_eq, hadm.kind_eq, hadm.enums, hadm.notStale, h1, h2, h3, h4, h5,
      hadm.task, hadm.revision, heff]
    simpa using hnew
  · intro h
    split at h
    case h_2 => cases h
    case h_1 status kind hst hkind =>
      simp only [Option.ite_none_left_eq_some, Option.map_eq_some_iff, Bool.or_eq_true, not_or,
        Bool.not_eq_true', Bool.not_eq_false, bne_iff_ne, not_not] at h
      obtain ⟨⟨⟨⟨⟨⟨henums, hin⟩, hstale⟩, hnew⟩, htask⟩, hrev⟩, effect, heff, rfl⟩ := h
      refine ⟨status, kind, effect, ⟨hst, hkind, by simpa using henums, ?_,
        by simpa using hstale, ?_, htask, hrev⟩, heff, rfl⟩
      · simp only [Bool.and_eq_true, and_assoc] at hin
        simp only [inputIsValid, hval, hin, Bool.and_self]
      · rw [find?_eq_none]
        simpa using hnew

/-- **Along runs from a genesis the check of the State is redundant**, so a run can
be evaluated without computing a digest. -/
theorem exec_eq_trusting (hg : genesisIsValid g) (xs : List Input) :
    Run.exec step g xs = Run.exec stepTrusting g xs :=
  Run.exec_congr (fun _ _ _ hu hv => step_valid hu hv)
    (fun _ x hu => step_eq_trusting hu.valid x) (genesis_sound hg) xs

theorem trace_eq_trusting (hg : genesisIsValid g) (xs : List Input) :
    Run.trace step g xs = Run.trace stepTrusting g xs :=
  Run.trace_congr (fun _ _ _ hu hv => step_valid hu hv)
    (fun _ x hu => step_eq_trusting hu.valid x) (genesis_sound hg) xs

/-- A run from a genesis that evaluates to a State with the property `p`. -/
theorem exec_of_trusting (hg : genesisIsValid g)
    {p : State → Prop} [DecidablePred p]
    (h : (Run.exec stepTrusting g xs).any (fun t => decide (p t))) :
    ∃ t, Run.exec step g xs = some t ∧ p t := by
  rw [← exec_eq_trusting hg, Option.any_eq_true] at h
  obtain ⟨t, ht, hp⟩ := h
  exact ⟨t, ht, of_decide_eq_true hp⟩

/-- An identity with a value that is written out. -/
def ident (kind : IdentityKind) (value : String)
    (h : (value == "") = false := by exact Eq.refl false) : Identity :=
  ⟨kind, value, by simpa using h⟩

/-- The genesis of a Task with the given Work Items. -/
def sampleGenesis (items : List WorkItem) : State where
  protocolVersion := protocolVersion
  installationId := ident .installation "installation"
  leaderEpoch := 1
  taskId := ident .task "task"
  revision := 0
  status := .known .published
  workItems := items

def sampleItem (id : Identity) (requirement : WorkItemRequirement)
    (dependencies : List Dependency) : WorkItem where
  taskId := ident .task "task"
  workItemId := id
  requirement := requirement
  dependencies := dependencies

section

variable (eventId : Identity) (revision : Int) (kind : EventKind)

/-- An event of that Task, for the State at `revision`. -/
def sampleEvent : Event where
  eventId := eventId
  installationId := ident .installation "installation"
  leaderEpoch := 1
  taskId := ident .task "task"
  kind := .known kind
  expectedRevision := revision

def sampleItemEvent (item : Identity) :
    Event :=
  { sampleEvent eventId revision kind with workItemId := some item }

def sampleAttemptEvent
    (item attempt dispatch : Identity) (generation : Int) : Event :=
  { sampleItemEvent eventId revision kind item with
    attemptId := some attempt
    dispatchId := some dispatch
    dispatchGeneration := some generation }

end

/-- The events that take a Task at revision `n` from its publication to `executing`. -/
def dispatchSpine (n : Int) : List Input := [
  (sampleEvent (ident .event "spine-0") n .routingValidationStarted, []),
  (sampleEvent (ident .event "spine-1") (n + 1) .routingValidationPassed, []),
  (sampleEvent (ident .event "spine-2") (n + 2) .dispatchAccepted, [])]

/-- The events that take a Task at revision `n` from its publication to `done`. -/
def doneSpine (n : Int) : List Input := dispatchSpine n ++ [
  (sampleEvent (ident .event "spine-3") (n + 3) .workCompleted, []),
  (sampleEvent (ident .event "spine-4") (n + 4) .verificationPassed, []),
  (sampleEvent (ident .event "spine-5") (n + 5) .reviewPassed, []),
  (sampleEvent (ident .event "spine-6") (n + 6) .recordingCompleted, [])]

theorem sampleGenesis_valid : genesisIsValid (sampleGenesis []) := by decide

/-! ### Reachable States -/

/-- **Reachable States are valid.**  Every State that a run of accepted events
reaches from a genesis that `replay` admits passes `_state_is_valid`, and unless
its Task is terminal `reduce` accepts a further event in it. -/
theorem replay_run_valid {g : State} {r : Replay} {xs : List Input}
    (hg : replay (.genesis g) [] none = .ok r) (h : Run.exec step g xs = some t) :
    stateIsValid t = true ∧
      ∀ status, t.status = .known status → status.isTerminal = false →
        ∃ x u, step t x = some u := by
  have hs := exec_sound (replay_genesis_nil.mp ⟨r, hg⟩) h
  refine ⟨stateIsValid_iff.mpr hs.valid, ?_⟩
  intro status hstatus hopen
  exact hs.valid.exists_step hstatus hopen

theorem replay_run_valid_spine : ∃ t, Run.exec step (sampleGenesis []) (dispatchSpine 0) = some t ∧
      t.status = .known .executing ∧ stateIsValid t = true ∧ ∃ x u, step t x = some u := by
  obtain ⟨t, ht, hstatus⟩ := exec_of_trusting sampleGenesis_valid
    (p := fun t => t.status = .known .executing) (by decide +kernel :
      (Run.exec stepTrusting _ (dispatchSpine 0)).any _)
  obtain ⟨r, hr⟩ := replay_genesis_nil.mpr sampleGenesis_valid
  obtain ⟨hvalid, hgo⟩ := replay_run_valid hr ht
  exact ⟨t, ht, hstatus, hvalid, hgo _ hstatus rfl⟩

end Valp.Kernel
