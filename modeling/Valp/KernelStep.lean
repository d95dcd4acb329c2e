/-
What one accepted event does.

Every result about runs of the Kernel rests on the inversions of this file, so
that no later proof unfolds `reduce` or one of its branches.

* `reduce_cases` — the three answers of `reduce`;
* `reduce_accepted_iff` — the checks an accepted input has passed (`Admitted`) and
  the Result it gets;
* `branch_cases` — the branch an event takes (`Branch`);
* `ItemMove`, `step_items` — how an accepted event changes the Work Item table:
  row by row, keeping identities, requirements and dependencies;
* `step_status` — how it changes the status of the Task.
-/
import Valp.KernelReplay
import Valp.Table

namespace Valp.Kernel

open Bool (or_eq_true and_eq_true not_eq_true' not_eq_false)
open Option (ite_none_left_eq_some some_inj map_eq_some_iff)

variable {s t : State} {x : Input} {e : Event} {kind : EventKind} {status : TaskStatus}
  {effect : Effect} {w w' : WorkItem}

/-! ### Guards -/

/-- The checks that an accepted input has passed before the branches. -/
structure Admitted (s : State) (x : Input) (status : TaskStatus) (kind : EventKind) : Prop where
  status_eq : s.status = .known status
  kind_eq : x.1.kind = .known kind
  enums : hasUnknownEnum x.1 = false
  input : inputIsValid s x.1 kind x.2 = true
  notStale : attemptEventIsStale s x.1 kind = false
  new : s.acceptedEvents.find? (fun item => item.eventId == x.1.eventId) = none
  task : x.1.taskId = s.taskId
  revision : x.1.expectedRevision = s.revision

/-- **The three answers.**  `reduce` rejects an input with the State unchanged, answers
it from the record of accepted events, or accepts it. -/
theorem reduce_cases (s : State) (x : Input) :
    (∃ code prior, reduce s x.1 x.2 = reject s (inputDigest s x.1 x.2) code prior) ∨
    (∃ status kind prior, s.status = .known status ∧ x.1.kind = .known kind ∧
      hasUnknownEnum x.1 = false ∧ inputIsValid s x.1 kind x.2 ∧
      attemptEventIsStale s x.1 kind = false ∧
      s.acceptedEvents.find? (fun item => item.eventId == x.1.eventId) = some prior ∧
      prior.inputDigest = inputDigest s x.1 x.2 ∧
      reduce s x.1 x.2 = .noOp {
        state := s
        inputDigest := inputDigest s x.1 x.2
        priorResultId := prior.resultId
        priorResultDigest := prior.resultDigest }) ∨
    ∃ status kind effect, Admitted s x status kind ∧
      transition s status x.1 kind = some effect ∧
      reduce s x.1 x.2 = .accepted (acceptedResult s x.1 x.2 effect) := by
  rw [reduce]
  -- one case for each `return` of the source, in its order
  split
  case h_2 => exact Or.inl ⟨_, _, rfl⟩
  case h_1 status kind hst hkind =>
    split
    · exact Or.inl ⟨_, _, rfl⟩
    split
    · exact Or.inl ⟨_, _, rfl⟩
    split
    · exact Or.inl ⟨_, _, rfl⟩
    rename_i henums hin hstale
    split
    · rename_i prior hpr
      split
      · rename_i hdig
        exact Or.inr (Or.inl ⟨status, kind, prior, hst, hkind, by simpa using henums,
          by simpa using hin, by simpa using hstale, hpr, by simpa using hdig, rfl⟩)
      · exact Or.inl ⟨_, _, rfl⟩
    rename_i hnew
    split
    · exact Or.inl ⟨_, _, rfl⟩
    rename_i hbd
    split
    · exact Or.inl ⟨_, _, rfl⟩
    rename_i effect heff
    simp only [or_eq_true, bne_iff_ne, not_or, not_not] at hbd
    exact Or.inr (Or.inr ⟨status, kind, effect, ⟨hst, hkind, by simpa using henums,
      by simpa using hin, by simpa using hstale, hnew, hbd.1, hbd.2⟩, heff, rfl⟩)

/-- **Acceptance.**  An input is accepted when it is admitted and its branch lets
it pass. -/
theorem reduce_accepted_iff {a : Accepted} :
    reduce s x.1 x.2 = .accepted a ↔ ∃ status kind effect, Admitted s x status kind ∧
      transition s status x.1 kind = some effect ∧ a = acceptedResult s x.1 x.2 effect := by
  constructor
  · intro h
    rcases reduce_cases s x with ⟨_, _, hr⟩ | ⟨_, _, _, -, -, -, -, -, -, -, hr⟩ |
      ⟨status, kind, effect, hadm, heff, hr⟩
    · simp [reject, h] at hr
    · simp [h] at hr
    · rw [h, Result.accepted.injEq] at hr
      exact ⟨status, kind, effect, hadm, heff, hr⟩
  · rintro ⟨status, kind, effect, ha, heff, rfl⟩
    simp [reduce, ha.status_eq, ha.kind_eq, ha.enums, ha.input, ha.notStale, ha.new, ha.task,
      ha.revision, heff]

theorem step_iff : step s x = some t ↔ ∃ status kind effect, Admitted s x status kind ∧
      transition s status x.1 kind = some effect ∧ t = nextState s x.1 x.2 effect := by
  simp only [step_eq_some, reduce_accepted_iff]
  constructor
  · rintro ⟨_, ⟨status, kind, effect, hadm, heff, rfl⟩, rfl⟩
    exact ⟨status, kind, effect, hadm, heff, rfl⟩
  · rintro ⟨status, kind, effect, hadm, heff, rfl⟩
    exact ⟨_, ⟨status, kind, effect, hadm, heff, rfl⟩, rfl⟩

theorem Admitted.inputs (h : Admitted s x status kind) :
    StateValid s ∧ eventIsValid x.1 ∧ evidenceSetIsValid x.2 ∧
      x.1.installationId = s.installationId ∧ x.1.leaderEpoch = s.leaderEpoch ∧
      authorityIsValid x.1 kind x.2 := by
  have hin := h.input
  simp only [inputIsValid, and_eq_true, beq_iff_eq, stateIsValid_iff, and_assoc] at hin
  exact hin

theorem Admitted.valid (h : Admitted s x status kind) : StateValid s := h.inputs.1

theorem valid_of_step (h : step s x = some t) : StateValid s := by
  obtain ⟨_, _, _, hadm, -, -⟩ := step_iff.mp h
  exact hadm.valid

/-! ### Branches -/

/-- The events that change one Work Item and leave the Task alone. -/
def EventKind.isItemEvent : EventKind → Bool
  | .workItemEligible | .attemptCreated | .attemptCompleted | .attemptFenced
  | .attemptSubmitted | .attemptRunning | .attemptFailed | .attemptCancelled
  | .workItemPartial | .workItemDegraded | .workItemBlocked | .workItemFailed
  | .workItemCancelled | .workItemSkipped => true
  | _ => false

/-- The events that `reduce` handles by the Task table alone. -/
def EventKind.isTaskEvent : EventKind → Bool
  | .taskCancelled | .suspensionStarted | .wakeAccepted | .interruptRequested
  | .interruptResumed | .redirectAuthorized => false
  | kind => !kind.isItemEvent

/-- What an item event does to the Work Item it names. -/
def workItemBranch (s : State) (e : Event) (kind : EventKind) (w : WorkItem) :
    Option (WorkItem × List String × List String) :=
  match kind with
  | .workItemEligible => workItemEligible s w
  | .attemptCreated => attemptCreated s e w
  | .attemptFenced => attemptFenced e w
  | .attemptSubmitted | .attemptRunning | .attemptCompleted | .attemptFailed
  | .attemptCancelled => attemptAdvanced e kind w
  | _ => workItemMoved s e kind w

/-- The branch of `reduce` an event has taken. -/
inductive Branch (s : State) (status : TaskStatus) (e : Event) : EventKind → Effect → Prop
  | interruptRequested {effect : Effect}
      (h : Kernel.interruptRequested s status e = some effect) :
      Branch s status e .interruptRequested effect
  | interruptResumed {effect : Effect}
      (h : Kernel.interruptResumed s status e = some effect) :
      Branch s status e .interruptResumed effect
  | redirectAuthorized {effect : Effect}
      (h : Kernel.redirectAuthorized s status e = some effect) :
      Branch s status e .redirectAuthorized effect
  | taskCancelled {effect : Effect} (h : Kernel.taskCancelled s status e = some effect) :
      Branch s status e .taskCancelled effect
  | suspensionStarted {effect : Effect}
      (h : Kernel.suspensionStarted s status e = some effect) :
      Branch s status e .suspensionStarted effect
  | wakeAccepted {effect : Effect} (h : Kernel.wakeAccepted s status e = some effect) :
      Branch s status e .wakeAccepted effect
  | item {kind : EventKind} {effect : Effect} (hkind : kind.isItemEvent = true)
      (h : onWorkItem s status e (workItemBranch s e kind) = some effect) :
      Branch s status e kind effect
  | task {kind : EventKind} {effect : Effect} (hkind : kind.isTaskEvent = true)
      (h : taskTransition s status kind = some effect) : Branch s status e kind effect

theorem branch_cases (h : branch s status e kind = some effect) :
    Branch s status e kind effect := by
  cases kind
  case interruptRequested => exact .interruptRequested h
  case interruptResumed => exact .interruptResumed h
  case redirectAuthorized => exact .redirectAuthorized h
  case taskCancelled => exact .taskCancelled h
  case suspensionStarted => exact .suspensionStarted h
  case wakeAccepted => exact .wakeAccepted h
  all_goals first | exact .item rfl h | exact .task rfl h

/-! What each branch asks for, as far as the results about runs need it, and the
effect it has. -/

theorem interruptRequested_spec (h : interruptRequested s status e = some effect) :
    status.isTerminal = false ∧ (∃ i, e.interruptId = some i) ∧ effect.status = status ∧
      effect.workItems = s.workItems ∧ effect.suspension = s.suspension ∧
      effect.control = some {
        intentVersion := (currentControl s).intentVersion
        status := .interrupted
        activeInterruptId := e.interruptId } := by
  simp only [interruptRequested, ite_none_left_eq_some, some_inj, or_eq_true,
    not_or, Bool.not_eq_true, Option.isNone_iff_eq_none] at h
  obtain ⟨⟨⟨⟨⟨⟨⟨⟨hopen, -⟩, hid⟩, -⟩, -⟩, -⟩, -⟩, -⟩, rfl⟩ := h
  exact ⟨hopen, Option.ne_none_iff_exists'.mp hid, rfl, rfl, rfl, rfl⟩

theorem interruptResumed_spec (h : interruptResumed s status e = some effect) :
    effect.status = status ∧ effect.workItems = s.workItems ∧
      effect.suspension = s.suspension ∧ effect.control =
        some { intentVersion := (currentControl s).intentVersion, status := .active } := by
  simp only [interruptResumed, ite_none_left_eq_some, some_inj] at h
  obtain ⟨-, rfl⟩ := h
  exact ⟨rfl, rfl, rfl, rfl⟩

theorem redirectAuthorized_spec (h : redirectAuthorized s status e = some effect) :
    status.isTerminal = false ∧ effect.status = .fixing ∧
      (∃ names, effect.workItems = (cancelItems names s.workItems).1) ∧
      effect.suspension = none ∧ effect.control =
        some { intentVersion := (currentControl s).intentVersion + 1, status := .active } := by
  simp only [redirectAuthorized, ite_none_left_eq_some, some_inj, or_eq_true,
    not_or, Bool.not_eq_true] at h
  obtain ⟨⟨⟨⟨⟨⟨⟨hopen, -⟩, -⟩, -⟩, -⟩, -⟩, -⟩, rfl⟩ := h
  exact ⟨hopen, rfl, ⟨_, rfl⟩, rfl, rfl⟩

theorem taskCancelled_spec (h : taskCancelled s status e = some effect) :
    kernelTaskTransitions status .taskCancelled = some effect.status ∧
      effect.workItems = (cancelItems (fun _ => true) s.workItems).1 ∧
      effect.suspension = none ∧ effect.control =
        some { intentVersion := (currentControl s).intentVersion, status := .active } := by
  simp only [taskCancelled, ite_none_left_eq_some, map_eq_some_iff] at h
  obtain ⟨-, target, htgt, rfl⟩ := h
  exact ⟨htgt, rfl, rfl, rfl⟩

theorem suspensionStarted_spec (h : suspensionStarted s status e = some effect) :
    status = .executing ∧ effect.status = status ∧ effect.workItems = s.workItems ∧
      effect.control = s.control ∧ e.requiredWorkItemIds ≠ [] ∧ e.requiredWorkItemIds.Nodup ∧
      (∀ i ∈ e.requiredWorkItemIds, i ∈ s.workItems.map (·.workItemId)) ∧
      ∃ suspensionId suspensionEpoch waitPolicyId waitPolicyDigest,
        e.suspensionId = some suspensionId ∧ e.suspensionEpoch = some suspensionEpoch ∧
        e.waitPolicyId = some waitPolicyId ∧ e.waitPolicyDigest = some waitPolicyDigest ∧
        effect.suspension = some {
          taskId := s.taskId
          suspensionId := suspensionId
          suspensionEpoch := suspensionEpoch
          status := .waiting
          waitPolicyId := waitPolicyId
          waitPolicyDigest := waitPolicyDigest
          requiredWorkItemIds := e.requiredWorkItemIds } := by
  rw [suspensionStarted] at h
  split at h
  case h_2 => cases h
  case h_1 hsusp hep hpol hdig =>
    simp only [ite_none_left_eq_some, some_inj, or_eq_true, not_or, bne_iff_ne,
      not_not, not_eq_true', not_eq_false, beq_iff_eq, decide_eq_false_iff_not,
      List.all_eq_true, List.contains_iff_mem] at h
    obtain ⟨⟨⟨⟨⟨⟨⟨hexec, hne⟩, hnd⟩, -⟩, -⟩, -⟩, hsubset⟩, rfl⟩ := h
    exact ⟨hexec, rfl, rfl, rfl, hne, hnd, hsubset, _, _, _, _, hsusp, hep, hpol, hdig, rfl⟩

theorem wakeAccepted_spec (h : wakeAccepted s status e = some effect) :
    status = .executing ∧ effect.status = status ∧ effect.workItems = s.workItems ∧
      effect.control = s.control ∧ ∃ current wake, s.suspension = some current ∧
        e.wakeId = some wake ∧ effect.suspension = some { current with
          status := .resumed
          acceptedWakeId := some wake
          wakeReason := some .dependencyReady } := by
  rw [wakeAccepted] at h
  split at h
  case h_1 => cases h
  case h_2 current hcur =>
    simp only [ite_none_left_eq_some, some_inj, or_eq_true, not_or, bne_iff_ne,
      not_not, Option.isNone_iff_eq_none] at h
    obtain ⟨⟨⟨⟨⟨⟨⟨⟨⟨⟨hexec, -⟩, -⟩, -⟩, -⟩, -⟩, -⟩, hwake⟩, -⟩, -⟩, rfl⟩ := h
    obtain ⟨wake, hwake⟩ := Option.ne_none_iff_exists'.mp hwake
    exact ⟨hexec, rfl, rfl, rfl, current, wake, hcur, hwake, by rw [hwake]⟩

theorem taskTransition_spec (h : taskTransition s status kind = some effect) :
    kernelTaskTransitions status kind = some effect.status ∧ effect.workItems = s.workItems ∧
      effect.suspension = s.suspension ∧ effect.control = s.control := by
  simp only [taskTransition, map_eq_some_iff] at h
  obtain ⟨target, htgt, rfl⟩ := h
  exact ⟨htgt, rfl, rfl, rfl⟩

theorem settle_spec {effect' : Effect} (h : settle status kind effect = some effect') :
    effect' = { effect with suspension := effect'.suspension } ∧
      ((effect.status = status ∧ effect'.suspension = effect.suspension) ∨
        (effect.status ≠ status ∧ effect'.suspension = none ∧
          ∀ u, effect.suspension = some u → u.status = .waiting → kind ∈ waitEndingEvents)) := by
  rw [settle] at h
  split at h
  case isFalse hsame =>
    cases h
    exact ⟨rfl, Or.inl ⟨not_not.mp hsame, rfl⟩⟩
  case isTrue hne =>
    -- the status changes: a Suspension is dropped, unless it waits and the event may not
    -- end the wait
    split at h
    case h_1 hnone =>
      cases h
      exact ⟨rfl, Or.inr ⟨hne, hnone, by simp [hnone]⟩⟩
    case h_2 u hu =>
      split_ifs at h with hwait
      cases h
      refine ⟨rfl, Or.inr ⟨hne, rfl, ?_⟩⟩
      intro u' hu' hwaiting
      obtain rfl : u' = u := by rw [hu] at hu'; exact (some_inj.mp hu').symm
      simpa [hwaiting] using hwait

theorem transition_spec (h : transition s status e kind = some effect) :
    ((currentControl s).status = .interrupted → kind ∈ interruptedEvents) ∧
      ∃ before, Branch s status e kind before ∧ settle status kind before = some effect := by
  rw [transition] at h
  split_ifs at h with hctrl
  obtain ⟨before, hbr, hset⟩ := Option.bind_eq_some_iff.mp h
  refine ⟨?_, before, branch_cases hbr, hset⟩
  intro hint
  simpa [hint] using hctrl

/-! ### Moves of one Work Item -/

/-- The Attempt of a cancelled Work Item. -/
def cancelAttempt (a : Attempt) : Attempt :=
  if a.status.isActive then { a with status := .cancelled } else a

theorem cancelledWorkItem_fst (w : WorkItem) :
    (cancelledWorkItem w).1 =
      { w with status := .cancelled, currentAttempt := w.currentAttempt.map cancelAttempt } := by
  rw [cancelledWorkItem]
  cases ha : w.currentAttempt with
  | none => simp
  | some a =>
    by_cases hact : a.status.isActive = true
    · simp [hact, cancelAttempt]
    · simp [hact, cancelAttempt]

/-- One change of a Work Item, with the conditions under which it is accepted. -/
inductive ItemMove (s : State) (e : Event) : EventKind → WorkItem → WorkItem → Prop
  | eligible {w : WorkItem} {facts : List String} (hstatus : w.status = .pending)
      (hdeps : eligibleWorkItem s w = some facts) :
      ItemMove s e .workItemEligible w { w with status := .eligible }
  | created {w : WorkItem} {attemptId dispatchId : Identity} {generation : Int}
      (hattempt : e.attemptId = some attemptId) (hdispatch : e.dispatchId = some dispatchId)
      (hgeneration : e.dispatchGeneration = some generation)
      (hstatus : w.status = .eligible ∨ w.status = .blocked)
      (hretry : ∀ a, w.currentAttempt = some a →
        w.status = .blocked ∧ a.dispatchGeneration < generation ∧ a.attemptId ≠ attemptId) :
      ItemMove s e .attemptCreated w { w with
        status := .submitted
        currentAttempt := some {
          taskId := s.taskId
          workItemId := w.workItemId
          attemptId := attemptId
          dispatchId := dispatchId
          dispatchGeneration := generation } }
  | fenced {w : WorkItem} {a : Attempt} (hcurrent : w.currentAttempt = some a)
      (hactive : a.status.isActive = true) (htuple : a.tuple = e.tuple) :
      ItemMove s e .attemptFenced w
        { w with currentAttempt := some { a with status := .fenced } }
  | advanced {kind : EventKind} {w : WorkItem} {a : Attempt}
      {requiredItem : Option WorkItemStatus} {requiredAttempt : Option AttemptStatus}
      {nextItem : WorkItemStatus} {nextAttempt : AttemptStatus}
      (htable : attemptTransitions kind =
        some (requiredItem, requiredAttempt, nextItem, nextAttempt))
      (hcurrent : w.currentAttempt = some a) (htuple : a.tuple = e.tuple)
      (hitem : w.status = .submitted ∨ w.status = .running)
      (hactive : a.status.isActive = true)
      (hrequiredItem : ∀ required, requiredItem = some required → w.status = required)
      (hrequiredAttempt : ∀ required, requiredAttempt = some required → a.status = required) :
      ItemMove s e kind w { w with
        status := nextItem
        currentAttempt := some { a with status := nextAttempt } }
  | moved {kind : EventKind} {w : WorkItem} {allowed : List WorkItemStatus}
      {target : WorkItemStatus} (htable : workItemMoves kind = some (allowed, target))
      (hallowed : w.status ∈ allowed) (hcancel : kind ≠ .workItemCancelled)
      (hskip : kind = .workItemSkipped → w.requirement ≠ .required) :
      ItemMove s e kind w { w with status := target }
  | cancelled {kind : EventKind} {w : WorkItem}
      (hkind : kind = .workItemCancelled ∨ kind = .redirectAuthorized ∨ kind = .taskCancelled)
      (hopen : w.status.isTerminal = false) :
      ItemMove s e kind w (cancelledWorkItem w).1

theorem ItemMove.frame (h : ItemMove s e kind w w') :
    w'.taskId = w.taskId ∧ w'.workItemId = w.workItemId ∧ w'.requirement = w.requirement ∧
      w'.dependencies = w.dependencies := by
  cases h
  case cancelled => simp [cancelledWorkItem_fst]
  all_goals exact ⟨rfl, rfl, rfl, rfl⟩

theorem ItemMove.status_of_terminal (h : ItemMove s e kind w w')
    (hw : w.status.isTerminal) : w'.status = w.status := by
  cases h with
  | eligible hst => simp [hst, WorkItemStatus.isTerminal] at hw
  | created _ _ _ hst =>
    rcases hst with hst | hst <;> simp [hst, WorkItemStatus.isTerminal] at hw
  | fenced => rfl
  | advanced _ _ _ hitem =>
    rcases hitem with hitem | hitem <;> simp [hitem, WorkItemStatus.isTerminal] at hw
  | moved htab hallow =>
    -- no row of the table starts at a terminal status
    exfalso
    unfold workItemMoves at htab
    split at htab <;> first
      | (obtain ⟨rfl, rfl⟩ : _ ∧ _ := by simpa using htab
         revert hw hallow
         cases w.status <;> simp [WorkItemStatus.isTerminal])
      | cases htab
  | cancelled _ hopen => simp [hopen] at hw

/-- What an accepted `ATTEMPT_CREATED` asks for, and the Attempt it installs. -/
theorem ItemMove.of_created (h : ItemMove s e .attemptCreated w w') :
    (w.status = .eligible ∨ w.status = .blocked) ∧
      ∃ b, w'.currentAttempt = some b ∧ b.tuple = e.tuple ∧
        ∀ a, w.currentAttempt = some a → w.status = .blocked ∧
          a.dispatchGeneration < b.dispatchGeneration ∧ a.attemptId ≠ b.attemptId := by
  cases h with
  | created hatt hdisp hgen hst hrt =>
    refine ⟨hst, _, rfl, ?_, hrt⟩
    simp [Attempt.tuple, Event.tuple, hatt, hdisp, hgen]
  | advanced htab => cases htab
  | moved htab => cases htab
  | cancelled hkind => rcases hkind with hkind | hkind | hkind <;> cases hkind

/-- What an item event emits: the cancellation of an item or of its Attempt asks the
adapter. -/
def itemObligations (kind : EventKind) (w : WorkItem) : List String :=
  if kind = .attemptCancelled ∨ kind = .workItemCancelled then (cancelledWorkItem w).2 else []

variable {r : WorkItem × List String × List String}

theorem workItemEligible_move (h : workItemEligible s w = some r) :
    ItemMove s e .workItemEligible w r.1 ∧ r.2.1 = itemObligations .workItemEligible w := by
  rw [workItemEligible] at h
  split at h
  case h_1 => cases h
  case h_2 facts hfacts =>
    split_ifs at h with hst
    cases h
    exact ⟨.eligible (by simpa using hst) hfacts, rfl⟩

theorem attemptCreated_move (h : attemptCreated s e w = some r) :
    ItemMove s e .attemptCreated w r.1 ∧ r.2.1 = itemObligations .attemptCreated w := by
  simp only [attemptCreated] at h
  split at h
  case h_2 => cases h
  case h_1 attemptId dispatchId generation hatt hdisp hgeneration =>
    split at h
    case isTrue => cases h
    case isFalse hgd =>
      cases h
      simp only [or_eq_true, not_eq_true', and_eq_true, Bool.or_eq_false_iff,
        beq_eq_false_iff_ne, not_or, not_and, beq_iff_eq] at hgd
      -- a current Attempt makes the event a retry, which the last two guards are about
      obtain ⟨⟨⟨hst, hfree⟩, hgen⟩, hid⟩ := hgd
      refine ⟨.created hatt hdisp hgeneration ?_ ?_, rfl⟩
      · exact or_iff_not_imp_left.mpr fun hne => not_not.mp (hst hne)
      · intro a ha
        have hblk : w.status = .blocked := by
          by_contra hne
          exact hfree (by simp [ha]) (by simp [hne])
        have hrt : w.status = .blocked ∧ w.currentAttempt.isSome :=
          ⟨hblk, by simp [ha]⟩
        have hgen' := hgen hrt
        have hid' := hid hrt
        rw [ha] at hgen' hid'
        refine ⟨hblk, ?_, by simpa using hid'⟩
        simpa using hgen'

theorem attemptFenced_move (h : attemptFenced e w = some r) :
    ItemMove s e .attemptFenced w r.1 ∧ r.2.1 = itemObligations .attemptFenced w := by
  rw [attemptFenced] at h
  split at h
  case h_1 => cases h
  case h_2 a ha =>
    split at h
    case isTrue => cases h
    case isFalse hgd =>
      cases h
      simp only [or_eq_true, not_eq_true', not_or, not_eq_false, bne_iff_ne, not_not] at hgd
      exact ⟨.fenced ha hgd.1 hgd.2, rfl⟩

/-- Every attempt event asks for a submitted or running Work Item and an active
Attempt: the table does for three of them, a guard of its own for the others. -/
theorem attemptTransitions_source {requiredItem : Option WorkItemStatus}
    {requiredAttempt : Option AttemptStatus} {nextItem : WorkItemStatus}
    {nextAttempt : AttemptStatus} {item : WorkItemStatus} {attempt : AttemptStatus}
    (htab : attemptTransitions kind = some (requiredItem, requiredAttempt, nextItem, nextAttempt))
    (hitem : ∀ required, requiredItem = some required → item = required)
    (hatt : ∀ required, requiredAttempt = some required → attempt = required)
    (hgd : kind = .attemptFailed ∨ kind = .attemptCancelled →
      (item = .submitted ∨ item = .running) ∧ attempt.isActive) :
    (item = .submitted ∨ item = .running) ∧ attempt.isActive := by
  unfold attemptTransitions at htab
  split at htab
  case h_1 | h_2 | h_3 =>
    obtain ⟨rfl, rfl, -, -⟩ : _ ∧ _ ∧ _ ∧ _ := by simpa using htab
    obtain rfl := hitem _ rfl
    obtain rfl := hatt _ rfl
    exact ⟨by simp, rfl⟩
  case h_4 => exact hgd (Or.inl rfl)
  case h_5 => exact hgd (Or.inr rfl)
  case h_6 => cases htab

theorem attemptAdvanced_move (h : attemptAdvanced e kind w = some r) :
    ItemMove s e kind w r.1 ∧ r.2.1 = itemObligations kind w := by
  rw [attemptAdvanced] at h
  split at h
  case isTrue => cases h
  case isFalse =>
    split at h
    case h_2 => cases h
    case h_1 a requiredItem requiredAttempt nextItem nextAttempt ha htab =>
      split at h
      case isTrue => cases h
      case isFalse hgd =>
        cases h
        simp only [or_eq_true, not_or, bne_iff_ne, not_not, and_eq_true, not_and,
          Option.any_eq_true, not_exists, beq_iff_eq, not_eq_true', Bool.or_eq_false_iff,
          beq_eq_false_iff_ne, not_eq_false] at hgd
        -- `None` in the table means that its row does not restrict the status
        obtain ⟨⟨⟨⟨-, htup⟩, hitem⟩, hatt⟩, hend⟩ := hgd
        have hsrc := attemptTransitions_source htab hitem hatt (by
          intro hkind
          obtain ⟨hst, hact⟩ := hend hkind
          exact ⟨or_iff_not_imp_left.mpr hst, hact⟩)
        refine ⟨.advanced htab ha htup hsrc.1 hsrc.2 hitem hatt, ?_⟩
        by_cases hkind : kind = .attemptCancelled
        · simp [itemObligations, cancelledWorkItem, hkind, ha, hsrc.2]
        · have hitem : kind ≠ .workItemCancelled := by rintro rfl; cases htab
          simp [itemObligations, hkind, hitem]

theorem workItemMoved_move (h : workItemMoved s e kind w = some r) :
    ItemMove s e kind w r.1 ∧ r.2.1 = itemObligations kind w := by
  rw [workItemMoved] at h
  split at h
  case isTrue => cases h
  case isFalse =>
    split at h
    case h_1 => cases h
    case h_2 allowed target htab =>
      split at h
      case isTrue => cases h
      case isFalse hgd =>
        simp only [or_eq_true, not_eq_true', not_or, not_eq_false,
          List.contains_iff_mem, and_eq_true, not_and, beq_iff_eq] at hgd
        obtain ⟨hallow, hskip⟩ := hgd
        split at h
        case isTrue hcan =>
          -- cancellation also cancels the Attempt, so it is a move of its own
          obtain rfl : kind = .workItemCancelled := by simpa using hcan
          cases h
          obtain ⟨rfl, rfl⟩ : _ ∧ _ := by simpa [workItemMoves] using htab
          refine ⟨.cancelled (Or.inl rfl) ?_, by simp [itemObligations]⟩
          revert hallow
          cases w.status <;> simp [WorkItemStatus.isTerminal]
        case isFalse hcan =>
          cases h
          have hatt : kind ≠ .attemptCancelled := by rintro rfl; cases htab
          have hitem : kind ≠ .workItemCancelled := by simpa using hcan
          refine ⟨.moved htab hallow hitem fun hk => (hskip hk).1, ?_⟩
          simp [itemObligations, hatt, hitem]

/-- What an item event does to its item, and what it emits. -/
theorem workItemBranch_move (h : workItemBranch s e kind w = some r) :
    ItemMove s e kind w r.1 ∧ r.2.1 = itemObligations kind w := by
  cases kind
  case workItemEligible => exact workItemEligible_move h
  case attemptCreated => exact attemptCreated_move h
  case attemptFenced => exact attemptFenced_move h
  case attemptSubmitted | attemptRunning | attemptCompleted | attemptFailed |
      attemptCancelled => exact attemptAdvanced_move h
  all_goals exact workItemMoved_move h

/-! ### The Work Item table -/

/-- The Work Item with the identity `id`. -/
def State.item? (s : State) (id : Identity) : Option WorkItem :=
  Table.get (·.workItemId) s.workItems id

theorem StateValid.mem_iff_item? (hs : StateValid s) :
    w ∈ s.workItems ↔ s.item? w.workItemId = some w :=
  Table.mem_iff_get hs.itemIds

theorem StateValid.itemById_eq (hs : StateValid s) (id : Identity) :
    itemById s.workItems id = s.item? id :=
  Table.get_reverse hs.itemIds id

/-- A move of a Work Item, which an item event makes only on the item it names. -/
structure Moved (s : State) (e : Event) (kind : EventKind) (w w' : WorkItem) : Prop where
  move : ItemMove s e kind w w'
  named : kind.isItemEvent = true → e.workItemId = some w.workItemId

/-- The table `items` is the table of `s`, changed row by row with `f`. -/
structure ItemsMove (s : State) (e : Event) (kind : EventKind) (items : List WorkItem)
    (f : WorkItem → WorkItem) : Prop where
  rows : items = s.workItems.map f
  key : ∀ w, (f w).workItemId = w.workItemId
  move : ∀ w ∈ s.workItems, f w = w ∨ Moved s e kind w (f w)
  named : kind.isItemEvent = true → ∃ w ∈ s.workItems, Moved s e kind w (f w)

theorem ItemsMove.refl (hkind : kind.isItemEvent = false) :
    ItemsMove s e kind s.workItems id where
  rows := (List.map_id _).symm
  key _ := rfl
  move _ _ := Or.inl rfl
  named h := by simp [hkind] at h

theorem cancelItems_fst (names : WorkItem → Bool) (items : List WorkItem) :
    (cancelItems names items).1 = items.map fun w =>
      if names w && !w.status.isTerminal then (cancelledWorkItem w).1 else w := by
  induction items with
  | nil => rfl
  | cons w items ih =>
    rw [cancelItems, List.map_cons, ← ih]
    split <;> rfl

theorem cancelItems_move (names : WorkItem → Bool)
    (hkind : kind = .redirectAuthorized ∨ kind = .taskCancelled) :
    ∃ f, ItemsMove s e kind (cancelItems names s.workItems).1 f := by
  have hitem : kind.isItemEvent = false := by
    rcases hkind with rfl | rfl <;> rfl
  refine ⟨_, cancelItems_fst names s.workItems, ?_, ?_, ?_⟩
  · intro w
    split
    · simp [cancelledWorkItem_fst]
    · rfl
  · intro w _
    by_cases hcan : (names w && !w.status.isTerminal) = true
    · rw [if_pos hcan]
      rw [and_eq_true, not_eq_true'] at hcan
      exact Or.inr ⟨.cancelled (Or.inr hkind) hcan.2, by simp [hitem]⟩
    · rw [if_neg hcan]
      exact Or.inl rfl
  · simp [hitem]

/-- The branches that change one Work Item replace the row they name. -/
theorem onWorkItem_spec (hs : StateValid s)
    {move : WorkItem → Option (WorkItem × List String × List String)}
    (h : onWorkItem s status e move = some effect) :
    ∃ w ∈ s.workItems, ∃ r, e.workItemId = some w.workItemId ∧ move w = some r ∧
      effect = {
        status := status
        workItems := s.workItems.map fun v => if v.workItemId = w.workItemId then r.1 else v
        suspension := s.suspension
        control := s.control
        obligations := r.2.1
        auditFacts := r.2.2 } := by
  simp only [onWorkItem, Option.bind_eq_bind, Option.bind_eq_some_iff] at h
  obtain ⟨i, hi, w, hw, r, hr, heff⟩ := h
  -- the row was found by the identity that the event names
  have hnamed : e.workItemId = some w.workItemId := by
    obtain ⟨hlt, hfst, -⟩ := List.findIdx?_eq_some_iff_getElem.mp hi
    rw [List.getElem?_eq_getElem hlt, some_inj] at hw
    rw [hw] at hfst
    exact (beq_iff_eq.mp hfst).symm
  refine ⟨w, List.mem_of_getElem? hw, r, hnamed, hr, ?_⟩
  rw [← some_inj.mp heff, spliceAt, Table.splice_eq_map hs.itemIds r.1 hw]

/-- **Every branch changes the table row by row.** -/
theorem Branch.itemsMove (hs : StateValid s) (h : Branch s status e kind effect) :
    ∃ f, ItemsMove s e kind effect.workItems f := by
  cases h with
  | interruptRequested h =>
    rw [(interruptRequested_spec h).2.2.2.1]
    exact ⟨id, .refl rfl⟩
  | interruptResumed h =>
    rw [(interruptResumed_spec h).2.1]
    exact ⟨id, .refl rfl⟩
  | redirectAuthorized h =>
    obtain ⟨-, -, ⟨names, hitems⟩, -⟩ := redirectAuthorized_spec h
    rw [hitems]
    exact cancelItems_move names (Or.inl rfl)
  | taskCancelled h =>
    rw [(taskCancelled_spec h).2.1]
    exact cancelItems_move _ (Or.inr rfl)
  | suspensionStarted h =>
    rw [(suspensionStarted_spec h).2.2.1]
    exact ⟨id, .refl rfl⟩
  | wakeAccepted h =>
    rw [(wakeAccepted_spec h).2.2.1]
    exact ⟨id, .refl rfl⟩
  | item hkind h =>
    obtain ⟨w, hw, r, hnamed, hr, rfl⟩ := onWorkItem_spec hs h
    have hmove : Moved s e kind w r.1 := ⟨(workItemBranch_move hr).1, fun _ => hnamed⟩
    refine ⟨_, rfl, ?_, ?_, ?_⟩
    · intro v
      by_cases hv : v.workItemId = w.workItemId
      · rw [if_pos hv, hmove.move.frame.2.1, hv]
      · rw [if_neg hv]
    · intro v hv
      by_cases hvw : v.workItemId = w.workItemId
      · -- identities are distinct, so this row is the one the event names
        obtain rfl := List.inj_on_of_nodup_map hs.itemIds hv hw hvw
        rw [if_pos rfl]
        exact Or.inr hmove
      · exact Or.inl (if_neg hvw)
    · intro _
      refine ⟨w, hw, ?_⟩
      rw [if_pos rfl]
      exact hmove
  | task hkind h =>
    rw [(taskTransition_spec h).2.1]
    refine ⟨id, .refl ?_⟩
    cases kind <;> first | rfl | cases hkind

/-! ### The status of the Task -/

/-- How an event may change the status of the Task. -/
inductive StatusMove (status : TaskStatus) : EventKind → TaskStatus → Prop
  | item {kind : EventKind} (hkind : kind.isItemEvent = true) : StatusMove status kind status
  | interrupted (hopen : status.isTerminal = false) :
      StatusMove status .interruptRequested status
  | resumed : StatusMove status .interruptResumed status
  | suspended (hexec : status = .executing) : StatusMove status .suspensionStarted status
  | woken (hexec : status = .executing) : StatusMove status .wakeAccepted status
  | redirected (hopen : status.isTerminal = false) :
      StatusMove status .redirectAuthorized .fixing
  | edge {kind : EventKind} {target : TaskStatus}
      (hkind : kind.isTaskEvent = true ∨ kind = .taskCancelled)
      (hedge : kernelTaskTransitions status kind = some target) : StatusMove status kind target

theorem Branch.statusMove (hs : StateValid s) (h : Branch s status e kind effect) :
    StatusMove status kind effect.status := by
  cases h with
  | interruptRequested h =>
    obtain ⟨hopen, -, hst, -⟩ := interruptRequested_spec h
    rw [hst]
    exact .interrupted hopen
  | interruptResumed h =>
    rw [(interruptResumed_spec h).1]
    exact .resumed
  | redirectAuthorized h =>
    obtain ⟨hopen, hst, -⟩ := redirectAuthorized_spec h
    rw [hst]
    exact .redirected hopen
  | taskCancelled h => exact .edge (Or.inr rfl) (taskCancelled_spec h).1
  | suspensionStarted h =>
    obtain ⟨hexec, hst, -⟩ := suspensionStarted_spec h
    rw [hst]
    exact .suspended hexec
  | wakeAccepted h =>
    obtain ⟨hexec, hst, -⟩ := wakeAccepted_spec h
    rw [hst]
    exact .woken hexec
  | item hkind h =>
    obtain ⟨w, -, r, -, -, rfl⟩ := onWorkItem_spec hs h
    exact .item hkind
  | task hkind h => exact .edge (Or.inl hkind) (taskTransition_spec h).1

/-! ### Steps -/

/-- **One step**: the checks it passed, the branch it took, and the State it built. -/
theorem step_cases (h : step s x = some t) :
    ∃ status kind before effect, Admitted s x status kind ∧
      ((currentControl s).status = .interrupted → kind ∈ interruptedEvents) ∧
      Branch s status x.1 kind before ∧ settle status kind before = some effect ∧
      t = nextState s x.1 x.2 effect := by
  obtain ⟨status, kind, effect, hadm, heff, rfl⟩ := step_iff.mp h
  obtain ⟨hctrl, before, hbr, hset⟩ := transition_spec heff
  exact ⟨status, kind, before, effect, hadm, hctrl, hbr, hset, rfl⟩

theorem step_known (h : step s x = some t) :
    ∃ status kind, s.status = .known status ∧ x.1.kind = .known kind := by
  obtain ⟨status, kind, _, hadm, -, -⟩ := step_iff.mp h
  exact ⟨status, kind, hadm.status_eq, hadm.kind_eq⟩

theorem Admitted.kind_unique {kind' : EventKind} (h : Admitted s x status kind)
    (hk : x.1.kind = .known kind') : kind = kind' := by
  have heq := h.kind_eq.symm.trans hk
  simpa using heq

theorem step_items (h : step s x = some t) (hk : x.1.kind = .known kind) :
    ∃ f, ItemsMove s x.1 kind t.workItems f := by
  obtain ⟨status, kind', before, effect, hadm, -, hbr, hset, rfl⟩ := step_cases h
  obtain rfl := hadm.kind_unique hk
  obtain ⟨f, hf⟩ := hbr.itemsMove hadm.valid
  refine ⟨f, ?_⟩
  rwa [show (nextState s x.1 x.2 effect).workItems = before.workItems by
    rw [(settle_spec hset).1]; rfl]

theorem step_status (h : step s x = some t) (hs : s.status = .known status)
    (hk : x.1.kind = .known kind) :
    ∃ target, t.status = .known target ∧ StatusMove status kind target := by
  obtain ⟨status', kind', before, effect, hadm, -, hbr, hset, rfl⟩ := step_cases h
  obtain rfl := hadm.kind_unique hk
  cases hadm.status_eq.symm.trans hs
  refine ⟨before.status, ?_, hbr.statusMove hadm.valid⟩
  rw [(settle_spec hset).1]
  rfl

variable {id : Identity} {f : WorkItem → WorkItem}

theorem ItemsMove.item? (h : ItemsMove s e kind t.workItems f) (id : Identity) :
    t.item? id = (s.item? id).map f := by
  rw [State.item?, h.rows, Table.get_map h.key]
  rfl

section

variable (h : step s x = some t)

include h

section

variable (hk : x.1.kind = .known kind)
include hk

theorem step_item (hw : s.item? id = some w) :
    ∃ w', t.item? id = some w' ∧ (w' = w ∨ Moved s x.1 kind w w') := by
  obtain ⟨f, hf⟩ := step_items h hk
  exact ⟨f w, by rw [hf.item?, hw]; rfl, hf.move w (Table.mem_of_get hw)⟩

theorem step_item_of (hw' : t.item? id = some w') :
    ∃ w, s.item? id = some w ∧ (w' = w ∨ Moved s x.1 kind w w') := by
  obtain ⟨f, hf⟩ := step_items h hk
  rw [hf.item?, map_eq_some_iff] at hw'
  obtain ⟨w, hw, rfl⟩ := hw'
  exact ⟨w, hw, hf.move w (Table.mem_of_get hw)⟩

theorem step_named (hitem : kind.isItemEvent) :
    ∃ id w w', x.1.workItemId = some id ∧ s.item? id = some w ∧ t.item? id = some w' ∧
      ItemMove s x.1 kind w w' := by
  obtain ⟨f, hf⟩ := step_items h hk
  obtain ⟨w, hw, hmov⟩ := hf.named hitem
  have hw := (valid_of_step h).mem_iff_item?.mp hw
  exact ⟨w.workItemId, w, f w, hmov.named hitem, hw, by rw [hf.item?, hw]; rfl, hmov.move⟩

theorem step_unnamed
    (hitem : kind.isItemEvent) (hid : x.1.workItemId ≠ some id) :
    t.item? id = s.item? id := by
  obtain ⟨f, hf⟩ := step_items h hk
  rw [hf.item?]
  cases hw : s.item? id with
  | none => rfl
  | some w =>
    have hkey : w.workItemId = id := Table.key_of_get hw
    rcases hf.move w (Table.mem_of_get hw) with hsame | hmov
    · rw [Option.map_some, hsame]
    · -- a moved row would be the one that the event names
      rw [hmov.named hitem, hkey] at hid
      exact absurd rfl hid

/-- A plain Task transition is refused while the Task is interrupted, and while a
wait is outstanding unless the event is one that may end it. -/
theorem step_calm
    (htask : kind.isTaskEvent) (hmov : t.status ≠ s.status)
    (hctrl : kind ∉ interruptedEvents) (hwait : kind ∉ waitEndingEvents) :
    (currentControl s).status ≠ .interrupted ∧
      ∀ u, s.suspension = some u → u.status ≠ .waiting := by
  obtain ⟨status, kind', before, effect, hadm, hint, hbr, hset, rfl⟩ := step_cases h
  obtain rfl := hadm.kind_unique hk
  refine ⟨fun hi => hctrl (hint hi), ?_⟩
  -- the branch kept the Suspension, so `settle` has seen the one of `s`
  have hsame : before.suspension = s.suspension := by
    cases hbr
    case item _ h =>
      obtain ⟨w, -, r, -, -, rfl⟩ := onWorkItem_spec hadm.valid h
      rfl
    case task _ h => exact (taskTransition_spec h).2.2.1
    all_goals cases htask
  intro u hu hwaiting
  obtain ⟨heff, ⟨hstay, -⟩ | ⟨-, -, hends⟩⟩ := settle_spec hset
  · refine hmov ?_
    rw [hadm.status_eq, ← hstay, heff]
    rfl
  · exact hwait (hends u (by rw [hsame, hu]) hwaiting)

end

end

end Valp.Kernel
