/-
The Kernel reducer `reduce` (`valp_cli/protocol_kernel.py`).

`reduce state event evidence` checks the input, decides staleness, looks for a
duplicate, and then branches on the kind of the event.  Each branch of the
source is a definition of its own that returns what the event does to the State
(an `Effect`), or `none` where the source returns `_reject(…,
STATE_CONFLICT_ERROR)`.  `settle` is the code after the branches that clears the
Suspension when the Task leaves its status, and `nextState` builds the State of
the accepted Result.
-/
import Valp.KernelValidate

namespace Valp.Kernel

/-- The Task statuses without outgoing edges. -/
def TaskStatus.isTerminal : TaskStatus → Bool
  | .done | .failed | .cancelled => true
  | _ => false

/-- `KERNEL_TASK_TRANSITIONS.get((status, kind))`. -/
def kernelTaskTransitions : TaskStatus → EventKind → Option TaskStatus
  | .published, .routingValidationStarted => some .routingValidation
  | .routingValidation, .routingValidationPassed => some .dispatching
  | .dispatching, .dispatchAccepted => some .executing
  | .executing, .workCompleted => some .verifying
  | .verifying, .verificationPassed => some .reviewing
  | .verifying, .verificationFailed => some .fixing
  | .reviewing, .reviewPassed => some .recording
  | .reviewing, .reviewRejected => some .fixing
  | .reviewing, .approvalRequiredRaised => some .approvalRequired
  | .fixing, .fixDispatchRequested => some .dispatching
  | .approvalRequired, .approvalGranted => some .recording
  | .approvalRequired, .approvalDenied => some .fixing
  | .recording, .recordingCompleted => some .done
  | .executing, .taskBlocked => some .blocked
  | .verifying, .taskBlocked => some .blocked
  | .reviewing, .taskBlocked => some .blocked
  | .fixing, .taskBlocked => some .blocked
  | .blocked, .blockedRecoveryToFixing => some .fixing
  | status, .taskFailed => if status.isTerminal then none else some .failed
  | status, .taskCancelled => if status.isTerminal then none else some .cancelled
  | _, _ => none

/-! ### Helpers of the branches -/

/-- `.value` of an identity that an earlier check has found present. -/
def valueOf (i : Option Identity) : String := i.elim "" (·.value)

/-- `{item.work_item_id: item for item in items}.get(id)`: the last item wins. -/
def itemById (items : List WorkItem) (id : Identity) : Option WorkItem :=
  items.reverse.find? fun item => item.workItemId == id

def adapterCancelObligation (attempt : Attempt) : String :=
  "adapter_cancel:" ++ canonicalJson (.record [
    ("task_id", some (.str attempt.taskId.value)),
    ("work_item_id", some (.str attempt.workItemId.value)),
    ("attempt_id", some (.str attempt.attemptId.value)),
    ("dispatch_id", some (.str attempt.dispatchId.value)),
    ("dispatch_generation", some (.int attempt.dispatchGeneration))])

/-- The Attempt statuses from which execution can still end. -/
def AttemptStatus.isActive : AttemptStatus → Bool
  | .created | .submitted | .running => true
  | _ => false

/-- The Attempt statuses in which an Adapter may be executing. -/
def AttemptStatus.isExecuting : AttemptStatus → Bool
  | .submitted | .running => true
  | _ => false

/-- The `terminal_work_items` of the source. -/
def WorkItemStatus.isTerminal : WorkItemStatus → Bool
  | .completed | .partial_ | .degraded | .failed | .cancelled | .skipped => true
  | _ => false

def cancelledWorkItem (item : WorkItem) : WorkItem × List String :=
  match item.currentAttempt with
  | some attempt =>
    if attempt.status.isActive then
      ({ item with
          status := .cancelled
          currentAttempt := some { attempt with status := .cancelled } },
        if attempt.status.isExecuting then [adapterCancelObligation attempt] else [])
    else ({ item with status := .cancelled }, [])
  | none => ({ item with status := .cancelled }, [])

/-- The loop of `REDIRECT_AUTHORIZED` and `TASK_CANCELLED` over the Work Items:
every non-terminal item the event names is cancelled. -/
def cancelItems (names : WorkItem → Bool) : List WorkItem → List WorkItem × List String
  | [] => ([], [])
  | item :: items =>
    let rest := cancelItems names items
    if names item && !item.status.isTerminal then
      ((cancelledWorkItem item).1 :: rest.1, (cancelledWorkItem item).2 ++ rest.2)
    else (item :: rest.1, rest.2)

/-- `_input_digest`, before hashing. -/
def inputPayload (state : State) (event : Event) (evidenceSet : List Evidence) : Json :=
  .record [
    ("protocol_version", some (.str state.protocolVersion)),
    ("event", some event.canonical),
    ("evidence_set", some (.arr (canonicalEvidence evidenceSet)))]

def inputDigest (state : State) (event : Event) (evidenceSet : List Evidence) : String :=
  digest (inputPayload state event evidenceSet)

/-- The loop of `_eligible_work_item` over the dependencies: the audit facts, or
`none` where the source returns `False, ()`. -/
def eligibleDependencies (state : State) (item : WorkItem) :
    List Dependency → Option (List String)
  | [] => some []
  | dependency :: rest =>
    match itemById state.workItems dependency.workItemId with
    | none => none
    | some target =>
      if dependency.requirement == .required then
        if target.status != .completed then none else eligibleDependencies state item rest
      else if dependency.requirement == .soft && target.status != .completed then
        (eligibleDependencies state item rest).map fun facts =>
          ("soft_dependency_unmet:" ++ item.workItemId.value ++ ":" ++ target.workItemId.value)
            :: facts
      else eligibleDependencies state item rest

def eligibleWorkItem (state : State) (item : WorkItem) : Option (List String) :=
  eligibleDependencies state item item.dependencies

def attemptScopedEvents : List EventKind :=
  [.attemptCreated, .attemptSubmitted, .attemptRunning, .attemptCompleted, .attemptFailed,
    .attemptCancelled, .attemptFenced]

/-- `(attempt_id, dispatch_id, dispatch_generation)` of an Event. -/
def Event.tuple (event : Event) : Option Identity × Option Identity × Option Int :=
  (event.attemptId, event.dispatchId, event.dispatchGeneration)

/-- `(attempt_id, dispatch_id, dispatch_generation)` of an Attempt. -/
def Attempt.tuple (attempt : Attempt) : Option Identity × Option Identity × Option Int :=
  (some attempt.attemptId, some attempt.dispatchId, some attempt.dispatchGeneration)

/-- `_attempt_event_is_stale`, for an event of a known kind. -/
def attemptEventIsStale (state : State) (event : Event) (kind : EventKind) : Bool :=
  if !attemptScopedEvents.contains kind then false
  else
    match state.workItems.find? fun item => some item.workItemId == event.workItemId with
    | none => true
    | some item =>
      match item.currentAttempt with
      | none => kind != .attemptCreated
      | some attempt =>
        if kind == .attemptCreated then
          if event.tuple == attempt.tuple then false
          else !(item.status == .blocked && event.attemptId != some attempt.attemptId &&
            event.dispatchGeneration.any fun g => decide (attempt.dispatchGeneration < g))
        else event.tuple != attempt.tuple || attempt.status == .fenced

/-! ### The branches -/

/-- What an event does: the local variables of `reduce` after the branches. -/
structure Effect where
  status : TaskStatus
  workItems : List WorkItem
  suspension : Option Suspension
  control : Option ControlState
  obligations : List String := []
  auditFacts : List String := []

section

variable (state : State)

/-- `control or ControlState(0, ControlStatus.ACTIVE)`. -/
def currentControl : ControlState :=
  state.control.getD { intentVersion := 0, status := .active }

variable (status : TaskStatus) (event : Event)

def interruptRequested : Option Effect :=
  let current := currentControl state
  if status.isTerminal || current.status != .active || event.interruptId.isNone ||
      event.intentVersion != some current.intentVersion || event.redirectId.isSome ||
      event.nextIntentVersion.isSome || event.cancellationScope.isSome ||
      event.supersededWorkItemIds != [] then none
  else some {
    status := status
    workItems := state.workItems
    suspension := state.suspension
    control := some {
      intentVersion := current.intentVersion
      status := .interrupted
      activeInterruptId := event.interruptId }
    auditFacts := ["interrupted:" ++ valueOf event.interruptId ++ ":" ++
      valueOf event.authorityPrincipalId] }

def interruptResumed : Option Effect :=
  let current := currentControl state
  if current.status != .interrupted || event.interruptId != current.activeInterruptId ||
      event.intentVersion != some current.intentVersion || event.redirectId.isSome ||
      event.nextIntentVersion.isSome || event.cancellationScope.isSome ||
      event.supersededWorkItemIds != [] then none
  else some {
    status := status
    workItems := state.workItems
    suspension := state.suspension
    control := some { intentVersion := current.intentVersion, status := .active }
    auditFacts := ["interrupt_resumed:" ++ valueOf event.interruptId ++ ":" ++
      valueOf event.authorityPrincipalId] }

def redirectAuthorized : Option Effect :=
  let current := currentControl state
  if status.isTerminal || event.redirectId.isNone || event.interruptId.isSome ||
      event.intentVersion != some current.intentVersion ||
      event.nextIntentVersion != some (current.intentVersion + 1) ||
      event.cancellationScope.isSome ||
      event.supersededWorkItemIds.any (fun id => (itemById state.workItems id).isNone) then none
  else
    let cancelled := cancelItems
      (fun item => event.supersededWorkItemIds.contains item.workItemId) state.workItems
    some {
      status := .fixing
      workItems := cancelled.1
      suspension := none
      -- the guard has bound `next_intent_version` to this value
      control := some { intentVersion := current.intentVersion + 1, status := .active }
      obligations := cancelled.2
      auditFacts := [
        "redirected:" ++ valueOf event.redirectId ++ ":" ++ toString current.intentVersion ++
          ":" ++ toString (current.intentVersion + 1),
        "redirect_authority:" ++ valueOf event.authorityPrincipalId] }

def taskCancelled : Option Effect :=
  if event.cancellationScope != some (.known .task) || event.workItemId.isSome ||
      event.attemptId.isSome || event.dispatchId.isSome || event.dispatchGeneration.isSome ||
      event.interruptId.isSome || event.redirectId.isSome || event.intentVersion.isSome ||
      event.nextIntentVersion.isSome || event.supersededWorkItemIds != [] ||
      event.suspensionEpoch != state.suspension.map (·.suspensionEpoch) then none
  else
    let cancelled := cancelItems (fun _ => true) state.workItems
    (kernelTaskTransitions status .taskCancelled).map fun target => {
      status := target
      workItems := cancelled.1
      suspension := none
      control := some { intentVersion := (currentControl state).intentVersion, status := .active }
      obligations := cancelled.2
      auditFacts := ["cancelled:task:" ++ state.taskId.value ++ ":" ++
        valueOf event.authorityPrincipalId] }

def suspensionStarted : Option Effect :=
  match event.suspensionId, event.suspensionEpoch, event.waitPolicyId,
    event.waitPolicyDigest with
  | some suspensionId, some suspensionEpoch, some waitPolicyId, some waitPolicyDigest =>
    let epochConflict := match state.suspension with
      | none => suspensionEpoch != 0
      | some prior => prior.status != .resumed ||
          suspensionEpoch != prior.suspensionEpoch + 1 || suspensionId == prior.suspensionId
    if status != .executing || event.requiredWorkItemIds == [] ||
        !decide event.requiredWorkItemIds.Nodup || event.wakeId.isSome ||
        event.wakeReason.isSome || epochConflict ||
        !(event.requiredWorkItemIds.all fun id =>
          (state.workItems.map (·.workItemId)).contains id) then none
    else some {
      status := status
      workItems := state.workItems
      suspension := some {
        taskId := state.taskId
        suspensionId := suspensionId
        suspensionEpoch := suspensionEpoch
        status := .waiting
        waitPolicyId := waitPolicyId
        waitPolicyDigest := waitPolicyDigest
        requiredWorkItemIds := event.requiredWorkItemIds }
      control := state.control }
  | _, _, _, _ => none

def wakeAccepted : Option Effect :=
  match state.suspension with
  | none => none
  | some current =>
    if status != .executing || current.status != .waiting ||
        event.suspensionId != some current.suspensionId ||
        event.suspensionEpoch != some current.suspensionEpoch ||
        event.waitPolicyId != some current.waitPolicyId ||
        event.waitPolicyDigest != some current.waitPolicyDigest ||
        event.requiredWorkItemIds != current.requiredWorkItemIds || event.wakeId.isNone ||
        event.wakeReason != some (.known .dependencyReady) ||
        (current.requiredWorkItemIds.any fun id =>
          !(itemById state.workItems id).any fun item => item.status == .completed) then none
    else some {
      status := status
      workItems := state.workItems
      suspension := some { current with
        status := .resumed
        acceptedWakeId := event.wakeId
        wakeReason := some .dependencyReady }
      control := state.control }

end

/-- `work_items[:index] + (next_item,) + work_items[index + 1:]`. -/
def spliceAt (items : List WorkItem) (index : Nat) (next : WorkItem) : List WorkItem :=
  items.take index ++ [next] ++ items.drop (index + 1)

/-- The branches that change one Work Item: find it by `work_item_id`, let `move`
compute its successor with obligations and audit facts, and put it in place. -/
def onWorkItem (state : State) (status : TaskStatus) (event : Event)
    (move : WorkItem → Option (WorkItem × List String × List String)) : Option Effect := do
  let index ← state.workItems.findIdx? fun item => some item.workItemId == event.workItemId
  let item ← state.workItems[index]?
  let (next, obligations, facts) ← move item
  some {
    status := status
    workItems := spliceAt state.workItems index next
    suspension := state.suspension
    control := state.control
    obligations := obligations
    auditFacts := facts }

def workItemEligible (state : State) (item : WorkItem) :
    Option (WorkItem × List String × List String) :=
  match eligibleWorkItem state item with
  | none => none
  | some facts =>
    if item.status != .pending then none
    else some ({ item with status := .eligible }, [], facts)

def attemptCreated (state : State) (event : Event) (item : WorkItem) :
    Option (WorkItem × List String × List String) :=
  let retry := item.status == .blocked && item.currentAttempt.isSome
  match event.attemptId, event.dispatchId, event.dispatchGeneration with
  | some attemptId, some dispatchId, some dispatchGeneration =>
    if !(item.status == .eligible || item.status == .blocked) ||
        (item.currentAttempt.isSome && !retry) ||
        (retry && item.currentAttempt.any fun attempt =>
          decide (dispatchGeneration ≤ attempt.dispatchGeneration)) ||
        (retry && item.currentAttempt.any fun attempt => attempt.attemptId == attemptId) then none
    else some ({ item with
        status := .submitted
        currentAttempt := some {
          taskId := state.taskId
          workItemId := item.workItemId
          attemptId := attemptId
          dispatchId := dispatchId
          dispatchGeneration := dispatchGeneration } }, [], [])
  | _, _, _ => none

def attemptFenced (event : Event) (item : WorkItem) :
    Option (WorkItem × List String × List String) :=
  match item.currentAttempt with
  | none => none
  | some attempt =>
    if !attempt.status.isActive || attempt.tuple != event.tuple then none
    else some ({ item with currentAttempt := some { attempt with status := .fenced } }, [], [])

/-- The table `transitions` of the source: the statuses an attempt event requires
of the Work Item and of the Attempt, and those it leads to. -/
def attemptTransitions : EventKind →
    Option (Option WorkItemStatus × Option AttemptStatus × WorkItemStatus × AttemptStatus)
  | .attemptSubmitted => some (some .submitted, some .created, .running, .submitted)
  | .attemptRunning => some (some .running, some .submitted, .running, .running)
  | .attemptCompleted => some (some .running, some .running, .completed, .completed)
  | .attemptFailed => some (none, none, .failed, .failed)
  | .attemptCancelled => some (none, none, .cancelled, .cancelled)
  | _ => none

/-- `ATTEMPT_SUBMITTED`, `ATTEMPT_RUNNING`, `ATTEMPT_COMPLETED`, `ATTEMPT_FAILED`
and `ATTEMPT_CANCELLED`. -/
def attemptAdvanced (event : Event) (kind : EventKind) (item : WorkItem) :
    Option (WorkItem × List String × List String) :=
  if kind == .attemptCancelled && (event.cancellationScope != some (.known .attempt) ||
      event.interruptId.isSome || event.redirectId.isSome || event.intentVersion.isSome ||
      event.nextIntentVersion.isSome || event.supersededWorkItemIds != []) then none
  else
    match item.currentAttempt, attemptTransitions kind with
    | some attempt, some (requiredItem, requiredAttempt, nextItem, nextAttempt) =>
      if attempt.status == .fenced || attempt.tuple != event.tuple ||
          (requiredItem.any fun required => item.status != required) ||
          (requiredAttempt.any fun required => attempt.status != required) ||
          ((kind == .attemptFailed || kind == .attemptCancelled) &&
            (!(item.status == .submitted || item.status == .running) ||
              !attempt.status.isActive)) then none
      else some ({ item with
          status := nextItem
          currentAttempt := some { attempt with status := nextAttempt } },
        if kind == .attemptCancelled && attempt.status.isExecuting then
          [adapterCancelObligation attempt] else [],
        if kind == .attemptCancelled then
          ["cancelled:attempt:" ++ attempt.attemptId.value ++ ":" ++
            valueOf event.authorityPrincipalId] else [])
    | _, _ => none

/-- The tables `allowed` and `targets` of the source. -/
def workItemMoves : EventKind → Option (List WorkItemStatus × WorkItemStatus)
  | .workItemPartial => some ([.running], .partial_)
  | .workItemDegraded => some ([.running], .degraded)
  | .workItemBlocked => some ([.pending, .eligible, .submitted, .running], .blocked)
  | .workItemFailed => some ([.pending, .eligible, .submitted, .running, .blocked], .failed)
  | .workItemCancelled =>
    some ([.pending, .eligible, .submitted, .running, .blocked], .cancelled)
  | .workItemSkipped => some ([.pending, .eligible], .skipped)
  | _ => none

/-- `WORK_ITEM_PARTIAL`, `WORK_ITEM_DEGRADED`, `WORK_ITEM_BLOCKED`,
`WORK_ITEM_FAILED`, `WORK_ITEM_CANCELLED` and `WORK_ITEM_SKIPPED`. -/
def workItemMoved (state : State) (event : Event) (kind : EventKind) (item : WorkItem) :
    Option (WorkItem × List String × List String) :=
  if kind == .workItemCancelled && (event.cancellationScope != some (.known .workItem) ||
      event.attemptId.isSome || event.dispatchId.isSome || event.dispatchGeneration.isSome ||
      event.interruptId.isSome || event.redirectId.isSome || event.intentVersion.isSome ||
      event.nextIntentVersion.isSome || event.supersededWorkItemIds != []) then none
  else
    match workItemMoves kind with
    | none => none
    | some (allowed, target) =>
      if !allowed.contains item.status || (kind == .workItemSkipped &&
          (item.requirement == .required ||
            state.workItems.any fun candidate => candidate.dependencies.any fun dependency =>
              dependency.workItemId == item.workItemId &&
                dependency.requirement == .required)) then none
      else if kind == .workItemCancelled then
        some ((cancelledWorkItem item).1, (cancelledWorkItem item).2,
          ["cancelled:work_item:" ++ item.workItemId.value ++ ":" ++
            valueOf event.authorityPrincipalId])
      else some ({ item with status := target }, [], [])

/-- The last `else`: a plain Task transition. -/
def taskTransition (state : State) (status : TaskStatus) (kind : EventKind) : Option Effect :=
  (kernelTaskTransitions status kind).map fun target => {
    status := target
    workItems := state.workItems
    suspension := state.suspension
    control := state.control }

/-- The `if`/`elif` chain of `reduce` on the kind of the event. -/
def branch (state : State) (status : TaskStatus) (event : Event) (kind : EventKind) :
    Option Effect :=
  match kind with
  | .interruptRequested => interruptRequested state status event
  | .interruptResumed => interruptResumed state status event
  | .redirectAuthorized => redirectAuthorized state status event
  | .taskCancelled => taskCancelled state status event
  | .suspensionStarted => suspensionStarted state status event
  | .wakeAccepted => wakeAccepted state status event
  | .workItemEligible => onWorkItem state status event (workItemEligible state)
  | .attemptCreated => onWorkItem state status event (attemptCreated state event)
  | .attemptFenced => onWorkItem state status event (attemptFenced event)
  | .attemptSubmitted | .attemptRunning | .attemptCompleted | .attemptFailed
  | .attemptCancelled => onWorkItem state status event (attemptAdvanced event kind)
  | .workItemPartial | .workItemDegraded | .workItemBlocked | .workItemFailed
  | .workItemCancelled | .workItemSkipped =>
    onWorkItem state status event (workItemMoved state event kind)
  | _ => taskTransition state status kind

/-- The events an interrupted Task still accepts. -/
def interruptedEvents : List EventKind :=
  [.interruptResumed, .redirectAuthorized, .taskCancelled, .taskFailed]

/-- The events that may end an outstanding wait. -/
def waitEndingEvents : List EventKind := [.taskBlocked, .taskFailed, .taskCancelled]

/-- After the branches: a Task that leaves its status loses its Suspension, and a
waiting one lets only `waitEndingEvents` pass. -/
def settle (status : TaskStatus) (kind : EventKind) (effect : Effect) : Option Effect :=
  if effect.status ≠ status then
    match effect.suspension with
    | none => some effect
    | some suspension =>
      if suspension.status == .waiting && !waitEndingEvents.contains kind then none
      else some { effect with suspension := none }
  else some effect

/-- The part of `reduce` that decides acceptance once the input has been checked. -/
def transition (state : State) (status : TaskStatus) (event : Event) (kind : EventKind) :
    Option Effect :=
  if (currentControl state).status == .interrupted && !interruptedEvents.contains kind then none
  else (branch state status event kind).bind (settle status kind)

/-! ### The accepted Result -/

/-- `Identity(IdentityKind.RESULT, f"{event_id.value}:accepted")`. -/
def resultIdFor (eventId : Identity) : Identity where
  kind := .result
  value := eventId.value ++ ":accepted"
  value_ne := by
    intro h
    have hlen := congrArg String.length h
    rw [String.length_append] at hlen
    have : ":accepted".length = 9 := by decide
    have : "".length = 0 := by decide
    omega

def acceptedResultDigest (resultId eventId : Identity) (priorState nextState : State)
    (inputDigest : String) (obligations auditFacts : List String) : String :=
  digest (.record [
    ("variant", some (.str "accepted")),
    ("result_id", some resultId.canonical),
    ("event_id", some eventId.canonical),
    ("input_digest", some (.str inputDigest)),
    ("prior_state_digest", some (.str (digest priorState.canonical))),
    ("state", some (
      if nextState.workItems ≠ [] ∨ nextState.suspension.isSome ∨ nextState.control.isSome then
        nextState.canonical
      else .record [
        ("protocol_version", some (.str nextState.protocolVersion)),
        ("installation_id", some nextState.installationId.canonical),
        ("leader_epoch", some (.int nextState.leaderEpoch)),
        ("task_id", some nextState.taskId.canonical),
        ("revision", some (.int nextState.revision)),
        ("status", some (.str (nextState.status.text TaskStatus.value)))])),
    ("obligations", some (.arr (obligations.map .str))),
    ("audit_facts", some (.arr (auditFacts.map .str)))])

/-- `result_state`: the next State before the event is recorded in it. -/
def resultState (state : State) (effect : Effect) : State where
  protocolVersion := state.protocolVersion
  installationId := state.installationId
  leaderEpoch := state.leaderEpoch
  taskId := state.taskId
  revision := state.revision + 1
  status := .known effect.status
  workItems := effect.workItems
  suspension := effect.suspension
  control := effect.control

def acceptedFacts (event : Event) (effect : Effect) : List String :=
  ("accepted:" ++ event.eventId.kind.value ++ ":" ++ event.eventId.value) :: effect.auditFacts

section

variable (state : State) (event : Event) (evidenceSet : List Evidence) (effect : Effect)

def acceptedEvent : AcceptedEvent where
  eventId := event.eventId
  resultId := resultIdFor event.eventId
  inputDigest := inputDigest state event evidenceSet
  resultDigest := acceptedResultDigest (resultIdFor event.eventId) event.eventId state
    (resultState state effect) (inputDigest state event evidenceSet) effect.obligations
    (acceptedFacts event effect)

def nextState : State :=
  { resultState state effect with
    acceptedEvents := state.acceptedEvents ++ [acceptedEvent state event evidenceSet effect] }

def acceptedResult : Accepted where
  resultId := resultIdFor event.eventId
  state := nextState state event evidenceSet effect
  inputDigest := inputDigest state event evidenceSet
  resultDigest := (acceptedEvent state event evidenceSet effect).resultDigest
  obligations := effect.obligations
  auditFacts := acceptedFacts event effect

end

def reject (state : State) (inputDigest : String) (errorCode : KernelErrorCode)
    (prior : Option AcceptedEvent) : Result :=
  .rejected {
    state := state
    inputDigest := inputDigest
    errorCode := errorCode.value
    priorResultId := prior.map (·.resultId)
    priorResultDigest := prior.map (·.resultDigest) }

/-- The first check of `reduce`: some value is outside its closed vocabulary. -/
def hasUnknownEnum (event : Event) : Bool :=
  event.wakeReason.any (fun r => !r.isKnown) || event.controlReason.any (fun r => !r.isKnown) ||
    event.cancellationScope.any fun c => !c.isKnown

/-- The second check of `reduce`: the input is well formed, bound to the State's
installation and Leader epoch, and authorized. -/
def inputIsValid (state : State) (event : Event) (kind : EventKind)
    (evidenceSet : List Evidence) : Bool :=
  stateIsValid state && eventIsValid event && evidenceSetIsValid evidenceSet &&
    event.installationId == state.installationId && event.leaderEpoch == state.leaderEpoch &&
    authorityIsValid event kind evidenceSet

def reduce (state : State) (event : Event) (evidenceSet : List Evidence) : Result :=
  let digest := inputDigest state event evidenceSet
  match state.status, event.kind with
  | .known status, .known kind =>
    if hasUnknownEnum event then reject state digest .unknownEnumValue none
    else if !inputIsValid state event kind evidenceSet then
      reject state digest .stateConflict none
    else if attemptEventIsStale state event kind then reject state digest .stateConflict none
    else
      match state.acceptedEvents.find? fun item => item.eventId == event.eventId with
      | some prior =>
        if prior.inputDigest == digest then
          .noOp {
            state := state
            inputDigest := digest
            priorResultId := prior.resultId
            priorResultDigest := prior.resultDigest }
        else reject state digest .idempotencyConflict (some prior)
      | none =>
        if event.taskId != state.taskId || event.expectedRevision != state.revision then
          reject state digest .stateConflict none
        else
          match transition state status event kind with
          | none => reject state digest .stateConflict none
          | some effect => .accepted (acceptedResult state event evidenceSet effect)
  | _, _ => reject state digest .unknownEnumValue none

end Valp.Kernel
