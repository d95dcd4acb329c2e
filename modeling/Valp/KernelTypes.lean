/-
The vocabulary of the Protocol Kernel (`valp_cli/protocol_kernel.py`).

The closed enumerations, the records a Kernel State is made of, and the
`canonical()` form of each record as a JSON value.  A field the source declares
as `Union[Enum, str]` is a `Closed` value: a member of the vocabulary or a raw
string, which the reducer refuses.  Integers are unbounded and may be negative,
as in the source; the validators check their sign.
-/
import Valp.JsonParse

namespace Valp.Kernel

def protocolVersion : String := "0.3.0"

/-- A value that ought to come from a closed vocabulary. -/
inductive Closed (α : Type) where
  | known (a : α)
  | unknown (raw : String)
  deriving DecidableEq

/-- The string a `Closed` value is written as. -/
def Closed.text {α : Type} (value : α → String) : Closed α → String
  | .known a => value a
  | .unknown raw => raw

/-- `isinstance(value, Enum)`. -/
def Closed.isKnown {α : Type} : Closed α → Bool
  | .known _ => true
  | .unknown _ => false

/-! ### Enumerations -/

inductive IdentityKind where
  | installation | task | workItem | attempt | dispatch | event | evidence | receipt
  | claim | result | suspension | waitPolicy | wake | principal | interrupt | redirect
  deriving DecidableEq

def IdentityKind.value : IdentityKind → String
  | .installation => "installation"
  | .task => "task"
  | .workItem => "work_item"
  | .attempt => "attempt"
  | .dispatch => "dispatch"
  | .event => "event"
  | .evidence => "evidence"
  | .receipt => "receipt"
  | .claim => "claim"
  | .result => "result"
  | .suspension => "suspension"
  | .waitPolicy => "wait_policy"
  | .wake => "wake"
  | .principal => "principal"
  | .interrupt => "interrupt"
  | .redirect => "redirect"

inductive TaskStatus where
  | published | routingValidation | dispatching | executing | verifying | reviewing | fixing
  | approvalRequired | recording | done | blocked | failed | cancelled
  deriving DecidableEq

def TaskStatus.value : TaskStatus → String
  | .published => "published"
  | .routingValidation => "routing_validation"
  | .dispatching => "dispatching"
  | .executing => "executing"
  | .verifying => "verifying"
  | .reviewing => "reviewing"
  | .fixing => "fixing"
  | .approvalRequired => "approval_required"
  | .recording => "recording"
  | .done => "done"
  | .blocked => "blocked"
  | .failed => "failed"
  | .cancelled => "cancelled"

inductive WorkItemStatus where
  | pending | eligible | submitted | running | completed | partial_ | degraded | blocked
  | failed | cancelled | skipped
  deriving DecidableEq

def WorkItemStatus.value : WorkItemStatus → String
  | .pending => "pending"
  | .eligible => "eligible"
  | .submitted => "submitted"
  | .running => "running"
  | .completed => "completed"
  | .partial_ => "partial"
  | .degraded => "degraded"
  | .blocked => "blocked"
  | .failed => "failed"
  | .cancelled => "cancelled"
  | .skipped => "skipped"

inductive WorkItemRequirement where
  | required | optional | soft
  deriving DecidableEq

def WorkItemRequirement.value : WorkItemRequirement → String
  | .required => "required"
  | .optional => "optional"
  | .soft => "soft"

inductive AttemptStatus where
  | created | submitted | running | completed | failed | cancelled | fenced
  deriving DecidableEq

def AttemptStatus.value : AttemptStatus → String
  | .created => "created"
  | .submitted => "submitted"
  | .running => "running"
  | .completed => "completed"
  | .failed => "failed"
  | .cancelled => "cancelled"
  | .fenced => "fenced"

inductive SuspensionStatus where
  | waiting | resumed
  deriving DecidableEq

def SuspensionStatus.value : SuspensionStatus → String
  | .waiting => "waiting"
  | .resumed => "resumed"

inductive WakeReason where
  | dependencyReady
  deriving DecidableEq

def WakeReason.value : WakeReason → String
  | .dependencyReady => "dependency_ready"

inductive ControlStatus where
  | active | interrupted
  deriving DecidableEq

def ControlStatus.value : ControlStatus → String
  | .active => "active"
  | .interrupted => "interrupted"

inductive ControlReason where
  | userRequested | runtimeFailed | policyEnforced | supersededByRedirect
  deriving DecidableEq

def ControlReason.value : ControlReason → String
  | .userRequested => "user_requested"
  | .runtimeFailed => "runtime_failed"
  | .policyEnforced => "policy_enforced"
  | .supersededByRedirect => "superseded_by_redirect"

inductive CancellationScope where
  | task | workItem | attempt
  deriving DecidableEq

def CancellationScope.value : CancellationScope → String
  | .task => "task"
  | .workItem => "work_item"
  | .attempt => "attempt"

inductive EventKind where
  | routingValidationStarted | routingValidationPassed | dispatchAccepted | workCompleted
  | verificationPassed | verificationFailed | reviewPassed | reviewRejected
  | approvalRequiredRaised | fixDispatchRequested | approvalGranted | approvalDenied
  | recordingCompleted | taskBlocked | blockedRecoveryToFixing | taskFailed | taskCancelled
  | workItemEligible | attemptCreated | attemptCompleted | attemptFenced | attemptSubmitted
  | attemptRunning | attemptFailed | attemptCancelled | workItemPartial | workItemDegraded
  | workItemBlocked | workItemFailed | workItemCancelled | workItemSkipped
  | suspensionStarted | wakeAccepted | interruptRequested | interruptResumed
  | redirectAuthorized
  deriving DecidableEq

def EventKind.value : EventKind → String
  | .routingValidationStarted => "routing_validation_started"
  | .routingValidationPassed => "routing_validation_passed"
  | .dispatchAccepted => "dispatch_accepted"
  | .workCompleted => "work_completed"
  | .verificationPassed => "verification_passed"
  | .verificationFailed => "verification_failed"
  | .reviewPassed => "review_passed"
  | .reviewRejected => "review_rejected"
  | .approvalRequiredRaised => "approval_required_raised"
  | .fixDispatchRequested => "fix_dispatch_requested"
  | .approvalGranted => "approval_granted"
  | .approvalDenied => "approval_denied"
  | .recordingCompleted => "recording_completed"
  | .taskBlocked => "task_blocked"
  | .blockedRecoveryToFixing => "blocked_recovery_to_fixing"
  | .taskFailed => "task_failed"
  | .taskCancelled => "task_cancelled"
  | .workItemEligible => "work_item_eligible"
  | .attemptCreated => "attempt_created"
  | .attemptCompleted => "attempt_completed"
  | .attemptFenced => "attempt_fenced"
  | .attemptSubmitted => "attempt_submitted"
  | .attemptRunning => "attempt_running"
  | .attemptFailed => "attempt_failed"
  | .attemptCancelled => "attempt_cancelled"
  | .workItemPartial => "work_item_partial"
  | .workItemDegraded => "work_item_degraded"
  | .workItemBlocked => "work_item_blocked"
  | .workItemFailed => "work_item_failed"
  | .workItemCancelled => "work_item_cancelled"
  | .workItemSkipped => "work_item_skipped"
  | .suspensionStarted => "suspension_started"
  | .wakeAccepted => "wake_accepted"
  | .interruptRequested => "interrupt_requested"
  | .interruptResumed => "interrupt_resumed"
  | .redirectAuthorized => "redirect_authorized"

/-- `KernelErrorCode`; `_reject` reports its value. -/
inductive KernelErrorCode where
  | unknownEnumValue | stateConflict | idempotencyConflict
  deriving DecidableEq

def KernelErrorCode.value : KernelErrorCode → String
  | .unknownEnumValue => "VALP-E-UNKNOWN-ENUM-VALUE"
  | .stateConflict => "VALP-E-STATE-CONFLICT"
  | .idempotencyConflict => "VALP-E-IDEMPOTENCY-CONFLICT"

/-! ### Records -/

/-- An identity; `__post_init__` refuses an empty value. -/
structure Identity where
  kind : IdentityKind
  value : String
  value_ne : value ≠ ""
  deriving DecidableEq

def Identity.canonical (i : Identity) : Json :=
  .record [("kind", some (.str i.kind.value)), ("value", some (.str i.value))]

structure Evidence where
  evidenceId : Identity
  contentDigest : String
  deriving DecidableEq

def Evidence.canonical (v : Evidence) : Json :=
  .record [
    ("schema_version", some (.str "valp-kernel-evidence.v1")),
    ("evidence_id", some v.evidenceId.canonical),
    ("content_digest", some (.str v.contentDigest))]

structure Dependency where
  workItemId : Identity
  requirement : WorkItemRequirement
  deriving DecidableEq

def Dependency.canonical (d : Dependency) : Json :=
  .record [
    ("work_item_id", some d.workItemId.canonical),
    ("requirement", some (.str d.requirement.value))]

structure Attempt where
  taskId : Identity
  workItemId : Identity
  attemptId : Identity
  dispatchId : Identity
  dispatchGeneration : Int
  status : AttemptStatus := .created
  deriving DecidableEq

def Attempt.canonical (a : Attempt) : Json :=
  .record [
    ("task_id", some a.taskId.canonical),
    ("work_item_id", some a.workItemId.canonical),
    ("attempt_id", some a.attemptId.canonical),
    ("dispatch_id", some a.dispatchId.canonical),
    ("dispatch_generation", some (.int a.dispatchGeneration)),
    ("status", some (.str a.status.value))]

structure WorkItem where
  taskId : Identity
  workItemId : Identity
  requirement : WorkItemRequirement
  status : WorkItemStatus := .pending
  dependencies : List Dependency := []
  currentAttempt : Option Attempt := none
  deriving DecidableEq

def WorkItem.canonical (w : WorkItem) : Json :=
  .record [
    ("task_id", some w.taskId.canonical),
    ("work_item_id", some w.workItemId.canonical),
    ("requirement", some (.str w.requirement.value)),
    ("status", some (.str w.status.value)),
    ("dependencies", some (.arr (w.dependencies.map Dependency.canonical))),
    ("current_attempt", some (w.currentAttempt.elim .null Attempt.canonical))]

structure Suspension where
  taskId : Identity
  suspensionId : Identity
  suspensionEpoch : Int
  status : SuspensionStatus
  waitPolicyId : Identity
  waitPolicyDigest : String
  requiredWorkItemIds : List Identity
  acceptedWakeId : Option Identity := none
  wakeReason : Option WakeReason := none
  deriving DecidableEq

def Suspension.canonical (s : Suspension) : Json :=
  .record [
    ("task_id", some s.taskId.canonical),
    ("suspension_id", some s.suspensionId.canonical),
    ("suspension_epoch", some (.int s.suspensionEpoch)),
    ("status", some (.str s.status.value)),
    ("wait_policy_id", some s.waitPolicyId.canonical),
    ("wait_policy_digest", some (.str s.waitPolicyDigest)),
    ("required_work_item_ids", some (.arr (s.requiredWorkItemIds.map Identity.canonical))),
    ("accepted_wake_id", s.acceptedWakeId.map Identity.canonical),
    ("wake_reason", s.wakeReason.map fun r => .str r.value)]

structure ControlState where
  intentVersion : Int
  status : ControlStatus
  activeInterruptId : Option Identity := none
  deriving DecidableEq

def ControlState.canonical (c : ControlState) : Json :=
  .record [
    ("intent_version", some (.int c.intentVersion)),
    ("status", some (.str c.status.value)),
    ("active_interrupt_id", c.activeInterruptId.map Identity.canonical)]

structure Event where
  eventId : Identity
  installationId : Identity
  leaderEpoch : Int
  taskId : Identity
  kind : Closed EventKind
  expectedRevision : Int
  workItemId : Option Identity := none
  attemptId : Option Identity := none
  dispatchId : Option Identity := none
  dispatchGeneration : Option Int := none
  suspensionId : Option Identity := none
  suspensionEpoch : Option Int := none
  waitPolicyId : Option Identity := none
  waitPolicyDigest : Option String := none
  requiredWorkItemIds : List Identity := []
  wakeId : Option Identity := none
  wakeReason : Option (Closed WakeReason) := none
  authorityPrincipalId : Option Identity := none
  authorityEvidenceId : Option Identity := none
  controlReason : Option (Closed ControlReason) := none
  cancellationScope : Option (Closed CancellationScope) := none
  interruptId : Option Identity := none
  redirectId : Option Identity := none
  intentVersion : Option Int := none
  nextIntentVersion : Option Int := none
  supersededWorkItemIds : List Identity := []
  deriving DecidableEq

def canonicalIds (ids : List Identity) : Option Json :=
  if ids = [] then none else some (.arr (ids.map Identity.canonical))

def Event.canonical (e : Event) : Json :=
  .record [
    ("schema_version", some (.str "valp-kernel-event.v1")),
    ("event_id", some e.eventId.canonical),
    ("installation_id", some e.installationId.canonical),
    ("leader_epoch", some (.int e.leaderEpoch)),
    ("task_id", some e.taskId.canonical),
    ("kind", some (.str (e.kind.text EventKind.value))),
    ("expected_revision", some (.int e.expectedRevision)),
    ("work_item_id", e.workItemId.map Identity.canonical),
    ("attempt_id", e.attemptId.map Identity.canonical),
    ("dispatch_id", e.dispatchId.map Identity.canonical),
    ("suspension_id", e.suspensionId.map Identity.canonical),
    ("wait_policy_id", e.waitPolicyId.map Identity.canonical),
    ("wake_id", e.wakeId.map Identity.canonical),
    ("authority_principal_id", e.authorityPrincipalId.map Identity.canonical),
    ("authority_evidence_id", e.authorityEvidenceId.map Identity.canonical),
    ("interrupt_id", e.interruptId.map Identity.canonical),
    ("redirect_id", e.redirectId.map Identity.canonical),
    ("dispatch_generation", e.dispatchGeneration.map .int),
    ("suspension_epoch", e.suspensionEpoch.map .int),
    ("wait_policy_digest", e.waitPolicyDigest.map .str),
    ("required_work_item_ids", canonicalIds e.requiredWorkItemIds),
    ("wake_reason", e.wakeReason.map fun r => .str (r.text WakeReason.value)),
    ("control_reason", e.controlReason.map fun r => .str (r.text ControlReason.value)),
    ("cancellation_scope",
      e.cancellationScope.map fun c => .str (c.text CancellationScope.value)),
    ("intent_version", e.intentVersion.map .int),
    ("next_intent_version", e.nextIntentVersion.map .int),
    ("superseded_work_item_ids", canonicalIds e.supersededWorkItemIds)]

structure AcceptedEvent where
  eventId : Identity
  resultId : Identity
  inputDigest : String
  resultDigest : String
  deriving DecidableEq

def AcceptedEvent.canonical (a : AcceptedEvent) : Json :=
  .record [
    ("event_id", some a.eventId.canonical),
    ("result_id", some a.resultId.canonical),
    ("input_digest", some (.str a.inputDigest)),
    ("result_digest", some (.str a.resultDigest))]

structure State where
  protocolVersion : String
  installationId : Identity
  leaderEpoch : Int
  taskId : Identity
  revision : Int
  status : Closed TaskStatus
  acceptedEvents : List AcceptedEvent := []
  workItems : List WorkItem := []
  suspension : Option Suspension := none
  control : Option ControlState := none
  deriving DecidableEq

def State.canonical (s : State) : Json :=
  .record [
    ("schema_version", some (.str "valp-kernel-state.v1")),
    ("protocol_version", some (.str s.protocolVersion)),
    ("installation_id", some s.installationId.canonical),
    ("leader_epoch", some (.int s.leaderEpoch)),
    ("task_id", some s.taskId.canonical),
    ("revision", some (.int s.revision)),
    ("status", some (.str (s.status.text TaskStatus.value))),
    ("accepted_events", some (.arr (s.acceptedEvents.map AcceptedEvent.canonical))),
    ("work_items",
      if s.workItems = [] then none else some (.arr (s.workItems.map WorkItem.canonical))),
    ("suspension", s.suspension.map Suspension.canonical),
    ("control", s.control.map ControlState.canonical)]

/-! ### Results -/

structure Accepted where
  resultId : Identity
  state : State
  inputDigest : String
  resultDigest : String
  obligations : List String := []
  auditFacts : List String := []

structure NoOp where
  state : State
  inputDigest : String
  priorResultId : Identity
  priorResultDigest : String

structure Rejected where
  state : State
  inputDigest : String
  errorCode : String
  priorResultId : Option Identity := none
  priorResultDigest : Option String := none

/-- `Result`: exactly one of the three variants is present. -/
inductive Result where
  | accepted (a : Accepted)
  | noOp (n : NoOp)
  | rejected (r : Rejected)

def Accepted.canonical (a : Accepted) : Json :=
  .record [
    ("schema_version", some (.str "valp-kernel-result.v1")),
    ("variant", some (.str "accepted")),
    ("result_id", some a.resultId.canonical),
    ("state", some a.state.canonical),
    ("input_digest", some (.str a.inputDigest)),
    ("result_digest", some (.str a.resultDigest)),
    ("obligations", some (.arr (a.obligations.map .str))),
    ("audit_facts", some (.arr (a.auditFacts.map .str)))]

def NoOp.canonical (n : NoOp) : Json :=
  .record [
    ("schema_version", some (.str "valp-kernel-result.v1")),
    ("variant", some (.str "no_op")),
    ("state", some n.state.canonical),
    ("input_digest", some (.str n.inputDigest)),
    ("prior_result_id", some n.priorResultId.canonical),
    ("prior_result_digest", some (.str n.priorResultDigest))]

def Rejected.canonical (r : Rejected) : Json :=
  .record [
    ("schema_version", some (.str "valp-kernel-result.v1")),
    ("variant", some (.str "rejected")),
    ("state", some r.state.canonical),
    ("input_digest", some (.str r.inputDigest)),
    ("error_code", some (.str r.errorCode)),
    ("prior_result_id", r.priorResultId.map Identity.canonical),
    ("prior_result_digest", r.priorResultDigest.map .str)]

def Result.canonical : Result → Json
  | .accepted a => a.canonical
  | .noOp n => n.canonical
  | .rejected r => r.canonical

end Valp.Kernel
