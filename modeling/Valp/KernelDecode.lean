/-
Decoding of Kernel records (`valp_cli/kernel_store.py`).

The functions `_identity … decode_genesis_root` read the records of the Kernel back
from JSON values.  An exception is `.error`, with the text of the source where the
source raises it.  The decoders copy integers and digests unchecked; the fields of
this model are typed, so a scalar of another type is an error here and not only in
the validators of `replay`.

* `Event.decode_canonical`, `State.decode_canonical`, `Result.decode_canonical`, … —
  each decoder inverts the `canonical()` form of the values the validators accept.
-/
import Valp.KernelCanonical
import Valp.KernelReplay
import Valp.Table

namespace Valp.Kernel

open List
open Option (map_some any_some)
open Bool (and_eq_true)

/-! ### Vocabularies -/

def TaskStatus.all : List TaskStatus :=
  [.published, .routingValidation, .dispatching, .executing, .verifying, .reviewing, .fixing,
    .approvalRequired, .recording, .done, .blocked, .failed, .cancelled]

def WorkItemStatus.all : List WorkItemStatus :=
  [.pending, .eligible, .submitted, .running, .completed, .partial_, .degraded, .blocked,
    .failed, .cancelled, .skipped]

def WorkItemRequirement.all : List WorkItemRequirement := [.required, .optional, .soft]

def AttemptStatus.all : List AttemptStatus :=
  [.created, .submitted, .running, .completed, .failed, .cancelled, .fenced]

def emptyReplayPrefixDigest : String :=
  digest (.record [
    ("schema_version", some (.str "valp-kernel-replay-prefix.v1")),
    ("entries", some (.arr []))])

namespace Decode

/-! ### Objects -/

def shape (value : Json) (required optional : List String) : Except String Json :=
  match value with
  | .obj _ =>
    if required.all value.keys.contains && value.keys.all (required ++ optional).contains then
      .ok value
    else .error "unexpected Kernel object shape"
  | _ => .error "unexpected Kernel object shape"

/-- `item[key]`. -/
def getItem (item : Json) (key : String) : Except String Json :=
  match item.member? key with
  | some value => .ok value
  | none => .error key

/-- `decoder(value)` of a member that may be missing. -/
def readOptional {α : Type} (decoder : Json → Except String α) :
    Option Json → Except String (Option α)
  | some value => (decoder value).map some
  | none => .ok none

/-- `decoder(item[key]) if key in item else None`. -/
def getOptional {α : Type} (item : Json) (key : String) (decoder : Json → Except String α) :
    Except String (Option α) :=
  readOptional decoder (item.member? key)

def asInt : Json → Except String Int
  | .int n => .ok n
  | _ => .error "an integer is required"

def asStr : Json → Except String String
  | .str s => .ok s
  | _ => .error "a string is required"

/-- `value.get(key) == text`. -/
def hasText (value : Json) (key text : String) : Bool :=
  match value.member? key with
  | some (.str s) => s == text
  | _ => false

/-- A member that may be missing or `null`. -/
def readScalar {α : Type} (decoder : Json → Except String α) :
    Option Json → Except String (Option α)
  | none | some .null => .ok none
  | some value => (decoder value).map some

/-- `item.get(key)` of a scalar: `None` when the key is absent or its value `null`. -/
def getScalar {α : Type} (item : Json) (key : String) (decoder : Json → Except String α) :
    Except String (Option α) :=
  readScalar decoder (item.member? key)

def asArray (message : String) : Json → Except String (List Json)
  | .arr items => .ok items
  | _ => .error message

/-- The check that `item.get(key, [])` is a list. -/
def getArray (item : Json) (key message : String) : Except String (List Json) :=
  match item.member? key with
  | some value => asArray message value
  | none => .ok []

/-- `Enum(value)`. -/
def asEnum {α : Type} (name : String) (members : List α) (text : α → String) :
    Json → Except String α
  | .str raw =>
    match members.find? fun a => text a == raw with
    | some a => .ok a
    | none => .error ("'" ++ raw ++ "' is not a valid " ++ name)
  | _ => .error ("not a valid " ++ name)

/-! ### Members of the vocabularies -/

/-- A member of a vocabulary, as the value of a field that may hold any string. -/
def known {α : Type} (decoder : Json → Except String α) (value : Json) :
    Except String (Closed α) :=
  (decoder value).map .known

def asIdentityKind := asEnum "IdentityKind" IdentityKind.all IdentityKind.value
def asTaskStatus := asEnum "TaskStatus" TaskStatus.all TaskStatus.value
def asWorkItemStatus := asEnum "WorkItemStatus" WorkItemStatus.all WorkItemStatus.value
def asWorkItemRequirement :=
  asEnum "WorkItemRequirement" WorkItemRequirement.all WorkItemRequirement.value
def asAttemptStatus := asEnum "AttemptStatus" AttemptStatus.all AttemptStatus.value
def asSuspensionStatus := asEnum "SuspensionStatus" [.waiting, .resumed] SuspensionStatus.value
def asWakeReason := asEnum "WakeReason" [.dependencyReady] WakeReason.value
def asControlStatus := asEnum "ControlStatus" [.active, .interrupted] ControlStatus.value
def asControlReason := asEnum "ControlReason"
  [.userRequested, .runtimeFailed, .policyEnforced, .supersededByRedirect] ControlReason.value
def asCancellationScope :=
  asEnum "CancellationScope" [.task, .workItem, .attempt] CancellationScope.value
def asEventKind := asEnum "EventKind" EventKind.all EventKind.value

/-! ### Decoders -/

/-- `_identity(value, kind)`; every caller gives a kind. -/
def identity (kind : IdentityKind) (value : Json) : Except String Identity := do
  let item ← shape value ["kind", "value"] []
  let actual ← asIdentityKind (← getItem item "kind")
  match ← getItem item "value" with
  | .str text =>
    if h : text = "" then .error "identity value must be a non-empty string"
    else if actual ≠ kind then .error "Kernel identity kind mismatch"
    else .ok ⟨actual, text, h⟩
  | _ => .error "identity value must be a non-empty string"

section

variable (value : Json)

def dependency : Except String Dependency := do
  let item ← shape value ["work_item_id", "requirement"] []
  .ok {
    workItemId := ← identity .workItem (← getItem item "work_item_id")
    requirement := ← asWorkItemRequirement (← getItem item "requirement") }

def attempt : Except String Attempt := do
  let item ← shape value
    ["task_id", "work_item_id", "attempt_id", "dispatch_id", "dispatch_generation", "status"] []
  .ok {
    taskId := ← identity .task (← getItem item "task_id")
    workItemId := ← identity .workItem (← getItem item "work_item_id")
    attemptId := ← identity .attempt (← getItem item "attempt_id")
    dispatchId := ← identity .dispatch (← getItem item "dispatch_id")
    dispatchGeneration := ← asInt (← getItem item "dispatch_generation")
    status := ← asAttemptStatus (← getItem item "status") }

def workItem : Except String WorkItem := do
  let item ← shape value
    ["task_id", "work_item_id", "requirement", "status", "dependencies", "current_attempt"] []
  let dependencies ← asArray "Work Item dependencies must be an array"
    (← getItem item "dependencies")
  .ok {
    taskId := ← identity .task (← getItem item "task_id")
    workItemId := ← identity .workItem (← getItem item "work_item_id")
    requirement := ← asWorkItemRequirement (← getItem item "requirement")
    status := ← asWorkItemStatus (← getItem item "status")
    dependencies := ← dependencies.mapM dependency
    currentAttempt := ← getScalar item "current_attempt" attempt }

def suspension : Except String Suspension := do
  let item ← shape value
    ["task_id", "suspension_id", "suspension_epoch", "status", "wait_policy_id",
      "wait_policy_digest", "required_work_item_ids"]
    ["accepted_wake_id", "wake_reason"]
  let frontier ← asArray "Suspension frontier must be an array"
    (← getItem item "required_work_item_ids")
  .ok {
    taskId := ← identity .task (← getItem item "task_id")
    suspensionId := ← identity .suspension (← getItem item "suspension_id")
    suspensionEpoch := ← asInt (← getItem item "suspension_epoch")
    status := ← asSuspensionStatus (← getItem item "status")
    waitPolicyId := ← identity .waitPolicy (← getItem item "wait_policy_id")
    waitPolicyDigest := ← asStr (← getItem item "wait_policy_digest")
    requiredWorkItemIds := ← frontier.mapM (identity .workItem)
    acceptedWakeId := ← getOptional item "accepted_wake_id" (identity .wake)
    wakeReason := ← getOptional item "wake_reason" asWakeReason }

def control : Except String ControlState := do
  let item ← shape value ["intent_version", "status"] ["active_interrupt_id"]
  .ok {
    intentVersion := ← asInt (← getItem item "intent_version")
    status := ← asControlStatus (← getItem item "status")
    activeInterruptId := ← getOptional item "active_interrupt_id" (identity .interrupt) }

def acceptedEvent : Except String AcceptedEvent := do
  let item ← shape value ["event_id", "result_id", "input_digest", "result_digest"] []
  .ok {
    eventId := ← identity .event (← getItem item "event_id")
    resultId := ← identity .result (← getItem item "result_id")
    inputDigest := ← asStr (← getItem item "input_digest")
    resultDigest := ← asStr (← getItem item "result_digest") }

end

def state (value : Json) : Except String State := do
  let item ← shape value
    ["schema_version", "protocol_version", "installation_id", "leader_epoch", "task_id",
      "revision", "status", "accepted_events"]
    ["work_items", "suspension", "control"]
  if !hasText item "schema_version" "valp-kernel-state.v1" then
    .error "unsupported Kernel State schema"
  let acceptedEvents ← asArray "Kernel State arrays have invalid types"
    (← getItem item "accepted_events")
  let workItems ← getArray item "work_items" "Kernel State arrays have invalid types"
  .ok {
    protocolVersion := ← asStr (← getItem item "protocol_version")
    installationId := ← identity .installation (← getItem item "installation_id")
    leaderEpoch := ← asInt (← getItem item "leader_epoch")
    taskId := ← identity .task (← getItem item "task_id")
    revision := ← asInt (← getItem item "revision")
    status := ← known asTaskStatus (← getItem item "status")
    acceptedEvents := ← acceptedEvents.mapM acceptedEvent
    workItems := ← workItems.mapM workItem
    suspension := ← getOptional item "suspension" suspension
    control := ← getOptional item "control" control }

def event (value : Json) : Except String Event := do
  let item ← shape value
    ["schema_version", "event_id", "installation_id", "leader_epoch", "task_id", "kind",
      "expected_revision"]
    ["work_item_id", "attempt_id", "dispatch_id", "dispatch_generation", "suspension_id",
      "suspension_epoch", "wait_policy_id", "wait_policy_digest", "required_work_item_ids",
      "wake_id", "wake_reason", "authority_principal_id", "authority_evidence_id",
      "control_reason", "cancellation_scope", "interrupt_id", "redirect_id", "intent_version",
      "next_intent_version", "superseded_work_item_ids"]
  if !hasText item "schema_version" "valp-kernel-event.v1" then
    .error "unsupported Kernel Event schema"
  let frontier ← getArray item "required_work_item_ids" "Event Work Item identities must be arrays"
  let superseded ← getArray item "superseded_work_item_ids"
    "Event Work Item identities must be arrays"
  .ok {
    eventId := ← identity .event (← getItem item "event_id")
    installationId := ← identity .installation (← getItem item "installation_id")
    leaderEpoch := ← asInt (← getItem item "leader_epoch")
    taskId := ← identity .task (← getItem item "task_id")
    kind := ← known asEventKind (← getItem item "kind")
    expectedRevision := ← asInt (← getItem item "expected_revision")
    workItemId := ← getOptional item "work_item_id" (identity .workItem)
    attemptId := ← getOptional item "attempt_id" (identity .attempt)
    dispatchId := ← getOptional item "dispatch_id" (identity .dispatch)
    dispatchGeneration := ← getScalar item "dispatch_generation" asInt
    suspensionId := ← getOptional item "suspension_id" (identity .suspension)
    suspensionEpoch := ← getScalar item "suspension_epoch" asInt
    waitPolicyId := ← getOptional item "wait_policy_id" (identity .waitPolicy)
    waitPolicyDigest := ← getScalar item "wait_policy_digest" asStr
    requiredWorkItemIds := ← frontier.mapM (identity .workItem)
    wakeId := ← getOptional item "wake_id" (identity .wake)
    wakeReason := ← getOptional item "wake_reason" (known asWakeReason)
    authorityPrincipalId := ← getOptional item "authority_principal_id" (identity .principal)
    authorityEvidenceId := ← getOptional item "authority_evidence_id" (identity .evidence)
    controlReason := ← getOptional item "control_reason" (known asControlReason)
    cancellationScope := ← getOptional item "cancellation_scope" (known asCancellationScope)
    interruptId := ← getOptional item "interrupt_id" (identity .interrupt)
    redirectId := ← getOptional item "redirect_id" (identity .redirect)
    intentVersion := ← getScalar item "intent_version" asInt
    nextIntentVersion := ← getScalar item "next_intent_version" asInt
    supersededWorkItemIds := ← superseded.mapM (identity .workItem) }

/-- `decode_event`; two JSON objects are equal when their sorted texts are. -/
def decodeEvent (value : Json) : Except String Event := do
  let decoded ← event value
  if canonicalJson decoded.canonical ≠ canonicalJson value then
    .error "Kernel Event canonical bindings mismatch"
  .ok decoded

def evidence (value : Json) : Except String Evidence := do
  let item ← shape value ["schema_version", "evidence_id", "content_digest"] []
  if !hasText item "schema_version" "valp-kernel-evidence.v1" then
    .error "unsupported Kernel Evidence schema"
  .ok {
    evidenceId := ← identity .evidence (← getItem item "evidence_id")
    contentDigest := ← asStr (← getItem item "content_digest") }

/-- The branch of `_result` for an accepted Result. -/
def accepted (value : Json) : Except String Accepted := do
  let item ← shape value
    ["schema_version", "variant", "result_id", "state", "input_digest", "result_digest",
      "obligations", "audit_facts"] []
  let obligations ← asArray "accepted Result arrays have invalid types"
    (← getItem item "obligations")
  let auditFacts ← asArray "accepted Result arrays have invalid types"
    (← getItem item "audit_facts")
  .ok {
    resultId := ← identity .result (← getItem item "result_id")
    state := ← state (← getItem item "state")
    inputDigest := ← asStr (← getItem item "input_digest")
    resultDigest := ← asStr (← getItem item "result_digest")
    obligations := ← obligations.mapM asStr
    auditFacts := ← auditFacts.mapM asStr }

/-- The branch of `_result` for a no-op. -/
def noOp (value : Json) : Except String NoOp := do
  let item ← shape value
    ["schema_version", "variant", "state", "input_digest", "prior_result_id",
      "prior_result_digest"] []
  .ok {
    state := ← state (← getItem item "state")
    inputDigest := ← asStr (← getItem item "input_digest")
    priorResultId := ← identity .result (← getItem item "prior_result_id")
    priorResultDigest := ← asStr (← getItem item "prior_result_digest") }

/-- The branch of `_result` for a rejection. -/
def rejected (value : Json) : Except String Rejected := do
  let item ← shape value ["schema_version", "variant", "state", "input_digest", "error_code"]
    ["prior_result_id", "prior_result_digest"]
  .ok {
    state := ← state (← getItem item "state")
    inputDigest := ← asStr (← getItem item "input_digest")
    errorCode := ← asStr (← getItem item "error_code")
    priorResultId := ← getOptional item "prior_result_id" (identity .result)
    priorResultDigest := ← getScalar item "prior_result_digest" asStr }

def result (value : Json) : Except String Result :=
  if !hasText value "schema_version" "valp-kernel-result.v1" then
    .error "unsupported Kernel Result schema"
  else if hasText value "variant" "accepted" then (accepted value).map .accepted
  else if hasText value "variant" "no_op" then (noOp value).map .noOp
  else if hasText value "variant" "rejected" then (rejected value).map .rejected
  else .error "unknown Kernel Result variant"

def decodeReplayEntry (value : Json) : Except String ReplayEntry := do
  let item ← shape value ["schema_version", "event", "evidence_set", "result"] []
  if !hasText item "schema_version" "valp-kernel-replay-entry.v1" then
    .error "unsupported ReplayEntry schema"
  let evidenceSet ← asArray "unsupported ReplayEntry schema" (← getItem item "evidence_set")
  .ok {
    event := ← event (← getItem item "event")
    evidenceSet := ← evidenceSet.mapM evidence
    result := ← result (← getItem item "result") }

/-- The canonical form of a `GenesisRoot`. -/
def genesisCanonical (state : State) : Json :=
  .record [
    ("schema_version", some (.str "valp-kernel-genesis-root.v1")),
    ("state", some state.canonical),
    ("prefix_digest", some (.str emptyReplayPrefixDigest))]

def decodeGenesisRoot (value : Json) : Except String State := do
  let item ← shape value ["schema_version", "state", "prefix_digest"] []
  if !hasText item "schema_version" "valp-kernel-genesis-root.v1" then
    .error "unsupported GenesisRoot schema"
  let root ← state (← getItem item "state")
  if canonicalJson (genesisCanonical root) ≠ canonicalJson item then
    .error "GenesisRoot canonical bindings mismatch"
  let _ ← replay (.genesis root) [] none
  .ok root

def trustPolicy (value : Json) : Except String CheckpointTrustPolicy := do
  let item ← shape value ["schema_version", "trusted_evidence_ids"] []
  if !hasText item "schema_version" "valp-kernel-checkpoint-trust-policy.v1" then
    .error "unsupported checkpoint trust policy"
  let ids ← asArray "unsupported checkpoint trust policy" (← getItem item "trusted_evidence_ids")
  CheckpointTrustPolicy.make (← ids.mapM (identity .evidence))

def checkpointRoot (value : Json) : Except String CheckpointRoot := do
  let item ← shape value
    ["schema_version", "state", "state_digest", "accepted_entry_count", "prefix_digest",
      "tail_event_id", "tail_result_id", "tail_result_digest", "checkpoint_result_id",
      "trust_policy_digest"] []
  if !hasText item "schema_version" "valp-kernel-checkpoint-root.v1" then
    .error "unsupported CheckpointRoot schema"
  let bindings : CheckpointBindings := {
    state := ← state (← getItem item "state")
    acceptedEntryCount := ← asInt (← getItem item "accepted_entry_count")
    prefixDigest := ← asStr (← getItem item "prefix_digest")
    tailEventId := ← identity .event (← getItem item "tail_event_id")
    tailResultId := ← identity .result (← getItem item "tail_result_id")
    tailResultDigest := ← asStr (← getItem item "tail_result_digest")
    checkpointResultId := ← identity .result (← getItem item "checkpoint_result_id")
    trustPolicyDigest := ← asStr (← getItem item "trust_policy_digest") }
  if h : checkpointRootIsValid bindings = true then
    let root : CheckpointRoot := { toCheckpointBindings := bindings, valid := h }
    if canonicalJson root.canonical ≠ canonicalJson item then
      .error "CheckpointRoot canonical bindings mismatch"
    else .ok root
  else .error "CheckpointRoot bindings are invalid"

def checkpointAuthentication (value : Json) : Except String CheckpointAuthentication := do
  let item ← shape value ["schema_version", "checkpoint_result", "evidence_set", "trust_policy"] []
  if !hasText item "schema_version" "valp-kernel-checkpoint-authentication.v1" then
    .error "unsupported checkpoint authentication"
  let evidenceItems ← asArray "unsupported checkpoint authentication"
    (← getItem item "evidence_set")
  let checkpointResult ← result (← getItem item "checkpoint_result")
  let evidenceSet ← evidenceItems.mapM evidence
  let trustPolicy ← trustPolicy (← getItem item "trust_policy")
  if h : (evidenceSet.map (·.evidenceId)).Nodup then
    .ok {
      checkpointResult := checkpointResult
      evidenceSet := evidenceSet
      trustPolicy := trustPolicy
      evidence_nodup := h }
  else .error "CheckpointAuthentication requires unique Evidence identities"

/-! ### Inversion of canonical forms -/

theorem mem_keys_of_member? {value v : Json} {k : String} (h : value.member? k = some v) :
    k ∈ value.keys := by
  cases value with
  | obj members => exact mem_map_of_mem (Json.mem_of_lookup h)
  | _ => cases h

section Reorders

variable {f : Json → Json} (hf : Json.Reorders f)

/-- What a decoder sees of a record, whatever the order of its members: an object of the
right shape, with the fields that are present. -/
structure Reads (f : Json → Json) (fields : List (String × Option Json)) (value : Json) :
    Prop where
  shape : ∀ {required optional : List String},
    required.all (fun k => (fields.lookup k).join.isSome) = true →
    (fields.map Prod.fst).all (required ++ optional).contains = true →
    shape value required optional = .ok value
  member : ∀ k, value.member? k = (fields.lookup k).join.map f

include hf

variable {fields : List (String × Option Json)}

theorem of_reads {P : Json → Prop}
    (hnd : (fields.map Prod.fst).Nodup) (h : ∀ value, Reads f fields value → P value) :
    P (f (Json.record fields)) := by
  have hmember : ∀ k, (f (Json.record fields)).member? k = (fields.lookup k).join.map f := by
    intro k
    rw [hf.member, Json.member?_record hnd]
  refine h _ ⟨fun {required optional} hreq hflds => ?_, hmember⟩
  have hall : required.all (f (Json.record fields)).keys.contains := by
    rw [all_eq_true] at hreq ⊢
    intro k hk
    obtain ⟨v, hv⟩ := Option.isSome_iff_exists.mp (hreq k hk)
    rw [contains_iff_mem]
    exact mem_keys_of_member? (v := f v) (by rw [hmember, hv]; rfl)
  have hsub : (f (Json.record fields)).keys.all (required ++ optional).contains := by
    rw [all_eq_true] at hflds ⊢
    exact fun k hk => hflds k (hf.mem_keys_record hk)
  obtain ⟨members, hmbs, -⟩ :=
    hf.obj (fields.filterMap fun p => p.2.map fun v => (p.1, v))
  rw [Json.record, hmbs] at hall hsub ⊢
  simp only [Decode.shape, hall, hsub, Bool.and_self, if_true]

theorem decode_of_reads {α : Type} {decoder : Json → Except String α} {a : α}
    (hnd : (fields.map Prod.fst).Nodup)
    (h : ∀ value, Reads f fields value → decoder value = .ok a) :
    decoder (f (Json.record fields)) = .ok a :=
  of_reads hf (P := fun value => decoder value = .ok a) hnd h

end Reorders

@[simp] theorem ok_bind {α β ε : Type} (a : α) (f : α → Except ε β) :
    (Except.ok a >>= f) = f a := rfl

theorem asEnum_text {α : Type} {name : String} {members : List α} {text : α → String} {a : α}
    (hnd : (members.map text).Nodup) (ha : a ∈ members) :
    asEnum name members text (.str (text a)) = .ok a := by
  have hfind : (members.find? fun b => text b == text a) = some a :=
    (Table.mem_iff_get hnd).mp ha
  simp only [asEnum, hfind]

@[simp] theorem asIdentityKind_value (a : IdentityKind) : asIdentityKind (.str a.value) = .ok a :=
  asEnum_text (List.Nodup.map IdentityKind.value_injective (by decide)) a.mem_all

@[simp] theorem asWorkItemStatus_value (a : WorkItemStatus) :
    asWorkItemStatus (.str a.value) = .ok a :=
  asEnum_text (by simp [WorkItemStatus.all, WorkItemStatus.value])
    (by cases a <;> simp [WorkItemStatus.all])

@[simp] theorem asWorkItemRequirement_value (a : WorkItemRequirement) :
    asWorkItemRequirement (.str a.value) = .ok a :=
  asEnum_text (by simp [WorkItemRequirement.all, WorkItemRequirement.value])
    (by cases a <;> simp [WorkItemRequirement.all])

@[simp] theorem asAttemptStatus_value (a : AttemptStatus) :
    asAttemptStatus (.str a.value) = .ok a :=
  asEnum_text (by simp [AttemptStatus.all, AttemptStatus.value])
    (by cases a <;> simp [AttemptStatus.all])

@[simp] theorem asSuspensionStatus_value (a : SuspensionStatus) :
    asSuspensionStatus (.str a.value) = .ok a :=
  asEnum_text (by simp [SuspensionStatus.value]) (by cases a <;> simp)

@[simp] theorem asWakeReason_value (a : WakeReason) : asWakeReason (.str a.value) = .ok a :=
  asEnum_text (by simp) (by cases a; simp)

@[simp] theorem asControlStatus_value (a : ControlStatus) :
    asControlStatus (.str a.value) = .ok a :=
  asEnum_text (by simp [ControlStatus.value]) (by cases a <;> simp)

@[simp] theorem asControlReason_value (a : ControlReason) :
    asControlReason (.str a.value) = .ok a :=
  asEnum_text (by simp [ControlReason.value]) (by cases a <;> simp)

@[simp] theorem asCancellationScope_value (a : CancellationScope) :
    asCancellationScope (.str a.value) = .ok a :=
  asEnum_text (by simp [CancellationScope.value]) (by cases a <;> simp)

@[simp] theorem asTaskStatus_value (a : TaskStatus) : asTaskStatus (.str a.value) = .ok a :=
  asEnum_text (by simp [TaskStatus.all, TaskStatus.value]) (by cases a <;> simp [TaskStatus.all])

@[simp] theorem asEventKind_value (a : EventKind) : asEventKind (.str a.value) = .ok a :=
  asEnum_text (List.Nodup.map EventKind.value_injective (by decide)) a.mem_all

theorem known_text {α : Type} {decoder : Json → Except String α} {text : α → String}
    {c : Closed α} (hdecoder : ∀ a, decoder (.str (text a)) = .ok a) (hc : c.isKnown) :
    known decoder (.str (c.text text)) = .ok c := by
  obtain ⟨a, rfl⟩ := Closed.isKnown_iff.mp hc
  rw [known, Closed.text, hdecoder a]
  rfl

section Fields

variable {f : Json → Json} {α : Type} {decoder : Json → Except String α} {encode : α → Json}

theorem readOptional_map {o : Option α} (h : ∀ a ∈ o, decoder (f (encode a)) = .ok a) :
    readOptional decoder ((o.map encode).map f) = .ok o := by
  cases o with
  | none => rfl
  | some a =>
    rw [map_some, map_some, readOptional, h a rfl]
    rfl

theorem readScalar_int (hf : Json.Reorders f) (o : Option Int) :
    readScalar asInt ((o.map Json.int).map f) = .ok o := by
  cases o with
  | none => rfl
  | some n => simp only [map_some, hf.int]; rfl

theorem readScalar_str (hf : Json.Reorders f) (o : Option String) :
    readScalar asStr ((o.map Json.str).map f) = .ok o := by
  cases o with
  | none => rfl
  | some s => simp only [map_some, hf.str]; rfl

theorem asArray_arr (hf : Json.Reorders f) (message : String) (items : List Json) :
    asArray message (f (Json.arr items)) = .ok (items.map f) := by
  rw [hf.arr, asArray]

theorem mapM_encode {xs : List α} (h : ∀ a ∈ xs, decoder (f (encode a)) = .ok a) :
    ((xs.map encode).map f).mapM decoder = .ok xs := by
  induction xs with
  | nil => rfl
  | cons a xs ih =>
    rw [map_cons, map_cons, mapM_cons, ih fun b hb => h b (by simp [hb]),
      h a (by simp)]
    rfl

/-- A list that is left out when it is empty is read back as well. -/
theorem getArray_ite (hf : Json.Reorders f) {value : Json} {key message : String} {xs : List α}
    [Decidable (xs = [])] (hmember : value.member? key =
      (if xs = [] then none else some (Json.arr (xs.map encode))).map f) :
    getArray value key message = .ok ((xs.map encode).map f) := by
  rw [getArray, hmember]
  by_cases hnil : xs = []
  · simp [hnil]
  · rw [if_neg hnil]
    exact asArray_arr hf message _

end Fields

end Decode

open Decode

/-! ### What can be decoded -/

/-- The States a Result holds are valid, and the Results it names are named as such. -/
def ResultValid : Result → Prop
  | .accepted a => StateValid a.state ∧ a.resultId.kind = .result
  | .noOp n => StateValid n.state ∧ n.priorResultId.kind = .result
  | .rejected r => StateValid r.state ∧ ∀ i ∈ r.priorResultId, i.kind = .result

section

variable (evidenceSet : List Evidence)

/-- The evidence in the order of `_canonical_evidence`. -/
def sortEvidence : List Evidence :=
  evidenceSet.insertionSort fun a b => canonicalJson a.canonical ≤ canonicalJson b.canonical

theorem sortEvidence_perm : (sortEvidence evidenceSet).Perm evidenceSet :=
  perm_insertionSort _ _

theorem canonicalEvidence_eq_map :
    canonicalEvidence evidenceSet = (sortEvidence evidenceSet).map Evidence.canonical :=
  (map_insertionSort (fun a b : Evidence => canonicalJson a.canonical ≤
    canonicalJson b.canonical) (fun a b => canonicalJson a ≤ canonicalJson b) Evidence.canonical
    evidenceSet fun _ _ _ _ => Iff.rfl).symm

end

/-- What the codec of the journal asks of an entry: a valid Event, evidence and a Result
under identities of their kinds, and valid States. -/
structure EntryValid (entry : ReplayEntry) : Prop where
  event : eventIsValid entry.event = true
  evidence : ∀ v ∈ entry.evidenceSet, v.evidenceId.kind = .evidence
  result : ResultValid entry.result

/-- An entry with its evidence in canonical order. -/
def ReplayEntry.sorted (entry : ReplayEntry) : ReplayEntry :=
  { entry with evidenceSet := sortEvidence entry.evidenceSet }

/-! ### Records -/

variable {kind : IdentityKind}

section Records

variable {f : Json → Json} (hf : Json.Reorders f)

include hf

theorem Identity.decode_canonical {i : Identity} (h : i.kind = kind) :
    identity kind (f i.canonical) = .ok i := by
  subst h
  rw [Identity.canonical]
  refine decode_of_reads hf (by simp) fun value hv => ?_
  rw [identity, hv.shape (by simp [lookup_cons]) (by simp)]
  simp [getItem, hv.member, lookup_cons, hf.str, dif_neg i.value_ne]

theorem readOptional_identity {o : Option Identity}
    (h : noneOr o (fun i => hasIdentityKind i kind)) :
    readOptional (identity kind) ((o.map Identity.canonical).map f) = .ok o := by
  refine readOptional_map fun i hi => Identity.decode_canonical hf ?_
  cases hi
  simpa [noneOr, hasIdentityKind] using h

theorem mapM_identity {ids : List Identity} (h : ids.all (fun i => hasIdentityKind i kind)) :
    ((ids.map Identity.canonical).map f).mapM (identity kind) = .ok ids := by
  refine mapM_encode fun i hi => Identity.decode_canonical hf ?_
  simpa [hasIdentityKind] using all_eq_true.mp h i hi

theorem Dependency.decode_canonical {d : Dependency}
    (h : hasIdentityKind d.workItemId .workItem) :
    dependency (f d.canonical) = .ok d := by
  have hid : d.workItemId.kind = .workItem := by simpa [hasIdentityKind] using h
  rw [Dependency.canonical]
  refine decode_of_reads hf (by simp) fun value hv => ?_
  rw [dependency, hv.shape (by simp [lookup_cons]) (by simp)]
  simp [getItem, hv.member, lookup_cons, hf.str, Identity.decode_canonical hf hid]

theorem Attempt.decode_canonical {a : Attempt} (h : attemptIsValid a) :
    attempt (f a.canonical) = .ok a := by
  simp only [attemptIsValid, hasIdentityKind, and_eq_true, beq_iff_eq] at h
  obtain ⟨⟨⟨⟨htask, hitem⟩, hatt⟩, hdisp⟩, -⟩ := h
  rw [Attempt.canonical]
  refine decode_of_reads hf (by simp) fun value hv => ?_
  rw [attempt, hv.shape (by simp [lookup_cons]) (by simp)]
  simp [getItem, hv.member, lookup_cons, hf.str, hf.int, asInt, Identity.decode_canonical hf,
    htask, hitem, hatt, hdisp]

theorem WorkItem.decode_canonical {w : WorkItem} {taskId : Identity}
    (htask : taskId.kind = .task) (h : workItemIsValid w taskId) :
    workItem (f w.canonical) = .ok w := by
  simp only [workItemIsValid, hasIdentityKind, and_eq_true, beq_iff_eq] at h
  obtain ⟨⟨⟨⟨hbd, hitem⟩, hdeps⟩, -⟩, hatt⟩ := h
  have htask : w.taskId.kind = .task := by rw [hbd, htask]
  have hlist : ((w.dependencies.map Dependency.canonical).map f).mapM dependency =
      .ok w.dependencies := by
    refine mapM_encode fun d hd => Dependency.decode_canonical hf ?_
    have hval := List.all_eq_true.mp hdeps d hd
    simp only [and_eq_true] at hval
    exact hval.1
  have hcur : readScalar attempt (some (f (w.currentAttempt.elim .null Attempt.canonical))) =
      .ok w.currentAttempt := by
    cases ho : w.currentAttempt with
    | none => rw [Option.elim_none, hf.null]; rfl
    | some a =>
      simp only [ho, noneOr, Option.all_some, and_eq_true] at hatt
      have hread := Attempt.decode_canonical hf hatt.1.1
      -- the canonical form of an Attempt is an object, not `null`
      have hobj : (f a.canonical) ≠ .null := by
        obtain ⟨members, hmbs, -⟩ := hf.obj _
        rw [Attempt.canonical, Json.record, hmbs]
        exact fun hnull => Json.noConfusion hnull
      rw [Option.elim_some, readScalar, hread]
      · rfl
      · exact hobj
  rw [WorkItem.canonical]
  refine decode_of_reads hf (by simp) fun value hv => ?_
  rw [workItem, hv.shape (by simp [lookup_cons]) (by simp)]
  simp [getItem, getScalar, hv.member, lookup_cons, hf.str, Identity.decode_canonical hf, htask,
    hitem, asArray_arr hf, hlist, hcur, -map_map]

variable {s : State} {e : Event}

theorem Suspension.decode_canonical {u : Suspension} (htask : s.taskId.kind = .task)
    (h : suspensionIsValid u s) : suspension (f u.canonical) = .ok u := by
  simp only [suspensionIsValid, hasIdentityKind, and_eq_true, beq_iff_eq] at h
  obtain ⟨⟨⟨⟨⟨⟨⟨⟨⟨hbd, hid⟩, -⟩, hpol⟩, -⟩, -⟩, -⟩, hreq⟩, -⟩, hwait⟩ := h
  have htask : u.taskId.kind = .task := by rw [hbd, htask]
  have hwake : noneOr u.acceptedWakeId (fun i => hasIdentityKind i .wake) := by
    cases hw : u.acceptedWakeId with
    | none => rfl
    | some i =>
      cases hs : u.status with
      | waiting => simp [hs, hw] at hwait
      | resumed =>
        simp only [hs, hw, hasIdentityKind?, any_some, and_eq_true] at hwait
        exact hwait.1
  have hrsn : readOptional asWakeReason
      ((u.wakeReason.map fun r => Json.str r.value).map f) = .ok u.wakeReason :=
    readOptional_map fun r _ => by rw [hf.str]; exact asWakeReason_value r
  rw [Suspension.canonical]
  refine decode_of_reads hf (by simp) fun value hv => ?_
  rw [suspension, hv.shape (by simp [lookup_cons]) (by simp)]
  simp [getItem, getOptional, hv.member, lookup_cons, hf.str, hf.int, asInt, asStr,
    Identity.decode_canonical hf, htask, hid, hpol, asArray_arr hf, mapM_identity hf hreq,
    readOptional_identity hf hwake, hrsn, -map_map, -Option.map_map]

theorem ControlState.decode_canonical {c : ControlState} (h : controlIsValid c) :
    Decode.control (f c.canonical) = .ok c := by
  rw [controlIsValid, and_eq_true] at h
  have hintr : noneOr c.activeInterruptId (fun i => hasIdentityKind i .interrupt) := by
    cases hi : c.activeInterruptId with
    | none => rfl
    | some i =>
      cases hs : c.status with
      | active => simp [hs, hi] at h
      | interrupted =>
        simp only [hs, hi, hasIdentityKind?, any_some] at h
        exact h.2
  rw [ControlState.canonical]
  refine decode_of_reads hf (by simp) fun value hv => ?_
  rw [Decode.control, hv.shape (by simp [lookup_cons]) (by simp)]
  simp [getItem, getOptional, hv.member, lookup_cons, hf.str, hf.int, asInt,
    readOptional_identity hf hintr, -map_map, -Option.map_map]

theorem AcceptedEvent.decode_canonical {a : AcceptedEvent} (h : acceptedEventIsValid a) :
    Decode.acceptedEvent (f a.canonical) = .ok a := by
  simp only [acceptedEventIsValid, hasIdentityKind, and_eq_true, beq_iff_eq] at h
  obtain ⟨⟨⟨hev, hres⟩, -⟩, -⟩ := h
  rw [AcceptedEvent.canonical]
  refine decode_of_reads hf (by simp) fun value hv => ?_
  rw [Decode.acceptedEvent, hv.shape (by simp [lookup_cons]) (by simp)]
  simp [getItem, hv.member, lookup_cons, hf.str, asStr, Identity.decode_canonical hf, hev, hres]

/-- **Decoding inverts the canonical form of a State.** -/
theorem State.decode_canonical (h : StateValid s) :
    Decode.state (f s.canonical) = .ok s := by
  have hst : known asTaskStatus (.str (s.status.text TaskStatus.value)) = .ok s.status :=
    known_text asTaskStatus_value (Closed.isKnown_iff.mpr h.status)
  have hacc : ((s.acceptedEvents.map AcceptedEvent.canonical).map f).mapM
      Decode.acceptedEvent = .ok s.acceptedEvents :=
    mapM_encode fun a ha => AcceptedEvent.decode_canonical hf (h.accepted a ha)
  have hitems : ((s.workItems.map WorkItem.canonical).map f).mapM workItem = .ok s.workItems :=
    mapM_encode fun w hw => WorkItem.decode_canonical hf h.task (h.items w hw)
  have hsusp : readOptional Decode.suspension
      ((s.suspension.map Suspension.canonical).map f) = .ok s.suspension :=
    readOptional_map fun u hu => Suspension.decode_canonical hf h.task (h.suspension u hu)
  have hctrl : readOptional Decode.control
      ((s.control.map ControlState.canonical).map f) = .ok s.control :=
    readOptional_map fun c hc => ControlState.decode_canonical hf (h.control c hc)
  rw [State.canonical]
  refine decode_of_reads hf (by simp) fun value hv => ?_
  have hlist : ∀ message, getArray value "work_items" message =
      .ok ((s.workItems.map WorkItem.canonical).map f) :=
    fun message => getArray_ite hf (by rw [hv.member]; simp [lookup_cons])
  rw [Decode.state, hv.shape (by simp [lookup_cons]) (by simp)]
  simp [getItem, getOptional, hv.member, lookup_cons, hf.str, hf.int, asInt, asStr, hasText,
    hst, Identity.decode_canonical hf, h.installation, h.task, asArray_arr hf, hacc, hlist,
    hitems, hsusp, hctrl, -map_map, -Option.map_map]

theorem readOptional_known {α : Type} {decoder : Json → Except String α} {text : α → String}
    {o : Option (Closed α)} (hdecoder : ∀ a, decoder (.str (text a)) = .ok a)
    (h : noneOr o Closed.isKnown) :
    readOptional (known decoder) ((o.map fun c => Json.str (c.text text)).map f) = .ok o := by
  refine readOptional_map fun c hc => ?_
  rw [hf.str]
  refine known_text hdecoder ?_
  cases hc
  simpa [noneOr] using h

/-- **Decoding inverts the canonical form of an Event.** -/
theorem Event.decode_canonical (h : eventIsValid e) :
    Decode.event (f e.canonical) = .ok e := by
  simp only [eventIsValid, and_eq_true] at h
  obtain ⟨⟨⟨⟨⟨⟨⟨⟨⟨⟨⟨⟨⟨⟨⟨⟨⟨⟨⟨⟨⟨⟨⟨⟨⟨⟨heventId, hinst⟩, htask⟩, -⟩, -⟩, hkind⟩, hitem⟩,
    hatt⟩, hdisp⟩, -⟩, hsusp⟩, -⟩, hpol⟩, -⟩, hreq⟩, hwake⟩, hrsn⟩,
    hprin⟩, hauth⟩, hctrl⟩, hscope⟩, hintr⟩, hredirect⟩, -⟩, -⟩, hsup⟩, -⟩ := h
  simp only [hasIdentityKind, beq_iff_eq] at heventId hinst htask
  have hkind : known asEventKind (.str (e.kind.text EventKind.value)) = .ok e.kind :=
    known_text asEventKind_value hkind
  have hrsn : readOptional (known asWakeReason)
      ((e.wakeReason.map fun r => Json.str (r.text WakeReason.value)).map f) = .ok e.wakeReason :=
    readOptional_known hf asWakeReason_value hrsn
  have hctrl : readOptional (known asControlReason)
      ((e.controlReason.map fun r => Json.str (r.text ControlReason.value)).map f) =
        .ok e.controlReason :=
    readOptional_known hf asControlReason_value hctrl
  have hscope : readOptional (known asCancellationScope)
      ((e.cancellationScope.map fun c => Json.str (c.text CancellationScope.value)).map
        f) = .ok e.cancellationScope :=
    readOptional_known hf asCancellationScope_value hscope
  rw [Event.canonical]
  refine decode_of_reads hf (by simp only [List.map]; decide) fun value hv => ?_
  have hfront : ∀ message, getArray value "required_work_item_ids" message =
      .ok ((e.requiredWorkItemIds.map Identity.canonical).map f) :=
    fun message => getArray_ite hf (by rw [hv.member]; simp [lookup_cons, canonicalIds])
  have hlist : ∀ message, getArray value "superseded_work_item_ids" message =
      .ok ((e.supersededWorkItemIds.map Identity.canonical).map f) :=
    fun message => getArray_ite hf (by rw [hv.member]; simp [lookup_cons, canonicalIds])
  rw [Decode.event, hv.shape (by simp [lookup_cons]) (by simp)]
  simp [getItem, getOptional, getScalar, hv.member, lookup_cons, hf.str, hf.int, asInt,
    hasText, hkind, hrsn, hctrl, hscope, hfront, hlist, mapM_identity hf hreq,
    mapM_identity hf hsup, readScalar_int hf, readScalar_str hf,
    Identity.decode_canonical hf, heventId, hinst, htask, readOptional_identity hf,
    hitem, hatt, hdisp, hsusp, hpol, hwake, hprin, hauth, hintr,
    hredirect, -map_map, -Option.map_map]

theorem Evidence.decode_canonical {v : Evidence} (h : v.evidenceId.kind = .evidence) :
    Decode.evidence (f v.canonical) = .ok v := by
  rw [Evidence.canonical]
  refine decode_of_reads hf (by simp) fun value hv => ?_
  rw [Decode.evidence, hv.shape (by simp [lookup_cons]) (by simp)]
  simp [getItem, hv.member, lookup_cons, hf.str, asStr, hasText, Identity.decode_canonical hf h]

/-! ### Results -/

theorem mapM_str (texts : List String) :
    ((texts.map Json.str).map f).mapM asStr = .ok texts :=
  mapM_encode fun _ _ => by rw [hf.str, asStr]

theorem Accepted.decode_canonical {a : Accepted} (hsta : StateValid a.state)
    (hid : a.resultId.kind = .result) : Decode.result (f a.canonical) = .ok (.accepted a) := by
  rw [Accepted.canonical]
  refine decode_of_reads hf (by simp) fun value hv => ?_
  simp [Decode.result, hasText, Decode.accepted, hv.shape, getItem, hv.member, lookup_cons,
    hf.str, asStr, asArray_arr hf, mapM_str hf, Identity.decode_canonical hf hid,
    State.decode_canonical hf hsta, -map_map]
  rfl

theorem NoOp.decode_canonical {n : NoOp} (hsta : StateValid n.state)
    (hid : n.priorResultId.kind = .result) : Decode.result (f n.canonical) = .ok (.noOp n) := by
  rw [NoOp.canonical]
  refine decode_of_reads hf (by simp) fun value hv => ?_
  simp [Decode.result, hasText, Decode.noOp, hv.shape, getItem, hv.member, lookup_cons, hf.str,
    asStr, Identity.decode_canonical hf hid, State.decode_canonical hf hsta]
  rfl

theorem Rejected.decode_canonical {r : Rejected} (hsta : StateValid r.state)
    (hid : ∀ i ∈ r.priorResultId, i.kind = .result) :
    Decode.result (f r.canonical) = .ok (.rejected r) := by
  have hpr : readOptional (identity .result)
      ((r.priorResultId.map Identity.canonical).map f) = .ok r.priorResultId :=
    readOptional_map fun i hi => Identity.decode_canonical hf (hid i hi)
  rw [Rejected.canonical]
  refine decode_of_reads hf (by simp) fun value hv => ?_
  simp [Decode.result, hasText, Decode.rejected, hv.shape, getItem, getOptional, getScalar,
    hv.member, lookup_cons, hf.str, asStr, readScalar_str hf, hpr,
    State.decode_canonical hf hsta, -Option.map_map]
  rfl

/-- **Decoding inverts the canonical form of a Result.** -/
theorem Result.decode_canonical {r : Result} (h : ResultValid r) :
    Decode.result (f r.canonical) = .ok r := by
  cases r with
  | accepted a => exact Accepted.decode_canonical hf h.1 h.2
  | noOp n => exact NoOp.decode_canonical hf h.1 h.2
  | rejected r => exact Rejected.decode_canonical hf h.1 h.2

/-! ### Entries and roots -/

/-- **Decoding inverts the canonical form of an entry**, up to the order of the evidence. -/
theorem ReplayEntry.decode_canonical {entry : ReplayEntry} (h : EntryValid entry) :
    decodeReplayEntry (f entry.canonical) = .ok entry.sorted := by
  have hevid : (((sortEvidence entry.evidenceSet).map Evidence.canonical).map
      f).mapM Decode.evidence = .ok (sortEvidence entry.evidenceSet) :=
    mapM_encode fun v hv => Evidence.decode_canonical hf
      (h.evidence v ((sortEvidence_perm _).mem_iff.mp hv))
  rw [ReplayEntry.canonical, canonicalEvidence_eq_map]
  refine decode_of_reads hf (by simp) fun value hv => ?_
  rw [decodeReplayEntry, hv.shape (by simp [lookup_cons]) (by simp)]
  simp [getItem, hv.member, lookup_cons, hf.str, hasText, asArray_arr hf, hevid,
    Event.decode_canonical hf h.event, Result.decode_canonical hf h.result, -map_map]
  rfl

/-- **`decode_event` accepts the canonical form of a valid Event.** -/
theorem Event.decodeEvent_canonical (h : eventIsValid e) :
    decodeEvent (f e.canonical) = .ok e := by
  have htext : canonicalJson (f e.canonical) = canonicalJson e.canonical := by
    rw [canonicalJson, canonicalJson, hf.sorted]
  rw [decodeEvent, Event.decode_canonical hf h, ok_bind, if_neg (not_not.mpr htext.symm)]

/-- **`decode_genesis_root` accepts the canonical form of a valid genesis.** -/
theorem decodeGenesisRoot_canonical {g : State} (h : genesisIsValid g) :
    decodeGenesisRoot (f (genesisCanonical g)) = .ok g := by
  have htext : canonicalJson (genesisCanonical g) = canonicalJson (f (genesisCanonical g)) := by
    rw [canonicalJson, canonicalJson, hf.sorted]
  obtain ⟨r, hr⟩ := replay_genesis_nil.mpr h
  have hsta := State.decode_canonical hf (genesisIsValid_iff.mp h).1
  have hdecode : ∀ value, Reads f [("schema_version", some (.str "valp-kernel-genesis-root.v1")),
      ("state", some g.canonical), ("prefix_digest", some (.str emptyReplayPrefixDigest))] value →
      canonicalJson (genesisCanonical g) = canonicalJson value →
      decodeGenesisRoot value = .ok g := by
    intro value hv htext
    have hsch : (!hasText value "schema_version" "valp-kernel-genesis-root.v1") = false := by
      simp [hasText, hv.member, hf.str]
    have hitem : getItem value "state" = .ok (f g.canonical) := by
      simp [getItem, hv.member, lookup_cons]
    rw [decodeGenesisRoot, hv.shape (by simp [lookup_cons]) (by simp), ok_bind, hsch,
      if_neg Bool.false_ne_true, hitem, ok_bind, hsta, ok_bind, if_neg (not_not.mpr htext), hr]
    rfl
  exact of_reads hf (P := fun v => canonicalJson (genesisCanonical g) = canonicalJson v →
    decodeGenesisRoot v = .ok g) (by simp) hdecode htext

end Records

end Valp.Kernel
