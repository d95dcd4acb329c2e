/-
The wait events of a task and their validator (`valp_cli/workflow.py`).

A suspension, every completion of a work item under it and the wake behind it are lines of
`wait-events.jsonl`.  Each line carries the whole suspension as it was then.
`validated_wait_events` reads the ledger back before every call: it follows the numbers and
revisions, the lists of work items from one line to the next, and what a line says about
receipts, wait policies and wake results against the other files of the task.

A check that returns a text is a check that raises it here, since its caller does.
-/
import Valp.DispatchFrontier
import Valp.DispatchTranslate
import Valp.KernelRuntime

namespace Valp.Wait

open Json (Value)
open Queue (exactInt asStr)
open Dispatch (inSet strOf strOrEmpty intOr iterate orElse emptyDict TaskDir)
open Kernel (DocumentFile)

abbrev Fault := Dispatch.Fault

/-! ### The files -/

/-- What Python does with a list or a dictionary as a text and with a text as a number. -/
structure Python where
  text : Json → String
  text_arr : ∀ items, (text (.arr items)).toList.head? = some '['
  text_obj : ∀ members, (text (.obj members)).toList.head? = some '\x7b'
  number : String → Option Int

/-- What the calls read and no call changes. -/
structure Env extends Python where
  taskId : String

/-- The file of a wait policy: its text and what the decoder makes of it. -/
structure PolicyFile where
  text : String
  content : DocumentFile Value

/-- What a ref leads to from the task directory, behind the links on its way: a file with its
bytes and what `json.loads` makes of them. -/
inductive TaskFile where
  | outside
  | absent
  | file (raw : List UInt8) (content : Option Value)

/-- `path.is_file()` and not empty. -/
def TaskFile.isFilled : TaskFile → Bool
  | .file raw _ => !raw.isEmpty
  | _ => false

/-- The files of a task that the validator reads. -/
structure Directory where
  dispatch : TaskDir
  waitEvents : Option (List Char)
  /-- `submission-dependencies.json`. -/
  dependencies : DocumentFile Value
  /-- `wait-policy.json` and the snapshots under `wait-policies`. -/
  policies : String → Option PolicyFile
  /-- The files under `wake-results`. -/
  wakeResults : String → DocumentFile Value
  /-- The evidence that suspensions and wakes refer to. -/
  files : String → TaskFile

/-- `raise SystemExit(message)` under a condition. -/
def exitIf (condition : Bool) (message : String) : Except Fault Unit :=
  if condition then .error (.exit message) else .ok ()

/-- A check that is made under a condition. -/
def checkIf (condition : Bool) (check : Except Fault Unit) : Except Fault Unit :=
  if condition then check else .ok ()

/-- `path.name`. -/
def fileName (ref : String) : String :=
  String.ofList (ref.toList.reverse.takeWhile (· != '/')).reverse

def readJsonStrict (ref : String) : DocumentFile Value → Except Fault Value
  | .missing => .error (.exit ("Missing " ++ fileName ref))
  | .malformed => .error (.exit ("Invalid JSON at " ++ fileName ref ++ ": "))
  | .document v =>
    if v.isObject then .ok v
    else .error (.exit ("Invalid JSON at " ++ fileName ref ++ ": expected object"))

def safeTaskEvidenceRef (ref : String) : Bool :=
  ref != "" && ref.toList.head? != some '/' && ref.toList.head? != some '\\' &&
    ref.toList.all (fun c => c != '\\' && c != ':') &&
    (ref.toList.splitOn '/').all fun part => part ≠ [] ∧ part ≠ ['.'] ∧ part ≠ ['.', '.']

def suspensionCheckpointError (dir : Directory) (suspension : Value) : Option String :=
  if (suspension.get "checkpoint_ref").isNone then none
  else
    match (asStr (suspension.get "checkpoint_ref")).filter safeTaskEvidenceRef with
    | none => some "Suspension checkpoint_ref must be a safe task-local ref"
    | some ref =>
      match dir.files ref with
      | .outside => some "Suspension checkpoint_ref escapes the task directory"
      | file =>
        if file.isFilled then none
        else some "Suspension checkpoint_ref does not name a durable non-empty checkpoint"

/-! ### Identities -/

def waitEventId (taskId event suspensionId : String) (eventSequence resultingRevision : Int) :
    String :=
  Kernel.digestText (taskId ++ ":" ++ event ++ ":" ++ suspensionId ++ ":" ++
    toString eventSequence ++ ":" ++ toString resultingRevision)

/-- `deterministic_wake_id`; `None` is `null`. -/
def deterministicWakeId (text : Json → String) (taskId : String) (suspensionEpoch : Int)
    (resumeEvent : String) (resumeRef externalEvent : Value) : String :=
  let wakeSource :=
    if externalEvent.isNone then strOrEmpty text resumeRef
    else strOrEmpty text (externalEvent.get "source_digest")
  Kernel.digestText (taskId ++ ":" ++ toString suspensionEpoch ++ ":" ++ resumeEvent ++ ":" ++
    wakeSource)

/-- The ref of the result of a wake. -/
def wakeResultRef (wakeId : String) : String :=
  "wake-results/" ++ String.ofList (wakeId.toList.drop 7) ++ ".json"

/-- `WAKE_REASONS_BY_RESUME_EVENT`. -/
def wakeReasons : String → List String
  | "receipt" => ["dependency_ready", "dispatch_blocked", "manual_blocked"]
  | "timeout" => ["timeout"]
  | "runtime_failure" => ["runtime_failure"]
  | "cancellation" => ["cancellation"]
  | "user_input" => ["user_input"]
  | _ => []

def wakeReasonPairError (resumeEvent wakeReason : String) : Except Fault Unit :=
  exitIf (!(wakeReasons resumeEvent).contains wakeReason)
    ("Illegal resume_event/wake_reason combination: " ++ resumeEvent ++ "/" ++ wakeReason)

/-- `TASK_STATUS_BY_WAKE_REASON`. -/
def statusOfWake : String → Option String
  | "dependency_ready" | "user_input" => some "executing"
  | "dispatch_blocked" | "manual_blocked" | "timeout" | "runtime_failure" => some "blocked"
  | "cancellation" => some "cancelled"
  | _ => none

def wakeStatusPairError (wakeReason taskStatus : String) : Except Fault Unit :=
  exitIf (statusOfWake wakeReason != some taskStatus)
    ("Illegal wake_reason/resulting task status combination: " ++ wakeReason ++ "/" ++ taskStatus)

def externalResumeEvents : List String := ["runtime_failure", "cancellation", "user_input"]

/-- The events of a receipt that completes a work item. -/
def completionEvents : List String := ["dispatch_completed", "manual_result_attested"]

/-- The reasons of a wake by a receipt that blocks. -/
def blockedReasons : List String := ["dispatch_blocked", "manual_blocked"]

/-! ### The shape of a suspension -/

def workItemStateFields : List String :=
  ["completed_work_item_ids", "pending_work_item_ids", "failed_work_item_ids"]

/-- `DETERMINISTIC_SUSPENSION_REQUIRED_FIELDS`. -/
def suspensionRequiredFields : List String := [
  "status", "suspension_id", "suspension_epoch", "state_revision_at_entry", "wait_policy_ref",
  "wait_policy_id", "strict_identity", "event_sequence_at_entry",
  "receipt_event_sequence_at_entry", "receipt_cursor_at_entry", "required_work_items",
  "required_work_item_ids", "pending_work_item_ids", "completed_work_item_ids",
  "failed_work_item_ids", "entered_at", "deadline_at", "execution_deadline",
  "waiting_for_agents", "receipt_count_at_entry", "allowed_resume_events"]

/-- `DETERMINISTIC_SUSPENSION_OPTIONAL_FIELDS`. -/
def suspensionOptionalFields : List String := [
  "checkpoint_ref", "evidence_refs_present_at_entry", "receipt_cursor", "resume_event",
  "resumed_at", "resume_ref", "accepted_wake"]

/-- `", ".join(sorted(names))`. -/
def joinSorted (names : List String) : String :=
  ", ".intercalate (names.insertionSort (· ≤ ·))

def deterministicSuspensionShapeError (suspension : Value) : Except Fault Unit :=
  let missing := suspensionRequiredFields.filter fun field => !suspension.has field
  let unknown := suspension.keys.filter fun field =>
    !(suspensionRequiredFields ++ suspensionOptionalFields).contains field
  if missing ≠ [] then
    .error (.exit ("Deterministic suspension is missing closed fields: " ++ joinSorted missing))
  else exitIf (unknown ≠ [])
    ("Deterministic suspension has unknown control fields: " ++ joinSorted unknown)

/-- The items of a list; `none` for what is not `isinstance(v, list)`. -/
def listItems (v : Value) : Option (List Json) :=
  match v.1 with
  | .arr items => some items
  | _ => none

/-- A string that is not empty. -/
def nameOf : Json → Option String
  | .str s => if s = "" then none else some s
  | _ => none

/-- A list of distinct strings that are not empty. -/
def distinctNames (v : Value) : Option (List String) := do
  let items ← listItems v
  let names ← items.mapM nameOf
  if names.Nodup then some names else none

/-- What Python's equality sees of a list of strings. -/
def nameKeys (names : List String) : List (List Char) := names.map fun name => (Json.str name).key

/-- The work items of a suspension and how far they are. -/
structure Barrier where
  required : List String
  completed : List String
  pending : List String
  failed : List String
  deriving DecidableEq

/-- Whether these are dictionaries with the required identities, in this order. -/
def itemsNamed (workItems : Value) (required : List String) : Bool :=
  match listItems workItems with
  | none => false
  | some items =>
    items.all (fun item => item.shape == 5) &&
      items.map (fun item => ((item.member? "work_item_id").getD .null).key) == nameKeys required

/-- One of the three lists of work items. -/
def stateField (suspension : Value) (required : List String) (field : String) :
    Except Fault (List String) :=
  match distinctNames (suspension.get field) with
  | none => .error (.exit ("Wait event " ++ field ++ " is invalid"))
  | some names =>
    if names.all required.contains then .ok names
    else .error (.exit ("Wait event " ++ field ++ " is invalid"))

/-- The part of `wait_work_item_transition_error` that looks at the projection alone. -/
def barrierOf (current : Value) : Except Fault Barrier := do
  deterministicSuspensionShapeError current
  match distinctNames (current.get "required_work_item_ids") with
  | none => .error (.exit "Wait event work-item identity set is invalid")
  | some required =>
    exitIf (required.isEmpty || !itemsNamed (current.get "required_work_items") required)
      "Wait event work-item identity set is invalid"
    let completed ← stateField current required "completed_work_item_ids"
    let pending ← stateField current required "pending_work_item_ids"
    let failed ← stateField current required "failed_work_item_ids"
    exitIf (completed.any pending.contains || !required.all (completed ++ pending).contains)
      "Wait event completed and pending work-item sets do not partition required work"
    exitIf (completed.any failed.contains)
      "Wait event cannot mark a completed work item as failed"
    .ok ⟨required, completed, pending, failed⟩

/-! ### From one line to the next -/

/-- The three lists of the projection before, as Python's equality sees them. -/
structure PreviousSets where
  completed : List (List Char)
  pending : List (List Char)
  failed : List (List Char)

def previousSets (previous : Value) : Option PreviousSets := do
  let completed ← listItems (previous.get "completed_work_item_ids")
  let pending ← listItems (previous.get "pending_work_item_ids")
  let failed ← listItems (previous.get "failed_work_item_ids")
  some ⟨completed.map Json.key, pending.map Json.key, failed.map Json.key⟩

/-- The lists behind a `work_item_completed`. -/
def completedTransition (event : Value) (barrier : Barrier) (previous : PreviousSets) :
    Except Fault Unit :=
  match asStr (event.get "work_item_id") with
  | none => .error (.exit "Completed work-item event does not identify pending work")
  | some workItemId => do
    exitIf (!previous.pending.contains (Json.str workItemId).key)
      "Completed work-item event does not identify pending work"
    exitIf (nameKeys barrier.completed != previous.completed ++ [(Json.str workItemId).key] ||
        nameKeys barrier.pending != previous.pending.filter (· != (Json.str workItemId).key) ||
        nameKeys barrier.failed != previous.failed)
      "Completed work-item event has an invalid set transition"

/-- The lists behind a wake. -/
def resumedTransition (wakeReason : String) (barrier : Barrier) (previous : PreviousSets) :
    Except Fault Unit :=
  if wakeReason = "dependency_ready" then
    exitIf (previous.pending.length != 1 ||
        nameKeys barrier.completed != previous.completed ++ previous.pending.take 1 ||
        !barrier.pending.isEmpty || nameKeys barrier.failed != previous.failed)
      "dependency_ready wake has an invalid work-item set transition"
  else if blockedReasons.contains wakeReason then
    exitIf (nameKeys barrier.completed != previous.completed ||
        nameKeys barrier.pending != previous.pending ||
        (nameKeys barrier.failed).take previous.failed.length != previous.failed ||
        ((nameKeys barrier.failed).drop previous.failed.length).length != 1 ||
        !((nameKeys barrier.failed).drop previous.failed.length).all previous.pending.contains)
      "Blocked work-item wake has an invalid set transition"
  else
    exitIf (nameKeys barrier.completed != previous.completed ||
        nameKeys barrier.pending != previous.pending || nameKeys barrier.failed != previous.failed)
      "Exception wake changed committed work-item sets"

/-- `wait_work_item_transition_error`; a suspension `None` is `null`. -/
def waitWorkItemTransitionError (text : Json → String) (previous event : Value) :
    Except Fault Unit := do
  let current := (event.get "projection").get "suspension"
  let barrier ← barrierOf current
  let eventName := strOrEmpty text (event.get "event")
  if eventName = "coordinator_suspended" then
    exitIf (!barrier.completed.isEmpty || !barrier.failed.isEmpty ||
        barrier.pending != barrier.required)
      "New suspension work-item sets do not match the required barrier"
  else do
    exitIf (!previous.isObject) "Wait event work-item transition has no preceding projection"
    exitIf (["suspension_id", "suspension_epoch", "required_work_items",
        "required_work_item_ids"].any fun field =>
          !(current.get field).equal (previous.get field))
      "Wait event changed suspension work-item identity"
    match previousSets previous with
    | none => .error (.exit "Preceding wait projection has invalid work-item sets")
    | some sets =>
      if eventName = "work_item_completed" then completedTransition event barrier sets
      else if eventName ≠ "coordinator_resumed" then
        .error (.exit "Wait event has an unsupported work-item transition")
      else resumedTransition (strOrEmpty text (event.get "wake_reason")) barrier sets

/-! ### The receipt of a line -/

/-- What a line says about its receipt: the ref, the events that support it and the work item,
`null` where the line names none. -/
structure ReceiptClaim where
  ref : Value
  expectedEvents : List String
  workItemId : Value

/-- The first part of `wait_receipt_event_error`; `none` for a line without a receipt. -/
def receiptClaim (text : Json → String) (event : Value) : Except Fault (Option ReceiptClaim) :=
  let eventName := strOrEmpty text (event.get "event")
  let wakeReason := strOrEmpty text (event.get "wake_reason")
  if eventName = "work_item_completed" then
    .ok (some ⟨event.get "receipt_ref", completionEvents, event.get "work_item_id"⟩)
  else if eventName = "coordinator_resumed" ∧ (event.get "resume_event").equal (.str "receipt") then
    if wakeReason = "dependency_ready" then
      .ok (some ⟨event.get "resume_ref", completionEvents, .null⟩)
    else if blockedReasons.contains wakeReason then
      .ok (some ⟨event.get "resume_ref", [wakeReason], .null⟩)
    else .error (.exit "Receipt-driven wake has an unsupported wake reason")
  else .ok none

/-- `"dispatch-receipts.jsonl#"`. -/
def receiptRefStart : String := "dispatch-receipts.jsonl#"

/-- `int(ref.rsplit("#", 1)[1])` of a dispatch receipt ref. -/
def receiptIndex (number : String → Option Int) (ref : String) : Option Int :=
  if receiptRefStart.toList.isPrefixOf ref.toList then
    number (String.ofList (ref.toList.reverse.takeWhile (· != '#')).reverse)
  else none

/-- The receipt that a ref leads to. -/
def receiptAt (number : String → Option Int) (receipts : List Value) (ref : Value) :
    Except Fault (String × Value) :=
  match asStr ref with
  | none => .error (.exit "Wait event has an invalid receipt ref")
  | some ref =>
    match receiptIndex number ref with
    | none => .error (.exit "Wait event has an invalid receipt ref")
    | some index =>
      if index < 1 then .error (.exit "Wait event receipt ref does not exist")
      else
        match receipts[(index - 1).toNat]? with
        | none => .error (.exit "Wait event receipt ref does not exist")
        | some receipt => .ok (ref, receipt)

/-- The required work items that a receipt names. -/
def namedItems (strictIdentity : Bool) (receipt : Value) (items : List Value) : List Value :=
  items.filter fun item => item.isObject &&
    if strictIdentity then (item.get "work_item_id").equal (receipt.get "work_item_id")
    else (item.get "agent").equal (receipt.get "agent")

/-- The end of `wait_receipt_event_error`: the item of a wake against the lists. -/
def wakeItemError (eventName wakeReason : String) (previous suspension : Value)
    (workItemId : String) : Except Fault Unit :=
  if eventName = "coordinator_resumed" ∧ previous.isObject then
    if wakeReason = "dependency_ready" then do
      let pending ← iterate (previous.get "pending_work_item_ids")
      exitIf (!pending.any (·.equal (.str workItemId)))
        "dependency_ready receipt does not complete the preceding pending work item"
    else if blockedReasons.contains wakeReason then do
      let previousFailed ← iterate (previous.get "failed_work_item_ids")
      let currentFailed ← iterate (suspension.get "failed_work_item_ids")
      exitIf ((currentFailed.drop previousFailed.length).map (·.1.key) != nameKeys [workItemId])
        "Blocked wake receipt does not match the newly failed work item"
    else .ok ()
  else .ok ()

def waitReceiptEventError (env : Env) (dir : Directory) (event previous : Value)
    (receipts : List Value) : Except Fault Unit := do
  match ← receiptClaim env.text event with
  | none => .ok ()
  | some claim =>
    let (ref, receipt) ← receiptAt env.number receipts claim.ref
    let effective ← Dispatch.runtimeReceiptIsEffective env.text dir.dispatch receipt
    exitIf (!effective) "Wait event receipt was revoked or not selected by Manual adjudication"
    let qualifyingReceiptId := Dispatch.strOr env.text (receipt.get "receipt_id") ref
    exitIf (!(event.get "qualifying_receipt_id").equal (.str qualifyingReceiptId))
      "Wait event qualifying receipt ID does not match its ledger ref"
    let supported ← inSet (receipt.get "event") claim.expectedEvents
    exitIf (!supported) "Wait event receipt no longer supports its terminal event"
    let suspension := (event.get "projection").get "suspension"
    let items ← iterate (suspension.get "required_work_items")
    let strictIdentity := (suspension.get "strict_identity").truthy
    match namedItems strictIdentity receipt items with
    | [item] =>
      exitIf (!claim.workItemId.isNone && !(item.get "work_item_id").equal claim.workItemId)
        "Completed wait event work item does not match its receipt"
      let epoch ← intOr env.number (suspension.get "suspension_epoch") 0
      let entry ← intOr env.number (suspension.get "receipt_event_sequence_at_entry") 0
      let matched ← Dispatch.receiptMatchesWorkItem env.text receipt item env.taskId strictIdentity
        (some epoch) (some entry)
      exitIf (!matched) "Wait event receipt identity does not match its suspension"
      wakeItemError (strOrEmpty env.text (event.get "event"))
        (strOrEmpty env.text (event.get "wake_reason")) previous suspension
        (strOrEmpty env.text (item.get "work_item_id"))
    | _ => .error (.exit "Wait event receipt does not identify one required work item")

/-! ### The policy of a strict suspension -/

/-- `re.fullmatch(r"wait-policies/[0-9a-f]{64}\.json", ref)`, with the digits. -/
def snapshotDigits (ref : String) : Option String :=
  let digits := (ref.toList.drop 14).take 64
  if ref.toList = "wait-policies/".toList ++ digits ++ ".json".toList ∧ digits.length = 64 ∧
      digits.all "0123456789abcdef".toList.contains then some (String.ofList digits)
  else none

/-- `hashlib.sha256(text.encode("utf-8")).hexdigest()`. -/
def textHexdigest (text : String) : String :=
  String.ofList (Sha256.hexdigest (Sha256.sha256 text.toUTF8.data.toList))

/-- Whether a dictionary has these keys and no others. -/
def hasKeys (v : Value) (fields : List String) : Bool :=
  fields.all v.has && v.keys.all fields.contains

/-- The fields of a wait policy. -/
def waitPolicyFields : List String := [
  "schema_version", "task_id", "wait_policy_id", "mode", "exception_policy", "dependency_ref",
  "required_work_items", "exception_events"]

def waitWorkItemFields : List String := [
  "work_item_id", "agent", "role", "dispatch_id", "dispatch_generation", "expected_refs"]

def requiredWaitExceptionEvents : List String :=
  ["dispatch_blocked", "runtime_failure", "cancellation", "timeout", "user_input"]

def waitExceptionEvents : List String := "manual_blocked" :: requiredWaitExceptionEvents

/-- One turn of the loop over the work items of a policy: the identity of the item. -/
def policyItemId (text : Json → String) (item : Value) : Except Fault String := do
  let workItemId := strOrEmpty text (item.get "work_item_id")
  exitIf (!item.isObject || !hasKeys item waitWorkItemFields)
    "wait-policy.json contains an invalid work item"
  exitIf (workItemId == "" || strOrEmpty text (item.get "agent") == "" ||
      strOrEmpty text (item.get "role") == "")
    "wait-policy.json work item identity is incomplete"
  exitIf (strOrEmpty text (item.get "dispatch_id") == "") "wait-policy.json dispatch_id is missing"
  exitIf (!(exactInt (item.get "dispatch_generation")).any (1 ≤ ·))
    "wait-policy.json dispatch_generation is invalid"
  let refs := (listItems (item.get "expected_refs")).getD []
  exitIf refs.isEmpty "wait-policy.json expected_refs are missing"
  exitIf (refs.any fun ref => !safeTaskEvidenceRef (strOf text ref))
    "wait-policy.json contains an unsafe expected ref"
  .ok workItemId

/-- The checks of `load_wait_policy` behind the decoder. -/
def checkWaitPolicy (env : Env) (dir : Directory) (policy : Value) : Except Fault Unit := do
  exitIf (!hasKeys policy waitPolicyFields) "wait-policy.json has unexpected or missing fields"
  exitIf (!(policy.get "schema_version").equal (.str "valp-wait-policy.v1") ||
      !(policy.get "task_id").equal (.str env.taskId))
    "wait-policy.json identity is invalid"
  exitIf (!(policy.get "mode").equal (.str "dependency_ready"))
    "Deterministic wait requires dependency_ready mode"
  exitIf (!(policy.get "exception_policy").equal (.str "exception_short_circuit"))
    "Deterministic wait requires exception_short_circuit"
  -- an empty string is none of the events, so the list holds distinct names
  exitIf (!(distinctNames (policy.get "exception_events")).any fun events =>
      events.all waitExceptionEvents.contains && requiredWaitExceptionEvents.all events.contains)
    "wait-policy.json exception_events are invalid"
  exitIf (strOrEmpty env.text (policy.get "dependency_ref") != "submission-dependencies.json")
    "wait-policy.json must reference submission-dependencies.json"
  let dependencies ← readJsonStrict "submission-dependencies.json" dir.dependencies
  exitIf (!(dependencies.get "task_id").equal (.str env.taskId))
    "Wait policy dependency task_id does not match"
  exitIf (!(dependencies.get "schema_version").equal (.str "valp-submission-dependencies.v2"))
    "Deterministic wait requires submission dependency work item identities"
  exitIf ((listItems (policy.get "required_work_items")).getD []).isEmpty
    "wait-policy.json requires at least one work item"
  let items ← iterate (policy.get "required_work_items")
  let ids ← items.mapM (policyItemId env.text)
  exitIf (!decide ids.Nodup) "wait-policy.json work_item_id values must be unique"
  match listItems (dependencies.get "work_items") with
  | none => .error (.exit "submission dependency work items are missing")
  | some known =>
    match items.find? fun item => !known.any fun other => other.key == item.1.key with
    | none => .ok ()
    | some item => .error (.exit ("wait-policy.json references an unknown dependency work item: " ++
        strOf env.text (item.get "work_item_id").1))

/-- `load_wait_policy`, for a call without role assignments. -/
def loadWaitPolicy (env : Env) (dir : Directory) (policyRef : String) : Except Fault Value :=
  if policyRef ≠ "wait-policy.json" ∧ (snapshotDigits policyRef).isNone then
    .error (.exit "Wait policy snapshot ref is invalid")
  else
    match dir.policies policyRef with
    | none => .ok emptyDict
    | some file => do
      exitIf (policyRef != "wait-policy.json" &&
          snapshotDigits policyRef != some (textHexdigest file.text))
        "Wait policy snapshot digest does not match its ref"
      let policy ← readJsonStrict policyRef file.content
      checkWaitPolicy env dir policy
      .ok policy

def waitWorkItemPolicyError (suspension policy : Value) (policyRef : String) : Except Fault Unit :=
  match listItems (policy.get "required_work_items") with
  | none => .error (.exit "Strict suspension has no valid wait policy work-item table")
  | some items => do
    exitIf items.isEmpty "Strict suspension has no valid wait policy work-item table"
    let expectedIds := (items.filter (·.shape == 5)).map fun item =>
      (item.member? "work_item_id").getD .null
    exitIf (!(suspension.get "wait_policy_ref").equal (.str policyRef) ||
        !(suspension.get "wait_policy_id").equal (policy.get "wait_policy_id") ||
        !(suspension.get "required_work_items").equal (policy.get "required_work_items") ||
        (suspension.get "required_work_item_ids").1.key != (Json.arr expectedIds).key)
      "Committed suspension work-item barrier does not match wait policy"

/-- The policy check of a line. -/
def policyCheck (env : Env) (dir : Directory) (suspension : Value) : Except Fault Unit := do
  let policyRef := strOrEmpty env.text (suspension.get "wait_policy_ref")
  let policy ← loadWaitPolicy env dir policyRef
  waitWorkItemPolicyError suspension policy policyRef

/-! ### The wake of a line -/

/-- The reason and the status of a wake. -/
def reasonCheck (text : Json → String) (event : Value) : Except Fault Unit := do
  wakeReasonPairError (strOrEmpty text (event.get "resume_event"))
    (strOrEmpty text (event.get "wake_reason"))
  wakeStatusPairError (strOrEmpty text (event.get "wake_reason"))
    (strOrEmpty text ((event.get "projection").get "status"))

def exceptionWakeFields : List String := [
  "schema_version", "task_id", "suspension_id", "suspension_epoch", "event", "principal", "reason",
  "recorded_at", "supporting_refs"]

/-- `EXCEPTION_WAKE_PRINCIPAL_TYPES`. -/
def principalTypes : String → List String
  | "runtime_failure" => ["runtime"]
  | "cancellation" => ["user", "runtime", "policy"]
  | _ => ["user"]

/-- `word in (v or [])`, which looks for a part of a text. -/
def isWithin (word : String) (v : Value) : Except Fault Bool :=
  match asStr v with
  | some text => .ok (text.toList.tails.any word.toList.isPrefixOf)
  | none => do
    let items ← iterate v
    .ok (items.any (·.equal (.str word)))

/-- A text that is not blank. -/
def isFilledText (v : Value) : Bool := (asStr v).any Queue.isFilled

/-- The supporting evidence of an exception wake. -/
def supportingRefs (dir : Directory) (resumeEvent resumeRef : String) (evidence : Value) :
    Except Fault Unit := do
  let invalid := Dispatch.Fault.exit "Exception wake evidence supporting_refs are invalid"
  match listItems (evidence.get "supporting_refs") with
  | none => .error invalid
  | some items =>
    match items.mapM nameOf with
    | none => .error invalid
    | some refs =>
      if !decide refs.Nodup || !refs.all safeTaskEvidenceRef then .error invalid
      exitIf (resumeEvent == "runtime_failure" && refs.isEmpty)
        "Runtime failure wake requires supporting evidence"
      refs.forM fun ref => do
        exitIf (ref == resumeRef)
          "Exception wake evidence cannot cite itself as supporting evidence"
        match dir.files ref with
        | .outside =>
          .error (.exit "Exception wake supporting evidence escapes the task directory")
        | file => exitIf (!file.isFilled) "Exception wake supporting evidence is missing or empty"

def loadExceptionWakeEvidence (env : Env) (dir : Directory) (suspension : Value)
    (resumeEvent resumeRef : String) : Except Fault Value := do
  exitIf (!safeTaskEvidenceRef resumeRef)
    "External resume requires a safe task-local exception wake evidence ref"
  match dir.files resumeRef with
  | .outside => .error (.exit "Exception wake evidence ref escapes the task directory")
  | .absent => .error (.exit "Exception wake evidence ref does not exist")
  | .file raw content =>
    exitIf raw.isEmpty "Exception wake evidence is empty"
    match content with
    | none => .error (.exit "Exception wake evidence must be valid UTF-8 JSON")
    | some evidence =>
      exitIf (!evidence.isObject || !hasKeys evidence exceptionWakeFields)
        "Exception wake evidence has unexpected or missing fields"
      exitIf (!(evidence.get "schema_version").equal (.str "valp-exception-wake.v1"))
        "Exception wake evidence has an unsupported schema version"
      exitIf (!(evidence.get "task_id").equal (.str env.taskId) ||
          !(evidence.get "suspension_id").equal (suspension.get "suspension_id") ||
          !(evidence.get "suspension_epoch").equal (suspension.get "suspension_epoch") ||
          !(evidence.get "event").equal (.str resumeEvent))
        "Exception wake evidence does not match the current suspension identity"
      let principal := evidence.get "principal"
      exitIf (!principal.isObject || !hasKeys principal ["type", "id"])
        "Exception wake evidence principal is invalid"
      let principalType := strOrEmpty env.text (principal.get "type")
      let principalId := Dispatch.strip (strOrEmpty env.text (principal.get "id")).toList
      exitIf (!(principalTypes resumeEvent).contains principalType || principalId.isEmpty)
        "Exception wake evidence principal does not match the event"
      exitIf (!isFilledText (evidence.get "reason")) "Exception wake evidence reason is missing"
      exitIf (!isFilledText (evidence.get "recorded_at"))
        "Exception wake evidence recorded_at is missing"
      supportingRefs dir resumeEvent resumeRef evidence
      if (suspension.get "strict_identity").truthy then
        let policy ← loadWaitPolicy env dir
          (strOrEmpty env.text (suspension.get "wait_policy_ref"))
        let allowed ← isWithin resumeEvent (policy.get "exception_events")
        exitIf (!allowed) "Exception wake event is not allowed by the current wait policy"
      else
        let allowed ← isWithin resumeEvent (suspension.get "allowed_resume_events")
        exitIf (!allowed) "Exception wake event is not allowed by the current suspension"
      .ok (.dict [
        ("source_ref", .str resumeRef),
        ("source_digest", .str ("sha256:" ++ String.ofList (Sha256.hexdigest (Sha256.sha256 raw)))),
        ("principal", .dict [("type", .str principalType),
          ("id", .str (String.ofList principalId))] (by simp)),
        ("reason", evidence.get "reason"),
        ("recorded_at", evidence.get "recorded_at"),
        ("supporting_refs", evidence.get "supporting_refs")] (by simp))

/-- The evidence of an exception wake. -/
def externalCheck (env : Env) (dir : Directory) (event : Value) : Except Fault Unit :=
  let suspension := (event.get "projection").get "suspension"
  let acceptedWake := orElse (suspension.get "accepted_wake") emptyDict
  let resumeEvent := strOrEmpty env.text (event.get "resume_event")
  let externalEvent := event.get "external_event"
  if externalResumeEvents.contains resumeEvent then do
    exitIf (!externalEvent.isObject || !(acceptedWake.get "external_event").equal externalEvent)
      "Committed exception wake metadata is inconsistent"
    let resumeRef := strOrEmpty env.text (event.get "resume_ref")
    let current ← (loadExceptionWakeEvidence env dir suspension resumeEvent resumeRef).mapError fun
      | .exit message =>
        .exit ("Committed exception wake source evidence is invalid: " ++ message)
      | fault => fault
    exitIf (!current.equal externalEvent) "Committed exception wake source evidence changed"
  else exitIf (!externalEvent.isNone) "Non-external wake contains exception wake metadata"

/-- The identity and the result of a wake. -/
def wakeCheck (env : Env) (dir : Directory) (event : Value) (eventId : String) :
    Except Fault Unit := do
  let suspension := (event.get "projection").get "suspension"
  let acceptedWake := orElse (suspension.get "accepted_wake") emptyDict
  externalCheck env dir event
  let epoch ← intOr env.number (event.get "suspension_epoch") 0
  let wakeId := deterministicWakeId env.text env.taskId epoch
    (strOrEmpty env.text (event.get "resume_event")) (event.get "resume_ref")
    (event.get "external_event")
  let resultRef := wakeResultRef wakeId
  exitIf (!(event.get "wake_id").equal (.str wakeId) ||
      !(acceptedWake.get "wake_id").equal (.str wakeId) ||
      !(acceptedWake.get "wake_event_id").equal (.str eventId) ||
      !(event.get "result_ref").equal (.str resultRef) ||
      !(acceptedWake.get "result_ref").equal (.str resultRef))
    "Committed wake identity does not match its deterministic derivation"
  let wakeResult ← readJsonStrict resultRef (dir.wakeResults resultRef)
  wakeStatusPairError (strOrEmpty env.text (event.get "wake_reason"))
    (strOrEmpty env.text (wakeResult.get "resulting_task_status"))
  exitIf (workItemStateFields.any fun field =>
      !(wakeResult.get field).equal (suspension.get field))
    "Wake result work-item sets do not match the accepted suspension"

/-! ### The validator -/

/-- What the validator remembers of the line before. -/
structure Cursor where
  sequence : Int
  revision : Option Int
  /-- The suspension of the projection, `null` before the first line. -/
  suspension : Value

def Cursor.start : Cursor := ⟨0, none, .null⟩

/-- The number, the revision and the identity of a line. -/
structure Stamp where
  sequence : Int
  after : Int
  eventId : String

/-- The first checks of a line. -/
def stampOf (env : Env) (cursor : Cursor) (event : Value) : Except Fault Stamp := do
  exitIf (!(event.get "schema_version").equal (.str "valp-wait-event.v1") ||
      !(event.get "task_id").equal (.str env.taskId))
    "Invalid wait event identity"
  match exactInt (event.get "event_sequence") with
  | none => .error (.exit "Wait event sequence is not contiguous")
  | some sequence =>
    exitIf (sequence != cursor.sequence + 1) "Wait event sequence is not contiguous"
    match exactInt (event.get "state_revision_before"),
        exactInt (event.get "state_revision_after") with
    | some before, some after =>
      exitIf (after != before + 1) "Wait event revision transition is invalid"
      let eventId := waitEventId env.taskId (strOrEmpty env.text (event.get "event"))
        (strOrEmpty env.text (event.get "suspension_id")) sequence after
      exitIf (!(event.get "event_id").equal (.str eventId))
        "Wait event_id does not match its deterministic derivation"
      exitIf (cursor.revision.any (before != ·)) "Wait event revision history is not contiguous"
      .ok ⟨sequence, after, eventId⟩
    | _, _ => .error (.exit "Wait event revision transition is invalid")

/-- Whether a line is a wake. -/
def isResumed (event : Value) : Bool := (event.get "event").equal (.str "coordinator_resumed")

/-- Whether the validator looks at the receipt of a line. -/
def citesReceipt (event : Value) : Bool :=
  (event.get "event").equal (.str "work_item_completed") ||
    isResumed event && (event.get "resume_event").equal (.str "receipt")

/-- The suspension that a line projects. -/
def suspensionOf (event : Value) : Value := (event.get "projection").get "suspension"

/-- One turn of the loop of `validated_wait_events`. -/
def checkEvent (env : Env) (dir : Directory) (cursor : Cursor) (event : Value) :
    Except Fault Cursor := do
  let stamp ← stampOf env cursor event
  exitIf (!(event.get "projection").isObject || !(suspensionOf event).isObject)
    "Wait event projection is missing"
  match suspensionCheckpointError dir (suspensionOf event) with
  | some message => .error (.exit message)
  | none =>
    checkIf (isResumed event) (reasonCheck env.text event)
    checkIf ((suspensionOf event).get "strict_identity").truthy
      (policyCheck env dir (suspensionOf event))
    waitWorkItemTransitionError env.text cursor.suspension event
    checkIf (citesReceipt event) do
      let receipts ← Dispatch.loadDispatchReceipts dir.dispatch env.taskId
      waitReceiptEventError env dir event cursor.suspension receipts
    checkIf (isResumed event) (wakeCheck env dir event stamp.eventId)
    .ok ⟨stamp.sequence, some stamp.after, suspensionOf event⟩

/-- The lines of the ledger. -/
def readWaitEvents (dir : Directory) : Except Fault (List Value) :=
  (Ledgers.readJsonLinesStrict Json.codec "wait-events.jsonl" dir.waitEvents).mapError .exit

def validatedWaitEvents (env : Env) (dir : Directory) : Except Fault (List Value) := do
  let events ← readWaitEvents dir
  let _ ← events.foldlM (checkEvent env dir) Cursor.start
  .ok events

end Valp.Wait
