/-
The durable start of a Kernel suspension (`valp_cli/kernel_runtime.py`).

`start_kernel_suspension` opens the Kernel store of a Task, starts an Attempt for every
Work Item of the frontier that does not run yet, appends `SUSPENSION_STARTED` and writes
the binding of the workflow suspension.  Each of these writes is durable by itself, so the
call is a `Durable` computation over the directory `runtime/kernel`; the documents it only
reads (the installation, the Work Item graph, the wait policies) are part of its input.

Every write is labelled with what it makes durable.  A JSON document is given as a record
of the fields that the source reads; the binding is a JSON value, because it is compared
as a whole.

* `appendEvent_ok` — what one append of the runtime does;
* `startItem_ok` — an item of the frontier is skipped, or its Attempt is started by four
  events.
-/
import Valp.Durable
import Valp.KernelRecovery
import Valp.KernelSuspension

namespace Valp.Kernel

open Durable

/-! ### Documents -/

/-- A document that the call reads. -/
inductive DocumentFile (α : Type) where
  | missing
  | malformed
  | document (value : α)

/-- An item of `suspension["required_work_items"]`. -/
structure FrontierItem where
  workItemId : String
  dispatchId : String
  dispatchGeneration : Int
  deriving DecidableEq

/-- A receipt of the Task, with the fields that the call reads. -/
structure SubmissionReceipt where
  schemaVersion : String
  event : String
  workItemId : String
  attemptId : String
  dispatchId : String
  dispatchGeneration : Int
  receiptId : String
  receiptDigest : String
  deriving DecidableEq

/-- The workflow suspension; `document` is the whole of it. -/
structure WorkflowSuspension where
  suspensionId : String
  suspensionEpoch : Int
  waitPolicyRef : Option String
  waitPolicyId : String
  requiredWorkItems : List FrontierItem
  document : Json

/-- What `installation.json` and `state.json` say about the installation. -/
structure InstallationRecord where
  installationId : String
  activeLeaderEpoch : Int

/-- `submission-dependencies.json`: the identities of `work_items`, if that is a list, and
the prerequisite and the dependent of every edge. -/
structure SubmissionDependencies where
  schemaVersion : String
  taskId : String
  workItems : Option (List String)
  dependencies : List (String × String)

/-- The documents that the call reads and never writes; `none` where one cannot be read or
is not JSON, which the source does not tell apart. -/
structure TaskDocuments where
  installation : Option InstallationRecord
  state : Option InstallationRecord
  submissionDependencies : DocumentFile SubmissionDependencies
  waitPolicy : String → Option Json

/-- The arguments of `start_kernel_suspension`. -/
structure SuspensionCall where
  documents : TaskDocuments
  taskId : String
  suspension : WorkflowSuspension
  receipts : List SubmissionReceipt

/-- The directory `runtime/kernel`: the store and `workflow-binding.json`. -/
structure RuntimeDir where
  files : Files
  binding : DocumentFile Json

inductive Write where
  | genesis
  | event (kind : Closed EventKind)
  | binding
  deriving DecidableEq

/-- What the call raises: a `KernelRuntimeError`, or another exception. -/
inductive RuntimeFailure where
  | runtime (message : String)
  | other (exception : String)

/-- A part of the call. -/
abbrev Runtime (α : Type) : Type := Durable Write RuntimeDir RuntimeFailure α

/-! ### Identities -/

/-- `_identity`. -/
def runtimeIdentity (kind : IdentityKind) (text : String) : Except RuntimeFailure Identity :=
  if h : text = "" then .error (.runtime ("missing Kernel " ++ kind.value ++ " identity"))
  else .ok ⟨kind, text, h⟩

theorem digest_ne (value : Json) : digest value ≠ "" := by
  intro h
  have hdig := isDigest_digest value
  rw [h] at hdig
  exact absurd hdig (by decide)

/-- `_event_id`. -/
def eventIdFor (taskId : String) (kind : EventKind) (payload : Json) : Identity where
  kind := .event
  value := digest (.record [
    ("task_id", some (.str taskId)),
    ("kind", some (.str kind.value)),
    ("payload", some payload)])
  value_ne := digest_ne _

def referenceIdentity (documents : TaskDocuments) : Except RuntimeFailure (Identity × Int) :=
  match documents.installation, documents.state with
  | some installation, some state =>
    if installation.installationId = "" ∨
        state.installationId ≠ installation.installationId ∨ state.activeLeaderEpoch < 1 ∨
        installation.activeLeaderEpoch ≠ state.activeLeaderEpoch then
      .error (.runtime "Kernel runtime installation identity is inconsistent")
    else do
      let installationId ← runtimeIdentity .installation installation.installationId
      .ok (installationId, state.activeLeaderEpoch)
  | _, _ => .error (.runtime "Kernel runtime installation identity is unavailable")

def matchingSubmission (receipts : List SubmissionReceipt) (item : FrontierItem) :
    Except RuntimeFailure SubmissionReceipt :=
  match receipts.filter fun receipt =>
      receipt.schemaVersion == "valp-dispatch-receipt.v3" &&
        receipt.event == "dispatch_submitted" && receipt.workItemId == item.workItemId &&
        receipt.dispatchId == item.dispatchId &&
        receipt.dispatchGeneration == item.dispatchGeneration with
  | [receipt] => .ok receipt
  | _ => .error (.runtime "Kernel suspension requires one exact v3 submission per work item")

def receiptEvidence (receipt : SubmissionReceipt) : Except RuntimeFailure Evidence := do
  let evidenceId ← runtimeIdentity .evidence receipt.receiptId
  .ok { evidenceId := evidenceId, contentDigest := receipt.receiptDigest }

/-- What the call has computed before it opens the store. -/
structure Prepared where
  call : SuspensionCall
  installationId : Identity
  leaderEpoch : Int
  task : Identity
  /-- `zip(required, submissions)`. -/
  frontier : List (FrontierItem × SubmissionReceipt)

/-- The part of `start_kernel_suspension` before the store. -/
def prepare (call : SuspensionCall) : Except RuntimeFailure Prepared := do
  if call.suspension.requiredWorkItems = [] then
    .error (.runtime "Kernel suspension requires a non-empty Work Item frontier")
  let (installationId, leaderEpoch) ← referenceIdentity call.documents
  let task ← runtimeIdentity .task call.taskId
  let frontier ← call.suspension.requiredWorkItems.mapM fun item => do
    let submission ← matchingSubmission call.receipts item
    .ok (item, submission)
  .ok {
    call := call
    installationId := installationId
    leaderEpoch := leaderEpoch
    task := task
    frontier := frontier }

/-! ### The Work Item graph -/

section

variable (p : Prepared)

/-- The declared Work Items and the edges between them: those of the document, or the
frontier alone. -/
def declaredGraph : Except RuntimeFailure (List String × List (String × String)) :=
  let required := p.frontier.map (·.1.workItemId)
  match p.call.documents.submissionDependencies with
  | .malformed => .error (.runtime "Kernel runtime Work Item graph is malformed")
  | .missing => .ok (required, [])
  | .document graph =>
    match graph.workItems with
    | some workItems =>
      if graph.schemaVersion ≠ "valp-submission-dependencies.v2" ∨
          graph.taskId ≠ p.call.taskId then .ok (required, [])
      else .ok (workItems, graph.dependencies)
    | none => .ok (required, [])

/-- `required_submissions.get(work_item_id)`: the last submission wins. -/
def Prepared.submission? (workItemId : String) : Option SubmissionReceipt :=
  (p.frontier.reverse.find? fun x => x.1.workItemId == workItemId).map (·.2)

/-- The Attempt of the genesis for a submission. -/
def declaredAttempt (id : Identity) :
    Option SubmissionReceipt → Except RuntimeFailure (Option Attempt)
  | none => .ok none
  | some submission => do
    let attemptId ← runtimeIdentity .attempt submission.attemptId
    let dispatchId ← runtimeIdentity .dispatch submission.dispatchId
    .ok (some {
      taskId := p.task
      workItemId := id
      attemptId := attemptId
      dispatchId := dispatchId
      dispatchGeneration := submission.dispatchGeneration
      status := .running })

def declaredItem (edges : List (Identity × Identity)) (id : Identity) :
    Except RuntimeFailure WorkItem := do
  let attempt ← declaredAttempt p id (p.submission? id.value)
  .ok {
    taskId := p.task
    workItemId := id
    requirement := .required
    status := if attempt.isSome then .running else .pending
    dependencies := (edges.filter fun edge => edge.2 == id).map fun edge =>
      { workItemId := edge.1, requirement := .required }
    currentAttempt := attempt }

def declaredWorkItems : Except RuntimeFailure (List WorkItem) := do
  let (declared, records) ← declaredGraph p
  if declared = [] then
    .error (.runtime "Kernel runtime requires a non-empty declared Work Item graph")
  let identities ← declared.mapM (runtimeIdentity .workItem)
  if ¬declared.Nodup ∨ p.frontier.any (fun x => !declared.contains x.1.workItemId) then
    .error (.runtime "Kernel runtime Work Item graph has missing or duplicate identities")
  let edges ← records.mapM fun (source, target) =>
    match identities.find? (·.value == source), identities.find? (·.value == target) with
    | some source, some target => .ok (source, target)
    | _, _ =>
      .error (.runtime "Kernel runtime dependency references an unknown Work Item")
  identities.mapM (declaredItem p edges)

end

/-! ### The store -/

/-- `_append`: the State after the event, which is durable then unless it was before. -/
def appendEvent (state : State) (event : Event) (evidence : List Evidence) : Runtime State :=
  fun dir =>
    match reduce state event evidence with
    | .noOp noOp => (.ok noOp.state, [])
    | .rejected rejected =>
      (.error (.runtime ("Kernel runtime event rejected: " ++ rejected.errorCode)), [])
    | .accepted accepted =>
      let (result, files) := append none dir.files ⟨event, evidence, .accepted accepted⟩
      let written := [(.event event.kind, { dir with files := files })]
      match result with
      | .ok recovery => (.ok recovery.replay.state, written)
      | .error error =>
        (.error (.runtime ("Kernel runtime journal append failed: " ++ error.code.value)), written)

/-- `store.initialize(genesis)`. -/
def initializeHistory (genesis : State) : Runtime Unit := fun dir =>
  match initializeStore none dir.files genesis with
  | (.ok (), files) => (.ok (), [(.genesis, { dir with files := files })])
  | (.error (.store error), _) =>
    (.error (.runtime ("Kernel runtime initialization failed: " ++ error.code.value)), [])
  | (.error (.value _), _) => (.error (.other "ValueError"), [])

def Prepared.genesis (p : Prepared) (workItems : List WorkItem) : State where
  protocolVersion := protocolVersion
  installationId := p.installationId
  leaderEpoch := p.leaderEpoch
  taskId := p.task
  revision := 0
  status := .known .published
  workItems := workItems

/-- The events that take a new Task to `executing`, with their index. -/
def spineKinds : List (Int × EventKind) := [
  (0, .routingValidationStarted), (1, .routingValidationPassed), (2, .dispatchAccepted)]

section

variable (p : Prepared)

def spineEvent (state : State) (index : Int) (kind : EventKind) : Event where
  eventId := eventIdFor p.call.taskId kind (.record [("spine_index", some (.int index))])
  installationId := p.installationId
  leaderEpoch := p.leaderEpoch
  taskId := p.task
  kind := .known kind
  expectedRevision := state.revision

/-- One turn of the loop over `spineKinds`. -/
def spineTurn (state : State) (x : Int × EventKind) : Runtime State :=
  appendEvent state (spineEvent p state x.1 x.2) []

/-- The branch of `start_kernel_suspension` without a genesis. -/
def startHistory : Runtime State := do
  let workItems ← lift (declaredWorkItems p)
  initializeHistory (p.genesis workItems)
  spineKinds.foldlM (spineTurn p) (p.genesis workItems)

/-- The branch of `start_kernel_suspension` with a genesis. -/
def recoverHistory : Runtime State := observe fun dir =>
  match recover none dir.files with
  | .error error => .error (.runtime ("Kernel runtime recovery failed: " ++ error.code.value))
  | .ok recovery =>
    let state := recovery.replay.state
    if state.installationId ≠ p.installationId ∨ state.leaderEpoch ≠ p.leaderEpoch ∨
        state.taskId ≠ p.task then
      .error (.runtime "Kernel runtime history identity conflicts with active installation")
    else .ok state

/-- The State that the call goes on with. -/
def openHistory : Runtime State := fun dir =>
  match dir.files.genesis with
  | none => startHistory p dir
  | some _ => recoverHistory p dir

end

/-! ### The frontier -/

/-- The Attempt that a frontier item and its submission stand for. -/
structure FrontierAttempt where
  workItemId : Identity
  attemptId : Identity
  dispatchId : Identity
  dispatchGeneration : Int
  receipt : SubmissionReceipt

def frontierAttempt (x : FrontierItem × SubmissionReceipt) :
    Except RuntimeFailure FrontierAttempt := do
  let workItemId ← runtimeIdentity .workItem x.1.workItemId
  let attemptId ← runtimeIdentity .attempt x.2.attemptId
  let dispatchId ← runtimeIdentity .dispatch x.2.dispatchId
  .ok {
    workItemId := workItemId
    attemptId := attemptId
    dispatchId := dispatchId
    dispatchGeneration := x.2.dispatchGeneration
    receipt := x.2 }

/-- `attempt_tuple`. -/
def FrontierAttempt.tuple (f : FrontierAttempt) : Option Identity × Option Identity × Option Int :=
  (some f.attemptId, some f.dispatchId, some f.dispatchGeneration)

/-- The events that start an Attempt. -/
def frontierKinds : List EventKind :=
  [.workItemEligible, .attemptCreated, .attemptSubmitted, .attemptRunning]

/-- The event of one kind for an Attempt; only those behind the first name the Attempt. -/
def FrontierAttempt.event (f : FrontierAttempt) (taskId : String) (state : State)
    (kind : EventKind) : Event where
  eventId := eventIdFor taskId kind (.record [
    ("work_item_id", some (.str f.workItemId.value)),
    ("attempt_id", some (.str f.attemptId.value)),
    ("dispatch_id", some (.str f.dispatchId.value)),
    ("dispatch_generation", some (.int f.dispatchGeneration)),
    ("receipt_id", some (.str f.receipt.receiptId))])
  installationId := state.installationId
  leaderEpoch := state.leaderEpoch
  taskId := state.taskId
  kind := .known kind
  expectedRevision := state.revision
  workItemId := some f.workItemId
  attemptId := if kind = .workItemEligible then none else some f.attemptId
  dispatchId := if kind = .workItemEligible then none else some f.dispatchId
  dispatchGeneration := if kind = .workItemEligible then none else some f.dispatchGeneration

/-- The Evidence of that event: the receipt, for the last of them. -/
def FrontierAttempt.evidence (f : FrontierAttempt) (kind : EventKind) :
    Except RuntimeFailure (List Evidence) :=
  if kind = .attemptRunning then do
    let evidence ← receiptEvidence f.receipt
    .ok [evidence]
  else .ok []

/-- The Attempt of a Work Item that is running. -/
def WorkItem.runningAttempt (item : WorkItem) : Option Attempt :=
  if item.status = .running then item.currentAttempt else none

/-- One event of the inner loop of `_start_frontier_attempts`. -/
def startEvent (taskId : String) (f : FrontierAttempt) (state : State) (kind : EventKind) :
    Runtime State := do
  let evidence ← lift (f.evidence kind)
  appendEvent state (f.event taskId state kind) evidence

/-- One turn of the loop of `_start_frontier_attempts`. -/
def startItem (taskId : String) (state : State) (x : FrontierItem × SubmissionReceipt) :
    Runtime State := do
  let f ← lift (frontierAttempt x)
  match state.item? f.workItemId with
  | none => fail (.runtime "Kernel frontier references an undeclared Work Item")
  | some item =>
    match item.runningAttempt with
    | some attempt =>
      if attempt.tuple ≠ f.tuple then
        fail (.runtime "Kernel frontier running Attempt conflicts with submission")
      else pure state
    | none => frontierKinds.foldlM (startEvent taskId f) state

def startFrontierAttempts (p : Prepared) (state : State) : Runtime State :=
  p.frontier.foldlM (startItem p.call.taskId) state

/-! ### The suspension -/

/-- `str(suspension.get("wait_policy_ref") or "wait-policy.json")`. -/
def WorkflowSuspension.policyRef (suspension : WorkflowSuspension) : String :=
  (suspension.waitPolicyRef.filter (· ≠ "")).getD "wait-policy.json"

/-- `kernel_epoch`. -/
def nextSuspensionEpoch (state : State) : Int :=
  match state.suspension with
  | none => 0
  | some suspension => suspension.suspensionEpoch + 1

section

variable (p : Prepared)

/-- The wait policy of the workflow suspension. -/
def loadWaitPolicy : Except RuntimeFailure Json :=
  match p.call.documents.waitPolicy p.call.suspension.policyRef with
  | none => .error (.runtime "Kernel suspension wait policy is unavailable")
  | some policy => .ok policy

/-- The event `SUSPENSION_STARTED`. -/
def suspensionEvent (state : State) (policyDigest : String)
    (suspensionId waitPolicyId : Identity) (frontier : List Identity) : Event where
  eventId := eventIdFor p.call.taskId .suspensionStarted (.record [
    ("suspension_id", some (.str p.call.suspension.suspensionId)),
    ("kernel_epoch", some (.int (nextSuspensionEpoch state))),
    ("workflow_epoch", some (.int p.call.suspension.suspensionEpoch)),
    ("wait_policy_digest", some (.str policyDigest)),
    ("frontier", some (.arr (frontier.map fun id => .str id.value)))])
  installationId := p.installationId
  leaderEpoch := p.leaderEpoch
  taskId := p.task
  kind := .known .suspensionStarted
  expectedRevision := state.revision
  suspensionId := some suspensionId
  suspensionEpoch := some (nextSuspensionEpoch state)
  waitPolicyId := some waitPolicyId
  waitPolicyDigest := some policyDigest
  requiredWorkItemIds := frontier

/-- That event with its Evidence: the wait policy and the receipts of the frontier. -/
def suspensionInput (state : State) : Except RuntimeFailure Input := do
  let policy ← loadWaitPolicy p
  let suspensionId ← runtimeIdentity .suspension p.call.suspension.suspensionId
  let waitPolicyId ← runtimeIdentity .waitPolicy p.call.suspension.waitPolicyId
  let frontier ← p.frontier.mapM fun x => runtimeIdentity .workItem x.1.workItemId
  let policyEvidence ← runtimeIdentity .evidence ("wait-policy:" ++ p.call.suspension.policyRef)
  let receipts ← p.frontier.mapM fun x => receiptEvidence x.2
  .ok (suspensionEvent p state (digest policy) suspensionId waitPolicyId frontier,
    { evidenceId := policyEvidence, contentDigest := digest policy } :: receipts)

/-- The binding of the workflow suspension. -/
def workflowBinding (state : State) (suspension : Suspension) : Json :=
  .record [
    ("schema_version", some (.str "valp-kernel-workflow-binding.v1")),
    ("task_id", some (.str p.call.taskId)),
    ("installation_id", some (.str p.installationId.value)),
    ("leader_epoch", some (.int p.leaderEpoch)),
    ("workflow_suspension_id", some (.str p.call.suspension.suspensionId)),
    ("workflow_suspension_epoch", some (.int p.call.suspension.suspensionEpoch)),
    ("kernel_suspension_epoch", some (.int suspension.suspensionEpoch)),
    ("wait_policy_id", some (.str suspension.waitPolicyId.value)),
    ("wait_policy_digest", some (.str suspension.waitPolicyDigest)),
    ("required_work_item_ids",
      some (.arr (suspension.requiredWorkItemIds.map fun id => .str id.value))),
    ("workflow_suspension", some p.call.suspension.document),
    ("status", some (.str suspension.status.value)),
    ("kernel_revision", some (.int state.revision))]

/-- The branch for a State that waits: the binding of the active suspension. -/
def readBinding : Runtime Json := observe fun dir =>
  match dir.binding with
  | .missing => .error (.other "FileNotFoundError")
  | .malformed => .error (.other "JSONDecodeError")
  | .document (.obj members) =>
    if !Decode.hasText (.obj members) "workflow_suspension_id" p.call.suspension.suspensionId then
      .error (.runtime "Kernel runtime already has a different active suspension")
    else .ok (.obj members)
  | .document _ => .error (.other "AttributeError")

/-- The end of `start_kernel_suspension`: the Suspension and its binding. -/
def beginSuspension (state : State) : Runtime Json := do
  let (event, evidence) ← lift (suspensionInput p state)
  let state ← appendEvent state event evidence
  match state.suspension with
  | none => fail (.other "AttributeError")
  | some suspension => do
    write .binding fun dir =>
      { dir with binding := .document (workflowBinding p state suspension) }
    pure (workflowBinding p state suspension)

/-- The part of `start_kernel_suspension` behind the opening of the store. -/
def continueSuspension (state : State) : Runtime Json := do
  let state ←
    if state.suspension.all fun suspension => suspension.status == .resumed then
      startFrontierAttempts p state
    else pure state
  if state.suspension.any fun suspension => suspension.status == .waiting then readBinding p
  else beginSuspension p state

end

def startKernelSuspension (call : SuspensionCall) : Runtime Json := do
  let p ← lift (prepare call)
  let state ← openHistory p
  continueSuspension p state

/-! ### One append -/

section Append

variable {b : DocumentFile Json} {dir : RuntimeDir} {s t : State} {e : Event} {E : List Evidence}
  {ws : List (Write × RuntimeDir)}

/-- The directory holds a store that recovers `s`, and the binding `b`. -/
structure At (b : DocumentFile Json) (dir : RuntimeDir) (s : State) : Prop where
  recovered : Recovered dir.files s
  binding : dir.binding = b

/-- An input that is answered as a repetition has the identity and the digest of a recorded
event. -/
theorem recorded_of_noOp {noOp : NoOp} (h : reduce s e E = .noOp noOp) :
    noOp.state = s ∧ ∃ prior ∈ s.acceptedEvents, prior.eventId = e.eventId ∧
      prior.inputDigest = inputDigest s e E := by
  rcases reduce_cases s (e, E) with ⟨_, _, hr⟩ | ⟨_, _, prior, -, -, -, -, -, hfind, hdig, hr⟩ |
    ⟨_, _, _, -, -, hr⟩
  · rw [h, reject] at hr
    cases hr
  · rw [h, Result.noOp.injEq] at hr
    rw [hr]
    exact ⟨rfl, prior, List.mem_of_find?_eq_some hfind, by simpa using List.find?_some hfind,
      hdig⟩
  · cases h.symm.trans hr

theorem step_recorded {x : Input} {prior : AcceptedEvent} (hpr : prior ∈ s.acceptedEvents)
    (hid : prior.eventId = x.1.eventId) : step s x = none := by
  by_contra hne
  obtain ⟨t, ht⟩ := Option.ne_none_iff_exists'.mp hne
  obtain ⟨_, _, _, hadm, -, -⟩ := step_iff.mp ht
  exact absurd (beq_iff_eq.mpr hid) (List.find?_eq_none.mp hadm.new prior hpr)

theorem appendEvent_step (h : At b dir s) (hstep : step s (e, E) = some t) :
    ∃ dir', appendEvent s e E dir = (.ok t, [(.event e.kind, dir')]) ∧ At b dir' t := by
  obtain ⟨a, ha, rfl⟩ := step_eq_some.mp hstep
  obtain ⟨recovery, files, happ, hsta, hrecv⟩ := h.recovered.append ha
  refine ⟨{ dir with files := files }, ?_, hrecv, h.binding⟩
  simp only [appendEvent]
  rw [show reduce s e E = _ from ha]
  simp only [happ, hsta]

/-- **What one append does**: it answers a repetition, without a write, or makes the next
State durable. -/
theorem appendEvent_ok (h : At b dir s) (hok : appendEvent s e E dir = (.ok t, ws)) :
    (t = s ∧ ws = [] ∧ ∃ noOp, reduce s e E = .noOp noOp) ∨
      step s (e, E) = some t ∧ ∃ dir', ws = [(.event e.kind, dir')] ∧ At b dir' t := by
  cases hred : reduce s e E with
  | accepted a =>
    right
    have hstep : step s (e, E) = some a.state := step_eq_some.mpr ⟨a, hred, rfl⟩
    obtain ⟨dir', happ, hat⟩ := appendEvent_step h hstep
    rw [happ, Prod.mk.injEq, Except.ok.injEq] at hok
    obtain ⟨rfl, rfl⟩ := hok
    exact ⟨hstep, dir', rfl, hat⟩
  | noOp noOp =>
    left
    simp only [appendEvent, hred, Prod.mk.injEq, Except.ok.injEq] at hok
    exact ⟨hok.1.symm.trans (recorded_of_noOp hred).1, hok.2.symm, noOp, rfl⟩
  | rejected rejected =>
    simp only [appendEvent, hred, Prod.mk.injEq, reduceCtorEq, false_and] at hok

theorem appendEvent_at (h : At b dir s) (hok : appendEvent s e E dir = (.ok t, ws)) :
    At b (last dir ws) t := by
  rcases appendEvent_ok h hok with ⟨rfl, rfl, -⟩ | ⟨-, dir', rfl, hat⟩
  · exact h
  · exact hat

end Append

/-! ### The frontier -/

variable {id : Identity}

section Frontier

variable {b : DocumentFile Json} {dir : RuntimeDir} {s t u : State} {taskId : String}
  {x : FrontierItem × SubmissionReceipt} {f : FrontierAttempt} {kind : EventKind}
  {ws : List (Write × RuntimeDir)}

/-- The State grows. -/
structure Precedes (s t : State) : Prop extends Extends s t where
  task : t.taskId = s.taskId

theorem Precedes.trans (h : Precedes s u) (h' : Precedes u t) : Precedes s t :=
  ⟨h.toExtends.trans h'.toExtends, h'.task.trans h.task⟩

/-- The State grows, and the status of its Task and its Suspension stay as they are. -/
structure Steady (s t : State) : Prop extends Precedes s t where
  status : t.status = s.status
  suspension : t.suspension = s.suspension

theorem Steady.refl (s : State) : Steady s s := ⟨⟨.refl s, rfl⟩, rfl, rfl⟩

theorem Steady.trans (h : Steady s u) (h' : Steady u t) : Steady s t :=
  ⟨h.toPrecedes.trans h'.toPrecedes, h'.status.trans h.status, h'.suspension.trans h.suspension⟩

/-- Only the Work Item `id` changes. -/
structure Beside (id : Identity) (s t : State) : Prop extends Steady s t where
  items : ∀ id', id' ≠ id → t.item? id' = s.item? id'

theorem Beside.refl (id : Identity) (s : State) : Beside id s s := ⟨.refl s, fun _ _ => rfl⟩

theorem Beside.trans (h : Beside id s u) (h' : Beside id u t) : Beside id s t :=
  ⟨h.toSteady.trans h'.toSteady, fun id' hid => (h'.items id' hid).trans (h.items id' hid)⟩

theorem step_record {x : Input} (h : step s x = some t) :
    ∃ prior ∈ t.acceptedEvents, prior.eventId = x.1.eventId := by
  obtain ⟨_, _, effect, -, -, rfl⟩ := step_iff.mp h
  exact ⟨acceptedEvent s x.1 x.2 effect, by simp [nextState], rfl⟩

theorem isTaskEvent_of_item (h : kind.isItemEvent) : kind.isTaskEvent = false := by
  cases kind <;> first | rfl | cases h

theorem step_beside {x : Input} (h : step s x = some t)
    (hk : x.1.kind = .known kind) (hitem : kind.isItemEvent)
    (hid : x.1.workItemId = some id) : Beside id s t := by
  have hextends := step_extends h
  have hitems : ∀ id', id' ≠ id → t.item? id' = s.item? id' := by
    intro id' hne
    refine step_unnamed h hk hitem ?_
    rw [hid]
    exact fun heq => hne (Option.some_inj.mp heq).symm
  obtain ⟨status, kind', before, effect, hadm, -, hbr, hset, rfl⟩ := step_cases h
  obtain rfl := hadm.kind_unique hk
  obtain ⟨heff, hsusp⟩ := settle_spec hset
  -- an item event keeps the status, so `settle` has nothing to do
  have hbef : before.status = status ∧ before.suspension = s.suspension := by
    cases hbr
    case item _ hbr =>
      obtain ⟨w, -, r, -, -, rfl⟩ := onWorkItem_spec hadm.valid hbr
      exact ⟨rfl, rfl⟩
    case task htask _ => simp [isTaskEvent_of_item hitem] at htask
    all_goals cases hitem
  obtain ⟨-, hsame⟩ | ⟨hmov, -⟩ := hsusp
  · refine ⟨⟨⟨hextends, rfl⟩, ?_, hsame.trans hbef.2⟩, hitems⟩
    rw [hadm.status_eq, ← hbef.1, heff]
    rfl
  · exact absurd hbef.1 hmov

theorem isItemEvent_of_frontier (h : kind ∈ frontierKinds) : kind.isItemEvent := by
  revert h
  cases kind <;> decide

theorem startEvent_ok (h : At b dir s) (hkind : kind ∈ frontierKinds)
    (hok : startEvent taskId f s kind dir = (.ok t, ws)) :
    At b (last dir ws) t ∧ Beside f.workItemId s t := by
  obtain ⟨E, -, hok⟩ := lift_bind_eq_ok.mp hok
  refine ⟨appendEvent_at h hok, ?_⟩
  rcases appendEvent_ok h hok with ⟨rfl, -, -⟩ | ⟨hstep, -⟩
  · exact .refl _ _
  · exact step_beside hstep rfl (isItemEvent_of_frontier hkind) rfl

/-- The Work Item of `f` runs, with the Attempt of `f`. -/
def Started (s : State) (f : FrontierAttempt) : Prop :=
  ∃ item attempt, s.item? f.workItemId = some item ∧ item.runningAttempt = some attempt ∧
    attempt.tuple = f.tuple

theorem startItem_skip (hf : frontierAttempt x = .ok f) (h : Started s f) (dir : RuntimeDir) :
    startItem taskId s x dir = (.ok s, []) := by
  obtain ⟨item, attempt, hitem, hrunning, htup⟩ := h
  rw [startItem, hf, lift_ok_bind]
  simp [hitem, hrunning, htup]

/-- **One turn of the frontier**: an item that runs is skipped, for another the four events
are appended. -/
theorem startItem_ok (hok : startItem taskId s x dir = (.ok t, ws)) :
    ∃ f, frontierAttempt x = .ok f ∧ ((Started s f ∧ t = s ∧ ws = []) ∨
      ∃ item, s.item? f.workItemId = some item ∧ item.runningAttempt = none ∧
        frontierKinds.foldlM (startEvent taskId f) s dir = (.ok t, ws)) := by
  obtain ⟨f, hf, hok⟩ := lift_bind_eq_ok.mp hok
  refine ⟨f, hf, ?_⟩
  cases hitem : s.item? f.workItemId with
  | none => simp [hitem] at hok
  | some item =>
    cases hrunning : item.runningAttempt with
    | none =>
      simp only [hitem, hrunning] at hok
      exact .inr ⟨item, rfl, hrunning, hok⟩
    | some attempt =>
      simp only [hitem, hrunning] at hok
      split at hok
      · simp at hok
      · rename_i htup
        rw [pure_apply, Prod.mk.injEq, Except.ok.injEq] at hok
        exact .inl ⟨⟨item, attempt, hitem, hrunning, not_not.mp htup⟩, hok.1.symm, hok.2.symm⟩

theorem startItem_of_idle {item : WorkItem} (hf : frontierAttempt x = .ok f)
    (hitem : s.item? f.workItemId = some item) (hidle : item.runningAttempt = none)
    (dir : RuntimeDir) :
    startItem taskId s x dir = frontierKinds.foldlM (startEvent taskId f) s dir := by
  rw [startItem, hf, lift_ok_bind]
  simp only [hitem, hidle]

/-- The Work Items that run stay as they are. -/
structure Advances (s t : State) : Prop extends Steady s t where
  running : ∀ id item attempt, s.item? id = some item → item.runningAttempt = some attempt →
    t.item? id = some item

theorem Advances.refl (s : State) : Advances s s := ⟨.refl s, fun _ _ _ h _ => h⟩

theorem Advances.trans (h : Advances s u) (h' : Advances u t) : Advances s t where
  toSteady := h.toSteady.trans h'.toSteady
  running id item attempt hitem hrunning :=
    h'.running id item attempt (h.running id item attempt hitem hrunning) hrunning

theorem Advances.started (h : Advances s t) (hf : Started s f) : Started t f := by
  obtain ⟨item, attempt, hitem, hrunning, htup⟩ := hf
  exact ⟨item, attempt, h.running _ item attempt hitem hrunning, hrunning, htup⟩

theorem Beside.advances {item : WorkItem} (h : Beside id s t)
    (hitem : s.item? id = some item) (hidle : item.runningAttempt = none) : Advances s t := by
  refine ⟨h.toSteady, ?_⟩
  intro id' item' attempt hitem' hrunning
  rw [h.items id', hitem']
  rintro rfl
  rw [hitem', Option.some_inj] at hitem
  rw [hitem, hidle] at hrunning
  cases hrunning

theorem startItem_advances (h : At b dir s) (hok : startItem taskId s x dir = (.ok t, ws)) :
    At b (last dir ws) t ∧ Advances s t := by
  obtain ⟨f, -, ⟨-, rfl, rfl⟩ | ⟨item, hitem, hidle, hok⟩⟩ := startItem_ok hok
  · exact ⟨h, .refl _⟩
  obtain ⟨hat, hbeside⟩ := foldlM_rel (R := Beside f.workItemId) (.refl _)
    (fun _ _ _ h h' => h.trans h')
    (fun kind hkind s dir t ws hs hok => startEvent_ok hs hkind hok) h hok
  exact ⟨hat, hbeside.advances hitem hidle⟩

theorem startItems_advances {items : List (FrontierItem × SubmissionReceipt)} (h : At b dir s)
    (hok : items.foldlM (startItem taskId) s dir = (.ok t, ws)) :
    At b (last dir ws) t ∧ Advances s t :=
  foldlM_rel .refl (fun _ _ _ h h' => h.trans h')
    (fun _ _ _ _ _ _ hs hok => startItem_advances hs hok) h hok

end Frontier

end Valp.Kernel
