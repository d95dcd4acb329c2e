/-
The four calls that change the lifecycle of a queue item.

A call looks up the accepted queue item of the submitted receipt it is given, reads what it
needs and settles the change it wants to make; only then does it take the lock.  What it read
may be out of date by that time.  A cancellation that a worker acknowledges leaves a proof
behind as well.

* `Offered` — a change that a call settled on, at the time it did;
* `Offered.sound` — the event and the details of such a change belong together, and a terminal
  change carries the identity of a claim;
* `Offered.again` — **a call that is made again settles on the same change**, unless it is a
  cancellation request whose answer depends on the time.
-/
import Valp.QueueLifecycle

namespace Valp.Queue

open Kernel (digest bind_eq_ok)
open Kernel.Decode (ok_bind)
open Json (Value)
open List

/-! ### What a call is given -/

/-- A queue item under `runtime/queue/items`. -/
structure QueueItem where
  identity : QueueIdentity
  agent : String
  role : String
  dispatchRef : String
  payloadDigest : String
  expectedRefs : List String
  deriving DecidableEq

/-- The submitted receipt that a call is given. -/
structure Submission where
  schemaVersion : String
  receiptId : String
  event : String
  mode : String
  taskId : String
  agent : String
  role : String
  workItemId : String
  attemptId : String
  dispatchId : String
  dispatchGeneration : Int
  dispatchRef : String
  payloadDigest : String
  expectedRefs : List String
  deriving DecidableEq

/-- `_queue_item_for_submission`; `none` stands for an item that is not JSON. -/
def queueItemForSubmission (items : List (Option QueueItem)) (submission : Submission) :
    Except String QueueItem := do
  require (items.all Option.isSome) "Queue item is malformed"
  match (items.filterMap id).filter fun item =>
      item.identity.attemptId == submission.attemptId with
  | [item] =>
    require (item.identity.taskId == submission.taskId && item.agent == submission.agent &&
        item.role == submission.role && item.identity.workItemId == submission.workItemId &&
        item.identity.dispatchId == submission.dispatchId &&
        item.identity.dispatchGeneration == submission.dispatchGeneration &&
        item.dispatchRef == submission.dispatchRef &&
        item.payloadDigest == submission.payloadDigest &&
        item.expectedRefs == submission.expectedRefs)
      "Queue item identity conflicts with its submitted receipt"
    .ok item
  | _ => .error "Queue terminal observation requires one exact accepted queue item"

/-- `isinstance(value, str) and value.strip()` of a string. -/
def isFilled (s : String) : Bool := !JsonLines.isBlank s.toList

/-- The string that a value is. -/
def asStr (v : Value) : Option String :=
  match v.1 with
  | .str s => some s
  | _ => none

/-- The number that a value is if `type(value) is int`. -/
def exactInt (v : Value) : Option Int :=
  match v.1 with
  | .int n => some n
  | _ => none

/-- `isinstance(value, str) and value.strip()`. -/
def isText (v : Value) : Bool :=
  match asStr v with
  | some s => isFilled s
  | none => false

/-- `value is True`. -/
def isTrue (v : Value) : Bool :=
  match v.1 with
  | .bool b => b
  | _ => false

/-- `_safe_ref`; a path has the parts between its slashes, without the empty ones and `.`. -/
def safeRef (ref : String) : Bool :=
  ref != "" && !("/".toList.isPrefixOf ref.toList) && !ref.toList.contains '\\' &&
    (ref.toList.splitOn '/').all fun part => part != ['.', '.']

/-! ### The calls -/

/-- A receipt of a terminal observation: its dispatch and attempt, the runtime identity in its
process proof, and the digests of its proofs. -/
structure Terminal where
  identity : QueueIdentity
  event : LifecycleEvent
  runtimeIdentity : String
  processDigest : String
  contentDigest : String
  deriving DecidableEq

/-- The four calls with their arguments.  An observation comes with the document at its
reference, `none` if it is missing or not JSON, and with the digests of the files that are there
and not empty. -/
inductive Call where
  | claim (taskId : String) (submission : Submission) (workerId runId claimToken : String)
      (expectedRevision : Int)
  | request (taskId : String) (submission : Submission) (authority reason : String)
      (expectedRevision : Int)
  | acknowledge (taskId : String) (submission : Submission)
      (workerId runId claimToken claimEventId : String) (expectedRevision : Int)
  | observe (taskId : String) (submission : Submission) (observationRef : String)
      (worker : Option Value) (evidence : String → Option String)

/-- `record_queue_claim` up to the lock. -/
def claimChange (items : List (Option QueueItem)) (taskId : String) (submission : Submission)
    (workerId runId claimToken : String) (expectedRevision : Int) : Except String Change := do
  require (submission.taskId == taskId && isFilled workerId && isFilled runId &&
    isFilled claimToken) "Queue claim identity is invalid"
  let queue ← queueItemForSubmission items submission
  .ok ⟨queue.identity, .claimed, expectedRevision, .claim workerId runId claimToken⟩

/-- `current[-1]` has this authority and this reason. -/
def lastRequestIs (current : List Value) (authority reason : String) : Bool :=
  match current.getLast? with
  | some last => (last.get "authority").equal (.str authority) &&
      (last.get "reason").equal (.str reason)
  | none => false

/-- The event that a cancellation request settles on. -/
def requestEvent (current : List Value) (authority reason : String) (expectedRevision : Int) :
    LifecycleEvent :=
  if (currentState current).equal (.str "queued") ||
      ((currentState current).equal (.str "cancelled") && expectedRevision == 0 &&
        lastRequestIs current authority reason) then .cancelled
  else .cancellationRequested

/-- `record_queue_cancellation_request` up to the lock. -/
def requestChange (items : List (Option QueueItem)) (file : Option Bytes) (taskId : String)
    (submission : Submission) (authority reason : String) (expectedRevision : Int) :
    Except String Change := do
  require (submission.taskId == taskId && isFilled authority && isFilled reason)
    "Queue cancellation authority or reason is invalid"
  let queue ← queueItemForSubmission items submission
  let current ← loadQueueLifecycle file queue.identity.queueId
  .ok ⟨queue.identity, requestEvent current authority reason expectedRevision, expectedRevision,
    .request authority reason⟩

/-- `record_queue_cancellation_acknowledgement` up to the lock. -/
def acknowledgeChange (items : List (Option QueueItem)) (file : Option Bytes)
    (submission : Submission) (workerId runId claimToken claimEventId : String)
    (expectedRevision : Int) : Except String Change := do
  let queue ← queueItemForSubmission items submission
  let lifecycle ← loadQueueLifecycle file queue.identity.queueId
  match lifecycle.find? fun item => (item.get "event").equal (.str "claimed") with
  | none => .error "Queue cancellation acknowledgement conflicts with claim"
  | some claim =>
    require ((claim.get "worker_id").equal (.str workerId) &&
        (claim.get "run_id").equal (.str runId) &&
        (claim.get "claim_token").equal (.str claimToken) &&
        (claim.get "event_id").equal (.str claimEventId))
      "Queue cancellation acknowledgement conflicts with claim"
    .ok ⟨queue.identity, .cancelled, expectedRevision,
      .acknowledgement workerId runId claimToken claimEventId⟩

/-- The checks of a worker observation that need nothing but the queue item. -/
def workerValid (taskId : String) (queue : QueueItem) (worker : Value) : Bool :=
  (worker.get "schema_version").equal (.str "valp-queue-worker-observation.v2") &&
  (worker.get "task_id").equal (.str taskId) &&
  (worker.get "queue_id").equal (.str queue.identity.queueId) &&
  (worker.get "enqueue_transaction_id").equal (.str queue.identity.enqueueTransactionId) &&
  isText (worker.get "worker_id") && isText (worker.get "run_id") &&
  isText (worker.get "claim_token") && isText (worker.get "claim_event_id") &&
  (match exactInt (worker.get "observation_sequence") with
    | some sequence => 1 ≤ sequence
    | none => false) &&
  ((worker.get "status").equal (.str "completed") ||
    (worker.get "status").equal (.str "blocked")) &&
  isTrue (worker.get "acknowledged") &&
  ((worker.get "status").equal (.str "blocked") == isText (worker.get "failure_code")) &&
  !((worker.get "status").equal (.str "completed") && worker.has "failure_code")

/-- The details of the terminal entry for an observation. -/
def terminalDetails (worker : Value) (observationRef : String) : Details :=
  .terminal ((asStr (worker.get "worker_id")).getD "") ((asStr (worker.get "run_id")).getD "")
    ((asStr (worker.get "claim_token")).getD "") ((asStr (worker.get "claim_event_id")).getD "")
    ((exactInt (worker.get "observation_sequence")).getD 0) observationRef (digest worker.1)

/-- The persisted claim is the one that the observation names. -/
def bindsClaim (claim worker : Value) : Bool :=
  (claim.get "worker_id").equal (worker.get "worker_id") &&
  (claim.get "run_id").equal (worker.get "run_id") &&
  (claim.get "claim_token").equal (worker.get "claim_token") &&
  (claim.get "event_id").equal (worker.get "claim_event_id")

def Details.runtimeIdentity : Details → Option String
  | .terminal workerId runId _ _ sequence _ _ =>
    some (workerId ++ ":" ++ runId ++ ":" ++ toString sequence)
  | _ => none

/-- No receipt of another attempt has the runtime identity. -/
def unreplayed (receipts : List Terminal) (attemptId : String) (details : Details) : Bool :=
  receipts.all fun receipt => details.runtimeIdentity != some receipt.runtimeIdentity ||
    receipt.identity.attemptId == attemptId

/-- A completion has the files that are expected of it. -/
def checkEvidence (submission : Submission) (worker : Value) (evidence : String → Option String) :
    Except String Unit :=
  match submission.expectedRefs.find? fun ref =>
      (worker.get "status").equal (.str "completed") && (evidence ref).isNone with
  | some ref => .error ("Queue completion evidence is missing: " ++ ref)
  | none => .ok ()

/-- `record_queue_terminal_observation` up to the lock. -/
def observeChange (items : List (Option QueueItem)) (file : Option Bytes)
    (receipts : List Terminal) (taskId : String) (submission : Submission)
    (observationRef : String) (worker : Option Value) (evidence : String → Option String) :
    Except String Change := do
  require (submission.schemaVersion == "valp-dispatch-receipt.v3" &&
      submission.event == "dispatch_submitted" && submission.taskId == taskId &&
      submission.mode == "full" && safeRef observationRef)
    "Queue terminal observation requires its exact submitted receipt"
  let queue ← queueItemForSubmission items submission
  let worker ← worker.elim (.error "Queue worker observation is unavailable or malformed") .ok
  require worker.isObject "Queue worker observation must be an object"
  require (workerValid taskId queue worker)
    "Queue worker observation identity or terminal claim is invalid"
  let lifecycle ← loadQueueLifecycle file queue.identity.queueId
  match lifecycle.filter fun item => (item.get "event").equal (.str "claimed") with
  | [claim] =>
    require (bindsClaim claim worker)
      "Queue terminal observation does not bind the exact persisted claim"
    require (unreplayed receipts submission.attemptId (terminalDetails worker observationRef))
      "Queue worker/run observation identity was replayed across Attempts"
    checkEvidence submission worker evidence
    .ok ⟨queue.identity,
      if (worker.get "status").equal (.str "completed") then .completed else .blocked,
      (exactInt (claim.get "queue_revision")).getD 0, terminalDetails worker observationRef⟩
  | _ => .error "Queue terminal observation does not bind the exact persisted claim"

/-- A call up to the lock. -/
def Call.change (items : List (Option QueueItem)) (file : Option Bytes)
    (receipts : List Terminal) : Call → Except String Change
  | .claim taskId submission workerId runId claimToken expectedRevision =>
    claimChange items taskId submission workerId runId claimToken expectedRevision
  | .request taskId submission authority reason expectedRevision =>
    requestChange items file taskId submission authority reason expectedRevision
  | .acknowledge _ submission workerId runId claimToken claimEventId expectedRevision =>
    acknowledgeChange items file submission workerId runId claimToken claimEventId expectedRevision
  | .observe taskId submission observationRef worker evidence =>
    observeChange items file receipts taskId submission observationRef worker evidence

/-! ### What a call reads -/

variable {entries' : List Entry}

section Reading

variable {file : Option Bytes} {entries : List Entry} {queueId : String}

theorem loadQueueLifecycle_written (hfile : Written file entries) (hchain : Chain entries)
    (queueId : String) :
    loadQueueLifecycle file queueId = .ok ((history queueId entries).map Entry.loaded) := by
  rw [loadQueueLifecycle, load_written hfile hchain, ok_bind, filter_queueId]

theorem name_injective {a b : LifecycleEvent} (h : a.name = b.name) : a = b := by
  cases a <;> cases b <;> first | rfl | exact absurd h (by decide)

theorem event_eq (entry : Entry) (event : LifecycleEvent) :
    (entry.loaded.get "event").equal (.str event.name) = decide (entry.change.event = event) := by
  rw [entry.get_event, Value.equal_str_str]
  exact decide_eq_decide.mpr ⟨name_injective, fun h => h ▸ rfl⟩

theorem history_mono (h : entries <+: entries') (queueId : String) :
    history queueId entries <+: history queueId entries' :=
  h.filter _

def claimsOf (queueId : String) (entries : List Entry) : List Entry :=
  (history queueId entries).filter fun entry => entry.change.event = .claimed

/-- **An item has at most one claim.** -/
theorem Chain.claims (h : Chain entries) (queueId : String) :
    (claimsOf queueId entries).length ≤ 1 := by
  have hall : ∀ events ∈ lifecycles, (events.filter fun event => event = .claimed).length ≤ 1 := by
    decide
  have hevs := hall _ (h.events queueId)
  rwa [filter_map, length_map] at hevs

theorem Chain.claims_eq (h' : Chain entries')
    (hstart : entries <+: entries') {claim : Entry} (hclm : claimsOf queueId entries = [claim]) :
    claimsOf queueId entries' = [claim] := by
  obtain ⟨rest, hrest⟩ := (history_mono hstart queueId).filter
    fun entry => entry.change.event = .claimed
  have hlen := h'.claims queueId
  rw [claimsOf] at hclm hlen ⊢
  rw [← hrest, hclm] at hlen ⊢
  cases rest with
  | nil => rfl
  | cons => simp at hlen

end Reading

/-! ### Changes that were settled on -/

/-- The event and the details of a change belong together, and a terminal change carries the
identity of a claim. -/
def Sound (entries : List Entry) (change : Change) : Prop :=
  match change.details with
  | .claim _ _ _ => change.event = .claimed
  | .request _ _ => change.event = .cancelled ∨ change.event = .cancellationRequested
  | .acknowledgement _ _ _ _ => change.event = .cancelled
  | .terminal workerId runId claimToken _ _ _ _ =>
    (change.event = .completed ∨ change.event = .blocked) ∧
      ∃ claim ∈ history change.identity.queueId entries,
        claim.change.details = .claim workerId runId claimToken

theorem Sound.mono {entries : List Entry} (hstart : entries <+: entries')
    {change : Change} (h : Sound entries change) : Sound entries' change := by
  rw [Sound] at h ⊢
  split
  · rename_i heq; rw [heq] at h; exact h
  · rename_i heq; rw [heq] at h; exact h
  · rename_i heq; rw [heq] at h; exact h
  rename_i heq
  rw [heq] at h
  obtain ⟨hev, claim, hclm, hdet⟩ := h
  exact ⟨hev, claim, (history_mono hstart _).subset hclm, hdet⟩

theorem Sound.claim {entries : List Entry} {change : Change} (h : Sound entries change)
    (hev : change.event = .claimed) :
    ∃ workerId runId claimToken, change.details = .claim workerId runId claimToken := by
  rw [Sound] at h
  split at h
  · rename_i w r t heq
    exact ⟨w, r, t, heq⟩
  · rw [hev] at h
    rcases h with h | h <;> cases h
  · cases hev.symm.trans h
  · rw [hev] at h
    rcases h.1 with h | h <;> cases h

theorem Sound.terminal {entries : List Entry} {change : Change} (h : Sound entries change)
    (hev : change.event = .completed ∨ change.event = .blocked) :
    ∃ workerId runId claimToken, (∃ claimEventId sequence ref d, change.details =
        .terminal workerId runId claimToken claimEventId sequence ref d) ∧
      ∃ claim ∈ history change.identity.queueId entries,
        claim.change.details = .claim workerId runId claimToken := by
  rw [Sound] at h
  split at h
  · rcases hev with hev | hev <;> rw [hev] at h <;> cases h
  · rcases hev with hev | hev <;> rw [hev] at h <;> rcases h with h | h <;> cases h
  · rcases hev with hev | hev <;> rw [hev] at h <;> cases h
  · rename_i w r t c s ref d heq
    exact ⟨w, r, t, ⟨c, s, ref, d, heq⟩, h.2⟩

/-- The call settled on the change at a time at which the ledger held a first part of these
entries and the condition `C` was met. -/
def Offered (items : List (Option QueueItem)) (C : Option Bytes → Call → Prop)
    (entries : List Entry) (call : Call) (change : Change) : Prop :=
  ∃ file receipts first, Written file first ∧ Chain first ∧ first <+: entries ∧ C file call ∧
    call.change items file receipts = .ok change

section Settle

variable {items : List (Option QueueItem)} {file : Option Bytes} {receipts : List Terminal}
  {entries : List Entry} {change : Change} {submission : Submission}

theorem attemptId_eq {queue : QueueItem} (h : queueItemForSubmission items submission = .ok queue) :
    queue.identity.attemptId = submission.attemptId := by
  obtain ⟨_, -, h⟩ := bind_eq_ok.mp h
  split at h
  · rename_i item hitem
    obtain ⟨_, -, h⟩ := bind_eq_ok.mp h
    cases h
    have hmem := mem_singleton_self queue
    rw [← hitem, mem_filter] at hmem
    exact eq_of_beq hmem.2
  · cases h

theorem filter_claimed (queueId : String) (entries : List Entry) :
    (((history queueId entries).map Entry.loaded).filter fun item =>
      (item.get "event").equal (.str "claimed")) = (claimsOf queueId entries).map Entry.loaded :=
  filter_loaded _ (fun entry => entry.change.event = .claimed) _ fun entry _ =>
    event_eq entry .claimed

section

variable (hfile : Written file entries) (hchain : Chain entries)
include hfile hchain

theorem requestChange_written
    (taskId authority reason : String) (expectedRevision : Int) :
    requestChange items file taskId submission authority reason expectedRevision = .ok change ↔
      (submission.taskId == taskId && isFilled authority && isFilled reason) ∧
      ∃ queue, queueItemForSubmission items submission = .ok queue ∧
        change = ⟨queue.identity, requestEvent
          ((history queue.identity.queueId entries).map Entry.loaded) authority reason
          expectedRevision, expectedRevision, .request authority reason⟩ := by
  simp only [requestChange, loadQueueLifecycle_written hfile hchain, ok_bind]
  constructor
  · intro h
    obtain ⟨u, hval, h⟩ := bind_eq_ok.mp h
    obtain ⟨queue, hq, h⟩ := bind_eq_ok.mp h
    exact ⟨require_eq_ok.mp hval, queue, hq, (Except.ok.inj h).symm⟩
  · rintro ⟨hval, queue, hq, rfl⟩
    rw [hval, require_true, ok_bind, hq, ok_bind]

theorem acknowledgeChange_written
    (workerId runId claimToken claimEventId : String) (expectedRevision : Int) :
    acknowledgeChange items file submission workerId runId claimToken claimEventId
        expectedRevision = .ok change ↔
      ∃ queue, queueItemForSubmission items submission = .ok queue ∧
        change = ⟨queue.identity, .cancelled, expectedRevision,
          .acknowledgement workerId runId claimToken claimEventId⟩ ∧
        ∃ claim, ((history queue.identity.queueId entries).map Entry.loaded).find?
          (fun item => (item.get "event").equal (.str "claimed")) = some claim ∧
          ((claim.get "worker_id").equal (.str workerId) &&
            (claim.get "run_id").equal (.str runId) &&
            (claim.get "claim_token").equal (.str claimToken) &&
            (claim.get "event_id").equal (.str claimEventId)) := by
  simp only [acknowledgeChange, loadQueueLifecycle_written hfile hchain, ok_bind, bind_eq_ok]
  refine exists_congr fun queue => and_congr_right fun _ => ?_
  cases ((history queue.identity.queueId entries).map Entry.loaded).find?
      (fun item => (item.get "event").equal (.str "claimed")) with
  | none => simp
  | some claim => simp [bind_eq_ok, require_eq_ok, and_comm, eq_comm (b := change)]

theorem observeChange_written
    (taskId observationRef : String) (worker : Option Value) (evidence : String → Option String) :
    observeChange items file receipts taskId submission observationRef worker evidence =
        .ok change ↔
      (submission.schemaVersion == "valp-dispatch-receipt.v3" &&
        submission.event == "dispatch_submitted" && submission.taskId == taskId &&
        submission.mode == "full" && safeRef observationRef) ∧
      ∃ queue, queueItemForSubmission items submission = .ok queue ∧
        ∃ document, worker = some document ∧ document.isObject ∧
          workerValid taskId queue document ∧
          ∃ claim, claimsOf queue.identity.queueId entries = [claim] ∧
            bindsClaim claim.loaded document ∧
            unreplayed receipts submission.attemptId (terminalDetails document observationRef) ∧
            checkEvidence submission document evidence = .ok () ∧
            change = ⟨queue.identity,
              if (document.get "status").equal (.str "completed") then .completed else .blocked,
              (exactInt (claim.loaded.get "queue_revision")).getD 0,
              terminalDetails document observationRef⟩ := by
  simp only [observeChange, loadQueueLifecycle_written hfile hchain, ok_bind, filter_claimed,
    bind_eq_ok, require_eq_ok, exists_const]
  rcases worker with _ | document
  · simp
  refine and_congr_right fun _ => exists_congr fun queue => ?_
  rcases claimsOf queue.identity.queueId entries with _ | ⟨claim, _ | ⟨other, rest⟩⟩
  · simp
  · simp [bind_eq_ok, require_eq_ok, Unique.exists_iff, eq_comm (b := change)]
  · simp

end

theorem str_equal {s : String} {v : Value} (h : (Value.str s).equal v) : v = .str s :=
  Value.equal_str.mp (Value.equal_iff.mpr (Value.equal_iff.mp h).symm)

theorem terminalDetails_of_bindsClaim {claim : Entry} {worker : Value}
    {workerId runId claimToken : String} (observationRef : String)
    (hclm : claim.change.details = .claim workerId runId claimToken)
    (h : bindsClaim claim.loaded worker) :
    ∃ claimEventId sequence ref d, terminalDetails worker observationRef =
      .terminal workerId runId claimToken claimEventId sequence ref d := by
  have hget : ∀ {k s : String}, (k, Value.str s) ∈ claim.change.details.fields →
      (claim.loaded.get k).equal (worker.get k) → asStr (worker.get k) = some s := by
    intro k s hmem heql
    rw [claim.get_detail hmem] at heql
    rw [str_equal heql]
    rfl
  rw [bindsClaim, Bool.and_eq_true, Bool.and_eq_true, Bool.and_eq_true] at h
  obtain ⟨⟨⟨hworker, hrun⟩, htoken⟩, -⟩ := h
  have hworker := hget (s := workerId) (by simp [hclm, Details.fields]) hworker
  have hrun := hget (s := runId) (by simp [hclm, Details.fields]) hrun
  have htoken := hget (s := claimToken) (by simp [hclm, Details.fields]) htoken
  rw [terminalDetails, hworker, hrun, htoken]
  exact ⟨_, _, _, _, rfl⟩

theorem requestEvent_cases (current : List Value) (authority reason : String)
    (expectedRevision : Int) : requestEvent current authority reason expectedRevision = .cancelled ∨
      requestEvent current authority reason expectedRevision = .cancellationRequested := by
  rw [requestEvent]
  split
  · exact .inl rfl
  · exact .inr rfl

variable {C : Option Bytes → Call → Prop} {call : Call}

/-- **The event and the details of a change that was settled on belong together.** -/
theorem Offered.sound (h : Offered items C entries call change)
    (hsound : ∀ entry ∈ entries, Sound entries entry.change) : Sound entries change := by
  obtain ⟨file, receipts, first, hfile, hchain, hfst, -, hok⟩ := h
  cases call with
  | claim taskId submission workerId runId claimToken expectedRevision =>
    obtain ⟨u, -, hok⟩ := bind_eq_ok.mp hok
    obtain ⟨queue, -, hok⟩ := bind_eq_ok.mp hok
    rw [← Except.ok.inj hok]
    exact rfl
  | request taskId submission authority reason expectedRevision =>
    obtain ⟨-, queue, -, rfl⟩ := (requestChange_written hfile hchain _ _ _ _).mp hok
    exact requestEvent_cases _ _ _ _
  | acknowledge taskId submission workerId runId claimToken claimEventId expectedRevision =>
    obtain ⟨queue, -, rfl, -⟩ := (acknowledgeChange_written hfile hchain _ _ _ _ _).mp hok
    exact rfl
  | observe taskId submission observationRef worker evidence =>
    obtain ⟨-, queue, -, document, -, -, -, claim, hclm, hbinds, -, -, rfl⟩ :=
      (observeChange_written hfile hchain _ _ _ _).mp hok
    have hmem : claim ∈ claimsOf queue.identity.queueId first := by simp [hclm]
    obtain ⟨hhist, hev⟩ := mem_filter.mp hmem
    have hin : claim ∈ history queue.identity.queueId entries :=
      (history_mono hfst _).subset hhist
    obtain ⟨workerId, runId, claimToken, hdet⟩ :=
      (hsound claim (mem_of_mem_filter hin)).claim (of_decide_eq_true hev)
    obtain ⟨claimEventId, sequence, ref, d, hterm⟩ :=
      terminalDetails_of_bindsClaim observationRef hdet hbinds
    rw [Sound, hterm]
    refine ⟨?_, claim, hin, hdet⟩
    by_cases hst : (document.get "status").equal (.str "completed") = true
    · exact .inl (if_pos hst)
    · exact .inr (if_neg hst)

/-- The call is not a cancellation request. -/
def Call.Steady : Call → Prop
  | .request _ _ _ _ _ => False
  | _ => True

/-- **Such a call settles on the same change when it is made again.** -/
theorem Offered.again {file' : Option Bytes} {later : List Entry} {receipts' : List Terminal}
    (h : Offered items C entries call change) (hcall : call.Steady)
    (hfile' : Written file' later) (hch' : Chain later) (hlat : entries <+: later)
    (hfr : unreplayed receipts' change.identity.attemptId change.details) :
    call.change items file' receipts' = .ok change := by
  obtain ⟨file, receipts, first, hfile, hchain, hfst, -, hok⟩ := h
  have hstart : first <+: later := hfst.trans hlat
  cases call with
  | claim taskId submission workerId runId claimToken expectedRevision => exact hok
  | request taskId submission authority reason expectedRevision => exact hcall.elim
  | acknowledge taskId submission workerId runId claimToken claimEventId expectedRevision =>
    obtain ⟨queue, hq, hchange, claim, hfind, hval⟩ :=
      (acknowledgeChange_written hfile hchain _ _ _ _ _).mp hok
    refine (acknowledgeChange_written hfile' hch' _ _ _ _ _).mpr
      ⟨queue, hq, hchange, claim, ?_, hval⟩
    exact ((history_mono hstart _).map Entry.loaded).find?_eq_some hfind
  | observe taskId submission observationRef worker evidence =>
    obtain ⟨hsubd, queue, hq, document, hdocument, hobj, hworker, claim, hclm, hbinds,
      -, hevid, rfl⟩ := (observeChange_written hfile hchain _ _ _ _).mp hok
    rw [attemptId_eq hq] at hfr
    exact (observeChange_written hfile' hch' _ _ _ _).mpr
      ⟨hsubd, queue, hq, document, hdocument, hobj, hworker, claim,
        hch'.claims_eq hstart hclm, hbinds, hfr, hevid, rfl⟩

end Settle

/-! ### Cancellation requests -/

/-- The events behind which nothing happens. -/
def isTerminal : LifecycleEvent → Bool
  | .cancelled => true
  | .completed => true
  | .blocked => true
  | _ => false

variable {expectedRevision : Int}

section Requests

variable {items : List (Option QueueItem)} {entries : List Entry} {queueId : String}
  {before after : List Entry} {entry : Entry}

/-- **Nothing follows a terminal entry, and none stands before it.** -/
theorem Chain.terminal_last (h : Chain entries)
    (hsp : history queueId entries = before ++ entry :: after)
    (hterm : isTerminal entry.change.event) :
    after = [] ∧ ∀ e ∈ before, isTerminal e.change.event = false := by
  have hall : ∀ events ∈ lifecycles, ∀ event ∈ events.dropLast, isTerminal event = false := by
    decide
  have hevs := hall _ (h.events queueId)
  rw [hsp, map_append, map_cons] at hevs
  rcases eq_nil_or_concat' after with rfl | ⟨init, last, rfl⟩
  · refine ⟨rfl, fun e he => ?_⟩
    rw [map_nil, dropLast_concat] at hevs
    exact hevs _ (mem_map_of_mem he)
  rw [map_append, map_singleton, ← cons_append, ← append_assoc, dropLast_concat] at hevs
  have hlive := hevs entry.change.event (by simp)
  cases hterm.symm.trans hlive

theorem Chain.request_late (h : Chain entries)
    (hsp : history queueId entries = before ++ entry :: after)
    (hev : entry.change.event = .cancellationRequested) : before ≠ [] := by
  rintro rfl
  have hall : ∀ events ∈ lifecycles, events.head? ≠ some .cancellationRequested := by decide
  refine hall _ (h.events queueId) ?_
  rw [hsp, nil_append, map_cons, head?_cons, hev]

/-- A request for cancellation that finds the item queued expects revision zero. -/
def Careful (items : List (Option QueueItem)) (file : Option Bytes) : Call → Prop
  | .request _ submission _ _ expectedRevision =>
    expectedRevision = 0 ∨ ∀ queue current, queueItemForSubmission items submission = .ok queue →
      loadQueueLifecycle file queue.identity.queueId = .ok current →
        (currentState current).equal (.str "queued") = false
  | _ => True

theorem requestEvent_cancelled {current : List Value} {authority reason : String}
    (h : requestEvent current authority reason expectedRevision = .cancelled) :
    (currentState current).equal (.str "queued") ∨ expectedRevision = 0 := by
  rw [requestEvent] at h
  split at h
  · rename_i hcond
    rw [Bool.or_eq_true, Bool.and_eq_true, Bool.and_eq_true, beq_iff_eq] at hcond
    exact hcond.imp id fun hsame => hsame.1.2
  · cases h

theorem currentState_ne_queued (hmem : entry ∈ history queueId entries) :
    (currentState ((history queueId entries).map Entry.loaded)).equal (.str "queued") = false := by
  rw [currentState_history, Value.equal_str_str, lastEvent]
  cases hlast : (history queueId entries).getLast? with
  | none =>
    rw [List.getLast?_eq_none_iff.mp hlast] at hmem
    cases hmem
  | some last =>
    rw [Option.map_some, stateName]
    cases last.change.event <;> decide

/-- A request that expects a later revision of an item with entries asks for cancellation. -/
theorem requestEvent_later (hmem : entry ∈ history queueId entries) (authority reason : String)
    (h : expectedRevision ≠ 0) :
    requestEvent ((history queueId entries).map Entry.loaded) authority reason expectedRevision =
      .cancellationRequested := by
  rw [requestEvent, currentState_ne_queued hmem, beq_eq_false_iff_ne.mpr h]
  simp

/-- **A careful request whose entry is in the ledger settles on the same change again.** -/
theorem request_again {taskId authority reason : String} {submission : Submission} {change : Change}
    {file' : Option Bytes} {later : List Entry} {receipts' : List Terminal}
    (h : Offered items (Careful items) entries
      (.request taskId submission authority reason expectedRevision) change)
    (hmem : entry ∈ history change.identity.queueId entries) (hent : entry.change = change)
    (hfile' : Written file' later) (hch' : Chain later) (hlat : entries <+: later) :
    (Call.request taskId submission authority reason expectedRevision).change items file'
      receipts' = .ok change := by
  obtain ⟨file, _, first, hfile, hchain, -, hcareful, hok⟩ := h
  obtain ⟨hval, queue, hq, rfl⟩ := (requestChange_written hfile hchain _ _ _ _).mp hok
  refine (requestChange_written hfile' hch' _ _ _ _).mpr ⟨hval, queue, hq, ?_⟩
  have hmem' := (history_mono hlat _).subset hmem
  obtain ⟨before, after, hsp⟩ := append_of_mem hmem'
  have hrev := (hch'.revision hsp).1
  rw [hent] at hrev
  congr 1
  rcases requestEvent_cases ((history queue.identity.queueId first).map Entry.loaded) authority
    reason expectedRevision with hev | hev
  · -- the entry is the first of its item, and the last
    have hzero : expectedRevision = 0 := by
      rcases requestEvent_cancelled hev with hqueued | hzero
      · rcases hcareful with hzero | hbusy
        · exact hzero
        · rw [hbusy queue _ hq (loadQueueLifecycle_written hfile hchain _)] at hqueued
          cases hqueued
      · exact hzero
    have hbef : before = [] := by
      rw [← length_eq_zero_iff]
      have hlen : (expectedRevision : Int) = before.length := hrev
      omega
    have hkind : entry.change.event = .cancelled := by rw [hent]; exact hev
    obtain ⟨rfl, -⟩ := hch'.terminal_last hsp (by rw [hkind]; rfl)
    have hdet : entry.change.details = .request authority reason := by rw [hent]
    have hauth : entry.loaded.get "authority" = .str authority :=
      entry.get_detail (by simp [hdet, Details.fields])
    have hrsn : entry.loaded.get "reason" = .str reason :=
      entry.get_detail (by simp [hdet, Details.fields])
    have hsta : entry.loaded.get "state" = .str "cancelled" := by
      rw [entry.get_state, hkind]
      rfl
    rw [hev, hsp, hbef, requestEvent, nil_append, map_singleton, currentState,
      lastRequestIs, getLast?_singleton]
    simp only [hauth, hrsn, hsta, hzero, Value.equal_self, Bool.and_self,
      beq_self_eq_true, Bool.or_true, if_true]
  · -- the item was claimed before, so that its state never reads as queued again
    have hkind : entry.change.event = .cancellationRequested := by rw [hent]; exact hev
    have hlate := hch'.request_late hsp hkind
    have hpositive : expectedRevision ≠ 0 := by
      have hlen : (expectedRevision : Int) = before.length := hrev
      have hpos := length_pos_iff.mpr hlate
      omega
    rw [hev, requestEvent_later hmem' _ _ hpositive]

end Requests

end Valp.Queue
