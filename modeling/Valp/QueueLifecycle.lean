/-
The lifecycle ledger of the queue adapter.

Every queue item has a lifecycle: it is claimed by a worker or cancelled while it is queued,
and a claimed item ends completed, blocked or, once cancellation was requested, cancelled.  All
items share one file of canonical JSON lines in which each entry carries the digest of the one
before it.  A change reads the file and rewrites it under a lock; a change that is already
there is not made again.

* `load_written` — **a ledger that was built change by change is accepted by the loader**;
* `commit_cases` — what one locked section can do;
* `Chain.events` — the lifecycles that an item can have;
* `commit_again` — a change that is in the ledger is returned and nothing is written.
-/
import Valp.JsonEqual
import Valp.KernelCodec

namespace Valp.Queue

open Kernel (digest canonicalBytes)
open Kernel.Decode (ok_bind)
open Json (Value)
open List
open Json.Value

/-! ### Entries -/

/-- What happens to a queue item; the state behind it has the same name. -/
inductive LifecycleEvent where
  | claimed
  | cancellationRequested
  | cancelled
  | completed
  | blocked
  deriving DecidableEq, Repr

def LifecycleEvent.name : LifecycleEvent → String
  | .claimed => "claimed"
  | .cancellationRequested => "cancellation_requested"
  | .cancelled => "cancelled"
  | .completed => "completed"
  | .blocked => "blocked"

/-- `_QUEUE_IDENTITY_KEYS` and their values. -/
structure QueueIdentity where
  taskId : String
  workItemId : String
  attemptId : String
  dispatchId : String
  dispatchGeneration : Int
  queueId : String
  enqueueTransactionId : String
  deriving DecidableEq

def QueueIdentity.fields (identity : QueueIdentity) : List (String × Value) :=
  [("task_id", .str identity.taskId),
    ("work_item_id", .str identity.workItemId),
    ("attempt_id", .str identity.attemptId),
    ("dispatch_id", .str identity.dispatchId),
    ("dispatch_generation", .int identity.dispatchGeneration),
    ("queue_id", .str identity.queueId),
    ("enqueue_transaction_id", .str identity.enqueueTransactionId)]

/-- The details that the four calls give. -/
inductive Details where
  | claim (workerId runId claimToken : String)
  | request (authority reason : String)
  | acknowledgement (workerId runId claimToken claimEventId : String)
  | terminal (workerId runId claimToken claimEventId : String) (observationSequence : Int)
      (workerObservationRef workerObservationDigest : String)
  deriving DecidableEq

def Details.fields : Details → List (String × Value)
  | .claim workerId runId claimToken =>
    [("worker_id", .str workerId), ("run_id", .str runId), ("claim_token", .str claimToken)]
  | .request authority reason => [("authority", .str authority), ("reason", .str reason)]
  | .acknowledgement workerId runId claimToken claimEventId =>
    [("worker_id", .str workerId), ("run_id", .str runId), ("claim_token", .str claimToken),
      ("claim_event_id", .str claimEventId), ("acknowledged", .bool true)]
  | .terminal workerId runId claimToken claimEventId observationSequence ref digest =>
    [("worker_id", .str workerId), ("run_id", .str runId), ("claim_token", .str claimToken),
      ("claim_event_id", .str claimEventId), ("observation_sequence", .int observationSequence),
      ("worker_observation_ref", .str ref), ("worker_observation_digest", .str digest)]

theorem Details.nodup_fields (details : Details) : (details.fields.map Prod.fst).Nodup := by
  cases details <;> simp [fields]

/-- The arguments of `_queue_lifecycle_entry`; every caller passes its event as the state. -/
structure Change where
  identity : QueueIdentity
  event : LifecycleEvent
  expectedRevision : Int
  details : Details
  deriving DecidableEq

/-- What the idempotency key is the digest of. -/
def Change.subject (change : Change) : Value :=
  .dict [("identity", .dict change.identity.fields (by simp [QueueIdentity.fields])),
    ("event", .str change.event.name),
    ("expected_revision", .int change.expectedRevision),
    ("details", .dict change.details.fields change.details.nodup_fields)] (by simp)

def Change.key (change : Change) : String := digest change.subject.1

/-- An entry, given by what it is made from. -/
structure Entry where
  change : Change
  ledgerRevision : ℕ
  queueRevision : ℕ
  previous : Value

namespace Entry

def queueId (entry : Entry) : String := entry.change.identity.queueId

def eventId (entry : Entry) : String :=
  digest (Value.dict [("queue_id", .str entry.queueId),
    ("queue_revision", .int entry.queueRevision),
    ("idempotency_key", .str entry.change.key)] (by simp)).1

/-- The items of the dictionary before `entry_digest` is set. -/
def fields (entry : Entry) : List (String × Value) :=
  ("schema_version", .str "valp-queue-lifecycle-entry.v1") ::
    entry.change.identity.fields ++
    [("ledger_revision", .int entry.ledgerRevision),
      ("queue_revision", .int entry.queueRevision),
      ("expected_revision", .int entry.change.expectedRevision),
      ("previous_entry_digest", entry.previous),
      ("event", .str entry.change.event.name),
      ("state", .str entry.change.event.name),
      ("idempotency_key", .str entry.change.key)] ++
    entry.change.details.fields ++ [("event_id", .str entry.eventId)]

section

variable (entry : Entry)

theorem nodup_fields (v : Value) :
    ((entry.fields ++ [("entry_digest", v)]).map Prod.fst).Nodup := by
  simp only [fields, QueueIdentity.fields, map_append, map_cons, map_nil, cons_append, nil_append]
  cases entry.change.details <;> simp [Details.fields]

theorem nodup_signed : (entry.fields.map Prod.fst).Nodup :=
  (nodup_append.mp (map_append ▸ entry.nodup_fields .null)).1

def entryDigest : String := digest (Value.dict entry.fields entry.nodup_signed).1

/-- The dictionary that is written. -/
def value : Value :=
  .dict (entry.fields ++ [("entry_digest", .str entry.entryDigest)]) (entry.nodup_fields _)

/-- The dictionary as it is read back. -/
def loaded : Value := entry.value.normal true

end

end Entry

/-! ### The loader -/

/-- `str(v)`, which names the item of an entry. -/
def text (v : Value) : String :=
  match v.1 with
  | .str s => s
  | .null => "None"
  | .bool b => if b then "True" else "False"
  | w => String.ofList w.render

/-- `prior`, `event` and `state` name an allowed transition. -/
def validTransition (prior event state : Value) : Bool :=
  (prior.equal (.str "queued") && event.equal (.str "claimed") && state.equal (.str "claimed")) ||
  (prior.equal (.str "queued") && event.equal (.str "cancelled") &&
    state.equal (.str "cancelled")) ||
  (prior.equal (.str "claimed") && event.equal (.str "cancellation_requested") &&
    state.equal (.str "cancellation_requested")) ||
  (prior.equal (.str "cancellation_requested") && event.equal (.str "cancelled") &&
    state.equal (.str "cancelled")) ||
  (prior.equal (.str "claimed") &&
    (event.equal (.str "completed") || event.equal (.str "blocked")) && state.equal event)

/-- `raise RuntimeAdapterError(message)` unless the condition holds. -/
def require (condition : Bool) (message : String) : Except String Unit :=
  if condition then .ok () else .error message

theorem require_eq_ok {condition : Bool} {message : String} {u : Unit} :
    require condition message = .ok u ↔ condition := by
  cases condition
  · exact ⟨fun h => (by cases h), fun h => (by cases h)⟩
  · exact ⟨fun _ => rfl, fun _ => rfl⟩

theorem require_true (message : String) : require true message = .ok () := rfl

/-- The variables of the loop of `_load_queue_lifecycle_unlocked`. -/
structure Tally where
  entries : List Value := []
  priorDigest : Value := .null
  queueRevisions : String → ℕ := fun _ => 0
  queueStates : String → String := fun _ => "queued"

/-- `json.loads(line)`. -/
def loadsLine (line : Bytes) : Except String Value :=
  match h : (Bytes.decode line).bind Json.loads with
  | none => .error "Queue lifecycle ledger is malformed"
  | some v => .ok ⟨v, by
      obtain ⟨text, -, hv⟩ := Option.bind_eq_some_iff.mp h
      exact Json.distinctKeys_of_loads hv⟩

def loadLine (tally : Tally) (line : Bytes) : Except String Tally := do
  let entry ← loadsLine line
  require (entry.isObject && line == canonicalBytes entry.1)
    "Queue lifecycle ledger is noncanonical"
  let queueId := text (entry.get "queue_id")
  let expectedQueueRevision := tally.queueRevisions queueId + 1
  -- a value that equals a digest is a string
  require ((entry.get "schema_version").equal (.str "valp-queue-lifecycle-entry.v1") &&
      (entry.get "ledger_revision").equal (.int (tally.entries.length + 1)) &&
      (entry.get "queue_revision").equal (.int expectedQueueRevision) &&
      (entry.get "previous_entry_digest").equal tally.priorDigest &&
      (entry.get "entry_digest").equal (.str (digest (entry.1.erase "entry_digest"))))
    "Queue lifecycle digest chain is invalid"
  require (validTransition (.str (tally.queueStates queueId)) (entry.get "event")
      (entry.get "state")) "Queue lifecycle transition is invalid"
  .ok {
    entries := tally.entries ++ [entry]
    priorDigest := entry.get "entry_digest"
    queueRevisions := Function.update tally.queueRevisions queueId expectedQueueRevision
    queueStates := Function.update tally.queueStates queueId (text (entry.get "state")) }

def loadQueueLifecycleUnlocked : Option Bytes → Except String (List Value)
  | none => .ok []
  | some payload => do
    require (payload.isEmpty || (payload.getLast? == some 10 && !payload.contains 13))
      "Queue lifecycle ledger is noncanonical"
    let tally ← (Bytes.splitLines payload).foldlM loadLine {}
    .ok tally.entries

/-- `load_queue_lifecycle` of one item. -/
def loadQueueLifecycle (file : Option Bytes) (queueId : String) : Except String (List Value) := do
  let entries ← loadQueueLifecycleUnlocked file
  .ok (entries.filter fun entry => (entry.get "queue_id").equal (.str queueId))

/-- The payload of `_write_queue_lifecycle_unlocked`. -/
def lifecycleBytes (entries : List Value) : Bytes :=
  (entries.map fun entry => canonicalBytes entry.1).flatten

/-- The state in which the entries of an item leave it. -/
def currentState (queueEntries : List Value) : Value :=
  match queueEntries.getLast? with
  | some entry => entry.get "state"
  | none => .str "queued"

/-- The locked section of `_queue_lifecycle_entry`: what it returns, and the file behind it. -/
def commit (file : Option Bytes) (change : Change) : Except String Value × Option Bytes :=
  match loadQueueLifecycleUnlocked file with
  | .error message => (.error message, file)
  | .ok entries =>
    let queueEntries := entries.filter fun entry =>
      (entry.get "queue_id").equal (.str change.identity.queueId)
    match queueEntries.filter fun entry =>
        (entry.get "idempotency_key").equal (.str change.key) with
    | [entry] => (.ok entry, file)
    | _ :: _ :: _ => (.error "Queue lifecycle idempotency record is ambiguous", file)
    | [] =>
      if queueEntries.any fun entry => (entry.get "event").equal (.str change.event.name) &&
          (entry.get "expected_revision").equal (.int change.expectedRevision) then
        (.error "Queue lifecycle exact retry conflicts", file)
      else if change.expectedRevision ≠ queueEntries.length ∨
          !validTransition (currentState queueEntries) (.str change.event.name)
            (.str change.event.name) then
        (.error "Queue lifecycle CAS or transition conflict", file)
      else
        let entry : Entry := {
          change
          ledgerRevision := entries.length + 1
          queueRevision := queueEntries.length + 1
          previous := match entries.getLast? with
            | some last => last.get "entry_digest"
            | none => .null }
        (.ok entry.value, some (lifecycleBytes (entries ++ [entry.value])))

/-! ### Reading an entry -/

namespace Entry

variable {k : String}

variable {v : Value} {s : String}

theorem get_field {entry : Entry} (h : (k, v) ∈ entry.fields) : entry.value.get k = v :=
  get_dict (mem_append_left _ h)

theorem equal_field {entry : Entry} (h : (k, v) ∈ entry.fields)
    (w : Value) : (entry.loaded.get k).equal w = v.equal w := by
  rw [loaded, get_normal, equal_normal, get_field h]

theorem normal_loaded (entry : Entry) : entry.loaded.normal true = entry.loaded :=
  Subtype.ext (Json.sortKeys_sortKeys entry.value.1)

theorem get_str {entry : Entry} (h : (k, .str s) ∈ entry.fields) :
    entry.loaded.get k = .str s := by
  rw [loaded, get_normal, get_field h]
  rfl

variable (entry : Entry)

theorem get_queueId : entry.loaded.get "queue_id" = .str entry.queueId :=
  get_str (by simp [fields, QueueIdentity.fields, queueId])

theorem get_event : entry.loaded.get "event" = .str entry.change.event.name :=
  get_str (by simp [fields])

theorem get_state : entry.loaded.get "state" = .str entry.change.event.name :=
  get_str (by simp [fields])

theorem get_key : entry.loaded.get "idempotency_key" = .str entry.change.key :=
  get_str (by simp [fields])

theorem equal_expected (n : Int) : (entry.loaded.get "expected_revision").equal (.int n) =
    decide (entry.change.expectedRevision = n) := by
  rw [equal_field (v := .int entry.change.expectedRevision) (by simp [fields]),
    equal_int_int]

theorem get_detail (h : (k, .str s) ∈ entry.change.details.fields) :
    entry.loaded.get k = .str s :=
  get_str (by simp [fields, h])

theorem get_entryDigest : entry.loaded.get "entry_digest" = .str entry.entryDigest := by
  have hfld : entry.value.get "entry_digest" = .str entry.entryDigest :=
    get_dict (by simp)
  rw [loaded, get_normal, hfld]
  rfl

end Entry

/-! ### Transitions -/

/-- The name of a state; an item without entries is queued. -/
def stateName : Option LifecycleEvent → String
  | none => "queued"
  | some event => event.name

/-- The transitions of an item. -/
def allowed : Option LifecycleEvent → LifecycleEvent → Bool
  | none, .claimed => true
  | none, .cancelled => true
  | some .claimed, .cancellationRequested => true
  | some .cancellationRequested, .cancelled => true
  | some .claimed, .completed => true
  | some .claimed, .blocked => true
  | _, _ => false

theorem validTransition_name (prior : Option LifecycleEvent) (event : LifecycleEvent) :
    validTransition (.str (stateName prior)) (.str event.name) (.str event.name) =
      allowed prior event := by
  simp only [validTransition, equal_str_str, equal_self, Bool.and_true]
  rcases prior with _ | prior
  · cases event <;> rfl
  · cases prior <;> cases event <;> rfl

/-! ### Ledgers that grow change by change -/

/-- The entries of one item. -/
def history (queueId : String) (entries : List Entry) : List Entry :=
  entries.filter fun entry => entry.queueId = queueId

def lastEvent (queueId : String) (entries : List Entry) : Option LifecycleEvent :=
  (history queueId entries).getLast?.map fun entry => entry.change.event

/-- The digest that the next entry has to carry. -/
def lastDigest (entries : List Entry) : Value :=
  match entries.getLast? with
  | some last => .str last.entryDigest
  | none => .null

/-- The entry may stand behind these entries. -/
structure Extends (entries : List Entry) (entry : Entry) : Prop where
  ledgerRevision : entry.ledgerRevision = entries.length + 1
  queueRevision : entry.queueRevision = (history entry.queueId entries).length + 1
  expected : entry.change.expectedRevision = (history entry.queueId entries).length
  previous : entry.previous = lastDigest entries
  transition : allowed (lastEvent entry.queueId entries) entry.change.event = true
  fresh : ∀ earlier ∈ history entry.queueId entries, earlier.change.key ≠ entry.change.key

/-- A ledger that was built entry by entry. -/
inductive Chain : List Entry → Prop where
  | nil : Chain []
  | concat {entries : List Entry} {entry : Entry} (chain : Chain entries)
      (last : Extends entries entry) : Chain (entries ++ [entry])

theorem history_concat (queueId : String) (entries : List Entry) (entry : Entry) :
    history queueId (entries ++ [entry]) =
      if entry.queueId = queueId then history queueId entries ++ [entry]
      else history queueId entries := by
  rw [history, filter_append, filter_singleton]
  by_cases h : entry.queueId = queueId
  · simp [h, history]
  · simp [h, history]

theorem lastEvent_concat (queueId : String) (entries : List Entry) (entry : Entry) :
    lastEvent queueId (entries ++ [entry]) =
      if entry.queueId = queueId then some entry.change.event
      else lastEvent queueId entries := by
  rw [lastEvent, history_concat]
  by_cases h : entry.queueId = queueId
  · rw [if_pos h, if_pos h, getLast?_concat, Option.map_some]
  · rw [if_neg h, if_neg h, lastEvent]

theorem lastDigest_concat (entries : List Entry) (entry : Entry) :
    lastDigest (entries ++ [entry]) = .str entry.entryDigest := by
  rw [lastDigest, getLast?_concat]

/-- The file holds these entries. -/
def Written (file : Option Bytes) (entries : List Entry) : Prop :=
  file = none ∧ entries = [] ∨ file = some (lifecycleBytes (entries.map Entry.value))

/-! ### The loader accepts them -/

theorem canonicalBytes_normal (v : Value) :
    canonicalBytes (v.normal true).1 = canonicalBytes v.1 := by
  rw [Kernel.canonicalBytes_eq, Kernel.canonicalBytes_eq, val_normal, Json.sortKeys_sortKeys]

/-- The digest of a dictionary without a key does not depend on the order of the keys. -/
theorem digest_erase_normal (k : String) (v : Value) :
    digest ((v.normal true).1.erase k) = digest (v.1.erase k) := by
  have hsort : ((v.normal true).1.erase k).sortKeys = (v.1.erase k).sortKeys :=
    congrArg Subtype.val (normal_without v k)
  rw [digest, digest, Kernel.canonicalJson, Kernel.canonicalJson, hsort]

theorem loadsLine_canonicalBytes (v : Value) :
    loadsLine (canonicalBytes v.1) = .ok (v.normal true) := by
  have hread : (Bytes.decode (canonicalBytes v.1)).bind Json.loads = some v.1.sortKeys := by
    rw [canonicalBytes, Bytes.decode_encode, Kernel.canonicalJson, Option.bind_some]
    exact Json.loads_render ((Json.distinctKeys_sortKeys v.1).trans v.2) (by decide)
  rw [loadsLine]
  split
  · rename_i hnone
    cases hread.symm.trans hnone
  · rename_i w hw
    rw [hread] at hw
    exact congrArg Except.ok (Subtype.ext (Option.some.inj hw).symm)

/-- The variables of the loader behind these entries. -/
def tallyOf (entries : List Entry) : Tally where
  entries := entries.map Entry.loaded
  priorDigest := lastDigest entries
  queueRevisions := fun queueId => (history queueId entries).length
  queueStates := fun queueId => stateName (lastEvent queueId entries)

theorem isObject_loaded (entry : Entry) : entry.loaded.isObject := by
  rw [Value.isObject, Entry.loaded, shape_normal]
  rfl

theorem digest_loaded (entry : Entry) :
    digest (entry.loaded.1.erase "entry_digest") = entry.entryDigest := by
  have hsigned : entry.value.1.erase "entry_digest" =
      (Value.dict entry.fields entry.nodup_signed).1 := erase_dict
  rw [Entry.loaded, digest_erase_normal, hsigned, Entry.entryDigest]

/-- **One line of the loader**: it accepts an entry that may stand there. -/
theorem loadLine_extends {entries : List Entry} {entry : Entry} (h : Extends entries entry) :
    loadLine (tallyOf entries) (canonicalBytes entry.value.1) =
      .ok (tallyOf (entries ++ [entry])) := by
  have hqueue : text (entry.loaded.get "queue_id") = entry.queueId := by
    rw [entry.get_queueId]
    rfl
  have hsch : (entry.loaded.get "schema_version").equal
      (.str "valp-queue-lifecycle-entry.v1") := by
    rw [Entry.equal_field (v := .str "valp-queue-lifecycle-entry.v1") (by simp [Entry.fields]),
      equal_self]
  have hldg : (entry.loaded.get "ledger_revision").equal
      (.int ((tallyOf entries).entries.length + 1)) := by
    rw [Entry.equal_field (v := .int entry.ledgerRevision) (by simp [Entry.fields]),
      h.ledgerRevision, tallyOf, length_map, Nat.cast_add, Nat.cast_one, equal_self]
  have hrev : (entry.loaded.get "queue_revision").equal
      (.int ((tallyOf entries).queueRevisions entry.queueId + 1 : ℕ)) := by
    rw [Entry.equal_field (v := .int entry.queueRevision) (by simp [Entry.fields]),
      h.queueRevision, tallyOf, equal_self]
  have hprev : (entry.loaded.get "previous_entry_digest").equal
      (tallyOf entries).priorDigest := by
    rw [Entry.equal_field (v := entry.previous) (by simp [Entry.fields]), h.previous, tallyOf,
      equal_self]
  have hdig : (entry.loaded.get "entry_digest").equal
      (.str (digest (entry.loaded.1.erase "entry_digest"))) := by
    rw [entry.get_entryDigest, digest_loaded, equal_self]
  have htr : validTransition (.str ((tallyOf entries).queueStates entry.queueId))
      (entry.loaded.get "event") (entry.loaded.get "state") := by
    rw [entry.get_event, entry.get_state, tallyOf, validTransition_name, h.transition]
  have hread : loadsLine (canonicalBytes entry.value.1) = .ok entry.loaded :=
    loadsLine_canonicalBytes _
  have hline : (canonicalBytes entry.value.1 == canonicalBytes entry.loaded.1) := by
    rw [Entry.loaded, canonicalBytes_normal, beq_self_eq_true]
  simp only [loadLine, hread, ok_bind, isObject_loaded, hline, Bool.and_self,
    require_true, hqueue, hsch, hldg, hrev, hprev, hdig, htr]
  rw [entry.get_entryDigest, entry.get_state, ← lastDigest_concat entries entry]
  have hrevisions : Function.update (tallyOf entries).queueRevisions entry.queueId
      ((tallyOf entries).queueRevisions entry.queueId + 1) =
        (tallyOf (entries ++ [entry])).queueRevisions := by
    funext queueId
    simp only [tallyOf]
    rw [Function.update_apply, history_concat]
    by_cases hq : queueId = entry.queueId
    · simp [hq]
    · simp [hq, Ne.symm hq]
  have hstates : Function.update (tallyOf entries).queueStates entry.queueId
      (text (.str entry.change.event.name)) = (tallyOf (entries ++ [entry])).queueStates := by
    funext queueId
    simp only [tallyOf]
    rw [Function.update_apply, lastEvent_concat]
    by_cases hq : queueId = entry.queueId
    · simp [hq, stateName, text, Value.str]
    · simp [hq, Ne.symm hq]
  rw [hrevisions, hstates]
  simp only [tallyOf, map_append, map_singleton]

theorem foldlM_chain {entries : List Entry} (h : Chain entries) :
    (entries.map fun entry => canonicalBytes entry.value.1).foldlM loadLine {} =
      .ok (tallyOf entries) := by
  induction h with
  | nil => rfl
  | concat _ hlast ih =>
    rw [map_append, foldlM_append, ih, ok_bind, map_singleton,
      foldlM_cons, loadLine_extends hlast, ok_bind]
    rfl

/-- **A ledger that was built entry by entry is accepted by the loader.** -/
theorem load_written {file : Option Bytes} {entries : List Entry} (hfile : Written file entries)
    (hch : Chain entries) :
    loadQueueLifecycleUnlocked file = .ok (entries.map Entry.loaded) := by
  rcases hfile with ⟨rfl, rfl⟩ | rfl
  · rfl
  have hls : ∀ line ∈ entries.map fun entry => canonicalBytes entry.value.1,
      Bytes.IsLine line := by
    intro line hline
    obtain ⟨entry, -, rfl⟩ := mem_map.mp hline
    exact Kernel.isLine_canonicalBytes _
  have hbytes : lifecycleBytes (entries.map Entry.value) =
      (entries.map fun entry => canonicalBytes entry.value.1).flatten := by
    rw [lifecycleBytes, map_map]
    rfl
  have hform : ((lifecycleBytes (entries.map Entry.value)).isEmpty ||
      ((lifecycleBytes (entries.map Entry.value)).getLast? == some 10 &&
        !(lifecycleBytes (entries.map Entry.value)).contains 13)) := by
    obtain ⟨hret, hlast⟩ := Bytes.flatten_lines hls
    rw [hbytes]
    generalize (entries.map fun entry => canonicalBytes entry.value.1).flatten = payload at *
    by_cases hemp : payload = []
    · simp [hemp]
    · simp [hlast hemp, hret]
  rw [loadQueueLifecycleUnlocked, hform, require_true, ok_bind, hbytes,
    Bytes.splitLines_lines hls, foldlM_chain hch, ok_bind, tallyOf]

/-! ### The locked section -/

theorem filter_loaded (p : Value → Bool) (q : Entry → Bool) (entries : List Entry)
    (h : ∀ entry ∈ entries, p entry.loaded = q entry) :
    (entries.map Entry.loaded).filter p = (entries.filter q).map Entry.loaded := by
  rw [filter_map]
  exact congrArg _ (filter_congr h)

theorem filter_queueId (queueId : String) (entries : List Entry) :
    ((entries.map Entry.loaded).filter fun entry =>
      (entry.get "queue_id").equal (.str queueId)) = (history queueId entries).map Entry.loaded :=
  filter_loaded _ (fun entry => entry.queueId = queueId) entries fun entry _ => by
    rw [entry.get_queueId, equal_str_str]

theorem filter_key (key : String) (entries : List Entry) :
    ((entries.map Entry.loaded).filter fun entry =>
      (entry.get "idempotency_key").equal (.str key)) =
        (entries.filter fun entry => entry.change.key = key).map Entry.loaded :=
  filter_loaded _ (fun entry => entry.change.key = key) entries fun entry _ => by
    rw [entry.get_key, equal_str_str]

theorem currentState_history (queueId : String) (entries : List Entry) :
    currentState ((history queueId entries).map Entry.loaded) =
      .str (stateName (lastEvent queueId entries)) := by
  rw [currentState, getLast?_map, lastEvent]
  cases (history queueId entries).getLast? with
  | none => rfl
  | some entry =>
    simp only [Option.map_some]
    rw [entry.get_state, stateName]

theorem Chain.nodup_keys {entries : List Entry} (h : Chain entries) (queueId : String) :
    ((history queueId entries).map fun entry => entry.change.key).Nodup := by
  induction h with
  | nil => exact nodup_nil
  | @concat entries entry _ hlast ih =>
    rw [history_concat]
    by_cases hq : entry.queueId = queueId
    · rw [if_pos hq, map_append, map_singleton, nodup_append]
      refine ⟨ih, nodup_singleton _, ?_⟩
      intro key hkey key' hkey'
      obtain ⟨earlier, hearl, rfl⟩ := mem_map.mp hkey
      rw [mem_singleton.mp hkey']
      exact hlast.fresh earlier (hq ▸ hearl)
    · rwa [if_neg hq]

section Commit

variable {file : Option Bytes} {entries : List Entry} {change : Change}

theorem filter_key_of_mem (hch : Chain entries) {entry : Entry}
    (hent : entry ∈ history change.identity.queueId entries)
    (hkey : entry.change.key = change.key) :
    ((history change.identity.queueId entries).filter fun e => e.change.key = change.key) =
      [entry] := by
  have hnd := hch.nodup_keys change.identity.queueId
  generalize history change.identity.queueId entries = items at *
  induction items with
  | nil => cases hent
  | cons e items ih =>
    rw [map_cons, nodup_cons] at hnd
    rcases mem_cons.mp hent with rfl | hmem
    · rw [filter_cons_of_pos (by simpa using hkey), filter_eq_nil_iff.mpr]
      intro e he hsame
      exact hnd.1 (mem_map.mpr ⟨e, he, (of_decide_eq_true hsame).trans hkey.symm⟩)
    · have hne : e.change.key ≠ change.key := fun hsame =>
        hnd.1 (mem_map.mpr ⟨entry, hmem, hkey.trans hsame.symm⟩)
      rw [filter_cons_of_neg (by simpa using hne), ih hmem hnd.2]

/-- **A change that is in the ledger is returned, and nothing is written.** -/
theorem commit_again (hfile : Written file entries) (hch : Chain entries) {entry : Entry}
    (hent : entry ∈ history change.identity.queueId entries)
    (hkey : entry.change.key = change.key) :
    commit file change = (.ok entry.loaded, file) := by
  simp only [commit, load_written hfile hch, filter_queueId, filter_key,
    filter_key_of_mem hch hent hkey, map_singleton]

theorem lifecycleBytes_loaded (entries : List Entry) (entry : Entry) :
    lifecycleBytes (entries.map Entry.loaded ++ [entry.value]) =
      lifecycleBytes ((entries ++ [entry]).map Entry.value) := by
  have hbytes : ∀ e : Entry, canonicalBytes e.loaded.1 = canonicalBytes e.value.1 :=
    fun e => canonicalBytes_normal e.value
  simp only [lifecycleBytes, map_append, map_map, map_singleton, Function.comp_def, hbytes]

theorem previous_loaded (entries : List Entry) :
    (match (entries.map Entry.loaded).getLast? with
      | some last => last.get "entry_digest"
      | none => .null) = lastDigest entries := by
  rw [lastDigest, getLast?_map]
  cases entries.getLast? with
  | none => rfl
  | some last => exact last.get_entryDigest

theorem commit_fresh (hfile : Written file entries) (hch : Chain entries)
    (hfr : ∀ e ∈ history change.identity.queueId entries, e.change.key ≠ change.key) :
    commit file change =
      if ((history change.identity.queueId entries).map Entry.loaded).any (fun entry =>
          (entry.get "event").equal (.str change.event.name) &&
            (entry.get "expected_revision").equal (.int change.expectedRevision)) then
        (.error "Queue lifecycle exact retry conflicts", file)
      else if change.expectedRevision ≠ (history change.identity.queueId entries).length ∨
          !allowed (lastEvent change.identity.queueId entries) change.event then
        (.error "Queue lifecycle CAS or transition conflict", file)
      else
        let entry : Entry := ⟨change, entries.length + 1,
          (history change.identity.queueId entries).length + 1, lastDigest entries⟩
        (.ok entry.value, some (lifecycleBytes ((entries ++ [entry]).map Entry.value))) := by
  have hnone : ((history change.identity.queueId entries).filter fun e =>
      e.change.key = change.key) = [] :=
    filter_eq_nil_iff.mpr fun e he => by simpa using hfr e he
  simp only [commit, load_written hfile hch, filter_queueId, filter_key, hnone, map_nil,
    currentState_history, validTransition_name, length_map, lifecycleBytes_loaded,
    previous_loaded]

/-- **What a locked section does**: it returns the entry with the key of the change, or it
refuses the change, or it writes one more entry. -/
theorem commit_cases (hfile : Written file entries) (hch : Chain entries) (change : Change) :
    (∃ entry ∈ history change.identity.queueId entries, entry.change.key = change.key ∧
      commit file change = (.ok entry.loaded, file)) ∨
    (∃ message, commit file change = (.error message, file)) ∨
    (∃ entry, entry.change = change ∧ Extends entries entry ∧ commit file change =
      (.ok entry.value, some (lifecycleBytes ((entries ++ [entry]).map Entry.value)))) := by
  by_cases hkn : ∃ entry ∈ history change.identity.queueId entries, entry.change.key = change.key
  · obtain ⟨entry, hent, hkey⟩ := hkn
    exact .inl ⟨entry, hent, hkey, commit_again hfile hch hent hkey⟩
  have hfr : ∀ e ∈ history change.identity.queueId entries, e.change.key ≠ change.key :=
    fun e he hkey => hkn ⟨e, he, hkey⟩
  refine .inr ?_
  rw [commit_fresh hfile hch hfr]
  split
  · exact .inl ⟨_, rfl⟩
  split
  · exact .inl ⟨_, rfl⟩
  rename_i hcas
  obtain ⟨hexp, hallow⟩ := not_or.mp hcas
  have htr : allowed (lastEvent change.identity.queueId entries) change.event =
      true := by simpa using hallow
  let entry : Entry := ⟨change, entries.length + 1,
    (history change.identity.queueId entries).length + 1, lastDigest entries⟩
  exact .inr ⟨entry, rfl, ⟨rfl, rfl, not_not.mp hexp, rfl, htr, hfr⟩, rfl⟩

end Commit

/-! ### Lifecycles -/

/-- What can happen to an item. -/
def lifecycles : List (List LifecycleEvent) :=
  [[], [.claimed], [.cancelled], [.claimed, .cancellationRequested], [.claimed, .completed],
    [.claimed, .blocked], [.claimed, .cancellationRequested, .cancelled]]

theorem lifecycles_allowed {events : List LifecycleEvent} (h : events ∈ lifecycles)
    {event : LifecycleEvent} (hallow : allowed events.getLast? event) :
    events ++ [event] ∈ lifecycles := by
  have hall : ∀ events ∈ lifecycles, ∀ event ∈ [LifecycleEvent.claimed, .cancellationRequested,
      .cancelled, .completed, .blocked], allowed events.getLast? event →
        events ++ [event] ∈ lifecycles := by decide
  exact hall events h event (by cases event <;> simp) hallow

/-- **The events of an item are one of the lifecycles.** -/
theorem Chain.events {entries : List Entry} (h : Chain entries) (queueId : String) :
    ((history queueId entries).map fun entry => entry.change.event) ∈ lifecycles := by
  induction h with
  | nil => exact mem_cons_self
  | @concat entries entry _ hlast ih =>
    rw [history_concat]
    by_cases hq : entry.queueId = queueId
    · subst hq
      rw [if_pos rfl, map_append, map_singleton]
      have htr := hlast.transition
      rw [lastEvent, ← getLast?_map] at htr
      exact lifecycles_allowed ih htr
    · rwa [if_neg hq]

theorem Chain.revision {entries : List Entry} (h : Chain entries) {queueId : String}
    {before after : List Entry} {entry : Entry}
    (hsp : history queueId entries = before ++ entry :: after) :
    entry.change.expectedRevision = before.length ∧ entry.queueRevision = before.length + 1 := by
  induction h generalizing after with
  | nil => cases before <;> cases hsp
  | @concat entries last _ hlast ih =>
    rw [history_concat] at hsp
    by_cases hq : last.queueId = queueId
    · rw [if_pos hq] at hsp
      rcases eq_nil_or_concat' after with rfl | ⟨init, final, rfl⟩
      · -- the entry is the last one
        obtain ⟨hbef, hent⟩ := append_inj' hsp rfl
        obtain rfl : last = entry := singleton_inj.mp hent
        rw [← hbef, ← hq]
        exact ⟨hlast.expected, hlast.queueRevision⟩
      · rw [← cons_append, ← append_assoc] at hsp
        exact ih (append_inj' hsp rfl).1
    · rw [if_neg hq] at hsp
      exact ih hsp

theorem commit_extends {file : Option Bytes} {entries : List Entry} {entry : Entry}
    (hfile : Written file entries) (hch : Chain entries) (h : Extends entries entry) :
    commit file entry.change =
      (.ok entry.value, some (lifecycleBytes ((entries ++ [entry]).map Entry.value))) := by
  have hlogical : (((history entry.change.identity.queueId entries).map Entry.loaded).any
      fun e => (e.get "event").equal (.str entry.change.event.name) &&
        (e.get "expected_revision").equal (.int entry.change.expectedRevision)) = false := by
    rw [any_eq_false]
    intro value hvalue
    obtain ⟨e, he, rfl⟩ := mem_map.mp hvalue
    obtain ⟨before, after, hsp⟩ := append_of_mem he
    -- an earlier entry of the item expects an earlier revision
    have hexp : entry.change.expectedRevision =
        (history entry.change.identity.queueId entries).length := h.expected
    have hearl : e.change.expectedRevision ≠ entry.change.expectedRevision := by
      rw [(hch.revision hsp).1, hexp, hsp, length_append, length_cons]
      omega
    rw [e.equal_expected, decide_eq_false hearl, Bool.and_false]
    exact Bool.false_ne_true
  have hcas : ¬ (entry.change.expectedRevision ≠
        (history entry.change.identity.queueId entries).length ∨
      (!allowed (lastEvent entry.change.identity.queueId entries) entry.change.event)) := by
    have htr : allowed (lastEvent entry.change.identity.queueId entries)
        entry.change.event := h.transition
    rw [htr, not_or]
    exact ⟨not_not.mpr h.expected, Bool.false_ne_true⟩
  have hent : entry = ⟨entry.change, entries.length + 1,
      (history entry.change.identity.queueId entries).length + 1, lastDigest entries⟩ := by
    obtain ⟨change, ledgerRevision, queueRevision, previous⟩ := entry
    exact (Entry.mk.injEq ..).mpr ⟨rfl, h.ledgerRevision, h.queueRevision, h.previous⟩
  rw [commit_fresh hfile hch h.fresh, if_neg (by rw [hlogical]; exact Bool.false_ne_true),
    if_neg hcas]
  simp only [← hent]

end Valp.Queue
