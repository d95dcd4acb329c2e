/-
Transitions of an installation (`valp_cli/control_plane.py`).

`_transition_unlocked` runs under the lock of the control root.  It finishes a transition that
was interrupted, answers a repeated idempotency key with the recorded result, checks revision,
epoch and target, and then writes a journal with everything it is about to change: the message,
the event, the next state and the installation document.  `_commit_transition_journal_unlocked`
checks the journal against the files and carries it out, one durable write after the other; a
journal that is found later is carried out in the same way.

JSON documents are given as their values and ledgers as their texts.  The clock, the new names
and the texts of lists and dictionaries are part of a call (`World`).
-/
import Valp.ControlContract
import Valp.KernelRuntime

namespace Valp.Control

open Json (Value)
open Dispatch (listOf strOf strOrEmpty)
open Durable
open Kernel (DocumentFile)
open Queue (exactInt)

/-! ### Documents -/

/-- `v[k]`. -/
def item (v : Value) (k : String) : Except Fault Value :=
  if v.has k then .ok (v.get k) else .error (.python "KeyError")

/-- `digest_value`; a proof never computes one. -/
@[irreducible] def digestValue (v : Value) : String := Kernel.digest v.1

def digestWithout (v : Value) (field : String) : String := digestValue (v.without field)

def stateDigest (state : Value) : String := digestWithout state "projection_digest"

/-- A record with its own digest as the last field. -/
def sealed (fields : List (String × Value)) (field : String)
    (h : (fields.map Prod.fst ++ [field]).Nodup) : Value :=
  .dict (fields ++ [(field, .str (digestValue (.dict fields (List.nodup_append.mp h).1)))])
    (by rw [List.map_append]; exact h)

/-- `read_json`; the text of the decoder's error is left out. -/
def readJson (name : String) : DocumentFile Value → Except Fault Value
  | .document v =>
    if v.isObject then .ok v
    else .error (refusal "VALP-E-MESSAGE-SCHEMA" ("Expected an object in " ++ name))
  | .missing | .malformed => .error (inconsistent ("Cannot read " ++ name ++ ": "))

def readJsonl (name : String) (file : Option (List Char)) : Except Fault (List Value) :=
  (Ledgers.readJsonl Json.codec name file).mapError (refusal "VALP-E-MESSAGE-SCHEMA")

/-- `path.exists()` of a document. -/
def present : DocumentFile Value → Bool
  | .missing => false
  | .malformed | .document _ => true

def emptyState (installationId : Value) (now : String) : Value :=
  .dict [
    ("schema_version", .str "valp-executable-state.v1"),
    ("installation_id", installationId),
    ("revision", .int 0),
    ("status", .str "uninitialized"),
    ("selected_leader", .null),
    ("active_leader", .null),
    ("active_leader_epoch", .int 0),
    ("registry_revision", .int 0),
    ("active_blockers", listOf []),
    ("last_event_id", .null),
    ("last_event_digest", .null),
    ("updated_at", .str now),
    ("projection_digest", .str "")] (by simp)

def authorityView (state : Value) : Value :=
  let active := state.get "active_leader"
  if !active.isObject || !active.has "session_id" then state
  else state.set "active_leader" (active.without "session_id")

/-! ### The control root -/

/-- The files of a control root that a transition reads or writes. -/
structure Root where
  installation : DocumentFile Value
  state : DocumentFile Value
  journal : DocumentFile Value
  messages : Option (List Char)
  events : Option (List Char)
  failures : Option (List Char)

/-- What a write makes durable. -/
inductive Write where
  | failure (record : Value)
  | journal (journal : Value)
  | message (message : Value)
  | event (event : Value)
  | state (state : Value)
  | installation (installation : Value)
  | settled

def Root.apply : Write → Root → Root
  | .failure record, root =>
    { root with failures := Ledgers.appendJsonl Json.codec root.failures record }
  | .journal journal, root => { root with journal := .document journal }
  | .message message, root =>
    { root with messages := Ledgers.appendJsonl Json.codec root.messages message }
  | .event event, root =>
    { root with events := Ledgers.appendJsonl Json.codec root.events event }
  | .state state, root => { root with state := .document state }
  | .installation installation, root => { root with installation := .document installation }
  | .settled, root => { root with journal := .missing }

/-- A call over the files of a control root. -/
abbrev Op (α : Type) : Type := Durable Write Root Fault α

def perform (w : Write) : Op Unit := Durable.write w (Root.apply w)

namespace Root

def requireInitialized (root : Root) : Except Fault Unit :=
  require (present root.installation && present root.state) "Installation is not initialized"

/-- `_installation`. -/
def readInstallation (root : Root) : Except Fault Value := do
  root.requireInitialized
  readJson "installation.json" root.installation

/-- `InstallationCore.state`. -/
def readState (root : Root) : Except Fault Value := do
  root.requireInitialized
  let state ← readJson "state.json" root.state
  if (state.get "projection_digest").equal (.str (stateDigest state)) then
    .ok (authorityView state)
  else .error (.control "VALP-E-REGISTRY-CONSISTENCY" "State projection digest mismatch" "blocked")

def readMessages (root : Root) : Except Fault (List Value) :=
  readJsonl "messages.jsonl" root.messages

def readEvents (root : Root) : Except Fault (List Value) := readJsonl "events.jsonl" root.events

def findMessage (key : String) (root : Root) : Except Fault (Option Value) := do
  let messages ← root.readMessages
  .ok (messages.find? fun message => (message.get "idempotency_key").equal (.str key))

end Root

/-! ### Carrying out a journal -/

/-- The digest of what a message asks for. -/
def contentDigest (kind principalId epoch expectedRevision payload : Value) : String :=
  digestValue (.dict [
    ("kind", kind),
    ("principal_id", principalId),
    ("epoch", epoch),
    ("expected_revision", expectedRevision),
    ("payload", payload)] (by simp))

structure Journal where
  message : Value
  event : Value
  nextState : Value
  installation : Value

/-- The records of a journal that is what its digest says. -/
def openJournal (journal : Value) : Except Fault Journal := do
  require ((journal.get "schema_version").equal (.str "valp-transition-journal.v1") &&
      (journal.get "journal_digest").equal (.str (digestWithout journal "journal_digest")))
    "Transition journal digest mismatch"
  let records : Journal := {
    message := journal.get "message"
    event := journal.get "event"
    nextState := journal.get "next_state"
    installation := journal.get "installation" }
  require (records.message.isObject && records.event.isObject && records.nextState.isObject &&
      records.installation.isObject)
    "Transition journal payload is malformed"
  .ok records

/-- `expected_embedded_projection`. -/
def Journal.projection (j : Journal) : Value :=
  let projection := j.nextState.set "last_event_digest" (j.event.get "prior_event_digest")
  projection.set "projection_digest" (.str (stateDigest projection))

/-- `event_payload == expected_event_payload`. -/
def Journal.embeds (j : Journal) : Bool :=
  let payload := j.message.get "payload"
  if payload.isObject then
    (j.event.get "payload").equal (payload.set "state_projection" j.projection)
  else (j.event.get "payload").isNone

/-- `new_revision == prior_revision + 1`, of integers that are not truth values. -/
def succeeds (prior new : Value) : Bool :=
  match exactInt prior, exactInt new with
  | some n, some m => m == n + 1
  | _, _ => false

/-- The records of the journal fit each other. -/
def Journal.consistent (j : Journal) : Bool :=
  let result := j.message.get "result"
  (j.message.get "message_digest").equal (.str (digestWithout j.message "message_digest")) &&
  (j.message.get "content_digest").equal (.str (contentDigest (j.message.get "kind")
    (j.message.get "sender_principal_id") (j.message.get "leader_epoch")
    (j.message.get "expected_state_revision") (j.message.get "payload"))) &&
  (j.event.get "event_digest").equal (.str (digestWithout j.event "event_digest")) &&
  (j.nextState.get "projection_digest").equal (.str (stateDigest j.nextState)) &&
  (j.message.get "event_id").equal (j.event.get "event_id") &&
  (j.event.get "accepted_message_id").equal (j.message.get "message_id") &&
  (j.event.get "new_revision").equal (j.nextState.get "revision") &&
  (j.message.get "sender_principal_id").equal (j.event.get "actor_principal_id") &&
  (j.message.get "leader_epoch").equal (j.event.get "leader_epoch") &&
  result.isObject &&
  (result.get "message_id").equal (j.message.get "message_id") &&
  (result.get "event_id").equal (j.event.get "event_id") &&
  (j.message.get "result_revision").equal (j.nextState.get "revision") &&
  (result.get "revision").equal (j.nextState.get "revision") &&
  (result.get "status").equal (j.nextState.get "status") &&
  succeeds (j.event.get "prior_revision") (j.event.get "new_revision") &&
  (j.message.get "expected_state_revision").equal (j.event.get "prior_revision") &&
  (j.message.get "installation_id").equal (j.event.get "installation_id") &&
  (j.nextState.get "installation_id").equal (j.event.get "installation_id") &&
  (j.installation.get "installation_id").equal (j.event.get "installation_id") &&
  (j.installation.get "installation_status").equal (j.nextState.get "status") &&
  (j.installation.get "active_leader_epoch").equal (j.nextState.get "active_leader_epoch") &&
  (j.event.get "occurred_at").equal (j.nextState.get "updated_at") &&
  j.embeds

/-- `[item for item in records if item.get(field) == record[field]]`. -/
def matchingRecords (field : String) (record : Value) (records : List Value) :
    Except Fault (List Value) :=
  if records.isEmpty then .ok []
  else do
    let id ← item record field
    .ok (records.filter fun other => (other.get field).equal id)

/-- `records == [record]`. -/
def isOnly (record : Value) : List Value → Bool
  | [other] => other.equal record
  | _ => false

/-- Whether the record is in its ledger already, and that it is the last one there if so. -/
def recorded (noun field : String) (record : Value) (records : List Value) : Except Fault Bool := do
  let found ← matchingRecords field record records
  require (found.isEmpty || isOnly record found)
    ("Transition " ++ noun ++ " conflicts with journal")
  require (found.isEmpty || records.getLast?.any fun last => last.equal record)
    ("Transition journal " ++ noun ++ " is not the ledger tail")
  .ok !found.isEmpty

def sequenceIn (isRecorded : Bool) (records : List Value) : Int :=
  if isRecorded then records.length else records.length + 1

def priorDigestIn (isRecorded : Bool) (events : List Value) : Value :=
  let before := if isRecorded then events.dropLast else events
  (before.getLast?.map fun event => event.get "event_digest").getD .null

/-- The state before the transition: the persisted one, or, once the next one is persisted, the
one that the event before this one leads to. -/
def priorState (text : Json → String) (now : String) (j : Journal) (isRecorded : Bool)
    (events : List Value) (persisted : Value) : Except Fault Value :=
  if (persisted.get "revision").equal (j.event.get "prior_revision") then .ok persisted
  else if persisted.equal j.nextState && isRecorded then
    match events.dropLast.getLast? with
    | some priorEvent =>
      let projection := (priorEvent.get "payload").get "state_projection"
      if projection.isObject then
        let prior := projection.set "last_event_digest" (priorEvent.get "event_digest")
        .ok (prior.set "projection_digest" (.str (stateDigest prior)))
      else .error (inconsistent "Prior transition projection is missing")
    | none => .ok (emptyState (.str (strOrEmpty text (j.event.get "installation_id"))) now)
  else .error (inconsistent "Transition state conflicts with journal")

/-- `append_jsonl_atomic`. -/
def appendAtomic (name : String) (file : Root → Option (List Char)) (record : Value) (w : Write) :
    Op Unit := do
  let _ ← observe fun root =>
    (Ledgers.appendJsonlAtomic Json.codec name (file root) record).mapError inconsistent
  perform w

/-- What the checks of a journal find: its records, whether the message and the event are in
their ledgers already, and the persisted state. -/
structure Checked where
  records : Journal
  messageRecorded : Bool
  eventRecorded : Bool
  persisted : Value

/-- The first half of `_commit_transition_journal_unlocked`: the journal against the files. -/
def checkJournal (text : Json → String) (now : String) (journal : Value) (root : Root) :
    Except Fault Checked := do
  let j ← openJournal journal
  require j.consistent "Transition journal records are inconsistent"
  let messages ← root.readMessages
  let messageRecorded ← recorded "message" "message_id" j.message messages
  require ((j.message.get "installation_sequence").equal
      (.int (sequenceIn messageRecorded messages)))
    "Transition message sequence conflicts with ledger"
  let events ← root.readEvents
  let eventRecorded ← recorded "event" "event_id" j.event events
  require ((j.event.get "installation_sequence").equal
        (.int (sequenceIn eventRecorded events)) &&
      (j.event.get "prior_event_digest").equal (priorDigestIn eventRecorded events))
    "Transition event chain conflicts with ledger"
  let persisted ← readJson "state.json" root.state
  let prior ← priorState text now j eventRecorded events persisted
  validateTransitionContract false j.message j.event j.projection prior
  .ok ⟨j, messageRecorded, eventRecorded, persisted⟩

/-- The second half: one durable write after the other, without those that are done. -/
def carryOut (checked : Checked) : Op Unit := do
  let j := checked.records
  onlyIf (!checked.messageRecorded)
    (appendAtomic "messages.jsonl" Root.messages j.message (.message j.message))
  onlyIf (!checked.eventRecorded)
    (appendAtomic "events.jsonl" Root.events j.event (.event j.event))
  onlyIf (!checked.persisted.equal j.nextState) (perform (.state j.nextState))
  let installation ← observe Root.readInstallation
  onlyIf (!installation.equal j.installation) do
    lift (require
      ((installation.get "installation_id").equal (j.installation.get "installation_id"))
      "Transition installation conflicts with journal")
    perform (.installation j.installation)
  perform .settled

/-- `_commit_transition_journal_unlocked`. -/
def commitTransitionJournal (text : Json → String) (now : String) (journal : Value) : Op Unit := do
  carryOut (← observe (checkJournal text now journal))

/-- `_recover_transition_unlocked`. -/
def recoverTransition (text : Json → String) (now : String) : Op Unit := fun root =>
  if present root.journal then
    (do
      let journal ← lift (readJson "transition-journal.json" root.journal)
      commitTransitionJournal text now journal : Op Unit) root
  else (.ok (), [])

/-! ### Asking for a transition -/

/-- The arguments of `_transition`. -/
structure Arguments where
  eventKind : String
  messageKind : String
  principalId : String
  principalKind : String
  epoch : Value
  expectedRevision : Value
  payload : Value
  payload_object : payload.isObject = true
  targetStatus : String
  idempotencyKey : String
  taskId : Option String

/-- What a call finds outside the control root: the clock, new names, and `str` of a list or of
a dictionary. -/
structure World where
  text : Json → String
  messageId : String
  eventId : String
  updatedAt : String
  sentAt : String
  recoveredAt : String
  failureId : String
  failedAt : String

def bootstrapCoreKinds : List String :=
  ["query.bootstrap.hello", "query.bootstrap.candidates", "command.bootstrap.discover_candidates",
    "result.bootstrap.discovery", "command.installation.init", "command.leader.select",
    "command.leader.start", "command.leader.recover_start", "event.leader.activated",
    "result.leader.activation_failed"]

def validateEpoch (state : Value) (kind : String) (epoch : Value) : Except Fault Unit := do
  if (exactInt epoch).isNone then
    .error (refusal "VALP-E-LEADER-EPOCH" "Leader epoch must be an integer")
  let active ← item state "active_leader_epoch"
  if active.equal (.int 0) then
    if epoch.equal (.int 0) && bootstrapCoreKinds.contains kind then .ok ()
    else .error (refusal "VALP-E-LEADER-EPOCH" "Only bootstrap read-only messages may use epoch 0")
  else if epoch.equal active then .ok ()
  else .error (refusal "VALP-E-LEADER-EPOCH" "Message uses a fenced leader epoch")

/-- `LEGAL_TRANSITIONS.get(status, set())`, which raises for what cannot be hashed. -/
def legalTargets (status : Value) : Except Fault (List Status) :=
  match status.1 with
  | .arr _ | .obj _ => .error (.python "TypeError")
  | _ => .ok (legalFrom status)

/-- The target of a transition, if it may be reached from the state. -/
def targetOf (text : Json → String) (state : Value) (targetStatus : String) :
    Except Fault Status := do
  let status ← item state "status"
  let illegal := refusal "VALP-E-STATE-TRANSITION" ("Illegal installation transition " ++
    strOf text status.1 ++ " -> " ++ targetStatus)
  match Status.ofName? targetStatus with
  | none => .error illegal
  | some target =>
    let legal ← legalTargets status
    if legal.contains target then .ok target else .error illegal

/-- The checks before the journal is written. -/
def checkTransition (text : Json → String) (state : Value) (args : Arguments) :
    Except Fault Status := do
  let revision ← item state "revision"
  if !args.expectedRevision.equal revision then
    .error (refusal "VALP-E-STATE-CONFLICT" ("Expected revision " ++
      strOf text args.expectedRevision.1 ++ ", current is " ++ strOf text revision.1))
  validateEpoch state args.messageKind args.epoch
  targetOf text state args.targetStatus

/-- A field that the payload sets in the state. -/
def copyField (payload state : Value) (field : String) : Value :=
  if payload.has field then state.set field (payload.get field) else state

/-- The state with its new revision, status, time and event. -/
def movedState (state : Value) (args : Arguments) (world : World) (revision : Value) : Value :=
  ((((state.set "revision" revision).set "status" (.str args.targetStatus)).set
    "updated_at" (.str world.updatedAt)).set "last_event_id" (.str world.eventId)).set
    "active_leader_epoch" (state.get "active_leader_epoch")

/-- The blockers are listed, cleared or left as they are. -/
def withBlockers (args : Arguments) (target : Status) (state : Value) : Except Fault Value :=
  if target = .blocked then
    (blockersOf args.eventKind args.payload).map (state.set "active_blockers")
  else if clearsBlockers target then .ok (state.set "active_blockers" (listOf []))
  else .ok state

/-- `next_state` as the event embeds it. -/
def nextState (state : Value) (args : Arguments) (target : Status) (world : World) :
    Except Fault Value := do
  let revision ← nextRevision state
  let next ← withBlockers args target
    (protectedFields.foldl (copyField args.payload) (movedState state args world revision))
  .ok (next.set "projection_digest" (.str (stateDigest next)))

def Arguments.contentDigest (args : Arguments) : String :=
  Control.contentDigest (.str args.messageKind) (.str args.principalId) args.epoch
    args.expectedRevision args.payload

def resultOf (args : Arguments) (world : World) (next : Value) : Value :=
  .dict [
    ("message_id", .str world.messageId),
    ("event_id", .str world.eventId),
    ("revision", next.get "revision"),
    ("status", .str args.targetStatus)] (by simp)

section

variable (state : Value) (args : Arguments) (world : World) (next : Value) (sequence : Int)

def messageFields : List (String × Value) :=
  [("schema_version", .str "valp-message.v1"),
    ("message_id", .str world.messageId),
    ("idempotency_key", .str args.idempotencyKey),
    ("installation_id", state.get "installation_id"),
    ("sender_principal_id", .str args.principalId),
    ("sender_kind", .str args.principalKind),
    ("leader_epoch", args.epoch),
    ("expected_state_revision", args.expectedRevision),
    ("kind", .str args.messageKind),
    ("payload_schema", .str "valp-control-payload.v1"),
    ("payload", args.payload),
    ("content_digest", .str args.contentDigest),
    ("sent_at", .str world.sentAt),
    ("accepted", .bool true),
    ("installation_sequence", .int sequence),
    ("event_id", .str world.eventId),
    ("result", resultOf args world next),
    ("result_revision", next.get "revision")]

def messageOf : Value :=
  sealed (messageFields state args world next sequence) "message_digest"
    (by simp [messageFields])

def eventFields : List (String × Value) :=
  [("schema_version", .str "valp-event.v1"),
    ("event_id", .str world.eventId),
    ("installation_sequence", .int sequence),
    ("installation_id", state.get "installation_id"),
    ("leader_epoch", args.epoch),
    ("task_id", args.taskId.elim .null .str),
    ("event_kind", .str args.eventKind),
    ("accepted_message_id", .str world.messageId),
    ("prior_revision", state.get "revision"),
    ("new_revision", next.get "revision"),
    ("occurred_at", next.get "updated_at"),
    ("actor_principal_id", .str args.principalId),
    ("payload_schema", .str "valp-control-payload.v1"),
    ("payload", args.payload.set "state_projection" next),
    ("prior_event_digest", state.get "last_event_digest")]

def eventOf : Value :=
  sealed (eventFields state args world next sequence) "event_digest" (by simp [eventFields])

end

/-- `next_state` as it is persisted, with the digest of its own event. -/
def persistedState (next event : Value) : Value :=
  let linked := next.set "last_event_digest" (event.get "event_digest")
  linked.set "projection_digest" (.str (stateDigest linked))

def installationAt (installation next : Value) : Value :=
  (installation.set "installation_status" (next.get "status")).set "active_leader_epoch"
    (next.get "active_leader_epoch")

def journalFields (j : Journal) : List (String × Value) :=
  [("schema_version", .str "valp-transition-journal.v1"),
    ("message", j.message),
    ("event", j.event),
    ("next_state", j.nextState),
    ("installation", j.installation)]

def journalOf (j : Journal) : Value :=
  sealed (journalFields j) "journal_digest" (by simp [journalFields])

/-- The record of `_failure`. -/
def failureRecord (installationId state : Value) (code message stateEffect : String)
    (messageId : Value) (world : World) : Value :=
  let conflict := code == "VALP-E-STATE-CONFLICT"
  sealed [
    ("schema_version", .str "valp-failure.v1"),
    ("failure_id", .str world.failureId),
    ("error_code", .str code),
    ("error_schema_version", .str "valp-failure.v1"),
    ("installation_id", installationId),
    ("phase", .str "control_plane"),
    ("accepted_or_rejected_message_id", messageId),
    ("state_revision", if state.has "revision" then state.get "revision" else .int 0),
    ("leader_epoch",
      if state.has "active_leader_epoch" then state.get "active_leader_epoch" else .int 0),
    ("retriable", .bool conflict),
    ("retry_class", .str (if conflict then "state_conflict" else "none")),
    ("safe_summary", .str message),
    ("diagnostic_ref", .null),
    ("affected_refs", listOf []),
    ("deterministic_state_effect", .str stateEffect),
    ("created_at", .str world.failedAt)] "failure_digest" (by simp)

/-- `self._failure(error); raise error`, for a `ControlPlaneError`. -/
def refuseWith {α : Type} (world : World) (messageId : Value) (fault : Fault) : Op α :=
  match fault with
  | .python _ => fail fault
  | .control code message stateEffect => do
    let installation ← observe Root.readInstallation
    let state ← observe fun root => readJson "state.json" root.state
    let installationId ← lift (item installation "installation_id")
    perform (.failure (failureRecord installationId state code message stateEffect messageId world))
    fail fault

/-- What a repeated idempotency key returns. -/
def recordedResult (message : Value) : Value :=
  if (message.get "result").truthy then message.get "result"
  else .dict [("message_id", message.get "message_id"),
    ("revision", message.get "result_revision")] (by simp)

/-- What a transition is about to write, with so many messages and events before it. -/
def transitionRecords (state : Value) (args : Arguments) (world : World)
    (next installation : Value) (messages events : ℕ) : Journal :=
  let event := eventOf state args world next (events + 1)
  { message := messageOf state args world next (messages + 1)
    event := event
    nextState := persistedState next event
    installation := installationAt installation (persistedState next event) }

/-- The journal of a transition that passed the checks. -/
def prepareJournal (state : Value) (args : Arguments) (target : Status) (world : World)
    (root : Root) : Except Fault Journal := do
  let next ← nextState state args target world
  let _ ← item state "installation_id"
  let messages ← root.readMessages
  let events ← root.readEvents
  let installation ← root.readInstallation
  .ok (transitionRecords state args world next installation messages.length events.length)

def transitionUnlocked (args : Arguments) (world : World) : Op Value := do
  observe Root.requireInitialized
  recoverTransition world.text world.recoveredAt
  match ← observe (Root.findMessage args.idempotencyKey) with
  | some existing =>
    if (existing.get "content_digest").equal (.str args.contentDigest) then
      pure (recordedResult existing)
    else refuseWith world (existing.get "message_id") (refusal "VALP-E-IDEMPOTENCY-CONFLICT"
      "Idempotency key was reused with different content")
  | none => do
    let state ← observe Root.readState
    match checkTransition world.text state args with
    | .error fault => refuseWith world .null fault
    | .ok target => do
      let j ← observe (prepareJournal state args target world)
      perform (.journal (journalOf j))
      commitTransitionJournal world.text world.recoveredAt (journalOf j)
      pure (j.message.get "result")

/-- `_transition`: the result and the files behind it. -/
def transition (args : Arguments) (world : World) (root : Root) : Except Fault Value × Root :=
  let outcome := transitionUnlocked args world root
  (outcome.1, last root outcome.2)

end Valp.Control
