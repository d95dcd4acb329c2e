/-
The continuation store (`ContinuationStore` of `valp_cli/continuation.py`).

The store is a directory: the event ledger, one directory of artifacts for each wake, and the
registered capability.  Every method is a `Durable` call whose writes carry labels, so that a
process may stop between any two of them.  Where a method takes the lock more than once
(`consume`), each locked section is a call of its own.

The ledger is the file that the appended events make, and it is read through its text.

* `Store.of_events` — what is read are the appended events, with their keys sorted;
* `any_of_events` — looking for an event in what is read looks for it in the ledger.
-/
import Valp.Durable
import Valp.JsonLedgers
import Valp.KernelCodec
import Valp.ContinuationTypes

namespace Valp.Continuation

open Json (Value)
open Kernel (digest mapError_eq_ok)
open Ledgers (Ledger continuationEvents)

/-! ### Files -/

/-- The files in the directory of a wake. -/
inductive ArtifactFile where
  | envelope
  | payload
  | receipt
  | inflight
  deriving DecidableEq, Repr

def ArtifactFile.name : ArtifactFile → String
  | .envelope => "envelope.json"
  | .payload => "payload.json"
  | .receipt => "invocation-receipt.json"
  | .inflight => "invocation.inflight"

/-- An appended event. -/
structure Event where
  sequence : ℕ
  kind : EventKind
  envelope : Value
  extra : Extra

def Event.value (event : Event) : Value :=
  eventRecord event.sequence event.kind event.envelope event.extra

structure Store where
  /-- The events that were appended to `events.jsonl`. -/
  records : List Event
  artifacts : String → ArtifactFile → Option Value
  /-- The directories that have an `envelope.json`. -/
  wakes : List String
  /-- The content of `capability.json`. -/
  capability : Option Value

/-- A task directory without continuations. -/
def Store.empty : Store where
  records := []
  artifacts _ _ := none
  wakes := []
  capability := none

def Store.ledger (s : Store) : List Value := s.records.map Event.value

/-- The labels of the writes; `invoke` is the start of the provider, which writes nothing. -/
inductive Write where
  | event (event : Event)
  | create (wake : String) (file : ArtifactFile) (value : Value)
  | unlink (wake : String)
  | register (capability : Value)
  | invoke (envelope : Value)

def Store.apply (s : Store) : Write → Store
  | .event event => { s with records := s.records ++ [event] }
  | .create wake file value =>
    { s with
      artifacts := Function.update s.artifacts wake
        (Function.update (s.artifacts wake) file (some value))
      wakes := if file = .envelope then s.wakes ++ [wake] else s.wakes }
  | .unlink wake =>
    { s with
      artifacts := Function.update s.artifacts wake
        (Function.update (s.artifacts wake) .inflight none) }
  | .register capability => { s with capability := some capability }
  | .invoke _ => s

def Store.events (s : Store) : Except Fault (List Value) :=
  (continuationEvents Json.codec (Ledger.continuation.written Json.codec s.ledger)).mapError
    .continuation

/-- Whether an event of the envelope is in the ledger. -/
def Store.recorded (s : Store) (kind : EventKind) (envelope : Value) : Bool :=
  s.ledger.any (isEvent kind envelope)

variable {s : Store}

theorem Store.events_eq_ok {events : List Value} : s.events = .ok events ↔
    JsonLines.read Json.codec (JsonLines.written Json.codec true s.ledger) = .ok events := by
  have hwr : Ledger.continuation.written Json.codec s.ledger =
      JsonLines.written Json.codec true s.ledger := Ledger.written_eq
  have hread : ∀ file, Ledger.continuation.read Json.codec file = .ok events ↔
      JsonLines.read Json.codec file = .ok events := fun _ => Ledger.read_eq_ok
  rw [Store.events, mapError_eq_ok, ← hwr]
  exact hread _

theorem Store.isObject_ledger (s : Store) : ∀ v ∈ s.ledger, Json.codec.isObject v := by
  intro v hv
  obtain ⟨event, -, rfl⟩ := List.mem_map.mp hv
  rfl

theorem Store.of_events {events : List Value} (h : s.events = .ok events) :
    events = s.ledger.map fun event => event.normal true := by
  have hcases : JsonLines.read Json.codec (JsonLines.written Json.codec true s.ledger) =
      .ok (s.ledger.map (Json.codec.normal true)) ∨ _ :=
    JsonLines.read_written Json.lawful_codec s.isObject_ledger
  rw [Store.events_eq_ok] at h
  rcases hcases with hok | ⟨fault, herr⟩
  · rw [hok] at h
    exact (Except.ok.inj h).symm
  · cases herr.symm.trans h

theorem length_of_events {events : List Value} (h : s.events = .ok events) :
    events.length = s.records.length := by
  rw [Store.of_events h, List.length_map, Store.ledger, List.length_map]

/-- **Looking for an event in what is read looks for it in the ledger.** -/
theorem any_of_events {events : List Value} (h : s.events = .ok events)
    (kind : EventKind) (envelope : Value) :
    events.any (isEvent kind envelope) = s.recorded kind envelope := by
  rw [Store.of_events h, List.any_map, Store.recorded]
  congr 1
  funext event
  exact isEvent_normal

/-! ### Calls -/

abbrev Op : Type → Type := Durable Write Store Fault

def perform (write : Write) : Op Unit := Durable.write write fun s => s.apply write

def events : Op (List Value) := Durable.observe Store.events

def artifact (wake : String) (file : ArtifactFile) : Op (Option Value) :=
  Durable.observe fun s => .ok (s.artifacts wake file)

def raise {α : Type} (message : String) : Op α := Durable.fail (.continuation message)

def append (kind : EventKind) (envelope : Value) (extra : Extra) : Op Value := do
  let records ← events
  -- `envelope.get` asks for a dictionary
  if !envelope.isObject then Durable.fail (.python "AttributeError")
  else do
    let event : Event := ⟨records.length + 1, kind, envelope, extra⟩
    perform (.event event)
    pure event.value

def writeOnce (env : Env) (wake : String) (file : ArtifactFile) (value : Value) : Op Unit := do
  match ← artifact wake file with
  | some present =>
    if present.1.render ≠ value.1.render then
      raise ("immutable artifact conflict: " ++ env.root ++ "/continuations/" ++ wake ++ "/" ++
        file.name)
    else pure ()
  | none => perform (.create wake file value)

/-- `_reject_locked` for a `ContinuationError`, which is raised again; `durable` says whether
the envelope allows it. -/
def rejecting {α : Type} (envelope : Value) (durable : Bool) (call : Op α) : Op α :=
  call.rescue fun fault =>
    match fault with
    | .continuation message =>
      if durable then do
        let _ ← append .continuationRejected envelope (.reason message)
        Durable.fail fault
      else Durable.fail fault
    | .python _ => Durable.fail fault

/-- `_persisted`; a payload `None` is not compared. -/
def persisted (env : Env) (s : Store) (envelope payload : Value) :
    Except Fault (Value × Value) := do
  validateEnvelope env envelope
  match s.artifacts (wakeDir envelope) .envelope, s.artifacts (wakeDir envelope) .payload with
  | some persistedEnvelope, some persistedPayload =>
    require (persistedEnvelope.equal envelope && digest persistedEnvelope.1 == digest envelope.1)
      "persisted continuation envelope conflict"
    require ((Value.str (digest persistedPayload.1)).equal (envelope.get "payload_digest"))
      "persisted continuation payload digest mismatch"
    require (payload.isNone || persistedPayload.equal payload)
      "continuation payload differs from persisted payload"
    let events ← s.events
    require (events.any (isEvent .resumePending envelope))
      "persisted resume_pending event is missing"
    .ok (persistedEnvelope, persistedPayload)
  | _, _ =>
    .error (.continuation "persisted resume_pending envelope or payload is missing")

/-- The fields without which `pending` does not record a rejection. -/
def rejectionFields : List String :=
  ["task_id", "suspension_id", "suspension_epoch", "wake_id", "continuation_generation",
    "payload_digest", "control_contract_digest", "target"]

/-- Whether an envelope of the store has the invocation key of this one and is another. -/
def Store.conflicts (s : Store) (envelope : Value) : Bool :=
  s.wakes.any fun wake => (s.artifacts wake .envelope).any fun prior =>
    ((invocationKey prior).map fun v => v.1.key) == ((invocationKey envelope).map fun v => v.1.key)
      && !prior.equal envelope

def pending (env : Env) (envelope payload : Value) : Op Value :=
  rejecting envelope (rejectionFields.all envelope.keys.contains) do
    Durable.lift (validateEnvelope env envelope)
    Durable.lift (require ((Value.str (digest payload.1)).equal (envelope.get "payload_digest"))
      "payload digest mismatch")
    Durable.observe fun s =>
      require (!s.conflicts envelope) "conflicting continuation for invocation key"
    match ← artifact (wakeDir envelope) .envelope with
    | some _ =>
      let _ ← Durable.observe fun s => persisted env s envelope payload
      pure envelope
    | none =>
      writeOnce env (wakeDir envelope) .envelope envelope
      writeOnce env (wakeDir envelope) .payload payload
      let _ ← append .resumePending envelope .none
      pure envelope

/-- One turn of the loop of `receive`. -/
def receiveStage (envelope : Value) (existing : List Value) (kind : EventKind) :
    Op (List Value) :=
  if existing.any (isEvent kind envelope) then pure existing
  else do
    let _ ← append kind envelope .none
    events

def receive (env : Env) (envelope payload : Value) : Op (List Value) := do
  let _ ← rejecting envelope true (Durable.observe fun s => persisted env s envelope payload)
  let existing ← events
  let existing ← receiveStage envelope existing .resumeReceived
  receiveStage envelope existing .digestVerified

/-- A rejection that is recorded and raised. -/
def refuse {α : Type} (envelope : Value) (message : String) : Op α := do
  let _ ← append .continuationRejected envelope (.reason message)
  raise message

def claim (env : Env) (envelope : Value) : Op Value := do
  let _ ← rejecting envelope true (Durable.observe fun s => persisted env s envelope .null)
  let existing ← events
  if existing.any fun event => (event.get "event").equal (.str EventKind.resumeAccepted.name) &&
      (event.get "idempotency_key").equal (.str (idempotencyKey envelope)) &&
      !matchesEnvelope event envelope then
    refuse envelope "conflicting invocation CAS"
  else
    match existing.find? (isEvent .resumeAccepted envelope) with
    | some prior => pure prior
    | none =>
      if !existing.any (isEvent .digestVerified envelope) then
        refuse envelope "invocation CAS requires correlated digest_verified"
      else append .resumeAccepted envelope .none

def registerCapability (env : Env) (capability : Value) : Op Value := do
  Durable.lift (validateCapability env capability)
  match ← Durable.observe fun s : Store => .ok s.capability with
  | some present =>
    if present.1.render ≠ capability.1.render then
      raise ("immutable artifact conflict: " ++ env.root ++ "/continuations/capability.json")
    else pure capability
  | none =>
    perform (.register capability)
    pure capability

def reject (env : Env) (envelope : Value) (reason : String) : Op Value := do
  Durable.lift (validateEnvelope env envelope)
  append .continuationRejected envelope (.reason reason)

def fail (env : Env) (envelope : Value) (reason : String) : Op Value := do
  let _ ← Durable.observe fun s => persisted env s envelope .null
  append .continuationFailed envelope (.reason reason)

/-- `int(v or 0)`, for a value that is no text. -/
def intOrZero (v : Value) : Except Fault Int :=
  if !v.truthy then .ok 0
  else
    match v.asInt with
    | some n => .ok n
    | none => .error (.python "TypeError")

def supersede (env : Env) (envelope : Value) (replacementGeneration : Int) (reason : String) :
    Op Value := do
  let generation ← Durable.lift (intOrZero (envelope.get "continuation_generation"))
  if replacementGeneration ≤ generation then
    raise "supersession generation must advance"
  else do
    let _ ← Durable.observe fun s => persisted env s envelope .null
    append .continuationSuperseded envelope (.supersession replacementGeneration reason)

/-! ### The consumption of an envelope -/

/-- What the receipt of an envelope adds to its two last events. -/
def invocationExtra (envelope receipt : Value) : Extra :=
  .invocation ((receipt.get "provider").get "invocation_id")
    ("continuations/" ++ wakeDir envelope ++ "/" ++ ArtifactFile.receipt.name) (digest receipt.1)

/-- Append an event with its receipt, unless it is there already. -/
def commitEvent (kind : EventKind) (envelope : Value) (extra : Extra) : Op Unit := do
  let existing ← events
  match existing.find? (isEvent kind envelope) with
  | some event =>
    if extra.fields.all fun field => (event.get field.1).equal field.2 then pure ()
    else raise ("committed " ++ kind.name ++ " conflicts with receipt")
  | none =>
    let _ ← append kind envelope extra
    pure ()

/-- `_finalize_receipt_locked`. -/
def finalizeReceipt (env : Env) (envelope validated : Value) : Op Value := do
  let _ ← Durable.observe fun s => persisted env s envelope .null
  writeOnce env (wakeDir envelope) .receipt validated
  commitEvent .continuationStarted envelope (invocationExtra envelope validated)
  commitEvent .resumeConsumed envelope (invocationExtra envelope validated)
  perform (.unlink (wakeDir envelope))
  pure validated

/-- The in-flight marker. -/
def intent (envelope : Value) : Value :=
  .dict [
    ("schema_version", .str "valp-continuation-invocation-intent.v1"),
    ("task_id", envelope.get "task_id"),
    ("wake_id", envelope.get "wake_id"),
    ("continuation_generation", envelope.get "continuation_generation"),
    ("idempotency_key", .str (idempotencyKey envelope)),
    ("envelope_digest", .str (digest envelope.1)),
    ("target", envelope.get "target")] (by simp)

/-- How the second locked section of `consume` ends: with the committed receipt, or before the
provider is started or asked, with the capability. -/
inductive Entered where
  | committed (receipt : Value)
  | invoke (capability : Value)
  | reconcileOnly (capability : Value)

/-- The second locked section of `consume`; `reconcile` says whether there is a callback. -/
def enter (env : Env) (envelope : Value) (reconcile : Bool) : Op Entered := do
  let _ ← Durable.observe fun s => persisted env s envelope .null
  let existing ← events
  let capability ← Durable.observe fun s : Store => capabilityFor env s.capability envelope
  let receipt ← artifact (wakeDir envelope) .receipt
  match existing.find? (isEvent .resumeConsumed envelope), receipt with
  | some _, none => raise "committed invocation receipt is missing"
  | some prior, some receipt =>
    let validated ← Durable.lift (validateReceipt env receipt envelope capability)
    if !(Value.str (digest validated.1)).equal (prior.get "invocation_receipt_digest") then
      raise "committed invocation receipt changed"
    else pure (.committed validated)
  | none, some receipt =>
    let validated ← Durable.lift (validateReceipt env receipt envelope capability)
    let finalized ← finalizeReceipt env envelope validated
    pure (.committed finalized)
  | none, none =>
    let marker ← artifact (wakeDir envelope) .inflight
    if marker.isSome then
      if reconcile then pure (.reconcileOnly capability)
      else raise "continuation invocation is already in flight or indeterminate"
    else do
      writeOnce env (wakeDir envelope) .inflight (intent envelope)
      pure (.invoke capability)

/-- What a callback does: it raises an `Exception` of a class, or it returns. -/
inductive Outcome where
  | raises (name : String)
  | returns (receipt : Value)

/-- What is left to do when a callback has ended. -/
inductive Ending where
  | raised (fault : Fault)
  | failed (name : String)
  | rejected (message : String)
  | finalized (receipt : Value)

/-- The part of `consume` behind the callback, up to its last locked section. -/
def ending (env : Env) (envelope capability : Value) (reconcile reconcileOnly : Bool) :
    Outcome → Ending
  | .raises name => if reconcile then .raised (.python name) else .failed name
  | .returns receipt =>
    if reconcileOnly && receipt.isNone then
      .raised (.continuation "provider reconciliation did not prove continuation consumption")
    else
      match validateReceipt env receipt envelope capability with
      | .error (.continuation message) => .rejected message
      | .error fault => .raised fault
      | .ok validated => .finalized validated

/-- The last locked section of `consume`. -/
def settle (env : Env) (envelope : Value) : Ending → Op Value
  | .raised fault => Durable.fail fault
  | .failed name => do
    let _ ← append .continuationFailed envelope
      (.reason ("provider invocation outcome indeterminate: " ++ name))
    Durable.fail (.python name)
  | .rejected message => refuse envelope message
  | .finalized receipt => finalizeReceipt env envelope receipt

/-- The environments of the parts of a `consume` call. -/
structure ConsumeEnv where
  claim : Env
  enter : Env
  answer : Env
  settle : Env

/-- `consume`, with what its callbacks do when they are called. -/
def consume (env : ConsumeEnv) (envelope : Value) (invoke : Outcome) (reconcile : Option Outcome) :
    Op Value := do
  let _ ← claim env.claim envelope
  match ← enter env.enter envelope reconcile.isSome with
  | .committed receipt => pure receipt
  | .invoke capability =>
    perform (.invoke envelope)
    settle env.settle envelope
      (ending env.answer envelope capability reconcile.isSome false invoke)
  | .reconcileOnly capability =>
    settle env.settle envelope
      (ending env.answer envelope capability reconcile.isSome true (reconcile.getD invoke))

end Valp.Continuation
