/-
Continuation envelopes and events (`valp_cli/continuation.py`).

An envelope is a dictionary, and so are the events of the ledger and the receipts of a
provider; what the code checks about them is checked here.  Files outside the store (the
control contract, `state.json`, evidence) are an `Env`, which each call finds as it is.

* `isEvent_eventRecord` — an event in the ledger is an event of the envelopes that correlate
  with the one it was appended for;
* `isEvent_congr` — envelopes that correlate have the same events.
-/
import Valp.JsonValue
import Valp.ReceiptTypes

namespace Valp.Continuation

open Json (Value)
open Kernel (digest isDigest)
open Receipts (isSafeRef)
open List

/-! ### Vocabularies -/

inductive EventKind where
  | resumePending
  | resumeReceived
  | digestVerified
  | resumeAccepted
  | continuationStarted
  | resumeConsumed
  | continuationRejected
  | continuationFailed
  | continuationSuperseded
  deriving DecidableEq, Repr

def EventKind.name : EventKind → String
  | .resumePending => "resume_pending"
  | .resumeReceived => "resume_received"
  | .digestVerified => "digest_verified"
  | .resumeAccepted => "resume_accepted"
  | .continuationStarted => "continuation_started"
  | .resumeConsumed => "resume_consumed"
  | .continuationRejected => "continuation_rejected"
  | .continuationFailed => "continuation_failed"
  | .continuationSuperseded => "continuation_superseded"

theorem EventKind.name_injective {a b : EventKind} (h : a.name = b.name) : a = b := by
  cases a <;> cases b <;> first | rfl | exact absurd h (by decide)

def successEvents : List EventKind :=
  [.resumePending, .resumeReceived, .digestVerified, .resumeAccepted, .continuationStarted,
    .resumeConsumed]

def terminalEvents : List EventKind :=
  [.resumeConsumed, .continuationFailed, .continuationSuperseded]

def runtimeChannel : Value :=
  .dict [("kind", .str "runtime_control"), ("user_input_allowed", ⟨.bool false, rfl⟩),
    ("raw_worker_output_allowed", ⟨.bool false, rfl⟩)] (by decide)

def envelopeFields : List String :=
  ["schema_version", "task_id", "suspension_id", "suspension_epoch", "wake_id", "wake_event_id",
    "wake_reason", "accepted_state_revision", "control_contract_ref", "control_contract_digest",
    "payload_ref", "payload_digest", "continuation_generation", "target", "channel"]

def receiptFields : List String :=
  ["schema_version", "task_id", "suspension_id", "suspension_epoch", "wake_id",
    "continuation_generation", "idempotency_key", "payload_digest", "adapter", "provider",
    "durable_boundary_ref", "identity_evidence_ref", "duplicate_suppression_ref", "started_at",
    "consumed_at", "result"]

/-- A raised `ContinuationError` with its text, or an exception of another class. -/
inductive Fault where
  | continuation (message : String)
  | python (name : String)
  deriving DecidableEq, Repr

/-- `if not …: raise ContinuationError(message)`. -/
def require (condition : Bool) (message : String) : Except Fault Unit :=
  if condition then .ok () else .error (.continuation message)

/-- `set(v) == fields`. -/
def hasFields (v : Value) (fields : List String) : Bool :=
  v.keys.all fields.contains && fields.all v.keys.contains

/-- `v[k]`. -/
def item (v : Value) (k : String) : Except Fault Value :=
  if v.keys.contains k then .ok (v.get k) else .error (.python "KeyError")

/-! ### Identity -/

def invocationKey (envelope : Value) : List Value :=
  [envelope.get "task_id", envelope.get "suspension_id", envelope.get "suspension_epoch",
    envelope.get "wake_id", envelope.get "continuation_generation"]

def idempotencyKey (envelope : Value) : String :=
  digest (.arr ((invocationKey envelope).map Subtype.val))

/-- The fields that `_matches` compares, with their values for an envelope. -/
def correlation (envelope : Value) : List (String × Value) :=
  [("task_id", envelope.get "task_id"),
    ("suspension_id", envelope.get "suspension_id"),
    ("suspension_epoch", envelope.get "suspension_epoch"),
    ("wake_id", envelope.get "wake_id"),
    ("wake_event_id", envelope.get "wake_event_id"),
    ("continuation_generation", envelope.get "continuation_generation"),
    ("idempotency_key", .str (idempotencyKey envelope)),
    ("envelope_digest", .str (digest envelope.1)),
    ("payload_digest", envelope.get "payload_digest"),
    ("control_contract_digest", envelope.get "control_contract_digest"),
    ("target", envelope.get "target")]

/-- `_matches`. -/
def matchesEnvelope (event envelope : Value) : Bool :=
  (correlation envelope).all fun field => (event.get field.1).equal field.2

/-- Whether an event has the name `kind` and matches the envelope. -/
def isEvent (kind : EventKind) (envelope event : Value) : Bool :=
  (event.get "event").equal (.str kind.name) && matchesEnvelope event envelope

/-- `wake_id.removeprefix("sha256:")` of an envelope or an event: the name of the directory
of its artifacts. -/
def wakeDir (v : Value) : String :=
  match (v.get "wake_id").1 with
  | .str s =>
    if "sha256:".toList.isPrefixOf s.toList then String.ofList (s.toList.drop 7) else s
  | _ => ""

/-- What `_append` is given besides the envelope. -/
inductive Extra where
  | none
  | reason (text : String)
  | supersession (generation : Int) (text : String)
  | invocation (id : Value) (ref digest : String)

def Extra.fields : Extra → List (String × Value)
  | .none => []
  | .reason text => [("reason", .str text)]
  | .supersession generation text =>
    [("replacement_generation", .int generation), ("reason", .str text)]
  | .invocation id ref digest =>
    [("invocation_id", id), ("invocation_receipt_ref", .str ref),
      ("invocation_receipt_digest", .str digest)]

section

variable (sequence : ℕ) (kind : EventKind) (envelope : Value) (extra : Extra)

def eventFields : List (String × Value) :=
  [("schema_version", .str "valp-continuation-event.v1"), ("event_sequence", .int sequence),
    ("event", .str kind.name)] ++
    correlation envelope ++ [("channel", .str "runtime_control")] ++ extra.fields

theorem keys_eventFields : (eventFields sequence kind envelope extra).map Prod.fst =
      ["schema_version", "event_sequence", "event", "task_id", "suspension_id",
        "suspension_epoch", "wake_id", "wake_event_id", "continuation_generation",
        "idempotency_key", "envelope_digest", "payload_digest", "control_contract_digest",
        "target", "channel"] ++ extra.fields.map Prod.fst := by
  simp only [eventFields, correlation, map_cons, cons_append, nil_append]

theorem nodup_eventFields : ((eventFields sequence kind envelope extra).map Prod.fst).Nodup := by
  rw [keys_eventFields]
  cases extra <;> simp only [Extra.fields, map_cons, map_nil] <;> decide

/-- The event with its `event_id`. -/
def signedFields : List (String × Value) :=
  eventFields sequence kind envelope extra ++
    [("event_id", .str (digest (Value.dict (eventFields sequence kind envelope extra)
      (nodup_eventFields sequence kind envelope extra)).1))]

theorem nodup_signedFields : ((signedFields sequence kind envelope extra).map Prod.fst).Nodup := by
  rw [signedFields, map_append, keys_eventFields]
  cases extra <;> simp only [Extra.fields, map_cons, map_nil] <;> decide

/-- The record that `_append` writes. -/
def eventRecord : Value :=
  .dict (signedFields sequence kind envelope extra)
    (nodup_signedFields sequence kind envelope extra)

end

section Records

variable {n : ℕ} {kind k : EventKind} {e f : Value} {extra : Extra} {event : Value}

theorem get_eventRecord {field : String} {v : Value} (h : (field, v) ∈ eventFields n kind e extra) :
    (eventRecord n kind e extra).get field = v :=
  Value.get_dict (mem_append_left _ h)

theorem get_sequence : (eventRecord n kind e extra).get "event_sequence" = .int n :=
  get_eventRecord (by simp [eventFields])

theorem get_event : (eventRecord n kind e extra).get "event" = .str kind.name :=
  get_eventRecord (by simp [eventFields])

theorem get_correlation {field : String × Value} (h : field ∈ correlation e) :
    (eventRecord n kind e extra).get field.1 = field.2 :=
  get_eventRecord (mem_append_left _ (mem_append_left _ (mem_append_right _ h)))

theorem wakeDir_eventRecord : wakeDir (eventRecord n kind e extra) = wakeDir e := by
  have hmem : ("wake_id", e.get "wake_id") ∈ correlation e := by simp [correlation]
  rw [wakeDir, wakeDir, get_correlation hmem]

/-- Two envelopes whose events are not told apart. -/
def correlates (e f : Value) : Bool :=
  (correlation e).map (fun field => field.2.1.key) ==
    (correlation f).map fun field => field.2.1.key

theorem correlates_iff : correlates e f ↔
    (correlation e).map (fun field => field.2.1.key) =
      (correlation f).map fun field => field.2.1.key := by
  rw [correlates, beq_iff_eq]

theorem matchesEnvelope_iff : matchesEnvelope event e ↔
    (correlation e).map (fun field => (event.get field.1).1.key) =
      (correlation e).map fun field => field.2.1.key := by
  rw [matchesEnvelope, all_eq_true, map_inj_left]
  exact forall₂_congr fun field _ => Value.equal_iff

theorem map_correlation {β : Type} (g : String → β) (e f : Value) :
    (correlation e).map (fun field => g field.1) = (correlation f).map fun field => g field.1 := by
  simp only [correlation, map_cons, map_nil]

theorem matchesEnvelope_eventRecord :
    matchesEnvelope (eventRecord n k e extra) f = correlates e f := by
  rw [Bool.eq_iff_iff, matchesEnvelope_iff, correlates_iff,
    map_correlation (fun field => ((eventRecord n k e extra).get field).1.key) f e]
  have hown : (correlation e).map (fun field => ((eventRecord n k e extra).get field.1).1.key) =
      (correlation e).map fun field => field.2.1.key :=
    map_congr_left fun field hfld => by rw [get_correlation hfld]
  rw [hown]

/-- **An event is an event of the envelopes that correlate with its own.** -/
theorem isEvent_eventRecord :
    isEvent kind f (eventRecord n k e extra) = (decide (kind = k) && correlates e f) := by
  have hname : (Value.str k.name).equal (.str kind.name) = decide (kind = k) := by
    rw [Bool.eq_iff_iff, Value.equal_str, decide_eq_true_iff]
    constructor
    · intro h
      have hstr := Value.str_inj.mp h
      exact (EventKind.name_injective hstr).symm
    · rintro rfl
      rfl
  rw [isEvent, get_event, hname, matchesEnvelope_eventRecord]

/-- **Envelopes that correlate have the same events.** -/
theorem isEvent_congr (h : correlates e f) :
    isEvent kind e event = isEvent kind f event := by
  have hmatch : matchesEnvelope event e = matchesEnvelope event f := by
    rw [Bool.eq_iff_iff, matchesEnvelope_iff, matchesEnvelope_iff, correlates_iff.mp h,
      map_correlation (fun field => (event.get field).1.key) e f]
  rw [isEvent, isEvent, hmatch]

theorem correlates_refl (e : Value) : correlates e e := correlates_iff.mpr rfl

theorem isEvent_normal : isEvent kind e (event.normal true) = isEvent kind e event := by
  simp only [isEvent, matchesEnvelope, Value.get_normal, Value.equal_normal]

theorem wakeDir_of_isEvent (h : isEvent kind e event) : wakeDir event = wakeDir e := by
  rw [isEvent, Bool.and_eq_true, matchesEnvelope, all_eq_true] at h
  have hwake : (event.get "wake_id").1.key = (e.get "wake_id").1.key :=
    Value.equal_iff.mp (h.2 ("wake_id", e.get "wake_id") (by simp [correlation]))
  -- equal values are the same string or are no strings
  rw [wakeDir, wakeDir]
  cases hev : (event.get "wake_id").1 with
  | str s =>
    rw [hev] at hwake
    rw [Json.key_eq_str.mp hwake.symm]
  | _ =>
    cases he : (e.get "wake_id").1 with
    | str s =>
      rw [he, Json.key_eq_str, hev] at hwake
      cases hwake
    | _ => rfl

end Records

/-! ### The environment -/

/-- What a call finds outside the store: the task of the store object, the path of its
directory, the digests of the files of the task directory, the content of `state.json` if it
is a file and if it is JSON, and what `str` makes of a list or a dictionary. -/
structure Env where
  taskId : String
  root : String
  fileDigest : String → Option String
  state : Option (Option Value)
  text : Value → String

/-- `(directory / ref).is_file()`. -/
def Env.isFile (env : Env) (ref : String) : Bool := (env.fileDigest ref).isSome

/-- `str(v)`. -/
def Env.str (env : Env) (v : Value) : String :=
  match v.1 with
  | .str s => s
  | .int n => toString n
  | .bool b => if b then "True" else "False"
  | .null => "None"
  | .arr _ | .obj _ => env.text v

/-- `str(v or "")`. -/
def Env.strOrEmpty (env : Env) (v : Value) : String := if v.truthy then env.str v else ""

def isDigestId (v : Value) : Bool :=
  match v.1 with
  | .str s => isDigest s
  | _ => false

def requireDigestId (field : String) (v : Value) : Except Fault Unit :=
  require (isDigestId v) ("continuation " ++ field ++ " is not a digest-shaped identifier")

def activeEpoch (env : Env) (suspensionId : Value) : Except Fault Int :=
  match env.state with
  | none => .error (.continuation "authoritative state.json suspension epoch is missing")
  | some none => .error (.continuation "state.json is malformed")
  | some (some state) =>
    if !state.isObject then .error (.python "AttributeError")
    else
      let suspension := state.get "suspension"
      let source := if suspension.isObject then suspension else state
      if !(source.get "suspension_id").equal suspensionId then
        .error (.continuation "active suspension identity mismatch")
      else
        match (source.get "suspension_epoch").1 with
        | .int value =>
          if value < 1 then
            .error (.continuation "authoritative state.json suspension epoch is invalid")
          else .ok value
        | _ => .error (.continuation "authoritative state.json suspension epoch is invalid")

def targetFields : List String :=
  ["coordinator_agent", "adapter_id", "provider_id", "durable_boundary_ref"]

def validateEnvelope (env : Env) (envelope : Value) : Except Fault Unit := do
  require (hasFields envelope envelopeFields &&
      (envelope.get "schema_version").equal (.str "valp-continuation-envelope.v1"))
    "continuation envelope fields are invalid"
  require ((envelope.get "task_id").equal (.str env.taskId)) "cross-task continuation rejected"
  require ((envelope.get "channel").equal runtimeChannel)
    "continuation channel is not typed runtime_control"
  requireDigestId "suspension_id" (envelope.get "suspension_id")
  requireDigestId "wake_id" (envelope.get "wake_id")
  requireDigestId "wake_event_id" (envelope.get "wake_event_id")
  require ((envelope.get "suspension_epoch").asInt.any (1 ≤ ·))
    "continuation suspension epoch is invalid"
  require ((envelope.get "continuation_generation").asInt.any (1 ≤ ·))
    "continuation generation is invalid"
  let target := envelope.get "target"
  require (target.isObject && hasFields target targetFields &&
      targetFields.all fun field => env.str (target.get field) != "")
    "continuation target tuple is invalid"
  let controlRef := env.strOrEmpty (envelope.get "control_contract_ref")
  require (isSafeRef controlRef) "control contract ref is unsafe"
  require (isDigestId (envelope.get "control_contract_digest")) "control contract digest is invalid"
  require (isDigestId (envelope.get "payload_digest")) "payload digest is invalid"
  let payloadRef := env.strOrEmpty (envelope.get "payload_ref")
  let expectedPayloadRef := "continuations/" ++ wakeDir envelope ++ "/payload.json"
  require (isSafeRef payloadRef && payloadRef == expectedPayloadRef)
    "payload ref is unsafe or mismatched"
  require ((env.fileDigest controlRef).any fun found =>
      (Value.str found).equal (envelope.get "control_contract_digest"))
    "control contract digest mismatch"
  let epoch ← activeEpoch env (envelope.get "suspension_id")
  let declared := ((envelope.get "suspension_epoch").asInt).getD 0
  require (epoch ≤ declared) "stale suspension epoch"
  require (declared ≤ epoch) "future suspension epoch"

/-- What `_capability` and `register_capability` ask of the evidence of a proof. -/
def requireEvidence (env : Env) (proof : Value) (field message : String) : Except Fault Unit :=
  let ref := env.strOrEmpty (proof.get field)
  require (isSafeRef ref && env.isFile ref) message

/-- `v is True`. -/
def isTrue (v : Value) : Bool :=
  match v.1 with
  | .bool b => b
  | _ => false

/-- The checks of `register_capability`. -/
def validateCapability (env : Env) (capability : Value) : Except Fault Unit := do
  let proof := capability.get "proof"
  require ((capability.get "schema_version").equal (.str "valp-continuation-capability.v1") &&
      (capability.get "mode").equal (.str "automatic_full") && proof.isObject &&
      isTrue (proof.get "invocation_receipt") && isTrue (proof.get "duplicate_suppression"))
    "automatic continuation capability proof is incomplete"
  requireEvidence env proof "identity_evidence_ref"
    "capability identity_evidence_ref is missing or unsafe"
  requireEvidence env proof "duplicate_suppression_evidence_ref"
    "capability duplicate_suppression_evidence_ref is missing or unsafe"

/-- `_capability`, for the content of `capability.json`. -/
def capabilityFor (env : Env) (stored : Option Value) (envelope : Value) :
    Except Fault Value :=
  match stored with
  | none => .error (.continuation "automatic continuation capability is not registered")
  | some capability => do
    let target := envelope.get "target"
    require ((capability.get "mode").equal (.str "automatic_full") &&
        (capability.get "adapter_id").equal (target.get "adapter_id") &&
        (capability.get "provider_id").equal (target.get "provider_id") &&
        (capability.get "coordinator_surface").equal (target.get "coordinator_agent"))
      "continuation capability does not match target tuple"
    let proof := capability.get "proof"
    require (isTrue (proof.get "invocation_receipt") && isTrue (proof.get "duplicate_suppression"))
      "continuation capability proof is incomplete"
    requireEvidence env proof "identity_evidence_ref"
      "continuation capability identity_evidence_ref is invalid"
    requireEvidence env proof "duplicate_suppression_evidence_ref"
      "continuation capability duplicate_suppression_evidence_ref is invalid"
    .ok capability

/-- The checks of `_validate_receipt`. -/
def checkReceipt (env : Env) (receipt envelope capability : Value) : Except Fault Unit := do
  require (receipt.isObject && hasFields receipt receiptFields)
    "complete provider invocation receipt is required"
  let proof ← item capability "proof"
  let identityRef ← item proof "identity_evidence_ref"
  let suppressionRef ← item proof "duplicate_suppression_evidence_ref"
  let expected : List (String × Value) := [
    ("schema_version", .str "valp-continuation-invocation-receipt.v1"),
    ("task_id", envelope.get "task_id"),
    ("suspension_id", envelope.get "suspension_id"),
    ("suspension_epoch", envelope.get "suspension_epoch"),
    ("wake_id", envelope.get "wake_id"),
    ("continuation_generation", envelope.get "continuation_generation"),
    ("idempotency_key", .str (idempotencyKey envelope)),
    ("payload_digest", envelope.get "payload_digest"),
    ("durable_boundary_ref", (envelope.get "target").get "durable_boundary_ref"),
    ("identity_evidence_ref", identityRef),
    ("duplicate_suppression_ref", suppressionRef),
    ("result", .str "consumed")]
  require (expected.all fun field => (receipt.get field.1).equal field.2)
    "provider invocation receipt correlation mismatch"
  let incomplete := "provider invocation receipt identity is incomplete"
  let adapter := receipt.get "adapter"
  let provider := receipt.get "provider"
  require (adapter.isObject && hasFields adapter ["id", "version"]) incomplete
  let adapterId ← item capability "adapter_id"
  require ((adapter.get "id").equal adapterId) incomplete
  let adapterVersion ← item capability "adapter_version"
  require ((adapter.get "version").equal adapterVersion && provider.isObject &&
    hasFields provider ["id", "invocation_id", "turn_id"]) incomplete
  let providerId ← item capability "provider_id"
  require ((provider.get "id").equal providerId && (provider.get "invocation_id").truthy &&
    (provider.get "turn_id").truthy && (receipt.get "started_at").truthy &&
    (receipt.get "consumed_at").truthy) incomplete
  let evidence := fun field => isSafeRef (env.str (receipt.get field)) &&
    env.isFile (env.str (receipt.get field))
  require (evidence "identity_evidence_ref")
    "provider receipt identity_evidence_ref is missing or unsafe"
  require (evidence "duplicate_suppression_ref")
    "provider receipt duplicate_suppression_ref is missing or unsafe"

def validateReceipt (env : Env) (receipt envelope capability : Value) : Except Fault Value :=
  (checkReceipt env receipt envelope capability).map fun _ => receipt

theorem eq_of_validateReceipt {env : Env} {receipt envelope capability validated : Value}
    (h : validateReceipt env receipt envelope capability = .ok validated) :
    validated = receipt := by
  rw [validateReceipt] at h
  cases hchk : checkReceipt env receipt envelope capability with
  | error fault =>
    rw [hchk] at h
    cases h
  | ok _ =>
    rw [hchk] at h
    exact (Except.ok.inj h).symm

end Valp.Continuation
