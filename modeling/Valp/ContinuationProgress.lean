/-
Calls of a continuation store that succeed.

An envelope that passes the checks of the store, in a ledger that can be read, goes from one
stage to the next.  `Held` is the state of a store that holds an envelope, and each method is
shown to run to its end from it, with its writes.

* `Event.clean_value` — the event of an envelope without odd line boundaries is read back;
* `pending_completes`, `receive_completes`, `claim_completes`, `enter_completes`,
  `finalizeReceipt_completes` — what a method writes;
* `served_sample` — an envelope, a capability and a receipt that pass every check.
-/
import Valp.ContinuationOrder

namespace Valp.Continuation

open Json (Value)
open Json.Value (clean_str_iff clean_int)
open Kernel (digest)
open Durable (Completes)
open List

/-! ### Readable ledgers -/

theorem clean_digest (v : Json) : (Value.str (digest v)).Clean :=
  Value.clean_str_of_ascii fun _ => Kernel.digestText_ascii

def Extra.Clean (extra : Extra) : Prop := ∀ field ∈ extra.fields, field.2.Clean

theorem Extra.clean_none : Extra.none.Clean := by
  intro field hfld
  cases hfld

theorem clean_correlation {envelope : Value} (h : envelope.Clean) :
    ∀ field ∈ correlation envelope, field.2.Clean := by
  intro field hfld
  simp only [correlation, mem_cons, not_mem_nil, or_false] at hfld
  rcases hfld with rfl | rfl | rfl | rfl | rfl | rfl | rfl | rfl | rfl | rfl | rfl
  case inr.inr.inr.inr.inr.inr.inl => exact clean_digest _
  case inr.inr.inr.inr.inr.inr.inr.inl => exact clean_digest _
  all_goals exact h.get _

theorem clean_keys (extra : Extra) (n : ℕ) (kind : EventKind) (envelope : Value) :
    ∀ field ∈ signedFields n kind envelope extra, (Value.str field.1).Clean := by
  intro field hfld
  have hkey : field.1 ∈ (signedFields n kind envelope extra).map Prod.fst :=
    mem_map_of_mem hfld
  rw [signedFields, map_append, keys_eventFields] at hkey
  rw [clean_str_iff]
  revert hkey
  generalize field.1 = key
  revert key
  cases extra <;> simp only [Extra.fields, map_cons, map_nil] <;> decide

theorem Event.clean_of_correlation {event : Event}
    (hcorrelation : ∀ field ∈ correlation event.envelope, field.2.Clean)
    (hextra : event.extra.Clean) : event.value.Clean := by
  rw [Event.value, eventRecord]
  refine Value.clean_dict fun field hfld =>
    ⟨clean_keys event.extra event.sequence event.kind event.envelope field hfld, ?_⟩
  have hsch : (Value.str "valp-continuation-event.v1").Clean := by
    rw [clean_str_iff]
    decide
  have hchannel : (Value.str "runtime_control").Clean := by
    rw [clean_str_iff]
    decide
  rcases mem_append.mp hfld with hbase | hid
  · rw [eventFields, mem_append, mem_append, mem_append] at hbase
    rcases hbase with ((hhead | hfld) | htail) | hrest
    · simp only [mem_cons, not_mem_nil, or_false] at hhead
      rcases hhead with rfl | rfl | rfl
      · exact hsch
      · exact clean_int _
      · rw [clean_str_iff]
        cases event.kind <;> decide
    · exact hcorrelation field hfld
    · rw [mem_singleton.mp htail]
      exact hchannel
    · exact hextra field hrest
  · rw [mem_singleton.mp hid]
    exact clean_digest _

theorem Event.clean_value {event : Event} (henvelope : event.envelope.Clean)
    (hextra : event.extra.Clean) : event.value.Clean :=
  Event.clean_of_correlation (clean_correlation henvelope) hextra

/-- Every record of the store is read back. -/
def Store.Calm (s : Store) : Prop := ∀ event ∈ s.records, event.value.Clean

theorem Store.Calm.events {s : Store} (h : s.Calm) :
    s.events = .ok (s.ledger.map fun event => event.normal true) := by
  have hcln : ∀ v ∈ s.ledger, ∀ c ∈ Json.codec.characters v, c ∉ JsonLines.wideBoundaries := by
    intro v hv
    obtain ⟨event, hev, rfl⟩ := mem_map.mp hv
    exact h event hev
  rw [Store.events_eq_ok]
  exact JsonLines.read_clean Json.lawful_codec s.isObject_ledger hcln

/-! ### Stores that hold an envelope -/

/-- The envelope and its payload pass the checks, and its events can be read. -/
structure Ready (env : Env) (envelope payload : Value) : Prop where
  valid : validateEnvelope env envelope = .ok ()
  payload : (Value.str (digest payload.1)).equal (envelope.get "payload_digest") = true
  object : envelope.isObject = true
  clean : envelope.Clean

/-- The store holds the envelope, its payload and its first event. -/
structure Held (env : Env) (s : Store) (envelope payload : Value) : Prop where
  ready : Ready env envelope payload
  calm : s.Calm
  stored : s.artifacts (wakeDir envelope) .envelope = some envelope
  storedPayload : s.artifacts (wakeDir envelope) .payload = some payload
  pending : s.recorded .resumePending envelope = true

section Held

variable {env : Env} {s : Store} {envelope payload : Value}

section

variable (h : Held env s envelope payload)

include h

theorem Held.next (kind : EventKind) {extra : Extra} (hextra : extra.Clean) :
    Held env (s.apply (.event ⟨s.records.length + 1, kind, envelope, extra⟩)) envelope payload where
  ready := h.ready
  calm := by
    refine forall_mem_append.mpr ⟨h.calm, forall_mem_singleton.mpr ?_⟩
    exact Event.clean_value h.ready.clean hextra
  stored := h.stored
  storedPayload := h.storedPayload
  pending := recorded_apply _ h.pending

theorem Held.create {file : ArtifactFile} {value : Value}
    (henvelope : file ≠ .envelope) (hpay : file ≠ .payload) :
    Held env (s.apply (.create (wakeDir envelope) file value)) envelope payload where
  ready := h.ready
  calm := h.calm
  stored := by rw [artifacts_apply_create, if_neg fun heq => henvelope heq.2.symm, h.stored]
  storedPayload := by
    rw [artifacts_apply_create, if_neg fun heq => hpay heq.2.symm, h.storedPayload]
  pending := h.pending

theorem Held.register (capability : Value) :
    Held env (s.apply (.register capability)) envelope payload :=
  ⟨h.ready, h.calm, h.stored, h.storedPayload, h.pending⟩

theorem Held.events : s.events = .ok (s.ledger.map fun event => event.normal true) :=
  h.calm.events

theorem Held.any (kind : EventKind) :
    (s.ledger.map fun event => event.normal true).any (isEvent kind envelope) =
      s.recorded kind envelope :=
  any_of_events h.events kind envelope

theorem Held.find {kind : EventKind} (hfr : s.recorded kind envelope = false) :
    (s.ledger.map fun event => event.normal true).find? (isEvent kind envelope) = none := by
  rw [find?_eq_none]
  exact any_eq_false.mp ((h.any kind).trans hfr)

end

theorem persisted_of_events (hval : validateEnvelope env envelope = .ok ())
    (hsto : s.artifacts (wakeDir envelope) .envelope = some envelope)
    (hpay : s.artifacts (wakeDir envelope) .payload = some payload)
    (hdig : (Value.str (digest payload.1)).equal (envelope.get "payload_digest"))
    {records : List Value} (hread : s.events = .ok records)
    (hpend : s.recorded .resumePending envelope) {given : Value}
    (hgiven : given.isNone ∨ payload.equal given) :
    persisted env s envelope given = .ok (envelope, payload) := by
  have hsame : envelope.equal envelope := Value.equal_self _
  have hcompared : (given.isNone || payload.equal given) := by
    rcases hgiven with hnone | heql
    · rw [hnone, Bool.true_or]
    · rw [heql, Bool.or_true]
  have hfnd := (any_of_events hread .resumePending envelope).trans hpend
  rw [Continuation.persisted, hval, hsto, hpay]
  simp only [Kernel.Decode.ok_bind, hsame, beq_self_eq_true, Bool.and_self, require, hdig,
    hcompared, hread, hfnd, if_true]

theorem Held.persisted (h : Held env s envelope payload) {given : Value}
    (hgiven : given.isNone ∨ payload.equal given) :
    persisted env s envelope given = .ok (envelope, payload) :=
  persisted_of_events h.ready.valid h.stored h.storedPayload h.ready.payload h.events h.pending
    hgiven

/-! ### The methods -/

/-- The call returns `a` and makes these writes. -/
abbrev Does {α : Type} (call : Op α) (s : Store) (a : α) (writes : List Write) : Prop :=
  Completes (fun w s => s.apply w) call s a writes

/-- The store behind some writes. -/
def Store.after (s : Store) (writes : List Write) : Store := writes.foldl Store.apply s

/-- The event that `_append` writes next. -/
def Store.next (s : Store) (kind : EventKind) (envelope : Value) (extra : Extra) : Event :=
  ⟨s.records.length + 1, kind, envelope, extra⟩

theorem recorded_next (kind : EventKind) (extra : Extra) :
    (s.apply (.event (s.next kind envelope extra))).recorded kind envelope := by
  simp [recorded_apply_event, Store.next, correlates_refl]

theorem append_completes (hobj : envelope.isObject) {records : List Value}
    (hread : s.events = .ok records) (kind : EventKind) (extra : Extra) :
    Does (append kind envelope extra) s (s.next kind envelope extra).value
      [.event (s.next kind envelope extra)] := by
  rw [append]
  refine .seq (.observe hread) ?_
  rw [hobj, Bool.not_true, if_neg (by decide), length_of_events hread]
  exact (Completes.write _ s).bind (Completes.pure _ _)

theorem writeOnce_completes {file : ArtifactFile} {value : Value}
    (hnone : s.artifacts (wakeDir envelope) file = none) :
    Does (writeOnce env (wakeDir envelope) file value) s ()
      [.create (wakeDir envelope) file value] :=
  .seq (.observe (congrArg Except.ok hnone)) (.write _ s)

/-- The writes of `pending` for a new envelope. -/
def pendingWrites (s : Store) (envelope payload : Value) : List Write :=
  [.create (wakeDir envelope) .envelope envelope, .create (wakeDir envelope) .payload payload,
    .event (s.next .resumePending envelope .none)]

theorem pending_completes (h : Ready env envelope payload) (hcalm : s.Calm)
    (hconf : s.conflicts envelope = false)
    (hnone : ∀ file, s.artifacts (wakeDir envelope) file = none) :
    Does (pending env envelope payload) s envelope (pendingWrites s envelope payload) := by
  rw [pending]
  refine .rescue ?_
  refine .seq (.lift h.valid) ?_
  refine .seq (.lift ((require_eq_ok (u := ())).mpr h.payload)) ?_
  refine .seq (.observe
    ((require_eq_ok (u := ())).mpr (by rw [hconf]; rfl))) ?_
  refine .seq (.observe (congrArg Except.ok (hnone _))) ?_
  refine (writeOnce_completes (hnone _)).bind ?_
  refine (writeOnce_completes ?_).bind ?_
  · show (s.apply (.create _ _ _)).artifacts _ _ = none
    rw [artifacts_apply_create, if_neg (by simp), hnone]
  · -- artifacts do not change the ledger
    have hread : ((s.apply (.create (wakeDir envelope) .envelope envelope)).apply
        (.create (wakeDir envelope) .payload payload)).events =
          .ok (s.ledger.map fun event => event.normal true) := Store.Calm.events hcalm
    exact (append_completes h.object hread _ _).bind (.pure _ _)

theorem held_pending (h : Ready env envelope payload) (hcalm : s.Calm) :
    Held env (s.after (pendingWrites s envelope payload)) envelope payload where
  ready := h
  calm := by
    refine forall_mem_append.mpr ⟨hcalm, forall_mem_singleton.mpr ?_⟩
    exact Event.clean_value h.clean Extra.clean_none
  stored := by
    show ((s.apply (.create _ _ _)).apply (.create _ _ _)).artifacts _ _ = _
    rw [artifacts_apply_create, if_neg (by simp), artifacts_apply_create, if_pos ⟨rfl, rfl⟩]
  storedPayload := by
    show ((s.apply (.create _ _ _)).apply (.create _ _ _)).artifacts _ _ = _
    rw [artifacts_apply_create, if_pos ⟨rfl, rfl⟩]
  pending := recorded_next _ _

theorem fail_completes (h : Held env s envelope payload) (reason : String) :
    Does (fail env envelope reason) s
      (s.next .continuationFailed envelope (.reason reason)).value
      [.event (s.next .continuationFailed envelope (.reason reason))] :=
  .seq (.observe (h.persisted (.inl rfl)))
    (append_completes h.ready.object h.events _ _)

theorem receiveStage_completes (h : Held env s envelope payload) {kind : EventKind}
    (hfr : s.recorded kind envelope = false) :
    Does (receiveStage envelope (s.ledger.map fun event => event.normal true) kind) s
      ((s.apply (.event (s.next kind envelope .none))).ledger.map fun event => event.normal true)
      [.event (s.next kind envelope .none)] := by
  have hnew := h.next kind Extra.clean_none
  rw [receiveStage, h.any, hfr, if_neg (by decide)]
  exact (append_completes h.ready.object h.events _ _).bind (.observe hnew.events)

/-- The writes of `receive` for an envelope that was not received. -/
def receiveWrites (s : Store) (envelope : Value) : List Write :=
  let received := s.next .resumeReceived envelope .none
  [.event received, .event ((s.apply (.event received)).next .digestVerified envelope .none)]

theorem Held.receive (h : Held env s envelope payload) :
    Held env (s.after (receiveWrites s envelope)) envelope payload :=
  (h.next .resumeReceived Extra.clean_none).next .digestVerified Extra.clean_none

theorem receive_completes (h : Held env s envelope payload)
    (hreceived : s.recorded .resumeReceived envelope = false)
    (hverified : s.recorded .digestVerified envelope = false) :
    Does (receive env envelope payload) s
      ((s.after (receiveWrites s envelope)).ledger.map fun event => event.normal true)
      (receiveWrites s envelope) := by
  have hpay : payload.equal payload := Value.equal_self _
  have hnew := h.next .resumeReceived Extra.clean_none
  rw [receive]
  refine .seq (.rescue (.observe (h.persisted (.inr hpay)))) ?_
  refine .seq (.observe h.events) ?_
  refine (receiveStage_completes h hreceived).bind (receiveStage_completes hnew ?_)
  rw [recorded_apply_event, hverified]
  simp

/-- Without an accepted event in the ledger nothing stands in the way of a claim. -/
theorem claim_completes (h : Held env s envelope payload)
    (hnone : ∀ event ∈ s.records, event.kind ≠ .resumeAccepted)
    (hverified : s.recorded .digestVerified envelope) :
    Does (claim env envelope) s (s.next .resumeAccepted envelope .none).value
      [.event (s.next .resumeAccepted envelope .none)] := by
  have hname : ∀ event ∈ s.ledger.map fun event => event.normal true,
      (event.get "event").equal (.str EventKind.resumeAccepted.name) = false := by
    intro value hvalue
    obtain ⟨record, hrcd, rfl⟩ := mem_map.mp hvalue
    obtain ⟨event, hev, rfl⟩ := mem_map.mp hrcd
    rw [Value.get_normal, Value.equal_normal, Event.value, get_event, ← Bool.not_eq_true,
      Value.equal_str]
    intro heq
    have hstr := Value.str_inj.mp heq
    exact hnone event hev (EventKind.name_injective hstr)
  rw [claim]
  refine .seq (.rescue (.observe (h.persisted (.inl rfl)))) ?_
  refine .seq (.observe h.events) ?_
  rw [if_neg, List.find?_eq_none.mpr]
  · simp only [h.any, hverified, Bool.not_true, if_neg Bool.false_ne_true]
    exact append_completes h.ready.object h.events _ _
  · intro event hev
    rw [isEvent, hname event hev, Bool.false_and]
    decide
  · rw [Bool.not_eq_true, any_eq_false]
    intro event hev
    rw [hname event hev]
    simp

theorem registerCapability_completes {capability : Value}
    (hval : validateCapability env capability = .ok ()) (hnone : s.capability = none) :
    Does (registerCapability env capability) s capability [.register capability] :=
  .seq (.lift hval)
    (.seq (.observe (congrArg Except.ok hnone)) ((Completes.write _ s).bind (Completes.pure _ _)))

theorem enter_completes (h : Held env s envelope payload) {capability : Value} {reconcile : Bool}
    (hcapability : capabilityFor env s.capability envelope = .ok capability)
    (hcons : s.recorded .resumeConsumed envelope = false)
    (hrcpt : s.artifacts (wakeDir envelope) .receipt = none)
    (hinflight : s.artifacts (wakeDir envelope) .inflight = none) :
    Does (enter env envelope reconcile) s (.invoke capability)
      [.create (wakeDir envelope) .inflight (intent envelope)] := by
  rw [enter]
  refine .seq (.observe (h.persisted (.inl rfl))) ?_
  refine .seq (.observe h.events) ?_
  refine .seq (.observe hcapability) ?_
  refine .seq (.observe (congrArg Except.ok hrcpt)) ?_
  rw [h.find hcons]
  refine .seq (.observe (congrArg Except.ok hinflight)) ?_
  exact (writeOnce_completes hinflight).bind (.pure _ _)

theorem commitEvent_completes (h : Held env s envelope payload) {kind : EventKind}
    {extra : Extra} (hfr : s.recorded kind envelope = false) :
    Does (commitEvent kind envelope extra) s () [.event (s.next kind envelope extra)] := by
  rw [commitEvent]
  refine .seq (.observe h.events) ?_
  rw [h.find hfr]
  exact (append_completes h.ready.object h.events _ _).bind (.pure _ _)

def finalWrites (s : Store) (envelope receipt : Value) : List Write :=
  let extra := invocationExtra envelope receipt
  let created := s.apply (.create (wakeDir envelope) .receipt receipt)
  let started := created.next .continuationStarted envelope extra
  [.create (wakeDir envelope) .receipt receipt, .event started,
    .event ((created.apply (.event started)).next .resumeConsumed envelope extra),
    .unlink (wakeDir envelope)]

theorem finalizeReceipt_completes (h : Held env s envelope payload) {receipt : Value}
    (hextra : (invocationExtra envelope receipt).Clean)
    (hrcpt : s.artifacts (wakeDir envelope) .receipt = none)
    (hstd : s.recorded .continuationStarted envelope = false)
    (hcons : s.recorded .resumeConsumed envelope = false) :
    Does (finalizeReceipt env envelope receipt) s receipt (finalWrites s envelope receipt) := by
  have hcrtd :
      Held env (s.apply (.create (wakeDir envelope) .receipt receipt)) envelope payload :=
    h.create (by decide) (by decide)
  have hstd' := hcrtd.next .continuationStarted hextra
  rw [finalizeReceipt]
  refine .seq (.observe (h.persisted (.inl rfl))) ?_
  refine (writeOnce_completes hrcpt).bind ((commitEvent_completes hcrtd hstd).bind
    ((commitEvent_completes hstd' ?_).bind
      ((Completes.write (Write.unlink (wakeDir envelope)) _).bind (Completes.pure _ _))))
  rw [recorded_apply_event]
  show (s.recorded .resumeConsumed envelope || _) = false
  rw [hcons]
  simp

end Held

/-! ### A sample -/

/-- What the provider of an envelope needs: a capability for its target and a receipt that
passes the checks. -/
structure Served (env : Env) (envelope payload capability receipt : Value) : Prop where
  ready : Ready env envelope payload
  registered : validateCapability env capability = .ok ()
  matching : capabilityFor env (some capability) envelope = .ok capability
  validated : validateReceipt env receipt envelope capability = .ok receipt
  extra : (invocationExtra envelope receipt).Clean

def sampleId (c : Char) : String := "sha256:" ++ String.ofList (List.replicate 64 c)

def samplePayload : Value := .str "wake"

/-- A task directory with a suspension, in which every ref is a file. -/
def sampleEnv : Env where
  taskId := "TASK-1"
  root := "TASK-1"
  fileDigest _ := some (sampleId 'c')
  state := some (some (.dict [("suspension_id", .str (sampleId 'a')), ("suspension_epoch", .int 1)]
    (by decide)))
  text _ := ""

def sampleTarget : Value :=
  .dict [("coordinator_agent", .str "coordinator"), ("adapter_id", .str "adapter"),
    ("provider_id", .str "provider"), ("durable_boundary_ref", .str "boundary")] (by decide)

def sampleFields : List (String × Value) :=
  [("schema_version", .str "valp-continuation-envelope.v1"),
    ("task_id", .str "TASK-1"),
    ("suspension_id", .str (sampleId 'a')),
    ("suspension_epoch", .int 1),
    ("wake_id", .str (sampleId 'b')),
    ("wake_event_id", .str (sampleId 'd')),
    ("wake_reason", .str "completed"),
    ("accepted_state_revision", .int 1),
    ("control_contract_ref", .str "control-contract.json"),
    ("control_contract_digest", .str (sampleId 'c')),
    ("payload_ref",
      .str ("continuations/" ++ String.ofList (List.replicate 64 'b') ++ "/payload.json")),
    ("payload_digest", .str (digest samplePayload.1)),
    ("continuation_generation", .int 1),
    ("target", sampleTarget),
    ("channel", runtimeChannel)]

def sampleEnvelope : Value := .dict sampleFields (by simp [sampleFields])

theorem get_sample {field : String} {v : Value} (h : (field, v) ∈ sampleFields) :
    sampleEnvelope.get field = v :=
  Value.get_dict h

theorem valid_sample : validateEnvelope sampleEnv sampleEnvelope = .ok () := by
  decide +kernel

theorem clean_sample : sampleEnvelope.Clean := by
  refine Value.clean_dict fun field hfld => ?_
  revert field
  simp only [sampleFields, forall_mem_cons]
  refine ⟨?_, ?_, ?_, ?_, ?_, ?_, ?_, ?_, ?_, ?_, ?_, ⟨?_, clean_digest _⟩, ?_, ?_, ?_, ?_⟩
  case refine_16 => exact fun _ h => by cases h
  all_goals decide +kernel

theorem ready_sample : Ready sampleEnv sampleEnvelope samplePayload where
  valid := valid_sample
  payload := by
    rw [get_sample (v := .str (digest samplePayload.1)) (by simp [sampleFields])]
    exact Value.equal_self _
  object := rfl
  clean := clean_sample

def sampleCapability : Value :=
  .dict [("schema_version", .str "valp-continuation-capability.v1"),
    ("mode", .str "automatic_full"),
    ("adapter_id", .str "adapter"),
    ("adapter_version", .str "1"),
    ("provider_id", .str "provider"),
    ("coordinator_surface", .str "coordinator"),
    ("proof", .dict [("invocation_receipt", ⟨.bool true, rfl⟩),
      ("duplicate_suppression", ⟨.bool true, rfl⟩),
      ("identity_evidence_ref", .str "identity.json"),
      ("duplicate_suppression_evidence_ref", .str "suppression.json")] (by decide))] (by decide)

def sampleReceiptFields : List (String × Value) :=
  [("schema_version", .str "valp-continuation-invocation-receipt.v1"),
    ("task_id", sampleEnvelope.get "task_id"),
    ("suspension_id", sampleEnvelope.get "suspension_id"),
    ("suspension_epoch", sampleEnvelope.get "suspension_epoch"),
    ("wake_id", sampleEnvelope.get "wake_id"),
    ("continuation_generation", sampleEnvelope.get "continuation_generation"),
    ("idempotency_key", .str (idempotencyKey sampleEnvelope)),
    ("payload_digest", sampleEnvelope.get "payload_digest"),
    ("adapter", .dict [("id", .str "adapter"), ("version", .str "1")] (by decide)),
    ("provider", .dict [("id", .str "provider"), ("invocation_id", .str "run-1"),
      ("turn_id", .str "turn-1")] (by decide)),
    ("durable_boundary_ref", (sampleEnvelope.get "target").get "durable_boundary_ref"),
    ("identity_evidence_ref", .str "identity.json"),
    ("duplicate_suppression_ref", .str "suppression.json"),
    ("started_at", .str "start"),
    ("consumed_at", .str "end"),
    ("result", .str "consumed")]

def sampleReceipt : Value := .dict sampleReceiptFields (by simp [sampleReceiptFields])

theorem registered_sample : validateCapability sampleEnv sampleCapability = .ok () := rfl

theorem matching_sample :
    capabilityFor sampleEnv (some sampleCapability) sampleEnvelope = .ok sampleCapability := by
  have htgt : sampleEnvelope.get "target" = sampleTarget := get_sample (by simp [sampleFields])
  rw [capabilityFor, htgt]
  rfl

theorem validated_sample : validateReceipt sampleEnv sampleReceipt sampleEnvelope sampleCapability =
      .ok sampleReceipt := by
  have hchk : checkReceipt sampleEnv sampleReceipt sampleEnvelope sampleCapability = .ok () := by
    decide +kernel
  rw [validateReceipt, hchk]
  rfl

theorem served_sample :
    Served sampleEnv sampleEnvelope samplePayload sampleCapability sampleReceipt where
  ready := ready_sample
  registered := registered_sample
  matching := matching_sample
  validated := validated_sample
  extra := by
    intro field hfld
    simp only [invocationExtra, Extra.fields, mem_cons, not_mem_nil, or_false] at hfld
    rcases hfld with rfl | rfl | rfl
    · decide +kernel
    · decide +kernel
    · exact clean_digest _

end Valp.Continuation
