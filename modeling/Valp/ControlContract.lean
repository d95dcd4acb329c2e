/-
The transition contract of the installation control plane (`valp_cli/control_plane.py`).

An installation is in one of fifteen states.  A transition is an event of one of twenty
kinds; each kind has the message that asks for it, the principal that may send it, the state
it leads to and the fields of the state document that its payload sets.  Messages, events and
state documents are JSON objects, read as Python reads them.

* `lawful_iff` — **what `validate_transition_contract` accepts**, as the structure `Lawful`.
-/
import Valp.DispatchOrder

namespace Valp.Control

open Json (Value)
open Dispatch (iterate listOf)
open Kernel (bind_eq_ok)

/-- What a call raises: a `ControlPlaneError` with its code, its text and its state effect, or
an exception of another class. -/
inductive Fault where
  | control (code message stateEffect : String)
  | python (name : String)
  deriving DecidableEq, Repr

/-- A `ControlPlaneError` without a state effect. -/
def refusal (code message : String) : Fault := .control code message "no_state_change"

def inconsistent (message : String) : Fault := refusal "VALP-E-REGISTRY-CONSISTENCY" message

/-- `if not …: raise ControlPlaneError("VALP-E-REGISTRY-CONSISTENCY", message)`. -/
def require (condition : Bool) (message : String) : Except Fault Unit :=
  if condition then .ok () else .error (inconsistent message)

theorem require_eq_ok {condition : Bool} {message : String} {u : Unit} :
    require condition message = .ok u ↔ condition := by
  rw [require]
  split
  · exact iff_of_true rfl ‹_›
  · exact iff_of_false nofun ‹_›

/-! ### States of an installation -/

/-- `INSTALLATION_STATUS`. -/
inductive Status where
  | uninitialized
  | bootstrapping
  | discoveringLeaderCandidates
  | awaitingLeaderSelection
  | awaitingLeaderStart
  | activatingLeader
  | active
  | restartingLeader
  | reconcilingCapabilities
  | rotatingLeader
  | migrating
  | rollbackRequired
  | degraded
  | blocked
  | retired
  deriving DecidableEq, Repr

def Status.name : Status → String
  | .uninitialized => "uninitialized"
  | .bootstrapping => "bootstrapping"
  | .discoveringLeaderCandidates => "discovering_leader_candidates"
  | .awaitingLeaderSelection => "awaiting_leader_selection"
  | .awaitingLeaderStart => "awaiting_leader_start"
  | .activatingLeader => "activating_leader"
  | .active => "active"
  | .restartingLeader => "restarting_leader"
  | .reconcilingCapabilities => "reconciling_capabilities"
  | .rotatingLeader => "rotating_leader"
  | .migrating => "migrating"
  | .rollbackRequired => "rollback_required"
  | .degraded => "degraded"
  | .blocked => "blocked"
  | .retired => "retired"

def Status.all : List Status :=
  [.uninitialized, .bootstrapping, .discoveringLeaderCandidates, .awaitingLeaderSelection,
    .awaitingLeaderStart, .activatingLeader, .active, .restartingLeader,
    .reconcilingCapabilities, .rotatingLeader, .migrating, .rollbackRequired, .degraded, .blocked,
    .retired]

def Status.ofName? (name : String) : Option Status := Status.all.find? fun s => s.name == name

theorem Status.ofName?_name (s : Status) : Status.ofName? s.name = some s := by
  cases s <;> decide

theorem Status.ofName?_eq_some {name : String} {s : Status} :
    Status.ofName? name = some s ↔ name = s.name := by
  constructor
  · intro h
    have hname := List.find?_some h
    exact (beq_iff_eq.mp hname).symm
  · rintro rfl
    exact Status.ofName?_name s

theorem Status.name_injective {s t : Status} (h : s.name = t.name) : s = t := by
  have hs := Status.ofName?_name s
  rw [h, Status.ofName?_name] at hs
  exact (Option.some.inj hs).symm

def legalTransitions : Status → List Status
  | .uninitialized => [.bootstrapping]
  | .bootstrapping => [.discoveringLeaderCandidates, .blocked]
  | .discoveringLeaderCandidates => [.awaitingLeaderSelection, .blocked]
  | .awaitingLeaderSelection => [.discoveringLeaderCandidates, .awaitingLeaderStart, .blocked]
  | .awaitingLeaderStart => [.activatingLeader, .blocked]
  | .activatingLeader => [.active, .blocked]
  | .active => [.restartingLeader, .reconcilingCapabilities, .migrating, .rotatingLeader,
      .degraded, .blocked, .retired]
  | .restartingLeader => [.active, .blocked]
  | .reconcilingCapabilities => [.active, .degraded, .blocked]
  | .rotatingLeader => [.active, .blocked]
  | .migrating => [.active, .rollbackRequired, .blocked]
  | .rollbackRequired => [.active, .blocked]
  | .degraded => [.reconcilingCapabilities, .rotatingLeader, .migrating, .blocked, .retired]
  | .blocked => [.activatingLeader, .active, .retired]
  | .retired => []

/-- `LEGAL_TRANSITIONS.get(str(status), set())`; only a string has the text of a status. -/
def legalFrom (status : Value) : List Status :=
  match status.1 with
  | .str s => (Status.ofName? s).elim [] legalTransitions
  | _ => []

/-! ### Kinds of events -/

/-- The keys of `TRANSITION_CONTRACTS`. -/
inductive EventKind where
  | installationInitialized
  | bootstrapDiscoveryStarted
  | leaderCandidateDiscoveryCompleted
  | leaderSelectionApproved
  | leaderStartRequested
  | leaderStartRecoveryApproved
  | leaderRestartRequested
  | leaderRestartRolledBack
  | leaderActivationFailed
  | leaderHealthFailed
  | leaderActivated
  | leaderRotationApproved
  | emergencyLeaderRotationApproved
  | leaderRotationCompleted
  | capabilityReconciliationStarted
  | capabilityReconciliationCompleted
  | migrationApplyApproved
  | migrationActivated
  | migrationRolledBack
  | migrationUnrecoverable
  deriving DecidableEq, Repr

namespace EventKind

def name : EventKind → String
  | .installationInitialized => "installation_initialized"
  | .bootstrapDiscoveryStarted => "bootstrap_discovery_started"
  | .leaderCandidateDiscoveryCompleted => "leader_candidate_discovery_completed"
  | .leaderSelectionApproved => "leader_selection_approved"
  | .leaderStartRequested => "leader_start_requested"
  | .leaderStartRecoveryApproved => "leader_start_recovery_approved"
  | .leaderRestartRequested => "leader_restart_requested"
  | .leaderRestartRolledBack => "leader_restart_rolled_back"
  | .leaderActivationFailed => "leader_activation_failed"
  | .leaderHealthFailed => "leader_health_failed"
  | .leaderActivated => "leader_activated"
  | .leaderRotationApproved => "leader_rotation_approved"
  | .emergencyLeaderRotationApproved => "emergency_leader_rotation_approved"
  | .leaderRotationCompleted => "leader_rotation_completed"
  | .capabilityReconciliationStarted => "capability_reconciliation_started"
  | .capabilityReconciliationCompleted => "capability_reconciliation_completed"
  | .migrationApplyApproved => "migration_apply_approved"
  | .migrationActivated => "migration_activated"
  | .migrationRolledBack => "migration_rolled_back"
  | .migrationUnrecoverable => "migration_unrecoverable"

def all : List EventKind :=
  [.installationInitialized, .bootstrapDiscoveryStarted, .leaderCandidateDiscoveryCompleted,
    .leaderSelectionApproved, .leaderStartRequested, .leaderStartRecoveryApproved,
    .leaderRestartRequested, .leaderRestartRolledBack, .leaderActivationFailed,
    .leaderHealthFailed, .leaderActivated, .leaderRotationApproved,
    .emergencyLeaderRotationApproved, .leaderRotationCompleted, .capabilityReconciliationStarted,
    .capabilityReconciliationCompleted, .migrationApplyApproved, .migrationActivated,
    .migrationRolledBack, .migrationUnrecoverable]

def ofName? (name : String) : Option EventKind := all.find? fun k => k.name == name

theorem ofName?_name (k : EventKind) : ofName? k.name = some k := by
  cases k <;> decide

variable {k : EventKind}

theorem ofName?_eq_some {name : String} : ofName? name = some k ↔ name = k.name := by
  constructor
  · intro h
    have hname := List.find?_some h
    exact (beq_iff_eq.mp hname).symm
  · rintro rfl
    exact ofName?_name k

theorem name_injective {j : EventKind} (h : k.name = j.name) : k = j := by
  have hk := ofName?_name k
  rw [h, ofName?_name] at hk
  exact (Option.some.inj hk).symm

/-- `TRANSITION_CONTRACTS.get(str(v or ""))`; only a string has the text of a kind. -/
def ofValue? (v : Value) : Option EventKind :=
  match v.1 with
  | .str s => ofName? s
  | _ => none

variable {v : Value}

theorem ofValue?_eq_some : ofValue? v = some k ↔ v = .str k.name := by
  obtain ⟨v, hv⟩ := v
  cases v with
  | str s =>
    show ofName? s = some k ↔ _
    rw [ofName?_eq_some]
    exact ⟨fun h => h ▸ rfl, Value.str_inj.mp⟩
  | _ =>
    refine iff_of_false nofun fun h => ?_
    cases congrArg Subtype.val h

end EventKind

/-- The principal kinds of `TRANSITION_CONTRACTS`. -/
inductive Sender where
  | bootstrapController
  | human
  | runtimeAdapter
  | installationLeader
  deriving DecidableEq, Repr

def Sender.name : Sender → String
  | .bootstrapController => "bootstrap-controller"
  | .human => "human"
  | .runtimeAdapter => "runtime-adapter"
  | .installationLeader => "installation-leader"

/-- The message kind of `TRANSITION_CONTRACTS`. -/
def EventKind.messageKind : EventKind → String
  | .installationInitialized => "command.installation.init"
  | .bootstrapDiscoveryStarted => "command.bootstrap.discover_candidates"
  | .leaderCandidateDiscoveryCompleted => "result.bootstrap.discovery"
  | .leaderSelectionApproved => "command.leader.select"
  | .leaderStartRequested => "command.leader.start"
  | .leaderStartRecoveryApproved => "command.leader.recover_start"
  | .leaderRestartRequested => "command.leader.restart"
  | .leaderRestartRolledBack => "result.leader.restart_rolled_back"
  | .leaderActivationFailed => "result.leader.activation_failed"
  | .leaderHealthFailed => "result.leader.health_failed"
  | .leaderActivated => "event.leader.activated"
  | .leaderRotationApproved => "command.leader.rotate"
  | .emergencyLeaderRotationApproved => "command.leader.rotate_emergency"
  | .leaderRotationCompleted => "event.leader.rotation_completed"
  | .capabilityReconciliationStarted => "command.capabilities.reconcile"
  | .capabilityReconciliationCompleted => "result.capabilities.reconcile"
  | .migrationApplyApproved => "command.protocol.migrate"
  | .migrationActivated => "event.protocol.migration.activated"
  | .migrationRolledBack => "event.protocol.migration.rolled_back"
  | .migrationUnrecoverable => "event.protocol.migration.blocked"

/-- The principal kind of `TRANSITION_CONTRACTS`. -/
def EventKind.sender : EventKind → Sender
  | .installationInitialized | .bootstrapDiscoveryStarted | .leaderCandidateDiscoveryCompleted
  | .leaderStartRequested | .leaderActivated | .leaderRotationCompleted | .migrationActivated
  | .migrationRolledBack | .migrationUnrecoverable => .bootstrapController
  | .leaderSelectionApproved | .leaderStartRecoveryApproved | .leaderRestartRequested
  | .leaderRotationApproved | .emergencyLeaderRotationApproved | .migrationApplyApproved => .human
  | .leaderRestartRolledBack | .leaderActivationFailed | .leaderHealthFailed => .runtimeAdapter
  | .capabilityReconciliationStarted | .capabilityReconciliationCompleted => .installationLeader

/-- `TRANSITION_TARGETS`. -/
def EventKind.target : EventKind → Status
  | .installationInitialized => .bootstrapping
  | .bootstrapDiscoveryStarted => .discoveringLeaderCandidates
  | .leaderCandidateDiscoveryCompleted => .awaitingLeaderSelection
  | .leaderSelectionApproved => .awaitingLeaderStart
  | .leaderStartRequested => .activatingLeader
  | .leaderStartRecoveryApproved => .activatingLeader
  | .leaderRestartRequested => .restartingLeader
  | .leaderRestartRolledBack => .active
  | .leaderActivationFailed => .blocked
  | .leaderHealthFailed => .degraded
  | .leaderActivated => .active
  | .leaderRotationApproved => .rotatingLeader
  | .emergencyLeaderRotationApproved => .rotatingLeader
  | .leaderRotationCompleted => .active
  | .capabilityReconciliationStarted => .reconcilingCapabilities
  | .capabilityReconciliationCompleted => .active
  | .migrationApplyApproved => .migrating
  | .migrationActivated => .active
  | .migrationRolledBack => .active
  | .migrationUnrecoverable => .blocked

/-- `protected_state_fields`. -/
def protectedFields : List String :=
  ["active_leader", "selected_leader", "active_leader_epoch", "registry_revision"]

/-- `TRANSITION_PAYLOAD_STATE_FIELDS`. -/
def EventKind.payloadFields : EventKind → List String
  | .leaderSelectionApproved | .leaderRotationApproved | .emergencyLeaderRotationApproved =>
    ["selected_leader"]
  | .leaderActivated | .leaderRotationCompleted => ["active_leader", "active_leader_epoch"]
  | .capabilityReconciliationCompleted => ["registry_revision"]
  | _ => []

theorem EventKind.payloadFields_protected (k : EventKind) :
    ∀ f ∈ k.payloadFields, f ∈ protectedFields := by
  cases k <;> decide

/-! ### The contract -/

/-- The principal that holds the authority of a sender. -/
def Sender.principal (projection : Value) : Sender → Value
  | .bootstrapController => .str "bootstrap-controller"
  | .human => .str "user"
  | .runtimeAdapter => .str "reference-runtime-adapter"
  | .installationLeader =>
    let activeLeader := projection.get "active_leader"
    if activeLeader.isObject then activeLeader.get "principal_id" else .null

/-- `prior_state.get("revision", -1) + 1`. -/
def nextRevision (prior : Value) : Except Fault Value :=
  if prior.has "revision" then
    match (prior.get "revision").asInt with
    | some n => .ok (.int (n + 1))
    | none => .error (.python "TypeError")
  else .ok (.int 0)

/-- `list(payload.get("active_blockers") or [event_kind])`. -/
def blockersOf (eventKind : String) (payload : Value) : Except Fault Value :=
  let blockers := payload.get "active_blockers"
  if blockers.truthy then
    ((iterate blockers).mapError fun _ => .python "TypeError").map listOf
  else .ok (listOf [.str eventKind])

/-- The states that are reached with no blocker left. -/
def clearsBlockers (target : Status) : Bool :=
  [.active, .awaitingLeaderSelection, .awaitingLeaderStart,
    .discoveringLeaderCandidates].contains target

/-- `active_blockers` behind a transition. -/
def expectedBlockers (eventKind : String) (target : Status) (payload prior : Value) :
    Except Fault Value :=
  if target = .blocked then blockersOf eventKind payload
  else if clearsBlockers target then .ok (listOf [])
  else .ok (prior.get "active_blockers")

/-- The replay still accepts a restart that was asked for in the state `blocked`. -/
def legacyRestart (legacy : Bool) (kind : EventKind) (prior : Value) : Bool :=
  legacy && decide (kind = .leaderRestartRequested) &&
    (prior.get "status").equal (.str Status.blocked.name)

def payloadStateFields (legacy : Bool) (kind : EventKind) (payload : Value) : List String :=
  if legacy && decide (kind = .leaderRestartRequested) && payload.has "selected_leader" then
    "selected_leader" :: kind.payloadFields
  else kind.payloadFields

/-- `allowed_changes` without the fields of the payload. -/
def allowedChanges : List String :=
  ["revision", "status", "updated_at", "last_event_id", "last_event_digest", "projection_digest",
    "active_blockers"]

/-- `validate_transition_contract` for an event of a known kind. -/
def validateKind (legacy : Bool) (kind : EventKind) (message event projection prior : Value) :
    Except Fault Unit := do
  require ((message.get "kind").equal (.str kind.messageKind) &&
      (message.get "sender_kind").equal (.str kind.sender.name))
    "Transition event, message, and principal kind are not a declared contract"
  let principal := kind.sender.principal projection
  require (principal.truthy && (message.get "sender_principal_id").equal principal &&
      (event.get "actor_principal_id").equal principal)
    "Transition principal does not hold the declared authority"
  let payload := message.get "payload"
  require (payload.isObject && (projection.get "status").equal (.str kind.target.name) &&
      ((legalFrom (prior.get "status")).contains kind.target || legacyRestart legacy kind prior) &&
      (event.get "prior_revision").equal (prior.get "revision"))
    "Transition source, target, revision, or event binding violates its contract"
  let revision ← nextRevision prior
  require ((projection.get "revision").equal revision &&
      (projection.get "last_event_id").equal (event.get "event_id") &&
      (projection.get "last_event_digest").equal (event.get "prior_event_digest") &&
      (projection.get "updated_at").equal (event.get "occurred_at"))
    "Transition source, target, revision, or event binding violates its contract"
  let declared := payloadStateFields legacy kind payload
  require (protectedFields.all fun field => !payload.has field || declared.contains field ||
      ((payload.get field).equal (prior.get field) &&
        (projection.get field).equal (prior.get field)))
    "Transition payload attempts an undeclared authority-state mutation"
  require (declared.all fun field =>
      payload.has field && (projection.get field).equal (payload.get field))
    "Transition payload does not bind its declared state mutation"
  let blockers ← expectedBlockers kind.name kind.target payload prior
  require ((projection.get "active_blockers").equal blockers)
    "Transition blocker projection violates its contract"
  require ((prior.keys ++ projection.keys).all fun field =>
      (prior.get field).equal (projection.get field) || (allowedChanges ++ declared).contains field)
    "Transition projection changes undeclared state fields"

def validateTransitionContract (legacy : Bool) (message event projection prior : Value) :
    Except Fault Unit :=
  match EventKind.ofValue? (event.get "event_kind") with
  | some kind => validateKind legacy kind message event projection prior
  | none => .error (inconsistent
      "Transition event, message, and principal kind are not a declared contract")

/-- **What the contract asks of a transition of one kind.** -/
@[mk_iff lawful_def]
structure Lawful (legacy : Bool) (kind : EventKind) (message event projection prior : Value) :
    Prop where
  event_kind : event.get "event_kind" = .str kind.name
  message_kind : message.get "kind" = .str kind.messageKind
  sender_kind : message.get "sender_kind" = .str kind.sender.name
  principal : (kind.sender.principal projection).truthy = true
  sender : (message.get "sender_principal_id").equal (kind.sender.principal projection) = true
  actor : (event.get "actor_principal_id").equal (kind.sender.principal projection) = true
  payload : (message.get "payload").isObject = true
  status : projection.get "status" = .str kind.target.name
  legal : kind.target ∈ legalFrom (prior.get "status") ∨ legacyRestart legacy kind prior = true
  prior_revision : (event.get "prior_revision").equal (prior.get "revision") = true
  revision : ∃ n, nextRevision prior = .ok n ∧ (projection.get "revision").equal n = true
  event_id : (projection.get "last_event_id").equal (event.get "event_id") = true
  event_digest : (projection.get "last_event_digest").equal (event.get "prior_event_digest") = true
  updated_at : (projection.get "updated_at").equal (event.get "occurred_at") = true
  asserted : ∀ f ∈ protectedFields, (message.get "payload").has f = true →
    f ∉ payloadStateFields legacy kind (message.get "payload") →
    ((message.get "payload").get f).equal (prior.get f) = true ∧
      (projection.get f).equal (prior.get f) = true
  declared : ∀ f ∈ payloadStateFields legacy kind (message.get "payload"),
    (message.get "payload").has f = true ∧
      (projection.get f).equal ((message.get "payload").get f) = true
  blockers : ∃ b, expectedBlockers kind.name kind.target (message.get "payload") prior = .ok b ∧
    (projection.get "active_blockers").equal b = true
  unchanged : ∀ f, f ∉ allowedChanges → f ∉ payloadStateFields legacy kind (message.get "payload") →
    (prior.get f).equal (projection.get f) = true

section Contract

variable {legacy : Bool} {kind : EventKind} {message event projection prior : Value}

/-- A field that neither of two documents has does not differ. -/
theorem forall_keys_iff {fields : List String} {v w : Value} :
    (∀ f ∈ v.keys ++ w.keys, (v.get f).equal (w.get f) ∨ f ∈ fields) ↔
      ∀ f, f ∉ fields → (v.get f).equal (w.get f) := by
  constructor
  · intro h f hf
    by_cases hmem : f ∈ v.keys ++ w.keys
    · exact (h f hmem).resolve_right hf
    rw [List.mem_append, not_or, Value.mem_keys_iff, Value.mem_keys_iff] at hmem
    have hnone : ∀ u : Value, ¬ u.has f → u.get f = .null := fun u hu =>
      Value.get_of_none (Option.not_isSome_iff_eq_none.mp hu)
    rw [hnone v hmem.1, hnone w hmem.2]
    exact Value.equal_self _
  · intro h f _
    by_cases hf : f ∈ fields
    · exact .inr hf
    · exact .inl (h f hf)

theorem validateKind_iff (hkind : event.get "event_kind" = .str kind.name) :
    validateKind legacy kind message event projection prior = .ok () ↔
      Lawful legacy kind message event projection prior := by
  simp only [validateKind, bind_eq_ok, require_eq_ok, exists_const, Bool.and_eq_true,
    Bool.or_eq_true, List.all_eq_true, Value.equal_str, List.contains_iff_mem, Bool.not_eq_true',
    forall_keys_iff]
  rw [lawful_def]
  grind

/-- **What `validate_transition_contract` accepts.** -/
theorem lawful_iff : validateTransitionContract legacy message event projection prior = .ok () ↔
    ∃ kind, Lawful legacy kind message event projection prior := by
  rw [validateTransitionContract]
  cases hkind : EventKind.ofValue? (event.get "event_kind") with
  | none =>
    refine iff_of_false nofun ?_
    rintro ⟨kind, h⟩
    rw [EventKind.ofValue?_eq_some.mpr h.event_kind] at hkind
    cases hkind
  | some kind =>
    have hkind := EventKind.ofValue?_eq_some.mp hkind
    refine (validateKind_iff hkind).trans ⟨fun h => ⟨kind, h⟩, ?_⟩
    rintro ⟨other, h⟩
    have hname := Value.str_inj.mp (hkind.symm.trans h.event_kind)
    rwa [EventKind.name_injective hname]

theorem principal_congr {w : Value}
    (h : (v.get "active_leader").equal (w.get "active_leader")) (sender : Sender) :
    (sender.principal v).equal (sender.principal w) := by
  cases sender with
  | installationLeader =>
    simp only [Sender.principal, Value.equal_isObject h]
    split
    · exact Value.equal_get h _
    · exact Value.equal_self _
  | _ => exact Value.equal_self _

end Contract

end Valp.Control
