/-
Receipts and receipt ledgers (`valp_cli/protocol_receipts.py`).

A writer proposes a `ReceiptDraft`; the receipt that is stored adds the revision of the
ledger and a digest over its canonical text.  The canonical text lists the proof bindings
in the order of their own texts, so two drafts that list them differently are written
alike.  `canonical_json`, `digest` and `_is_digest` are the functions of the Kernel.

The fields are typed as the source declares them.  One value of another type passes every
check of the source: JSON has a literal `true`, which Python compares and subtracts like
`1`, and `ledger_revision` is checked by comparison only (`Revision`).

* `ProtocolReceipt.canonical_injective` — what the text of a receipt determines;
* `draftValid_of_perm` — the order of the proof bindings is immaterial to `_receipt_valid`;
* `eq_makeReceipt` — a valid receipt is what `_make_receipt` makes of its draft, up to the
  type of its revision.
-/
import Valp.KernelCanonical

namespace Valp.Receipts

open Kernel (Closed canonicalJson digest isDigest protocolVersion int_injective str_injective
  strings_injective map_sortKeys_injective canonicalJson_injective)
open List

/-! ### Vocabularies -/

def receiptSchemaVersion : String := "valp-dispatch-receipt.v3"

/-- The error codes of `propose_receipt_append`. -/
inductive ReceiptErrorCode where
  | migrationUnsupported
  | stateConflict
  | idempotencyConflict
  deriving DecidableEq, Repr

inductive ReceiptMode where
  | full | remote | manual
  deriving DecidableEq, Repr

def ReceiptMode.value : ReceiptMode → String
  | .full => "full"
  | .remote => "remote"
  | .manual => "manual"

inductive ReceiptProofKind where
  | processBound | contentBound | manualAttested | transportOnly
  deriving DecidableEq, Repr

def ReceiptProofKind.value : ReceiptProofKind → String
  | .processBound => "process_bound"
  | .contentBound => "content_bound"
  | .manualAttested => "manual_attested"
  | .transportOnly => "transport_only"

theorem ReceiptMode.value_injective : Function.Injective ReceiptMode.value := by
  intro a b
  cases a <;> cases b <;> decide

theorem ReceiptProofKind.value_injective : Function.Injective ReceiptProofKind.value := by
  intro a b
  cases a <;> cases b <;> decide

def receiptEvents : List String :=
  ["dispatch_written", "dispatch_inserted", "dispatch_submitted", "dispatch_completed",
    "dispatch_blocked", "dispatch_superseded", "manual_dispatch_written",
    "manual_delivery_attested", "manual_result_attested", "manual_blocked"]

def manualEvents : List String :=
  ["manual_dispatch_written", "manual_delivery_attested", "manual_result_attested",
    "manual_blocked"]

def terminalEvents : List String :=
  ["dispatch_completed", "dispatch_blocked", "manual_result_attested", "manual_blocked"]

def roles : List String :=
  ["coordinator", "implementer", "reviewer", "prototype", "researcher", "other"]

def emptyReceiptLedgerDigest : String :=
  digest (.record [
    ("receipts", some (.arr [])),
    ("schema_version", some (.str "valp-receipt-ledger-prefix.v1"))])

def isSafeRef (value : String) : Bool :=
  value != "" && !(['/'].isPrefixOf value.toList) && !value.toList.contains '\\' &&
    !value.toList.contains ':' &&
    (value.toList.splitOn '/').all fun part => part ≠ [] ∧ part ≠ ['.'] ∧ part ≠ ['.', '.']

/-! ### Records -/

structure ProofBinding where
  proofKind : Closed ReceiptProofKind
  proofRef : String
  proofDigest : String
  subjectDigest : String
  deriving DecidableEq

def ProofBinding.canonical (binding : ProofBinding) : Json :=
  .record [
    ("proof_kind", some (.str (binding.proofKind.text ReceiptProofKind.value))),
    ("proof_ref", some (.str binding.proofRef)),
    ("proof_digest", some (.str binding.proofDigest)),
    ("subject_digest", some (.str binding.subjectDigest))]

structure ApprovalBinding where
  status : String
  policyDigest : String
  approvalId : Option String := none
  approvalRef : Option String := none
  approvalDigest : Option String := none
  actionDigest : Option String := none
  deriving DecidableEq

def ApprovalBinding.canonical (binding : ApprovalBinding) : Json :=
  .record [
    ("status", some (.str binding.status)),
    ("policy_digest", some (.str binding.policyDigest)),
    ("approval_id", binding.approvalId.map .str),
    ("approval_ref", binding.approvalRef.map .str),
    ("approval_digest", binding.approvalDigest.map .str),
    ("action_digest", binding.actionDigest.map .str)]

structure MigrationBinding where
  migrationId : String
  sourceSchemaVersion : String
  sourceReceiptDigest : String
  reconciliationEvidenceDigest : String
  deriving DecidableEq

def MigrationBinding.canonical (binding : MigrationBinding) : Json :=
  .record [
    ("migration_id", some (.str binding.migrationId)),
    ("source_schema_version", some (.str binding.sourceSchemaVersion)),
    ("source_receipt_digest", some (.str binding.sourceReceiptDigest)),
    ("reconciliation_evidence_digest", some (.str binding.reconciliationEvidenceDigest))]

structure ReceiptDraft where
  receiptId : String
  installationId : String
  leaderEpoch : Int
  taskId : String
  agent : String
  role : String
  workItemId : String
  attemptId : String
  dispatchId : String
  dispatchGeneration : Int
  mode : Closed ReceiptMode
  eventSequence : Int
  expectedRevision : Int
  priorReceiptDigest : String
  event : String
  ts : String
  dispatchRef : String
  payloadDigest : String
  expectedRefs : List String
  proofBindings : List ProofBinding
  approvalBinding : ApprovalBinding
  retryGeneration : Option Int := none
  suspensionEpoch : Option Int := none
  migrationBinding : Option MigrationBinding := none
  deriving DecidableEq

/-- A value of an optional integer field, with `None` as `null`. -/
def nullable (n : Option Int) : Json := n.elim .null .int

def receiptSubjectDigest (draft : ReceiptDraft) : String :=
  digest (.record [
    ("protocol_version", some (.str protocolVersion)),
    ("receipt_id", some (.str draft.receiptId)),
    ("installation_id", some (.str draft.installationId)),
    ("leader_epoch", some (.int draft.leaderEpoch)),
    ("task_id", some (.str draft.taskId)),
    ("agent", some (.str draft.agent)),
    ("role", some (.str draft.role)),
    ("work_item_id", some (.str draft.workItemId)),
    ("attempt_id", some (.str draft.attemptId)),
    ("dispatch_id", some (.str draft.dispatchId)),
    ("dispatch_generation", some (.int draft.dispatchGeneration)),
    ("retry_generation", some (nullable draft.retryGeneration)),
    ("mode", some (.str (draft.mode.text ReceiptMode.value))),
    ("event_sequence", some (.int draft.eventSequence)),
    ("expected_revision", some (.int draft.expectedRevision)),
    ("prior_receipt_digest", some (.str draft.priorReceiptDigest)),
    ("event", some (.str draft.event)),
    ("suspension_epoch", some (nullable draft.suspensionEpoch)),
    ("payload_digest", some (.str draft.payloadDigest)),
    ("expected_refs", some (.arr (draft.expectedRefs.map .str)))])

/-- A `ledger_revision`: an integer, or a `bool`, which is one to Python. -/
inductive Revision where
  | int (n : Int)
  | bool (b : Bool)
  deriving DecidableEq

/-- The integer that `==` and `-` see. -/
def Revision.value : Revision → Int
  | .int n => n
  | .bool true => 1
  | .bool false => 0

def Revision.canonical : Revision → Json
  | .int n => .int n
  | .bool b => .bool b

structure ProtocolReceipt where
  draft : ReceiptDraft
  ledgerRevision : Revision
  receiptDigest : String
  deriving DecidableEq

/-- `sorted(draft.proof_bindings, key=…)`. -/
def sortBindings (bindings : List ProofBinding) : List ProofBinding :=
  bindings.insertionSort fun a b => canonicalJson a.canonical ≤ canonicalJson b.canonical

/-- The items of `canonical_without_digest`. -/
def ProtocolReceipt.fields (receipt : ProtocolReceipt) : List (String × Option Json) := [
    ("schema_version", some (.str receiptSchemaVersion)),
    ("protocol_version", some (.str protocolVersion)),
    ("receipt_id", some (.str receipt.draft.receiptId)),
    ("installation_id", some (.str receipt.draft.installationId)),
    ("leader_epoch", some (.int receipt.draft.leaderEpoch)),
    ("task_id", some (.str receipt.draft.taskId)),
    ("agent", some (.str receipt.draft.agent)),
    ("role", some (.str receipt.draft.role)),
    ("work_item_id", some (.str receipt.draft.workItemId)),
    ("attempt_id", some (.str receipt.draft.attemptId)),
    ("dispatch_id", some (.str receipt.draft.dispatchId)),
    ("dispatch_generation", some (.int receipt.draft.dispatchGeneration)),
    ("mode", some (.str (receipt.draft.mode.text ReceiptMode.value))),
    ("event_sequence", some (.int receipt.draft.eventSequence)),
    ("ledger_revision", some receipt.ledgerRevision.canonical),
    ("event", some (.str receipt.draft.event)),
    ("ts", some (.str receipt.draft.ts)),
    ("dispatch_ref", some (.str receipt.draft.dispatchRef)),
    ("payload_digest", some (.str receipt.draft.payloadDigest)),
    ("expected_refs", some (.arr (receipt.draft.expectedRefs.map .str))),
    ("proof_bindings", some (.arr
      ((sortBindings receipt.draft.proofBindings).map ProofBinding.canonical))),
    ("approval_binding", some receipt.draft.approvalBinding.canonical),
    ("prior_receipt_digest", some (.str receipt.draft.priorReceiptDigest)),
    ("retry_generation", receipt.draft.retryGeneration.map .int),
    ("suspension_epoch", receipt.draft.suspensionEpoch.map .int),
    ("migration_binding", receipt.draft.migrationBinding.map MigrationBinding.canonical)]

def ProtocolReceipt.canonicalWithoutDigest (receipt : ProtocolReceipt) : Json :=
  .record receipt.fields

def ProtocolReceipt.canonical (receipt : ProtocolReceipt) : Json :=
  .record (("receipt_digest", some (.str receipt.receiptDigest)) :: receipt.fields)

/-- `==` of two receipts. -/
def ProtocolReceipt.same (a b : ProtocolReceipt) : Bool :=
  a.draft == b.draft && a.ledgerRevision.value == b.ledgerRevision.value &&
    a.receiptDigest == b.receiptDigest

structure ReceiptLedger where
  installationId : String
  leaderEpoch : Int
  taskId : String
  revision : Int := 0
  receipts : List ProtocolReceipt := []
  deriving DecidableEq

def ReceiptLedger.tailDigest (ledger : ReceiptLedger) : String :=
  match ledger.receipts.getLast? with
  | some receipt => receipt.receiptDigest
  | none => emptyReceiptLedgerDigest

/-- `==` of two ledgers. -/
def ReceiptLedger.same (a b : ReceiptLedger) : Bool :=
  a.installationId == b.installationId && a.leaderEpoch == b.leaderEpoch &&
    a.taskId == b.taskId && a.revision == b.revision &&
    a.receipts.isEqv b.receipts ProtocolReceipt.same

structure ReceiptWriteAccepted where
  ledger : ReceiptLedger
  receipt : ProtocolReceipt
  obligations : List String

/-- `==` of two accepted writes. -/
def ReceiptWriteAccepted.same (a b : ReceiptWriteAccepted) : Bool :=
  a.ledger.same b.ledger && a.receipt.same b.receipt && a.obligations == b.obligations

/-- `ReceiptWriteResult`, one constructor for each of its variants. -/
inductive ReceiptWriteResult where
  | accepted (write : ReceiptWriteAccepted)
  | noOp (ledger : ReceiptLedger) (priorReceipt : ProtocolReceipt)
  | rejected (ledger : ReceiptLedger) (errorCode : ReceiptErrorCode)

/-! ### Validators -/

def proofBindingValid (subject : String) (binding : ProofBinding) : Bool :=
  binding.proofKind.isKnown && isSafeRef binding.proofRef && isDigest binding.proofDigest &&
    binding.subjectDigest == subject

def approvalBindingValid (binding : ApprovalBinding) (subject : String) : Bool :=
  isDigest binding.policyDigest &&
    if binding.status = "not_required" then
      binding.approvalId.isNone && binding.approvalRef.isNone && binding.approvalDigest.isNone &&
        binding.actionDigest.isNone
    else
      binding.status == "granted" && binding.approvalId.any (· != "") &&
        binding.approvalRef.any isSafeRef && binding.approvalDigest.any isDigest &&
        binding.actionDigest == some subject

section

variable (draft : ReceiptDraft)

/-- The check of the fields in `_receipt_valid`, without that of the revision. -/
def fieldsValid : Bool :=
  draft.mode.isKnown && receiptEvents.contains draft.event && roles.contains draft.role &&
    [draft.receiptId, draft.installationId, draft.taskId, draft.agent, draft.workItemId,
      draft.attemptId, draft.dispatchId, draft.ts].all (· != "") &&
    decide (0 ≤ draft.leaderEpoch) && decide (1 ≤ draft.dispatchGeneration) &&
    decide (1 ≤ draft.eventSequence) && decide (0 ≤ draft.expectedRevision) &&
    isDigest draft.priorReceiptDigest && isDigest draft.payloadDigest &&
    isSafeRef draft.dispatchRef &&
    approvalBindingValid draft.approvalBinding (receiptSubjectDigest draft) &&
    draft.expectedRefs.all isSafeRef && decide draft.expectedRefs.Nodup &&
    draft.retryGeneration.all (fun n => decide (1 ≤ n)) &&
    (terminalEvents.contains draft.event == draft.suspensionEpoch.isSome) &&
    draft.suspensionEpoch.all (fun n => decide (1 ≤ n))

/-- The check of the proof bindings there. -/
def bindingsValid : Bool :=
  draft.proofBindings != [] &&
    draft.proofBindings.all (proofBindingValid (receiptSubjectDigest draft)) &&
    decide (draft.proofBindings.map fun item => canonicalJson item.canonical).Nodup

/-- The proofs that `_receipt_valid` asks for in a mode. -/
def modeProofsValid : Bool :=
  let proofKinds := draft.proofBindings.map ProofBinding.proofKind
  if draft.mode = .known .manual then
    (manualEvents.contains draft.event && proofKinds.contains (.known .manualAttested)) ||
      (draft.event == "dispatch_inserted" && proofKinds.all (· == .known .transportOnly))
  else !manualEvents.contains draft.event

/-- `draft.event in {"dispatch_submitted", "dispatch_completed"}`. -/
def isDelivery : Bool :=
  ["dispatch_submitted", "dispatch_completed"].contains draft.event

/-- The proofs that `_receipt_valid` asks for with an event. -/
def deliveryProofsValid : Bool :=
  let proofKinds := draft.proofBindings.map ProofBinding.proofKind
  let requiredProofs := draft.proofBindings.filter fun item =>
    [.known .processBound, .known .contentBound].contains item.proofKind
  !isDelivery draft ||
    proofKinds.contains (.known .processBound) && proofKinds.contains (.known .contentBound) &&
      decide (requiredProofs.map ProofBinding.proofRef).Nodup &&
      decide (requiredProofs.map ProofBinding.proofDigest).Nodup &&
      !proofKinds.contains (.known .transportOnly)

end

/-- The check of the migration binding there. -/
def migrationValid (migration : MigrationBinding) : Bool :=
  migration.migrationId != "" &&
    ["legacy", "valp-dispatch-receipt.v2"].contains migration.sourceSchemaVersion &&
    isDigest migration.sourceReceiptDigest && isDigest migration.reconciliationEvidenceDigest

/-- What `_receipt_valid` asks of the draft alone. -/
def draftValid (draft : ReceiptDraft) : Bool :=
  fieldsValid draft && bindingsValid draft && modeProofsValid draft &&
    deliveryProofsValid draft && draft.migrationBinding.all migrationValid

def receiptValid (receipt : ProtocolReceipt) : Bool :=
  draftValid receipt.draft &&
    receipt.ledgerRevision.value == receipt.draft.expectedRevision + 1 &&
    receipt.receiptDigest == digest receipt.canonicalWithoutDigest

def makeReceipt (draft : ReceiptDraft) : ProtocolReceipt :=
  let receipt : ProtocolReceipt := ⟨draft, .int (draft.expectedRevision + 1), ""⟩
  { receipt with receiptDigest := digest receipt.canonicalWithoutDigest }

def logicalKey (draft : ReceiptDraft) :
    String × String × String × String × Int × Option Int × String :=
  (draft.taskId, draft.workItemId, draft.attemptId, draft.dispatchId, draft.dispatchGeneration,
    draft.retryGeneration, draft.event)

structure SubmissionIdentity where
  installationId : String
  leaderEpoch : Int
  taskId : String
  agent : String
  role : String
  workItemId : String
  attemptId : String
  dispatchId : String
  dispatchGeneration : Int
  retryGeneration : Option Int
  mode : Closed ReceiptMode
  dispatchRef : String
  payloadDigest : String
  expectedRefs : List String
  deriving DecidableEq

def submissionIdentity (draft : ReceiptDraft) : SubmissionIdentity where
  installationId := draft.installationId
  leaderEpoch := draft.leaderEpoch
  taskId := draft.taskId
  agent := draft.agent
  role := draft.role
  workItemId := draft.workItemId
  attemptId := draft.attemptId
  dispatchId := draft.dispatchId
  dispatchGeneration := draft.dispatchGeneration
  retryGeneration := draft.retryGeneration
  mode := draft.mode
  dispatchRef := draft.dispatchRef
  payloadDigest := draft.payloadDigest
  expectedRefs := draft.expectedRefs

/-! ### The order of the proof bindings -/

theorem ProofBinding.canonical_injective {a b : ProofBinding} (ha : a.proofKind.isKnown)
    (hb : b.proofKind.isKnown) (h : a.canonical.sortKeys = b.canonical.sortKeys) :
    a = b := by
  rw [ProofBinding.canonical, ProofBinding.canonical] at h
  obtain ⟨hkind, href, hpf, hsubj, -⟩ := Json.record_injective (by rfl) (by simp) h
  cases a
  cases b
  rw [ProofBinding.mk.injEq]
  exact ⟨Kernel.Closed.text_injective ReceiptProofKind.value_injective ha hb (str_injective hkind),
    str_injective href, str_injective hpf, str_injective hsubj⟩

section

variable (bindings : List ProofBinding)

theorem sortBindings_perm : (sortBindings bindings).Perm bindings :=
  perm_insertionSort _ _

theorem sortBindings_pairwise : (sortBindings bindings).Pairwise
      fun a b => canonicalJson a.canonical ≤ canonicalJson b.canonical := by
  have : Std.Total fun a b : ProofBinding =>
      canonicalJson a.canonical ≤ canonicalJson b.canonical := ⟨fun a b => le_total _ _⟩
  have : IsTrans ProofBinding fun a b => canonicalJson a.canonical ≤ canonicalJson b.canonical :=
    ⟨fun a b c => le_trans⟩
  exact pairwise_insertionSort _ _

/-- All proof kinds are members of the vocabulary. -/
def KindsKnown : Prop :=
  ∀ binding ∈ bindings, binding.proofKind.isKnown = true

end

variable {bs cs : List ProofBinding}

theorem KindsKnown.perm (h : KindsKnown bs) (hperm : cs.Perm bs) :
    KindsKnown cs :=
  fun binding hbind => h binding (hperm.mem_iff.mp hbind)

/-- **The order in which the proof bindings are listed is lost.** -/
theorem sortBindings_eq_of_perm (hbs : KindsKnown bs)
    (h : cs.Perm bs) : sortBindings cs = sortBindings bs := by
  have hperm : (sortBindings cs).Perm (sortBindings bs) :=
    (sortBindings_perm cs).trans (h.trans (sortBindings_perm bs).symm)
  refine List.Perm.eq_of_pairwise ?_ (sortBindings_pairwise cs) (sortBindings_pairwise bs) hperm
  intro a b ha hb hab hba
  have hknown := hbs.perm (sortBindings_perm bs)
  exact ProofBinding.canonical_injective (hknown a (hperm.mem_iff.mp ha)) (hknown b hb)
    (canonicalJson_injective (le_antisymm hab hba))

/-- The draft with its proof bindings in the order of the canonical text. -/
def ReceiptDraft.sorted (draft : ReceiptDraft) : ReceiptDraft :=
  { draft with proofBindings := sortBindings draft.proofBindings }

@[inherit_doc ReceiptDraft.sorted]
def ProtocolReceipt.sorted (receipt : ProtocolReceipt) : ProtocolReceipt :=
  { receipt with draft := receipt.draft.sorted }

theorem ProtocolReceipt.sorted_sorted (receipt : ProtocolReceipt) :
    receipt.sorted.sorted = receipt.sorted := by
  have hagain : sortBindings (sortBindings receipt.draft.proofBindings) =
      sortBindings receipt.draft.proofBindings :=
    (sortBindings_pairwise receipt.draft.proofBindings).insertionSort_eq
  simp only [ProtocolReceipt.sorted, ReceiptDraft.sorted, hagain]

section Bindings

variable {draft : ReceiptDraft} {receipt : ProtocolReceipt} {bindings : List ProofBinding}

section

variable (hknown : KindsKnown receipt.draft.proofBindings)

include hknown

theorem fields_eq_of_perm (h : bindings.Perm receipt.draft.proofBindings) :
    ({ receipt with draft := { receipt.draft with proofBindings := bindings } } :
      ProtocolReceipt).fields = receipt.fields := by
  simp only [ProtocolReceipt.fields]
  rw [sortBindings_eq_of_perm hknown h]

theorem ProtocolReceipt.fields_sorted : receipt.sorted.fields = receipt.fields :=
  fields_eq_of_perm hknown (sortBindings_perm _)

theorem ProtocolReceipt.canonical_sorted : receipt.sorted.canonical = receipt.canonical := by
  rw [ProtocolReceipt.canonical, ProtocolReceipt.canonical, fields_sorted hknown]
  rfl

end

/-- **The order of the proof bindings is immaterial to the check of a draft.** -/
theorem draftValid_of_perm (h : bindings.Perm draft.proofBindings) :
    draftValid { draft with proofBindings := bindings } = draftValid draft := by
  have hne : (bindings != []) = (draft.proofBindings != []) := by
    rw [bne, bne, beq_nil_eq, beq_nil_eq, h.isEmpty_eq]
  have hks := h.map ProofBinding.proofKind
  have htexts := h.map fun item => canonicalJson item.canonical
  have hreq := h.filter fun item =>
    [.known .processBound, .known .contentBound].contains item.proofKind
  simp only [draftValid, bindingsValid, modeProofsValid, deliveryProofsValid, hne, h.all_eq,
    hks.all_eq, hks.contains_eq, htexts.nodup_iff,
    (hreq.map ProofBinding.proofRef).nodup_iff,
    (hreq.map ProofBinding.proofDigest).nodup_iff]
  rfl

end Bindings

/-! ### What the text of a receipt determines -/

theorem Revision.canonical_injective :
    Function.Injective fun r : Revision => r.canonical.sortKeys := by
  intro r r' h
  cases r with
  | int n =>
    cases r' with
    | int n' => rw [Json.int.inj h]
    | bool b' => cases h
  | bool b =>
    cases r' with
    | int n' => cases h
    | bool b' => rw [Json.bool.inj h]

theorem ApprovalBinding.canonical_injective :
    Function.Injective fun b : ApprovalBinding => b.canonical.sortKeys := by
  intro a b h
  simp only [ApprovalBinding.canonical] at h
  obtain ⟨hst, hpol, hid, href, hdig, haction, -⟩ :=
    Json.record_injective (by rfl) (by simp) h
  cases a
  cases b
  rw [ApprovalBinding.mk.injEq]
  exact ⟨str_injective hst, str_injective hpol, map_sortKeys_injective str_injective hid,
    map_sortKeys_injective str_injective href, map_sortKeys_injective str_injective hdig,
    map_sortKeys_injective str_injective haction⟩

theorem MigrationBinding.canonical_injective :
    Function.Injective fun b : MigrationBinding => b.canonical.sortKeys := by
  intro a b h
  simp only [MigrationBinding.canonical] at h
  obtain ⟨hid, hsch, hsrc, hevid, -⟩ := Json.record_injective (by rfl) (by simp) h
  cases a
  cases b
  rw [MigrationBinding.mk.injEq]
  exact ⟨str_injective hid, str_injective hsch, str_injective hsrc, str_injective hevid⟩

theorem bindings_injective {xs ys : List ProofBinding} (hxs : KindsKnown xs) (hys : KindsKnown ys)
    (h : (Json.arr (xs.map ProofBinding.canonical)).sortKeys =
      (Json.arr (ys.map ProofBinding.canonical)).sortKeys) : xs = ys := by
  rw [Json.sortKeys, Json.sortKeys, Json.sortItems_eq_map, Json.sortItems_eq_map,
    Json.arr.injEq, map_map, map_map] at h
  induction xs generalizing ys with
  | nil =>
    cases ys with
    | nil => rfl
    | cons y ys => cases h
  | cons x xs ih =>
    cases ys with
    | nil => cases h
    | cons y ys =>
      rw [map_cons, map_cons, List.cons.injEq] at h
      have hhead : x = y :=
        ProofBinding.canonical_injective (hxs x (by simp)) (hys y (by simp)) h.1
      have htail : xs = ys :=
        ih (fun b hb => hxs b (by simp [hb])) (fun b hb => hys b (by simp [hb])) h.2
      rw [hhead, htail]

/-- What `propose_receipt_append` asks of the types in a draft. -/
structure DraftTyped (draft : ReceiptDraft) : Prop where
  mode : draft.mode.isKnown = true
  kinds : KindsKnown draft.proofBindings

/-- **The text of a receipt determines it**, up to the order of the proof bindings. -/
theorem ProtocolReceipt.canonical_injective {a b : ProtocolReceipt} (ha : DraftTyped a.draft)
    (hb : DraftTyped b.draft) (harevision : a.ledgerRevision.value = a.draft.expectedRevision + 1)
    (hbrevision : b.ledgerRevision.value = b.draft.expectedRevision + 1)
    (h : canonicalJson a.canonical = canonicalJson b.canonical) : a.sorted = b.sorted := by
  have hsort := canonicalJson_injective h
  rw [ProtocolReceipt.canonical, ProtocolReceipt.canonical] at hsort
  obtain ⟨hdig, -, -, hid, hinst, hep, htask, hag, hrole, hitem, hatt,
    hdisp, hgen, hmode, hseq, hrev, hev, hts, href, hpay, hrefs,
    hbinds, happroval, hpr, hrt, hsusp, hmigr, -⟩ :=
    Json.record_injective (by rfl) (by simp only [ProtocolReceipt.fields, List.map]; decide)
      hsort
  have hrev := Revision.canonical_injective hrev
  have hexp : a.draft.expectedRevision = b.draft.expectedRevision := by
    rw [hrev, hbrevision] at harevision
    omega
  have hmode := Kernel.Closed.text_injective ReceiptMode.value_injective ha.mode hb.mode
    (str_injective hmode)
  have hbinds := bindings_injective (ha.kinds.perm (sortBindings_perm _))
    (hb.kinds.perm (sortBindings_perm _)) hbinds
  obtain ⟨d, r, digest⟩ := a
  obtain ⟨d', r', digest'⟩ := b
  simp only [ProtocolReceipt.sorted, ReceiptDraft.sorted, ProtocolReceipt.mk.injEq,
    ReceiptDraft.mk.injEq]
  exact ⟨⟨str_injective hid, str_injective hinst, int_injective hep,
    str_injective htask, str_injective hag, str_injective hrole, str_injective hitem,
    str_injective hatt, str_injective hdisp, int_injective hgen, hmode,
    int_injective hseq, hexp, str_injective hpr, str_injective hev,
    str_injective hts, str_injective href, str_injective hpay, strings_injective hrefs,
    hbinds, ApprovalBinding.canonical_injective happroval,
    map_sortKeys_injective int_injective hrt, map_sortKeys_injective int_injective hsusp,
    map_sortKeys_injective MigrationBinding.canonical_injective hmigr⟩, hrev,
    str_injective hdig⟩

/-! ### Valid receipts -/

section Valid

variable {draft : ReceiptDraft} {receipt : ProtocolReceipt}

theorem draftTyped_of_valid (h : draftValid draft) : DraftTyped draft := by
  simp only [draftValid, fieldsValid, bindingsValid, proofBindingValid, Bool.and_eq_true,
    all_eq_true] at h
  obtain ⟨⟨⟨⟨hflds, hbinds⟩, -⟩, -⟩, -⟩ := h
  exact ⟨by tauto, fun binding hbind => (hbinds.1.2 binding hbind).1.1.1⟩

theorem receiptValid_iff : receiptValid receipt ↔ draftValid receipt.draft ∧
    receipt.ledgerRevision.value = receipt.draft.expectedRevision + 1 ∧
    receipt.receiptDigest = digest receipt.canonicalWithoutDigest := by
  rw [receiptValid, Bool.and_eq_true, Bool.and_eq_true, beq_iff_eq, beq_iff_eq, and_assoc]

theorem canonicalWithoutDigest_digest (revision : Revision) (text text' : String) :
    ProtocolReceipt.canonicalWithoutDigest ⟨draft, revision, text⟩ =
      ProtocolReceipt.canonicalWithoutDigest ⟨draft, revision, text'⟩ := rfl

@[simp] theorem makeReceipt_draft : (makeReceipt draft).draft = draft := rfl

@[simp] theorem makeReceipt_ledgerRevision :
    (makeReceipt draft).ledgerRevision = .int (draft.expectedRevision + 1) := rfl

theorem makeReceipt_receiptDigest :
    (makeReceipt draft).receiptDigest = digest (makeReceipt draft).canonicalWithoutDigest := by
  simp only [makeReceipt]
  exact congrArg digest (canonicalWithoutDigest_digest _ _ _)

theorem receiptValid_makeReceipt : receiptValid (makeReceipt draft) = draftValid draft := by
  rw [Bool.eq_iff_iff, receiptValid_iff, makeReceipt_draft, makeReceipt_ledgerRevision]
  exact and_iff_left ⟨rfl, makeReceipt_receiptDigest⟩

/-- **A valid receipt is made of its draft**, if its revision is an integer. -/
theorem eq_makeReceipt (h : receiptValid receipt) {n : Int}
    (hn : receipt.ledgerRevision = .int n) : receipt = makeReceipt receipt.draft := by
  obtain ⟨-, hrev, hdig⟩ := receiptValid_iff.mp h
  have hn' : receipt.ledgerRevision = .int (receipt.draft.expectedRevision + 1) := by
    rw [hn] at hrev ⊢
    exact congrArg Revision.int hrev
  obtain ⟨draft, revision, text⟩ := receipt
  rw [canonicalWithoutDigest_digest revision text ""] at hdig
  simp only [makeReceipt]
  rw [← hn', ← hdig]

theorem makeReceipt_canonical_of_perm {bindings : List ProofBinding}
    (hknown : KindsKnown draft.proofBindings) (h : bindings.Perm draft.proofBindings) :
    (makeReceipt { draft with proofBindings := bindings }).canonical =
      (makeReceipt draft).canonical := by
  have hflds : ∀ revision text,
      ProtocolReceipt.fields ⟨{ draft with proofBindings := bindings }, revision, text⟩ =
        ProtocolReceipt.fields ⟨draft, revision, text⟩ := fun revision text =>
    @fields_eq_of_perm ⟨draft, revision, text⟩ bindings hknown h
  simp only [makeReceipt, ProtocolReceipt.canonical, ProtocolReceipt.canonicalWithoutDigest, hflds]

@[simp] theorem ProtocolReceipt.same_refl : receipt.same receipt := by
  simp [ProtocolReceipt.same]

theorem receiptValid_sorted (h : receiptValid receipt) :
    receiptValid receipt.sorted := by
  obtain ⟨hdr, hrev, hdig⟩ := receiptValid_iff.mp h
  have hknown := (draftTyped_of_valid hdr).kinds
  refine receiptValid_iff.mpr ⟨?_, hrev, ?_⟩
  · exact (draftValid_of_perm (sortBindings_perm _)).trans hdr
  · rw [ProtocolReceipt.canonicalWithoutDigest, ProtocolReceipt.fields_sorted hknown]
    exact hdig

@[simp] theorem ReceiptLedger.same_refl (ledger : ReceiptLedger) : ledger.same ledger := by
  have hrcpts : ledger.receipts.isEqv ledger.receipts ProtocolReceipt.same := by
    induction ledger.receipts with
    | nil => rfl
    | cons receipt receipts ih => simp [List.isEqv, ih]
  simp [ReceiptLedger.same, hrcpts]

end Valid

/-- Two drafts that differ at most in the order of their proof bindings. -/
def Permuted (a b : ReceiptDraft) : Prop :=
  ∃ bindings, bindings.Perm a.proofBindings ∧ b = { a with proofBindings := bindings }

theorem permuted_of_sorted {a b : ReceiptDraft} (h : a.sorted = b.sorted) : Permuted a b := by
  have hbinds : sortBindings a.proofBindings = sortBindings b.proofBindings :=
    congrArg ReceiptDraft.proofBindings h
  refine ⟨b.proofBindings, ?_, ?_⟩
  · have hperm := (sortBindings_perm b.proofBindings).symm
    rw [← hbinds] at hperm
    exact hperm.trans (sortBindings_perm a.proofBindings)
  · have hunsort : { a.sorted with proofBindings := b.proofBindings } =
        { b.sorted with proofBindings := b.proofBindings } := by rw [h]
    exact hunsort.symm

end Valp.Receipts
