/-
Receipts on disk (`valp_cli/receipt_store.py`).

A ledger file has one line of canonical JSON for each receipt.  `_decode_receipt` reads one
back; the decoder copies scalars unchecked and leaves their types to `_receipt_valid`, while
the fields of this model are typed, so a scalar of another type is an error of its line here.

* `decodeReceipt_canonical` — decoding inverts `canonical`, up to the order of the proof
  bindings;
* `loadReceipts_ledgerBytes` — a file that was written is read back;
* `of_loadReceipts` — what is read is what would be written, with sorted proof bindings.
-/
import Valp.KernelCodec
import Valp.ReceiptLedger

namespace Valp.Receipts

open Json (reorders_sortKeys)
open Kernel (canonicalBytes parsePayload bind_eq_ok mapError_eq_ok isLine_canonicalBytes
  canonicalBytes_ne_blank distinct_str distinct_int all_map_distinct arr_distinct)
open Kernel.Decode
open List

/-! ### Decoders -/

def requireKeys (value : Json) (required optional : List String) : Except String Json :=
  (shape value required optional).mapError fun _ => "unexpected receipt object shape"

def asReceiptMode := asEnum "ReceiptMode" [.full, .remote, .manual] ReceiptMode.value

def asReceiptProofKind := asEnum "ReceiptProofKind"
  [.processBound, .contentBound, .manualAttested, .transportOnly] ReceiptProofKind.value

/-- The value of `ledger_revision`, from which the decoder subtracts. -/
def asRevision : Json → Except String Revision
  | .int n => .ok (.int n)
  | .bool b => .ok (.bool b)
  | _ => .error "unsupported operand type(s) for -"

def decodeBinding (value : Json) : Except String ProofBinding := do
  let item ← requireKeys value ["proof_kind", "proof_ref", "proof_digest", "subject_digest"] []
  .ok {
    proofKind := ← known asReceiptProofKind (← getItem item "proof_kind")
    proofRef := ← asStr (← getItem item "proof_ref")
    proofDigest := ← asStr (← getItem item "proof_digest")
    subjectDigest := ← asStr (← getItem item "subject_digest") }

def decodeApproval (value : Json) : Except String ApprovalBinding := do
  let item ← requireKeys value ["status", "policy_digest"]
    ["approval_id", "approval_ref", "approval_digest", "action_digest"]
  .ok {
    status := ← asStr (← getItem item "status")
    policyDigest := ← asStr (← getItem item "policy_digest")
    approvalId := ← getScalar item "approval_id" asStr
    approvalRef := ← getScalar item "approval_ref" asStr
    approvalDigest := ← getScalar item "approval_digest" asStr
    actionDigest := ← getScalar item "action_digest" asStr }

def decodeMigration (value : Json) : Except String MigrationBinding := do
  let item ← requireKeys value
    ["migration_id", "source_schema_version", "source_receipt_digest",
      "reconciliation_evidence_digest"] []
  .ok {
    migrationId := ← asStr (← getItem item "migration_id")
    sourceSchemaVersion := ← asStr (← getItem item "source_schema_version")
    sourceReceiptDigest := ← asStr (← getItem item "source_receipt_digest")
    reconciliationEvidenceDigest := ← asStr (← getItem item "reconciliation_evidence_digest") }

/-- The keys that `_decode_receipt` requires. -/
def receiptKeys : List String :=
  ["schema_version", "protocol_version", "receipt_id", "installation_id", "leader_epoch",
    "task_id", "agent", "role", "work_item_id", "attempt_id", "dispatch_id",
    "dispatch_generation", "mode", "event_sequence", "ledger_revision", "event", "ts",
    "dispatch_ref", "payload_digest", "expected_refs", "proof_bindings", "approval_binding",
    "prior_receipt_digest", "receipt_digest"]

def decodeReceipt (value : Json) : Except String ProtocolReceipt := do
  let item ← requireKeys value receiptKeys
    ["retry_generation", "suspension_epoch", "migration_binding"]
  if !hasText item "schema_version" receiptSchemaVersion then
    .error "unsupported receipt schema"
  let expectedRefs ← asArray "receipt arrays have invalid types" (← getItem item "expected_refs")
  let proofBindings ← asArray "receipt arrays have invalid types"
    (← getItem item "proof_bindings")
  let ledgerRevision ← asRevision (← getItem item "ledger_revision")
  let draft : ReceiptDraft := {
    receiptId := ← asStr (← getItem item "receipt_id")
    installationId := ← asStr (← getItem item "installation_id")
    leaderEpoch := ← asInt (← getItem item "leader_epoch")
    taskId := ← asStr (← getItem item "task_id")
    agent := ← asStr (← getItem item "agent")
    role := ← asStr (← getItem item "role")
    workItemId := ← asStr (← getItem item "work_item_id")
    attemptId := ← asStr (← getItem item "attempt_id")
    dispatchId := ← asStr (← getItem item "dispatch_id")
    dispatchGeneration := ← asInt (← getItem item "dispatch_generation")
    mode := ← known asReceiptMode (← getItem item "mode")
    eventSequence := ← asInt (← getItem item "event_sequence")
    expectedRevision := ledgerRevision.value - 1
    priorReceiptDigest := ← asStr (← getItem item "prior_receipt_digest")
    event := ← asStr (← getItem item "event")
    ts := ← asStr (← getItem item "ts")
    dispatchRef := ← asStr (← getItem item "dispatch_ref")
    payloadDigest := ← asStr (← getItem item "payload_digest")
    expectedRefs := ← expectedRefs.mapM asStr
    proofBindings := ← proofBindings.mapM decodeBinding
    approvalBinding := ← decodeApproval (← getItem item "approval_binding")
    retryGeneration := ← getScalar item "retry_generation" asInt
    suspensionEpoch := ← getScalar item "suspension_epoch" asInt
    migrationBinding := ← getOptional item "migration_binding" decodeMigration }
  let receiptDigest ← asStr (← getItem item "receipt_digest")
  .ok { draft := draft, ledgerRevision := ledgerRevision, receiptDigest := receiptDigest }

/-! ### Files -/

def ledgerBytes (receipts : List ProtocolReceipt) : Bytes :=
  (receipts.map fun receipt => canonicalBytes receipt.canonical).flatten

/-- What is wrong with a line. -/
inductive LineError where
  | blank
  | invalid (message : String)
  | noncanonical

def LineError.message (number : Nat) : LineError → String
  | .blank => "blank ledger line " ++ toString number
  | .invalid message => "invalid receipt ledger line " ++ toString number ++ ": " ++ message
  | .noncanonical => "noncanonical receipt ledger line " ++ toString number

/-- One turn of the loop of `ReceiptStore._load_unlocked`. -/
def loadLine (line : Bytes) : Except LineError ProtocolReceipt := do
  if line = [10] then .error .blank
  let receipt ← ((parsePayload line.dropLast).bind decodeReceipt).mapError .invalid
  if line ≠ canonicalBytes receipt.canonical then .error .noncanonical
  .ok receipt

def loadLines (lines : List Bytes) : Except String (List ProtocolReceipt) :=
  (lines.mapM loadLine).mapError fun error =>
    error.message ((lines.takeWhile fun line => (loadLine line).isOk).length + 1)

/-- The receipts that `ReceiptStore._load_unlocked` reads. -/
def loadReceipts : Option Bytes → Except String (List ProtocolReceipt)
  | none => .ok []
  | some payload =>
    if payload ≠ [] ∧ (payload.getLast? ≠ some 10 ∨ 13 ∈ payload ∨ [239, 187, 191] <+: payload) then
      .error "ledger is not canonical LF-terminated UTF-8"
    else loadLines (Bytes.splitLines payload)

/-! ### Decoding inverts the canonical form -/

@[simp] theorem asReceiptMode_value (a : ReceiptMode) : asReceiptMode (.str a.value) = .ok a :=
  asEnum_text (by simp [ReceiptMode.value]) (by cases a <;> simp)

@[simp] theorem asReceiptProofKind_value (a : ReceiptProofKind) :
    asReceiptProofKind (.str a.value) = .ok a :=
  asEnum_text (by simp [ReceiptProofKind.value]) (by cases a <;> simp)

theorem Reads.requireKeys {fields : List (String × Option Json)} {value : Json}
    (h : Reads Json.sortKeys fields value) {required optional : List String}
    (hreq : required.all (fun k => (fields.lookup k).join.isSome))
    (hflds : (fields.map Prod.fst).all (required ++ optional).contains) :
    requireKeys value required optional = .ok value := by
  rw [Receipts.requireKeys, h.shape hreq hflds]
  rfl

theorem decodeBinding_canonical {binding : ProofBinding}
    (h : binding.proofKind.isKnown) :
    decodeBinding binding.canonical.sortKeys = .ok binding := by
  have hkind := known_text asReceiptProofKind_value h
  rw [ProofBinding.canonical]
  refine decode_of_reads reorders_sortKeys (by simp) fun value hv => ?_
  rw [decodeBinding, Reads.requireKeys hv (by simp [lookup_cons]) (by simp)]
  simp [getItem, hv.member, lookup_cons, Json.sortKeys, asStr, hkind]

theorem decodeApproval_canonical (binding : ApprovalBinding) :
    decodeApproval binding.canonical.sortKeys = .ok binding := by
  rw [ApprovalBinding.canonical]
  refine decode_of_reads reorders_sortKeys (by simp) fun value hv => ?_
  rw [decodeApproval, Reads.requireKeys hv (by simp [lookup_cons]) (by simp)]
  simp [getItem, getScalar, hv.member, lookup_cons, Json.sortKeys, asStr,
    readScalar_str reorders_sortKeys, -Option.map_map]

theorem decodeMigration_canonical (binding : MigrationBinding) :
    decodeMigration binding.canonical.sortKeys = .ok binding := by
  rw [MigrationBinding.canonical]
  refine decode_of_reads reorders_sortKeys (by simp) fun value hv => ?_
  rw [decodeMigration, Reads.requireKeys hv (by simp [lookup_cons]) (by simp)]
  simp [getItem, hv.member, lookup_cons, Json.sortKeys, asStr]

theorem asRevision_canonical (revision : Revision) :
    asRevision revision.canonical.sortKeys = .ok revision := by
  cases revision <;> rfl

/-- **Decoding inverts the canonical form**, up to the order of the proof bindings. -/
theorem decodeReceipt_canonical {receipt : ProtocolReceipt} (h : DraftTyped receipt.draft)
    (hrev : receipt.ledgerRevision.value = receipt.draft.expectedRevision + 1) :
    decodeReceipt receipt.canonical.sortKeys = .ok receipt.sorted := by
  have hmode := known_text asReceiptMode_value h.mode
  have hrefs : ((receipt.draft.expectedRefs.map Json.str).map Json.sortKeys).mapM asStr =
      .ok receipt.draft.expectedRefs :=
    mapM_encode fun _ _ => rfl
  have hbinds : (((sortBindings receipt.draft.proofBindings).map
      ProofBinding.canonical).map Json.sortKeys).mapM decodeBinding =
        .ok (sortBindings receipt.draft.proofBindings) :=
    mapM_encode fun binding hbind =>
      decodeBinding_canonical (h.kinds.perm (sortBindings_perm _) binding hbind)
  have hmigr : readOptional decodeMigration
      ((receipt.draft.migrationBinding.map MigrationBinding.canonical).map Json.sortKeys) =
        .ok receipt.draft.migrationBinding :=
    readOptional_map fun migration _ => decodeMigration_canonical migration
  have hexp : receipt.ledgerRevision.value - 1 = receipt.draft.expectedRevision := by omega
  rw [ProtocolReceipt.canonical, ProtocolReceipt.fields]
  refine decode_of_reads reorders_sortKeys (by simp) fun value hv => ?_
  rw [decodeReceipt, Reads.requireKeys hv (by simp [receiptKeys, lookup_cons])
    (by simp [receiptKeys])]
  simp [getItem, getScalar, getOptional, hasText, hv.member, lookup_cons,
    reorders_sortKeys.str, reorders_sortKeys.int, asArray_arr reorders_sortKeys,
    asRevision_canonical, decodeApproval_canonical, readScalar_int reorders_sortKeys, hrefs,
    hbinds, hmigr, asStr, asInt, hmode, hexp, -map_map, -Option.map_map]
  rfl

/-! ### Lines -/

theorem ProofBinding.distinctKeys (binding : ProofBinding) :
    binding.canonical.distinctKeys :=
  Json.distinctKeys_record (by simp) (by simp [distinct_str])

theorem ApprovalBinding.distinctKeys (binding : ApprovalBinding) :
    binding.canonical.distinctKeys :=
  Json.distinctKeys_record (by simp) (by
    simp [distinct_str, all_map_distinct distinct_str])

theorem MigrationBinding.distinctKeys (binding : MigrationBinding) :
    binding.canonical.distinctKeys :=
  Json.distinctKeys_record (by simp) (by simp [distinct_str])

theorem Revision.distinctKeys (revision : Revision) : revision.canonical.distinctKeys := by
  cases revision <;> rfl

theorem ProtocolReceipt.distinctKeys (receipt : ProtocolReceipt) :
    receipt.canonical.distinctKeys := by
  rw [ProtocolReceipt.canonical, ProtocolReceipt.fields]
  exact Json.distinctKeys_record (by simp) (by
    simp only [all_cons, all_nil, Option.all_some, distinct_str, distinct_int,
      Revision.distinctKeys, ApprovalBinding.distinctKeys, arr_distinct distinct_str,
      arr_distinct ProofBinding.distinctKeys, all_map_distinct distinct_int,
      all_map_distinct MigrationBinding.distinctKeys, Bool.and_self])

variable {receipt : ProtocolReceipt} {receipts : List ProtocolReceipt}

theorem loadLine_canonicalBytes (h : DraftTyped receipt.draft)
    (hrev : receipt.ledgerRevision.value = receipt.draft.expectedRevision + 1) :
    loadLine (canonicalBytes receipt.canonical) = .ok receipt.sorted := by
  have hparse : parsePayload (canonicalBytes receipt.canonical).dropLast =
      .ok receipt.canonical.sortKeys := by
    have htext := Kernel.parsePayload_text receipt.distinctKeys (forall_mem_nil _)
    rw [append_nil] at htext
    rw [Kernel.canonicalBytes_eq, dropLast_concat, htext]
  have hsame : canonicalBytes receipt.canonical = canonicalBytes receipt.sorted.canonical := by
    rw [ProtocolReceipt.canonical_sorted h.kinds]
  rw [loadLine, if_neg (canonicalBytes_ne_blank _), hparse]
  simp only [Except.bind, decodeReceipt_canonical h hrev, Except.mapError, ok_bind]
  rw [if_neg (not_not.mpr hsame)]

variable {line : Bytes} {file : Option Bytes}

/-- **What an accepted line is**: the canonical text of the receipt that is read. -/
theorem of_loadLine (h : loadLine line = .ok receipt) :
    canonicalBytes receipt.canonical = line := by
  rw [loadLine] at h
  split at h
  · cases h
  obtain ⟨decoded, -, hrest⟩ := bind_eq_ok.mp h
  split at hrest
  · cases hrest
  · rename_i hcanon
    cases hrest
    exact (not_not.mp hcanon).symm

theorem sorted_of_loadLine (h : loadLine line = .ok receipt)
    (hval : receiptValid receipt) : receipt.sorted = receipt := by
  obtain ⟨hdr, hrev, -⟩ := receiptValid_iff.mp hval
  have hagain := loadLine_canonicalBytes (draftTyped_of_valid hdr) hrev
  rw [of_loadLine h, h] at hagain
  exact (Except.ok.inj hagain).symm

/-! ### Whole files -/

theorem isLine_receipts (receipts : List ProtocolReceipt) :
    ∀ line ∈ receipts.map (fun receipt => canonicalBytes receipt.canonical), Bytes.IsLine line := by
  intro line hline
  obtain ⟨receipt, -, rfl⟩ := mem_map.mp hline
  exact isLine_canonicalBytes _

theorem ledgerBytes_concat : ledgerBytes (receipts ++ [receipt]) =
      ledgerBytes receipts ++ canonicalBytes receipt.canonical := by
  simp [ledgerBytes]

/-- The frame that `_load_unlocked` asks for is the one of lines that are written. -/
theorem loadReceipts_ledgerBytes_eq : loadReceipts (some (ledgerBytes receipts)) =
      loadLines (receipts.map fun receipt => canonicalBytes receipt.canonical) := by
  have hls := isLine_receipts receipts
  obtain ⟨hret, hlast⟩ := Bytes.flatten_lines hls
  have hmark : ¬[239, 187, 191] <+: ledgerBytes receipts := by
    cases receipts with
    | nil => simp [ledgerBytes]
    | cons receipt receipts =>
      obtain ⟨rest, hrest⟩ := Kernel.canonicalBytes_record
        (("receipt_digest", some (.str receipt.receiptDigest)) :: receipt.fields)
      rw [ledgerBytes, map_cons, flatten_cons, ProtocolReceipt.canonical, hrest,
        cons_append, cons_prefix_cons]
      exact fun h => absurd h.1 (by decide)
  rw [loadReceipts, if_neg]
  · rw [ledgerBytes, Bytes.splitLines_lines hls]
  · rintro ⟨hne, hbad | hbad | hbad⟩
    · exact hbad (hlast hne)
    · exact hret hbad
    · exact hmark hbad

theorem exists_loadLine (h : loadReceipts file = .ok receipts)
    (hmem : receipt ∈ receipts) : ∃ line, loadLine line = .ok receipt := by
  cases file with
  | none =>
    cases h
    cases hmem
  | some payload =>
    rw [loadReceipts] at h
    split at h
    · cases h
    · obtain ⟨line, hline⟩ := (Bytes.exists_of_mapM (mapError_eq_ok.mp h)).1 receipt hmem
      exact ⟨line, hline⟩

/-- **What is accepted is what would be written.** -/
theorem ledgerBytes_of_loadReceipts
    (h : loadReceipts file = .ok receipts) : ledgerBytes receipts = file.getD [] := by
  cases file with
  | none =>
    cases h
    rfl
  | some payload =>
    rw [loadReceipts] at h
    split_ifs at h
    have hread : ∀ line receipt, loadLine line = .ok receipt →
        canonicalBytes receipt.canonical = line := fun line receipt => of_loadLine
    have hls := Bytes.map_write_of_mapM hread (mapError_eq_ok.mp h)
    rw [ledgerBytes, hls, Bytes.splitLines_flatten]
    rfl

end Valp.Receipts
