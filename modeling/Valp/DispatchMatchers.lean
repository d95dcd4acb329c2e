/-
The matchers of a receipt and a work item (`valp_cli/workflow.py`, `submission.py`, `audit.py`,
`kernel_runtime.py`).

Three predicates say whether a receipt belongs to a work item: that of the wait path, that of
the dependency gate and that of the audit.  They compare the same fields, but the one of the
wait path accepts v2 receipts only.

* `receipt_matchers_agree_iff` — **when the three give the same answer.**
-/
import Valp.DispatchReceipts

namespace Valp.Dispatch

open Json (Value)
open Queue (exactInt)
open Receipts (ProtocolReceipt)
open Kernel.Decode (ok_bind)
open List

section Matchers

variable (text : Json → String)

/-- What a receipt of a work item has to carry. -/
def expectedIdentity (taskId : String) (item : Value) : List (String × Value) :=
  [("task_id", .str taskId), ("agent", item.get "agent"), ("role", item.get "role"),
    ("work_item_id", item.get "work_item_id"), ("dispatch_id", item.get "dispatch_id"),
    ("dispatch_generation", item.get "dispatch_generation")]

/-- `all(receipt.get(key) == value for key, value in expected.items())`. -/
def hasIdentity (taskId : String) (item receipt : Value) : Bool :=
  (expectedIdentity taskId item).all fun field => (receipt.get field.1).equal field.2

/-- `set(required).issubset(found)`. -/
def covers (found required : List String) : Bool := required.all found.contains

section

variable (receipt : Value)

def coversRefs (item : Value) : Except Fault Bool := do
  let found ← refList text (receipt.get "expected_refs")
  let required ← refList text (item.get "expected_refs")
  .ok (covers found required)

/-- The fields that the strict matcher of the wait path asks for beside the identity. -/
def isNumbered : Bool :=
  strOrEmpty text (receipt.get "receipt_id") != "" &&
    (exactInt (receipt.get "event_sequence")).isSome &&
    (exactInt (receipt.get "dispatch_generation")).isSome

/-- Whether a terminal receipt belongs to the suspension and lies behind its entry. -/
def inSuspension (suspensionEpoch eventSequenceAtEntry : Option Int) : Bool :=
  suspensionEpoch.any (fun epoch => exactInt (receipt.get "suspension_epoch") = some epoch) &&
    eventSequenceAtEntry.any fun entry =>
      (exactInt (receipt.get "event_sequence")).any (entry < ·)

def receiptMatchesWorkItem (item : Value) (taskId : String) (strictIdentity : Bool)
    (suspensionEpoch eventSequenceAtEntry : Option Int) : Except Fault Bool := do
  if strictIdentity then
    if !(receipt.get "schema_version").equal (.str schemaV2) then .ok false
    else if !hasIdentity taskId item receipt then .ok false
    else if !isNumbered text receipt then .ok false
    else if (← inSet (receipt.get "event") terminalEvents) &&
        !inSuspension receipt suspensionEpoch eventSequenceAtEntry then .ok false
    else coversRefs text receipt item
  else if strOf text (receipt.get "agent").1 ≠ strOf text (item.get "agent").1 then .ok false
  else coversRefs text receipt item

/-- `_receipt_matches`; an identity `None` is `null`. -/
def receiptMatches (event : String) (requiredRefs : List String)
    (taskId : String) (identity : Value) (strictIdentity : Bool) : Except Fault Bool := do
  if !(receipt.get "event").equal (.str event) then .ok false
  else
    let found ← refList text (receipt.get "expected_refs")
    if !covers found requiredRefs then .ok false
    else if !strictIdentity then
      if identity.truthy &&
          "manual_".toList.isPrefixOf (strOrEmpty text (receipt.get "event")).toList then
        .ok ((receipt.get "agent").equal (identity.get "agent") &&
          (receipt.get "role").equal (identity.get "role"))
      else .ok true
    else if !(← isVersioned receipt) || !identity.truthy then .ok false
    else .ok (hasIdentity taskId identity receipt)

/-- `_receipt_matches` with the identity and the refs of a work item, for a submission. -/
def submissionMatches (item : Value) (taskId : String) : Except Fault Bool := do
  let requiredRefs ← refList text (item.get "expected_refs")
  receiptMatches text receipt "dispatch_submitted" requiredRefs taskId item true

/-- `_receipt_matches_work_item_identity` of the audit. -/
def receiptMatchesWorkItemIdentity (item : Value) (taskId : String) :
    Except Fault Bool := do
  let covered ← coversRefs text receipt item
  let versioned ← isVersioned receipt
  .ok (versioned && hasIdentity taskId item receipt && covered)

end

def matchingSubmission (receipts : List Value) (item : Value) : Except String Value :=
  match receipts.filter fun receipt =>
      (receipt.get "schema_version").equal (.str schemaV3) &&
        (receipt.get "event").equal (.str "dispatch_submitted") &&
        (receipt.get "work_item_id").equal (item.get "work_item_id") &&
        (receipt.get "dispatch_id").equal (item.get "dispatch_id") &&
        (receipt.get "dispatch_generation").equal (item.get "dispatch_generation") with
  | [receipt] => .ok receipt
  | _ => .error "Kernel suspension requires one exact v3 submission per work item"

/-- Whether `suspend_task` finds the delivery of a work item. -/
def isDelivered (item : Value) (taskId : String) : List Value → Except Fault Bool
  | [] => .ok false
  | record :: records => do
    if !(record.get "event").equal (.str "dispatch_submitted") then
      isDelivered item taskId records
    else if !(← receiptMatchesWorkItem text record item taskId true none none) then
      isDelivered item taskId records
    else if !(← hasConcreteRuntimeSubmissionProof record) then isDelivered item taskId records
    else .ok true

end Matchers

section Agree

variable {text : Json → String} {taskId : String} {receipt item : Value} {receipts : List Value}
  {dir : TaskDir}

/-- The three matchers give the same answer, or raise the same exception. -/
def Agree (text : Json → String) (taskId : String) (receipt item : Value) : Prop :=
  receiptMatchesWorkItem text receipt item taskId true none none =
      submissionMatches text receipt item taskId ∧
    submissionMatches text receipt item taskId =
      receiptMatchesWorkItemIdentity text receipt item taskId

/-- A v2 receipt of the item with exact numbers, or a receipt with readable refs that is not
one of the item. -/
def Unambiguous (text : Json → String) (taskId : String) (receipt item : Value) : Prop :=
  receipt.get "schema_version" = .str schemaV2 ∧ hasIdentity taskId item receipt = true ∧
      (exactInt (receipt.get "event_sequence")).isSome ∧
      (exactInt (receipt.get "dispatch_generation")).isSome ∨
    coversRefs text receipt item = .ok false ∨
    hasIdentity taskId item receipt = false ∧ coversRefs text receipt item = .ok true

theorem Checked.strOrEmpty_ne (h : Checked receipt) :
    strOrEmpty text (receipt.get "receipt_id") ≠ "" := by
  obtain ⟨id, hid, hreceiptId⟩ := h.receiptId
  have htruthy : (Value.str id).truthy := by simpa [Value.truthy, Value.str] using hid
  rw [hreceiptId, strOrEmpty, if_pos htruthy]
  exact hid

theorem get_of_not_truthy {v : Value} (h : v.truthy = false) (k : String) : v.get k = .null := by
  refine Value.get_of_none ?_
  obtain ⟨v, hv⟩ := v
  cases v with
  | obj members =>
    have hnil : members = [] := by simpa [Value.truthy] using h
    show Json.member? (.obj members) k = none
    rw [hnil]
    rfl
  | _ => rfl

theorem Checked.hasIdentity_eq_false (h : Checked receipt) (hitem : item.truthy = false) :
    hasIdentity taskId item receipt = false := by
  obtain ⟨n, -, hgen⟩ := h.generation
  rw [← Bool.not_eq_true, hasIdentity, all_eq_true]
  intro hall
  have hnull := hall ("dispatch_generation", item.get "dispatch_generation")
    (by simp [expectedIdentity])
  simp only [get_of_not_truthy hitem, Value.equal_iff] at hnull hgen
  rw [hnull] at hgen
  cases Json.render_injective hgen

theorem eq_typeError_of_refList {v : Value} {fault : Fault} (h : refList text v = .error fault) :
    fault = .python "TypeError" := by
  rw [refList] at h
  split at h
  · cases h
  split at h
  · cases h
  · cases h
  · cases h
  · exact (Except.error.inj h).symm

theorem submissionMatches_eq (h : Checked receipt) (hvers : isVersioned receipt = .ok true)
    (hev : receipt.get "event" = .str "dispatch_submitted") :
    submissionMatches text receipt item taskId =
      (coversRefs text receipt item).map (hasIdentity taskId item receipt && ·) := by
  have hsubd : (receipt.get "event").equal (.str "dispatch_submitted") :=
    Value.equal_str.mpr hev
  rw [submissionMatches, coversRefs]
  cases hreq : refList text (item.get "expected_refs") with
  | error fault =>
    obtain rfl := eq_typeError_of_refList hreq
    cases hfnd : refList text (receipt.get "expected_refs") with
    | error fault' =>
      obtain rfl := eq_typeError_of_refList hfnd
      rfl
    | ok found => rfl
  | ok required =>
    cases hfnd : refList text (receipt.get "expected_refs") with
    | error fault =>
      simp only [ok_bind, receiptMatches, hsubd, hfnd]
      rfl
    | ok found =>
      simp only [ok_bind, receiptMatches, hsubd, hfnd, hvers]
      by_cases hcovers : covers found required = true
      · cases hitem : item.truthy with
        | false =>
          rw [h.hasIdentity_eq_false hitem]
          simp [hcovers, Except.map]
        | true => simp [hcovers, Except.map]
      · simp [hcovers, Except.map]

theorem identityMatches_eq (hvers : isVersioned receipt = .ok true) :
    receiptMatchesWorkItemIdentity text receipt item taskId =
      (coversRefs text receipt item).map (hasIdentity taskId item receipt && ·) := by
  rw [receiptMatchesWorkItemIdentity, hvers]
  cases coversRefs text receipt item <;> rfl

theorem receiptMatchesWorkItem_eq (hev : receipt.get "event" = .str "dispatch_submitted") :
    receiptMatchesWorkItem text receipt item taskId true none none =
      if (receipt.get "schema_version").equal (.str schemaV2) ∧
          hasIdentity taskId item receipt ∧ isNumbered text receipt = true then
        coversRefs text receipt item
      else .ok false := by
  have hopen : inSet (receipt.get "event") terminalEvents = .ok false := by
    rw [hev]
    rfl
  rw [receiptMatchesWorkItem, if_pos rfl]
  by_cases hsch : (receipt.get "schema_version").equal (.str schemaV2) = true
  · by_cases hidt : hasIdentity taskId item receipt = true
    · by_cases hnum : isNumbered text receipt = true
      · simp [hsch, hidt, hnum, hopen, ok_bind]
      · simp [hsch, hidt, hnum]
    · simp [hsch, hidt]
  · simp [hsch]

/-- **Receipt matchers.**  For a submission with a concrete proof in any ledger that is loaded,
the matchers of the wait path, of the gate and of the audit give the same answer exactly if it
is a v2 receipt of the item with exact numbers, or is not one of the item and has readable
refs. -/
theorem receipt_matchers_agree_iff (hload : loadDispatchReceipts dir taskId = .ok receipts)
    (hmem : receipt ∈ receipts) (hversioned : isVersioned receipt = .ok true)
    (hproof : hasConcreteRuntimeSubmissionProof receipt = .ok true) (item : Value) :
    Agree text taskId receipt item ↔ Unambiguous text taskId receipt item := by
  have hevent : receipt.get "event" = .str "dispatch_submitted" := by
    rw [hasConcreteRuntimeSubmissionProof] at hproof
    split at hproof
    · cases hproof
    · rename_i hsubmitted
      exact Value.equal_str.mp (by simpa using hsubmitted)
  have hchecked := versioned_of_load hload hmem hversioned
  have hid : (strOrEmpty text (receipt.get "receipt_id") != "") := by
    simpa using hchecked.strOrEmpty_ne
  rw [Agree, submissionMatches_eq hchecked hversioned hevent, identityMatches_eq hversioned,
    and_iff_left rfl, receiptMatchesWorkItem_eq hevent, Unambiguous, isNumbered, hid,
    ← Value.equal_str]
  simp only [Bool.true_and, Bool.and_eq_true]
  generalize (receipt.get "schema_version").equal (.str schemaV2) = v2
  generalize hasIdentity taskId item receipt = identity
  generalize (exactInt (receipt.get "event_sequence")).isSome = sequence
  generalize (exactInt (receipt.get "dispatch_generation")).isSome = generation
  -- a receipt that is not accepted on the wait path must not be one of the item
  by_cases hexact : v2 ∧ identity ∧ sequence ∧ generation = true
  · rw [if_pos hexact]
    refine iff_of_true ?_ (.inl hexact)
    rw [hexact.2.1]
    cases coversRefs text receipt item with
    | error fault => rfl
    | ok covered => rfl
  · rw [if_neg hexact, or_iff_right hexact]
    cases coversRefs text receipt item with
    | error fault => simp [Except.map]
    | ok covered => cases identity <;> cases covered <;> simp [Except.map]

end Agree

/-! ### Two ledgers -/

/-- The fields that the receipts below share with their item. -/
def sampleIdentity : List (String × Value) :=
  [("agent", .str "agent"), ("role", .str "implementer"), ("work_item_id", .str "work"),
    ("dispatch_id", .str "dispatch"), ("dispatch_generation", .int 1)]

def sampleItem : Value := .dict sampleIdentity (by decide)

def sampleProof : Value := .dict [("pane_id", .str "pane")] (by decide)

def sampleSubmission : Value :=
  .dict ([("schema_version", .str schemaV2), ("receipt_id", .str "receipt"),
    ("task_id", .str "task"), ("event_sequence", .int 1), ("event", .str "dispatch_submitted"),
    ("proof", sampleProof)] ++ sampleIdentity) (by decide)

def idleRuntime : Runtime where
  adopted := false
  marker := .ok ()
  store := Receipts.sampleStore
  ledger := none
  proofs _ := .ok ()

/-- A task directory with this file of receipts and without an adopted runtime. -/
def plainDir (records : List Value) : TaskDir where
  runtime _ := idleRuntime
  dispatchReceipts := (Ledgers.Ledger.workflow "dispatch-receipts.jsonl").written Json.codec records
  manualEffective := .ok []

theorem load_plainDir {records : List Value} {taskId : String}
    (hobj : ∀ v ∈ records, v.isObject) (hcln : ∀ v ∈ records, v.Clean)
    (herrs : deterministicReceiptLedgerErrors records taskId = .ok []) :
    loadDispatchReceipts (plainDir records) taskId = .ok records := by
  have hadop : (plainDir records).adopted = [] := rfl
  have hnormal : records.map (Json.codec.normal false) = records :=
    (map_congr_left fun _ _ => rfl).trans (map_id records)
  have hread : JsonLines.read Json.codec (plainDir records).dispatchReceipts = .ok records := by
    rw [plainDir, Ledgers.Ledger.written_eq]
    have hback : JsonLines.read Json.codec (JsonLines.written Json.codec false records) = _ :=
      JsonLines.read_clean Json.lawful_codec hobj hcln
    rwa [hnormal] at hback
  simp only [loadDispatchReceipts, hadop, Ledgers.readJsonLinesStrict, hread]
  simp [Except.mapError, herrs, ok_bind]

theorem load_sampleSubmission :
    loadDispatchReceipts (plainDir [sampleSubmission]) "task" = .ok [sampleSubmission] :=
  load_plainDir (by simp [sampleSubmission, Value.dict, Value.isObject, Json.shape])
    (by decide +kernel) rfl

/-- A v2 submission, with the same answer of all three. -/
theorem receipt_matchers_agree_v2 : Agree (fun _ => "") "task" sampleSubmission sampleItem :=
  (receipt_matchers_agree_iff load_sampleSubmission (mem_singleton_self _) rfl rfl _).mpr
    (.inl ⟨rfl, by decide, rfl, rfl⟩)

/-- A v3 receipt is delivered to nobody on the wait path. -/
theorem receiptMatchesWorkItem_v3 (hsch : receipt.get "schema_version" = .str schemaV3)
    (epoch entry : Option Int) :
    receiptMatchesWorkItem text receipt item taskId true epoch entry = .ok false := by
  have hoth : (receipt.get "schema_version").equal (.str schemaV2) = false := by
    rw [hsch]
    decide
  rw [receiptMatchesWorkItem, if_pos rfl, hoth]
  rfl

/-- **With an adopted runtime no work item is found delivered**, so that no task with a wait
policy enters the wait. -/
theorem not_delivered_of_adopted {adapter : Adapter} (hadop : dir.adopted = [adapter])
    (hload : loadDispatchReceipts dir taskId = .ok receipts) (item : Value) :
    isDelivered text item taskId receipts = .ok false := by
  obtain ⟨ledger, -, rfl, -⟩ := of_load_adopted hadop hload
  induction ledger.receipts with
  | nil => rfl
  | cons receipt receipts ih =>
    have hsch : (canonicalValue receipt).get "schema_version" = .str schemaV3 :=
      get_canonicalValue rfl (by decide)
    rw [map_cons, isDelivered, receiptMatchesWorkItem_v3 hsch]
    split
    · exact ih
    · exact ih

/-- The submission of the sample ledger of receipts. -/
def adoptedReceipt : ProtocolReceipt :=
  (Receipts.makeReceipt (Receipts.sampleBase "dispatch_submitted" none).withProofs).sorted

/-- A task that has adopted a runtime with one submission in its v3 ledger. -/
def adoptedDir : TaskDir where
  runtime
    | .herdr =>
      { idleRuntime with
        adopted := true
        ledger := some (Receipts.ledgerBytes
          [Receipts.makeReceipt (Receipts.sampleBase "dispatch_submitted" none).withProofs]) }
    | _ => idleRuntime
  dispatchReceipts := none
  manualEffective := .ok []

theorem load_adoptedDir :
    loadDispatchReceipts adoptedDir "task" = .ok [canonicalValue adoptedReceipt] := by
  have hload : (adoptedDir.runtime .herdr).store.load none (adoptedDir.runtime .herdr).ledger =
      .ok (Receipts.sampleStore.ledger [adoptedReceipt]) :=
    Receipts.load_sample Receipts.fieldsValid_sampleBase.2 (by decide)
  have hadop : adoptedDir.adopted = [.herdr] := rfl
  have hmarker : (adoptedDir.runtime .herdr).marker = .ok () := rfl
  have hpfs : ∀ receipts, (adoptedDir.runtime .herdr).proofs receipts = .ok () := fun _ => rfl
  simp only [loadDispatchReceipts, hadop, loadRuntimeV3Receipts, hmarker, hload, hpfs]
  rfl

theorem proofKinds_canonical (bindings : List Receipts.ProofBinding) :
    proofKinds (bindings.map Receipts.ProofBinding.canonical) =
      .ok (bindings.map fun b => b.proofKind.text Receipts.ReceiptProofKind.value) := by
  induction bindings with
  | nil => rfl
  | cons b bs ih =>
    rw [map_cons, map_cons, Receipts.ProofBinding.canonical, Json.record, proofKinds]
    simp [Json.member?, ih, Except.map]

theorem concrete_canonicalValue {receipt : ProtocolReceipt}
    (hev : receipt.draft.event = "dispatch_submitted")
    (hks : (receipt.draft.proofBindings.map Receipts.ProofBinding.proofKind).Perm
      [.known .processBound, .known .contentBound]) :
    hasConcreteRuntimeSubmissionProof (canonicalValue receipt) = .ok true := by
  have hsubd : (canonicalValue receipt).get "event" = .str receipt.draft.event :=
    get_canonicalValue rfl (by decide)
  have hsch : (canonicalValue receipt).get "schema_version" = .str schemaV3 :=
    get_canonicalValue rfl (by decide)
  have hbinds : ((canonicalValue receipt).get "proof_bindings").1 =
      .arr ((Receipts.sortBindings receipt.draft.proofBindings).map
        Receipts.ProofBinding.canonical) := val_get_canonicalValue rfl (by decide)
  have hperm : ((Receipts.sortBindings receipt.draft.proofBindings).map fun b =>
      b.proofKind.text Receipts.ReceiptProofKind.value).Perm
        ["process_bound", "content_bound"] := by
    have hmapped := hks.map (Kernel.Closed.text Receipts.ReceiptProofKind.value)
    rw [map_map] at hmapped
    exact ((Receipts.sortBindings_perm _).map _).trans hmapped
  have hbd : bindingKinds ((canonicalValue receipt).get "proof_bindings") =
      .ok ((Receipts.sortBindings receipt.draft.proofBindings).map fun b =>
        b.proofKind.text Receipts.ReceiptProofKind.value) := by
    have hne : Receipts.sortBindings receipt.draft.proofBindings ≠ [] := by
      intro hnil
      rw [hnil] at hperm
      exact absurd hperm.length_eq (by decide)
    rw [bindingKinds, Value.truthy, hbinds]
    simp [hne, proofKinds_canonical]
  have hmem : ∀ kind, (((Receipts.sortBindings receipt.draft.proofBindings).map fun b =>
      b.proofKind.text Receipts.ReceiptProofKind.value).contains kind) =
        ["process_bound", "content_bound"].contains kind := by
    intro kind
    rw [Bool.eq_iff_iff, contains_iff_mem, contains_iff_mem, hperm.mem_iff]
  rw [hasConcreteRuntimeSubmissionProof, hsubd, hsch, hev, hbd]
  simp only [ok_bind, hmem]
  rfl

theorem concrete_sorted {receipt : ProtocolReceipt}
    (hev : receipt.draft.event = "dispatch_submitted")
    (hks : (receipt.draft.proofBindings.map Receipts.ProofBinding.proofKind).Perm
      [.known .processBound, .known .contentBound]) :
    hasConcreteRuntimeSubmissionProof (canonicalValue receipt.sorted) = .ok true :=
  concrete_canonicalValue hev (((Receipts.sortBindings_perm _).map _).trans hks)

/-- A v3 submission of an adopted runtime: the gate and the audit accept it and the Kernel
suspension finds it, but the wait path does not, so that the task cannot enter the wait. -/
theorem v3_submission_not_delivered :
    loadDispatchReceipts adoptedDir "task" = .ok [canonicalValue adoptedReceipt] ∧
      hasConcreteRuntimeSubmissionProof (canonicalValue adoptedReceipt) = .ok true ∧
      submissionMatches (fun _ => "") (canonicalValue adoptedReceipt) sampleItem "task" = .ok true ∧
      receiptMatchesWorkItemIdentity (fun _ => "") (canonicalValue adoptedReceipt) sampleItem
        "task" = .ok true ∧
      matchingSubmission [canonicalValue adoptedReceipt] sampleItem =
        .ok (canonicalValue adoptedReceipt) ∧
      receiptMatchesWorkItem (fun _ => "") (canonicalValue adoptedReceipt) sampleItem "task" true
        none none = .ok false ∧
      isDelivered (fun _ => "") sampleItem "task" [canonicalValue adoptedReceipt] = .ok false := by
  have hadopted : adoptedDir.adopted = [.herdr] := rfl
  exact ⟨load_adoptedDir, concrete_sorted rfl (List.Perm.refl _), rfl, rfl, rfl, rfl,
    not_delivered_of_adopted hadopted load_adoptedDir sampleItem⟩

end Valp.Dispatch
