/-
The v3 receipts of a task and the epoch of its leader (`load_runtime_v3_receipts` of
`valp_cli/runtime_adapters.py`, `load_langgraph_v3_receipts` of `valp_cli/langgraph_adapter.py`).

The loaders read the installation and the epoch of its leader from the control root and open the
ledger of the task with them.  The receipts have the epoch in which they were committed, and
`_ledger_valid` compares the two.

* `receipts_kept_iff` — **a ledger outlives its epoch exactly if it is empty.**
-/
import Valp.ControlRefusal

namespace Valp.Dispatch

open Control (Root digestValue present)
open Json (Value)
open Kernel (DocumentFile)
open Queue (asStr exactInt)
open Receipts (ProofBinding ProtocolReceipt receiptSubjectDigest of_load load_none)
open Json.Value

/-! ### What the loaders read -/

/-- The files of a task that has adopted a runtime.  A ref that leads out of the task directory
finds no record. -/
structure Adopted where
  taskId : String
  text : Json → String
  marker : DocumentFile Value
  /-- `dispatch-receipts.jsonl` is there and not empty. -/
  isMixed : Bool
  policy : DocumentFile Value
  ledger : Option Bytes
  record : String → DocumentFile Value

/-- `_expected_adoption_marker`, of LangGraph and of the other runtimes. -/
def expectedAdoptionMarker (adapter : Adapter) (taskId : String) : Value :=
  match adapter with
  | .langgraph => .dict [
      ("schema_version", .str "valp-langgraph-receipt-adoption.v1"),
      ("task_id", .str taskId),
      ("ledger_ref", .str "runtime/langgraph/receipts.v3.jsonl"),
      ("compatibility_ledger_ref", .str "dispatch-receipts.jsonl"),
      ("write_schema", .str schemaV3)] (by simp)
  | _ => .dict [
      ("schema_version", .str "valp-runtime-receipt-adoption.v1"),
      ("task_id", .str taskId),
      ("adapter_id", .str adapter.name),
      ("abi_version", .str "1.0"),
      ("ledger_ref", .str ("runtime/" ++ adapter.name ++ "/receipts.v3.jsonl")),
      ("compatibility_ledger_ref", .str "dispatch-receipts.jsonl"),
      ("write_schema", .str schemaV3)] (by simp)

/-- The checks of the marker and of the legacy ledger in `load_runtime_v3_receipts`. -/
def Adopted.checkMarker (task : Adopted) (adapter : Adapter) : Except String Unit :=
  match task.marker with
  | .missing => .error (adapter.name ++ " v3 adoption marker is missing")
  | .malformed => .error (adapter.name ++ " adoption marker is malformed")
  | .document marker =>
    if !marker.equal (expectedAdoptionMarker adapter task.taskId) then
      .error (adapter.name ++ " adoption marker conflicts")
    else if task.isMixed then
      .error (adapter.name ++ " adopted runtime has mixed legacy ledger state")
    else .ok ()

/-- `_require_unmixed_v3_ledger`. -/
def Adopted.requireUnmixedV3Ledger (task : Adopted) : Except String Unit := do
  match task.marker with
  | .missing => .ok ()
  | .malformed => .error "LangGraph v3 adoption marker is malformed"
  | .document marker =>
    if !marker.equal (expectedAdoptionMarker .langgraph task.taskId) then
      .error "LangGraph v3 adoption marker conflicts with the selected ledger"
    else .ok ()
  if task.isMixed && (task.ledger.getD []) != [] then
    .error "LangGraph v3 mixed legacy/v2 and authoritative ledgers are forbidden"
  else if task.isMixed then
    .error "LangGraph v3 adoption cannot write beside a non-empty legacy/v2 ledger"
  else .ok ()

/-- The marker and the legacy ledger. -/
def Adopted.checkAdoption (task : Adopted) (adapter : Adapter) : Except String Unit :=
  if adapter = .langgraph then task.requireUnmixedV3Ledger else task.checkMarker adapter

/-- The installation and the epoch of its leader, if the two documents agree on them. -/
def identityOf (installation state : Value) : Option (String × Int) :=
  match asStr (installation.get "installation_id"), exactInt (state.get "active_leader_epoch") with
  | some id, some epoch =>
    if (installation.get "schema_version").equal (.str "valp-installation.v1") &&
        (state.get "schema_version").equal (.str "valp-executable-state.v1") && id != "" &&
        (state.get "installation_id").equal (.str id) && 1 ≤ epoch &&
        (installation.get "active_leader_epoch").equal (.int epoch) then some (id, epoch)
    else none
  | _, _ => none

theorem identityOf_eq_some {installation state : Value} {id : String} {epoch : Int} :
    identityOf installation state = some (id, epoch) ↔
      installation.get "schema_version" = .str "valp-installation.v1" ∧
      state.get "schema_version" = .str "valp-executable-state.v1" ∧
      installation.get "installation_id" = .str id ∧
      state.get "active_leader_epoch" = .int epoch ∧ id ≠ "" ∧
      state.get "installation_id" = .str id ∧ 1 ≤ epoch ∧
      (installation.get "active_leader_epoch").equal (.int epoch) := by
  rw [identityOf]
  constructor
  · intro h
    split at h
    · rename_i found number hfnd hnumber
      simp only [Option.ite_none_right_eq_some, Bool.and_eq_true, bne_iff_ne, decide_eq_true_eq,
        equal_str, and_assoc] at h
      obtain ⟨hsch, hver, hne, hid, hone, hsame, hpair⟩ := h
      cases hpair
      exact ⟨hsch, hver, eq_str_of_asStr hfnd, eq_int_of_exactInt hnumber, hne, hid, hone, hsame⟩
    · cases h
  · rintro ⟨hsch, hver, hid, hep, hne, hsta, hone, hsame⟩
    rw [hid, hep]
    exact if_pos (by simp [hsch, hver, hne, hsta, hone, hsame, equal_self])

/-- A recorded policy that asks for no approval. -/
def isNoApproval (policy : Value) : Bool :=
  (policy.get "schema_version").equal (.str "valp-automation-policy.v1") &&
    (policy.get "approval_required").1 matches .bool false

/-- `_reference_identity` of the runtime adapters. -/
def referenceIdentity (task : Adopted) (root : Root) : Except String (String × Int) :=
  match root.installation, root.state, task.policy with
  | .document installation, .document state, .document policy =>
    if !(installation.isObject && state.isObject) then .error "AttributeError"
    else
      match identityOf installation state with
      | none => .error "runtime v3 requires consistent installation, Leader, and policy identity"
      | some identity =>
        if !policy.isObject then .error "AttributeError"
        else if !isNoApproval policy || task.taskId == "" then
          .error "runtime v3 requires consistent installation, Leader, and policy identity"
        else .ok identity
  | _, _, _ => .error "runtime v3 identity or approval policy is unavailable"

/-- `_reference_identity` of LangGraph. -/
def langgraphIdentity (task : Adopted) (root : Root) : Except String (String × Int) :=
  match root.installation, root.state, task.policy with
  | .document installation, .document state, .document policy =>
    if !(installation.isObject && state.isObject && policy.isObject) then
      .error "LangGraph v3 identity and approval policy records must be JSON objects"
    else
      match identityOf installation state with
      | none =>
        .error "LangGraph v3 requires a consistent installation and active non-zero Leader epoch"
      | some identity =>
        if !isNoApproval policy then
          .error ("LangGraph v3 requires an explicit recorded no-approval policy for this " ++
            "bounded path")
        else if task.taskId == "" then .error "LangGraph v3 requires a task identity"
        else .ok identity
  | _, _, _ => .error "LangGraph v3 identity or approval policy is unavailable"

/-- The installation of the task and the epoch that it is served in. -/
def Adopted.identity (task : Adopted) (adapter : Adapter) (root : Root) :
    Except String (String × Int) :=
  if adapter = .langgraph then langgraphIdentity task root else referenceIdentity task root

/-- The record of a proof binding against its receipt. -/
def Adopted.checkBinding (task : Adopted) (receipt : ProtocolReceipt) (binding : ProofBinding) :
    Except String Unit := do
  let subject := receiptSubjectDigest receipt.draft
  match task.record binding.proofRef with
  | .document proof =>
    if !(proof.isObject && digestValue proof == binding.proofDigest &&
        binding.subjectDigest == subject && (proof.get "subject_digest").equal (.str subject) &&
        (proof.get "receipt_id").equal (.str receipt.draft.receiptId)) then
      .error "LangGraph v3 proof digest or subject binding mismatch"
    let expectedSchema := match binding.proofKind with
      | .known .processBound => "valp-langgraph-process-proof.v1"
      | .known .contentBound => "valp-langgraph-content-proof.v1"
      | _ => ""
    if expectedSchema == "" || !(proof.get "schema_version").equal (.str expectedSchema) then
      .error "LangGraph v3 proof kind was relabeled or is unsupported"
    match task.record (strOf task.text (proof.get "provider_record_ref").1) with
    | .document provider =>
      if !(proof.get "provider_record_digest").equal (.str (digestValue provider)) then
        .error "LangGraph provider proof digest mismatch"
    | _ => .error "LangGraph provider proof record cannot be verified"
    if binding.proofKind = .known .contentBound ∧
        !((proof.get "acknowledged").1 matches .bool true &&
          (proof.get "request_payload_digest").equal (.str receipt.draft.payloadDigest) &&
          digestValue (proof.get "request_payload") == receipt.draft.payloadDigest) then
      .error "LangGraph exact request acknowledgement mismatch"
  | _ => .error "LangGraph v3 proof digest cannot be verified"

/-- The ref of the last binding of a kind. -/
def proofRefOf (receipt : ProtocolReceipt) (kind : Receipts.ReceiptProofKind) : Option String :=
  (receipt.draft.proofBindings.filter fun b => b.proofKind = .known kind).getLast?.map
    ProofBinding.proofRef

/-- The loop of `_load_validated_v3_ledger`, of a task with this policy. -/
def Adopted.checkReceipts (task : Adopted) (policy : Value) (receipts : List ProtocolReceipt) :
    Except String Unit :=
  receipts.forM fun receipt => do
    let approval := receipt.draft.approvalBinding
    if approval.status ≠ "not_required" ∨ approval.policyDigest ≠ digestValue policy then
      .error "LangGraph v3 approval policy digest mismatch"
    receipt.draft.proofBindings.forM (task.checkBinding receipt)
    if proofRefOf receipt .processBound = proofRefOf receipt .contentBound then
      .error "LangGraph process and content proof records must be distinct"

section

variable (task : Adopted) (adapter : Adapter)

/-- What the loader of the adapter does behind the load. -/
def Adopted.checkProofs (receipts : List ProtocolReceipt) :
    Except String Unit :=
  if adapter ≠ .langgraph then .ok ()
  else
    match task.policy with
    | .document policy => task.checkReceipts policy receipts
    | _ => .error "Cannot validate LangGraph v3 receipt ledger: invalid-policy"

/-- What the loader of the adapter does before the load. -/
def Adopted.opens (root : Root) :
    Except String (String × Int) := do
  if adapter = .langgraph then
    let identity ← langgraphIdentity task root
    task.requireUnmixedV3Ledger
    .ok identity
  else
    task.checkMarker adapter
    referenceIdentity task root

/-- The runtime of the task in an installation. -/
def Adopted.runtime (root : Root) : Runtime where
  adopted := present task.marker
  marker := (task.opens adapter root).map fun _ => ()
  store :=
    match task.opens adapter root with
    | .ok (id, epoch) => ⟨id, epoch, task.taskId⟩
    | .error _ => ⟨"", 0, task.taskId⟩
  ledger := task.ledger
  proofs := task.checkProofs adapter

end

/-! ### Ledgers and epochs -/

section Epochs

variable {task : Adopted} {adapter : Adapter} {root before after : Root} {receipts : List Value}
  {id id' : String} {epoch epoch' : Int}

theorem opens_eq_ok {identity : String × Int} : task.opens adapter root = .ok identity ↔
    task.identity adapter root = .ok identity ∧ task.checkAdoption adapter = .ok () := by
  rw [Adopted.opens, Adopted.identity, Adopted.checkAdoption]
  split
  · simp only [Kernel.bind_eq_ok, Unique.exists_iff, Except.ok.injEq]
    constructor
    · rintro ⟨_, hidt, hmixed, rfl⟩
      exact ⟨hidt, hmixed⟩
    · rintro ⟨hidt, hmixed⟩
      exact ⟨_, hidt, hmixed, rfl⟩
  · simp only [Kernel.bind_eq_ok, Unique.exists_iff]
    exact and_comm

theorem runtime_of_opens (h : task.opens adapter root = .ok (id, epoch)) :
    task.runtime adapter root =
      ⟨present task.marker, .ok (), ⟨id, epoch, task.taskId⟩, task.ledger,
        task.checkProofs adapter⟩ := by
  simp only [Adopted.runtime, h]
  rfl

/-- What is loaded is what the ledger holds, all of it of the epoch that it is loaded in. -/
theorem loaded_epoch (hidt : task.identity adapter root = .ok (id, epoch))
    (hload : loadRuntimeV3Receipts adapter (task.runtime adapter root) = .ok receipts) :
    task.checkAdoption adapter = .ok () ∧
      ∃ items, Receipts.loadReceipts task.ledger = .ok items ∧
        task.checkProofs adapter items = .ok () ∧ receipts = items.map canonicalValue ∧
        ∀ item ∈ items, item.draft.leaderEpoch = epoch := by
  have hopens : task.opens adapter root = .ok (id, epoch) := by
    have hmarker := (loadRuntimeV3Receipts_eq_ok.mp hload).1
    rw [Adopted.runtime] at hmarker
    cases hopens : task.opens adapter root with
    | error e =>
      rw [hopens] at hmarker
      cases hmarker
    | ok identity => rw [← hidt, (opens_eq_ok.mp hopens).1]
  rw [runtime_of_opens hopens, loadRuntimeV3Receipts_eq_ok] at hload
  obtain ⟨-, ledger, hldg, hpfs, rfl⟩ := hload
  obtain ⟨hch, hep⟩ := Receipts.chain_of_loadUnlocked (of_load hldg)
  obtain ⟨items, hitems, rfl, -⟩ := Receipts.loadUnlocked_iff.mp (of_load hldg)
  refine ⟨(opens_eq_ok.mp hopens).2, items, hitems, hpfs, rfl, fun item hitem => ?_⟩
  obtain ⟨_, hfol⟩ := hch.follows item hitem
  exact hfol.leaderEpoch.trans hep

/-- **A ledger outlives its epoch exactly if it is empty**: whatever has happened to the
installation, once its leader has a higher epoch the loaders refuse the receipts that they have
returned before. -/
theorem receipts_kept_iff (hbefore : task.identity adapter before = .ok (id, epoch))
    (hafter : task.identity adapter after = .ok (id', epoch')) (hepoch : epoch < epoch')
    (hload : loadRuntimeV3Receipts adapter (task.runtime adapter before) = .ok receipts) :
    loadRuntimeV3Receipts adapter (task.runtime adapter after) = .ok receipts ↔
      receipts = [] := by
  obtain ⟨hgate, items, hitems, hproofs, rfl, hold⟩ := loaded_epoch hbefore hload
  constructor
  · intro hload'
    obtain ⟨-, items', hitems', -, -, hnew⟩ := loaded_epoch hafter hload'
    cases hitems.symm.trans hitems'
    cases items with
    | nil => rfl
    | cons item items =>
      -- the receipt would have to be of both epochs
      have hsame : epoch = epoch' := (hold item (by simp)).symm.trans (hnew item (by simp))
      omega
  · intro hnil
    obtain rfl : items = [] := List.map_eq_nil_iff.mp hnil
    rw [runtime_of_opens (opens_eq_ok.mpr ⟨hafter, hgate⟩), loadRuntimeV3Receipts_eq_ok]
    exact ⟨rfl, _, load_none (Receipts.loadUnlocked_iff.mpr ⟨[], hitems, rfl, by simp⟩),
      hproofs, rfl⟩

end Epochs

/-! ### Transitions -/

section Transition

open Control

variable {root : Root} {args : Arguments} {world : World} {r : Reading} {kind : EventKind}
  {id : String} {epoch n : Int}

/-- **A transition that raises the epoch leaves an installation that the loaders take.** -/
theorem identityOf_behind (h : Proceeds root args world r) (hj : root.journal = .missing)
    (hfr : Fresh root world) (hrdy : Ready root r) (hsuits : Suits r.raw args kind)
    (hidt : identityOf r.installation r.raw = some (id, epoch))
    (hhas : args.payload.has "active_leader_epoch")
    (hep : args.payload.get "active_leader_epoch" = .int n) (hn : epoch < n) :
    ∃ result after installation state, transition args world root = (.ok result, after) ∧
      result.get "status" = .str args.targetStatus ∧
      after.installation = .document installation ∧ installation.isObject ∧
      after.state = .document state ∧ state.isObject ∧
      identityOf installation state = some (id, n) := by
  have hcompl := h.accepted hj hfr hrdy hsuits
  obtain ⟨hnext, hblt⟩ := h.built
  generalize recordsOf args world r = j at hcompl hblt
  obtain ⟨-, -, hobj⟩ := readInstallation_eq_ok.mp h.installation
  obtain ⟨hsch, hver, hid, hold, hne, hsta, hone, hsame⟩ := identityOf_eq_some.mp hidt
  obtain ⟨hid', -, hep'⟩ := hblt.get_installation hobj
  have hnew : j.nextState.get "active_leader_epoch" = .int n := by
    rw [hblt.get_state hnext (by decide) (by decide), hnext.copied _ (by decide), if_pos hhas,
      hep]
  have hkept : ∀ k ∉ movedFields, k ≠ "projection_digest" → k ≠ "last_event_digest" →
      k ≠ "active_leader" → j.nextState.get k = r.raw.get k := by
    intro k hk hdig hlink hact
    rw [hblt.get_state hnext hdig hlink, hnext.kept k hk, get_authorityView h.object hact]
  -- both documents are written, since they have the old epoch
  have hwr : r.raw.equal j.nextState = false := by
    rw [← Bool.not_eq_true]
    intro heq
    have hget := equal_get heq "active_leader_epoch"
    rw [hold, hnew, equal_int_int, decide_eq_true_eq] at hget
    omega
  have hinstd : r.installation.equal j.installation = false := by
    rw [← Bool.not_eq_true]
    intro heq
    have hget := equal_trans (equal_symm hsame)
      (equal_get heq "active_leader_epoch")
    rw [hep', hnew, equal_int_int, decide_eq_true_eq] at hget
    omega
  refine ⟨_, _, j.installation, j.nextState,
    by rw [transition, hcompl, Durable.last_trail], ?_, ?_,
    hblt.installation_object hobj, ?_, hblt.state_object hnext,
    identityOf_eq_some.mpr ⟨?_, ?_, ?_, hnew, hne, ?_, by omega, ?_⟩⟩
  · rw [hblt.get_message (k := "result") rfl, resultOf]
    exact get_dict (by simp)
  · simp [writesOf, hwr, hinstd, Root.apply]
  · simp [writesOf, hwr, hinstd, Root.apply]
  · rw [hblt.installed]
    simp [installationAt, get_set, hobj, hsch]
  · rw [hkept _ (by decide) (by decide) (by decide) (by decide), hver]
  · rw [hid', hid]
  · rw [hkept _ (by decide) (by decide) (by decide) (by decide), hsta]
  · rw [hep', hnew]
    exact equal_self _

end Transition

/-! ### A rotation -/

/-- An installation that is about to rotate its leader. -/
def servedState (epoch : Int) : Value :=
  let state := (Control.legacyState.set "installation_id" (.str "installation")).set
    "active_leader_epoch" (.int epoch)
  state.set "projection_digest" (.str (Control.stateDigest state))

def servedInstallation (epoch : Int) : Value :=
  .dict [("schema_version", .str "valp-installation.v1"),
    ("installation_id", .str "installation"),
    ("active_leader_epoch", .int epoch)] (by simp)

def servedRoot (epoch : Int) : Root where
  installation := .document (servedInstallation epoch)
  state := .document (servedState epoch)
  journal := .missing
  messages := none
  events := none
  failures := none

def servedLedger : Option Bytes :=
  some (Receipts.ledgerBytes
    [Receipts.makeReceipt (Receipts.sampleBase "dispatch_submitted" none).withProofs])

/-- A task that has adopted the runtime `herdr`. -/
def servedTask (ledger : Option Bytes) : Adopted where
  taskId := "task"
  text := fun _ => ""
  marker := .document (expectedAdoptionMarker .herdr "task")
  isMixed := false
  policy := .document (.dict [
    ("schema_version", .str "valp-automation-policy.v1"),
    ("approval_required", .bool false)] (by simp))
  ledger := ledger
  record _ := .missing

theorem identityOf_served (epoch : Int) (h : 1 ≤ epoch) :
    identityOf (servedInstallation epoch) (servedState epoch) = some ("installation", epoch) :=
  identityOf_eq_some.mpr ⟨rfl, rfl, rfl, rfl, by decide, rfl, h, equal_self _⟩

theorem identity_servedTask (ledger : Option Bytes) (epoch : Int) (h : 1 ≤ epoch) :
    (servedTask ledger).identity .herdr (servedRoot epoch) = .ok ("installation", epoch) := by
  simp only [Adopted.identity, referenceIdentity, servedTask, servedRoot, identityOf_served epoch h]
  rfl

theorem opens_servedTask (ledger : Option Bytes) (epoch : Int) (h : 1 ≤ epoch) :
    (servedTask ledger).opens .herdr (servedRoot epoch) = .ok ("installation", epoch) := by
  refine opens_eq_ok.mpr ⟨identity_servedTask ledger epoch h, ?_⟩
  rw [Adopted.checkAdoption, if_neg (by decide), Adopted.checkMarker]
  simp only [servedTask, equal_self]
  rfl

theorem ledger_served : Receipts.sampleStore.load none servedLedger =
    .ok (Receipts.sampleStore.ledger [adoptedReceipt]) :=
  Receipts.load_sample Receipts.fieldsValid_sampleBase.2 (by decide)

theorem load_served :
    loadRuntimeV3Receipts .herdr ((servedTask servedLedger).runtime .herdr (servedRoot 1)) =
      .ok [canonicalValue adoptedReceipt] := by
  rw [runtime_of_opens (opens_servedTask _ 1 (by decide)), loadRuntimeV3Receipts_eq_ok]
  exact ⟨rfl, _, ledger_served, rfl, rfl⟩

/-- A receipt of the first epoch is not loaded in the second. -/
theorem receipts_not_kept :
    loadRuntimeV3Receipts .herdr ((servedTask servedLedger).runtime .herdr (servedRoot 2)) ≠
      .ok [canonicalValue adoptedReceipt] := by
  intro h
  cases (receipts_kept_iff (identity_servedTask _ 1 (by decide))
    (identity_servedTask _ 2 (by decide)) (by decide) load_served).mp h

section Rotation

open Control

theorem servedRoot_proceeds : ∃ next, Proceeds (servedRoot 1) rotationCompleted sampleWorld
    ⟨servedState 1, .active, next, servedInstallation 1, [], []⟩ := by
  obtain ⟨next, hnext⟩ : ∃ next, nextState (authorityView (servedState 1)) rotationCompleted
      .active sampleWorld = .ok next := exists_nextState sampleWorld (n := .int 8) rfl ⟨_, rfl⟩
  have hdig : (servedState 1).get "projection_digest" = .str (stateDigest (servedState 1)) := by
    rw [servedState, get_set_self rfl, stateDigest, stateDigest, digestWithout_set rfl]
  refine ⟨next, rfl, rfl, ?_, rfl, rfl, hnext, rfl, rfl, rfl, rfl⟩
  rw [hdig]
  exact equal_self _

/-- **A completed rotation hides the receipts of a task**: the loader returns one in the first
epoch, the rotation is accepted, and the ledger is refused in the second. -/
theorem rotation_hides_receipts :
    loadRuntimeV3Receipts .herdr ((servedTask servedLedger).runtime .herdr (servedRoot 1)) =
      .ok [canonicalValue adoptedReceipt] ∧
    ∃ result after, transition rotationCompleted sampleWorld (servedRoot 1) = (.ok result, after) ∧
      result.get "status" = .str "active" ∧
      (servedTask servedLedger).identity .herdr after = .ok ("installation", 2) ∧
      ∀ receipts, loadRuntimeV3Receipts .herdr ((servedTask servedLedger).runtime .herdr after) ≠
        .ok receipts := by
  obtain ⟨next, hproceeds⟩ := servedRoot_proceeds
  obtain ⟨result, after, installation, state, htransition, hstatus, hinstallation, hobject, hstate,
    hobject', hidentity⟩ := identityOf_behind hproceeds rfl
    ⟨fun records h => by cases h; simp [Unused], fun records h => by cases h; simp [Unused]⟩
    ⟨rfl, rfl, rfl, rfl, fun h => absurd rfl h, fun h => absurd rfl h⟩
    (rotationCompleted_suits _) (identityOf_served 1 (by decide)) rfl rfl (by decide)
  have hbehind : (servedTask servedLedger).identity .herdr after = .ok ("installation", 2) := by
    simp only [Adopted.identity, referenceIdentity, servedTask, hinstallation, hstate, hobject,
      hobject', hidentity]
    rfl
  refine ⟨load_served, result, after, htransition, hstatus, hbehind, fun receipts hload => ?_⟩
  obtain ⟨-, items, hitems, -, -, hepochs⟩ := loaded_epoch hbehind hload
  obtain ⟨items', hitems', heq, -⟩ := Receipts.loadUnlocked_iff.mp (of_load ledger_served)
  cases hitems.symm.trans hitems'
  have hsingle : [adoptedReceipt] = items := congrArg Receipts.ReceiptLedger.receipts heq
  have hitem : adoptedReceipt ∈ items := hsingle ▸ List.mem_singleton_self _
  exact absurd (hepochs _ hitem : (1 : Int) = 2) (by decide)

end Rotation

end Valp.Dispatch
