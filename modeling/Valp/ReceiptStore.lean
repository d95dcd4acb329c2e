/-
The durable receipt ledger (`ReceiptStore` of `valp_cli/receipt_store.py`).

`load` reads the file and lets `propose_receipt_append` check it, with the last draft as a
probe that has to be a repetition.  `append` takes a write that was accepted for some copy
of the ledger, proposes its draft again to the ledger on disk, and replaces the file if the
outcome is the same.  Both run under the lock of the store, so a call is atomic.

* `load_reachable_iff` — **the loaded ledgers that proposals can build.**
-/
import Valp.ReceiptCodec
import Valp.StoreLock

namespace Valp.Receipts

open Kernel (canonicalJson canonicalBytes digest isDigest bind_eq_ok mapError_eq_ok)

/-- The identity that a `ReceiptStore` is created with. -/
structure ReceiptStore where
  installationId : String
  leaderEpoch : Int
  taskId : String
  deriving DecidableEq

def ReceiptStore.ledger (store : ReceiptStore) (receipts : List ProtocolReceipt) :
    ReceiptLedger where
  installationId := store.installationId
  leaderEpoch := store.leaderEpoch
  taskId := store.taskId
  revision := receipts.length
  receipts := receipts

theorem ReceiptStore.push (store : ReceiptStore) (receipts : List ProtocolReceipt)
    (receipt : ProtocolReceipt) :
    (store.ledger receipts).push receipt = store.ledger (receipts ++ [receipt]) := by
  simp [ReceiptLedger.push, ReceiptStore.ledger]

/-- The error of a file that cannot be loaded. -/
def ledgerCorrupt (message : String) : StoreError where
  code := .ledgerCorrupt
  message := "cannot load receipt ledger: " ++ message

def ReceiptStore.loadUnlocked (store : ReceiptStore) (file : Option Bytes) :
    Except StoreError ReceiptLedger := do
  let receipts ← (loadReceipts file).mapError ledgerCorrupt
  let ledger := store.ledger receipts
  match receipts.getLast? with
  | none => .ok ledger
  | some last =>
    match proposeReceiptAppend ledger last.draft with
    | .noOp _ _ => .ok ledger
    | _ => .error (ledgerCorrupt "receipt ledger invariants failed")

def ReceiptStore.load (store : ReceiptStore) (fault : Option Fault) (file : Option Bytes) :
    Except Raised ReceiptLedger :=
  (locked fault file {
    result := (store.loadUnlocked file).mapError .store
    files := file
    replaced := false }).1

/-- An error of an append whose write is not what it claims. -/
def obligationError (message : String) : StoreError where
  code := .obligation
  message := message

def validateObligation (accepted : ReceiptWriteAccepted) : Except StoreError String := do
  let expected := obligation accepted.receipt
  if accepted.obligations ≠ [expected] then
    .error (obligationError "append obligation does not match receipt digest")
  let ledger := accepted.ledger
  if !(ledger.revision == accepted.receipt.ledgerRevision.value &&
      ledger.receipts.getLast?.any fun last => last.same accepted.receipt) then
    .error (obligationError "accepted ledger does not end at obligation receipt")
  let before : ReceiptLedger :=
    { ledger with revision := ledger.revision - 1, receipts := ledger.receipts.dropLast }
  match proposeReceiptAppend before accepted.receipt.draft with
  | .accepted replayed =>
    if replayed.same accepted then .ok expected
    else .error (obligationError "accepted ledger snapshot is not reproducible")
  | _ => .error (obligationError "accepted ledger snapshot is not reproducible")

section

variable (store : ReceiptStore) (fault : Option Fault) (file : Option Bytes)
  (accepted : ReceiptWriteAccepted)

/-- The locked part of `ReceiptStore.append`. -/
def ReceiptStore.appendLocked (expected : String) :
    Session (Option Bytes) ReceiptWriteResult :=
  let keep (result : Except Raised ReceiptWriteResult) :
      Session (Option Bytes) ReceiptWriteResult :=
    { result := result, files := file, replaced := false }
  match store.loadUnlocked file with
  | .error error => keep (.error (.store error))
  | .ok durable =>
    match proposeReceiptAppend durable accepted.receipt.draft with
    | .noOp ledger prior =>
      if canonicalJson prior.canonical ≠ canonicalJson accepted.receipt.canonical then
        keep (.error (.store (obligationError "existing receipt differs from accepted obligation")))
      else keep (.ok (.noOp ledger prior))
    | .rejected ledger errorCode => keep (.ok (.rejected ledger errorCode))
    | .accepted result =>
      if result.obligations ≠ [expected] ∨
          canonicalJson result.receipt.canonical ≠ canonicalJson accepted.receipt.canonical ∨
          !result.ledger.same accepted.ledger then
        keep (.error (.store (obligationError "replayed receipt differs from accepted obligation")))
      else
        commit fault "receipt append failed before replacement: "
          "receipt replaced but directory sync failed: " file
          (some (ledgerBytes result.ledger.receipts)) (.ok (.accepted result))

def ReceiptStore.append : Except Raised ReceiptWriteResult × Option Bytes :=
  match validateObligation accepted with
  | .error error => (.error (.store error), file)
  | .ok expected => locked fault file (store.appendLocked fault file accepted expected)

end

/-! ### Loading -/

section Load

variable {store : ReceiptStore} {fault : Option Fault} {file : Option Bytes}
  {ledger : ReceiptLedger} {receipts : List ProtocolReceipt} {receipt : ProtocolReceipt}

/-- The probe of a load: the last receipt is one that `_make_receipt` makes. -/
theorem probe_iff {other : ReceiptLedger} {prior : ProtocolReceipt}
    (hlast : ledger.receipts.getLast? = some receipt) :
    proposeReceiptAppend ledger receipt.draft = .noOp other prior ↔
      ledgerValid ledger ∧ other = ledger ∧ prior = receipt ∧
        ∃ n, receipt.ledgerRevision = .int n := by
  have hmem : receipt ∈ ledger.receipts := List.mem_of_getLast? hlast
  rw [propose_noOp_iff]
  constructor
  · rintro ⟨hval, htyped, rfl, hfind, htext⟩
    rw [find?_receiptId hval hmem, Option.some_inj] at hfind
    subst hfind
    refine ⟨hval, rfl, rfl, ?_⟩
    have hrcpt := (ledgerValid_iff.mp hval).2.2.2.2.valid receipt hmem
    have hdr := (draftTyped_iff.mp htyped).1
    have hsort := ProtocolReceipt.canonical_injective (b := makeReceipt receipt.draft) hdr
      hdr (receiptValid_iff.mp hrcpt).2.1 rfl htext
    have hrev : receipt.sorted.ledgerRevision =
        (makeReceipt receipt.draft).sorted.ledgerRevision := by rw [hsort]
    simp only [ProtocolReceipt.sorted, makeReceipt_ledgerRevision] at hrev
    exact ⟨_, hrev⟩
  · rintro ⟨hval, rfl, rfl, n, hn⟩
    have hrcpt := (ledgerValid_iff.mp hval).2.2.2.2.valid prior hmem
    refine ⟨hval, draftTyped_of_draftValid (receiptValid_iff.mp hrcpt).1, rfl,
      find?_receiptId hval hmem, ?_⟩
    rw [← eq_makeReceipt hrcpt hn]

/-- **Which files are loaded**: those whose receipts, if there are any, are a valid ledger of
the store that ends in a receipt with an integer for a revision. -/
theorem loadUnlocked_iff : store.loadUnlocked file = .ok ledger ↔
    ∃ receipts, loadReceipts file = .ok receipts ∧ ledger = store.ledger receipts ∧
      ∀ last ∈ receipts.getLast?, ledgerValid ledger ∧
        ∃ n, last.ledgerRevision = .int n := by
  rw [ReceiptStore.loadUnlocked, bind_eq_ok]
  simp only [mapError_eq_ok]
  refine exists_congr fun receipts => and_congr_right fun _ => ?_
  cases hlast : receipts.getLast? with
  | none =>
    rw [Except.ok.injEq, eq_comm]
    exact (and_iff_left (by simp)).symm
  | some last =>
    have hprobe : ∀ other prior, proposeReceiptAppend (store.ledger receipts) last.draft =
        .noOp other prior ↔ _ := fun other prior => probe_iff hlast
    simp only [Option.mem_def, Option.some.injEq, forall_eq']
    cases hres : proposeReceiptAppend (store.ledger receipts) last.draft with
    | noOp other prior =>
      obtain ⟨hval, -, -, hrev⟩ := (hprobe other prior).mp hres
      simp only [Except.ok.injEq]
      refine ⟨fun h => ⟨h.symm, h ▸ hval, hrev⟩, fun h => h.1.symm⟩
    | accepted write | rejected other code =>
      refine iff_of_false nofun ?_
      rintro ⟨rfl, hval, hrev⟩
      have hnoOp := (hprobe _ last).mpr ⟨hval, rfl, rfl, hrev⟩
      cases hres.symm.trans hnoOp

theorem of_load (h : store.load fault file = .ok ledger) :
    store.loadUnlocked file = .ok ledger := by
  rw [ReceiptStore.load] at h
  rcases locked_cases fault file
    ⟨(store.loadUnlocked file).mapError Raised.store, file, false⟩ with ⟨-, hfail⟩ | ⟨-, hok⟩
  · exact absurd h (hfail ledger)
  · exact mapError_eq_ok.mp (hok ledger h)

theorem load_none (h : store.loadUnlocked file = .ok ledger) :
    store.load none file = .ok ledger := by
  rw [ReceiptStore.load, locked_none, h]
  rfl

/-- A valid ledger is read back from its bytes, with the proof bindings in canonical order. -/
theorem loadUnlocked_ledgerBytes (hval : ledgerValid (store.ledger receipts))
    (hlast : ∀ last ∈ receipts.getLast?, ∃ n, last.ledgerRevision = .int n) :
    store.loadUnlocked (some (ledgerBytes receipts)) =
      .ok (store.ledger (receipts.map ProtocolReceipt.sorted)) := by
  obtain ⟨hinst, htask, hep, hrev, hch⟩ := ledgerValid_iff.mp hval
  have hread : (receipts.map fun receipt => canonicalBytes receipt.canonical).mapM loadLine =
      .ok (receipts.map ProtocolReceipt.sorted) := by
    have hls : (Bytes.splitLines (receipts.map fun receipt : ProtocolReceipt =>
        canonicalBytes receipt.canonical).flatten).mapM loadLine =
          .ok (receipts.map ProtocolReceipt.sorted) := by
      refine Bytes.mapM_lines (fun receipt _ => Kernel.isLine_canonicalBytes _) ?_
      intro receipt hrcpt
      obtain ⟨hdr, hrev, -⟩ := receiptValid_iff.mp (hch.valid receipt hrcpt)
      exact loadLine_canonicalBytes (draftTyped_of_valid hdr) hrev
    rwa [Bytes.splitLines_lines (isLine_receipts receipts)] at hls
  refine loadUnlocked_iff.mpr ⟨_, ?_, rfl, ?_⟩
  · rw [loadReceipts_ledgerBytes_eq, loadLines, hread]
    rfl
  · intro last hmem
    rw [List.getLast?_map, Option.mem_def, Option.map_eq_some_iff] at hmem
    obtain ⟨receipt, hrcpt, rfl⟩ := hmem
    exact ⟨ledgerValid_iff.mpr ⟨hinst, htask, hep, rfl,
      hch.sorted.of_identity rfl rfl rfl⟩, hlast receipt hrcpt⟩

theorem chain_of_loadUnlocked (h : store.loadUnlocked file = .ok ledger) :
    Chain ledger ledger.receipts ∧ ledger.leaderEpoch = store.leaderEpoch := by
  obtain ⟨receipts, -, rfl, hlast⟩ := loadUnlocked_iff.mp h
  refine ⟨?_, rfl⟩
  cases hne : receipts.getLast? with
  | none =>
    obtain rfl := List.getLast?_eq_none_iff.mp hne
    exact .nil
  | some last => exact (ledgerValid_iff.mp (hlast last hne).1).2.2.2.2

/-- **Which loaded ledgers proposals can build**: those in which every `dispatch_completed`
stands behind its `dispatch_submitted`, and no revision is a `bool`. -/
theorem load_reachable_iff (h : store.load fault file = .ok ledger) :
    Reachable ledger ↔ CompletionsSubmitted ledger.receipts ∧ RevisionsInt ledger.receipts := by
  obtain ⟨receipts, -, rfl, hlast⟩ := loadUnlocked_iff.mp (of_load h)
  cases hne : receipts.getLast? with
  | none =>
    -- an empty ledger is built by no proposal at all
    obtain rfl := List.getLast?_eq_none_iff.mp hne
    exact iff_of_true ⟨[], rfl⟩
      ⟨completionsSubmitted_nil, by simp [RevisionsInt, ReceiptStore.ledger]⟩
  | some last => exact reachable_iff (hlast last hne).1

end Load

/-! ### Appending -/

section Append

variable {store : ReceiptStore} {fault : Option Fault} {file : Option Bytes}
  {accepted : ReceiptWriteAccepted} {ledger : ReceiptLedger} {draft : ReceiptDraft}
  {receipts : List ProtocolReceipt} {receipt : ProtocolReceipt}

/-- **What `append` can do to the file**: nothing, or it adds the receipt that the ledger on
disk accepts for the draft. -/
theorem append_cases (store : ReceiptStore) (fault : Option Fault) (file : Option Bytes)
    (accepted : ReceiptWriteAccepted) :
    ((store.append fault file accepted).2 = file ∧
      ∀ write, (store.append fault file accepted).1 ≠ .ok (.accepted write)) ∨
    ∃ durable write, store.loadUnlocked file = .ok durable ∧
      proposeReceiptAppend durable accepted.receipt.draft = .accepted write ∧
      write.ledger.same accepted.ledger ∧
      (store.append fault file accepted).2 = some (ledgerBytes write.ledger.receipts) ∧
      ∀ other, (store.append fault file accepted).1 = .ok (.accepted other) → other = write := by
  rw [ReceiptStore.append]
  cases validateObligation accepted with
  | error error => exact .inl ⟨rfl, fun write h => by cases h⟩
  | ok expected =>
    dsimp only
    have hkeep : ∀ result : Except Raised ReceiptWriteResult,
        (∀ write, result ≠ .ok (.accepted write)) →
        (locked fault file ⟨result, file, false⟩).2 = file ∧
          ∀ write, (locked fault file ⟨result, file, false⟩).1 ≠ .ok (.accepted write) := by
      intro result hres
      rcases locked_cases fault file ⟨result, file, false⟩ with ⟨hfile, hok⟩ | ⟨hfile, hok⟩
      · exact ⟨hfile, fun write => hok _⟩
      · exact ⟨hfile, fun write h => hres write (hok _ h)⟩
    rw [ReceiptStore.appendLocked]
    cases hload : store.loadUnlocked file with
    | error error => exact .inl (hkeep _ fun write h => by cases h)
    | ok durable =>
      dsimp only
      cases hprop : proposeReceiptAppend durable accepted.receipt.draft with
      | noOp other prior =>
        dsimp only
        split
        · exact .inl (hkeep _ fun write h => by cases h)
        · exact .inl (hkeep _ fun write h => by cases h)
      | rejected other code => exact .inl (hkeep _ fun write h => by cases h)
      | accepted write =>
        dsimp only
        split
        · exact .inl (hkeep _ fun write h => by cases h)
        rename_i hgd
        have hsame : write.ledger.same accepted.ledger := by
          by_contra hne
          exact hgd (.inr (.inr (by simpa using hne)))
        refine (locked_cases fault file _).elim (fun ⟨hfile, hok⟩ => .inl ⟨hfile, fun _ => hok _⟩)
          fun ⟨hfile, hok⟩ => ?_
        rcases commit_cases .. with ⟨hbef, hfail⟩ | ⟨haft, hres⟩
        · exact .inl ⟨hfile.trans hbef, fun write h => hfail _ (hok _ h)⟩
        · refine .inr ⟨durable, write, rfl, hprop, hsame, hfile.trans haft, fun other h => ?_⟩
          cases hres _ (hok _ h)
          rfl

theorem validateObligation_accepted (h : proposeReceiptAppend ledger draft = .accepted accepted) :
    validateObligation accepted = .ok (obligation (makeReceipt draft)) := by
  obtain ⟨hval, hfol, -, rfl⟩ := propose_accepted_iff.mp h
  have hrev : ledger.revision + 1 = draft.expectedRevision + 1 := by
    rw [revision_of_ledgerValid hval]
    exact hfol.revision.symm
  have hbef : ({ ledger.push (makeReceipt draft) with
      revision := (ledger.push (makeReceipt draft)).revision - 1
      receipts := (ledger.push (makeReceipt draft)).receipts.dropLast } : ReceiptLedger) =
        ledger := by
    simp [ReceiptLedger.push]
  have hlast : ((ledger.push (makeReceipt draft)).revision ==
        (makeReceipt draft).ledgerRevision.value &&
      (ledger.push (makeReceipt draft)).receipts.getLast?.any fun last =>
        last.same (makeReceipt draft)) := by
    have hend : (ledger.push (makeReceipt draft)).receipts.getLast? = some (makeReceipt draft) :=
      List.getLast?_concat
    rw [hend, Option.any_some, ProtocolReceipt.same_refl, Bool.and_true, beq_iff_eq]
    exact hrev
  unfold validateObligation
  simp only [hlast, hbef]
  rw [if_neg (not_not.mpr rfl), if_neg (by decide), makeReceipt_draft, h]
  simp only [ReceiptWriteAccepted.same, ReceiptLedger.same_refl, ProtocolReceipt.same_refl,
    beq_self_eq_true, Bool.and_self, if_true]

/-- **What `append` answers for a write that was accepted**, when the file system does not
fail: what the ledger on disk answers for the draft, and a write that ends in another ledger
than the one it was accepted for is refused. -/
theorem append_eq {durable : ReceiptLedger} (hload : store.loadUnlocked file = .ok durable)
    (h : proposeReceiptAppend ledger draft = .accepted accepted) :
    store.append none file accepted =
      match proposeReceiptAppend durable draft with
      | .accepted result =>
        if result.ledger.same accepted.ledger then
          (.ok (.accepted result), some (ledgerBytes result.ledger.receipts))
        else
          (.error (.store
            (obligationError "replayed receipt differs from accepted obligation")), file)
      | result => (.ok result, file) := by
  have hrcpt : accepted.receipt = makeReceipt draft := by
    obtain ⟨-, -, -, rfl⟩ := propose_accepted_iff.mp h
    rfl
  rw [ReceiptStore.append, validateObligation_accepted h]
  dsimp only
  rw [locked_none, ReceiptStore.appendLocked, hload]
  dsimp only
  rw [hrcpt, makeReceipt_draft]
  cases hprop : proposeReceiptAppend durable draft with
  | noOp other prior =>
    obtain ⟨-, -, -, -, htext⟩ := propose_noOp_iff.mp hprop
    dsimp only
    rw [if_neg (not_not.mpr htext)]
  | rejected other code => rfl
  | accepted result =>
    obtain ⟨-, -, -, rfl⟩ := propose_accepted_iff.mp hprop
    dsimp only
    cases hsame : (durable.push (makeReceipt draft)).same accepted.ledger with
    | false => rw [if_pos (.inr (.inr rfl)), if_neg Bool.false_ne_true]
    | true =>
      rw [if_neg, if_pos rfl, commit_none]
      rintro (hne | hne | hne)
      · exact hne rfl
      · exact hne rfl
      · cases hne

end Append

/-! ### A first receipt -/

def sampleDigest (c : Char) : String := "sha256:" ++ String.ofList (List.replicate 64 c)

theorem isDigest_sampleDigest {c : Char} (hc : c ∈ Sha256.hexChars) :
    isDigest (sampleDigest c) :=
  Kernel.isDigest_hex List.length_replicate fun _ h => List.eq_of_mem_replicate h ▸ hc

def sampleBase (event : String) (suspensionEpoch : Option Int) : ReceiptDraft where
  receiptId := "receipt"
  installationId := "installation"
  leaderEpoch := 1
  taskId := "task"
  agent := "agent"
  role := "implementer"
  workItemId := "work"
  attemptId := "attempt"
  dispatchId := "dispatch"
  dispatchGeneration := 1
  mode := .known .full
  eventSequence := 1
  expectedRevision := 0
  priorReceiptDigest := emptyReceiptLedgerDigest
  event := event
  ts := "2026-01-01T00:00:00Z"
  dispatchRef := "dispatch.md"
  payloadDigest := sampleDigest 'a'
  expectedRefs := []
  proofBindings := []
  approvalBinding := { status := "not_required", policyDigest := sampleDigest 'b' }
  suspensionEpoch := suspensionEpoch

def sampleProofs (subject : String) : List ProofBinding := [
  ⟨.known .processBound, "process.json", sampleDigest 'c', subject⟩,
  ⟨.known .contentBound, "content.json", sampleDigest 'd', subject⟩]

def ReceiptDraft.withProofs (base : ReceiptDraft) : ReceiptDraft :=
  { base with proofBindings := sampleProofs (receiptSubjectDigest base) }

theorem sampleProofs_text_ne (subject : String) :
    canonicalJson (⟨.known .processBound, "process.json", sampleDigest 'c', subject⟩ :
      ProofBinding).canonical ≠
    canonicalJson (⟨.known .contentBound, "content.json", sampleDigest 'd', subject⟩ :
      ProofBinding).canonical := by
  intro h
  have hsame := ProofBinding.canonical_injective (by rfl) (by rfl)
    (Kernel.canonicalJson_injective h)
  cases congrArg ProofBinding.proofKind hsame

theorem draftValid_withProofs {base : ReceiptDraft} (hflds : fieldsValid base)
    (hmode : base.mode = .known .full) (hev : manualEvents.contains base.event = false)
    (hmigr : base.migrationBinding = none) : draftValid base.withProofs := by
  have hrefs : isSafeRef "process.json" = true ∧ isSafeRef "content.json" = true := by decide
  have hdigs : isDigest (sampleDigest 'c') ∧ isDigest (sampleDigest 'd') ∧
      sampleDigest 'c' ≠ sampleDigest 'd' :=
    ⟨isDigest_sampleDigest (by decide), isDigest_sampleDigest (by decide), by decide⟩
  have hsubj : receiptSubjectDigest base.withProofs = receiptSubjectDigest base := rfl
  have hbinds : bindingsValid base.withProofs := by
    rw [bindingsValid, hsubj]
    simp [ReceiptDraft.withProofs, sampleProofs_text_ne, sampleProofs, proofBindingValid, hrefs,
      hdigs, Kernel.Closed.isKnown]
  have hmodeProofs : modeProofsValid base.withProofs := by
    simpa [modeProofsValid, ReceiptDraft.withProofs, hmode] using hev
  have hdelivery : deliveryProofsValid base.withProofs := by
    simp [deliveryProofsValid, ReceiptDraft.withProofs, sampleProofs, hdigs]
  have hbase : fieldsValid base.withProofs := hflds
  rw [draftValid, hbase, hbinds, hmodeProofs, hdelivery]
  show base.migrationBinding.all migrationValid = true
  rw [hmigr]
  rfl

theorem fieldsValid_sampleBase : fieldsValid (sampleBase "dispatch_completed" (some 1)) ∧
      fieldsValid (sampleBase "dispatch_submitted" none) := by
  have hemp : isDigest emptyReceiptLedgerDigest := Kernel.isDigest_digest _
  have hdigs : isDigest (sampleDigest 'a') ∧ isDigest (sampleDigest 'b') :=
    ⟨isDigest_sampleDigest (by decide), isDigest_sampleDigest (by decide)⟩
  have href : isSafeRef "dispatch.md" := by decide
  constructor <;>
    simp [fieldsValid, sampleBase, approvalBindingValid, hemp, hdigs, href, receiptEvents,
      roles, terminalEvents, Kernel.Closed.isKnown]

def sampleStore : ReceiptStore := ⟨"installation", 1, "task"⟩

theorem sampleStore_valid : ledgerValid (sampleStore.ledger []) := by decide

variable {event : String} {epoch : Option Int}

theorem follows_sample
    (h : fieldsValid (sampleBase event epoch))
    (hev : manualEvents.contains event = false) :
    Follows (sampleStore.ledger []) [] (makeReceipt (sampleBase event epoch).withProofs) where
  valid := receiptValid_makeReceipt.trans (draftValid_withProofs h rfl hev rfl)
  revision := rfl
  sequence := rfl
  prior := rfl
  installation := rfl
  leaderEpoch := rfl
  task := rfl
  receiptId := by simp
  logicalKey := by simp
  migration := by simp

theorem load_sample
    (h : fieldsValid (sampleBase event epoch))
    (hev : manualEvents.contains event = false) :
    sampleStore.load none
        (some (ledgerBytes [makeReceipt (sampleBase event epoch).withProofs])) =
      .ok (sampleStore.ledger [(makeReceipt (sampleBase event epoch).withProofs).sorted]) := by
  have hval : ledgerValid (sampleStore.ledger [makeReceipt (sampleBase event epoch).withProofs]) :=
    ledgerValid_push.mpr ⟨sampleStore_valid, follows_sample h hev⟩
  refine load_none (loadUnlocked_ledgerBytes hval ?_)
  intro last hlast
  cases hlast
  exact ⟨_, rfl⟩

/-- A ledger with a submission is one that a proposal builds. -/
theorem load_reachable_submitted : ∃ file ledger, sampleStore.load none file = .ok ledger ∧
    ledger.receipts ≠ [] ∧ Reachable ledger := by
  have hload := load_sample fieldsValid_sampleBase.2 (by decide)
  refine ⟨_, _, hload, by simp [ReceiptStore.ledger], (load_reachable_iff hload).mpr ⟨?_, ?_⟩⟩
  · refine completionsSubmitted_concat.mpr ⟨completionsSubmitted_nil, ?_⟩
    intro hevent
    exact absurd hevent (by decide)
  · intro item hitem
    obtain rfl := List.mem_singleton.mp hitem
    exact ⟨_, rfl⟩

/-- A file with a completion alone is loaded, although no proposals build its ledger. -/
theorem load_unsubmitted_completion : ∃ file ledger, sampleStore.load none file = .ok ledger ∧
    ¬Reachable ledger := by
  have hload := load_sample fieldsValid_sampleBase.1 (by decide)
  refine ⟨_, _, hload, fun hreachable => ?_⟩
  have hfollows := (follows_sample fieldsValid_sampleBase.1 (by decide)).sorted
  have hvalid := ledgerValid_push.mpr ⟨sampleStore_valid, hfollows⟩
  have hsubmitted := ((reachable_iff hvalid).mp hreachable).1
  obtain ⟨item, hitem, -⟩ := hsubmitted [] _ [] rfl rfl
  cases hitem

end Valp.Receipts
