/-
Proposing to the ledger of the write before.

A writer that is alone need not load the file again: the result of a proposal carries the
next ledger, so that it can propose every draft to the ledger in memory and append what was
accepted.  The ledger in memory lists the proof bindings of a draft as the caller did, the one
on disk lists them in canonical order, and `append` compares the two as they are.

* `chain_commits_iff` — **every append is committed exactly when all drafts but the last list
  their proof bindings in canonical order**.
-/
import Valp.ReceiptWriters

namespace Valp.Receipts

open Kernel (isDigest)
open List

/-- The ledger in memory, the file, and what the appends have answered. -/
structure Chaining where
  ledger : ReceiptLedger
  file : Option Bytes
  results : List (Except Raised ReceiptWriteResult) := []

/-- A draft is proposed to the ledger in memory, and the write is appended. -/
def Chaining.step (store : ReceiptStore) (state : Chaining) (draft : ReceiptDraft) :
    Option Chaining :=
  match proposeReceiptAppend state.ledger draft with
  | .accepted accepted =>
    let (result, file) := store.append none state.file accepted
    some {
      ledger := accepted.ledger
      file := file
      results := state.results ++ [result] }
  | _ => none

/-- Every append was committed, and the file holds the ledger in memory. -/
def Chaining.Agrees (state : Chaining) : Prop :=
  (∀ result ∈ state.results, ∃ write, result = .ok (.accepted write)) ∧
    state.file.getD [] = ledgerBytes state.ledger.receipts

section Chain

variable {store : ReceiptStore} {file : Option Bytes} {ledger : ReceiptLedger}
  {receipts : List ProtocolReceipt} {drafts : List ReceiptDraft} {draft : ReceiptDraft}
  {state next : Chaining}

/-- **What one draft of a chain does.** -/
theorem Chaining.step_iff : state.step store draft = some next ↔
    ∃ accepted, proposeReceiptAppend state.ledger draft = .accepted accepted ∧
      next = ⟨accepted.ledger, (store.append none state.file accepted).2,
        state.results ++ [(store.append none state.file accepted).1]⟩ := by
  rw [Chaining.step]
  cases proposeReceiptAppend state.ledger draft with
  | accepted accepted =>
    simp only [Option.some.injEq, ReceiptWriteResult.accepted.injEq, exists_eq_left']
    exact eq_comm
  | noOp other prior => simp
  | rejected other code => simp

theorem sorted_of_loadUnlocked (h : store.loadUnlocked file = .ok ledger) :
    ledger.receipts.map ProtocolReceipt.sorted = ledger.receipts := by
  obtain ⟨receipts, hread, rfl, hlast⟩ := loadUnlocked_iff.mp h
  cases hne : receipts.getLast? with
  | none =>
    obtain rfl := List.getLast?_eq_none_iff.mp hne
    rfl
  | some last =>
    have hch := (ledgerValid_iff.mp (hlast last hne).1).2.2.2.2
    refine (map_congr_left fun receipt hmem => ?_).trans (map_id receipts)
    obtain ⟨line, hline⟩ := exists_loadLine hread hmem
    exact sorted_of_loadLine hline (hch.valid receipt hmem)

variable {receipt : ProtocolReceipt} {accepted : ReceiptWriteAccepted}

/-- A receipt equals the one on disk exactly when its proof bindings stand in canonical order. -/
theorem sorted_same_iff :
    receipt.sorted.same receipt ↔ receipt.draft.sorted = receipt.draft := by
  simp [ProtocolReceipt.same, ProtocolReceipt.sorted]

/-- **When the ledger on disk equals the one in memory**, with one receipt more on each. -/
theorem push_same_iff :
    ((store.ledger (receipts.map ProtocolReceipt.sorted)).push receipt).same
        ((store.ledger receipts).push receipt) ↔
      ∀ item ∈ receipts, item.draft.sorted = item.draft := by
  have hrcpts : (receipts.map ProtocolReceipt.sorted ++ [receipt]).isEqv
      (receipts ++ [receipt]) ProtocolReceipt.same ↔
        ∀ item ∈ receipts, item.draft.sorted = item.draft := by
    induction receipts with
    | nil => simp [List.isEqv]
    | cons first rest ih =>
      rw [map_cons, cons_append, cons_append, List.isEqv, Bool.and_eq_true, ih,
        sorted_same_iff, forall_mem_cons]
  rw [← hrcpts]
  simp [ReceiptLedger.same, ReceiptLedger.push, ReceiptStore.ledger]

/-- What is accepted for a ledger is accepted for the same ledger on disk. -/
theorem propose_sorted
    (h : proposeReceiptAppend (store.ledger receipts) draft = .accepted accepted) :
    proposeReceiptAppend (store.ledger (receipts.map ProtocolReceipt.sorted)) draft =
      .accepted ⟨(store.ledger (receipts.map ProtocolReceipt.sorted)).push (makeReceipt draft),
        makeReceipt draft, [obligation (makeReceipt draft)]⟩ := by
  obtain ⟨hval, hfol, hpres, -⟩ := propose_accepted_iff.mp h
  obtain ⟨hinst, htask, hep, -, hch⟩ := ledgerValid_iff.mp hval
  refine propose_accepted_iff.mpr ⟨ledgerValid_iff.mpr ⟨hinst, htask, hep, rfl,
    hch.sorted.of_identity rfl rfl rfl⟩, ?_, submissionPresent_iff.mpr fun hev => ?_, rfl⟩
  · exact { hfol.behind_sorted with }
  · obtain ⟨item, hitem, hsubd⟩ := submissionPresent_iff.mp hpres hev
    exact ⟨item.sorted, mem_map_of_mem hitem, hsubd⟩

theorem ledgerBytes_sorted (h : Chain ledger receipts) :
    ledgerBytes (receipts.map ProtocolReceipt.sorted) = ledgerBytes receipts := by
  have hls : ∀ receipt ∈ receipts, Kernel.canonicalBytes receipt.sorted.canonical =
      Kernel.canonicalBytes receipt.canonical := by
    intro receipt hmem
    have hdr := (receiptValid_iff.mp (h.valid receipt hmem)).1
    rw [ProtocolReceipt.canonical_sorted (draftTyped_of_valid hdr).kinds]
  rw [ledgerBytes, ledgerBytes, map_map]
  exact congrArg List.flatten (map_congr_left hls)

/-- Where the appends stand behind `drafts`: the file holds the ledger in memory, or one of
them was refused. -/
structure Chaining.Behind (store : ReceiptStore) (receipts : List ProtocolReceipt)
    (drafts : List ReceiptDraft) (state : Chaining) : Prop where
  ledger : state.ledger = store.ledger (receipts ++ drafts.map makeReceipt)
  agrees : (∀ draft ∈ drafts.dropLast, draft.sorted = draft) → state.Agrees ∧
    store.loadUnlocked state.file = .ok (store.ledger
      ((receipts ++ drafts.map makeReceipt).map ProtocolReceipt.sorted))
  refused : ¬(∀ draft ∈ drafts.dropLast, draft.sorted = draft) →
    ∃ result ∈ state.results, ∀ write, result ≠ .ok (.accepted write)

/-- One append of a chain whose file holds the ledger in memory. -/
theorem append_chained
    (h : proposeReceiptAppend (store.ledger receipts) draft = .accepted accepted)
    (hload : store.loadUnlocked file = .ok (store.ledger (receipts.map ProtocolReceipt.sorted))) :
    store.append none file accepted =
      if ∀ item ∈ receipts, item.draft.sorted = item.draft then
        (.ok (.accepted ⟨(store.ledger (receipts.map ProtocolReceipt.sorted)).push
            (makeReceipt draft), makeReceipt draft, [obligation (makeReceipt draft)]⟩),
          some (ledgerBytes (receipts.map ProtocolReceipt.sorted ++ [makeReceipt draft])))
      else
        (.error (.store
          (obligationError "replayed receipt differs from accepted obligation")), file) := by
  have hldg : accepted.ledger = (store.ledger receipts).push (makeReceipt draft) := by
    obtain ⟨-, -, -, rfl⟩ := propose_accepted_iff.mp h
    rfl
  rw [append_eq hload h, propose_sorted h]
  dsimp only
  rw [hldg]
  exact if_congr push_same_iff rfl rfl

theorem forall_made_iff (hrcpts : receipts.map ProtocolReceipt.sorted = receipts) :
    (∀ item ∈ receipts ++ drafts.map makeReceipt, item.draft.sorted = item.draft) ↔
      ∀ draft ∈ drafts, draft.sorted = draft := by
  have hbase : ∀ item ∈ receipts, item.draft.sorted = item.draft := by
    intro item hitem
    have hsort := map_inj_left.mp (hrcpts.trans (map_id receipts).symm) item hitem
    exact congrArg ProtocolReceipt.draft hsort
  constructor
  · intro h draft hdr
    exact h (makeReceipt draft) (mem_append_right _ (mem_map_of_mem hdr))
  · intro h item hitem
    rcases mem_append.mp hitem with hitem | hitem
    · exact hbase item hitem
    · obtain ⟨draft, hdr, rfl⟩ := mem_map.mp hitem
      exact h draft hdr

/-- **One draft more.** -/
theorem Chaining.Behind.concat (hrcpts : receipts.map ProtocolReceipt.sorted = receipts)
    (h : state.Behind store receipts drafts) (hstep : state.step store draft = some next) :
    next.Behind store receipts (drafts ++ [draft]) := by
  obtain ⟨accepted, hprop, rfl⟩ := Chaining.step_iff.mp hstep
  rw [h.ledger] at hprop
  have hldg : accepted.ledger =
      store.ledger (receipts ++ (drafts ++ [draft]).map makeReceipt) := by
    obtain ⟨-, -, -, rfl⟩ := propose_accepted_iff.mp hprop
    rw [map_append, map_singleton, ← append_assoc, ← store.push]
  by_cases hpr : ∀ draft ∈ drafts.dropLast, draft.sorted = draft
  · obtain ⟨⟨hcomd, -⟩, hload⟩ := h.agrees hpr
    have happ := append_chained hprop hload
    rw [if_congr (forall_made_iff hrcpts) rfl rfl] at happ
    by_cases hsort : ∀ draft ∈ drafts, draft.sorted = draft
    · rw [if_pos hsort] at happ
      obtain ⟨hval, hfol, -⟩ := propose_accepted_iff.mp (propose_sorted hprop)
      have hall := store.push _ _ ▸ ledgerValid_push.mpr ⟨hval, hfol⟩
      have hmap : ((receipts ++ drafts.map makeReceipt).map ProtocolReceipt.sorted ++
          [makeReceipt draft]).map ProtocolReceipt.sorted =
            (receipts ++ (drafts ++ [draft]).map makeReceipt).map ProtocolReceipt.sorted := by
        simp [ProtocolReceipt.sorted_sorted, Function.comp_def]
      refine ⟨hldg, fun _ => ⟨⟨?_, ?_⟩, ?_⟩, fun hne => ?_⟩
      · rw [happ]
        exact forall_mem_append.mpr ⟨hcomd, forall_mem_singleton.mpr ⟨_, rfl⟩⟩
      · have hch := (ledgerValid_iff.mp (propose_accepted_iff.mp hprop).1).2.2.2.2
        have hbytes : ledgerBytes ((receipts ++ drafts.map makeReceipt).map
            ProtocolReceipt.sorted) = ledgerBytes (receipts ++ drafts.map makeReceipt) :=
          ledgerBytes_sorted hch
        rw [happ, hldg, Option.getD_some, ledgerBytes_concat, hbytes, ← ledgerBytes_concat]
        simp [ReceiptStore.ledger]
      · rw [happ, ← hmap]
        refine loadUnlocked_ledgerBytes hall fun last hlast => ?_
        obtain rfl : makeReceipt draft = last := by simpa using hlast
        exact ⟨_, rfl⟩
      · exact absurd (by rwa [dropLast_concat]) hne
    · rw [if_neg hsort] at happ
      refine ⟨hldg, fun hall => ?_, fun _ => ?_⟩
      · rw [dropLast_concat] at hall
        exact absurd hall hsort
      · refine ⟨_, mem_append_right _ (mem_singleton_self _), fun write hwrite => ?_⟩
        rw [happ] at hwrite
        cases hwrite
  · -- an append was refused already
    obtain ⟨result, hmem, hres⟩ := h.refused hpr
    refine ⟨hldg, fun hall => ?_, fun _ => ⟨result, mem_append_left _ hmem, hres⟩⟩
    rw [dropLast_concat] at hall
    exact absurd (fun d hd => hall d (mem_of_mem_dropLast hd)) hpr

/-- **Every append of a chain is committed, and the file holds the ledger in memory, exactly
when all drafts but the last list their proof bindings in canonical order.** -/
theorem chain_commits_iff {fault : Option Fault} (hload : store.load fault file = .ok ledger)
    (h : Run.exec (Chaining.step store) ⟨ledger, file, []⟩ drafts = some state) :
    state.Agrees ↔ ∀ draft ∈ drafts.dropLast, draft.sorted = draft := by
  have hload := of_load hload
  have hreceipts := sorted_of_loadUnlocked hload
  have hbehind : state.Behind store ledger.receipts drafts := by
    refine Run.exec_history (I := fun read s => s.Behind store ledger.receipts read) ?_ ?_ h
    · obtain ⟨receipts, hread, rfl, -⟩ := loadUnlocked_iff.mp hload
      refine ⟨by simp [ReceiptStore.ledger], fun _ => ⟨⟨by simp, ?_⟩, ?_⟩, by simp⟩
      · exact (ledgerBytes_of_loadReceipts hread).symm
      · rw [map_nil, append_nil, hreceipts, hload]
        rfl
    · exact fun read s draft t _ hs hstep => hs.concat hreceipts hstep
  by_cases hsorted : ∀ draft ∈ drafts.dropLast, draft.sorted = draft
  · exact iff_of_true (hbehind.agrees hsorted).1 hsorted
  refine iff_of_false (fun hagrees => ?_) hsorted
  obtain ⟨result, hmem, hresult⟩ := hbehind.refused hsorted
  obtain ⟨write, hwrite⟩ := hagrees.1 result hmem
  exact hresult write hwrite

end Chain

/-! ### Two drafts -/

/-- A second receipt of a ledger, behind the one with the digest `prior`. -/
def sampleSecond (prior : String) : ReceiptDraft :=
  { sampleBase "dispatch_submitted" none with
    receiptId := "next"
    dispatchId := "next"
    eventSequence := 2
    expectedRevision := 1
    priorReceiptDigest := prior }

/-- A draft that can follow `first`, which is the first of its ledger. -/
def sampleNext (first : ReceiptDraft) : ReceiptDraft :=
  (sampleSecond (makeReceipt first).receiptDigest).withProofs

theorem fieldsValid_sampleSecond {prior : String} (h : isDigest prior) :
    fieldsValid (sampleSecond prior) := by
  have hdigs : isDigest (sampleDigest 'a') ∧ isDigest (sampleDigest 'b') :=
    ⟨isDigest_sampleDigest (by decide), isDigest_sampleDigest (by decide)⟩
  have href : isSafeRef "dispatch.md" := by decide
  simp [fieldsValid, sampleSecond, sampleBase, approvalBindingValid, h, hdigs, href,
    receiptEvents, roles, terminalEvents, Kernel.Closed.isKnown]

/-- The sample with its proof bindings in the order given. -/
def sampleOrdered (bindings : List ProofBinding) : ReceiptDraft :=
  { sampleDraft with proofBindings := bindings }

section Two

variable {bindings : List ProofBinding}

theorem follows_ordered (h : bindings.Perm sampleDraft.proofBindings) :
    Follows (sampleStore.ledger []) [] (makeReceipt (sampleOrdered bindings)) where
  valid := by
    have hsample := (follows_sample fieldsValid_sampleBase.2 (by decide)).valid
    rw [receiptValid_makeReceipt] at hsample
    exact receiptValid_makeReceipt.trans ((draftValid_of_perm h).trans hsample)
  revision := rfl
  sequence := rfl
  prior := rfl
  installation := rfl
  leaderEpoch := rfl
  task := rfl
  receiptId := by simp
  logicalKey := by simp
  migration := by simp

theorem follows_next : Follows (sampleStore.ledger [makeReceipt (sampleOrdered bindings)])
    [makeReceipt (sampleOrdered bindings)]
    (makeReceipt (sampleNext (sampleOrdered bindings))) where
  valid := by
    have hpr : isDigest (makeReceipt (sampleOrdered bindings)).receiptDigest := by
      rw [makeReceipt_receiptDigest]
      exact Kernel.isDigest_digest _
    have hev : manualEvents.contains "dispatch_submitted" = false := by decide
    exact receiptValid_makeReceipt.trans
      (draftValid_withProofs (fieldsValid_sampleSecond hpr) rfl hev rfl)
  revision := rfl
  sequence := rfl
  prior := rfl
  installation := rfl
  leaderEpoch := rfl
  task := rfl
  receiptId := by
    simp [sampleNext, sampleSecond, ReceiptDraft.withProofs, sampleOrdered, sampleDraft, sampleBase]
  logicalKey := by
    simp [sampleNext, sampleSecond, ReceiptDraft.withProofs, sampleOrdered, sampleDraft, sampleBase,
      logicalKey]
  migration := by
    simp [sampleNext, sampleSecond, ReceiptDraft.withProofs, sampleOrdered, sampleDraft, sampleBase]

/-- The two drafts are a chain, in whatever order the first lists its proof bindings. -/
theorem chain_two (h : bindings.Perm sampleDraft.proofBindings) : ∃ state,
    Run.exec (Chaining.step sampleStore) ⟨sampleStore.ledger [], none, []⟩
      [sampleOrdered bindings, sampleNext (sampleOrdered bindings)] = some state := by
  have hval : ledgerValid (sampleStore.ledger [makeReceipt (sampleOrdered bindings)]) :=
    sampleStore.push [] _ ▸ ledgerValid_push.mpr ⟨sampleStore_valid, follows_ordered h⟩
  refine ⟨_, Run.exec_cons.mpr ⟨_, Chaining.step_iff.mpr ⟨_, propose_accepted_iff.mpr
    ⟨sampleStore_valid, follows_ordered h, ?_, rfl⟩, rfl⟩, Run.exec_cons.mpr ⟨_,
    Chaining.step_iff.mpr ⟨_, propose_accepted_iff.mpr ⟨hval, follows_next, ?_, rfl⟩, rfl⟩,
    rfl⟩⟩⟩
  · exact submissionPresent_iff.mpr fun hev => absurd hev (by simp [sampleOrdered,
      sampleDraft, ReceiptDraft.withProofs, sampleBase])
  · exact submissionPresent_iff.mpr fun hev => absurd hev (by simp [sampleNext,
      sampleSecond, ReceiptDraft.withProofs, sampleBase])

end Two

/-- Two drafts whose proof bindings stand in canonical order are both committed. -/
theorem chain_commits_sorted : ∃ drafts state, drafts.length = 2 ∧
    Run.exec (Chaining.step sampleStore) ⟨sampleStore.ledger [], none, []⟩ drafts =
      some state ∧ state.Agrees := by
  obtain ⟨state, hrun⟩ := chain_two (sortBindings_perm sampleDraft.proofBindings)
  have hload : sampleStore.load none none = .ok (sampleStore.ledger []) := load_none rfl
  refine ⟨_, state, rfl, hrun, (chain_commits_iff hload hrun).mpr ?_⟩
  intro draft hdraft
  obtain rfl : draft = sampleOrdered (sortBindings sampleDraft.proofBindings) := by
    simpa using hdraft
  exact congrArg ProtocolReceipt.draft (makeReceipt sampleDraft).sorted_sorted

/-- Of the two orders of two proof bindings one is not canonical, and the append behind it is
refused. -/
theorem chain_refused : ∃ drafts state, drafts.length = 2 ∧
    Run.exec (Chaining.step sampleStore) ⟨sampleStore.ledger [], none, []⟩ drafts =
      some state ∧ ¬state.Agrees := by
  have hload : sampleStore.load none none = .ok (sampleStore.ledger []) := load_none rfl
  suffices hunsorted : ∃ bindings : List ProofBinding,
      bindings.Perm sampleDraft.proofBindings ∧ sortBindings bindings ≠ bindings by
    obtain ⟨bindings, hperm, hne⟩ := hunsorted
    obtain ⟨state, hrun⟩ := chain_two hperm
    refine ⟨_, state, rfl, hrun, fun hagrees => hne ?_⟩
    have hsorted := (chain_commits_iff hload hrun).mp hagrees (sampleOrdered bindings) (by simp)
    exact congrArg ReceiptDraft.proofBindings hsorted
  by_contra hall
  simp only [not_exists, not_and, not_not] at hall
  -- both orders would be the canonical one
  have hsample := hall _ (List.Perm.refl _)
  have hreverse := hall _ (reverse_perm sampleDraft.proofBindings)
  have hvalid := (follows_sample fieldsValid_sampleBase.2 (by decide)).valid
  have hknown : KindsKnown sampleDraft.proofBindings :=
    (draftTyped_of_valid (receiptValid_iff.mp hvalid).1).kinds
  have hsame := sortBindings_eq_of_perm hknown (reverse_perm sampleDraft.proofBindings)
  rw [hsample, hreverse] at hsame
  have hkinds := congrArg (List.map ProofBinding.proofKind) hsame
  exact absurd hkinds (by decide)

end Valp.Receipts
