/-
The write contract of a receipt ledger (`valp_cli/protocol_receipts.py`).

`_ledger_valid` checks a whole ledger, receipt by receipt; `propose_receipt_append` checks
one draft against a ledger that passes.  The two are compared here: a ledger that passes
grows by a draft exactly if the longer one passes, but for one rule that only the proposal
has, that a `dispatch_completed` needs its `dispatch_submitted`.

* `reachable_iff` — **which valid ledgers proposals can build**.
-/
import Valp.ReceiptTypes
import Valp.Run
import Valp.Table

namespace Valp.Receipts

open Bool (and_eq_true)
open Kernel (canonicalJson digest)
open List

/-! ### The check of a ledger -/

abbrev LogicalKey := String × String × String × String × Int × Option Int × String

/-- The variables of the loop of `_ledger_valid`; `index` counts the receipts read. -/
structure Seen where
  index : Int
  prior : String
  receiptIds : List String
  logicalKeys : List LogicalKey
  migrationIds : List String

def Seen.start : Seen := ⟨0, emptyReceiptLedgerDigest, [], [], []⟩

/-- One turn of that loop, `none` where it returns `False`. -/
def checkReceipt (ledger : ReceiptLedger) (seen : Seen) (receipt : ProtocolReceipt) :
    Option Seen :=
  let draft := receipt.draft
  if receiptValid receipt && receipt.ledgerRevision.value == seen.index + 1 &&
      draft.eventSequence == seen.index + 1 && draft.priorReceiptDigest == seen.prior &&
      draft.installationId == ledger.installationId && draft.leaderEpoch == ledger.leaderEpoch &&
      draft.taskId == ledger.taskId && !seen.receiptIds.contains draft.receiptId &&
      !seen.logicalKeys.contains (logicalKey draft) &&
      draft.migrationBinding.all fun migration =>
        !seen.migrationIds.contains migration.migrationId then
    some {
      index := seen.index + 1
      prior := receipt.receiptDigest
      receiptIds := seen.receiptIds ++ [draft.receiptId]
      logicalKeys := seen.logicalKeys ++ [logicalKey draft]
      migrationIds := seen.migrationIds ++
        (draft.migrationBinding.map MigrationBinding.migrationId).toList }
  else none

def ledgerValid (ledger : ReceiptLedger) : Bool :=
  ledger.installationId != "" && ledger.taskId != "" && decide (0 ≤ ledger.leaderEpoch) &&
    decide (0 ≤ ledger.revision) && ledger.revision == ledger.receipts.length &&
    (Run.exec (checkReceipt ledger) Seen.start ledger.receipts).isSome

/-! ### Proposals -/

/-- The check of the types in `propose_receipt_append`. -/
def draftTyped (draft : ReceiptDraft) : Bool :=
  draft.mode.isKnown && receiptEvents.contains draft.event &&
    draft.proofBindings.all fun item => item.proofKind.isKnown

/-- The check there that the draft continues the ledger. -/
def draftContinues (ledger : ReceiptLedger) (draft : ReceiptDraft) : Bool :=
  draft.expectedRevision == ledger.revision && draft.eventSequence == ledger.revision + 1 &&
    draft.priorReceiptDigest == ledger.tailDigest &&
    draft.installationId == ledger.installationId && draft.leaderEpoch == ledger.leaderEpoch &&
    draft.taskId == ledger.taskId

/-- A completion has its submission in the ledger. -/
def submissionPresent (ledger : ReceiptLedger) (draft : ReceiptDraft) : Bool :=
  draft.event != "dispatch_completed" || ledger.receipts.any fun item =>
    item.draft.event == "dispatch_submitted" &&
      submissionIdentity item.draft == submissionIdentity draft

def ReceiptLedger.push (ledger : ReceiptLedger) (receipt : ProtocolReceipt) : ReceiptLedger :=
  { ledger with
    revision := ledger.revision + 1
    receipts := ledger.receipts ++ [receipt] }

def obligation (receipt : ProtocolReceipt) : String := "append_receipt:" ++ receipt.receiptDigest

def proposeReceiptAppend (ledger : ReceiptLedger) (draft : ReceiptDraft) : ReceiptWriteResult :=
  if !ledgerValid ledger then .rejected ledger .stateConflict
  else if !draftTyped draft then .rejected ledger .migrationUnsupported
  else
    let candidate := makeReceipt draft
    match ledger.receipts.find? fun item => item.draft.receiptId == draft.receiptId with
    | some prior =>
      if canonicalJson prior.canonical = canonicalJson candidate.canonical then .noOp ledger prior
      else .rejected ledger .idempotencyConflict
    | none =>
      if !receiptValid candidate then .rejected ledger .stateConflict
      else if ledger.receipts.any fun item => logicalKey item.draft == logicalKey draft then
        .rejected ledger .idempotencyConflict
      else if draft.migrationBinding.any fun migration => ledger.receipts.any fun item =>
          item.draft.migrationBinding.any fun other =>
            other.migrationId == migration.migrationId then
        .rejected ledger .idempotencyConflict
      else if !draftContinues ledger draft then .rejected ledger .stateConflict
      else if !submissionPresent ledger draft then .rejected ledger .stateConflict
      else
        .accepted {
          ledger := ledger.push candidate
          receipt := candidate
          obligations := [obligation candidate] }

/-! ### The last receipt -/

variable {other : ReceiptLedger}

section Ledger

variable {ledger : ReceiptLedger} {receipt : ProtocolReceipt} {receipts : List ProtocolReceipt}
  {draft : ReceiptDraft}

/-- The digest that the next receipt has to name. -/
def tailOf (receipts : List ProtocolReceipt) : String :=
  (receipts.getLast?.map ProtocolReceipt.receiptDigest).getD emptyReceiptLedgerDigest

theorem ReceiptLedger.tailDigest_eq : ledger.tailDigest = tailOf ledger.receipts := by
  rw [ReceiptLedger.tailDigest, tailOf]
  cases ledger.receipts.getLast? <;> rfl

@[simp] theorem tailOf_concat : tailOf (receipts ++ [receipt]) = receipt.receiptDigest := by
  rw [tailOf, getLast?_concat]
  rfl

/-- The variables of the loop behind `receipts`. -/
def Seen.behind (receipts : List ProtocolReceipt) : Seen where
  index := receipts.length
  prior := tailOf receipts
  receiptIds := receipts.map fun item => item.draft.receiptId
  logicalKeys := receipts.map fun item => logicalKey item.draft
  migrationIds := receipts.filterMap fun item =>
    item.draft.migrationBinding.map MigrationBinding.migrationId

/-- **What `_ledger_valid` asks of a receipt** that stands behind `receipts` in a ledger with
the identity of `ledger`. -/
@[mk_iff] structure Follows (ledger : ReceiptLedger) (receipts : List ProtocolReceipt)
    (receipt : ProtocolReceipt) : Prop where
  valid : receiptValid receipt = true
  revision : receipt.ledgerRevision.value = receipts.length + 1
  sequence : receipt.draft.eventSequence = receipts.length + 1
  prior : receipt.draft.priorReceiptDigest = tailOf receipts
  installation : receipt.draft.installationId = ledger.installationId
  leaderEpoch : receipt.draft.leaderEpoch = ledger.leaderEpoch
  task : receipt.draft.taskId = ledger.taskId
  receiptId : ∀ item ∈ receipts, item.draft.receiptId ≠ receipt.draft.receiptId
  logicalKey : ∀ item ∈ receipts, logicalKey item.draft ≠ logicalKey receipt.draft
  migration : ∀ item ∈ receipts, ∀ migration ∈ receipt.draft.migrationBinding,
    ∀ other ∈ item.draft.migrationBinding, other.migrationId ≠ migration.migrationId

theorem checkReceipt_behind {seen : Seen} :
    checkReceipt ledger (Seen.behind receipts) receipt = some seen ↔
      Follows ledger receipts receipt ∧ seen = Seen.behind (receipts ++ [receipt]) := by
  have hnext : Seen.behind (receipts ++ [receipt]) = {
      index := (Seen.behind receipts).index + 1
      prior := receipt.receiptDigest
      receiptIds := (Seen.behind receipts).receiptIds ++ [receipt.draft.receiptId]
      logicalKeys := (Seen.behind receipts).logicalKeys ++ [Receipts.logicalKey receipt.draft]
      migrationIds := (Seen.behind receipts).migrationIds ++
        (receipt.draft.migrationBinding.map MigrationBinding.migrationId).toList } := by
    simp only [Seen.behind, length_append, length_singleton, Nat.cast_add, Nat.cast_one,
      tailOf_concat, map_append, map_cons, map_nil, filterMap_append,
      filterMap_cons, filterMap_nil]
    cases receipt.draft.migrationBinding <;> rfl
  rw [hnext, checkReceipt]
  rw [Option.ite_none_right_eq_some, Option.some_inj, eq_comm (a := seen)]
  refine and_congr_left fun _ => ?_
  simp only [Seen.behind, and_eq_true, beq_iff_eq, Bool.not_eq_true',
    contains_eq_mem, decide_eq_false_iff_not, mem_map, not_exists, not_and,
    Option.all_eq_true, mem_filterMap, Option.map_eq_some_iff]
  simp only [follows_iff, and_assoc]
  tauto

theorem exec_checkReceipt {seen : Seen}
    (h : Run.exec (checkReceipt ledger) Seen.start receipts = some seen) :
    seen = Seen.behind receipts := by
  refine Run.exec_history (I := fun read seen => seen = Seen.behind read) rfl ?_ h
  rintro read s a t - rfl hstep
  exact (checkReceipt_behind.mp hstep).2

theorem exec_checkReceipt_concat :
    (Run.exec (checkReceipt ledger) Seen.start (receipts ++ [receipt])).isSome ↔
      (Run.exec (checkReceipt ledger) Seen.start receipts).isSome ∧
        Follows ledger receipts receipt := by
  simp only [Option.isSome_iff_exists, Run.exec_concat]
  constructor
  · rintro ⟨seen, before, hbef, hstep⟩
    obtain rfl := exec_checkReceipt hbef
    exact ⟨⟨_, hbef⟩, (checkReceipt_behind.mp hstep).1⟩
  · rintro ⟨⟨before, hbef⟩, hfol⟩
    obtain rfl := exec_checkReceipt hbef
    exact ⟨_, _, hbef, checkReceipt_behind.mpr ⟨hfol, rfl⟩⟩

/-- Receipts of which each follows the ones before it. -/
inductive Chain (ledger : ReceiptLedger) : List ProtocolReceipt → Prop where
  | nil : Chain ledger []
  | concat {receipts : List ProtocolReceipt} {receipt : ProtocolReceipt} :
      Chain ledger receipts → Follows ledger receipts receipt → Chain ledger (receipts ++ [receipt])

theorem chain_concat_iff : Chain ledger (receipts ++ [receipt]) ↔
    Chain ledger receipts ∧ Follows ledger receipts receipt := by
  refine ⟨fun h => ?_, fun h => .concat h.1 h.2⟩
  generalize hall : receipts ++ [receipt] = all at h
  cases h with
  | nil => simp at hall
  | concat hch hfol =>
    obtain ⟨rfl, rfl⟩ := append_inj' hall rfl |>.imp id singleton_inj.mp
    exact ⟨hch, hfol⟩

theorem exec_checkReceipt_iff : (Run.exec (checkReceipt ledger) Seen.start receipts).isSome ↔
      Chain ledger receipts := by
  induction receipts using List.reverseRecOn with
  | nil => exact iff_of_true rfl .nil
  | append_singleton receipts receipt ih =>
    rw [exec_checkReceipt_concat, ih, chain_concat_iff]

theorem ledgerValid_iff : ledgerValid ledger ↔
    ledger.installationId ≠ "" ∧ ledger.taskId ≠ "" ∧ 0 ≤ ledger.leaderEpoch ∧
      ledger.revision = ledger.receipts.length ∧ Chain ledger ledger.receipts := by
  simp only [ledgerValid, and_eq_true, bne_iff_ne, beq_iff_eq, decide_eq_true_eq,
    exec_checkReceipt_iff, and_assoc]
  constructor
  · rintro ⟨hinst, htask, hep, -, hrev, hch⟩
    exact ⟨hinst, htask, hep, hrev, hch⟩
  · rintro ⟨hinst, htask, hep, hrev, hch⟩
    exact ⟨hinst, htask, hep, by omega, hrev, hch⟩

theorem Chain.of_identity (h : Chain ledger receipts)
    (hinst : other.installationId = ledger.installationId)
    (hep : other.leaderEpoch = ledger.leaderEpoch) (htask : other.taskId = ledger.taskId) :
    Chain other receipts := by
  induction h with
  | nil => exact .nil
  | concat _ hf ih =>
    exact .concat ih { hf with
      installation := hf.installation.trans hinst.symm
      leaderEpoch := hf.leaderEpoch.trans hep.symm
      task := hf.task.trans htask.symm }

theorem revision_of_ledgerValid (h : ledgerValid ledger) :
    ledger.revision = ledger.receipts.length :=
  (ledgerValid_iff.mp h).2.2.2.1

/-- **The last receipt of a valid ledger**: what is left is valid, and it follows. -/
theorem ledgerValid_push : ledgerValid (ledger.push receipt) ↔
    ledgerValid ledger ∧ Follows ledger ledger.receipts receipt := by
  have hch : Chain (ledger.push receipt) (ledger.receipts ++ [receipt]) ↔
      Chain ledger ledger.receipts ∧ Follows ledger ledger.receipts receipt := by
    rw [← chain_concat_iff]
    exact ⟨fun h => h.of_identity rfl rfl rfl, fun h => h.of_identity rfl rfl rfl⟩
  rw [ledgerValid_iff, ledgerValid_iff]
  simp only [ReceiptLedger.push] at hch ⊢
  rw [hch, length_append, length_singleton, Nat.cast_add, Nat.cast_one,
    add_left_inj, and_assoc, and_assoc, and_assoc, and_assoc]

/-! ### Receipts of a chain -/

section

variable (h : Chain ledger receipts)

include h

theorem Chain.follows : ∀ item ∈ receipts, ∃ before, Follows ledger before item := by
  induction h with
  | nil => simp
  | concat _ hf ih =>
    exact forall_mem_append.mpr ⟨ih, forall_mem_singleton.mpr ⟨_, hf⟩⟩

theorem Chain.valid : ∀ item ∈ receipts, receiptValid item := by
  intro item hitem
  obtain ⟨before, hf⟩ := h.follows item hitem
  exact hf.valid

theorem Chain.receiptIds : (receipts.map fun item => item.draft.receiptId).Nodup := by
  induction h with
  | nil => exact nodup_nil
  | concat _ hf ih =>
    refine Table.nodup_concat ih fun hmem => ?_
    obtain ⟨item, hitem, hid⟩ := mem_map.mp hmem
    exact hf.receiptId item hitem hid

theorem Chain.logicalKeys : (receipts.map fun item => logicalKey item.draft).Nodup := by
  induction h with
  | nil => exact nodup_nil
  | concat _ hf ih =>
    refine Table.nodup_concat ih fun hmem => ?_
    obtain ⟨item, hitem, hkey⟩ := mem_map.mp hmem
    exact hf.logicalKey item hitem hkey

theorem Chain.migrationIds : (receipts.filterMap fun item =>
      item.draft.migrationBinding.map MigrationBinding.migrationId).Nodup := by
  induction h with
  | nil => exact nodup_nil
  | @concat receipts receipt _ hf ih =>
    rw [filterMap_append]
    cases hm : receipt.draft.migrationBinding with
    | none => simpa [hm] using ih
    | some migration =>
      simp only [filterMap_cons, hm, Option.map_some, filterMap_nil]
      rw [← concat_eq_append]
      refine ih.concat fun hmem => ?_
      obtain ⟨item, hitem, hid⟩ := mem_filterMap.mp hmem
      obtain ⟨other, hoth, hid⟩ := Option.map_eq_some_iff.mp hid
      exact hf.migration item hitem migration hm other hoth hid

theorem Chain.count {i : ℕ} (hi : receipts[i]? = some receipt) :
    receipt.draft.eventSequence = i + 1 ∧ receipt.draft.expectedRevision = i ∧
      receipt.ledgerRevision.value = i + 1 := by
  induction h with
  | nil => simp at hi
  | @concat receipts last _ hf ih =>
    rw [getElem?_append] at hi
    split at hi
    · exact ih hi
    rename_i hge
    obtain ⟨hlt, rfl⟩ := List.getElem?_eq_some_iff.mp hi
    simp only [length_singleton] at hlt
    obtain rfl : i = receipts.length := by omega
    have hlast := (receiptValid_iff.mp hf.valid).2.1
    have hrev := hf.revision
    simp only [Nat.sub_self, getElem_cons_zero]
    exact ⟨hf.sequence, by omega, hf.revision⟩

end

/-- What follows receipts also follows them with the proof bindings in canonical order. -/
theorem Follows.behind_sorted (h : Follows ledger receipts receipt) :
    Follows ledger (receipts.map ProtocolReceipt.sorted) receipt where
  valid := h.valid
  revision := by rw [length_map]; exact h.revision
  sequence := by rw [length_map]; exact h.sequence
  prior := by rw [tailOf, getLast?_map, Option.map_map]; exact h.prior
  installation := h.installation
  leaderEpoch := h.leaderEpoch
  task := h.task
  receiptId := forall_mem_map.mpr h.receiptId
  logicalKey := forall_mem_map.mpr h.logicalKey
  migration := forall_mem_map.mpr h.migration

theorem Follows.sorted (h : Follows ledger receipts receipt) :
    Follows ledger (receipts.map ProtocolReceipt.sorted) receipt.sorted :=
  { h.behind_sorted with valid := receiptValid_sorted h.valid }

/-- **A chain stays one with the proof bindings in canonical order.** -/
theorem Chain.sorted (h : Chain ledger receipts) :
    Chain ledger (receipts.map ProtocolReceipt.sorted) := by
  induction h with
  | nil => exact .nil
  | concat _ hf ih =>
    rw [map_append, map_singleton]
    exact .concat ih hf.sorted

theorem find?_receiptId (h : ledgerValid ledger) (hmem : receipt ∈ ledger.receipts) :
    (ledger.receipts.find? fun item => item.draft.receiptId == receipt.draft.receiptId) =
      some receipt :=
  (Table.mem_iff_get (ledgerValid_iff.mp h).2.2.2.2.receiptIds).mp hmem

/-! ### The outcomes of a proposal -/

theorem draftTyped_iff : draftTyped draft ↔
    DraftTyped draft ∧ receiptEvents.contains draft.event := by
  simp only [draftTyped, and_eq_true, all_eq_true]
  exact ⟨fun h => ⟨⟨h.1.1, h.2⟩, h.1.2⟩, fun h => ⟨⟨h.1.mode, h.2⟩, h.1.kinds⟩⟩

theorem draftTyped_of_draftValid (h : draftValid draft) : draftTyped draft := by
  refine draftTyped_iff.mpr ⟨draftTyped_of_valid h, ?_⟩
  simp only [draftValid, fieldsValid, and_eq_true] at h
  tauto

/-- The checks behind the one for the receipt id, on a ledger that is valid: with the check of
the receipt they are those of `_ledger_valid`. -/
theorem follows_makeReceipt_iff (h : ledgerValid ledger) :
    Follows ledger ledger.receipts (makeReceipt draft) ↔
      (∀ item ∈ ledger.receipts, item.draft.receiptId ≠ draft.receiptId) ∧
      draftValid draft ∧
      (ledger.receipts.any fun item => logicalKey item.draft == logicalKey draft) = false ∧
      (draft.migrationBinding.any fun migration => ledger.receipts.any fun item =>
        item.draft.migrationBinding.any fun other =>
          other.migrationId == migration.migrationId) = false ∧
      draftContinues ledger draft := by
  have hrev := revision_of_ledgerValid h
  simp only [any_eq_false, Option.any_eq_false, beq_iff_eq, draftContinues, and_eq_true,
    ReceiptLedger.tailDigest_eq, hrev, Bool.not_eq_true, beq_eq_false_iff_ne]
  have hnumber : (makeReceipt draft).ledgerRevision.value = ledger.receipts.length + 1 ↔
      draft.expectedRevision = ledger.receipts.length := add_left_inj 1
  rw [follows_iff, receiptValid_makeReceipt, hnumber]
  tauto

/-- **When a proposal is accepted**, and what it adds. -/
theorem propose_accepted_iff {write : ReceiptWriteAccepted} :
    proposeReceiptAppend ledger draft = .accepted write ↔
      ledgerValid ledger ∧ Follows ledger ledger.receipts (makeReceipt draft) ∧
      submissionPresent ledger draft ∧
      write = ⟨ledger.push (makeReceipt draft), makeReceipt draft,
        [obligation (makeReceipt draft)]⟩ := by
  cases hval : ledgerValid ledger with
  | false => simp [proposeReceiptAppend, hval]
  | true =>
    rw [follows_makeReceipt_iff hval]
    cases htyped : draftTyped draft with
    | false =>
      have hdr : draftValid draft = false := by
        rw [Bool.eq_false_iff]
        exact fun h => by rw [draftTyped_of_draftValid h] at htyped; cases htyped
      simp [proposeReceiptAppend, hval, htyped, hdr]
    | true =>
      have hfr : (ledger.receipts.find? fun item => item.draft.receiptId == draft.receiptId) =
          none ↔ ∀ item ∈ ledger.receipts, item.draft.receiptId ≠ draft.receiptId := by simp
      rw [proposeReceiptAppend, hval, htyped, ← hfr]
      cases ledger.receipts.find? fun item => item.draft.receiptId == draft.receiptId with
      | some prior => simp [ite_eq_iff]
      | none => simp [ite_eq_iff, receiptValid_makeReceipt, eq_comm (b := write), and_assoc]

/-- **When a proposal is a repetition.** -/
theorem propose_noOp_iff {prior : ProtocolReceipt} :
    proposeReceiptAppend ledger draft = .noOp other prior ↔
      ledgerValid ledger ∧ draftTyped draft ∧ other = ledger ∧
      (ledger.receipts.find? fun item => item.draft.receiptId == draft.receiptId) = some prior ∧
      canonicalJson prior.canonical = canonicalJson (makeReceipt draft).canonical := by
  rw [proposeReceiptAppend]
  cases ledger.receipts.find? fun item => item.draft.receiptId == draft.receiptId with
  | none => simp [ite_eq_iff]
  | some found =>
    simp only [ite_eq_iff, reduceCtorEq, and_false, false_or, or_false, Bool.not_eq_true',
      Bool.not_eq_false, ReceiptWriteResult.noOp.injEq, Option.some.injEq]
    grind

theorem propose_rejected {code : ReceiptErrorCode}
    (h : proposeReceiptAppend ledger draft = .rejected other code) : other = ledger := by
  rw [proposeReceiptAppend] at h
  cases hfind : ledger.receipts.find? fun item => item.draft.receiptId == draft.receiptId <;>
    simp only [hfind, ite_eq_iff, reduceCtorEq, and_false, or_false,
      ReceiptWriteResult.rejected.injEq] at h <;> grind

/-- **A committed draft is a repetition**, in whatever order it lists its proof bindings. -/
theorem propose_again (hval : ledgerValid ledger) (hmem : receipt ∈ ledger.receipts)
    {n : Int} (hn : receipt.ledgerRevision = .int n) (hdr : Permuted receipt.draft draft) :
    proposeReceiptAppend ledger draft = .noOp ledger receipt := by
  obtain ⟨bindings, hperm, rfl⟩ := hdr
  have hrcpt := (ledgerValid_iff.mp hval).2.2.2.2.valid receipt hmem
  have hdr := (receiptValid_iff.mp hrcpt).1
  have htyped : draftTyped { receipt.draft with proofBindings := bindings } = true :=
    draftTyped_of_draftValid ((draftValid_of_perm hperm).trans hdr)
  refine propose_noOp_iff.mpr ⟨hval, htyped, rfl, find?_receiptId hval hmem, ?_⟩
  rw [makeReceipt_canonical_of_perm (draftTyped_of_valid hdr).kinds hperm,
    ← eq_makeReceipt hrcpt hn]

/-- **Other content under a committed id or logical key is rejected.** -/
theorem propose_other (hval : ledgerValid ledger) (hmem : receipt ∈ ledger.receipts)
    (htaken : draft.receiptId = receipt.draft.receiptId ∨
      logicalKey draft = logicalKey receipt.draft) (hoth : ¬Permuted receipt.draft draft) :
    ∃ code, proposeReceiptAppend ledger draft = .rejected ledger code := by
  have hch := (ledgerValid_iff.mp hval).2.2.2.2
  cases hprop : proposeReceiptAppend ledger draft with
  | rejected other code =>
    obtain rfl := propose_rejected hprop
    exact ⟨code, rfl⟩
  | accepted write =>
    obtain ⟨-, hfol, -⟩ := propose_accepted_iff.mp hprop
    rcases htaken with hid | hkey
    · exact absurd hid.symm (hfol.receiptId receipt hmem)
    · exact absurd hkey.symm (hfol.logicalKey receipt hmem)
  | noOp other prior =>
    obtain ⟨-, htyped, -, hfind, htext⟩ := propose_noOp_iff.mp hprop
    have hpr := mem_of_find?_eq_some hfind
    have hvalidPrior := receiptValid_iff.mp (hch.valid prior hpr)
    have hsort := ProtocolReceipt.canonical_injective (b := makeReceipt draft)
      (draftTyped_of_valid hvalidPrior.1) (draftTyped_iff.mp htyped).1 hvalidPrior.2.1 rfl htext
    have hdrafts : prior.draft.sorted = draft.sorted := by
      have hsame : prior.sorted.draft = (makeReceipt draft).sorted.draft := by rw [hsort]
      exact hsame
    have hpermuted := permuted_of_sorted hdrafts
    -- the receipt that was found is the one whose id or key the draft has
    have heq : prior = receipt := by
      obtain ⟨bindings, -, rfl⟩ := hpermuted
      rcases htaken with hid | hkey
      · exact inj_on_of_nodup_map hch.receiptIds hpr hmem hid
      · exact inj_on_of_nodup_map hch.logicalKeys hpr hmem hkey
    exact absurd (heq ▸ hpermuted) hoth

end Ledger

/-! ### Ledgers that are built -/

section Reachable

variable {ledger : ReceiptLedger} {receipt : ProtocolReceipt} {receipts : List ProtocolReceipt}
  {draft : ReceiptDraft}

def ReceiptLedger.empty (ledger : ReceiptLedger) : ReceiptLedger :=
  { ledger with revision := 0, receipts := [] }

/-- A proposal that is accepted, as a step. -/
def proposeStep (ledger : ReceiptLedger) (draft : ReceiptDraft) : Option ReceiptLedger :=
  match proposeReceiptAppend ledger draft with
  | .accepted write => some write.ledger
  | _ => none

theorem proposeStep_iff {next : ReceiptLedger} : proposeStep ledger draft = some next ↔
    ledgerValid ledger ∧ Follows ledger ledger.receipts (makeReceipt draft) ∧
      submissionPresent ledger draft ∧ next = ledger.push (makeReceipt draft) := by
  have hacc : proposeStep ledger draft = some next ↔
      ∃ write, proposeReceiptAppend ledger draft = .accepted write ∧ write.ledger = next := by
    rw [proposeStep]
    cases proposeReceiptAppend ledger draft <;> simp
  rw [hacc]
  simp only [propose_accepted_iff, and_assoc, exists_and_left, exists_eq_left, eq_comm]

/-- Some run of accepted proposals builds the ledger from the empty one. -/
def Reachable (ledger : ReceiptLedger) : Prop :=
  ∃ drafts, Run.exec proposeStep ledger.empty drafts = some ledger

/-- Behind `receipts` a completion has its submission. -/
def Submitted (receipts : List ProtocolReceipt) (draft : ReceiptDraft) : Prop :=
  draft.event = "dispatch_completed" → ∃ item ∈ receipts,
    item.draft.event = "dispatch_submitted" ∧
      submissionIdentity item.draft = submissionIdentity draft

/-- Every `dispatch_completed` stands behind a `dispatch_submitted` with the same submission
identity. -/
def CompletionsSubmitted (receipts : List ProtocolReceipt) : Prop :=
  ∀ before receipt after, receipts = before ++ receipt :: after → Submitted before receipt.draft

theorem submissionPresent_iff :
    submissionPresent ledger draft ↔ Submitted ledger.receipts draft := by
  simp only [submissionPresent, Submitted, Bool.or_eq_true, bne_iff_ne, any_eq_true,
    and_eq_true, beq_iff_eq]
  tauto

theorem completionsSubmitted_nil : CompletionsSubmitted [] := by
  intro before receipt after h
  simp at h

theorem completionsSubmitted_concat : CompletionsSubmitted (receipts ++ [receipt]) ↔
    CompletionsSubmitted receipts ∧ Submitted receipts receipt.draft := by
  constructor
  · intro h
    refine ⟨fun before item after hsp => ?_, h receipts receipt [] rfl⟩
    exact h before item (after ++ [receipt]) (by rw [hsp]; simp)
  · rintro ⟨hall, hlast⟩ before item after hsp
    rcases eq_nil_or_concat' after with rfl | ⟨init, last, rfl⟩
    · obtain ⟨rfl, hitem⟩ := append_inj' hsp rfl
      rwa [← singleton_inj.mp hitem]
    · rw [← cons_append, ← append_assoc] at hsp
      obtain ⟨rfl, -⟩ := append_inj' hsp rfl
      exact hall before item init rfl

/-- The revision of a receipt is an integer, and not a `bool` in its place. -/
def RevisionsInt (receipts : List ProtocolReceipt) : Prop :=
  ∀ item ∈ receipts, ∃ n, item.ledgerRevision = .int n

/-- **Which valid ledgers proposals can build.** -/
theorem reachable_iff (h : ledgerValid ledger) :
    Reachable ledger ↔ CompletionsSubmitted ledger.receipts ∧ RevisionsInt ledger.receipts := by
  constructor
  · rintro ⟨drafts, hrun⟩
    have hempty : RevisionsInt ledger.empty.receipts := by
      simp [RevisionsInt, ReceiptLedger.empty]
    refine Run.exec_invariant (I := fun l => CompletionsSubmitted l.receipts ∧
      RevisionsInt l.receipts) ?_ ⟨completionsSubmitted_nil, hempty⟩ hrun
    rintro l draft next ⟨hsubmitted, hint⟩ hstep
    obtain ⟨-, -, hpresent, rfl⟩ := proposeStep_iff.mp hstep
    exact ⟨completionsSubmitted_concat.mpr ⟨hsubmitted, submissionPresent_iff.mp hpresent⟩,
      forall_mem_append.mpr ⟨hint, forall_mem_singleton.mpr ⟨_, rfl⟩⟩⟩
  · rintro ⟨hsubmitted, hint⟩
    obtain ⟨installationId, leaderEpoch, taskId, revision, receipts⟩ := ledger
    induction receipts using List.reverseRecOn generalizing revision with
    | nil =>
      obtain rfl : revision = 0 := revision_of_ledgerValid h
      exact ⟨[], rfl⟩
    | append_singleton receipts receipt ih =>
      -- the ledger is a shorter one with the receipt that `_make_receipt` makes of its draft
      have hpush : (⟨installationId, leaderEpoch, taskId, revision, receipts ++ [receipt]⟩ :
          ReceiptLedger) = ReceiptLedger.push ⟨installationId, leaderEpoch, taskId, revision - 1,
            receipts⟩ receipt := by
        simp [ReceiptLedger.push]
      rw [hpush, ledgerValid_push] at h
      obtain ⟨hsubmitted, hlast⟩ := completionsSubmitted_concat.mp hsubmitted
      obtain ⟨n, hn⟩ := hint receipt (by simp)
      have hmake := eq_makeReceipt h.2.valid hn
      obtain ⟨drafts, hrun⟩ := ih (revision - 1) h.1 hsubmitted fun item hitem =>
        hint item (by simp [hitem])
      refine ⟨drafts ++ [receipt.draft], Run.exec_concat.mpr ⟨_, hrun, ?_⟩⟩
      rw [hpush]
      refine proposeStep_iff.mpr ⟨h.1, ?_, submissionPresent_iff.mpr hlast, ?_⟩
      · rw [← hmake]
        exact h.2
      · rw [← hmake]

end Reachable

end Valp.Receipts
