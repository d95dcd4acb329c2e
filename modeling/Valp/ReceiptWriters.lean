/-
Writers that share a receipt ledger.

Any number of writers load the file, propose drafts to the copies they hold and append what
was accepted, each as often as it likes and in any order; a copy may be out of date.  Every
call runs under the lock, so a run of calls is an interleaving of the writers.

* `writers_linearizable` — **the ledger only grows, and a committed draft stays what it is**.
-/
import Valp.ReceiptStore

namespace Valp.Receipts

open List

/-! ### The receipts of a file -/

section Holds

variable {store : ReceiptStore} {fault : Option Fault} {file : Option Bytes}
  {ledger : ReceiptLedger} {receipts : List ProtocolReceipt} {accepted : ReceiptWriteAccepted}

/-- The file holds these receipts, and they were all made by `_make_receipt`. -/
structure Holds (file : Option Bytes) (receipts : List ProtocolReceipt) : Prop where
  read : loadReceipts file = .ok receipts
  int : RevisionsInt receipts
  sorted : receipts.map ProtocolReceipt.sorted = receipts
  valid : receipts = [] ∨ ∃ store : ReceiptStore, ledgerValid (store.ledger receipts) = true

theorem Holds.missing : Holds none [] := ⟨rfl, by simp [RevisionsInt], rfl, .inl rfl⟩

theorem Holds.load (h : Holds file receipts) (hload : store.loadUnlocked file = .ok ledger) :
    ledger = store.ledger receipts ∧ (receipts = [] ∨ ledgerValid ledger) := by
  obtain ⟨read, hread, rfl, hlast⟩ := loadUnlocked_iff.mp hload
  cases h.read.symm.trans hread
  refine ⟨rfl, ?_⟩
  cases hrcpts : receipts.getLast? with
  | none => exact .inl (List.getLast?_eq_none_iff.mp hrcpts)
  | some last => exact .inr (hlast last hrcpts).1

variable {draft : ReceiptDraft}

/-- A receipt that the ledger on disk accepts is read back behind the others. -/
theorem Holds.push (h : Holds file receipts)
    {write : ReceiptWriteAccepted}
    (hprop : proposeReceiptAppend (store.ledger receipts) draft = .accepted write) :
    Holds (some (ledgerBytes write.ledger.receipts))
      (receipts ++ [(makeReceipt draft).sorted]) := by
  obtain ⟨hval, hfol, -, rfl⟩ := propose_accepted_iff.mp hprop
  have hall : ledgerValid (store.ledger (receipts ++ [makeReceipt draft])) :=
    store.push receipts _ ▸ ledgerValid_push.mpr ⟨hval, hfol⟩
  have hbytes := loadUnlocked_ledgerBytes hall (by
    intro last hlast
    obtain rfl : makeReceipt draft = last := by simpa using hlast
    exact ⟨_, rfl⟩)
  obtain ⟨read, hread, hldg, hlast⟩ := loadUnlocked_iff.mp hbytes
  obtain rfl : read = (receipts ++ [makeReceipt draft]).map ProtocolReceipt.sorted :=
    (congrArg ReceiptLedger.receipts hldg).symm
  have hsort : (receipts ++ [makeReceipt draft]).map ProtocolReceipt.sorted =
      receipts ++ [(makeReceipt draft).sorted] := by
    rw [map_append, h.sorted, map_singleton]
  rw [hsort] at hread hlast
  refine ⟨hread, ?_, ?_, .inr ⟨store, ?_⟩⟩
  · exact forall_mem_append.mpr ⟨h.int, forall_mem_singleton.mpr ⟨_, rfl⟩⟩
  · rw [map_append, h.sorted, map_singleton, ProtocolReceipt.sorted_sorted]
  · exact (hlast _ getLast?_concat).1

/-- **What one append does**: the receipts stay, and at most one more stands behind them. -/
theorem Holds.append (h : Holds file receipts) (store : ReceiptStore) (fault : Option Fault)
    (accepted : ReceiptWriteAccepted) :
    ∃ new, Holds (store.append fault file accepted).2 (receipts ++ new) := by
  rcases append_cases store fault file accepted with
    ⟨hfile, -⟩ | ⟨durable, write, hload, hprop, -, hfile, -⟩
  · exact ⟨[], by rwa [hfile, append_nil]⟩
  · obtain ⟨rfl, -⟩ := h.load hload
    exact ⟨_, hfile ▸ h.push hprop⟩

/-- **What an accepted append does**: its receipt stands behind the others. -/
theorem Holds.append_accepted (h : Holds file receipts) {write : ReceiptWriteAccepted}
    (hacc : (store.append fault file accepted).1 = .ok (.accepted write)) :
    write.receipt = makeReceipt accepted.receipt.draft ∧ write.ledger.same accepted.ledger ∧
      Holds (store.append fault file accepted).2 (receipts ++ [write.receipt.sorted]) := by
  rcases append_cases store fault file accepted with
    ⟨-, hnot⟩ | ⟨durable, written, hload, hprop, hsame, hfile, hwr⟩
  · exact absurd hacc (hnot write)
  · obtain rfl := hwr write hacc
    obtain ⟨rfl, -⟩ := h.load hload
    have hpush := h.push hprop
    obtain ⟨-, -, -, rfl⟩ := propose_accepted_iff.mp hprop
    exact ⟨rfl, hsame, hfile ▸ hpush⟩

theorem append_unchanged {durable : ReceiptLedger} (hload : store.loadUnlocked file = .ok durable)
    (h : ∀ write, proposeReceiptAppend durable accepted.receipt.draft ≠ .accepted write) :
    (store.append fault file accepted).2 = file := by
  rcases append_cases store fault file accepted with
    ⟨hfile, -⟩ | ⟨other, write, hoth, hprop, -⟩
  · exact hfile
  · cases hload.symm.trans hoth
    exact absurd hprop (h write)

end Holds

/-! ### Many writers -/

/-- What a writer has at hand: ledgers to propose to, and writes that were accepted. -/
structure Writer where
  copies : List ReceiptLedger := []
  writes : List ReceiptWriteAccepted := []

/-- The file and what each writer has at hand. -/
structure World (ι : Type) where
  file : Option Bytes
  writers : ι → Writer

/-- The calls of a writer.  It proposes to one of its copies and appends one of its writes;
`fault` says where the file system fails. -/
inductive Action (ι : Type) where
  | load (writer : ι) (fault : Option Fault)
  | propose (writer : ι) (copy : ℕ) (draft : ReceiptDraft)
  | append (writer : ι) (write : ℕ) (fault : Option Fault)

section Writers

variable {ι : Type} [DecidableEq ι] {stores : ι → ReceiptStore}

def World.start : World ι where
  file := none
  writers := fun _ => {}

def World.learn (world : World ι) (writer : ι) (ledger : ReceiptLedger) : World ι :=
  { world with writers := Function.update world.writers writer {
      copies := (world.writers writer).copies ++ [ledger]
      writes := (world.writers writer).writes } }

def World.keep (world : World ι) (writer : ι) (accepted : ReceiptWriteAccepted) : World ι :=
  { world with writers := Function.update world.writers writer {
      copies := (world.writers writer).copies
      writes := (world.writers writer).writes ++ [accepted] } }

def ReceiptWriteResult.ledger : ReceiptWriteResult → ReceiptLedger
  | .accepted write => write.ledger
  | .noOp ledger _ => ledger
  | .rejected ledger _ => ledger

/-- One call, where the writer has what it needs for it. -/
def World.step (stores : ι → ReceiptStore) (world : World ι) : Action ι → Option (World ι)
  | .load writer fault =>
    match (stores writer).load fault world.file with
    | .ok ledger => some (world.learn writer ledger)
    | .error _ => some world
  | .propose writer copy draft => do
    let ledger ← (world.writers writer).copies[copy]?
    match proposeReceiptAppend ledger draft with
    | .accepted accepted => some ((world.keep writer accepted).learn writer accepted.ledger)
    | _ => some world
  | .append writer write fault => do
    let accepted ← (world.writers writer).writes[write]?
    let (result, file) := (stores writer).append fault world.file accepted
    match result with
    | .ok value => some ({ world with file := file }.learn writer value.ledger)
    | .error _ => some { world with file := file }

theorem World.step_append {world next : World ι} {writer : ι} {k : ℕ} {fault : Option Fault}
    (h : world.step stores (.append writer k fault) = some next) :
    ∃ accepted, (world.writers writer).writes[k]? = some accepted ∧
      next.file = ((stores writer).append fault world.file accepted).2 := by
  rw [World.step] at h
  obtain ⟨accepted, hacc, h⟩ := Option.bind_eq_some_iff.mp h
  refine ⟨accepted, hacc, ?_⟩
  dsimp only at h
  split at h <;> cases h <;> rfl

/-- **What one call does to the file**: nothing, or it is an append. -/
theorem World.step_file {world next : World ι} {action : Action ι}
    (h : world.step stores action = some next) :
    next.file = world.file ∨ ∃ writer fault accepted,
      next.file = ((stores writer).append fault world.file accepted).2 := by
  cases action with
  | load writer fault =>
    rw [World.step] at h
    split at h <;> cases h <;> exact .inl rfl
  | propose writer copy draft =>
    rw [World.step] at h
    obtain ⟨ledger, -, h⟩ := Option.bind_eq_some_iff.mp h
    split at h <;> cases h <;> exact .inl rfl
  | append writer write fault =>
    obtain ⟨accepted, -, hfile⟩ := World.step_append h
    exact .inr ⟨writer, fault, accepted, hfile⟩

variable {receipts : List ProtocolReceipt} {ledger : ReceiptLedger}

/-- **Runs only add receipts.** -/
theorem World.run_holds {world next : World ι} {actions : List (Action ι)}
    (h : Run.exec (World.step stores) world actions = some next)
    (hholds : Holds world.file receipts) : ∃ new, Holds next.file (receipts ++ new) := by
  refine Run.exec_invariant (I := fun w => ∃ new, Holds w.file (receipts ++ new)) ?_
    ⟨[], by rwa [append_nil]⟩ h
  rintro u action v ⟨new, hu⟩ hstep
  rcases World.step_file hstep with hfile | ⟨writer, fault, accepted, hfile⟩
  · exact ⟨new, hfile ▸ hu⟩
  · obtain ⟨more, hmore⟩ := hu.append (stores writer) fault accepted
    rw [append_assoc] at hmore
    exact ⟨_, hfile ▸ hmore⟩

theorem Chain.eventSequences
    (h : Chain ledger receipts) :
    receipts.map (fun item => item.draft.eventSequence) =
      (List.range receipts.length).map fun k : ℕ => (k : Int) + 1 := by
  refine ext_getElem? fun i => ?_
  rw [getElem?_map, getElem?_map]
  cases hi : receipts[i]? with
  | none =>
    rw [getElem?_eq_none (by simpa using hi)]
    rfl
  | some receipt =>
    rw [getElem?_range (List.getElem?_eq_some_iff.mp hi).1]
    exact congrArg some (h.count hi).1

theorem Chain.expectedRevision_inj
    (h : Chain ledger receipts) {a b : ProtocolReceipt} (ha : a ∈ receipts) (hb : b ∈ receipts)
    (hab : a.draft.expectedRevision = b.draft.expectedRevision) : a = b := by
  obtain ⟨i, hi⟩ := mem_iff_getElem?.mp ha
  obtain ⟨j, hj⟩ := mem_iff_getElem?.mp hb
  have hrev := (h.count hi).2.1.symm.trans (hab.trans (h.count hj).2.1)
  obtain rfl : i = j := by omega
  exact Option.some_inj.mp (hi.symm.trans hj)

/-- A committed draft, whatever the order of its proof bindings, is a repetition. -/
theorem Holds.again {store : ReceiptStore} {file : Option Bytes} {receipt : ProtocolReceipt}
    (h : Holds file receipts) (hload : store.loadUnlocked file = .ok ledger)
    (hmem : receipt ∈ receipts) (hdr : Permuted receipt.draft draft) :
    proposeReceiptAppend ledger draft = .noOp ledger receipt := by
  obtain ⟨rfl, rfl | hval⟩ := h.load hload
  · cases hmem
  · obtain ⟨n, hn⟩ := h.int receipt hmem
    exact propose_again hval hmem hn hdr

/-- **Receipt writes are linearizable and idempotent.**  Of two points of a run, the later
ledger extends the earlier one; its sequence numbers count up from 1 and its ids, logical keys
and migration ids are distinct; at most one draft of a revision is committed; a committed
draft is a repetition from then on, and other content under its id or its key is rejected.  An
append in between that answers `Accepted` has put its receipt into the later ledger. -/
theorem writers_linearizable {before after : List (Action ι)} {early late : World ι}
    (hearly : Run.exec (World.step stores) World.start before = some early)
    (hlate : Run.exec (World.step stores) early after = some late)
    {i j : ι} {fault fault' : Option Fault} {ledger ledger' : ReceiptLedger}
    (hload : (stores i).load fault early.file = .ok ledger)
    (hload' : (stores j).load fault' late.file = .ok ledger') :
    ledger.receipts <+: ledger'.receipts ∧
    ledger'.receipts.map (fun item => item.draft.eventSequence) =
      (List.range ledger'.receipts.length).map (fun k : ℕ => (k : Int) + 1) ∧
    (ledger'.receipts.map fun item => item.draft.receiptId).Nodup ∧
    (ledger'.receipts.map fun item => logicalKey item.draft).Nodup ∧
    (ledger'.receipts.filterMap fun item =>
      item.draft.migrationBinding.map MigrationBinding.migrationId).Nodup ∧
    (∀ a ∈ ledger'.receipts, ∀ b ∈ ledger'.receipts,
      a.draft.expectedRevision = b.draft.expectedRevision → a = b) ∧
    (∀ receipt ∈ ledger.receipts, ∀ draft, Permuted receipt.draft draft →
      proposeReceiptAppend ledger' draft = .noOp ledger' receipt ∧
      (∀ copy accepted, proposeReceiptAppend copy draft = .accepted accepted →
        (stores j).append none late.file accepted = (.ok (.noOp ledger' receipt), late.file)) ∧
      ∀ fault accepted, accepted.receipt.draft = draft →
        ((stores j).append fault late.file accepted).2 = late.file) ∧
    (∀ receipt ∈ ledger.receipts, ∀ draft,
      (draft.receiptId = receipt.draft.receiptId ∨
        logicalKey draft = logicalKey receipt.draft) → ¬Permuted receipt.draft draft →
      ∃ code, proposeReceiptAppend ledger' draft = .rejected ledger' code ∧
        (∀ copy accepted, proposeReceiptAppend copy draft = .accepted accepted →
          (stores j).append none late.file accepted = (.ok (.rejected ledger' code), late.file)) ∧
        ∀ fault accepted, accepted.receipt.draft = draft →
          ((stores j).append fault late.file accepted).2 = late.file) ∧
    ∀ u writer k fault v accepted write,
      (u, Action.append writer k fault, v) ∈ Run.trace (World.step stores) early after →
      (u.writers writer).writes[k]? = some accepted →
      ((stores writer).append fault u.file accepted).1 = .ok (.accepted write) →
      write.receipt = makeReceipt accepted.receipt.draft ∧ write.ledger.same accepted.ledger ∧
        write.receipt.sorted ∈ ledger'.receipts := by
  have hload := of_load hload
  have hload' := of_load hload'
  obtain ⟨receipts, hholds⟩ := World.run_holds hearly Holds.missing
  rw [nil_append] at hholds
  obtain ⟨new, hholds'⟩ := World.run_holds hlate hholds
  obtain ⟨rfl, -⟩ := hholds.load hload
  obtain ⟨hledger', hvalid'⟩ := hholds'.load hload'
  have hreceipts' : ledger'.receipts = receipts ++ new := congrArg ReceiptLedger.receipts hledger'
  have hchain : Chain ledger' ledger'.receipts := by
    rcases hvalid' with hnil | hvalid'
    · rw [hreceipts', hnil]
      exact .nil
    · exact (ledgerValid_iff.mp hvalid').2.2.2.2
  refine ⟨hreceipts' ▸ prefix_append _ _, hchain.eventSequences, hchain.receiptIds,
    hchain.logicalKeys, hchain.migrationIds,
    fun a ha b hb => hchain.expectedRevision_inj ha hb, ?_, ?_, ?_⟩
  · intro receipt hmem draft hdraft
    have hagain := hholds'.again hload' (mem_append_left new hmem) hdraft
    refine ⟨hagain, fun copy accepted haccepted => ?_, fun fault accepted hsame => ?_⟩
    · rw [append_eq hload' haccepted, hagain]
    · refine append_unchanged hload' fun write hwrite => ?_
      rw [hsame, hagain] at hwrite
      cases hwrite
  · intro receipt hmem draft htaken hother
    have hmem' : receipt ∈ ledger'.receipts := hreceipts' ▸ mem_append_left new hmem
    have hvalid : ledgerValid ledger' :=
      hvalid'.resolve_left fun hnil => by rw [hreceipts', hnil] at hmem'; cases hmem'
    obtain ⟨code, hcode⟩ := propose_other hvalid hmem' htaken hother
    refine ⟨code, hcode, fun copy accepted haccepted => ?_, fun fault accepted hsame => ?_⟩
    · rw [append_eq hload' haccepted, hcode]
    · refine append_unchanged hload' fun write hwrite => ?_
      rw [hsame, hcode] at hwrite
      cases hwrite
  · intro u writer k fault v accepted write hturn hwrite hresult
    obtain ⟨ys, zs, -, hu, hstep, hv⟩ := (Run.mem_trace_iff hlate).mp hturn
    obtain ⟨more, hmore⟩ := World.run_holds hu hholds
    obtain ⟨_, hsame, hfile⟩ := World.step_append hstep
    cases hwrite.symm.trans hsame
    obtain ⟨hreceipt, hledger, hpushed⟩ := hmore.append_accepted hresult
    rw [← hfile] at hpushed
    obtain ⟨rest, hrest⟩ := World.run_holds hv hpushed
    obtain ⟨rfl, -⟩ := hrest.load hload'
    exact ⟨hreceipt, hledger, mem_append_left rest (mem_append_right _ (mem_singleton_self _))⟩

end Writers

/-! ### One receipt of two writers -/

def sampleDraft : ReceiptDraft := (sampleBase "dispatch_submitted" none).withProofs

def sampleWrite : ReceiptWriteAccepted where
  ledger := (sampleStore.ledger []).push (makeReceipt sampleDraft)
  receipt := makeReceipt sampleDraft
  obligations := [obligation (makeReceipt sampleDraft)]

theorem propose_sample :
    proposeReceiptAppend (sampleStore.ledger []) sampleDraft = .accepted sampleWrite := by
  refine propose_accepted_iff.mpr ⟨sampleStore_valid,
    follows_sample fieldsValid_sampleBase.2 (by decide), ?_, rfl⟩
  exact submissionPresent_iff.mpr fun hev => absurd hev (by decide)

theorem append_sample : sampleStore.append none none sampleWrite =
    (.ok (.accepted sampleWrite), some (ledgerBytes [makeReceipt sampleDraft])) := by
  have hload : sampleStore.loadUnlocked none = .ok (sampleStore.ledger []) := rfl
  rw [append_eq hload propose_sample, propose_sample]
  dsimp only
  rw [ReceiptLedger.same_refl, if_pos rfl]
  rfl

theorem load_sampleDraft :
    sampleStore.load none (some (ledgerBytes [makeReceipt sampleDraft])) =
      .ok (sampleStore.ledger [(makeReceipt sampleDraft).sorted]) := by
  have hload := load_sample fieldsValid_sampleBase.2 (by decide)
  exact hload

theorem permuted_sorted (draft : ReceiptDraft) : Permuted (makeReceipt draft).sorted.draft draft :=
  ⟨draft.proofBindings, (sortBindings_perm draft.proofBindings).symm, rfl⟩

theorem append_again :
    sampleStore.append none (some (ledgerBytes [makeReceipt sampleDraft])) sampleWrite =
      (.ok (.noOp (sampleStore.ledger [(makeReceipt sampleDraft).sorted])
        (makeReceipt sampleDraft).sorted), some (ledgerBytes [makeReceipt sampleDraft])) := by
  have hload := of_load load_sampleDraft
  have hholds := Holds.missing.push propose_sample
  rw [show sampleWrite.ledger.receipts = [makeReceipt sampleDraft] from rfl, nil_append] at hholds
  rw [append_eq hload propose_sample,
    hholds.again hload (mem_singleton_self _) (permuted_sorted sampleDraft)]

/-- Two writers load, both propose the sample, and both append it. -/
def sampleRace : List (Action Bool) :=
  [.load true none, .load false none, .propose true 0 sampleDraft, .propose false 0 sampleDraft,
    .append true 0 none, .append false 0 none]

section Race

variable {world : World Bool} {writer : Bool}

theorem step_load (hfile : world.file = none) :
    world.step (fun _ => sampleStore) (.load writer none) =
      some (world.learn writer (sampleStore.ledger [])) := by
  have hok : sampleStore.load none none = .ok (sampleStore.ledger []) := load_none rfl
  rw [World.step, hfile, hok]

theorem step_propose (hcopy : (world.writers writer).copies[0]? = some (sampleStore.ledger [])) :
    world.step (fun _ => sampleStore) (.propose writer 0 sampleDraft) =
      some ((world.keep writer sampleWrite).learn writer sampleWrite.ledger) := by
  rw [World.step, hcopy, Option.bind_eq_bind, Option.bind_some, propose_sample]

theorem step_append {value : ReceiptWriteResult} {file : Option Bytes}
    (hwrite : (world.writers writer).writes[0]? = some sampleWrite)
    (happ : sampleStore.append none world.file sampleWrite = (.ok value, file)) :
    world.step (fun _ => sampleStore) (.append writer 0 none) =
      some ({ world with file := file }.learn writer value.ledger) := by
  rw [World.step, hwrite, Option.bind_eq_bind, Option.bind_some, happ]

end Race

/-- The run of both: the first append is accepted, the second one finds its receipt. -/
theorem run_sample : ∃ early middle late : World Bool,
    Run.exec (World.step fun _ => sampleStore) World.start (sampleRace.take 4) = some early ∧
    early.file = none ∧ (early.writers true).writes[0]? = some sampleWrite ∧
    early.step (fun _ => sampleStore) (.append true 0 none) = some middle ∧
    middle.step (fun _ => sampleStore) (.append false 0 none) = some late ∧
    late.file = some (ledgerBytes [makeReceipt sampleDraft]) :=
  ⟨_, _, _, Run.exec_cons.mpr ⟨_, step_load rfl, Run.exec_cons.mpr ⟨_, step_load rfl,
    Run.exec_cons.mpr ⟨_, step_propose rfl, Run.exec_cons.mpr ⟨_, step_propose rfl, rfl⟩⟩⟩⟩,
    rfl, rfl, step_append rfl append_sample, step_append rfl append_again, rfl⟩

/-- Two writers race for one receipt: the accepted append has put it into the last ledger, where
it is found again. -/
theorem writers_linearizable_sample : ∃ (world : World Bool) (ledger : ReceiptLedger),
    Run.exec (World.step fun _ => sampleStore) World.start sampleRace = some world ∧
    sampleStore.load none world.file = .ok ledger ∧
    (makeReceipt sampleDraft).sorted ∈ ledger.receipts ∧
    ∀ receipt ∈ ledger.receipts,
      proposeReceiptAppend ledger receipt.draft = .noOp ledger receipt := by
  obtain ⟨early, middle, late, hearly, hfile, hwrite, hfirst, hsecond, hlate⟩ := run_sample
  have hlast : Run.exec (World.step fun _ => sampleStore) early (sampleRace.drop 4) = some late :=
    Run.exec_cons.mpr ⟨_, hfirst, Run.exec_cons.mpr ⟨_, hsecond, rfl⟩⟩
  have hrun : Run.exec (World.step fun _ => sampleStore) World.start sampleRace = some late := by
    rw [← take_append_drop 4 sampleRace]
    exact Run.exec_append.mpr ⟨early, hearly, hlast⟩
  have hload : sampleStore.load none late.file = .ok _ := hlate ▸ load_sampleDraft
  refine ⟨late, _, hrun, hload, ?_, fun receipt hmem => ?_⟩
  · have hempty : sampleStore.load none early.file = .ok (sampleStore.ledger []) := by
      rw [hfile]
      exact load_none rfl
    obtain ⟨-, -, -, -, -, -, -, -, haccepted⟩ :=
      writers_linearizable (i := true) (j := false) hearly hlast hempty hload
    have hturn : (early, Action.append true 0 none, middle) ∈
        Run.trace (World.step fun _ => sampleStore) early (sampleRace.drop 4) :=
      (Run.mem_trace_iff hlast).mpr ⟨[], _, rfl, rfl, hfirst, Run.exec_cons.mpr ⟨_, hsecond, rfl⟩⟩
    exact (haccepted early true 0 none middle sampleWrite sampleWrite hturn hwrite
      (hfile ▸ congrArg Prod.fst append_sample)).2.2
  · obtain ⟨-, -, -, -, -, -, hagain, -⟩ :=
      writers_linearizable (i := true) (j := false) hrun (Run.exec_nil late) hload hload
    exact (hagain receipt hmem _ ⟨_, List.Perm.refl _, rfl⟩).1

end Valp.Receipts
