/-
Workers that share a queue lifecycle.

Any number of processes make the calls of `QueueCalls`, each in up to three steps: it settles on
a change, it commits the change under the lock, and an acknowledged cancellation then leaves its
proof, a terminal observation its receipt.  A process may stop between two steps and start another
call.

* `queue_lifecycle_safe` — **in every state of every run the ledger is accepted by the loader and
  every item has one of the lifecycles; where requests are careful and no runtime identity is
  used for two attempts, a call that is made again returns the same entry and writes nothing**;
* `careless_request_conflicts` — a request that expects a later revision of a queued item may
  be accepted, and raises when it is made again.
-/
import Valp.QueueCalls

namespace Valp.Queue

open Kernel (digest)
open Kernel.Decode (ok_bind)
open Json (Value)
open Run (exec exec_cons exec_guarded exec_nil)
open List
open Json.Value

/-! ### Cancellation proofs -/

def proofKeys : List String :=
  ["worker_id", "run_id", "claim_token", "claim_event_id", "authority", "reason"]

def workerAcknowledged (entry : Value) : Bool :=
  isText (entry.get "worker_id") && isText (entry.get "run_id") &&
    isText (entry.get "claim_token") && isText (entry.get "claim_event_id") &&
    isTrue (entry.get "acknowledged")

def queuedUnclaimed (entry : Value) : Bool :=
  (entry.get "queue_revision").equal (.int 1) && (asStr (entry.get "authority")).isSome &&
    (asStr (entry.get "reason")).isSome

section

variable (queue : QueueItem) (taskId : String) (submission : Submission) (entry : Value)

def proofFields : List (String × Value) :=
  [("schema_version", .str "valp-queue-cancellation-proof.v1"),
    ("task_id", .str taskId),
    ("work_item_id", .str submission.workItemId),
    ("attempt_id", .str submission.attemptId),
    ("dispatch_id", .str submission.dispatchId),
    ("dispatch_generation", .int submission.dispatchGeneration),
    ("queue_id", .str queue.identity.queueId),
    ("enqueue_transaction_id", .str queue.identity.enqueueTransactionId),
    ("cancellation_kind",
      .str (if workerAcknowledged entry then "worker_acknowledged" else "queued_unclaimed")),
    ("cancellation_event_id", entry.get "event_id"),
    ("lifecycle_entry_digest", entry.get "entry_digest"),
    ("acknowledged", .bool true)] ++
  (proofKeys.filter entry.has).map fun k => (k, entry.get k)

theorem nodup_proofFields : ((proofFields queue taskId submission entry).map Prod.fst).Nodup := by
  rw [proofFields, map_append, map_map]
  have hkeys : (proofKeys.filter entry.has).map (Prod.fst ∘ fun k => (k, entry.get k)) =
      proofKeys.filter entry.has := by
    simp [Function.comp_def]
  rw [hkeys, nodup_append]
  refine ⟨by simp, (by decide : proofKeys.Nodup).filter _, ?_⟩
  have hdisjoint : ∀ k ∈ proofKeys, k ∉ ["schema_version", "task_id", "work_item_id", "attempt_id",
      "dispatch_id", "dispatch_generation", "queue_id", "enqueue_transaction_id",
      "cancellation_kind", "cancellation_event_id", "lifecycle_entry_digest", "acknowledged"] := by
    decide
  rintro k hk _ hb rfl
  exact hdisjoint k (mem_of_mem_filter hb) hk

/-- The proof that `record_queue_cancellation_proof` builds. -/
def cancellationProof : Except String Value := do
  require ((entry.get "event").equal (.str "cancelled") &&
      (entry.get "queue_id").equal (.str queue.identity.queueId))
    "Queue cancellation proof requires an exact cancelled entry"
  require (workerAcknowledged entry || queuedUnclaimed entry)
    "Queue cancellation lacks runtime acknowledgement"
  .ok (.dict (proofFields queue taskId submission entry) (nodup_proofFields _ _ _ _))

end

def proofName (entry : Value) : List Char :=
  ((asStr (entry.get "event_id")).getD "").toList.drop 7

abbrev Proofs := List Char → Option Value

/-- `record_queue_cancellation_proof`, without the observation that is made of it. -/
def recordQueueCancellationProof (items : List (Option QueueItem)) (proofs : Proofs)
    (taskId : String) (submission : Submission) (entry : Value) : Except String Unit × Proofs :=
  match (do
    let queue ← queueItemForSubmission items submission
    cancellationProof queue taskId submission entry) with
  | .error message => (.error message, proofs)
  | .ok proof =>
    match proofs (proofName entry) with
    | some written =>
      if written.equal proof then (.ok (), proofs)
      else (.error "Queue cancellation proof conflicts", proofs)
    | none => (.ok (), Function.update proofs (proofName entry) (some proof))

/-! ### Terminal receipts -/

def textField (entry : Value) (k : String) : Value := .str ((asStr (entry.get k)).getD "")

section

variable (submission : Submission) (change : Change) (worker : Option Value)
  (evidence : String → Option String) (entry : Value)

/-- `process`. -/
def processFields : List (String × Value) :=
  [("runtime_identity", .str (change.details.runtimeIdentity.getD "")),
    ("queue_id", .str change.identity.queueId),
    ("enqueue_transaction_id", .str change.identity.enqueueTransactionId),
    ("submission_receipt_id", .str submission.receiptId),
    ("terminal_lifecycle_event_id", textField entry "event_id"),
    ("terminal_lifecycle_entry_digest", textField entry "entry_digest")] ++
  change.details.fields

/-- `content`. -/
def contentFields : List (String × Json) :=
  [("submission_receipt_id", .str submission.receiptId),
    ("terminal_status", .str change.event.name),
    ("expected_evidence", .arr (if change.event = .completed then
      submission.expectedRefs.map fun ref =>
        .obj [("ref", .str ref), ("content_digest", .str ((evidence ref).getD ""))] else [])),
    ("acknowledged", .bool true)] ++
  if change.event = .blocked then
    [("failure_code", (worker.elim Value.null fun w => w.get "failure_code").1)] else []

/-- The receipt that an observation is recorded with. -/
def terminalReceipt : Terminal where
  identity := change.identity
  event := change.event
  runtimeIdentity := change.details.runtimeIdentity.getD ""
  processDigest := digest (.obj ((processFields submission change entry).map fun f => (f.1, f.2.1)))
  contentDigest := digest (.obj (contentFields submission change worker evidence))

end

/-- What the receipts of one dispatch and event have in common. -/
def Terminal.key (receipt : Terminal) : String × String × Int × LifecycleEvent :=
  (receipt.identity.workItemId, receipt.identity.dispatchId, receipt.identity.dispatchGeneration,
    receipt.event)

/-- The receipts of one dispatch and event. -/
def logical (key : String × String × Int × LifecycleEvent) (receipts : List Terminal) :
    List Terminal :=
  receipts.filter fun receipt => receipt.key = key

/-- `_append` for a terminal observation. -/
def appendTerminal (receipts : List Terminal) (receipt : Terminal) :
    Except String Unit × List Terminal :=
  match logical receipt.key receipts with
  | [] => (.ok (), receipts ++ [receipt])
  | found =>
    match found.filter fun other => other.identity.attemptId = receipt.identity.attemptId with
    | [exact] =>
      if exact.processDigest = receipt.processDigest ∧ exact.contentDigest = receipt.contentDigest
      then (.ok (), receipts)
      else (.error "queue exact retry proof conflicts", receipts)
    | _ => (.error "queue exact identity conflicts with committed receipt", receipts)

/-- What the calls leave beside the ledger. -/
structure Records where
  proofs : Proofs
  receipts : List Terminal

/-- What a call does behind the lock. -/
def Call.finish (items : List (Option QueueItem)) (records : Records) (change : Change)
    (entry : Value) : Call → Except String Unit × Records
  | .acknowledge taskId submission _ _ _ _ _ =>
    let (result, proofs) :=
      recordQueueCancellationProof items records.proofs taskId submission entry
    (result, { records with proofs })
  | .observe _ submission _ worker evidence =>
    let (result, receipts) := appendTerminal records.receipts
      (terminalReceipt submission change worker evidence entry)
    (result, { records with receipts })
  | _ => (.ok (), records)

/-- Proofs stay, and a dispatch that has receipts gets no other one. -/
structure Records.Keeps (records later : Records) : Prop where
  proofs : ∀ name proof, records.proofs name = some proof → later.proofs name = some proof
  receipts : ∀ key, logical key records.receipts ≠ [] →
    logical key later.receipts = logical key records.receipts

/-! ### A proof is written once -/

section Proof

variable {items : List (Option QueueItem)} {proofs proofs' : Proofs} {taskId : String}
  {records records' later : Records} {receipts receipts' : List Terminal} {receipt : Terminal}
  {submission : Submission} {change : Change} {entry : Value} {call : Call}
  {result : Except String Unit}

theorem Records.Keeps.refl (records : Records) : records.Keeps records :=
  ⟨fun _ _ => id, fun _ _ => rfl⟩

theorem Records.Keeps.trans (h : records.Keeps records') (h' : records'.Keeps later) :
    records.Keeps later where
  proofs name proof hpf := h'.proofs name proof (h.proofs name proof hpf)
  receipts key hkey := by
    have hsame := h.receipts key hkey
    rw [h'.receipts key (hsame ▸ hkey), hsame]

theorem asStr_normal (v : Value) : asStr (v.normal true) = asStr v := by
  obtain ⟨v, hv⟩ := v
  cases v <;> rfl

theorem isTrue_normal (v : Value) : isTrue (v.normal true) = isTrue v := by
  obtain ⟨v, hv⟩ := v
  cases v <;> rfl

theorem isText_normal (v : Value) : isText (v.normal true) = isText v := by
  rw [isText, isText, asStr_normal]

theorem workerAcknowledged_normal (entry : Value) :
    workerAcknowledged (entry.normal true) = workerAcknowledged entry := by
  simp only [workerAcknowledged, get_normal, isText_normal, isTrue_normal]

theorem cancellationProof_normal {queue : QueueItem} {proof : Value}
    (h : cancellationProof queue taskId submission entry = .ok proof) :
    ∃ proof', cancellationProof queue taskId submission (entry.normal true) = .ok proof' ∧
      proof'.normal true = proof.normal true := by
  obtain ⟨u, hev, h⟩ := Kernel.bind_eq_ok.mp h
  obtain ⟨u', hkind, h⟩ := Kernel.bind_eq_ok.mp h
  cases h
  have hqueued : queuedUnclaimed (entry.normal true) = queuedUnclaimed entry := by
    simp only [queuedUnclaimed, get_normal, asStr_normal, equal_normal]
  have hhas : (entry.normal true).has = entry.has := funext (has_normal entry)
  have hflds : proofFields queue taskId submission (entry.normal true) =
      (proofFields queue taskId submission entry).map fun f => (f.1, f.2.normal true) := by
    simp only [proofFields, map_append, map_map, map_cons, map_nil,
      workerAcknowledged_normal, get_normal, hhas, Function.comp_def]
    rfl
  refine ⟨.dict (proofFields queue taskId submission (entry.normal true))
    (nodup_proofFields _ _ _ _), ?_, ?_⟩
  · simp only [cancellationProof, get_normal, equal_normal, require_eq_ok.mp hev,
      require_true, ok_bind, workerAcknowledged_normal, hqueued, require_eq_ok.mp hkind]
  · simp only [hflds]
    exact normal_dict

theorem proofName_normal (entry : Value) : proofName (entry.normal true) = proofName entry := by
  rw [proofName, proofName, get_normal, asStr_normal]

/-- **What the recording of a proof does.** -/
theorem recordQueueCancellationProof_cases
    (h : recordQueueCancellationProof items proofs taskId submission entry = (result, proofs')) :
    (∀ name proof, proofs name = some proof → proofs' name = some proof) ∧
    (result = .ok () → ∃ queue proof written, queueItemForSubmission items submission = .ok queue ∧
      cancellationProof queue taskId submission entry = .ok proof ∧
      proofs' (proofName entry) = some written ∧ written.equal proof) := by
  rw [recordQueueCancellationProof] at h
  split at h
  · cases h
    exact ⟨fun _ _ => id, nofun⟩
  rename_i proof hpf
  obtain ⟨queue, hq, hblt⟩ := Kernel.bind_eq_ok.mp hpf
  split at h
  · rename_i written hwr
    by_cases heql : written.equal proof = true
    · rw [if_pos heql] at h
      cases h
      exact ⟨fun _ _ => id, fun _ => ⟨queue, proof, written, hq, hblt, hwr, heql⟩⟩
    · rw [if_neg heql] at h
      cases h
      exact ⟨fun _ _ => id, nofun⟩
  · rename_i hnone
    cases h
    refine ⟨fun name known hkn => ?_, fun _ => ⟨queue, proof, proof, hq, hblt, ?_,
      equal_self proof⟩⟩
    · rw [Function.update_of_ne, hkn]
      rintro rfl
      cases hnone.symm.trans hkn
    · rw [Function.update_self]

/-- **What the recording of a receipt does.** -/
theorem appendTerminal_cases (h : appendTerminal receipts receipt = (result, receipts')) :
    (receipts' = receipts ∨ receipts' = receipts ++ [receipt] ∧ logical receipt.key receipts = []) ∧
    (result = .ok () → ∃ exact, (logical receipt.key receipts').filter
        (fun other => other.identity.attemptId = receipt.identity.attemptId) = [exact] ∧
      exact.processDigest = receipt.processDigest ∧
      exact.contentDigest = receipt.contentDigest) := by
  rw [appendTerminal] at h
  split at h
  · rename_i hnone
    cases h
    refine ⟨.inr ⟨rfl, hnone⟩, fun _ => ⟨receipt, ?_, rfl, rfl⟩⟩
    rw [logical, filter_append, ← logical, hnone]
    simp
  split at h
  · rename_i exact hex
    split at h
    · rename_i hsame
      cases h
      exact ⟨.inl rfl, fun _ => ⟨exact, hex, hsame⟩⟩
    · cases h
      exact ⟨.inl rfl, nofun⟩
  · cases h
    exact ⟨.inl rfl, nofun⟩

/-- **What a call leaves behind the lock**: what is there is kept, and a new receipt is one for its
change. -/
theorem finish_cases {C : Option Bytes → Call → Prop} {entries : List Entry}
    (hoff : Offered items C entries call change)
    (h : call.finish items records change entry = (result, records')) :
    records.Keeps records' ∧ ∀ receipt ∈ records'.receipts, receipt ∈ records.receipts ∨
      receipt.identity = change.identity ∧
        change.details.runtimeIdentity = some receipt.runtimeIdentity := by
  cases call with
  | acknowledge =>
    obtain ⟨-, rfl⟩ := Prod.mk.inj h
    exact ⟨⟨(recordQueueCancellationProof_cases rfl).1, fun _ _ => rfl⟩, fun _ => .inl⟩
  | observe _ submission _ worker evidence =>
    obtain ⟨-, rfl⟩ := Prod.mk.inj h
    dsimp only
    rcases (appendTerminal_cases rfl).1 with hsame | ⟨hnew, hnone⟩
    · rw [hsame]
      exact ⟨.refl _, fun _ => .inl⟩
    · rw [hnew]
      refine ⟨⟨fun _ _ => id, fun key hkey => ?_⟩, fun receipt hrcpt => ?_⟩
      · rw [logical, filter_append, filter_cons_of_neg, filter_nil, append_nil, ← logical]
        intro heq
        rw [← of_decide_eq_true heq] at hkey
        exact hkey hnone
      · refine (mem_append.mp hrcpt).imp id fun hrcpt => ?_
        rw [mem_singleton.mp hrcpt]
        refine ⟨rfl, ?_⟩
        obtain ⟨file, _, first, hfile, hch, -, -, hok⟩ := hoff
        obtain ⟨-, -, -, -, -, -, -, -, -, -, -, -, rfl⟩ :=
          (observeChange_written hfile hch _ _ _ _).mp hok
        rfl
  | _ =>
    obtain ⟨-, rfl⟩ := Prod.mk.inj h
    exact ⟨.refl _, fun _ => .inl⟩

/-- **A call that finished finishes again, and writes nothing.** -/
theorem finish_again (h : call.finish items records change entry = (.ok (), records'))
    (hlat : records'.Keeps later) :
    call.finish items later change (entry.normal true) = (.ok (), later) := by
  cases call with
  | acknowledge taskId submission workerId runId claimToken claimEventId expectedRevision =>
    obtain ⟨hres, rfl⟩ := Prod.mk.inj h
    obtain ⟨queue, proof, written, hq, hpf, hwr, heql⟩ :=
      (recordQueueCancellationProof_cases rfl).2 hres
    obtain ⟨proof', hpf', hsame⟩ := cancellationProof_normal hpf
    have heql' : written.equal proof' := by
      have hkey : proof'.1.key = proof.1.key := by
        rw [← Json.key_sortKeys proof'.1, ← Json.key_sortKeys proof.1]
        exact congrArg (fun v : Value => v.1.key) hsame
      rw [equal_iff, hkey]
      exact Value.equal_iff.mp heql
    simp only [Call.finish, recordQueueCancellationProof, hq, ok_bind, hpf',
      proofName_normal, hlat.proofs _ _ hwr, heql', if_true]
  | observe taskId submission observationRef worker evidence =>
    obtain ⟨hres, rfl⟩ := Prod.mk.inj h
    obtain ⟨exact, hex, hdigs⟩ := (appendTerminal_cases rfl).2 hres
    have hsame : terminalReceipt submission change worker evidence (entry.normal true) =
        terminalReceipt submission change worker evidence entry := by
      simp only [terminalReceipt, processFields, textField, get_normal, asStr_normal]
    have hkept := hlat.receipts (terminalReceipt submission change worker evidence entry).key
      fun hnone => by rw [hnone] at hex; cases hex
    rw [← hkept] at hex
    have hagain : appendTerminal later.receipts
        (terminalReceipt submission change worker evidence entry) = (.ok (), later.receipts) := by
      rw [appendTerminal]
      split
      · rename_i hnone
        rw [hnone] at hex
        cases hex
      · rw [hex]
        exact if_pos hdigs
    simp only [Call.finish, hsame, hagain]
  | _ => rfl

end Proof

/-! ### Interleaved calls -/

/-- How far a process is with its call. -/
inductive Phase where
  | settled (call : Call) (change : Change)
  | entered (call : Call) (change : Change) (entry : Value)

/-- A call that returned, with the change it made and the entry it got. -/
structure Accepted where
  call : Call
  change : Change
  entry : Value

/-- The ledger, proofs and receipts, and the calls of the processes; `offered` are the changes
that the calls of the run settled on. -/
structure World (ι : Type) where
  file : Option Bytes
  records : Records
  calls : ι → Option Phase
  offered : List Change
  accepted : List Accepted

inductive Action (ι : Type) where
  | settle (process : ι) (call : Call)
  | commit (process : ι)
  | finish (process : ι)

section Runs

variable {ι : Type} [DecidableEq ι]

def World.start : World ι where
  file := none
  records := ⟨fun _ => none, []⟩
  calls := fun _ => none
  offered := []
  accepted := []

/-- One step of a process.  A call that raises is over. -/
def World.step (items : List (Option QueueItem)) (world : World ι) : Action ι → Option (World ι)
  | .settle process call =>
    match call.change items world.file world.records.receipts with
    | .error _ => some { world with calls := Function.update world.calls process none }
    | .ok change => some { world with
        calls := Function.update world.calls process (some (.settled call change))
        offered := world.offered ++ [change] }
  | .commit process =>
    match world.calls process with
    | some (.settled call change) =>
      match commit world.file change with
      | (.error _, file) => some { world with
          file
          calls := Function.update world.calls process none }
      | (.ok entry, file) => some { world with
          file
          calls := Function.update world.calls process (some (.entered call change entry)) }
    | _ => none
  | .finish process =>
    match world.calls process with
    | some (.entered call change entry) =>
      match call.finish items world.records change entry with
      | (.error _, records) => some { world with
          records
          calls := Function.update world.calls process none }
      | (.ok _, records) => some { world with
          records
          calls := Function.update world.calls process none
          accepted := world.accepted ++ [⟨call, change, entry⟩] }
    | _ => none

/-- A call got the entry: it settled on a change, and an entry with the key of the change is
what it was given. -/
def Got (items : List (Option QueueItem)) (C : Option Bytes → Call → Prop) (entries : List Entry)
    (call : Call) (change : Change) (value : Value) : Prop :=
  Offered items C entries call change ∧ ∃ entry ∈ history change.identity.queueId entries,
    entry.change.key = change.key ∧ value.normal true = entry.loaded

variable {call : Call} {offered offered' : List Change} {a : Accepted}

theorem Offered.mono {items : List (Option QueueItem)} {C : Option Bytes → Call → Prop}
    {entries later : List Entry} {change : Change} (hstart : entries <+: later)
    (h : Offered items C entries call change) : Offered items C later call change := by
  obtain ⟨file, receipts, first, hfile, hch, hfst, hrest⟩ := h
  exact ⟨file, receipts, first, hfile, hch, hfst.trans hstart, hrest⟩

theorem Got.mono {items : List (Option QueueItem)} {C : Option Bytes → Call → Prop}
    {entries later : List Entry} {change : Change} {value : Value}
    (hstart : entries <+: later) (h : Got items C entries call change value) :
    Got items C later call change value := by
  obtain ⟨hoff, entry, hent, hrest⟩ := h
  exact ⟨hoff.mono hstart, entry, (history_mono hstart _).subset hent, hrest⟩

/-- What is known of a call on its way. -/
def Phase.Ok (items : List (Option QueueItem)) (C : Option Bytes → Call → Prop)
    (entries : List Entry) (offered : List Change) : Phase → Prop
  | .settled call change => Offered items C entries call change ∧ change ∈ offered
  | .entered call change entry => Got items C entries call change entry ∧ change ∈ offered

/-- What is known of a call that returned. -/
structure Accepted.Ok (items : List (Option QueueItem)) (C : Option Bytes → Call → Prop)
    (entries : List Entry) (offered : List Change) (records : Records) (a : Accepted) : Prop where
  got : Got items C entries a.call a.change a.entry
  offered : a.change ∈ offered
  finished : ∃ before after, a.call.finish items before a.change a.entry = (.ok (), after) ∧
    after.Keeps records

/-- What a run keeps. -/
structure Inv (items : List (Option QueueItem)) (C : Option Bytes → Call → Prop)
    (entries : List Entry) (world : World ι) : Prop where
  written : Written world.file entries
  chain : Chain entries
  sound : ∀ entry ∈ entries, Sound entries entry.change
  known : ∀ entry ∈ entries, entry.change ∈ world.offered
  receipts : ∀ receipt ∈ world.records.receipts, ∃ change ∈ world.offered,
    receipt.identity = change.identity ∧
      change.details.runtimeIdentity = some receipt.runtimeIdentity
  calls : ∀ process phase, world.calls process = some phase → phase.Ok items C entries world.offered
  accepted : ∀ a ∈ world.accepted, a.Ok items C entries world.offered world.records

variable {items : List (Option QueueItem)} {C : Option Bytes → Call → Prop}
  {entries later : List Entry} {world world' : World ι} {process : ι}

theorem Phase.Ok.mono {phase : Phase} (hstart : entries <+: later)
    (hoff : offered ⊆ offered') (h : phase.Ok items C entries offered) :
    phase.Ok items C later offered' := by
  cases phase with
  | settled call change => exact ⟨h.1.mono hstart, hoff h.2⟩
  | entered call change entry => exact ⟨h.1.mono hstart, hoff h.2⟩

theorem Accepted.Ok.mono {records records' : Records}
    (hstart : entries <+: later) (hoff : offered ⊆ offered') (hrcds : records.Keeps records')
    (h : a.Ok items C entries offered records) : a.Ok items C later offered' records' := by
  obtain ⟨before, after, hfinish, hkept⟩ := h.finished
  exact ⟨h.got.mono hstart, hoff h.offered, before, after, hfinish, hkept.trans hrcds⟩

omit [DecidableEq ι] in
theorem Inv.start : Inv items C [] (World.start : World ι) where
  written := .inl ⟨rfl, rfl⟩
  chain := .nil
  sound := by simp
  known := by simp
  receipts := fun _ h => by cases h
  calls := fun _ _ h => by cases h
  accepted := fun _ h => by cases h

/-- A step that moves one process on. -/
theorem Inv.move (h : Inv items C entries world) (hstart : entries <+: later)
    (hwr : Written world'.file later) (hch : Chain later)
    (hnew : ∀ entry ∈ later, entry ∈ entries ∨
      Sound later entry.change ∧ entry.change ∈ world'.offered)
    (hoff : world.offered ⊆ world'.offered)
    (hrcds : world.records.Keeps world'.records)
    (hrcpts : ∀ receipt ∈ world'.records.receipts, receipt ∈ world.records.receipts ∨
      ∃ change ∈ world'.offered, receipt.identity = change.identity ∧
        change.details.runtimeIdentity = some receipt.runtimeIdentity)
    {next : Option Phase} (hcalls : world'.calls = Function.update world.calls process next)
    (hnext : ∀ phase, next = some phase → phase.Ok items C later world'.offered)
    (hacc : ∀ a ∈ world'.accepted, a ∈ world.accepted ∨
      a.Ok items C later world'.offered world'.records) : Inv items C later world' where
  written := hwr
  chain := hch
  sound := fun entry hent => by
    rcases hnew entry hent with hold | hfr
    · exact (h.sound entry hold).mono hstart
    · exact hfr.1
  known := fun entry hent => by
    rcases hnew entry hent with hold | hfr
    · exact hoff (h.known entry hold)
    · exact hfr.2
  receipts := fun receipt hrcpt => by
    rcases hrcpts receipt hrcpt with hold | hfr
    · obtain ⟨change, hchange, hsame⟩ := h.receipts receipt hold
      exact ⟨change, hoff hchange, hsame⟩
    · exact hfr
  calls := fun other phase hph => by
    rw [hcalls, Function.update_apply] at hph
    by_cases hoth : other = process
    · rw [if_pos hoth] at hph
      exact hnext phase hph
    · rw [if_neg hoth] at hph
      exact (h.calls other phase hph).mono hstart hoff
  accepted := fun a ha => by
    rcases hacc a ha with hold | hfr
    · exact (h.accepted a hold).mono hstart hoff hrcds
    · exact hfr

/-- **What one step keeps.** -/
theorem Inv.step (h : Inv items C entries world) {action : Action ι}
    (hC : ∀ process call, action = .settle process call → C world.file call)
    (hstep : world.step items action = some world') :
    ∃ more, Inv items C (entries ++ more) world' ∧ world.records.Keeps world'.records ∧
      world.offered ⊆ world'.offered := by
  have hsame : entries <+: entries := prefix_refl _
  cases action with
  | settle process call =>
    refine ⟨[], ?_⟩
    rw [append_nil]
    rw [World.step] at hstep
    split at hstep
    · cases hstep
      exact ⟨h.move hsame h.written h.chain (fun _ => .inl) (List.Subset.refl _) (.refl _)
        (fun _ => .inl) rfl (fun _ hph => by cases hph) (fun _ => .inl), .refl _,
        List.Subset.refl _⟩
    rename_i change hchange
    cases hstep
    refine ⟨h.move hsame h.written h.chain (fun _ => .inl) (subset_append_left _ _) (.refl _)
      (fun _ => .inl) rfl (fun phase hph => ?_) (fun _ => .inl), .refl _,
      subset_append_left _ _⟩
    cases hph
    exact ⟨⟨world.file, world.records.receipts, entries, h.written, h.chain, hsame,
      hC process call rfl, hchange⟩, by simp⟩
  | commit process =>
    rw [World.step] at hstep
    split at hstep
    · rename_i call change hcall
      obtain ⟨hoff, hmem⟩ := h.calls process _ hcall
      rcases commit_cases h.written h.chain change with
        ⟨entry, hent, hkey, hcom⟩ | ⟨message, hcom⟩ | ⟨entry, rfl, hextends, hcom⟩
      · -- the change is in the ledger
        rw [hcom] at hstep
        cases hstep
        refine ⟨[], ?_, .refl _, List.Subset.refl _⟩
        rw [append_nil]
        refine h.move hsame h.written h.chain (fun _ => .inl) (List.Subset.refl _) (.refl _)
          (fun _ => .inl) rfl (fun phase hph => ?_) (fun _ => .inl)
        cases hph
        exact ⟨⟨hoff, entry, hent, hkey, Entry.normal_loaded entry⟩, hmem⟩
      · rw [hcom] at hstep
        cases hstep
        refine ⟨[], ?_, .refl _, List.Subset.refl _⟩
        rw [append_nil]
        exact h.move hsame h.written h.chain (fun _ => .inl) (List.Subset.refl _) (.refl _)
          (fun _ => .inl) rfl (fun _ hph => by cases hph) (fun _ => .inl)
      · -- the change is made
        rw [hcom] at hstep
        cases hstep
        have hlonger : entries <+: entries ++ [entry] := prefix_append _ _
        have hsound := (hoff.sound h.sound).mono hlonger
        refine ⟨[entry], ?_, .refl _, List.Subset.refl _⟩
        refine h.move hlonger (.inr rfl) (h.chain.concat hextends) (fun e he => ?_)
          (List.Subset.refl _) (.refl _) (fun _ => .inl) rfl (fun phase hph => ?_)
          (fun _ => .inl)
        · rcases mem_append.mp he with hold | hnew
          · exact .inl hold
          · rw [mem_singleton.mp hnew]
            exact .inr ⟨hsound, hmem⟩
        · cases hph
          refine ⟨⟨hoff.mono hlonger, entry, ?_, rfl, rfl⟩, hmem⟩
          exact mem_filter.mpr ⟨by simp, by simp [Entry.queueId]⟩
    · cases hstep
  | finish process =>
    refine ⟨[], ?_⟩
    rw [append_nil]
    rw [World.step] at hstep
    split at hstep
    · rename_i call change entry hcall
      obtain ⟨hgot, hmem⟩ := h.calls process _ hcall
      split at hstep
      · rename_i message records hfinish
        cases hstep
        obtain ⟨hkp, hnew⟩ := finish_cases hgot.1 hfinish
        exact ⟨h.move hsame h.written h.chain (fun _ => .inl) (List.Subset.refl _) hkp
          (fun receipt hrcpt => (hnew receipt hrcpt).imp id fun h => ⟨change, hmem, h⟩) rfl
          (fun _ hph => by cases hph) (fun _ => .inl), hkp, List.Subset.refl _⟩
      · rename_i u records hfinish
        cases hstep
        obtain ⟨hkp, hnew⟩ := finish_cases hgot.1 hfinish
        refine ⟨h.move hsame h.written h.chain (fun _ => .inl) (List.Subset.refl _) hkp
          (fun receipt hrcpt => (hnew receipt hrcpt).imp id fun h => ⟨change, hmem, h⟩) rfl
          (fun _ hph => by cases hph) (fun a ha => ?_), hkp, List.Subset.refl _⟩
        rcases mem_append.mp ha with hold | hnew
        · exact .inl hold
        · rw [mem_singleton.mp hnew]
          exact .inr ⟨hgot, hmem, world.records, records, hfinish, .refl _⟩
    · cases hstep

theorem Inv.run (h : Inv items C entries world) {actions : List (Action ι)}
    (hrun : exec (World.step items) world actions = some world')
    (hC : ∀ p ∈ Run.trace (World.step items) world actions, ∀ process call,
      p.2.1 = .settle process call → C p.1.file call) :
    ∃ more, Inv items C (entries ++ more) world' ∧ world.records.Keeps world'.records ∧
      world.offered ⊆ world'.offered := by
  refine (exec_guarded (I := fun u => ∃ more, Inv items C (entries ++ more) u ∧
      world.records.Keeps u.records ∧ world.offered ⊆ u.offered)
    (C := fun u action => ∀ process call, action = .settle process call → C u.file call)
    ?_ ⟨[], by rwa [append_nil], .refl _, List.Subset.refl _⟩ hrun hC).1
  rintro u action v ⟨more, hinv, hkept, hoff⟩ hcond hstep
  obtain ⟨rest, hnext, hkp, hoffers⟩ := hinv.step hcond hstep
  exact ⟨more ++ rest, append_assoc _ _ _ ▸ hnext, hkept.trans hkp, List.Subset.trans hoff hoffers⟩

omit [DecidableEq ι] in
/-- The calls without the condition under which they were made. -/
theorem Inv.anyhow (h : Inv items C entries world) : Inv items (fun _ _ => True) entries world := by
  have hoff : ∀ {call change}, Offered items C entries call change →
      Offered items (fun _ _ => True) entries call change := by
    rintro call change ⟨file, receipts, first, hfile, hch, hfst, -, hok⟩
    exact ⟨file, receipts, first, hfile, hch, hfst, trivial, hok⟩
  refine ⟨h.written, h.chain, h.sound, h.known, h.receipts, fun process phase hph => ?_,
    fun a ha => ?_⟩
  · have hok := h.calls process phase hph
    cases phase with
    | settled call change => exact ⟨hoff hok.1, hok.2⟩
    | entered call change entry => exact ⟨⟨hoff hok.1.1, hok.1.2⟩, hok.2⟩
  · have hok := h.accepted a ha
    exact ⟨⟨hoff hok.got.1, hok.got.2⟩, hok.offered, hok.finished⟩

/-! ### What holds in every state -/

def hasEvent (name : String) (entry : Value) : Bool := (entry.get "event").equal (.str name)

/-- The entries of one item: at most one claim, at most one terminal entry, nothing behind it,
and the identity of the claim in an entry that completes or blocks the item. -/
structure ItemSafe (entries : List Value) : Prop where
  oneClaim : (entries.filter (hasEvent "claimed")).length ≤ 1
  terminalLast : ∀ before entry after, entries = before ++ entry :: after →
    (hasEvent "completed" entry || hasEvent "blocked" entry || hasEvent "cancelled" entry) = true →
      after = [] ∧ ∀ e ∈ before,
        (hasEvent "completed" e || hasEvent "blocked" e || hasEvent "cancelled" e) = false
  carries : ∀ entry ∈ entries, (hasEvent "completed" entry || hasEvent "blocked" entry) = true →
    ∃ claim ∈ entries, hasEvent "claimed" claim = true ∧
      ∀ k ∈ ["worker_id", "run_id", "claim_token"], (entry.get k).equal (claim.get k) = true

/-- A state that the run can reach from here. -/
def Later (items : List (Option QueueItem)) (world world' : World ι) : Prop :=
  ∃ actions, exec (World.step items) world actions = some world'

/-- No two attempts were observed under one runtime identity. -/
def OneAttempt (offered : List Change) : Prop :=
  ∀ c ∈ offered, ∀ d ∈ offered, c.details.runtimeIdentity.isSome →
    c.details.runtimeIdentity = d.details.runtimeIdentity →
      c.identity.attemptId = d.identity.attemptId

/-- The call may be made again at any later time, with other calls between its steps: as long as
no two attempts were observed under one identity, it gets the entry that it got, and changes
neither the ledger nor the proofs and receipts. -/
def Repeats (items : List (Option QueueItem)) (world : World ι) (a : Accepted) : Prop :=
  ∀ u v w : World ι, Later items world u → Later items u v → Later items v w →
    OneAttempt u.offered → ∃ change entry,
      a.call.change items u.file u.records.receipts = .ok change ∧
      commit v.file change = (.ok entry, v.file) ∧ entry.equal a.entry = true ∧
      a.call.finish items w.records change entry = (.ok (), w.records)

theorem terminal_eq (entry : Entry) :
    (hasEvent "completed" entry.loaded || hasEvent "blocked" entry.loaded ||
      hasEvent "cancelled" entry.loaded) = isTerminal entry.change.event := by
  have hev : ∀ event : LifecycleEvent,
      hasEvent event.name entry.loaded = decide (entry.change.event = event) := event_eq entry
  have hcomp : hasEvent "completed" entry.loaded = _ := hev .completed
  have hblk : hasEvent "blocked" entry.loaded = _ := hev .blocked
  have hcancd : hasEvent "cancelled" entry.loaded = _ := hev .cancelled
  rw [hcomp, hblk, hcancd]
  cases entry.change.event <;> rfl

theorem Chain.itemSafe (h : Chain entries) (hsound : ∀ entry ∈ entries, Sound entries entry.change)
    (queueId : String) : ItemSafe ((history queueId entries).map Entry.loaded) where
  oneClaim := by
    have hclaims := filter_claimed queueId entries
    rw [show (fun item : Value => (item.get "event").equal (.str "claimed")) = hasEvent "claimed"
      from rfl] at hclaims
    rw [hclaims, length_map]
    exact h.claims queueId
  terminalLast := by
    intro before entry after hsp hterm
    obtain ⟨before', rest, hhist, rfl, hrest⟩ := map_eq_append_iff.mp hsp
    obtain ⟨entry', after', rfl, rfl, rfl⟩ := map_eq_cons_iff.mp hrest
    rw [terminal_eq] at hterm
    obtain ⟨rfl, hbef⟩ := h.terminal_last hhist hterm
    refine ⟨rfl, fun e he => ?_⟩
    obtain ⟨e', he', rfl⟩ := mem_map.mp he
    rw [terminal_eq]
    exact hbef e' he'
  carries := by
    intro value hvalue hev
    obtain ⟨entry, hent, rfl⟩ := mem_map.mp hvalue
    have hkind : entry.change.event = .completed ∨ entry.change.event = .blocked := by
      rcases Bool.or_eq_true_iff.mp hev with hev | hev
      · exact .inl (of_decide_eq_true ((event_eq entry .completed).symm.trans hev))
      · exact .inr (of_decide_eq_true ((event_eq entry .blocked).symm.trans hev))
    obtain ⟨hmem, hq⟩ := mem_filter.mp hent
    obtain ⟨workerId, runId, claimToken, ⟨claimEventId, sequence, ref, d, hdet⟩, claim, hclm,
      hclmd⟩ := (hsound entry hmem).terminal hkind
    have hq : entry.change.identity.queueId = queueId := of_decide_eq_true hq
    rw [hq] at hclm
    refine ⟨claim.loaded, mem_map_of_mem hclm, ?_, ?_⟩
    · have hown := hsound claim (mem_of_mem_filter hclm)
      rw [Sound, hclmd] at hown
      exact (event_eq claim .claimed).trans (decide_eq_true hown)
    · have hfld : ∀ k s, (k, Value.str s) ∈ entry.change.details.fields →
          (k, Value.str s) ∈ claim.change.details.fields →
            (entry.loaded.get k).equal (claim.loaded.get k) := by
        intro k s hleft hright
        rw [entry.get_detail hleft, claim.get_detail hright, equal_self]
      intro k hk
      simp only [mem_cons, not_mem_nil, or_false] at hk
      rcases hk with rfl | rfl | rfl
      · exact hfld _ workerId (by simp [hdet, Details.fields])
          (by simp [hclmd, Details.fields])
      · exact hfld _ runId (by simp [hdet, Details.fields])
          (by simp [hclmd, Details.fields])
      · exact hfld _ claimToken (by simp [hdet, Details.fields])
          (by simp [hclmd, Details.fields])

omit [DecidableEq ι] in
theorem Inv.unreplayed (h : Inv items C entries world) (hone : OneAttempt world.offered)
    {change : Change} (hchange : change ∈ world.offered) :
    Queue.unreplayed world.records.receipts change.identity.attemptId change.details := by
  refine all_eq_true.mpr fun receipt hrcpt => ?_
  obtain ⟨other, hoth, hidt, hruntime⟩ := h.receipts receipt hrcpt
  rw [Bool.or_eq_true, bne_iff_ne, beq_iff_eq, hidt]
  by_cases hsame : change.details.runtimeIdentity = some receipt.runtimeIdentity
  · exact .inr (hone other hoth change hchange (by rw [hruntime]; rfl)
      (hruntime.trans hsame.symm))
  · exact .inl hsame

theorem change_again {file : Option Bytes} {receipts : List Terminal}
    (hgot : Got items (Careful items) entries a.call a.change a.entry)
    (hkeys : ∀ entry ∈ entries, entry.change.key = a.change.key → entry.change = a.change)
    (hfile : Written file later) (hch : Chain later) (hstart : entries <+: later)
    (hfr : unreplayed receipts a.change.identity.attemptId a.change.details) :
    a.call.change items file receipts = .ok a.change := by
  obtain ⟨hoff, entry, hent, hkey, -⟩ := hgot
  cases hcall : a.call with
  | request taskId submission authority reason expectedRevision =>
    rw [hcall] at hoff
    exact request_again hoff hent (hkeys entry (mem_of_mem_filter hent) hkey) hfile
      hch hstart
  | claim => exact hcall ▸ hoff.again (by rw [hcall]; trivial) hfile hch hstart hfr
  | acknowledge => exact hcall ▸ hoff.again (by rw [hcall]; trivial) hfile hch hstart hfr
  | observe => exact hcall ▸ hoff.again (by rw [hcall]; trivial) hfile hch hstart hfr

/-- **Every ledger that is written is accepted by the loader, and every item keeps to one of the
lifecycles.**  Where no request for cancellation expects a later revision of an item that it
finds queued, and different changes have different keys, a call that returned an entry returns
it again and writes nothing, as long as no two attempts were observed under one identity. -/
theorem queue_lifecycle_safe (items : List (Option QueueItem)) {actions : List (Action ι)}
    {world : World ι}
    (hrun : exec (World.step items) World.start actions = some world) :
    (∃ entries, loadQueueLifecycleUnlocked world.file = .ok entries ∧ ∀ queueId,
      ItemSafe (entries.filter fun entry => (entry.get "queue_id").equal (.str queueId))) ∧
    ((∀ p ∈ Run.trace (World.step items) World.start actions, ∀ process call,
        p.2.1 = .settle process call → Careful items p.1.file call) →
      (∀ c ∈ world.offered, ∀ d ∈ world.offered, c.key = d.key → c = d) →
        ∀ a ∈ world.accepted, Repeats items world a) := by
  constructor
  · obtain ⟨entries, hinv, -⟩ := (Inv.start (C := fun _ _ => True)).run hrun
      fun _ _ _ _ _ => trivial
    refine ⟨_, load_written hinv.written hinv.chain, fun queueId => ?_⟩
    rw [filter_queueId]
    exact hinv.chain.itemSafe hinv.sound queueId
  · rintro hcareful hkeys a ha u v w ⟨_, hu⟩ ⟨_, hv⟩ ⟨_, hw⟩ hone
    obtain ⟨entries, hinv, -⟩ := (Inv.start (C := Careful items)).run hrun hcareful
    obtain ⟨more, huinv, hkeptu, hoffers⟩ := hinv.anyhow.run hu fun _ _ _ _ _ => trivial
    obtain ⟨more', hvinv, hkeptv, -⟩ := huinv.run hv fun _ _ _ _ _ => trivial
    obtain ⟨more'', hwinv, hkeptw, -⟩ := hvinv.run hw fun _ _ _ _ _ => trivial
    have hok := hinv.accepted a ha
    obtain ⟨before, after, hfinish, hkept⟩ := hok.finished
    obtain ⟨-, entry, hentry, hkey, hvalue⟩ := hok.got
    have hstart : [] ++ entries <+: ([] ++ entries ++ more) ++ more' :=
      (prefix_append _ _).trans (prefix_append _ _)
    refine ⟨a.change, entry.loaded, ?_, ?_, ?_, ?_⟩
    · exact change_again hok.got
        (fun e he hsame => hkeys e.change (hinv.known e he) a.change hok.offered hsame)
        huinv.written huinv.chain (prefix_append _ _)
        (huinv.unreplayed hone (hoffers hok.offered))
    · exact commit_again hvinv.written hvinv.chain ((history_mono hstart _).subset hentry) hkey
    · rw [← hvalue, equal_normal, equal_self]
    · rw [← hvalue]
      exact finish_again hfinish (((hkept.trans hkeptu).trans hkeptv).trans hkeptw)

end Runs

/-! ### Runs of one item -/

def sampleIdentity : QueueIdentity where
  taskId := "t"
  workItemId := "w"
  attemptId := "a"
  dispatchId := "d"
  dispatchGeneration := 1
  queueId := "q"
  enqueueTransactionId := "e"

def sampleItem : QueueItem where
  identity := sampleIdentity
  agent := "g"
  role := "r"
  dispatchRef := "p"
  payloadDigest := "h"
  expectedRefs := []

def sampleSubmission : Submission where
  schemaVersion := "valp-dispatch-receipt.v3"
  receiptId := "i"
  event := "dispatch_submitted"
  mode := "full"
  taskId := "t"
  agent := "g"
  role := "r"
  workItemId := "w"
  attemptId := "a"
  dispatchId := "d"
  dispatchGeneration := 1
  dispatchRef := "p"
  payloadDigest := "h"
  expectedRefs := []

theorem queueItem_sample :
    queueItemForSubmission [some sampleItem] sampleSubmission = .ok sampleItem := by decide

section Steps

variable {ι : Type} [DecidableEq ι] {items : List (Option QueueItem)} {world : World ι}
  {process : ι} {call : Call} {change : Change} {entry : Value} {file : Option Bytes}

theorem step_settle (h : call.change items world.file world.records.receipts = .ok change) :
    world.step items (.settle process call) = some { world with
      calls := Function.update world.calls process (some (.settled call change))
      offered := world.offered ++ [change] } := by
  rw [World.step, h]

theorem step_commit (hcall : world.calls process = some (.settled call change))
    (h : commit world.file change = (.ok entry, file)) :
    world.step items (.commit process) = some { world with
      file
      calls := Function.update world.calls process (some (.entered call change entry)) } := by
  rw [World.step, hcall]
  simp only [h]

theorem step_finish {records : Records}
    (hcall : world.calls process = some (.entered call change entry))
    (h : call.finish items world.records change entry = (.ok (), records)) :
    world.step items (.finish process) = some { world with
      records
      calls := Function.update world.calls process none
      accepted := world.accepted ++ [⟨call, change, entry⟩] } := by
  rw [World.step, hcall]
  simp only [h]

end Steps

def firstEntry (change : Change) : Entry := ⟨change, 1, 1, .null⟩

theorem extends_firstEntry {change : Change} (hexp : change.expectedRevision = 0)
    (hev : allowed none change.event) : Extends [] (firstEntry change) where
  ledgerRevision := rfl
  queueRevision := rfl
  expected := hexp
  previous := rfl
  transition := hev
  fresh := by simp [history]

def sampleClaim : Call := .claim "t" sampleSubmission "w" "r" "c" 0

def sampleClaimed : Change := ⟨sampleIdentity, .claimed, 0, .claim "w" "r" "c"⟩

theorem change_sampleClaim (file : Option Bytes) (receipts : List Terminal) :
    sampleClaim.change [some sampleItem] file receipts = .ok sampleClaimed := by
  rw [sampleClaim, Call.change, claimChange, queueItem_sample]
  rfl

theorem claim_run : ∃ world : World ℕ,
    exec (World.step [some sampleItem]) World.start
      [.settle 0 sampleClaim, .commit 0, .finish 0] = some world ∧
    world.offered = [sampleClaimed] ∧ world.accepted =
      [⟨sampleClaim, sampleClaimed, (firstEntry sampleClaimed).value⟩] := by
  have hfst : Extends [] (firstEntry sampleClaimed) := extends_firstEntry rfl rfl
  have hcom := commit_extends (.inl ⟨rfl, rfl⟩) .nil hfst
  exact ⟨_, exec_cons.mpr ⟨_, step_settle (change_sampleClaim _ _),
    exec_cons.mpr ⟨_, step_commit rfl hcom,
      exec_cons.mpr ⟨_, step_finish rfl rfl, exec_nil _⟩⟩⟩, rfl, rfl⟩

theorem queue_lifecycle_safe_claim : ∃ world : World ℕ,
    exec (World.step [some sampleItem]) World.start
      [.settle 0 sampleClaim, .commit 0, .finish 0] = some world ∧
    (∃ entries, loadQueueLifecycleUnlocked world.file = .ok entries ∧ ∀ queueId,
      ItemSafe (entries.filter fun entry => (entry.get "queue_id").equal (.str queueId))) ∧
    ∃ a ∈ world.accepted, Repeats [some sampleItem] world a := by
  obtain ⟨world, hrun, hoffered, haccepted⟩ := claim_run
  obtain ⟨hsafe, hrepeats⟩ := queue_lifecycle_safe [some sampleItem] hrun
  refine ⟨world, hrun, hsafe, _, haccepted ▸ mem_singleton_self _,
    hrepeats ?_ ?_ _ (haccepted ▸ mem_singleton_self _)⟩
  · rintro ⟨u, action, v⟩ hp process call rfl
    obtain ⟨ys, zs, hsplit, -⟩ := (Run.mem_trace_iff hrun).mp hp
    have hmem : Action.settle process call ∈
        [Action.settle 0 sampleClaim, .commit 0, .finish 0] := by simp [hsplit]
    obtain ⟨-, rfl⟩ : process = 0 ∧ call = sampleClaim := by simpa using hmem
    exact trivial
  · intro c hc d hd _
    rw [hoffered, mem_singleton] at hc hd
    rw [hc, hd]

/-! ### A request that expects too much -/

def raceRequested : Change := ⟨sampleIdentity, .cancellationRequested, 1, .request "a" "r"⟩

def raceCancelled : Change := ⟨sampleIdentity, .cancelled, 2, .request "b" "s"⟩

def raceAgain : Change := ⟨sampleIdentity, .cancellationRequested, 2, .request "b" "s"⟩

theorem history_sample {entries : List Entry}
    (h : ∀ entry ∈ entries, entry.change.identity = sampleIdentity) :
    history "q" entries = entries := by
  refine filter_eq_self.mpr fun entry hent => ?_
  rw [Entry.queueId, h entry hent]
  rfl

theorem extends_sample {entries : List Entry} {entry : Entry}
    (h : ∀ e ∈ entries, e.change.identity = sampleIdentity)
    (hidt : entry.change.identity = sampleIdentity)
    (hldg : entry.ledgerRevision = entries.length + 1)
    (hq : entry.queueRevision = entries.length + 1)
    (hexp : entry.change.expectedRevision = entries.length)
    (hprev : entry.previous = lastDigest entries)
    (htr : allowed (entries.getLast?.map fun e => e.change.event) entry.change.event)
    (hfr : ∀ e ∈ entries, e.change.key ≠ entry.change.key) : Extends entries entry := by
  have hhist : history entry.queueId entries = entries := by
    rw [Entry.queueId, hidt]
    exact history_sample h
  exact ⟨hldg, by rw [hhist, hq], by rw [hhist, hexp], hprev,
    by rwa [lastEvent, hhist], by rwa [hhist]⟩

def raceFirst : Entry := firstEntry sampleClaimed

def raceSecond : Entry := ⟨raceRequested, 2, 2, .str raceFirst.entryDigest⟩

def raceThird : Entry := ⟨raceCancelled, 3, 3, .str raceSecond.entryDigest⟩

theorem identity_race {e : Entry} (he : e ∈ [raceFirst, raceSecond, raceThird]) :
    e.change.identity = sampleIdentity := by
  simp only [mem_cons, not_mem_nil, or_false] at he
  rcases he with rfl | rfl | rfl <;> rfl

theorem keys_race : sampleClaimed.key ≠ raceRequested.key ∧ sampleClaimed.key ≠ raceCancelled.key ∧
    raceRequested.key ≠ raceCancelled.key ∧ sampleClaimed.key ≠ raceAgain.key ∧
    raceRequested.key ≠ raceAgain.key ∧ raceCancelled.key ≠ raceAgain.key := by decide +kernel

theorem extends_raceFirst : Extends [] raceFirst := extends_firstEntry rfl rfl

theorem extends_raceSecond : Extends [raceFirst] raceSecond := by
  refine extends_sample (fun e he =>
    identity_race (mem_append_left [raceSecond, raceThird] he)) rfl rfl rfl rfl rfl rfl ?_
  intro e he
  rw [mem_singleton.mp he]
  exact keys_race.1

theorem extends_raceThird : Extends [raceFirst, raceSecond] raceThird := by
  refine extends_sample (fun e he => identity_race (mem_append_left [raceThird] he)) rfl rfl
    rfl rfl rfl rfl ?_
  intro e he
  simp only [mem_cons, not_mem_nil, or_false] at he
  rcases he with rfl | rfl
  · exact keys_race.2.1
  · exact keys_race.2.2.1

theorem chain_first : Chain [raceFirst] := Chain.nil.concat extends_raceFirst

theorem chain_second : Chain [raceFirst, raceSecond] := chain_first.concat extends_raceSecond

theorem chain_third : Chain [raceFirst, raceSecond, raceThird] :=
  chain_second.concat extends_raceThird

def fileOf (entries : List Entry) : Option Bytes :=
  some (lifecycleBytes (entries.map Entry.value))

theorem written_fileOf (entries : List Entry) : Written (fileOf entries) entries := .inr rfl

def earlyRequest : Call := .request "t" sampleSubmission "b" "s" 2

def laterRequest : Call := .request "t" sampleSubmission "a" "r" 1

theorem change_earlyRequest : earlyRequest.change [some sampleItem] none [] = .ok raceCancelled :=
  (requestChange_written (.inl ⟨rfl, rfl⟩) .nil _ _ _ _).mpr
    ⟨by decide, sampleItem, queueItem_sample, rfl⟩

theorem change_request_later {entries : List Entry} {authority reason : String}
    {receipts : List Terminal} {expectedRevision : Int} (hch : Chain entries)
    (hmem : raceFirst ∈ history "q" entries)
    (hfilled : (isFilled authority && isFilled reason)) (h : expectedRevision ≠ 0) :
    (Call.request "t" sampleSubmission authority reason expectedRevision).change
      [some sampleItem] (fileOf entries) receipts = .ok ⟨sampleIdentity, .cancellationRequested,
        expectedRevision, .request authority reason⟩ := by
  refine (requestChange_written (written_fileOf entries) hch _ _ _ _).mpr
    ⟨?_, sampleItem, queueItem_sample, ?_⟩
  · rw [Bool.and_eq_true] at hfilled
    rw [hfilled.1, hfilled.2]
    decide
  · have hev := requestEvent_later hmem authority reason h
    exact (Change.mk.injEq ..).mpr ⟨rfl, hev.symm, rfl, rfl⟩

def raceActions : List (Action ℕ) :=
  [.settle 0 earlyRequest, .settle 1 sampleClaim, .commit 1, .settle 2 laterRequest, .commit 2,
    .commit 0, .finish 0]

theorem race_run : ∃ world : World ℕ,
    exec (World.step [some sampleItem]) World.start raceActions = some world ∧
    world.file = fileOf [raceFirst, raceSecond, raceThird] ∧
    world.offered = [raceCancelled, sampleClaimed, raceRequested] ∧
    ⟨earlyRequest, raceCancelled, raceThird.value⟩ ∈ world.accepted := by
  have hmem : raceFirst ∈ history "q" [raceFirst] := by
    rw [history_sample (by simp [raceFirst, firstEntry, sampleClaimed])]
    simp
  have hlat : laterRequest.change [some sampleItem] (fileOf [raceFirst]) [] = .ok raceRequested :=
    change_request_later chain_first hmem (by decide) (by decide)
  have hfst := commit_extends (.inl ⟨rfl, rfl⟩) .nil extends_raceFirst
  have hsnd := commit_extends (written_fileOf _) chain_first extends_raceSecond
  have hthird := commit_extends (written_fileOf _) chain_second extends_raceThird
  refine ⟨_, exec_cons.mpr ⟨_, step_settle change_earlyRequest,
    exec_cons.mpr ⟨_, step_settle (change_sampleClaim _ _),
    exec_cons.mpr ⟨_, step_commit rfl hfst,
    exec_cons.mpr ⟨_, step_settle hlat,
    exec_cons.mpr ⟨_, step_commit rfl hsnd,
    exec_cons.mpr ⟨_, step_commit rfl hthird,
    exec_cons.mpr ⟨_, step_finish rfl rfl, exec_nil _⟩⟩⟩⟩⟩⟩⟩, rfl, rfl, ?_⟩
  simp

/-- **The request that was accepted raises when it is made again**: it was settled while the item
was queued, and committed behind a claim and another request. -/
theorem careless_request_conflicts : ∃ world : World ℕ,
    exec (World.step [some sampleItem]) World.start raceActions = some world ∧
    ∃ a ∈ world.accepted, (∃ change, a.call.change [some sampleItem] world.file
        world.records.receipts = .ok change ∧ commit world.file change =
        (.error "Queue lifecycle CAS or transition conflict", world.file)) ∧
      ¬ Repeats [some sampleItem] world a := by
  obtain ⟨world, hrun, hfile, hoffered, haccepted⟩ := race_run
  have hwritten : Written world.file [raceFirst, raceSecond, raceThird] :=
    hfile ▸ written_fileOf _
  have hhistory : history "q" [raceFirst, raceSecond, raceThird] =
      [raceFirst, raceSecond, raceThird] := history_sample fun e he => identity_race he
  have hchange : earlyRequest.change [some sampleItem] world.file world.records.receipts =
      .ok raceAgain := by
    rw [hfile]
    exact change_request_later chain_third (hhistory ▸ mem_cons_self) (by decide) (by decide)
  have hfresh : ∀ e ∈ history "q" [raceFirst, raceSecond, raceThird],
      e.change.key ≠ raceAgain.key := by
    rw [hhistory]
    intro e he
    simp only [mem_cons, not_mem_nil, or_false] at he
    rcases he with rfl | rfl | rfl
    · exact keys_race.2.2.2.1
    · exact keys_race.2.2.2.2.1
    · exact keys_race.2.2.2.2.2
  -- no entry asks for cancellation at revision two, and the item is at revision three
  have hlogical : (([raceFirst, raceSecond, raceThird].map Entry.loaded).any fun e =>
      (e.get "event").equal (.str "cancellation_requested") &&
        (e.get "expected_revision").equal (.int 2)) = false := by
    rw [any_eq_false]
    intro value hvalue
    obtain ⟨e, he, rfl⟩ := mem_map.mp hvalue
    have hevent := event_eq e .cancellationRequested
    rw [show (Value.str "cancellation_requested") =
      .str LifecycleEvent.cancellationRequested.name from rfl, hevent, e.equal_expected]
    simp only [mem_cons, not_mem_nil, or_false] at he
    rcases he with rfl | rfl | rfl <;> decide
  have hcommit : commit world.file raceAgain =
      (.error "Queue lifecycle CAS or transition conflict", world.file) := by
    have hqueue : raceAgain.identity.queueId = "q" := rfl
    have hagain : raceAgain.event.name = "cancellation_requested" := rfl
    have hexpected : raceAgain.expectedRevision = 2 := rfl
    rw [commit_fresh hwritten chain_third (hqueue ▸ hfresh), hqueue, hhistory, hagain, hexpected,
      hlogical, if_neg Bool.false_ne_true, if_pos (.inl (by decide))]
  refine ⟨world, hrun, _, haccepted, ⟨raceAgain, hchange, hcommit⟩, fun hrepeats => ?_⟩
  have hhere : Later [some sampleItem] world world := ⟨[], rfl⟩
  have hone : OneAttempt world.offered := by
    rw [hoffered, OneAttempt]
    decide
  obtain ⟨change, entry, hsettled, hagain, -⟩ :=
    hrepeats world world world hhere hhere hhere hone
  cases hchange.symm.trans hsettled
  rw [hcommit] at hagain
  cases congrArg Prod.fst hagain

end Valp.Queue
