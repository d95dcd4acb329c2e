/-
The effect ledger (`KernelStore.record_effect` and `reconcile_effects` of
`valp_cli/kernel_store.py`).

An obligation that the journal accepted asks an adapter to cancel an Attempt.  What
became of it is recorded in a second append-only file: one line for each obligation,
chained by digests, with a reference to a proof.  Reconciliation joins the two files:
an obligation is pending until there is a record for it.

The proof files belong to the environment: `proofs` says what reading a reference below
the task root gives, and is `none` for a store that is not in a task directory.

* `loadEffect_canonicalBytes`, `of_loadEffect` — the codec of one record;
* `loadEffects_iff` — the files that are accepted are the written chains.
-/
import Valp.KernelStore

namespace Valp.Kernel

open Decode
open List

/-! ### Records -/

inductive KernelEffectStatus where
  | fulfilled
  | blocked
  deriving DecidableEq, Repr

def KernelEffectStatus.value : KernelEffectStatus → String
  | .fulfilled => "fulfilled"
  | .blocked => "blocked"

def KernelEffectStatus.all : List KernelEffectStatus := [.fulfilled, .blocked]

structure KernelEffectRecord where
  effectId : String
  obligation : String
  status : KernelEffectStatus
  proofRef : String
  proofDigest : String
  ledgerRevision : Int
  priorRecordDigest : String
  recordDigest : String
  deriving DecidableEq

/-- The members of a record but its digest. -/
def KernelEffectRecord.fields (r : KernelEffectRecord) : List (String × Option Json) := [
  ("schema_version", some (.str "valp-kernel-effect-record.v1")),
  ("effect_id", some (.str r.effectId)),
  ("obligation", some (.str r.obligation)),
  ("status", some (.str r.status.value)),
  ("proof_ref", some (.str r.proofRef)),
  ("proof_digest", some (.str r.proofDigest)),
  ("ledger_revision", some (.int r.ledgerRevision)),
  ("prior_record_digest", some (.str r.priorRecordDigest))]

def KernelEffectRecord.canonicalWithoutDigest (r : KernelEffectRecord) : Json :=
  .record r.fields

def KernelEffectRecord.canonical (r : KernelEffectRecord) : Json :=
  .record (r.fields ++ [("record_digest", some (.str r.recordDigest))])

def emptyEffectLedgerDigest : String :=
  digest (.record [
    ("schema_version", some (.str "valp-kernel-effect-ledger.v1")),
    ("records", some (.arr []))])

/-- `KernelStore._effect_id`. -/
def effectIdFor (obligation : String) : String :=
  digest (.record [
    ("schema_version", some (.str "valp-kernel-effect-identity.v1")),
    ("obligation", some (.str obligation))])

/-- `Path(value).parts` of a relative path: empty parts and `"."` are dropped. -/
def pathParts (value : String) : List (List Char) :=
  (value.toList.splitOn '/').filter fun part => part ≠ [] ∧ part ≠ ['.']

def safeRef (value : String) : Bool :=
  value != "" && !value.toList.contains '\\' && !(['/'].isPrefixOf value.toList) &&
    (pathParts value).all fun part => part ≠ [] ∧ part ≠ ['.'] ∧ part ≠ ['.', '.']

/-- `obligation.startswith("adapter_cancel:")`. -/
def isAdapterCancel (obligation : String) : Bool :=
  "adapter_cancel:".toList.isPrefixOf obligation.toList

/-! ### The ledger -/

def asEffectStatus := asEnum "KernelEffectStatus" KernelEffectStatus.all KernelEffectStatus.value

def strMember? (item : Json) (key : String) : Option String :=
  match item.member? key with
  | some (.str text) => some text
  | _ => none

def intMember? (item : Json) (key : String) : Option Int :=
  match item.member? key with
  | some (.int n) => some n
  | _ => none

/-- The record in a line, if its members have the types that the check asks for. -/
def effectRecord? (item : Json) (status : KernelEffectStatus) : Option KernelEffectRecord := do
  some {
    effectId := ← strMember? item "effect_id"
    obligation := ← strMember? item "obligation"
    status := status
    proofRef := ← strMember? item "proof_ref"
    proofDigest := ← strMember? item "proof_digest"
    ledgerRevision := ← intMember? item "ledger_revision"
    priorRecordDigest := ← strMember? item "prior_record_digest"
    recordDigest := ← strMember? item "record_digest" }

/-- The check of `KernelStore._load_effects` on a record, but for its text. -/
def effectIsBound (revision : Int) (priorDigest : String) (record : KernelEffectRecord) : Bool :=
  isAdapterCancel record.obligation && record.effectId == effectIdFor record.obligation &&
    safeRef record.proofRef && isDigest record.proofDigest && record.ledgerRevision == revision &&
    record.priorRecordDigest == priorDigest &&
    record.recordDigest == digest record.canonicalWithoutDigest

/-- One turn of the loop of `KernelStore._load_effects`. -/
def loadEffect (revision : Int) (priorDigest : String) (line : Bytes) :
    Except String KernelEffectRecord := do
  if line = [10] then
    .error "Kernel effect ledger contains a blank line"
  let item ← shape (← parsePayload line.dropLast)
    ["schema_version", "effect_id", "obligation", "status", "proof_ref", "proof_digest",
      "ledger_revision", "prior_record_digest", "record_digest"] []
  if !hasText item "schema_version" "valp-kernel-effect-record.v1" then
    .error "unsupported Kernel effect record"
  let status ← asEffectStatus (← getItem item "status")
  match effectRecord? item status with
  | none => .error "Kernel effect record bindings are invalid"
  | some record =>
    if effectIsBound revision priorDigest record = true ∧
        line = canonicalBytes record.canonical then .ok record
    else .error "Kernel effect record bindings are invalid"

/-- The loop of `KernelStore._load_effects`. -/
def loadEffectLines (revision : Int) (priorDigest : String) :
    List Bytes → Except String (List KernelEffectRecord)
  | [] => .ok []
  | line :: lines => do
    let record ← loadEffect revision priorDigest line
    let records ← loadEffectLines (revision + 1) record.recordDigest lines
    .ok (record :: records)

def loadEffects : Option Bytes → Except String (List KernelEffectRecord)
  | none => .ok []
  | some payload =>
    if payload ≠ [] ∧ (payload.getLast? ≠ some 10 ∨ 13 ∈ payload ∨ [239, 187, 191] <+: payload) then
      .error "Kernel effect ledger is not canonical LF-terminated JSONL"
    else do
      let records ← loadEffectLines 1 emptyEffectLedgerDigest (Bytes.splitLines payload)
      if ¬(records.map (·.effectId)).Nodup then
        .error "Kernel effect identity is duplicated"
      .ok records

def effectsBytes (records : List KernelEffectRecord) : Bytes :=
  (records.map fun record => canonicalBytes record.canonical).flatten

/-! ### Reading back -/

theorem KernelEffectRecord.distinctKeys (r : KernelEffectRecord) :
    r.canonical.distinctKeys :=
  Json.distinctKeys_record (by simp [KernelEffectRecord.fields])
    (by simp [KernelEffectRecord.fields, distinct_str, distinct_int])

theorem asEffectStatus_value (a : KernelEffectStatus) : asEffectStatus (.str a.value) = .ok a :=
  asEnum_text (by simp [KernelEffectStatus.all, KernelEffectStatus.value])
    (by cases a <;> simp [KernelEffectStatus.all])

variable {revision : Int} {priorDigest : String} {r : KernelEffectRecord}

theorem loadEffect_canonicalBytes (h : effectIsBound revision priorDigest r) :
    loadEffect revision priorDigest (canonicalBytes r.canonical) = .ok r := by
  have hf := Json.reorders_sortKeys
  have hparse : parsePayload (canonicalBytes r.canonical).dropLast = .ok r.canonical.sortKeys := by
    have htext := parsePayload_text r.distinctKeys (forall_mem_nil _)
    rw [append_nil] at htext
    rw [canonicalBytes_eq, dropLast_concat, htext]
  have hread : ∀ value, Reads Json.sortKeys
      (r.fields ++ [("record_digest", some (.str r.recordDigest))]) value →
      ∀ line : Bytes, line ≠ [10] → parsePayload line.dropLast = .ok value →
      line = canonicalBytes r.canonical → loadEffect revision priorDigest line = .ok r := by
    intro value hv line hblank hline hcanon
    have hshape : shape value ["schema_version", "effect_id", "obligation", "status", "proof_ref",
        "proof_digest", "ledger_revision", "prior_record_digest", "record_digest"] [] = .ok value :=
      hv.shape (by simp [KernelEffectRecord.fields, lookup_cons])
        (by simp [KernelEffectRecord.fields])
    have hsch : (!hasText value "schema_version" "valp-kernel-effect-record.v1") = false := by
      simp [hasText, hv.member, KernelEffectRecord.fields, hf.str]
    have hst : getItem value "status" = .ok (.str r.status.value) := by
      simp [getItem, hv.member, KernelEffectRecord.fields, lookup_cons, hf.str]
    have hrcd : effectRecord? value r.status = some r := by
      simp [effectRecord?, strMember?, intMember?, hv.member, KernelEffectRecord.fields,
        lookup_cons, hf.str, hf.int]
    rw [loadEffect, if_neg hblank, hline, ok_bind, hshape, ok_bind, hsch,
      if_neg Bool.false_ne_true, hst, ok_bind, asEffectStatus_value, ok_bind, hrcd]
    exact if_pos ⟨h, hcanon⟩
  refine of_reads hf (P := fun value => ∀ line : Bytes, line ≠ [10] →
    parsePayload line.dropLast = .ok value → line = canonicalBytes r.canonical →
      loadEffect revision priorDigest line = .ok r) ?_ hread _
    (canonicalBytes_ne_blank _) hparse rfl
  simp [KernelEffectRecord.fields]

theorem of_loadEffect {line : Bytes} (h : loadEffect revision priorDigest line = .ok r) :
    effectIsBound revision priorDigest r ∧ line = canonicalBytes r.canonical := by
  rw [loadEffect] at h
  split at h
  · cases h
  simp only [bind_eq_ok] at h
  obtain ⟨_, -, item, -, h⟩ := h
  split at h
  · cases h
  simp only [bind_eq_ok] at h
  obtain ⟨_, -, status, -, h⟩ := h
  split at h
  · cases h
  split at h
  · rename_i hbd
    cases h
    exact hbd
  · cases h

/-- The records are chained, from the given revision and digest on. -/
def Linked (revision : Int) (priorDigest : String) : List KernelEffectRecord → Prop
  | [] => True
  | r :: records =>
    effectIsBound revision priorDigest r = true ∧ Linked (revision + 1) r.recordDigest records

/-- The digest that the next record is chained to. -/
def tailDigest (priorDigest : String) (records : List KernelEffectRecord) : String :=
  (records.getLast?.map (·.recordDigest)).getD priorDigest

variable {records : List KernelEffectRecord}

theorem linked_concat :
    Linked revision priorDigest (records ++ [r]) ↔ Linked revision priorDigest records ∧
      effectIsBound (revision + records.length) (tailDigest priorDigest records) r := by
  induction records generalizing revision priorDigest with
  | nil => simp [Linked, tailDigest]
  | cons s records ih =>
    have htail : tailDigest priorDigest (s :: records) = tailDigest s.recordDigest records := by
      cases records with
      | nil => rfl
      | cons t records => rw [tailDigest, tailDigest, getLast?_cons_cons]; rfl
    have hrev : revision + 1 + records.length = revision + (s :: records).length := by
      rw [length_cons]
      push_cast
      omega
    rw [cons_append, Linked, ih, Linked, htail, hrev, and_assoc]

theorem loadEffectLines_iff {lines : List Bytes} :
    loadEffectLines revision priorDigest lines = .ok records ↔
      Linked revision priorDigest records ∧
        lines = records.map fun r => canonicalBytes r.canonical := by
  induction lines generalizing revision priorDigest records with
  | nil => cases records <;> simp [loadEffectLines, Linked]
  | cons line lines ih =>
    simp only [loadEffectLines, bind_eq_ok, Except.ok.injEq, ih]
    cases records with
    | nil => simp
    | cons r rest =>
      rw [map_cons, List.cons.injEq]
      constructor
      · rintro ⟨_, hr, _, ⟨hlinked, hls⟩, heq⟩
        cases heq
        obtain ⟨hbd, hline⟩ := of_loadEffect hr
        exact ⟨⟨hbd, hlinked⟩, hline, hls⟩
      · rintro ⟨hlinked, hline, hls⟩
        rw [hline]
        exact ⟨r, loadEffect_canonicalBytes hlinked.1, rest, ⟨hlinked.2, hls⟩, rfl⟩

theorem isLine_effects (records : List KernelEffectRecord) :
    ∀ line ∈ records.map (fun r => canonicalBytes r.canonical), Bytes.IsLine line := by
  intro line hline
  obtain ⟨r, -, rfl⟩ := mem_map.mp hline
  exact isLine_canonicalBytes _

/-- **The files that are accepted are the written chains.** -/
theorem loadEffects_iff {payload : Bytes} : loadEffects (some payload) = .ok records ↔
      payload = effectsBytes records ∧ Linked 1 emptyEffectLedgerDigest records ∧
        (records.map (·.effectId)).Nodup := by
  have hls := isLine_effects records
  obtain ⟨hret, hlast⟩ := Bytes.flatten_lines hls
  rw [loadEffects]
  constructor
  · intro h
    split at h
    · cases h
    rw [bind_eq_ok] at h
    obtain ⟨read, hread, h⟩ := h
    split at h
    · cases h
    rename_i hnd
    cases h
    obtain ⟨hlinked, hsp⟩ := loadEffectLines_iff.mp hread
    refine ⟨?_, hlinked, not_not.mp hnd⟩
    rw [effectsBytes, ← hsp, Bytes.splitLines_flatten]
  · rintro ⟨rfl, hlinked, hnd⟩
    rw [if_neg, effectsBytes, Bytes.splitLines_lines hls,
      loadEffectLines_iff.mpr ⟨hlinked, rfl⟩, ok_bind, if_neg (not_not.mpr hnd)]
    rintro ⟨hne, hbad | hbad | hmark⟩
    · exact hbad (hlast hne)
    · exact hret hbad
    · -- the first line begins with a brace, not with a byte order mark
      cases records with
      | nil => exact hne rfl
      | cons r rest =>
        obtain ⟨tail, htail⟩ := canonicalBytes_record
          (r.fields ++ [("record_digest", some (.str r.recordDigest))])
        rw [effectsBytes, map_cons, flatten_cons, KernelEffectRecord.canonical, htail,
          cons_append, cons_prefix_cons] at hmark
        exact absurd hmark.1 (by decide)

theorem loadEffects_records {ledger : Option Bytes} (h : loadEffects ledger = .ok records) :
    Linked 1 emptyEffectLedgerDigest records ∧ (records.map (·.effectId)).Nodup := by
  cases ledger with
  | none =>
    cases h
    exact ⟨trivial, nodup_nil⟩
  | some payload => exact (loadEffects_iff.mp h).2

theorem Linked.bound {revision : Int} {priorDigest : String} {records : List KernelEffectRecord}
    (h : Linked revision priorDigest records) {r : KernelEffectRecord} (hr : r ∈ records) :
    ∃ n d, effectIsBound n d r := by
  induction records generalizing revision priorDigest with
  | nil => cases hr
  | cons s records ih =>
    rcases mem_cons.mp hr with rfl | hr
    · exact ⟨_, _, h.1⟩
    · exact ih h.2 hr

/-! ### Proofs -/

/-- `digest(payload)` of `valp_cli/protocol_receipts.py`, for bytes. -/
def receiptDigest (payload : Bytes) : String :=
  "sha256:" ++ String.ofList (Sha256.hexdigest (Sha256.sha256 payload))

/-- What reading a proof below the task root gives: its bytes, or what the check of the
path or the read raises. -/
abbrev Proofs := Option (String → Except Raised Bytes)

/-- The bytes of a proof are there, and have the digest. -/
def proofMatches (payload : Bytes) (proofDigest : String) : Bool :=
  payload != [] && receiptDigest payload == proofDigest

/-- The check of `KernelStore._validate_effect_proofs` on one record. -/
def validateEffectProof (proofs : Proofs) (record : KernelEffectRecord) : Except Raised Unit :=
  match proofs with
  | none => .ok ()
  | some read =>
    match read record.proofRef with
    | .error raised => .error raised
    | .ok payload =>
      if !proofMatches payload record.proofDigest then
        .error (.value "Kernel effect proof bytes do not match the ledger")
      else .ok ()

def validateEffectProofs (proofs : Proofs) (records : List KernelEffectRecord) :
    Except Raised Unit :=
  records.forM (validateEffectProof proofs)

/-- The checks of `KernelStore.record_effect` on its arguments. -/
def checkEffect (proofs : Proofs) (obligation proofRef proofDigest : String) :
    Except StoreError Unit :=
  if !isAdapterCancel obligation || !safeRef proofRef || !isDigest proofDigest then
    .error { code := .stateConflict, message := "Kernel effect proof is invalid" }
  else
    match proofs with
    | none => .ok ()
    | some read =>
      match read proofRef with
      | .error (.store error) => .error error
      | .error (.value _) =>
        .error { code := .stateConflict, message := "Kernel effect proof is unavailable" }
      | .ok payload =>
        if !proofMatches payload proofDigest then
          .error { code := .stateConflict, message := "Kernel effect proof digest differs" }
        else .ok ()

/-! ### Calls -/

/-- The record that `KernelStore.record_effect` would add to `records`. -/
def effectCandidate (records : List KernelEffectRecord) (obligation : String)
    (status : KernelEffectStatus) (proofRef proofDigest : String) : KernelEffectRecord :=
  let body : KernelEffectRecord := {
    effectId := effectIdFor obligation
    obligation := obligation
    status := status
    proofRef := proofRef
    proofDigest := proofDigest
    ledgerRevision := records.length + 1
    priorRecordDigest := tailDigest emptyEffectLedgerDigest records
    recordDigest := "" }
  { body with recordDigest := digest body.canonicalWithoutDigest }

/-- The handler of `KernelStore.record_effect` around the replacement: when the rename
may have happened, the ledger says whether it did. -/
def reconcileReplacement (candidate : KernelEffectRecord)
    (session : Session Files KernelEffectRecord) : Session Files KernelEffectRecord :=
  match session.result with
  | .error (.store error) =>
    if error.outcome ≠ .unknownOrCommitted then session
    else
      match loadEffects session.files.effects with
      | .error message => { session with result := .error (.value message) }
      | .ok reconciled =>
        if (reconciled.find? fun item => item.effectId == candidate.effectId) = some candidate then
          { session with result := .ok candidate }
        else session
  | _ => session

/-- The locked part of `KernelStore.record_effect` behind the recovery and the ledger. -/
def recordUnlocked (fault : Option Fault) (files : Files) (records : List KernelEffectRecord)
    (candidate : KernelEffectRecord) : Session Files KernelEffectRecord :=
  match records.find? fun item => item.effectId == candidate.effectId with
  | some prior =>
    { result :=
        if prior.obligation = candidate.obligation ∧ prior.status = candidate.status ∧
            prior.proofRef = candidate.proofRef ∧ prior.proofDigest = candidate.proofDigest then
          .ok prior
        else .error (.store {
          code := .idempotencyConflict
          message := "Kernel effect identity differs" })
      files := files
      replaced := false }
  | none =>
    reconcileReplacement candidate (replaceFile fault files
      { files with effects := some (effectsBytes (records ++ [candidate])) } (.ok candidate))

/-- The entries that the calls on effects recover, and their obligations. -/
def recoverObligations (files : Files) : Except String (List String) := do
  let (genesis, entries) ← loadStore files
  let recovery ← recoverUnlocked files genesis entries
  match acceptedObligations recovery.entries with
  | some obligations => .ok obligations
  | none => .error "'NoneType' object has no attribute 'obligations'"

/-- The locked part of `KernelStore.record_effect`. -/
def recordEffectLocked (fault : Option Fault) (files : Files) (obligation : String)
    (status : KernelEffectStatus) (proofRef proofDigest : String) :
    Session Files KernelEffectRecord :=
  match recoverObligations files with
  | .error message => { result := .error (.value message), files := files, replaced := false }
  | .ok obligations =>
    if !obligations.contains obligation then
      { result := .error (.store {
          code := .stateConflict
          message := "Kernel effect has no accepted obligation" })
        files := files
        replaced := false }
    else
      match loadEffects files.effects with
      | .error message => { result := .error (.value message), files := files, replaced := false }
      | .ok records => recordUnlocked fault files records
          (effectCandidate records obligation status proofRef proofDigest)

def recordEffect (fault : Option Fault) (proofs : Proofs) (files : Files) (obligation : String)
    (status : KernelEffectStatus) (proofRef proofDigest : String) :
    Except StoreError KernelEffectRecord × Files :=
  match checkEffect proofs obligation proofRef proofDigest with
  | .error error => (.error error, files)
  | .ok () =>
    let (result, files') := locked fault files
      (recordEffectLocked fault files obligation status proofRef proofDigest)
    (result.mapError (kernelStoreError "Kernel effect recording failed: "), files')

structure KernelEffectReconciliation where
  pending : List String
  fulfilled : List KernelEffectRecord
  blocked : List KernelEffectRecord

/-- `by_obligation.get(obligation)`: of several records the last. -/
def effectFor (records : List KernelEffectRecord) (obligation : String) :
    Option KernelEffectRecord :=
  (records.filter (·.obligation == obligation)).getLast?

/-- `KernelStore._reconcile_effects_unlocked`, for the obligations of the entries. -/
def reconcileUnlocked (proofs : Proofs) (obligations : List String)
    (records : List KernelEffectRecord) : Except Raised KernelEffectReconciliation :=
  if records.any fun record => !obligations.contains record.obligation then
    .error (.value "Kernel effect record has no accepted obligation")
  else do
    validateEffectProofs proofs records
    .ok {
      pending := obligations.filter fun o => (effectFor records o).isNone
      fulfilled := obligations.filterMap fun o =>
        (effectFor records o).filter (·.status == .fulfilled)
      blocked := obligations.filterMap fun o =>
        (effectFor records o).filter (·.status == .blocked) }

/-- The locked part of `KernelStore.reconcile_effects`. -/
def reconcileLocked (proofs : Proofs) (files : Files) :
    Session Files KernelEffectReconciliation where
  result := do
    let obligations ← (recoverObligations files).mapError .value
    let records ← (loadEffects files.effects).mapError .value
    reconcileUnlocked proofs obligations records
  files := files
  replaced := false

def reconcileEffects (fault : Option Fault) (proofs : Proofs) (files : Files) :
    Except StoreError KernelEffectReconciliation :=
  (locked fault files (reconcileLocked proofs files)).1.mapError
    (kernelStoreError "Kernel effect reconciliation failed: ")

end Valp.Kernel
