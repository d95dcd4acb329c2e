/-
Journal and effect ledger together (`valp_cli/kernel_store.py`).

The two files of a store grow independently, in any order of appends and recorded
effects.  They are joined by the obligations: a record is only written for an
obligation of the journal, and the journal never loses one.  So the obligations are at
all times split into pending, fulfilled and blocked ones, and what is recorded stays.

* `effects_reconciled` — the partition is exact and monotone, and recording is idempotent.
-/
import Valp.KernelEffects

namespace Valp.Kernel

open Decode (ok_bind)
open List

variable {proofs : Proofs} {g : State} {files files' : Files} {entries : List ReplayEntry}
  {records : List KernelEffectRecord} {r : KernelEffectRecord} {fault : Option Fault}
  {obligation proofRef proofDigest : String} {status : KernelEffectStatus}

/-! ### Proofs -/

/-- The proof is there, if there is a task root to find it below. -/
def ProofFound (proofs : Proofs) (proofRef proofDigest : String) : Prop :=
  ∀ read, proofs = some read →
    ∃ payload, read proofRef = .ok payload ∧ proofMatches payload proofDigest = true

theorem validateEffectProof_ok :
    validateEffectProof proofs r = .ok () ↔ ProofFound proofs r.proofRef r.proofDigest := by
  cases proofs with
  | none => simp [validateEffectProof, ProofFound]
  | some read =>
    simp only [validateEffectProof, ProofFound, Option.some.injEq, forall_eq']
    cases read r.proofRef with
    | error raised => simp
    | ok payload => cases hmatches : proofMatches payload r.proofDigest <;> simp [hmatches]

theorem checkEffect_ok : checkEffect proofs obligation proofRef proofDigest = .ok () ↔
      isAdapterCancel obligation ∧ safeRef proofRef ∧ isDigest proofDigest ∧
        ProofFound proofs proofRef proofDigest := by
  unfold checkEffect
  cases hval : !isAdapterCancel obligation || !safeRef proofRef || !isDigest proofDigest with
  | true =>
    simp only [Bool.or_eq_true, Bool.not_eq_true'] at hval
    simp only [if_true, reduceCtorEq, false_iff]
    rintro ⟨hcan, hsafe, hdig, -⟩
    simp [hcan, hsafe, hdig] at hval
  | false =>
    simp only [Bool.or_eq_false_iff, Bool.not_eq_false'] at hval
    obtain ⟨⟨hcan, hsafe⟩, hdig⟩ := hval
    simp only [Bool.false_eq_true, if_false, hcan, hsafe, hdig, true_and]
    cases proofs with
    | none => simp [ProofFound]
    | some read =>
      simp only [ProofFound, Option.some.injEq, forall_eq']
      rcases read proofRef with (error | message) | payload
      · simp
      · simp
      · cases hmatches : proofMatches payload proofDigest <;> simp [hmatches]

/-! ### The store with its effects -/

/-- The store holds the journal `entries` and the ledger `records`: each record is for an
obligation of the journal, and its proof is there. -/
structure EffectStore (proofs : Proofs) (g : State) (files : Files) (entries : List ReplayEntry)
    (records : List KernelEffectRecord) : Prop where
  holds : Holds g files entries
  checkpoint : files.checkpoint = none
  ledger : loadEffects files.effects = .ok records
  accepted : ∀ r ∈ records, r.obligation ∈ entries.flatMap ReplayEntry.obligations
  proofs : ∀ r ∈ records, validateEffectProof proofs r = .ok ()

theorem initializeStore_store (hg : genesisIsValid g) :
    EffectStore proofs g (initializeStore none .empty g).2 [] [] := by
  obtain ⟨-, hholds, hfs⟩ := initializeStore_holds hg
  refine ⟨hholds, ?_, ?_, forall_mem_nil _, forall_mem_nil _⟩
  · rw [hfs]
    rfl
  · rw [hfs]
    rfl

section

variable (h : EffectStore proofs g files entries records)

include h

theorem EffectStore.obligations :
    recoverObligations files = .ok (entries.flatMap ReplayEntry.obligations) ∧
      (entries.flatMap ReplayEntry.obligations).Nodup := by
  obtain ⟨r, hr⟩ := h.holds.replays
  obtain ⟨hcolld, hnd, -⟩ := acceptedObligations_of_replay h.holds.valid hr
  refine ⟨?_, hnd⟩
  rw [recoverObligations, h.holds.loadStore, ok_bind]
  simp only [recoverUnlocked_replay h.checkpoint hr, ok_bind, hcolld]

theorem EffectStore.bound (hr : r ∈ records) :
    isAdapterCancel r.obligation ∧ r.effectId = effectIdFor r.obligation ∧
      safeRef r.proofRef ∧ isDigest r.proofDigest := by
  obtain ⟨n, d, hbd⟩ := (loadEffects_records h.ledger).1.bound hr
  simp only [effectIsBound, Bool.and_eq_true, beq_iff_eq] at hbd
  exact ⟨hbd.1.1.1.1.1.1, hbd.1.1.1.1.1.2, hbd.1.1.1.1.2, hbd.1.1.1.2⟩

theorem EffectStore.unique {r r' : KernelEffectRecord} (hr : r ∈ records) (hr' : r' ∈ records)
    (hsame : r.obligation = r'.obligation) : r = r' := by
  refine inj_on_of_nodup_map (loadEffects_records h.ledger).2 hr hr' ?_
  rw [(h.bound hr).2.1, (h.bound hr').2.1, hsame]

theorem EffectStore.find_effectId (hr : r ∈ records) :
    (records.find? fun item => item.effectId == effectIdFor r.obligation) = some r := by
  rw [← (h.bound hr).2.1]
  exact (Table.mem_iff_get (loadEffects_records h.ledger).2).mp hr

theorem EffectStore.check (hr : r ∈ records) :
    checkEffect proofs r.obligation r.proofRef r.proofDigest = .ok () := by
  obtain ⟨hcan, -, hsafe, hdig⟩ := h.bound hr
  exact checkEffect_ok.mpr ⟨hcan, hsafe, hdig, validateEffectProof_ok.mp (h.proofs r hr)⟩

/-! ### One call -/

theorem EffectStore.recordEffectLocked_eq
    (hobl : obligation ∈ entries.flatMap ReplayEntry.obligations) :
    recordEffectLocked fault files obligation status proofRef proofDigest =
      recordUnlocked fault files records
        (effectCandidate records obligation status proofRef proofDigest) := by
  rw [recordEffectLocked, h.obligations.1]
  simp only [contains_iff_mem.mpr hobl, Bool.not_true, Bool.false_eq_true, if_false, h.ledger]

/-- What `record_effect` answers when there is a record for the obligation. -/
theorem EffectStore.recordEffectLocked_recorded (hr : r ∈ records) :
    recordEffectLocked fault files r.obligation status proofRef proofDigest =
      { result :=
          if r.status = status ∧ r.proofRef = proofRef ∧ r.proofDigest = proofDigest then .ok r
          else .error (.store {
            code := .idempotencyConflict
            message := "Kernel effect identity differs" })
        files := files
        replaced := false } := by
  have hfind : (records.find? fun item => item.effectId ==
      (effectCandidate records r.obligation status proofRef proofDigest).effectId) = some r :=
    h.find_effectId hr
  rw [h.recordEffectLocked_eq (h.accepted r hr)]
  simp only [recordUnlocked, hfind]
  simp only [effectCandidate, true_and]

end

theorem effectCandidate_bound
    (hchk : checkEffect proofs obligation proofRef proofDigest = .ok ()) :
    effectIsBound (1 + records.length) (tailDigest emptyEffectLedgerDigest records)
      (effectCandidate records obligation status proofRef proofDigest) := by
  obtain ⟨hcan, hsafe, hdig, -⟩ := checkEffect_ok.mp hchk
  have hrev : (records.length : Int) + 1 = 1 + records.length := by omega
  simp only [effectIsBound, effectCandidate, hcan, hsafe, hdig, hrev, beq_self_eq_true,
    Bool.and_self, Bool.true_and, beq_iff_eq]
  rfl

theorem EffectStore.concat (h : EffectStore proofs g files entries records)
    (hchk : checkEffect proofs obligation proofRef proofDigest = .ok ())
    (hobl : obligation ∈ entries.flatMap ReplayEntry.obligations)
    (hnew : ∀ r ∈ records, r.effectId ≠ effectIdFor obligation) :
    EffectStore proofs g
      { files with effects := some (effectsBytes (records ++
        [effectCandidate records obligation status proofRef proofDigest])) } entries
      (records ++ [effectCandidate records obligation status proofRef proofDigest]) := by
  obtain ⟨hlinked, hnd⟩ := loadEffects_records h.ledger
  have hbd : effectIsBound (1 + records.length) (tailDigest emptyEffectLedgerDigest records)
      (effectCandidate records obligation status proofRef proofDigest) :=
    effectCandidate_bound hchk
  refine ⟨⟨h.holds.valid, h.holds.genesis, h.holds.journal, h.holds.replays, h.holds.events⟩,
    h.checkpoint, loadEffects_iff.mpr ⟨rfl, linked_concat.mpr ⟨hlinked, hbd⟩, ?_⟩, ?_, ?_⟩
  · refine Table.nodup_concat hnd fun hmem => ?_
    obtain ⟨r, hr, hid⟩ := mem_map.mp hmem
    exact hnew r hr hid
  · exact forall_mem_append.mpr ⟨h.accepted, forall_mem_singleton.mpr hobl⟩
  · exact forall_mem_append.mpr ⟨h.proofs, forall_mem_singleton.mpr
      (validateEffectProof_ok.mpr (checkEffect_ok.mp hchk).2.2.2)⟩

/-- The arguments of a call are those of the record. -/
def Answers (r : KernelEffectRecord) (obligation : String) (status : KernelEffectStatus)
    (proofRef proofDigest : String) : Prop :=
  r.obligation = obligation ∧ r.status = status ∧ r.proofRef = proofRef ∧
    r.proofDigest = proofDigest

/-- The replacement of the ledger fails with the files as they were, or is made; what is
returned is the new record. -/
theorem reconcileReplacement_cases (fault : Option Fault) (files files' : Files)
    (candidate : KernelEffectRecord) :
    let session := reconcileReplacement candidate
      (replaceFile fault files files' (.ok candidate))
    (session.files = files ∧ ∀ r, session.result ≠ .ok r) ∨
      (session.files = files' ∧ ∀ r, session.result = .ok r → r = candidate) := by
  have hdone : ∀ session : Session Files KernelEffectRecord, session.result = .ok candidate →
      (reconcileReplacement candidate session).files = session.files ∧
        ∀ r, (reconcileReplacement candidate session).result = .ok r → r = candidate := by
    intro session hres
    have hsame : reconcileReplacement candidate session = session := by
      rw [reconcileReplacement, hres]
    rw [hsame, hres]
    exact ⟨rfl, fun r h => (Except.ok.inj h).symm⟩
  rcases fault with _ | fault
  · exact .inr (hdone _ rfl)
  cases fault with
  | lock => exact .inr (hdone _ rfl)
  | unlock => exact .inr (hdone _ rfl)
  | checkpoint regular => exact .inr (hdone _ rfl)
  | beforeReplace => exact .inl ⟨rfl, fun r h => by cases h⟩
  | afterReplace =>
    -- the rename was made, and the ledger is read to see it
    refine .inr ?_
    simp only [replaceFile, commit, reconcileReplacement, ne_eq, not_true_eq_false, if_false]
    cases loadEffects files'.effects with
    | error message => exact ⟨rfl, fun r h => by cases h⟩
    | ok reconciled =>
      dsimp only
      split
      · exact ⟨rfl, fun r h => (Except.ok.inj h).symm⟩
      · exact ⟨rfl, fun r h => by cases h⟩

section

variable (h : EffectStore proofs g files entries records)

include h

/-- The body of `record_effect` keeps the store, and returns a record of the ledger that
has the arguments of the call. -/
theorem EffectStore.recordEffectLocked_cases
    (hchk : checkEffect proofs obligation proofRef proofDigest = .ok ()) (fault : Option Fault)
    (status : KernelEffectStatus) {session : Session Files KernelEffectRecord}
    (hsess : recordEffectLocked fault files obligation status proofRef proofDigest = session) :
    ∃ new, EffectStore proofs g session.files entries (records ++ new) ∧
      ∀ r, session.result = .ok r →
        r ∈ records ++ new ∧ Answers r obligation status proofRef proofDigest := by
  have hkept : session.files = files →
      (∀ r, session.result = .ok r →
        r ∈ records ∧ Answers r obligation status proofRef proofDigest) →
      ∃ new, EffectStore proofs g session.files entries (records ++ new) ∧
        ∀ r, session.result = .ok r →
          r ∈ records ++ new ∧ Answers r obligation status proofRef proofDigest := by
    intro hfs hanswer
    refine ⟨[], ?_, ?_⟩
    · rwa [hfs, append_nil]
    · rwa [append_nil]
  by_cases hobl : obligation ∈ entries.flatMap ReplayEntry.obligations
  · rw [h.recordEffectLocked_eq hobl, recordUnlocked] at hsess
    split at hsess
    case h_1 prior hpr =>
      -- the obligation, or another one with its identity, has a record
      subst hsess
      refine hkept rfl fun r hr => ?_
      dsimp only at hr
      split at hr
      · rename_i hargs
        cases hr
        exact ⟨mem_of_find?_eq_some hpr, hargs⟩
      · cases hr
    case h_2 hnone =>
      have hnew : ∀ r ∈ records, r.effectId ≠ effectIdFor obligation := by
        intro r hr hid
        exact absurd (beq_iff_eq.mpr hid) (List.find?_eq_none.mp hnone r hr)
      have hcases := reconcileReplacement_cases fault files
        { files with effects := some (effectsBytes (records ++
          [effectCandidate records obligation status proofRef proofDigest])) }
        (effectCandidate records obligation status proofRef proofDigest)
      rw [hsess] at hcases
      rcases hcases with ⟨hfs, hfail⟩ | ⟨hfs, hretd⟩
      · exact hkept hfs fun r hr => absurd hr (hfail r)
      refine ⟨[effectCandidate records obligation status proofRef proofDigest], ?_, ?_⟩
      · rw [hfs]
        exact h.concat hchk hobl hnew
      · intro r hr
        rw [hretd r hr]
        exact ⟨by simp, rfl, rfl, rfl, rfl⟩
  · have hnot : ((entries.flatMap ReplayEntry.obligations).contains obligation) = false := by
      simpa using hobl
    rw [recordEffectLocked, h.obligations.1] at hsess
    simp only [hnot, Bool.not_false, if_true] at hsess
    subst hsess
    exact hkept rfl fun r hr => by cases hr

/-- **One recorded effect keeps the store**, and only adds to the ledger; a call that
succeeds returns a record that is in the ledger then. -/
theorem recordEffect_store
    (fault : Option Fault) (obligation : String) (status : KernelEffectStatus)
    (proofRef proofDigest : String) :
    ∃ new, EffectStore proofs g
        (recordEffect fault proofs files obligation status proofRef proofDigest).2 entries
        (records ++ new) ∧
      ∀ r, (recordEffect fault proofs files obligation status proofRef proofDigest).1 = .ok r →
        r ∈ records ++ new ∧ Answers r obligation status proofRef proofDigest := by
  rw [recordEffect]
  split
  · refine ⟨[], by rwa [append_nil], fun r hr => by cases hr⟩
  rename_i hchk
  obtain ⟨new, hstore, hanswer⟩ := h.recordEffectLocked_cases hchk fault status rfl
  rcases locked_cases fault files
    (recordEffectLocked fault files obligation status proofRef proofDigest) with
    ⟨hfs, hfail⟩ | ⟨hfs, hretd⟩
  · refine ⟨[], ?_, fun r hr => absurd (mapError_eq_ok.mp hr) (hfail r)⟩
    show EffectStore proofs g (locked fault files _).2 entries (records ++ [])
    rwa [hfs, append_nil]
  · refine ⟨new, ?_, fun r hr => hanswer r (hretd r (mapError_eq_ok.mp hr))⟩
    show EffectStore proofs g (locked fault files _).2 entries (records ++ new)
    rwa [hfs]

theorem append_store (fault : Option Fault) (entry : ReplayEntry) :
    ∃ new, EffectStore proofs g (append fault files entry).2 (entries ++ new) records := by
  obtain ⟨new, hholds, hcp, heffects, -⟩ := append_holds h.holds fault entry
  refine ⟨new, hholds, hcp.trans h.checkpoint, by rw [heffects, h.ledger], ?_, h.proofs⟩
  intro r hr
  rw [flatMap_append]
  exact mem_append_left _ (h.accepted r hr)

end

/-! ### Sequences of calls -/

/-- The calls that change a store. -/
inductive Call where
  | append (fault : Option Fault) (entry : ReplayEntry)
  | recordEffect (fault : Option Fault) (obligation : String) (status : KernelEffectStatus)
      (proofRef proofDigest : String)

/-- The files after a call, whether it succeeds or not. -/
def callStep (proofs : Proofs) (files : Files) : Call → Option Files
  | .append fault entry => some (append fault files entry).2
  | .recordEffect fault obligation status proofRef proofDigest =>
    some (recordEffect fault proofs files obligation status proofRef proofDigest).2

section

variable (h : EffectStore proofs g files entries records)

include h

theorem callStep_store {call : Call} (hstep : callStep proofs files call = some files') :
    ∃ newEntries newRecords,
      EffectStore proofs g files' (entries ++ newEntries) (records ++ newRecords) := by
  cases call with
  | append fault entry =>
    cases hstep
    obtain ⟨new, hstore⟩ := append_store h fault entry
    exact ⟨new, [], by rwa [append_nil]⟩
  | recordEffect fault obligation status proofRef proofDigest =>
    cases hstep
    obtain ⟨new, hstore, -⟩ := recordEffect_store h fault obligation status proofRef proofDigest
    exact ⟨[], new, by rwa [append_nil]⟩

/-- **Every sequence of calls keeps the store**: both files only grow. -/
theorem exec_store {calls : List Call}
    (hrun : Run.exec (callStep proofs) files calls = some files') :
    ∃ newEntries newRecords,
      EffectStore proofs g files' (entries ++ newEntries) (records ++ newRecords) := by
  refine Run.exec_invariant (I := fun u => ∃ newEntries newRecords,
    EffectStore proofs g u (entries ++ newEntries) (records ++ newRecords)) ?_
    ⟨[], [], by rwa [append_nil, append_nil]⟩ hrun
  rintro u call v ⟨newEntries, newRecords, hu⟩ hstep
  obtain ⟨moreEntries, moreRecords, hv⟩ := callStep_store hu hstep
  rw [append_assoc, append_assoc] at hv
  exact ⟨_, _, hv⟩

/-! ### Reconciliation -/

theorem effectFor_eq_some {o : String} :
    effectFor records o = some r ↔ r ∈ records ∧ r.obligation = o := by
  constructor
  · intro hr
    simpa using mem_of_getLast? hr
  · rintro ⟨hr, rfl⟩
    have hmem : r ∈ records.filter (·.obligation == r.obligation) := mem_filter.mpr ⟨hr, by simp⟩
    obtain ⟨last, hlast⟩ := Option.ne_none_iff_exists'.mp
      (mt getLast?_eq_none_iff.mp (ne_nil_of_mem hmem))
    obtain ⟨hlastmem, hsame⟩ : last ∈ records ∧ last.obligation = r.obligation := by
      simpa using mem_of_getLast? hlast
    rw [effectFor, hlast, h.unique hlastmem hr hsame]

end

/-- The obligations are split into three lists, each in the order of emission. -/
structure Partitions (obligations : List String) (c : KernelEffectReconciliation) : Prop where
  perm : (c.pending ++ (c.fulfilled.map (·.obligation) ++ c.blocked.map (·.obligation))).Perm
    obligations
  pending : c.pending.Sublist obligations
  fulfilled : (c.fulfilled.map (·.obligation)).Sublist obligations
  blocked : (c.blocked.map (·.obligation)).Sublist obligations

theorem map_obligation_filterMap (h : EffectStore proofs g files entries records)
    (status : KernelEffectStatus) (obligations : List String) :
    (obligations.filterMap fun o => (effectFor records o).filter (·.status == status)).map
      (·.obligation) =
        obligations.filter fun o => (effectFor records o).any (·.status == status) := by
  rw [map_filterMap, ← filterMap_eq_filter]
  refine filterMap_congr fun o _ => ?_
  cases ho : effectFor records o with
  | none => simp [Option.guard, ho]
  | some r =>
    obtain ⟨-, rfl⟩ := (effectFor_eq_some h).mp ho
    by_cases hst : r.status = status <;> simp [Option.guard, ho, hst]

theorem mem_filterMap_effectFor (h : EffectStore proofs g files entries records)
    (status : KernelEffectStatus) :
    r ∈ (entries.flatMap ReplayEntry.obligations).filterMap
        (fun o => (effectFor records o).filter (·.status == status)) ↔
      r ∈ records ∧ r.status = status := by
  simp only [mem_filterMap, Option.filter_eq_some_iff, effectFor_eq_some h, beq_iff_eq]
  constructor
  · rintro ⟨o, -, ⟨hr, -⟩, hst⟩
    exact ⟨hr, hst⟩
  · rintro ⟨hr, hst⟩
    exact ⟨r.obligation, h.accepted r hr, ⟨hr, rfl⟩, hst⟩

theorem filter_three_perm (records : List KernelEffectRecord) (obligations : List String) :
    ((obligations.filter fun o => (effectFor records o).isNone) ++
      ((obligations.filter fun o => (effectFor records o).any (·.status == .fulfilled)) ++
        obligations.filter fun o => (effectFor records o).any (·.status == .blocked))).Perm
      obligations := by
  have hfulf : ∀ o, ((effectFor records o).any (·.status == .fulfilled) &&
      !(effectFor records o).isNone) = (effectFor records o).any (·.status == .fulfilled) := by
    intro o
    cases effectFor records o <;> simp
  have hblk : ∀ o, (!(effectFor records o).any (·.status == .fulfilled) &&
      !(effectFor records o).isNone) = (effectFor records o).any (·.status == .blocked) := by
    intro o
    rcases effectFor records o with _ | r
    · rfl
    · cases hst : r.status <;> simp [hst]
  have hrest := filter_append_perm (fun o => (effectFor records o).any (·.status == .fulfilled))
    (obligations.filter fun o => !(effectFor records o).isNone)
  simp only [filter_filter, hfulf, hblk] at hrest
  exact (hrest.append_left _).trans (filter_append_perm _ obligations)

section

variable (h : EffectStore proofs g files entries records)

include h

/-- What `reconcile_effects` returns is a partition of the obligations of the journal,
and the records are where their status says. -/
theorem reconcileEffects_store : ∃ c, reconcileEffects none proofs files = .ok c ∧
      Partitions (entries.flatMap ReplayEntry.obligations) c ∧
      (∀ r, r ∈ c.fulfilled ↔ r ∈ records ∧ r.status = .fulfilled) ∧
      ∀ r, r ∈ c.blocked ↔ r ∈ records ∧ r.status = .blocked := by
  have hacc : (records.any fun record =>
      !(entries.flatMap ReplayEntry.obligations).contains record.obligation) = false := by
    rw [any_eq_false]
    intro r hr
    simpa using h.accepted r hr
  have hpfs : validateEffectProofs proofs records = .ok () := by
    have hall := h.proofs
    rw [validateEffectProofs, forM_eq_forM]
    clear h hacc
    induction records with
    | nil => rfl
    | cons r records ih =>
      rw [forM_cons, hall r (by simp), ok_bind]
      exact ih fun s hs => hall s (by simp [hs])
  have hcall : reconcileEffects none proofs files = .ok {
      pending := (entries.flatMap ReplayEntry.obligations).filter fun o =>
        (effectFor records o).isNone
      fulfilled := (entries.flatMap ReplayEntry.obligations).filterMap fun o =>
        (effectFor records o).filter (·.status == .fulfilled)
      blocked := (entries.flatMap ReplayEntry.obligations).filterMap fun o =>
        (effectFor records o).filter (·.status == .blocked) } := by
    rw [reconcileEffects, locked_none, reconcileLocked, h.obligations.1, h.ledger]
    simp only [Except.mapError, ok_bind, reconcileUnlocked, hacc, Bool.false_eq_true,
      if_false, hpfs]
  refine ⟨_, hcall, ?_, fun r => mem_filterMap_effectFor h _, fun r => mem_filterMap_effectFor h _⟩
  have hfulf := map_obligation_filterMap h .fulfilled (entries.flatMap ReplayEntry.obligations)
  have hblk := map_obligation_filterMap h .blocked (entries.flatMap ReplayEntry.obligations)
  refine ⟨?_, filter_sublist, ?_, ?_⟩
  · rw [hfulf, hblk]
    exact filter_three_perm _ _
  · rw [hfulf]
    exact filter_sublist
  · rw [hblk]
    exact filter_sublist

theorem EffectStore.recordEffect_recorded (hr : r ∈ records)
    (hchk : checkEffect proofs r.obligation proofRef proofDigest = .ok ()) :
    recordEffect none proofs files r.obligation status proofRef proofDigest =
      (if r.status = status ∧ r.proofRef = proofRef ∧ r.proofDigest = proofDigest then .ok r
        else .error {
          code := .idempotencyConflict
          message := "Kernel effect identity differs" }, files) := by
  rw [recordEffect, hchk]
  dsimp only
  rw [h.recordEffectLocked_recorded hr, locked_none]
  dsimp only
  split <;> rfl

theorem EffectStore.recordEffect_new
    (hchk : checkEffect proofs obligation proofRef proofDigest = .ok ())
    (hobl : obligation ∈ entries.flatMap ReplayEntry.obligations)
    (hnew : ∀ r ∈ records, r.effectId ≠ effectIdFor obligation) :
    recordEffect none proofs files obligation status proofRef proofDigest =
      (.ok (effectCandidate records obligation status proofRef proofDigest),
        { files with effects := some (effectsBytes (records ++
          [effectCandidate records obligation status proofRef proofDigest])) }) := by
  have hfind : (records.find? fun item => item.effectId ==
      (effectCandidate records obligation status proofRef proofDigest).effectId) = none := by
    rw [find?_eq_none]
    intro r hr hid
    exact hnew r hr (beq_iff_eq.mp hid)
  rw [recordEffect, hchk]
  dsimp only
  rw [h.recordEffectLocked_eq hobl, locked_none, recordUnlocked, hfind]
  rfl

end

/-- The store is read, and reconciliation returns a partition of its obligations. -/
structure Reconciled (proofs : Proofs) (g : State) (files : Files) (entries : List ReplayEntry)
    (records : List KernelEffectRecord) (c : KernelEffectReconciliation) : Prop where
  journal : loadStore files = .ok (g, entries)
  ledger : loadEffects files.effects = .ok records
  returned : reconcileEffects none proofs files = .ok c
  nodup : (entries.flatMap ReplayEntry.obligations).Nodup
  partition : Partitions (entries.flatMap ReplayEntry.obligations) c

/-- **Reconciliation is an exact and monotone partition.**  After every sequence of
appends and recorded effects on an initialized store, at `files` and at every later
`files'`: the journal and the ledger are read back, and each obligation of the journal is
in exactly one of the three lists, in the order of emission; what is fulfilled or blocked
stays so with its record; a call that succeeds returns a record that is in the ledger from
then on; and for an obligation with a record the same arguments return it, while another
status, or another proof that passes the checks, is an idempotency conflict, with the
files unchanged. -/
theorem effects_reconciled (hg : genesisIsValid g = true) {before after : List Call}
    (hbefore : Run.exec (callStep proofs) (initializeStore none .empty g).2 before = some files)
    (hafter : Run.exec (callStep proofs) files after = some files') :
    ∃ entries records c entries' records' c',
      Reconciled proofs g files entries records c ∧
      Reconciled proofs g files' entries' records' c' ∧
      entries <+: entries' ∧ records <+: records' ∧
      c.fulfilled ⊆ c'.fulfilled ∧ c.blocked ⊆ c'.blocked ∧
      (∀ fault obligation status proofRef proofDigest r,
        (recordEffect fault proofs files' obligation status proofRef proofDigest).1 = .ok r →
        Answers r obligation status proofRef proofDigest ∧
        ∃ later, loadEffects (recordEffect fault proofs files' obligation status proofRef
          proofDigest).2.effects = .ok later ∧ r ∈ later) ∧
      ∀ r ∈ records,
        recordEffect none proofs files' r.obligation r.status r.proofRef r.proofDigest =
          (.ok r, files') ∧
        ∀ status proofRef proofDigest,
          (proofRef = r.proofRef ∧ proofDigest = r.proofDigest ∨
            checkEffect proofs r.obligation proofRef proofDigest = .ok ()) →
          (r.status ≠ status ∨ r.proofRef ≠ proofRef ∨ r.proofDigest ≠ proofDigest) →
          recordEffect none proofs files' r.obligation status proofRef proofDigest =
            (.error {
              code := .idempotencyConflict
              message := "Kernel effect identity differs" }, files') := by
  obtain ⟨entries, records, h⟩ := exec_store (initializeStore_store hg) hbefore
  rw [nil_append, nil_append] at h
  obtain ⟨newEntries, newRecords, h'⟩ := exec_store h hafter
  obtain ⟨c, hc, hpartition, hfulfilled, hblocked⟩ := reconcileEffects_store h
  obtain ⟨c', hc', hpartition', hfulfilled', hblocked'⟩ := reconcileEffects_store h'
  refine ⟨entries, records, c, entries ++ newEntries, records ++ newRecords, c',
    ⟨h.holds.loadStore, h.ledger, hc, h.obligations.2, hpartition⟩,
    ⟨h'.holds.loadStore, h'.ledger, hc', h'.obligations.2, hpartition'⟩,
    prefix_append _ _, prefix_append _ _, ?_, ?_, ?_, ?_⟩
  · intro r hr
    obtain ⟨hmem, hstatus⟩ := (hfulfilled r).mp hr
    exact (hfulfilled' r).mpr ⟨mem_append_left _ hmem, hstatus⟩
  · intro r hr
    obtain ⟨hmem, hstatus⟩ := (hblocked r).mp hr
    exact (hblocked' r).mpr ⟨mem_append_left _ hmem, hstatus⟩
  · intro fault obligation status proofRef proofDigest r hr
    obtain ⟨new, hstore, hanswer⟩ := recordEffect_store h' fault obligation status proofRef
      proofDigest
    obtain ⟨hmem, hargs⟩ := hanswer r hr
    exact ⟨hargs, _, hstore.ledger, hmem⟩
  · intro r hr
    have hr' : r ∈ records ++ newRecords := mem_append_left _ hr
    refine ⟨?_, fun status proofRef proofDigest hvalid hdiffers => ?_⟩
    · rw [h'.recordEffect_recorded hr' (h'.check hr'), if_pos ⟨rfl, rfl, rfl⟩]
    · have hcheck : checkEffect proofs r.obligation proofRef proofDigest = .ok () := by
        rcases hvalid with ⟨rfl, rfl⟩ | hcheck
        · exact h'.check hr'
        · exact hcheck
      rw [h'.recordEffect_recorded hr' hcheck, if_neg]
      tauto

/-! ### A recorded effect -/

/-- The journal of every accepted run can be written to a store. -/
theorem exists_appended (proofs : Proofs) (hg : genesisIsValid g) {xs : List Input}
    {t : State} (h : Run.exec step g xs = some t) :
    ∃ calls files entries r,
      Run.exec (callStep proofs) (initializeStore none .empty g).2 calls = some files ∧
      EffectStore proofs g files entries [] ∧ replay (.genesis g) entries none = .ok r ∧
      r.state = t ∧ entries.flatMap ReplayEntry.obligations = emitted g xs := by
  refine Run.exec_history (I := fun ys u => ∃ calls files entries r,
    Run.exec (callStep proofs) (initializeStore none .empty g).2 calls = some files ∧
    EffectStore proofs g files entries [] ∧ replay (.genesis g) entries none = .ok r ∧
    r.state = u ∧ entries.flatMap ReplayEntry.obligations = emitted g ys) ?_ ?_ h
  · have hstore : EffectStore proofs g (initializeStore none .empty g).2 [] [] :=
      initializeStore_store hg
    obtain ⟨r, hr⟩ := hstore.holds.replays
    have hnil := (replay_genesis_ok.mp hr).2
    rw [replayEntries, Except.ok.injEq, Prod.mk.injEq] at hnil
    exact ⟨[], _, [], r, rfl, hstore, hr, hnil.1.symm, rfl⟩
  · rintro ys u x v hu ⟨calls, files, entries, r, hcalls, hstore, hr, rfl, hemit⟩ hv
    obtain ⟨a, ha, rfl⟩ := step_eq_some.mp hv
    obtain ⟨_, r', files', happ, -, hholds, hcp, heffects, hr', hsta⟩ :=
      append_accepted hstore.holds hstore.checkpoint hr ha
    refine ⟨calls ++ [.append none ⟨x.1, x.2, .accepted a⟩], files', _, r', ?_,
      ⟨hholds, hcp, heffects ▸ hstore.ledger, by simp, by simp⟩, hr', hsta, ?_⟩
    · refine Run.exec_concat.mpr ⟨files, hcalls, ?_⟩
      rw [callStep, happ]
    · rw [flatMap_append, hemit, emitted_concat hu hv]
      simp [ReplayEntry.obligations, ReplayEntry.recomputed, obligationsOf, Result.accepted?, ha]

def sampleDigest : String :=
  "sha256:0000000000000000000000000000000000000000000000000000000000000000"

theorem isAdapterCancel_obligation (a : Attempt) :
    isAdapterCancel (adapterCancelObligation a) := by
  rw [isAdapterCancel, adapterCancelObligation, String.toList_append, isPrefixOf_iff_prefix]
  exact prefix_append _ _

/-- A store in which the cancellation of an Attempt is recorded as fulfilled. -/
theorem exists_recorded : ∃ calls files entries r,
      Run.exec (callStep none) (initializeStore none .empty requiredGenesis).2 calls = some files ∧
      EffectStore none requiredGenesis files entries [r] ∧
      Answers r r.obligation .fulfilled "proof.json" sampleDigest := by
  obtain ⟨t, o, ht, ho⟩ := cancelledRun_emits
  obtain ⟨calls, files, entries, _, hcalls, hstore, -, -, hemit⟩ :=
    exists_appended none requiredGenesis_valid ht
  have hobl : o ∈ entries.flatMap ReplayEntry.obligations := by
    rw [hemit, ho]
    exact mem_singleton_self o
  obtain ⟨_, a, -, rfl⟩ := (exec_obligations requiredGenesis_valid ht).2 o (by simp [ho])
  have hchk : checkEffect none (adapterCancelObligation a) "proof.json" sampleDigest = .ok () :=
    checkEffect_ok.mpr ⟨isAdapterCancel_obligation a, by decide, by decide, by simp [ProofFound]⟩
  refine ⟨calls ++ [.recordEffect none (adapterCancelObligation a) .fulfilled "proof.json"
    sampleDigest], _, entries, effectCandidate [] (adapterCancelObligation a) .fulfilled
    "proof.json" sampleDigest, Run.exec_concat.mpr ⟨files, hcalls, ?_⟩,
    hstore.concat hchk hobl (forall_mem_nil _), rfl, rfl, rfl, rfl⟩
  exact congrArg (fun out => some out.2)
    (hstore.recordEffect_new hchk hobl (forall_mem_nil _))

/-- The recorded effect is in the partition, and recording it again as blocked is a
conflict. -/
theorem effects_reconciled_cancelledRun : ∃ calls files entries r c,
      Run.exec (callStep none) (initializeStore none .empty requiredGenesis).2 calls = some files ∧
      Reconciled none requiredGenesis files entries [r] c ∧
      recordEffect none none files r.obligation r.status r.proofRef r.proofDigest = (.ok r, files) ∧
      recordEffect none none files r.obligation .blocked r.proofRef r.proofDigest =
        (.error {
          code := .idempotencyConflict
          message := "Kernel effect identity differs" }, files) := by
  obtain ⟨calls, files, entries, r, hcalls, hstore, hargs⟩ := exists_recorded
  obtain ⟨entries₀, records, c, _, _, _, hreconciled, -, -, -, -, -, -, hagain⟩ :=
    effects_reconciled requiredGenesis_valid hcalls (Run.exec_nil files)
  obtain rfl : records = [r] := by
    have hledger := hreconciled.ledger
    rw [hstore.ledger, Except.ok.injEq] at hledger
    exact hledger.symm
  obtain ⟨hsame, hconflict⟩ := hagain r (mem_singleton_self r)
  refine ⟨calls, files, entries₀, r, c, hcalls, hreconciled, hsame, ?_⟩
  exact hconflict _ _ _ (.inl ⟨rfl, rfl⟩) (.inl (by rw [hargs.2.1]; decide))

/-- Another proof that does not pass the checks is refused before the ledger is read, and
the error is not an idempotency conflict. -/
theorem effects_invalid_proof : ∃ calls files entries r,
      Run.exec (callStep none) (initializeStore none .empty requiredGenesis).2 calls = some files ∧
      EffectStore none requiredGenesis files entries [r] ∧ r.proofDigest ≠ "" ∧
      recordEffect none none files r.obligation r.status r.proofRef "" =
        (.error { code := .stateConflict, message := "Kernel effect proof is invalid" },
          files) := by
  obtain ⟨calls, files, entries, r, hcalls, hstore, hargs⟩ := exists_recorded
  refine ⟨calls, files, entries, r, hcalls, hstore, by rw [hargs.2.2.2]; decide, ?_⟩
  have hinvalid : isDigest "" = false := by decide
  rw [recordEffect, checkEffect, hinvalid, if_pos (by simp)]

end Valp.Kernel
