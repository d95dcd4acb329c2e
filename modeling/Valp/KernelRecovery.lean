/-
Stores that recover (`KernelStore.recover` of `valp_cli/kernel_store.py`).

A store that `recover` accepts holds a journal that replays, whatever wrote its files, and
a checkpoint in it stands for a part of that journal.  So the State it recovers is the one
of the full replay, and the store goes on recovering when accepted events are appended.

* `rejected_unchanged_iff` — **when an `append` that is rejected leaves the journal as it was.**
-/
import Valp.KernelStore

namespace Valp.Kernel

open Decode

variable {g s t : State} {files files' : Files} {entries : List ReplayEntry} {entry : ReplayEntry}
  {recovery : KernelRecovery} {full r : Replay} {root : CheckpointRoot}
  {auth : CheckpointAuthentication}

/-! ### Checkpoints -/

/-- The checkpoint stands for the first entries of the journal. -/
structure Agrees (g : State) (entries : List ReplayEntry) (root : CheckpointRoot)
    (auth : CheckpointAuthentication) : Prop where
  count : root.acceptedEntryCount ≤ entries.length
  digest : replayPrefixDigest (entries.take root.acceptedEntryCount.toNat) = .ok root.prefixDigest
  replays : ∃ r, replay (.genesis g) (entries.take root.acceptedEntryCount.toNat) none = .ok r ∧
    r.state = root.state
  authentic : checkpointAuthenticationIsValid root (some auth) = true

theorem Agrees.concat (h : Agrees g entries root auth) (entry : ReplayEntry) :
    Agrees g (entries ++ [entry]) root auth := by
  have hcount := h.count
  have htake : (entries ++ [entry]).take root.acceptedEntryCount.toNat =
      entries.take root.acceptedEntryCount.toNat :=
    List.take_append_of_le_length (by omega)
  refine ⟨?_, ?_, ?_, h.authentic⟩
  · rw [List.length_append]
    omega
  · rw [htake]
    exact h.digest
  · rw [htake]
    exact h.replays

theorem Agrees.rest (h : Agrees g entries root auth)
    (hfull : replay (.genesis g) entries none = .ok full) :
    ∃ q, replay (.checkpoint root) (entries.drop root.acceptedEntryCount.toNat) (some auth) =
      .ok q ∧ q.state = full.state := by
  obtain ⟨r, hr, hroot⟩ := h.replays
  obtain ⟨-, hents⟩ := replay_genesis_ok.mp hfull
  rw [← List.take_append_drop root.acceptedEntryCount.toNat entries] at hents
  obtain ⟨u, first, second, hfst, hsnd, -⟩ := replayEntries_append.mp hents
  rw [(replay_genesis_ok.mp hr).2, Except.ok.injEq, Prod.mk.injEq] at hfst
  rw [← hfst.1, hroot] at hsnd
  exact ⟨⟨full.state, second, [], rfl⟩, replay_checkpoint_ok.mpr ⟨h.authentic, hsnd⟩, rfl⟩

theorem recoverCheckpoint_of_agrees (h : Agrees g entries root auth)
    (hfull : replay (.genesis g) entries none = .ok full) :
    ∃ recovery, recoverCheckpoint g entries full root auth = .ok recovery ∧
      recovery.replay.state = full.state ∧ recovery.entries = entries := by
  obtain ⟨r, hr, hroot⟩ := h.replays
  obtain ⟨q, hq, hsta⟩ := h.rest hfull
  refine ⟨⟨q, entries, true⟩, ?_, hsta, rfl⟩
  rw [recoverCheckpoint, if_neg (not_lt.mpr h.count)]
  dsimp only
  rw [h.digest, ok_bind, if_neg (not_not.mpr rfl), hr, ok_bind, if_neg (not_not.mpr hroot), hq,
    ok_bind, hsta, if_neg (not_not.mpr rfl)]

theorem agrees_of_recoverCheckpoint
    (h : recoverCheckpoint g entries full root auth = .ok recovery) :
    Agrees g entries root auth := by
  rw [recoverCheckpoint] at h
  split at h
  · cases h
  rename_i hcount
  obtain ⟨found, hdig, h⟩ := bind_eq_ok.mp h
  split at h
  · cases h
  rename_i hfnd
  obtain ⟨r, hr, h⟩ := bind_eq_ok.mp h
  split at h
  · cases h
  rename_i hroot
  obtain ⟨q, hq, -⟩ := bind_eq_ok.mp h
  refine ⟨not_lt.mp hcount, ?_, ⟨r, hr, not_not.mp hroot⟩, (replay_checkpoint_ok.mp hq).1⟩
  rw [hdig, not_not.mp hfnd]

/-! ### Recovery -/

theorem of_recoverUnlocked (h : recoverUnlocked files g entries = .ok recovery) :
    ∃ r, replay (.genesis g) entries none = .ok r ∧ recovery.replay.state = r.state ∧
      recovery.entries = entries ∧
      ∃ found, loadCheckpoint files.checkpoint = .ok found ∧
        ∀ root auth, found = some (root, auth) → Agrees g entries root auth := by
  rw [recoverUnlocked] at h
  obtain ⟨r, hr, h⟩ := bind_eq_ok.mp h
  obtain ⟨found, hfnd, h⟩ := bind_eq_ok.mp h
  cases found with
  | none =>
    cases h
    exact ⟨r, hr, rfl, rfl, none, hfnd, by simp⟩
  | some checkpoint =>
    have hagr : Agrees g entries checkpoint.1 checkpoint.2 := agrees_of_recoverCheckpoint h
    obtain ⟨recovery', hrecvy', hsta, hents⟩ := recoverCheckpoint_of_agrees hagr hr
    cases hrecvy'.symm.trans h
    refine ⟨r, hr, hsta, hents, some checkpoint, hfnd, ?_⟩
    rintro root auth hsome
    rw [Option.some_inj] at hsome
    rwa [hsome] at hagr

/-- A store that recovers does so with a further entry with which its journal replays. -/
theorem recoverUnlocked_concat (h : recoverUnlocked files g entries = .ok recovery)
    (hcp : files'.checkpoint = files.checkpoint)
    (hr : replay (.genesis g) (entries ++ [entry]) none = .ok r) :
    ∃ recovery', recoverUnlocked files' g (entries ++ [entry]) = .ok recovery' ∧
      recovery'.replay.state = r.state := by
  obtain ⟨-, -, -, -, found, hfnd, hagr⟩ := of_recoverUnlocked h
  rw [← hcp] at hfnd
  rw [recoverUnlocked, hr, ok_bind, hfnd, ok_bind]
  cases found with
  | none => exact ⟨_, rfl, rfl⟩
  | some checkpoint =>
    obtain ⟨recovery', hrecvy', hsta, -⟩ :=
      recoverCheckpoint_of_agrees ((hagr _ _ rfl).concat entry) hr
    exact ⟨recovery', hrecvy', hsta⟩

theorem genesis_of_loadGenesis {payload : Option Bytes} (h : loadGenesis payload = .ok g) :
    payload = some (canonicalBytes (genesisCanonical g)) := by
  cases payload with
  | none => cases h
  | some payload =>
    rw [loadGenesis, readCanonical] at h
    split at h
    · cases h
    obtain ⟨value, -, h⟩ := bind_eq_ok.mp h
    obtain ⟨state, -, h⟩ := bind_eq_ok.mp h
    split at h
    · cases h
    rename_i htext
    rw [← Except.ok.inj h, ← not_not.mp htext]

/-- The store recovers the State `s`. -/
def Recovered (files : Files) (s : State) : Prop :=
  ∃ recovery, recover none files = .ok recovery ∧ recovery.replay.state = s

theorem recover_iff : recover none files = .ok recovery ↔
    ∃ g entries, loadStore files = .ok (g, entries) ∧
      recoverUnlocked files g entries = .ok recovery := by
  rw [recover, locked_none, mapError_eq_ok, recoverLocked]
  constructor
  · intro h
    obtain ⟨⟨g, entries⟩, hload, h⟩ := bind_eq_ok.mp h
    exact ⟨g, entries, mapError_eq_ok.mp hload, mapError_eq_ok.mp h⟩
  · rintro ⟨g, entries, hload, h⟩
    exact bind_eq_ok.mpr ⟨(g, entries), mapError_eq_ok.mpr hload, mapError_eq_ok.mpr h⟩

/-- **A store that recovers** holds a journal that leads to its State. -/
theorem Recovered.holds (h : Recovered files s) :
    ∃ g entries r recovery, Holds g files entries ∧ replay (.genesis g) entries none = .ok r ∧
      r.state = s ∧ recoverUnlocked files g entries = .ok recovery := by
  obtain ⟨recovery, hrec, rfl⟩ := h
  obtain ⟨g, entries, hload, hrecvy⟩ := recover_iff.mp hrec
  obtain ⟨r, hr, hsta, -, -⟩ := of_recoverUnlocked hrecvy
  rw [loadStore] at hload
  obtain ⟨g', hg', hload⟩ := bind_eq_ok.mp hload
  obtain ⟨entries', hents', hload⟩ := bind_eq_ok.mp hload
  rw [Except.ok.injEq, Prod.mk.injEq] at hload
  obtain ⟨rfl, rfl⟩ := hload
  obtain ⟨hval, hrep⟩ := replay_genesis_ok.mp hr
  refine ⟨g', entries', r, recovery,
    ⟨hval, genesis_of_loadGenesis hg', hents', ⟨r, hr⟩, ?_⟩, hr, hsta.symm, hrecvy⟩
  -- the record of the accepted events lists the events of the journal
  have hevs := replayEntries_events hrep
  rw [(genesisIsValid_iff.mp hval).2.2.2, List.map_nil, List.nil_append] at hevs
  rw [← hevs]
  exact (exec_sound hval (replayEntries_exec hrep)).valid.eventIds

theorem Recovered.sound (h : Recovered files s) : Sound s := by
  obtain ⟨g, entries, r, -, hholds, hr, rfl, -⟩ := h.holds
  exact exec_sound hholds.valid (replayEntries_exec (replay_genesis_ok.mp hr).2)

theorem Recovered.unique (h : Recovered files s) (h' : Recovered files t) : s = t := by
  obtain ⟨recovery, hrec, rfl⟩ := h
  obtain ⟨recovery', hrec', rfl⟩ := h'
  rw [hrec, Except.ok.injEq] at hrec'
  rw [hrec']

theorem initializeStore_recovered (hmiss : files.genesis = none)
    (h : initializeStore none files g = (.ok (), files')) : Recovered files' g := by
  -- what `initialize` has checked: the genesis, and that no other file of a store is there
  have hchkd : genesisIsValid g ∧ files = .empty := by
    unfold initializeStore at h
    generalize canonicalBytes (genesisCanonical g) = payload at h
    split at h
    · simp at h
    rename_i r hr
    refine ⟨replay_genesis_nil.mp ⟨r, hr⟩, ?_⟩
    rw [locked_none, initializeLocked, hmiss] at h
    by_contra hne
    have hsome : files.journal.isSome ∨ files.checkpoint.isSome ∨ files.effects.isSome := by
      by_contra hnone
      simp only [not_or, Bool.not_eq_true, Option.isSome_eq_false_iff, Option.isNone_iff_eq_none]
        at hnone
      obtain ⟨genesis, journal, checkpoint, effects⟩ := files
      obtain ⟨rfl, rfl, rfl⟩ := hnone
      obtain rfl : genesis = none := hmiss
      exact hne rfl
    simp [hsome] at h
  obtain ⟨hg, rfl⟩ := hchkd
  obtain ⟨-, hholds, hfs⟩ := initializeStore_holds hg
  rw [h] at hholds hfs
  obtain ⟨r, hr⟩ := hholds.replays
  have hsta : r.state = g := by
    have hrep := (replay_genesis_ok.mp hr).2
    rw [replayEntries, Except.ok.injEq, Prod.mk.injEq] at hrep
    exact hrep.1.symm
  have hcp : files'.checkpoint = none := by
    rw [show files' = _ from hfs]
    rfl
  exact ⟨_, recover_holds hholds hcp hr, hsta⟩

/-- **An event that is accepted at the State of the store is appended**, and the store
recovers the next State. -/
theorem Recovered.append (h : Recovered files s) {e : Event} {E : List Evidence} {a : Accepted}
    (ha : reduce s e E = .accepted a) :
    ∃ recovery files', Kernel.append none files ⟨e, E, .accepted a⟩ = (.ok recovery, files') ∧
      recovery.replay.state = a.state ∧ Recovered files' a.state := by
  obtain ⟨g, entries, r, recovery, hholds, hr, rfl, hrecvy⟩ := h.holds
  obtain ⟨hnew, ⟨r', hr', hsta⟩, hholds', r'', hr'', hsta'⟩ := hholds.accepted hr ha
  -- the call recovers with the entry as it was written, a later one with the entry as it is read
  obtain ⟨recovery', hrecvy', hretd⟩ := recoverUnlocked_concat hrecvy rfl hr'
  obtain ⟨recovery'', hrecvy'', hrecv⟩ := recoverUnlocked_concat hrecvy rfl hr''
  refine ⟨recovery', _, append_recovers hholds rfl hnew hr' hrecvy', hretd.trans hsta,
    recovery'', ?_, hrecv.trans hsta'⟩
  exact recover_iff.mpr ⟨g, _, hholds'.loadStore, hrecvy''⟩

/-! ### Rejected appends -/

/-- The checkpoint file is missing, or it is read and agrees with the journal. -/
def CheckpointAgrees (files : Files) (g : State) (entries : List ReplayEntry) : Prop :=
  ∃ found, loadCheckpoint files.checkpoint = .ok found ∧
    ∀ root auth, found = some (root, auth) → Agrees g entries root auth

theorem recoverUnlocked_iff (hr : replay (.genesis g) entries none = .ok r) :
    (∃ recovery, recoverUnlocked files g entries = .ok recovery) ↔
      CheckpointAgrees files g entries := by
  constructor
  · rintro ⟨recovery, h⟩
    obtain ⟨-, -, -, -, hfnd⟩ := of_recoverUnlocked h
    exact hfnd
  · rintro ⟨found, hfnd, hagr⟩
    rw [recoverUnlocked, hr, ok_bind, hfnd, ok_bind]
    cases found with
    | none => exact ⟨_, rfl⟩
    | some checkpoint =>
      obtain ⟨recovery, hrecvy, -⟩ := recoverCheckpoint_of_agrees (hagr _ _ rfl) hr
      exact ⟨recovery, hrecvy⟩

theorem journal_ne (h : Appendable files g entries entry) :
    some (journalBytes (entries ++ [entry])) ≠ files.journal := by
  intro heq
  obtain ⟨_, -, hrest⟩ := bind_eq_ok.mp h.1
  obtain ⟨read, hread, hok⟩ := bind_eq_ok.mp hrest
  cases hok
  have hbytes := getD_of_loadEntries hread
  obtain ⟨text, htext, -⟩ := isLine_canonicalBytes entry.canonical
  rw [← heq, Option.getD_some, journalBytes, journalBytes] at hbytes
  simp [htext] at hbytes

/-- Behind the replacement the call goes on, and what it does there fails or finds a checkpoint
that does not agree. -/
def FailsBehind (fault : Option Fault) (files : Files) (g : State) (entries : List ReplayEntry) :
    Prop :=
  (∃ regular, fault = some (.checkpoint regular)) ∨
    (fault = none ∨ fault = some .unlock) ∧ ¬CheckpointAgrees files g entries

theorem append_fails_behind (h : Appendable files g entries entry) {a : Accepted}
    (ha : entry.result = .accepted a) {fault : Option Fault}
    (hbad : FailsBehind fault files g (entries ++ [entry])) :
    ∃ error, (append fault files entry).1 = .error error ∧ error.outcome = .rejected ∧
      (append fault files entry).2.journal ≠ files.journal := by
  obtain ⟨r, hr⟩ := h.2.2
  have hfail : ∃ raised, recoverReading fault files g (entries ++ [entry]) = .error raised ∧
      (kernelStoreError "Kernel append failed: " raised).outcome = .rejected := by
    rcases hbad with ⟨regular, rfl⟩ | ⟨hfault, hbad⟩
    · refine ⟨_, recoverReading_checkpoint hr regular, ?_⟩
      cases regular <;> rfl
    · cases hrec : recoverUnlocked files g (entries ++ [entry]) with
      | ok recovery => exact absurd ((recoverUnlocked_iff hr).mp ⟨recovery, hrec⟩) hbad
      | error message =>
        refine ⟨.value message, ?_, rfl⟩
        rcases hfault with rfl | rfl
        · rw [recoverReading_none, hrec, Except.mapError]
        · rw [recoverReading_unlock, hrec, Except.mapError]
  obtain ⟨raised, hraised, hrej⟩ := hfail
  -- the replacement is made, and what is raised behind it goes through
  have hfault : fault = none ∨ ∃ f, fault = some f ∧ (f = .unlock ∨ ∃ b, f = .checkpoint b) := by
    rcases hbad with ⟨regular, rfl⟩ | ⟨rfl | rfl, -⟩
    · exact .inr ⟨_, rfl, .inr ⟨regular, rfl⟩⟩
    · exact .inl rfl
    · exact .inr ⟨_, rfl, .inl rfl⟩
  refine ⟨_, ?_, hrej, ?_⟩ <;> simp only [append, ha, appendLocked_appendable h, hraised] <;>
    rcases hfault with rfl | ⟨_, rfl, rfl | ⟨regular, rfl⟩⟩ <;> first | rfl | exact journal_ne h

/-- **A rejected `append` leaves the journal as it was** exactly if a new entry is only
written where nothing fails behind the replacement: `checkpoint.json` is read, and it agrees with
the journal that was written. -/
theorem rejected_unchanged_iff (fault : Option Fault) (files : Files) (entry : ReplayEntry) :
    (∀ error, (append fault files entry).1 = .error error → error.outcome = .rejected →
      (append fault files entry).2.journal = files.journal) ↔
    ∀ g entries a, entry.result = .accepted a → Appendable files g entries entry →
      ¬FailsBehind fault files g (entries ++ [entry]) := by
  constructor
  · intro hkept g entries a ha h hbad
    obtain ⟨error, herror, hrejected, hchanged⟩ := append_fails_behind h ha hbad
    exact hchanged (hkept error herror hrejected)
  · intro hagrees error herror hrejected
    rcases append_cases fault files entry with ⟨hsame, -⟩ | ⟨g, entries, h, -⟩
    · rw [hsame]
    rw [append] at herror ⊢
    split at herror
    case h_2 => rfl
    case h_1 a ha =>
      have hgood := hagrees g entries a ha h
      rw [appendLocked_appendable h] at herror ⊢
      obtain ⟨r, hr⟩ := h.2.2
      have hrecovers := fun hfault =>
        (recoverUnlocked_iff hr).mpr (not_not.mp fun hbad => hgood (.inr ⟨hfault, hbad⟩))
      cases fault with
      | none =>
        obtain ⟨recovery, hrecovery⟩ := hrecovers (.inl rfl)
        rw [recoverReading_none, hrecovery] at herror
        cases herror
      | some fault =>
        cases fault with
        | lock => rfl
        | beforeReplace => rfl
        | afterReplace =>
          cases herror
          cases hrejected
        | unlock =>
          obtain ⟨recovery, hrecovery⟩ := hrecovers (.inr rfl)
          rw [recoverReading_unlock, hrecovery] at herror
          cases herror
          cases hrejected
        | checkpoint regular => exact absurd (.inl ⟨regular, rfl⟩) hgood

/-- **A journal is changed by a call that is rejected**: the checkpoint file cannot be read. -/
theorem rejected_append_changes_journal : ∃ files entry error,
    (append none files entry).1 = .error error ∧ error.outcome = .rejected ∧
      (append none files entry).2.journal ≠ files.journal := by
  obtain ⟨a, -, ha, -⟩ := started_run (Or.inl rfl)
  have hload : loadStore ⟨some (canonicalBytes (genesisCanonical (sampleGenesis []))), none,
      some [], none⟩ = .ok (sampleGenesis [], []) := by
    rw [loadStore, loadGenesis_canonical sampleGenesis_valid]
    rfl
  have hr : replay (.genesis (sampleGenesis [])) [⟨startedEvent, [], .accepted a⟩] none =
      .ok ⟨a.state, [a.resultDigest], [], rfl⟩ :=
    replay_genesis_ok.mpr ⟨sampleGenesis_valid, replayEntries_cons.mpr ⟨a, a, rfl, ha, rfl, rfl⟩⟩
  refine ⟨_, _, append_fails_behind ⟨hload, by simp, _, hr⟩ rfl (.inr ⟨.inl rfl, ?_⟩)⟩
  rintro ⟨found, hfound, -⟩
  cases hfound

end Valp.Kernel
