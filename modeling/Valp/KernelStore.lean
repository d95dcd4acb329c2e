/-
The store of a Kernel journal (`KernelStore` of `valp_cli/kernel_store.py`).

A store is a directory with the canonical genesis, the journal, and files for a
checkpoint and for the effects.  `append` replays the journal together with the new
entry before it writes, so a journal that is on disk always replays; `recover` reads
it back, through a checkpoint if there is one.

* `append_cases` — what `append` can do to the files;
* `Holds` — the store holds a journal that is read back and replays;
* `initializeStore_holds`, `append_holds` — it does so at the start and after every append;
* `append_committed` — an entry that is in the journal is not written again.
-/
import Valp.KernelCodec
import Valp.KernelHistory
import Valp.StoreLock

namespace Valp.Kernel

open Decode
open List

/-! ### Files -/

structure Files where
  genesis : Option Bytes
  journal : Option Bytes
  checkpoint : Option Bytes
  effects : Option Bytes

/-- The directory before `initialize`. -/
def Files.empty : Files := ⟨none, none, none, none⟩

def readCanonical {α : Type} (name : String) (decoder : Json → Except String α)
    (canonical : α → Json) (payload : Bytes) : Except String α := do
  if payload.getLast? ≠ some 10 ∨ 13 ∈ payload ∨ [239, 187, 191] <+: payload then
    .error ("noncanonical Kernel artifact: " ++ name)
  let value ← decoder (← parsePayload payload)
  if payload ≠ canonicalBytes (canonical value) then
    .error ("noncanonical Kernel artifact: " ++ name)
  .ok value

def loadGenesis : Option Bytes → Except String State
  | none => .error "Kernel GenesisRoot is missing"
  | some payload => readCanonical "genesis.json" decodeGenesisRoot genesisCanonical payload

def CheckpointAuthentication.canonical (auth : CheckpointAuthentication) : Json :=
  .record [
    ("schema_version", some (.str "valp-kernel-checkpoint-authentication.v1")),
    ("checkpoint_result", some auth.checkpointResult.canonical),
    ("evidence_set", some (.arr (canonicalEvidence auth.evidenceSet))),
    ("trust_policy", some auth.trustPolicy.canonical)]

/-- The envelope of `checkpoint.json`. -/
def checkpointEnvelope (root : CheckpointRoot) (auth : CheckpointAuthentication) : Json :=
  .record [
    ("schema_version", some (.str "valp-kernel-checkpoint-envelope.v1")),
    ("root", some root.canonical),
    ("authentication", some auth.canonical)]

def loadCheckpoint : Option Bytes →
    Except String (Option (CheckpointRoot × CheckpointAuthentication))
  | none => .ok none
  | some payload => do
    let item ← shape (← parsePayload payload) ["schema_version", "root", "authentication"] []
    if !hasText item "schema_version" "valp-kernel-checkpoint-envelope.v1" then
      .error "unsupported checkpoint envelope"
    let root ← checkpointRoot (← getItem item "root")
    let authentication ← checkpointAuthentication (← getItem item "authentication")
    if payload ≠ canonicalBytes (checkpointEnvelope root authentication) then
      .error "checkpoint envelope is noncanonical"
    .ok (some (root, authentication))

/-! ### Recovery -/

def replayPrefixDigest (entries : List ReplayEntry) : Except String String := do
  let canonicalEntries ← entries.mapM fun entry =>
    match entry.result with
    | .accepted _ => .ok entry.canonical
    | _ => .error "replay prefix requires accepted ReplayEntry records"
  .ok (digest (.record [
    ("schema_version", some (.str "valp-kernel-replay-prefix.v1")),
    ("entries", some (.arr canonicalEntries))]))

structure KernelRecovery where
  replay : Replay
  entries : List ReplayEntry
  usedCheckpoint : Bool

/-- The part of `KernelStore._recover_unlocked` behind a checkpoint. -/
def recoverCheckpoint (genesis : State) (entries : List ReplayEntry) (full : Replay)
    (root : CheckpointRoot) (authentication : CheckpointAuthentication) :
    Except String KernelRecovery := do
  if root.acceptedEntryCount > entries.length then
    .error "checkpoint is ahead of the Kernel journal"
  let count := root.acceptedEntryCount.toNat
  if root.prefixDigest ≠ (← replayPrefixDigest (entries.take count)) then
    .error "checkpoint prefix digest does not match journal"
  let prefixReplay ← Kernel.replay (.genesis genesis) (entries.take count) none
  if prefixReplay.state ≠ root.state then
    .error "checkpoint State does not match journal prefix"
  let recovered ← Kernel.replay (.checkpoint root) (entries.drop count) (some authentication)
  if canonicalJson recovered.state.canonical ≠ canonicalJson full.state.canonical then
    .error "checkpoint recovery differs from full Genesis replay"
  .ok { replay := recovered, entries := entries, usedCheckpoint := true }

def recoverUnlocked (files : Files) (genesis : State) (entries : List ReplayEntry) :
    Except String KernelRecovery := do
  let full ← Kernel.replay (.genesis genesis) entries none
  match ← loadCheckpoint files.checkpoint with
  | none => .ok { replay := full, entries := entries, usedCheckpoint := false }
  | some (root, authentication) => recoverCheckpoint genesis entries full root authentication

/-- What is raised where the checkpoint cannot be read. -/
def checkpointFault (regular : Bool) : Raised :=
  if regular then .value ""
  else .store { code := .ledgerCorrupt, message := "non-regular store path: " }

/-- `KernelStore._recover_unlocked` where the file system may fail. -/
def recoverReading (fault : Option Fault) (files : Files) (genesis : State)
    (entries : List ReplayEntry) : Except Raised KernelRecovery :=
  match fault with
  | some (.checkpoint regular) => do
    let _ ← (Kernel.replay (.genesis genesis) entries none).mapError .value
    .error (checkpointFault regular)
  | _ => (recoverUnlocked files genesis entries).mapError .value

/-- `self._load_genesis()` and `self._load_entries()`. -/
def loadStore (files : Files) : Except String (State × List ReplayEntry) := do
  let genesis ← loadGenesis files.genesis
  let entries ← loadEntries files.journal
  .ok (genesis, entries)

/-! ### Calls -/

/-- The classification of what the body of a call raises. -/
def kernelStoreError (failure : String) : Raised → StoreError
  | .store error => error
  | .value message => { code := .kernelStoreCorrupt, message := failure ++ message }

/-- `KernelStore._replace`. -/
def replaceFile {α : Type} (fault : Option Fault) (files files' : Files)
    (result : Except Raised α) : Session Files α :=
  commit fault "Kernel store replacement failed: " "Kernel store replacement failed: " files files'
    result

section

variable (fault : Option Fault) (files : Files)

/-- The locked part of `KernelStore.initialize`. -/
def initializeLocked (payload : Bytes) :
    Session Files Unit :=
  match files.genesis with
  | some current =>
    { result :=
        if current ≠ payload then
          .error (.store { code := .idempotencyConflict, message := "GenesisRoot differs" })
        else .ok ()
      files := files
      replaced := false }
  | none =>
    if files.journal.isSome ∨ files.checkpoint.isSome ∨ files.effects.isSome then
      { result := .error (.store {
          code := .kernelStoreCorrupt
          message := "history exists without GenesisRoot" })
        files := files
        replaced := false }
    else replaceFile fault files { files with genesis := some payload } (.ok ())

/-- `KernelStore.initialize`. -/
def initializeStore (genesis : State) :
    Except Raised Unit × Files :=
  match Kernel.replay (.genesis genesis) [] none with
  | .error message => (.error (.value message), files)
  | .ok _ =>
    locked fault files (initializeLocked fault files (canonicalBytes (genesisCanonical genesis)))

/-- The locked part of `KernelStore.append`. -/
def appendLocked (entry : ReplayEntry) :
    Session Files KernelRecovery :=
  match loadStore files with
  | .error message => { result := .error (.value message), files := files, replaced := false }
  | .ok (genesis, entries) =>
    match entries.find? fun prior => prior.event.eventId == entry.event.eventId with
    | some prior =>
      { result :=
          if canonicalJson prior.canonical = canonicalJson entry.canonical then
            recoverReading fault files genesis entries
          else
            .error (.store { code := .idempotencyConflict, message := "Event identity differs" })
        files := files
        replaced := false }
    | none =>
      match Kernel.replay (.genesis genesis) (entries ++ [entry]) none with
      | .error message => { result := .error (.value message), files := files, replaced := false }
      | .ok _ =>
        let files' := { files with journal := some (journalBytes (entries ++ [entry])) }
        replaceFile fault files files'
          (recoverReading fault files' genesis (entries ++ [entry]))

end

def append (fault : Option Fault) (files : Files) (entry : ReplayEntry) :
    Except StoreError KernelRecovery × Files :=
  match entry.result with
  | .accepted _ =>
    let (result, files') := locked fault files (appendLocked fault files entry)
    (result.mapError (kernelStoreError "Kernel append failed: "), files')
  | _ =>
    (.error {
      code := .stateConflict
      message := "Kernel journal requires an accepted ReplayEntry" }, files)

/-- The locked part of `KernelStore.recover`. -/
def recoverLocked (fault : Option Fault) (files : Files) : Session Files KernelRecovery where
  result := ((loadStore files).mapError .value).bind fun (genesis, entries) =>
    recoverReading fault files genesis entries
  files := files
  replaced := false

def recover (fault : Option Fault) (files : Files) : Except StoreError KernelRecovery :=
  (locked fault files (recoverLocked fault files)).1.mapError
    (kernelStoreError "Kernel recovery failed: ")

/-! ### The genesis on disk -/

theorem readCanonical_record {α : Type} {name : String} {decoder : Json → Except String α}
    {canonical : α → Json} {fields : List (String × Option Json)} {a : α}
    (hkeys : (Json.record fields).distinctKeys) (ha : canonical a = .record fields)
    (hdecoder : decoder (Json.record fields).sortKeys = .ok a) :
    readCanonical name decoder canonical (canonicalBytes (canonical a)) = .ok a := by
  rw [ha]
  obtain ⟨text, htext, -⟩ := isLine_canonicalBytes (.record fields)
  obtain ⟨rest, hrest⟩ := canonicalBytes_record fields
  have hls : ∀ line ∈ [canonicalBytes (.record fields)], Bytes.IsLine line := by
    simpa using isLine_canonicalBytes _
  have hret : 13 ∉ canonicalBytes (.record fields) := by
    simpa using (Bytes.flatten_lines hls).1
  have hparse : parsePayload (canonicalBytes (.record fields)) =
      .ok (Json.record fields).sortKeys := by
    rw [canonicalBytes, canonicalJson]
    exact parsePayload_text hkeys (by simp [Json.isSpace])
  have hframe : ¬((canonicalBytes (.record fields)).getLast? ≠ some 10 ∨
      13 ∈ canonicalBytes (.record fields) ∨
        [239, 187, 191] <+: canonicalBytes (.record fields)) := by
    rintro (hlast | hmem | hmark)
    · exact hlast (by rw [htext, getLast?_concat])
    · exact hret hmem
    · rw [hrest, cons_prefix_cons] at hmark
      exact absurd hmark.1 (by decide)
  rw [readCanonical, if_neg hframe, hparse, ok_bind, hdecoder, ok_bind, ha,
    if_neg (not_not.mpr rfl)]

theorem loadGenesis_canonical {g : State} (hg : genesisIsValid g) :
    loadGenesis (some (canonicalBytes (genesisCanonical g))) = .ok g := by
  refine readCanonical_record ?_ rfl (decodeGenesisRoot_canonical Json.reorders_sortKeys hg)
  exact Json.distinctKeys_record (by simp) (by simp [distinct_str, State.distinctKeys])

/-! ### The journal on disk -/

variable {out : State × List String} {e : Event} {r : Replay} {a : Accepted}

section Journal

variable {g s : State} {entry entry' : ReplayEntry} {entries : List ReplayEntry}
  {journal : Option Bytes} {files : Files} {fault : Option Fault}

theorem getD_of_loadEntries (h : loadEntries journal = .ok entries) :
    journal.getD [] = journalBytes entries := by
  cases journal with
  | none =>
    cases h
    rfl
  | some payload => exact (journalBytes_of_loadEntries h).symm

theorem loadEntries_concat (h : loadEntries journal = .ok entries)
    (hent : loadLine (canonicalBytes entry.canonical) = .ok entry') :
    loadEntries (some (journalBytes (entries ++ [entry]))) = .ok (entries ++ [entry']) := by
  have hread : (entries.map fun e => canonicalBytes e.canonical).mapM loadLine = .ok entries := by
    cases journal with
    | none =>
      cases h
      rfl
    | some payload =>
      have hbytes := journalBytes_of_loadEntries h
      rw [loadEntries] at h
      split at h
      · cases h
      · rwa [← hbytes, journalBytes, Bytes.splitLines_lines (isLine_lines entries)] at h
  have hls := isLine_lines (entries ++ [entry])
  obtain ⟨hret, hlast⟩ := Bytes.flatten_lines hls
  rw [loadEntries, if_neg, journalBytes, Bytes.splitLines_lines hls, map_append, mapM_append, hread]
  · simp only [map_cons, map_nil, mapM_cons, mapM_nil, hent]
    rfl
  · rintro ⟨hne, hbad | hbad⟩
    · exact hbad (hlast hne)
    · exact hret hbad

/-- The entry read back for one that was replayed at `s`: its evidence in canonical
order, and the Result that the reducer computes. -/
def ReplayEntry.recomputed (entry : ReplayEntry) (s : State) : ReplayEntry where
  event := entry.event
  evidenceSet := sortEvidence entry.evidenceSet
  result := reduce s entry.event entry.evidenceSet

theorem loadLine_replayed (hs : Sound s) (h : replayEntries s [] [entry] = .ok out) :
    loadLine (canonicalBytes entry.canonical) = .ok (entry.recomputed s) ∧
      replayEntries s [] [entry.recomputed s] = .ok out := by
  obtain ⟨recorded, a, hrecd, hred, htext, hrest⟩ := replayEntries_cons.mp h
  have hperm := sortEvidence_perm entry.evidenceSet
  have hres : (entry.recomputed s).result = .accepted a := hred
  have hsame : SameEntry (entry.recomputed s) entry := by
    refine ⟨rfl, hperm, ?_, a, recorded, hres, hrecd, Accepted.canonical_lists htext⟩
    rw [hres, hrecd]
    exact htext
  have hval : EntryValid { entry with result := .accepted a } := by
    have hstep : step s (entry.event, entry.evidenceSet) = some a.state :=
      step_eq_some.mpr ⟨a, hred, rfl⟩
    obtain ⟨_, _, effect, hadm, -, rfl⟩ :=
      (reduce_accepted_iff (x := (entry.event, entry.evidenceSet))).mp hred
    obtain ⟨-, hev, hevid, -⟩ := hadm.inputs
    refine ⟨hev, ?_, (step_valid hs hstep).valid, rfl⟩
    intro v hv
    simp only [evidenceSetIsValid, Bool.and_eq_true, all_eq_true, hasIdentityKind,
      beq_iff_eq] at hevid
    exact (hevid.1 v hv).1
  constructor
  · have hline := loadLine_canonicalBytes hval
    rw [← ReplayEntry.canonical_sorted] at hline
    have hent : ReplayEntry.sorted { entry with result := .accepted a } = entry.recomputed s := by
      rw [ReplayEntry.sorted, ReplayEntry.recomputed, hred]
    rw [hent, canonicalBytes, hsame.text] at hline
    exact hline
  · refine replayEntries_cons.mpr ⟨a, a, hres, ?_, rfl, hrest⟩
    exact (reduce_of_perm hperm).trans hred

/-! ### What a call does -/

/-- An entry is committed when the journal holds it, in whatever order its evidence is. -/
def Committed (entries : List ReplayEntry) (entry : ReplayEntry) : Prop :=
  ∃ prior ∈ entries, canonicalJson prior.canonical = canonicalJson entry.canonical

/-- The entry is new in the store, and the journal replays with it. -/
def Appendable (files : Files) (g : State) (entries : List ReplayEntry) (entry : ReplayEntry) :
    Prop :=
  loadStore files = .ok (g, entries) ∧
    (∀ prior ∈ entries, prior.event.eventId ≠ entry.event.eventId) ∧
    ∃ r, replay (.genesis g) (entries ++ [entry]) none = .ok r

theorem appendLocked_cases (fault : Option Fault) (files : Files) (entry : ReplayEntry) :
    ((appendLocked fault files entry).files = files ∧
      ∀ recovery, (appendLocked fault files entry).result = .ok recovery →
        ∃ g entries, loadStore files = .ok (g, entries) ∧ Committed entries entry) ∨
    ∃ g entries, Appendable files g entries entry ∧ (appendLocked fault files entry).files =
      { files with journal := some (journalBytes (entries ++ [entry])) } := by
  rw [appendLocked]
  -- one case for each way out of the body, in the order of the source
  split
  case h_1 => exact .inl ⟨rfl, fun _ h => by cases h⟩
  case h_2 g entries hload =>
    split
    case h_1 prior hpr =>
      refine .inl ⟨rfl, fun recovery h => ⟨g, entries, hload, prior, mem_of_find?_eq_some hpr, ?_⟩⟩
      by_contra hne
      rw [if_neg hne] at h
      cases h
    case h_2 hnew =>
      split
      case h_1 => exact .inl ⟨rfl, fun _ h => by cases h⟩
      case h_2 r hrep =>
        refine (commit_cases ..).imp (fun hfail => ⟨hfail.1, ?_⟩) fun hmade => ?_
        · exact fun recovery h => absurd h (hfail.2 recovery)
        · refine ⟨g, entries, ⟨hload, ?_, r, hrep⟩, hmade.1⟩
          intro prior hpr
          simpa using List.find?_eq_none.mp hnew prior hpr

/-- **What `append` does to the files**: nothing, and then it succeeds only for an entry
that is in the journal already; or it adds a line for a new entry with which the journal
replays. -/
theorem append_cases (fault : Option Fault) (files : Files) (entry : ReplayEntry) :
    ((append fault files entry).2 = files ∧
      ∀ recovery, (append fault files entry).1 = .ok recovery →
        ∃ g entries, loadStore files = .ok (g, entries) ∧ Committed entries entry) ∨
    ∃ g entries, Appendable files g entries entry ∧ (append fault files entry).2 =
      { files with journal := some (journalBytes (entries ++ [entry])) } := by
  rw [append]
  split
  case h_2 => exact .inl ⟨rfl, fun _ h => by cases h⟩
  rcases locked_cases fault files (appendLocked fault files entry) with
    ⟨hfs, hfail⟩ | ⟨hfs, hretd⟩
  · exact .inl ⟨hfs, fun recovery h => absurd (mapError_eq_ok.mp h) (hfail recovery)⟩
  rcases appendLocked_cases fault files entry with ⟨hsame, hcomd⟩ | ⟨g, entries, hnew, hwr⟩
  · exact .inl ⟨hfs.trans hsame, fun recovery h => hcomd recovery (hretd _ (mapError_eq_ok.mp h))⟩
  · exact .inr ⟨g, entries, hnew, hfs.trans hwr⟩

theorem appendLocked_appendable (h : Appendable files g entries entry) (fault : Option Fault) :
    appendLocked fault files entry =
      replaceFile fault files { files with journal := some (journalBytes (entries ++ [entry])) }
        (recoverReading fault files g (entries ++ [entry])) := by
  obtain ⟨hload, hnew, r, hr⟩ := h
  have hfind : (entries.find? fun prior => prior.event.eventId == entry.event.eventId) = none := by
    rw [find?_eq_none]
    intro prior hpr
    simpa using hnew prior hpr
  rw [appendLocked, hload]
  simp only [hfind, hr]
  rfl

/-- The store of the genesis `g` holds the journal `entries`: it is read back, replays,
and no event is in it twice. -/
structure Holds (g : State) (files : Files) (entries : List ReplayEntry) : Prop where
  valid : genesisIsValid g = true
  genesis : files.genesis = some (canonicalBytes (genesisCanonical g))
  journal : loadEntries files.journal = .ok entries
  replays : ∃ r, replay (.genesis g) entries none = .ok r
  events : (entries.map (·.event.eventId)).Nodup

theorem Holds.loadStore (h : Holds g files entries) : loadStore files = .ok (g, entries) := by
  rw [Kernel.loadStore, h.genesis, loadGenesis_canonical h.valid, h.journal]
  rfl

theorem initializeLocked_empty (payload : Bytes) :
    initializeLocked none .empty payload =
      ⟨.ok (), { Files.empty with genesis := some payload }, true⟩ := by
  simp [initializeLocked, Files.empty, replaceFile, commit_none]

theorem initializeStore_holds (hg : genesisIsValid g) :
    (initializeStore none .empty g).1 = .ok () ∧
      Holds g (initializeStore none .empty g).2 [] ∧
      (initializeStore none .empty g).2 =
        { Files.empty with genesis := some (canonicalBytes (genesisCanonical g)) } := by
  obtain ⟨r, hr⟩ := replay_genesis_nil.mpr hg
  have hcall : initializeStore none .empty g =
      (.ok (), { Files.empty with genesis := some (canonicalBytes (genesisCanonical g)) }) := by
    unfold initializeStore
    generalize canonicalBytes (genesisCanonical g) = payload
    rw [hr]
    show locked none _ (initializeLocked none _ payload) = _
    rw [initializeLocked_empty, locked_none]
  rw [hcall]
  exact ⟨rfl, ⟨hg, rfl, rfl, ⟨r, hr⟩, by simp⟩, rfl⟩

/-- A store that replays to `u` holds one entry more when an entry that replays at `u`
is written behind its journal. -/
theorem Holds.concat (h : Holds g files entries) {u : State} {first : List String}
    (hu : replayEntries g [] entries = .ok (u, first))
    (hent : replayEntries u [] [entry] = .ok out)
    (hnew : ∀ prior ∈ entries, prior.event.eventId ≠ entry.event.eventId) :
    Holds g { files with journal := some (journalBytes (entries ++ [entry])) }
        (entries ++ [entry.recomputed u]) ∧
      replayEntries g [] (entries ++ [entry.recomputed u]) = .ok (out.1, first ++ out.2) ∧
      Committed (entries ++ [entry.recomputed u]) entry := by
  have hsound : Sound u := exec_sound h.valid (replayEntries_exec hu)
  obtain ⟨hline, hrecomputed⟩ := loadLine_replayed hsound hent
  have hrep : replayEntries g [] (entries ++ [entry.recomputed u]) = .ok (out.1, first ++ out.2) :=
    replayEntries_append.mpr ⟨u, first, out.2, hu, hrecomputed, rfl⟩
  refine ⟨⟨h.valid, h.genesis, loadEntries_concat h.journal hline, ?_, ?_⟩, hrep, ?_⟩
  · exact ⟨⟨out.1, first ++ out.2, [], rfl⟩, replay_genesis_ok.mpr ⟨h.valid, hrep⟩⟩
  · refine Table.nodup_concat h.events fun hmem => ?_
    obtain ⟨prior, hpr, hid⟩ := mem_map.mp hmem
    exact hnew prior hpr hid
  · -- the line that is read back is the text of the entry
    exact ⟨entry.recomputed u, by simp, canonicalBytes_injective (of_loadLine hline).1⟩

/-- **One append keeps the journal**, only adds to it, and succeeds only if the entry
is in the journal then. -/
theorem append_holds (h : Holds g files entries) (fault : Option Fault) (entry : ReplayEntry) :
    ∃ new, Holds g (append fault files entry).2 (entries ++ new) ∧
      (append fault files entry).2.checkpoint = files.checkpoint ∧
      (append fault files entry).2.effects = files.effects ∧
      ∀ recovery, (append fault files entry).1 = .ok recovery →
        Committed (entries ++ new) entry := by
  -- the journal that was read is the one the store holds
  have hread : ∀ {g' entries'}, loadStore files = .ok (g', entries') →
      g = g' ∧ entries = entries' := by
    intro g' entries' hload
    rw [h.loadStore, Except.ok.injEq, Prod.mk.injEq] at hload
    exact hload
  rcases append_cases fault files entry with
    ⟨hsame, hcomd⟩ | ⟨g', entries', ⟨hload, hnew, r, hrep⟩, hfs⟩
  · refine ⟨[], ?_, by rw [hsame], by rw [hsame], ?_⟩
    · rw [hsame, append_nil]
      exact h
    · intro recovery hok
      obtain ⟨_, _, hload, hent⟩ := hcomd recovery hok
      obtain ⟨rfl, rfl⟩ := hread hload
      rwa [append_nil]
  · obtain ⟨rfl, rfl⟩ := hread hload
    obtain ⟨u, first, second, hfst, hsnd, -⟩ :=
      replayEntries_append.mp (replay_genesis_ok.mp hrep).2
    obtain ⟨hholds, -, hcomd⟩ := h.concat hfst hsnd hnew
    refine ⟨[entry.recomputed u], ?_, by rw [hfs], by rw [hfs], fun _ _ => hcomd⟩
    rw [hfs]
    exact hholds

theorem Event.text_fields {e' : Event} (h : e.canonical.sortKeys = e'.canonical.sortKeys) :
    e.eventId = e'.eventId ∧ e.expectedRevision = e'.expectedRevision := by
  have hmember : ∀ k (e : Event), e.canonical.sortKeys.member? k =
      (e.canonical.member? k).map Json.sortKeys := fun k e => Json.reorders_sortKeys.member _ k
  have hid : ∀ e : Event, e.canonical.member? "event_id" = some e.eventId.canonical := by
    intro e
    rw [Event.canonical, Json.member?_record (by simp only [List.map]; decide)]
    rfl
  have hrev : ∀ e : Event,
      e.canonical.member? "expected_revision" = some (.int e.expectedRevision) := by
    intro e
    rw [Event.canonical, Json.member?_record (by simp only [List.map]; decide)]
    rfl
  constructor
  · have hvalue := hmember "event_id" e
    rw [h, hmember, hid, hid] at hvalue
    exact (Identity.canonical_injective (Option.some.inj hvalue)).symm
  · have hvalue := hmember "expected_revision" e
    rw [h, hmember, hrev, hrev] at hvalue
    exact (int_injective (Option.some.inj hvalue)).symm

/-- **An entry that is committed is not written again**: the call answers as `recover`
does. -/
theorem appendLocked_committed (h : Holds g files entries) (hent : Committed entries entry)
    (fault : Option Fault) :
    appendLocked fault files entry =
      { result := recoverReading fault files g entries
        files := files
        replaced := false } := by
  obtain ⟨prior, hpr, htext⟩ := hent
  have hid : prior.event.eventId = entry.event.eventId :=
    (Event.text_fields (ReplayEntry.canonical_fields htext).1).1
  -- the entry of that event which the loop meets first is the only one
  have hfind : (entries.find? fun e => e.event.eventId == entry.event.eventId) = some prior := by
    rw [← hid]
    exact (Table.mem_iff_get h.events).mp hpr
  rw [appendLocked, h.loadStore]
  simp only [hfind, htext, if_true]

theorem recoverReading_none :
    recoverReading none files g entries = (recoverUnlocked files g entries).mapError .value := rfl

theorem recoverReading_unlock : recoverReading (some .unlock) files g entries =
    (recoverUnlocked files g entries).mapError .value := rfl

theorem recoverReading_checkpoint (hr : replay (.genesis g) entries none = .ok r)
    (regular : Bool) : recoverReading (some (.checkpoint regular)) files g entries =
      .error (checkpointFault regular) := by
  show ((replay (.genesis g) entries none).mapError Raised.value >>= fun _ => _) = _
  rw [hr]
  rfl

theorem recoverUnlocked_replay (hcp : files.checkpoint = none)
    (hr : replay (.genesis g) entries none = .ok r) :
    recoverUnlocked files g entries =
      .ok { replay := r, entries := entries, usedCheckpoint := false } := by
  rw [recoverUnlocked, hr, ok_bind, hcp, loadCheckpoint, ok_bind]

section

variable (h : Holds g files entries)

include h

theorem recover_holds (hcp : files.checkpoint = none)
    (hr : replay (.genesis g) entries none = .ok r) :
    recover none files = .ok { replay := r, entries := entries, usedCheckpoint := false } := by
  rw [recover, locked_none, recoverLocked, h.loadStore]
  simp only [Except.mapError, Except.bind, recoverReading_none, recoverUnlocked_replay hcp hr]

theorem append_committed (hent : Committed entries entry)
    (ha : entry.result = .accepted a) (fault : Option Fault) :
    (append fault files entry).2 = files := by
  rw [append, ha]
  show (locked fault files (appendLocked fault files entry)).2 = files
  rw [appendLocked_committed h hent]
  exact (locked_cases ..).elim And.left And.left

theorem append_committed_ok (hent : Committed entries entry)
    (ha : entry.result = .accepted a) (hcp : files.checkpoint = none)
    (hr : replay (.genesis g) entries none = .ok r) :
    append none files entry =
      (.ok { replay := r, entries := entries, usedCheckpoint := false }, files) := by
  rw [append, ha]
  show ((locked none files (appendLocked none files entry)).1.mapError _,
    (locked none files (appendLocked none files entry)).2) = _
  rw [locked_none, appendLocked_committed h hent, recoverReading_none,
    recoverUnlocked_replay hcp hr]
  rfl

/-- A new entry with which the journal replays is written, and the call answers as a
recovery of the new files does. -/
theorem append_recovers (ha : entry.result = .accepted a)
    (hnew : ∀ prior ∈ entries, prior.event.eventId ≠ entry.event.eventId)
    (hr : replay (.genesis g) (entries ++ [entry]) none = .ok r) {recovery : KernelRecovery}
    (hrec : recoverUnlocked
      { files with journal := some (journalBytes (entries ++ [entry])) } g (entries ++ [entry]) =
        .ok recovery) :
    append none files entry =
      (.ok recovery, { files with journal := some (journalBytes (entries ++ [entry])) }) := by
  have hbody := appendLocked_appendable ⟨h.loadStore, hnew, r, hr⟩ none
  have hrec : recoverUnlocked files g (entries ++ [entry]) = .ok recovery := hrec
  rw [append, ha, hbody, replaceFile, commit_none, recoverReading_none, hrec, locked_none]
  rfl

theorem append_new (hcp : files.checkpoint = none) (ha : entry.result = .accepted a)
    (hnew : ∀ prior ∈ entries, prior.event.eventId ≠ entry.event.eventId)
    (hr : replay (.genesis g) (entries ++ [entry]) none = .ok r) :
    append none files entry =
      (.ok { replay := r, entries := entries ++ [entry], usedCheckpoint := false },
        { files with journal := some (journalBytes (entries ++ [entry])) }) :=
  append_recovers h ha hnew hr (recoverUnlocked_replay hcp hr)

end

variable {applied : List String} {E : List Evidence}

theorem replayEntries_events
    (h : replayEntries s applied entries = .ok out) :
    out.1.acceptedEvents.map (·.eventId) =
      s.acceptedEvents.map (·.eventId) ++ entries.map (·.event.eventId) := by
  induction entries generalizing s applied with
  | nil =>
    cases h
    simp
  | cons entry entries ih =>
    obtain ⟨_, a, -, hred, -, hrest⟩ := replayEntries_cons.mp h
    obtain ⟨_, _, effect, -, -, rfl⟩ :=
      (reduce_accepted_iff (x := (entry.event, entry.evidenceSet))).mp hred
    rw [ih hrest]
    simp [acceptedResult, nextState, acceptedEvent]

/-- An event that is accepted at the State of the store is new to it; the journal replays
with its entry, as it is written and as it is read back. -/
theorem Holds.accepted (h : Holds g files entries)
    (hr : replay (.genesis g) entries none = .ok r)
    (ha : reduce r.state e E = .accepted a) :
    (∀ prior ∈ entries, prior.event.eventId ≠ e.eventId) ∧
      (∃ r', replay (.genesis g) (entries ++ [⟨e, E, .accepted a⟩]) none = .ok r' ∧
        r'.state = a.state) ∧
      Holds g { files with journal := some (journalBytes (entries ++ [⟨e, E, .accepted a⟩])) }
        (entries ++ [(⟨e, E, .accepted a⟩ : ReplayEntry).recomputed r.state]) ∧
      ∃ r', replay (.genesis g)
        (entries ++ [(⟨e, E, .accepted a⟩ : ReplayEntry).recomputed r.state]) none = .ok r' ∧
          r'.state = a.state := by
  obtain ⟨-, hrep⟩ := replay_genesis_ok.mp hr
  have hent : replayEntries r.state [] [⟨e, E, .accepted a⟩] = .ok (a.state, [a.resultDigest]) :=
    replayEntries_cons.mpr ⟨a, a, rfl, ha, rfl, rfl⟩
  have hnew : ∀ prior ∈ entries, prior.event.eventId ≠ e.eventId := by
    intro prior hpr hid
    obtain ⟨_, _, _, hadm, -, -⟩ := (reduce_accepted_iff (x := (e, E))).mp ha
    have hmem : prior.event.eventId ∈ r.state.acceptedEvents.map (·.eventId) := by
      rw [replayEntries_events hrep]
      exact mem_append_right _ (mem_map_of_mem hpr)
    obtain ⟨accepted, hacc, hsame⟩ := mem_map.mp hmem
    exact absurd (beq_iff_eq.mpr (hsame.trans hid)) (List.find?_eq_none.mp hadm.new _ hacc)
  obtain ⟨hholds, hrep', -⟩ := h.concat hrep hent hnew
  have hfull : replay (.genesis g) (entries ++ [⟨e, E, .accepted a⟩]) none =
      .ok ⟨a.state, r.appliedResultDigests ++ [a.resultDigest], [], rfl⟩ :=
    replay_genesis_ok.mpr ⟨h.valid, replayEntries_append.mpr ⟨r.state, _, _, hrep, hent, rfl⟩⟩
  exact ⟨hnew, ⟨_, hfull, rfl⟩, hholds, ⟨a.state, _, [], rfl⟩,
    replay_genesis_ok.mpr ⟨h.valid, hrep'⟩, rfl⟩

/-- **An event that is accepted at the State of the store is appended**, and the store is
at the next State. -/
theorem append_accepted (h : Holds g files entries) (hcp : files.checkpoint = none)
    (hr : replay (.genesis g) entries none = .ok r)
    (ha : reduce r.state e E = .accepted a) :
    ∃ recovery r' files',
      append none files ⟨e, E, .accepted a⟩ = (.ok recovery, files') ∧
      recovery.replay.state = a.state ∧
      Holds g files' (entries ++ [(⟨e, E, .accepted a⟩ : ReplayEntry).recomputed r.state]) ∧
      files'.checkpoint = none ∧ files'.effects = files.effects ∧
      replay (.genesis g) (entries ++ [(⟨e, E, .accepted a⟩ : ReplayEntry).recomputed r.state])
        none = .ok r' ∧ r'.state = a.state := by
  obtain ⟨hnew, ⟨r', hr', hsta⟩, hholds, r'', hr'', hsta'⟩ := h.accepted hr ha
  exact ⟨_, r'', _, append_new h hcp rfl hnew hr', hsta, hholds, hcp, rfl, hr'', hsta'⟩

/-! ### Revisions -/

/-- The entries of a journal expect one revision after the other. -/
theorem replayEntries_expected
    (h : replayEntries s applied entries = .ok out) :
    (entries.map (·.event.expectedRevision)).Pairwise (· < ·) ∧
      ∀ e ∈ entries, s.revision ≤ e.event.expectedRevision := by
  induction entries generalizing s applied with
  | nil => simp
  | cons entry entries ih =>
    obtain ⟨_, a, -, hred, -, hrest⟩ := replayEntries_cons.mp h
    obtain ⟨hlat, hbd⟩ := ih hrest
    have hstep : step s (entry.event, entry.evidenceSet) = some a.state :=
      step_eq_some.mpr ⟨a, hred, rfl⟩
    have hnext := step_revision hstep
    obtain ⟨_, _, _, hadm, -, -⟩ := step_iff.mp hstep
    have hfst : entry.event.expectedRevision = s.revision := hadm.revision
    constructor
    · rw [map_cons, pairwise_cons]
      refine ⟨?_, hlat⟩
      intro n hn
      obtain ⟨e, he, rfl⟩ := mem_map.mp hn
      have := hbd e he
      omega
    · intro e he
      rcases mem_cons.mp he with rfl | he
      · omega
      · have := hbd e he
        omega

/-- At most one entry of a journal expects a given revision. -/
theorem Holds.expected_injective (h : Holds g files entries) {x y : ReplayEntry}
    (hx : x ∈ entries) (hy : y ∈ entries)
    (hxy : x.event.expectedRevision = y.event.expectedRevision) : x = y := by
  obtain ⟨r, hr⟩ := h.replays
  have hpairwise := (replayEntries_expected (replay_genesis_ok.mp hr).2).1
  have hnd : (entries.map (·.event.expectedRevision)).Nodup := hpairwise.imp fun hlt => hlt.ne
  exact inj_on_of_nodup_map hnd hx hy hxy

end Journal

end Valp.Kernel
