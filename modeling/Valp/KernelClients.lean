/-
Clients that share a store (`KernelStore.append` of `valp_cli/kernel_store.py` and
`_append` of `valp_cli/kernel_runtime.py`).

Each call of the store is atomic, but the cycle of a client is not: it recovers a
State, reduces an event against it and appends the entry, and between these steps any
other client may have appended.  A step of the world is one step of one client, and a
run is any interleaving of them.  An append may fail in every way the file system can
fail, and may be repeated at any later time.

* `no_forked_updates` — no update is lost or forked.
-/
import Valp.KernelStore

namespace Valp.Kernel

/-! ### The world -/

/-- What a client remembers: the State it read last, and the entries it computed. -/
structure Client where
  state : Option State
  outbox : List ReplayEntry

/-- The store, and the memories of the clients `ι`. -/
structure World (ι : Type) where
  files : Files
  client : ι → Client

/-- One step of one client. -/
inductive Action (ι : Type) where
  /-- Read the State of the store. -/
  | recover (c : ι) (fault : Option Fault)
  /-- Reduce an event against the State that was read, which may be stale. -/
  | reduce (c : ι) (event : Event) (evidenceSet : List Evidence)
  /-- Append the `n`-th entry that was computed, for the first time or again. -/
  | append (c : ι) (n : Nat) (fault : Option Fault)

/-- An initialized store, and clients that have done nothing. -/
def World.start {ι : Type} (g : State) : World ι where
  files := (initializeStore none .empty g).2
  client _ := { state := none, outbox := [] }

/-- The entry is what the reducer accepts at some State of revision `n`. -/
def ComputedAt (n : Int) (entry : ReplayEntry) : Prop :=
  ∃ s accepted, s.revision = n ∧ reduce s entry.event entry.evidenceSet = .accepted accepted ∧
    entry.result = .accepted accepted

/-- The store holds the journal `entries`, without a checkpoint, and the clients only
hold entries that were computed. -/
structure World.Good {ι : Type} (g : State) (entries : List ReplayEntry) (w : World ι) :
    Prop where
  holds : Holds g w.files entries
  checkpoint : w.files.checkpoint = none
  outbox : ∀ c, ∀ x ∈ (w.client c).outbox, ∃ n, ComputedAt n x

theorem World.start_good {ι : Type} {g : State} (hg : genesisIsValid g) :
    (World.start g : World ι).Good g [] := by
  obtain ⟨-, hholds, hfs⟩ := initializeStore_holds hg
  refine ⟨hholds, ?_, fun c x hx => ?_⟩
  · rw [World.start, hfs]
    rfl
  · cases hx

/-! ### Steps -/

variable {ι : Type} [DecidableEq ι] {g : State} {w w' : World ι} {a : Action ι}
  {entries : List ReplayEntry}

/-- The world with another memory of the client `c`. -/
def World.setClient (w : World ι) (c : ι) (client : Client) : World ι :=
  { w with client := Function.update w.client c client }

/-- A step; a client without a State has nothing to reduce against, and without an entry
nothing to append. -/
def World.step (w : World ι) : Action ι → Option (World ι)
  | .recover c fault =>
    match recover fault w.files with
    | .ok recovery => some (w.setClient c { w.client c with state := some recovery.replay.state })
    | .error _ => some w
  | .reduce c event evidenceSet =>
    match (w.client c).state with
    | none => none
    | some s =>
      match reduce s event evidenceSet with
      | .accepted accepted => some (w.setClient c { w.client c with
          outbox := (w.client c).outbox ++ [⟨event, evidenceSet, .accepted accepted⟩] })
      | _ => some w
  | .append c n fault =>
    match (w.client c).outbox[n]? with
    | none => none
    | some entry =>
      match append fault w.files entry with
      | (.ok recovery, files) => some ({ w with files := files }.setClient c
          { w.client c with state := some recovery.replay.state })
      | (.error _, files) => some { w with files := files }

theorem World.setClient_self (w : World ι) (c : ι) (client : Client) :
    (w.setClient c client).client c = client :=
  Function.update_self ..

theorem World.setClient_of_ne (w : World ι) {c c' : ι} (h : c' ≠ c) (client : Client) :
    (w.setClient c client).client c' = w.client c' :=
  Function.update_of_ne h ..

theorem World.step_files (h : w.step a = some w') :
    w'.files = w.files ∨ ∃ fault entry, w'.files = (append fault w.files entry).2 := by
  cases a with
  | recover c fault =>
    rw [World.step] at h
    split at h <;> cases h <;> exact .inl rfl
  | reduce c event evidenceSet =>
    rw [World.step] at h
    split at h
    · cases h
    · split at h <;> cases h <;> exact .inl rfl
  | append c n fault =>
    rw [World.step] at h
    split at h
    · cases h
    rename_i entry _
    refine .inr ⟨fault, entry, ?_⟩
    split at h <;> rename_i happ <;> cases h <;> rw [happ]
    rfl

theorem World.step_outbox (h : w.step a = some w')
    (hw : ∀ c, ∀ x ∈ (w.client c).outbox, ∃ n, ComputedAt n x) :
    ∀ c, ∀ x ∈ (w'.client c).outbox, ∃ n, ComputedAt n x := by
  -- it is enough to look at the client that moves
  have hset : ∀ (v : World ι) c client, v.client = w.client →
      (∀ x ∈ client.outbox, ∃ n, ComputedAt n x) →
      ∀ c', ∀ x ∈ ((v.setClient c client).client c').outbox, ∃ n, ComputedAt n x := by
    intro v c client hv hclient c' x hx
    by_cases hc : c' = c
    · subst hc
      rw [World.setClient_self] at hx
      exact hclient x hx
    · rw [World.setClient_of_ne v hc, hv] at hx
      exact hw c' x hx
  cases a with
  | recover c fault =>
    rw [World.step] at h
    split at h <;> cases h
    · exact hset w c _ rfl (hw c)
    · exact hw
  | reduce c event evidenceSet =>
    rw [World.step] at h
    split at h
    · cases h
    rename_i s _
    split at h <;> cases h
    · rename_i accepted hacc
      exact hset w c _ rfl (List.forall_mem_append.mpr ⟨hw c,
        List.forall_mem_singleton.mpr ⟨s.revision, s, accepted, rfl, hacc, rfl⟩⟩)
    · exact hw
  | append c n fault =>
    rw [World.step] at h
    split at h
    · cases h
    split at h <;> cases h
    · exact hset _ c _ rfl (hw c)
    · exact hw

/-! ### Runs -/

theorem World.step_good (hw : w.Good g entries)
    (h : w.step a = some w') : ∃ new, w'.Good g (entries ++ new) := by
  have houtbox := World.step_outbox h hw.outbox
  rcases World.step_files h with hfs | ⟨fault, entry, hfs⟩
  · refine ⟨[], ?_, hfs ▸ hw.checkpoint, houtbox⟩
    rw [List.append_nil, hfs]
    exact hw.holds
  obtain ⟨new, hholds, hcp, -⟩ := append_holds hw.holds fault entry
  refine ⟨new, ?_, ?_, houtbox⟩
  · rw [hfs]
    exact hholds
  · rw [hfs, hcp, hw.checkpoint]

/-- **Every run keeps the journal** and only adds to it. -/
theorem exec_good {actions : List (Action ι)} (hw : w.Good g entries)
    (h : Run.exec World.step w actions = some w') :
    ∃ new, w'.Good g (entries ++ new) := by
  refine Run.exec_invariant (I := fun v : World ι => ∃ new, v.Good g (entries ++ new)) ?_
    ⟨[], by rwa [List.append_nil]⟩ h
  rintro u b v ⟨new, hu⟩ hstep
  obtain ⟨more, hv⟩ := World.step_good hu hstep
  exact ⟨new ++ more, by rwa [← List.append_assoc]⟩

theorem journalBytes_append (entries new : List ReplayEntry) :
    journalBytes (entries ++ new) = journalBytes entries ++ journalBytes new := by
  rw [journalBytes, journalBytes, journalBytes, List.map_append, List.flatten_append]

theorem ComputedAt.expected {n : Int} {x : ReplayEntry} (h : ComputedAt n x) :
    x.event.expectedRevision = n := by
  obtain ⟨s, accepted, rfl, hred, -⟩ := h
  obtain ⟨_, _, _, hadm, -, -⟩ := (reduce_accepted_iff (x := (x.event, x.evidenceSet))).mp hred
  exact hadm.revision

/-- **No lost or forked updates.**  For any number of clients and any interleaving of
their steps, at every point `w` of a run and every later point `w'`: the journal replays
from the genesis, and the later one extends the earlier one, also as bytes; of the entries
computed at one revision at most one is ever committed; an append that succeeds commits
its entry; and appending a committed entry again changes no file, however the file system
fails, and returns the State that `recover` returns. -/
theorem no_forked_updates (hg : genesisIsValid g = true) {before after : List (Action ι)}
    (hbefore : Run.exec World.step (World.start g) before = some w)
    (hafter : Run.exec World.step w after = some w') :
    ∃ entries entries' r r',
      loadStore w.files = .ok (g, entries) ∧ replay (.genesis g) entries none = .ok r ∧
      loadStore w'.files = .ok (g, entries') ∧ replay (.genesis g) entries' none = .ok r' ∧
      entries <+: entries' ∧ w.files.journal.getD [] <+: w'.files.journal.getD [] ∧
      (∀ c, ∀ x ∈ (w'.client c).outbox, ∃ n, ComputedAt n x) ∧
      (∀ n x y, ComputedAt n x → ComputedAt n y → Committed entries x → Committed entries' y →
        canonicalJson x.canonical = canonicalJson y.canonical) ∧
      (∀ fault x recovery, (append fault w'.files x).1 = .ok recovery →
        ∃ later, loadStore (append fault w'.files x).2 = .ok (g, later) ∧ Committed later x) ∧
      ∀ n x, ComputedAt n x → Committed entries x →
        (∀ fault, (append fault w'.files x).2 = w'.files) ∧
        (append none w'.files x).1 = recover none w'.files ∧
        (append none w'.files x).1 =
          .ok { replay := r', entries := entries', usedCheckpoint := false } := by
  obtain ⟨entries, hw⟩ := exec_good (World.start_good hg) hbefore
  rw [List.nil_append] at hw
  obtain ⟨new, hw'⟩ := exec_good hw hafter
  obtain ⟨r, hr⟩ := hw.holds.replays
  obtain ⟨r', hr'⟩ := hw'.holds.replays
  have hlater : ∀ x, Committed entries x → Committed (entries ++ new) x := by
    rintro x ⟨prior, hprior, htext⟩
    exact ⟨prior, List.mem_append_left _ hprior, htext⟩
  refine ⟨entries, entries ++ new, r, r', hw.holds.loadStore, hr, hw'.holds.loadStore, hr',
    List.prefix_append _ _, ?_, hw'.outbox, ?_, ?_, ?_⟩
  · rw [getD_of_loadEntries hw.holds.journal, getD_of_loadEntries hw'.holds.journal,
      journalBytes_append]
    exact List.prefix_append _ _
  · intro n x y hx hy hcx hcy
    obtain ⟨p, hp, hpx⟩ := hlater x hcx
    obtain ⟨q, hq, hqy⟩ := hcy
    -- both lines expect the revision `n`, so they are one line
    have hexpected : p.event.expectedRevision = q.event.expectedRevision := by
      rw [(Event.text_fields (ReplayEntry.canonical_fields hpx).1).2,
        (Event.text_fields (ReplayEntry.canonical_fields hqy).1).2, hx.expected, hy.expected]
    obtain rfl := hw'.holds.expected_injective hp hq hexpected
    exact hpx.symm.trans hqy
  · intro fault x recovery hok
    obtain ⟨more, hholds, -, -, hcommitted⟩ := append_holds hw'.holds fault x
    exact ⟨_, hholds.loadStore, hcommitted recovery hok⟩
  · rintro n x ⟨s, accepted, -, -, haccepted⟩ hx
    have hok := append_committed_ok hw'.holds (hlater x hx) haccepted hw'.checkpoint hr'
    refine ⟨append_committed hw'.holds (hlater x hx) haccepted, ?_, by rw [hok]⟩
    rw [hok, recover_holds hw'.holds hw'.checkpoint hr']

/-! ### Two clients -/

theorem World.step_recover (h : Holds g w.files entries) (hcp : w.files.checkpoint = none)
    {r : Replay} (hr : replay (.genesis g) entries none = .ok r) (c : ι) :
    w.step (.recover c none) =
      some (w.setClient c { w.client c with state := some r.state }) := by
  rw [World.step, recover_holds h hcp hr]

theorem World.step_reduce {c : ι} {s : State} {e : Event} {E : List Evidence} {accepted : Accepted}
    (hs : (w.client c).state = some s) (h : reduce s e E = .accepted accepted) :
    w.step (.reduce c e E) = some (w.setClient c { w.client c with
      outbox := (w.client c).outbox ++ [⟨e, E, .accepted accepted⟩] }) := by
  rw [World.step, hs]
  simp only [h]

theorem World.step_append {c : ι} {n : Nat} {entry : ReplayEntry}
    (h : (w.client c).outbox[n]? = some entry) (fault : Option Fault) :
    ∃ w', w.step (.append c n fault) = some w' ∧
      w'.files = (Kernel.append fault w.files entry).2 ∧
      ∀ c', (w'.client c').outbox = (w.client c').outbox := by
  rw [World.step, h]
  dsimp only
  rcases Kernel.append fault w.files entry with ⟨result, files⟩
  cases result with
  | error error => exact ⟨_, rfl, rfl, fun _ => rfl⟩
  | ok recovery =>
    refine ⟨_, rfl, rfl, fun c' => ?_⟩
    by_cases hc : c' = c
    · rw [hc, World.setClient_self]
    · rw [World.setClient_of_ne _ hc]

/-- Both clients read the empty store, compute an entry each, and the first appends. -/
theorem exists_race {x y : ReplayEntry} {a b : Accepted} (hg : genesisIsValid g)
    (hx : reduce g x.event x.evidenceSet = .accepted a) (hax : x.result = .accepted a)
    (hy : reduce g y.event y.evidenceSet = .accepted b) (hby : y.result = .accepted b) :
    ∃ w w' : World Bool,
      Run.exec World.step (World.start g) [.recover false none, .recover true none,
        .reduce false x.event x.evidenceSet, .reduce true y.event y.evidenceSet,
        .append false 0 none] = some w ∧
      Run.exec World.step w [.append true 0 none, .append false 0 none] = some w' ∧
      ∃ entries, loadStore w.files = .ok (g, entries) ∧ Committed entries x := by
  have hstart : (World.start g : World Bool).Good g [] := World.start_good hg
  obtain ⟨r, hr⟩ := hstart.holds.replays
  have hsta : r.state = g := by
    obtain ⟨-, hnil⟩ := replay_genesis_ok.mp hr
    simp only [replayEntries, Except.ok.injEq, Prod.mk.injEq] at hnil
    exact hnil.1.symm
  obtain ⟨xe, xv, xr⟩ := x
  obtain ⟨ye, yv, yr⟩ := y
  subst hax hby hsta
  -- the store is not touched before the first append
  let w1 := (World.start r.state : World Bool).setClient false ⟨some r.state, []⟩
  let w2 := w1.setClient true ⟨some r.state, []⟩
  let w3 := w2.setClient false ⟨some r.state, [⟨xe, xv, .accepted a⟩]⟩
  let w4 := w3.setClient true ⟨some r.state, [⟨ye, yv, .accepted b⟩]⟩
  have h1 : (World.start r.state).step (.recover false none) = some w1 :=
    World.step_recover hstart.holds hstart.checkpoint hr false
  have h2 : w1.step (.recover true none) = some w2 :=
    World.step_recover (w := w1) hstart.holds hstart.checkpoint hr true
  have h3 : w2.step (.reduce false xe xv) = some w3 := World.step_reduce rfl hx
  have h4 : w3.step (.reduce true ye yv) = some w4 := World.step_reduce rfl hy
  have hrep : ∃ r', replay (.genesis r.state) ([] ++ [⟨xe, xv, .accepted a⟩]) none = .ok r' := by
    refine ⟨⟨a.state, [a.resultDigest], [], rfl⟩, replay_genesis_ok.mpr ⟨hg, ?_⟩⟩
    exact replayEntries_cons.mpr ⟨a, a, rfl, hx, rfl, rfl⟩
  obtain ⟨r', hr'⟩ := hrep
  have hnew := append_new hstart.holds hstart.checkpoint rfl (by simp) hr'
  obtain ⟨w5, h5, hfs, hbox⟩ := World.step_append (w := w4) (c := false) (n := 0) rfl none
  obtain ⟨new, hholds, -, -, hcomd⟩ := append_holds hstart.holds none ⟨xe, xv, .accepted a⟩
  obtain ⟨w6, h6, -, hbox'⟩ := World.step_append (w := w5) (c := true) (n := 0)
    (by rw [hbox]; rfl) none
  obtain ⟨w7, h7, -, -⟩ := World.step_append (w := w6) (c := false) (n := 0)
    (by rw [hbox', hbox]; rfl) none
  refine ⟨w5, w7, ?_, ?_, new, ?_, hcomd _ (by rw [hnew])⟩
  · simp only [Run.exec, h1, h2, h3, h4, h5, Option.bind_some]
  · simp only [Run.exec, h6, h7, Option.bind_some]
  · rw [hfs]
    exact hholds.loadStore

/-- Two clients that read the same State and send the first event with different
evidence: the first append wins, and the second is refused for good. -/
theorem no_forked_updates_two_clients :
    ∃ (x y : ReplayEntry) (w w' : World Bool) (entries' : List ReplayEntry),
      ComputedAt 0 x ∧ ComputedAt 0 y ∧
      Run.exec World.step (World.start (sampleGenesis [])) [.recover false none,
        .recover true none, .reduce false startedEvent [], .reduce true startedEvent sampleEvidence,
        .append false 0 none] = some w ∧
      Run.exec World.step w [.append true 0 none, .append false 0 none] = some w' ∧
      loadStore w'.files = .ok (sampleGenesis [], entries') ∧
      Committed entries' x ∧ ¬Committed entries' y := by
  obtain ⟨a, -, ha, -, -⟩ := started_run (Or.inl rfl)
  obtain ⟨b, -, hb, -, -⟩ := started_run (Or.inr rfl)
  have hx : ComputedAt 0 ⟨startedEvent, [], .accepted a⟩ := ⟨sampleGenesis [], a, rfl, ha, rfl⟩
  have hy : ComputedAt 0 ⟨startedEvent, sampleEvidence, .accepted b⟩ :=
    ⟨sampleGenesis [], b, rfl, hb, rfl⟩
  obtain ⟨w, w', hw, hw', before, hbefore, hcommitted⟩ :=
    exists_race (x := ⟨startedEvent, [], .accepted a⟩)
      (y := ⟨startedEvent, sampleEvidence, .accepted b⟩) sampleGenesis_valid ha rfl hb rfl
  obtain ⟨entries, entries', _, _, hload, -, hload', -, hgrows, -, -, hunique, -⟩ :=
    no_forked_updates sampleGenesis_valid hw hw'
  obtain rfl : before = entries := by
    rw [hbefore, Except.ok.injEq, Prod.mk.injEq] at hload
    exact hload.2
  refine ⟨_, _, w, w', entries', hx, hy, hw, hw', hload', ?_, fun hlost => ?_⟩
  · obtain ⟨prior, hprior, htext⟩ := hcommitted
    exact ⟨prior, hgrows.subset hprior, htext⟩
  · have hperm := (ReplayEntry.canonical_fields (hunique 0 _ _ hx hy hcommitted hlost)).2.1
    exact absurd hperm.length_eq (by simp [sampleEvidence])

end Valp.Kernel
