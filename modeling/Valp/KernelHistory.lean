/-
Checkpoints and the history behind a State.

`replay` starts from a genesis or from a checkpoint that carries its own
authentication.  Both ways recompute the entries they are given with the same
reducer, so a checkpoint that holds the State of a prefix continues exactly as the
full journal does.  In the other direction the State reached determines the journal:
its record of accepted events holds a digest of every input.

* `checkpoint_recovery` — recovery from a checkpoint is full replay;
* `history_committed` — two journals that reach the same State are the same in
  canonical form.
-/
import Valp.KernelIdempotent
import Valp.KernelObligations

namespace Valp.Kernel

open List

variable {s t g : State} {x : Input} {e : Event} {kind : EventKind} {E E' : List Evidence}
  {es fs : List ReplayEntry} {r q : Replay}

/-! ### Revisions -/

theorem step_revision (h : step s x = some t) : t.revision = s.revision + 1 := by
  obtain ⟨_, _, effect, -, -, rfl⟩ := step_iff.mp h
  rfl

variable {applied out : List String} {y : Input} {u : State}

theorem replayEntries_revision
    (h : replayEntries s applied es = .ok (t, out)) : t.revision = s.revision + es.length := by
  induction es generalizing s applied with
  | nil =>
    obtain ⟨rfl, -⟩ : s = t ∧ applied = out := by simpa [replayEntries] using h
    simp
  | cons entry es ih =>
    obtain ⟨_, recomputed, -, hred, -, hrest⟩ := replayEntries_cons.mp h
    have hstep : step s (entry.event, entry.evidenceSet) = some recomputed.state :=
      step_eq_some.mpr ⟨recomputed, hred, rfl⟩
    rw [ih hrest, step_revision hstep, length_cons]
    push_cast
    omega

/-! ### Checkpoints -/

/-- The policy that trusts one evidence identity. -/
def trustOne : CheckpointTrustPolicy where
  trustedEvidenceIds := [ident .evidence "checkpoint"]
  ids_ne := by simp
  ids_kind := by simp [ident]
  ids_nodup := by simp

/-- **Every State with a history has an authenticated checkpoint.** -/
theorem exists_checkpoint (hs : Sound s) (hhist : s.acceptedEvents ≠ []) :
    ∃ (root : CheckpointRoot) (auth : CheckpointAuthentication), root.state = s ∧
      checkpointAuthenticationIsValid root (some auth) := by
  obtain ⟨init, tail, htail⟩ := (eq_nil_or_concat' s.acceptedEvents).resolve_left hhist
  have hlast : s.acceptedEvents.getLast? = some tail := by
    rw [htail, getLast?_concat]
  have htailvalid := hs.valid.accepted tail (by simp [htail])
  simp only [acceptedEventIsValid, Bool.and_eq_true] at htailvalid
  obtain ⟨⟨⟨hev, hres⟩, -⟩, hdig⟩ := htailvalid
  have hrev : 1 ≤ s.revision := by
    have := hs.valid.revision
    rw [htail, length_append] at this
    simp only [length_singleton] at this
    omega
  -- the bindings name the last accepted event
  let bindings : CheckpointBindings := {
    state := s
    acceptedEntryCount := s.revision
    prefixDigest := digest .null
    tailEventId := tail.eventId
    tailResultId := tail.resultId
    tailResultDigest := tail.resultDigest
    checkpointResultId := tail.resultId
    trustPolicyDigest := trustOne.digest }
  have hval : checkpointRootIsValid bindings := by
    simp only [checkpointRootIsValid, bindings, stateIsValid_iff.mpr hs.valid, hrev, hev,
      hres, hdig, hlast, ← hs.valid.revision, isDigest_digest, CheckpointTrustPolicy.digest]
    simp
  let root : CheckpointRoot := { toCheckpointBindings := bindings, valid := hval }
  let accepted : Accepted := {
    resultId := tail.resultId
    state := s
    inputDigest := tail.inputDigest
    resultDigest := tail.resultDigest }
  -- the evidence is a statement about this root and this Result
  let auth : CheckpointAuthentication := {
    checkpointResult := .accepted accepted
    evidenceSet := [⟨ident .evidence "checkpoint",
      statementDigestFor root (.accepted accepted) trustOne⟩]
    trustPolicy := trustOne
    evidence_nodup := by simp }
  refine ⟨root, auth, rfl, ?_⟩
  have hroot : checkpointRootIsValid root.toCheckpointBindings := hval
  have hevid : evidenceSetIsValid auth.evidenceSet := by
    simp [evidenceSetIsValid, auth, hasIdentityKind, ident, statementDigestFor]
  simp only [checkpointAuthenticationIsValid, auth, hroot, Bool.true_and] at hevid ⊢
  rw [hevid]
  simp [root, bindings, accepted, trustOne]

/-- **Checkpoint recovery is full replay.**  Let `root` hold the State that the entries
`es` lead to from the genesis `g`, and let it be authenticated.  Then the entries `fs`
replay from `root` exactly if `es ++ fs` replays from `g`, with the same State, and
the digests applied in full are those of the two parts.  In every successful replay
the revision is the number of entries since the genesis. -/
theorem checkpoint_recovery {root : CheckpointRoot} {auth : CheckpointAuthentication}
    (hes : replay (.genesis g) es none = .ok r) (hroot : root.state = r.state)
    (hauth : checkpointAuthenticationIsValid root (some auth) = true) (fs : List ReplayEntry) :
    ((∃ q, replay (.checkpoint root) fs (some auth) = .ok q) ↔
      ∃ f, replay (.genesis g) (es ++ fs) none = .ok f) ∧
    (∀ q f, replay (.checkpoint root) fs (some auth) = .ok q →
      replay (.genesis g) (es ++ fs) none = .ok f →
      q.state = f.state ∧
        f.appliedResultDigests = r.appliedResultDigests ++ q.appliedResultDigests ∧
        q.state.revision = (es ++ fs).length ∧ f.state.revision = (es ++ fs).length) ∧
    r.state.revision = es.length := by
  obtain ⟨hg, hbefore⟩ := replay_genesis_ok.mp hes
  have hzero : g.revision = 0 := (genesisIsValid_iff.mp hg).2.2.1
  have hcount : ∀ entries f, replay (.genesis g) entries none = .ok f →
      f.state.revision = entries.length := by
    intro entries f hf
    have hrevision := replayEntries_revision (replay_genesis_ok.mp hf).2
    omega
  -- the suffix continues from the same State on both sides
  have hfull : ∀ f, replay (.genesis g) (es ++ fs) none = .ok f ↔ ∃ second,
      replayEntries r.state [] fs = .ok (f.state, second) ∧
        f.appliedResultDigests = r.appliedResultDigests ++ second := by
    intro f
    rw [replay_genesis_ok, replayEntries_append]
    constructor
    · rintro ⟨-, u, first, second, hfirst, hsecond, happlied⟩
      obtain ⟨rfl, rfl⟩ : r.state = u ∧ r.appliedResultDigests = first := by
        rw [hbefore] at hfirst
        simpa using hfirst
      exact ⟨second, hsecond, happlied⟩
    · rintro ⟨second, hsecond, happlied⟩
      exact ⟨hg, r.state, _, second, hbefore, hsecond, happlied⟩
  have hsuffix : ∀ q, replay (.checkpoint root) fs (some auth) = .ok q ↔
      replayEntries r.state [] fs = .ok (q.state, q.appliedResultDigests) := by
    intro q
    rw [replay_checkpoint_ok, hroot]
    exact and_iff_right hauth
  refine ⟨⟨?_, ?_⟩, ?_, hcount es r hes⟩
  · rintro ⟨q, hq⟩
    exact ⟨{ state := q.state,
              appliedResultDigests := r.appliedResultDigests ++ q.appliedResultDigests },
      (hfull _).mpr ⟨_, (hsuffix q).mp hq, rfl⟩⟩
  · rintro ⟨f, hf⟩
    obtain ⟨second, hsecond, -⟩ := (hfull f).mp hf
    exact ⟨{ state := f.state, appliedResultDigests := second }, (hsuffix _).mpr hsecond⟩
  · intro q f hq hf
    obtain ⟨second, hsecond, happlied⟩ := (hfull f).mp hf
    rw [(hsuffix q).mp hq, Except.ok.injEq, Prod.mk.injEq] at hsecond
    obtain ⟨hstate, rfl⟩ := hsecond
    have hrevision := hcount _ f hf
    exact ⟨hstate, happlied, hstate ▸ hrevision, hrevision⟩

/-- The checkpoint after the first event of a Task recovers the State after the second. -/
theorem checkpoint_recovery_started : ∃ es fs r root auth q f, es ≠ [] ∧ fs ≠ [] ∧
      replay (.genesis (sampleGenesis [])) es none = .ok r ∧ root.state = r.state ∧
      checkpointAuthenticationIsValid root (some auth) = true ∧
      replay (.checkpoint root) fs (some auth) = .ok q ∧
      replay (.genesis (sampleGenesis [])) (es ++ fs) none = .ok f ∧ q.state = f.state := by
  obtain ⟨a, s, ha, hs, -⟩ := started_run (Or.inl rfl)
  have hfirst : Run.exec step (sampleGenesis []) [(startedEvent, [])] = some a.state :=
    Run.exec_cons.mpr ⟨_, step_eq_some.mpr ⟨a, ha, rfl⟩, Run.exec_nil _⟩
  obtain ⟨r, hr, hstate⟩ := replay_journal sampleGenesis_valid hfirst
  have hsound := exec_sound sampleGenesis_valid hfirst
  have hhistory : a.state.acceptedEvents ≠ [] := by
    obtain ⟨_, _, effect, -, -, rfl⟩ := (reduce_accepted_iff (x := (startedEvent, []))).mp ha
    simp [acceptedResult, nextState]
  obtain ⟨root, auth, hroot, hauth⟩ := exists_checkpoint hsound hhistory
  rw [← hroot] at hs
  obtain ⟨applied, hrest⟩ := replayEntries_journal [] hs
  obtain ⟨hiff, hsame, -⟩ := checkpoint_recovery hr (hroot.trans hstate.symm) hauth
    (journal root.state [(passedEvent, [])])
  have hq := (replay_checkpoint_ok (r := ⟨s, applied, [], rfl⟩)).mpr ⟨hauth, hrest⟩
  obtain ⟨f, hf⟩ := hiff.mp ⟨_, hq⟩
  exact ⟨_, _, r, root, auth, _, f, by simp [journal], by simp [journal], hr,
    hroot.trans hstate.symm, hauth, hq, hf, (hsame _ f hq hf).1⟩

/-! ### Histories -/

/-- **The reducer reads the evidence as a set.** -/
theorem reduce_of_perm (h : E'.Perm E) : reduce s e E' = reduce s e E := by
  have hdig : inputDigest s e E' = inputDigest s e E := inputDigest_of_perm rfl h
  have hin : ∀ kind, inputIsValid s e kind E' = inputIsValid s e kind E := by
    intro kind
    rw [inputIsValid, inputIsValid, evidenceSetIsValid_of_perm h, authorityIsValid_of_perm h]
  have hacc : ∀ effect, acceptedResult s e E' effect = acceptedResult s e E effect := by
    intro effect
    simp only [acceptedResult, nextState, acceptedEvent, hdig]
  simp only [reduce, hdig, hin, hacc]

/-- Two values of different text with one digest. -/
def Collides (v w : Json) : Prop :=
  digest v = digest w ∧ canonicalJson v ≠ canonicalJson w

/-- Two entries with the same canonical form: the same event with the same set of
evidence, and accepted Results of the same text. -/
structure SameEntry (x y : ReplayEntry) : Prop where
  event : x.event = y.event
  evidence : x.evidenceSet.Perm y.evidenceSet
  result : canonicalJson x.result.canonical = canonicalJson y.result.canonical
  lists : ∃ a b, x.result = .accepted a ∧ y.result = .accepted b ∧
    a.obligations = b.obligations ∧ a.auditFacts = b.auditFacts

theorem SameEntry.text {x y : ReplayEntry} (h : SameEntry x y) :
    canonicalJson x.canonical = canonicalJson y.canonical := by
  have hres := canonicalJson_injective h.result
  have hevid := canonicalEvidence_eq_of_perm h.evidence
  have hsort : x.canonical.sortKeys = y.canonical.sortKeys := by
    simp only [ReplayEntry.canonical, Json.sortKeys_record, filterMap_cons, Option.map_some,
      h.event, hevid, hres]
  rw [canonicalJson, canonicalJson, hsort]

theorem inputDigest_of_record (hx : step s x = some t)
    (hy : step s y = some u) {v : State} (htv : t.acceptedEvents <+: v.acceptedEvents)
    (huv : u.acceptedEvents <+: v.acceptedEvents) :
    inputDigest s x.1 x.2 = inputDigest s y.1 y.2 := by
  obtain ⟨_, _, effect, -, -, rfl⟩ := step_iff.mp hx
  obtain ⟨_, _, effect', -, -, rfl⟩ := step_iff.mp hy
  -- both records extend that of `s` by one entry
  have hsame : s.acceptedEvents ++ [acceptedEvent s x.1 x.2 effect] =
      s.acceptedEvents ++ [acceptedEvent s y.1 y.2 effect'] :=
    (prefix_of_prefix_length_le htv huv (by simp [nextState])).eq_of_length
      (by simp [nextState])
  exact congrArg AcceptedEvent.inputDigest (singleton_inj.mp (append_cancel_left hsame))

/-- Inputs that both are accepted and do not collide are the same if their digests are. -/
theorem input_of_digest (hx : step s x = some t) (hy : step s y = some u)
    (hdig : inputDigest s x.1 x.2 = inputDigest s y.1 y.2)
    (hcolls : ¬Collides (inputPayload s x.1 x.2) (inputPayload s y.1 y.2)) :
    x.1 = y.1 ∧ x.2.Perm y.2 := by
  obtain ⟨_, kind, _, hadm, -, -⟩ := step_iff.mp hx
  obtain ⟨_, kind', _, hadm', -, -⟩ := step_iff.mp hy
  have htext : canonicalJson (inputPayload s x.1 x.2) = canonicalJson (inputPayload s y.1 y.2) :=
    by_contra fun hne => hcolls ⟨hdig, hne⟩
  obtain ⟨hev, hperm⟩ := inputPayload_injective htext
  have hkn : x.1.kind.isKnown := Closed.isKnown_iff.mpr ⟨kind, hadm.kind_eq⟩
  have hkn' : y.1.kind.isKnown := Closed.isKnown_iff.mpr ⟨kind', hadm'.kind_eq⟩
  exact ⟨Event.canonical_injective hkn hkn' hadm.enums hadm'.enums hev, hperm⟩

theorem replayEntries_history {out' : List String} {applied' : List String}
    (hes : replayEntries s applied es = .ok (t, out))
    (hfs : replayEntries s applied' fs = .ok (t, out'))
    (hcolls : ∀ p ∈ es.zip fs, ¬Collides (inputPayload s p.1.event p.1.evidenceSet)
      (inputPayload s p.2.event p.2.evidenceSet)) : List.Forall₂ SameEntry es fs := by
  have hlen : es.length = fs.length := by
    have hfst := replayEntries_revision hes
    have hsnd := replayEntries_revision hfs
    omega
  induction es generalizing s fs applied applied' with
  | nil =>
    obtain rfl := length_eq_zero_iff.mp hlen.symm
    exact .nil
  | cons x es ih =>
    obtain ⟨y, fs, rfl⟩ := exists_cons_of_length_eq_add_one hlen.symm
    obtain ⟨a, a', ha, hred, htext, hrest⟩ := replayEntries_cons.mp hes
    obtain ⟨b, b', hb, hred', htext', hrest'⟩ := replayEntries_cons.mp hfs
    have hx : step s (x.event, x.evidenceSet) = some a'.state :=
      step_eq_some.mpr ⟨a', hred, rfl⟩
    have hy : step s (y.event, y.evidenceSet) = some b'.state :=
      step_eq_some.mpr ⟨b', hred', rfl⟩
    -- the last State holds the digests of both inputs at the same place
    have hdig := inputDigest_of_record hx hy (exec_extends (replayEntries_exec hrest)).record
      (exec_extends (replayEntries_exec hrest')).record
    obtain ⟨hev, hperm⟩ : x.event = y.event ∧ x.evidenceSet.Perm y.evidenceSet :=
      input_of_digest hx hy hdig (hcolls (x, y) (by simp))
    have hsame : a' = b' := by
      rw [hev, reduce_of_perm hperm] at hred
      exact Result.accepted.inj (hred.symm.trans hred')
    subst hsame
    have hres : canonicalJson a.canonical = canonicalJson b.canonical :=
      htext.symm.trans htext'
    refine .cons ⟨hev, hperm, ?_, a, b, ha, hb, Accepted.canonical_lists hres⟩
      (ih hrest hrest' ?_ (by simpa using hlen))
    · rw [ha, hb]
      exact hres
    · intro p hp
      have hver := (step_extends hx).version
      have hpair := hcolls p (by simp [hp])
      rw [inputPayload, inputPayload] at hpair ⊢
      rwa [hver]

/-- **The State commits to the history.**  Two journals that replay from one genesis to
the same State agree entry by entry in canonical form, unless two inputs at the same
place collide under the digest. -/
theorem history_committed {r' : Replay} (hes : replay (.genesis g) es none = .ok r)
    (hfs : replay (.genesis g) fs none = .ok r') (hstate : r.state = r'.state)
    (hcollides : ∀ p ∈ es.zip fs, ¬Collides (inputPayload g p.1.event p.1.evidenceSet)
      (inputPayload g p.2.event p.2.evidenceSet)) :
    es.length = fs.length ∧ List.Forall₂ SameEntry es fs ∧
      List.Forall₂ (fun x y => canonicalJson x.canonical = canonicalJson y.canonical) es fs := by
  have hsecond := (replay_genesis_ok.mp hfs).2
  rw [← hstate] at hsecond
  have hsame := replayEntries_history (replay_genesis_ok.mp hes).2 hsecond hcollides
  exact ⟨hsame.length_eq, hsame, hsame.imp fun _ _ => SameEntry.text⟩

/-- The first two events of a Task, with the evidence for the first in both orders. -/
theorem history_committed_started :
    ∃ es fs r r', replay (.genesis (sampleGenesis [])) es none = .ok r ∧
      replay (.genesis (sampleGenesis [])) fs none = .ok r' ∧ r.state = r'.state ∧
      (es.map (·.evidenceSet) = [sampleEvidence, []] ∧
        fs.map (·.evidenceSet) = [sampleEvidence.reverse, []]) ∧
      List.Forall₂ SameEntry es fs := by
  obtain ⟨a, s, ha, hs, -⟩ := started_run (Or.inr rfl)
  have hreversed : reduce (sampleGenesis []) startedEvent sampleEvidence.reverse = .accepted a :=
    (reduce_of_perm (reverse_perm _)).trans ha
  have hrun : ∀ E, reduce (sampleGenesis []) startedEvent E = .accepted a →
      Run.exec step (sampleGenesis []) [(startedEvent, E), (passedEvent, [])] = some s :=
    fun E hE => Run.exec_cons.mpr ⟨_, step_eq_some.mpr ⟨a, hE, rfl⟩, hs⟩
  obtain ⟨r, hr, hstate⟩ := replay_journal sampleGenesis_valid (hrun _ ha)
  obtain ⟨r', hr', hstate'⟩ := replay_journal sampleGenesis_valid (hrun _ hreversed)
  refine ⟨_, _, r, r', hr, hr', hstate.trans hstate'.symm, ⟨?_, ?_⟩,
    (history_committed hr hr' (hstate.trans hstate'.symm) ?_).2.1⟩
  · have hinputs := congrArg (List.map Prod.snd) (journal_inputs (hrun _ ha))
    rwa [map_map] at hinputs
  · have hinputs := congrArg (List.map Prod.snd) (journal_inputs (hrun _ hreversed))
    rwa [map_map] at hinputs
  · -- the inputs at the same place have the same canonical text
    intro p hp hcollides
    have hpair : ((p.1.event, p.1.evidenceSet), (p.2.event, p.2.evidenceSet)) ∈
        [(startedEvent, sampleEvidence), (passedEvent, [])].zip
          [(startedEvent, sampleEvidence.reverse), (passedEvent, [])] := by
      rw [← journal_inputs (hrun _ ha), ← journal_inputs (hrun _ hreversed), zip_map]
      exact mem_map_of_mem hp
    have hsame : p.1.event = p.2.event ∧ p.1.evidenceSet.Perm p.2.evidenceSet := by
      simp only [zip_cons_cons, zip_nil_right, mem_cons, Prod.mk.injEq,
        not_mem_nil, or_false] at hpair
      rcases hpair with ⟨⟨he, hE⟩, he', hE'⟩ | ⟨⟨he, hE⟩, he', hE'⟩
      · exact ⟨he.trans he'.symm, by rw [hE, hE']; exact (reverse_perm _).symm⟩
      · exact ⟨he.trans he'.symm, by rw [hE, hE']⟩
    apply hcollides.2
    rw [inputPayload, inputPayload, hsame.1, canonicalEvidence_eq_of_perm hsame.2]

end Valp.Kernel
