/-
Replay of a Kernel journal (`valp_cli/protocol_kernel.py`).

A journal is a list of `ReplayEntry` records over a root: a genesis State, or a
checkpoint that carries its own authentication.  `replay` recomputes every entry
with `reduce`, compares the canonical text of the two Results, and raises on the
first difference; an exception is `.error` with the text of the source.

`step` is one accepted call of `reduce`, so that `Run.exec step g xs` is the State
that the inputs `xs` lead to from `g` when every one of them is accepted.

* `genesisIsValid_iff` — the States `replay` admits as a genesis;
* `replayEntries_cons`, `replay_genesis_ok`, `replay_checkpoint_ok` — what a successful
  replay consists of;
* `replayEntries_append` — replay splits at every point of the journal;
* `replayEntries_exec` — a journal that replays is an accepted run;
* `replay_journal` — the journal of an accepted run replays to its last State.
-/
import Valp.KernelReduce
import Valp.Run

namespace Valp.Kernel

/-! ### Roots and entries -/

/-- `CheckpointTrustPolicy`; `__post_init__` refuses anything but a non-empty list
of distinct Evidence identities. -/
structure CheckpointTrustPolicy where
  trustedEvidenceIds : List Identity
  ids_ne : trustedEvidenceIds ≠ []
  ids_kind : ∀ i ∈ trustedEvidenceIds, i.kind = .evidence
  ids_nodup : trustedEvidenceIds.Nodup

/-- `sorted(identities, key=lambda item: _canonical_json(item.canonical()))`. -/
def sortIdentities (ids : List Identity) : List Identity :=
  ids.insertionSort fun a b => canonicalJson a.canonical ≤ canonicalJson b.canonical

theorem sortIdentities_perm (ids : List Identity) : (sortIdentities ids).Perm ids :=
  List.perm_insertionSort _ ids

/-- The constructor of `CheckpointTrustPolicy`. -/
def CheckpointTrustPolicy.make (ids : List Identity) : Except String CheckpointTrustPolicy :=
  if h : ids ≠ [] ∧ (∀ i ∈ ids, i.kind = .evidence) ∧ ids.Nodup then
    .ok {
      trustedEvidenceIds := sortIdentities ids
      ids_ne := fun hnil => h.1 (by simpa [hnil] using (sortIdentities_perm ids).symm)
      ids_kind := fun i hi => h.2.1 i ((sortIdentities_perm ids).mem_iff.mp hi)
      ids_nodup := (sortIdentities_perm ids).nodup_iff.mpr h.2.2 }
  else .error "CheckpointTrustPolicy requires unique Evidence identities"

def CheckpointTrustPolicy.canonical (p : CheckpointTrustPolicy) : Json :=
  .record [
    ("schema_version", some (.str "valp-kernel-checkpoint-trust-policy.v1")),
    ("trusted_evidence_ids", some (.arr (p.trustedEvidenceIds.map Identity.canonical)))]

def CheckpointTrustPolicy.digest (p : CheckpointTrustPolicy) : String :=
  Kernel.digest p.canonical

/-- The fields of a `CheckpointRoot`, before `__post_init__` has checked them. -/
structure CheckpointBindings where
  state : State
  acceptedEntryCount : Int
  prefixDigest : String
  tailEventId : Identity
  tailResultId : Identity
  tailResultDigest : String
  checkpointResultId : Identity
  trustPolicyDigest : String
  deriving DecidableEq

def checkpointRootIsValid (value : CheckpointBindings) : Bool :=
  stateIsValid value.state && decide (1 ≤ value.state.revision) &&
    value.acceptedEntryCount == value.state.revision &&
    value.acceptedEntryCount == (value.state.acceptedEvents.length : Int) &&
    isDigest value.prefixDigest && isDigest value.tailResultDigest &&
    isDigest value.trustPolicyDigest && hasIdentityKind value.tailEventId .event &&
    hasIdentityKind value.tailResultId .result &&
    hasIdentityKind value.checkpointResultId .result &&
    value.state.acceptedEvents.getLast?.any fun tail =>
      value.tailEventId == tail.eventId && value.tailResultId == tail.resultId &&
        value.tailResultDigest == tail.resultDigest

/-- `CheckpointRoot`: bindings that passed `__post_init__`. -/
structure CheckpointRoot extends CheckpointBindings where
  valid : checkpointRootIsValid toCheckpointBindings = true

def CheckpointRoot.canonical (r : CheckpointRoot) : Json :=
  .record [
    ("schema_version", some (.str "valp-kernel-checkpoint-root.v1")),
    ("state", some r.state.canonical),
    ("state_digest", some (.str (digest r.state.canonical))),
    ("accepted_entry_count", some (.int r.acceptedEntryCount)),
    ("prefix_digest", some (.str r.prefixDigest)),
    ("tail_event_id", some r.tailEventId.canonical),
    ("tail_result_id", some r.tailResultId.canonical),
    ("tail_result_digest", some (.str r.tailResultDigest)),
    ("checkpoint_result_id", some r.checkpointResultId.canonical),
    ("trust_policy_digest", some (.str r.trustPolicyDigest))]

structure ReplayEntry where
  event : Event
  evidenceSet : List Evidence
  result : Result

def ReplayEntry.canonical (entry : ReplayEntry) : Json :=
  .record [
    ("schema_version", some (.str "valp-kernel-replay-entry.v1")),
    ("event", some entry.event.canonical),
    ("evidence_set", some (.arr (canonicalEvidence entry.evidenceSet))),
    ("result", some entry.result.canonical)]

/-- `CheckpointAuthentication`; `__post_init__` refuses repeated Evidence. -/
structure CheckpointAuthentication where
  checkpointResult : Result
  evidenceSet : List Evidence
  trustPolicy : CheckpointTrustPolicy
  evidence_nodup : (evidenceSet.map (·.evidenceId)).Nodup

def statementDigestFor (root : CheckpointRoot) (checkpointResult : Result)
    (trustPolicy : CheckpointTrustPolicy) : String :=
  digest (.record [
    ("schema_version", some (.str "valp-kernel-checkpoint-statement.v1")),
    ("checkpoint_root", some root.canonical),
    ("checkpoint_result", some checkpointResult.canonical),
    ("trust_policy_digest", some (.str trustPolicy.digest))])

def checkpointAuthenticationIsValid (root : CheckpointRoot)
    (authentication : Option CheckpointAuthentication) : Bool :=
  match authentication with
  | none => false
  | some auth =>
    match auth.checkpointResult with
    | .accepted accepted =>
      let expectedIds := auth.trustPolicy.trustedEvidenceIds
      let actualIds := auth.evidenceSet.map (·.evidenceId)
      checkpointRootIsValid root.toCheckpointBindings &&
        auth.trustPolicy.digest == root.trustPolicyDigest &&
        evidenceSetIsValid auth.evidenceSet && accepted.state == root.state &&
        accepted.resultId == root.checkpointResultId && accepted.resultId == root.tailResultId &&
        accepted.resultDigest == root.tailResultDigest &&
        actualIds.all expectedIds.contains && expectedIds.all actualIds.contains &&
        auth.evidenceSet.all fun item => item.contentDigest ==
          statementDigestFor root auth.checkpointResult auth.trustPolicy
    | _ => false

/-! ### Replay -/

/-- The roots `replay` accepts: `GenesisRoot` and `CheckpointRoot`. -/
inductive ReplayRoot where
  | genesis (state : State)
  | checkpoint (root : CheckpointRoot)

/-- `Replay`; `__post_init__` refuses obligations. -/
structure Replay where
  state : State
  appliedResultDigests : List String
  obligations : List String := []
  obligations_nil : obligations = [] := by rfl

/-- The check of `replay` on the State of a `GenesisRoot`. -/
def genesisIsValid (state : State) : Bool :=
  stateIsValid state && state.status == .known .published && state.revision == 0 &&
    state.acceptedEvents == []

/-- The loop of `replay` over the entries, from the State `current`. -/
def replayEntries (current : State) (applied : List String) :
    List ReplayEntry → Except String (State × List String)
  | [] => .ok (current, applied)
  | entry :: entries =>
    match entry.result with
    | .accepted _ =>
      match reduce current entry.event entry.evidenceSet with
      | .accepted recomputed =>
        if canonicalJson recomputed.canonical ≠ canonicalJson entry.result.canonical then
          .error "ReplayEntry Result does not match recomputed Result"
        else replayEntries recomputed.state (applied ++ [recomputed.resultDigest]) entries
      | _ => .error "ReplayEntry inputs do not produce an accepted Result"
    | _ => .error "ReplayEntry must contain an accepted Result"

/-- The checks of `replay` on its root: the State to start from. -/
def rootState (root : ReplayRoot) (authentication : Option CheckpointAuthentication) :
    Except String State :=
  match root with
  | .genesis state =>
    if authentication.isSome then
      .error "GenesisRoot does not accept checkpoint authentication"
    else if !genesisIsValid state then
      .error "GenesisRoot must be the canonical empty Task State"
    else .ok state
  | .checkpoint checkpoint =>
    if !checkpointAuthenticationIsValid checkpoint authentication then
      .error "CheckpointRoot authentication is invalid"
    else .ok checkpoint.state

def replay (root : ReplayRoot) (entries : List ReplayEntry)
    (authentication : Option CheckpointAuthentication) : Except String Replay :=
  match rootState root authentication with
  | .error message => .error message
  | .ok state =>
    match replayEntries state [] entries with
    | .error message => .error message
    | .ok (current, applied) => .ok { state := current, appliedResultDigests := applied }

/-! ### Runs -/

/-- What a client sends to the reducer: an Event with its Evidence. -/
abbrev Input := Event × List Evidence

/-- One accepted call of `reduce`. -/
def step (s : State) (x : Input) : Option State :=
  match reduce s x.1 x.2 with
  | .accepted a => some a.state
  | _ => none

variable {s t : State}

theorem step_eq_some {x : Input} :
    step s x = some t ↔ ∃ a, reduce s x.1 x.2 = .accepted a ∧ a.state = t := by
  rw [step]
  cases reduce s x.1 x.2 <;> simp

variable {g : State}

theorem genesisIsValid_iff : genesisIsValid g ↔
      StateValid g ∧ g.status = .known .published ∧ g.revision = 0 ∧ g.acceptedEvents = [] := by
  simp only [genesisIsValid, Bool.and_eq_true, beq_iff_eq, stateIsValid_iff, and_assoc]

theorem replay_genesis_nil : (∃ r, replay (.genesis g) [] none = .ok r) ↔ genesisIsValid g := by
  cases hg : genesisIsValid g <;> simp [replay, rootState, replayEntries, hg]

variable {applied : List String} {entries : List ReplayEntry}

/-- One turn of the loop: the entry records an accepted Result, and its inputs are
accepted with a Result of the same text. -/
theorem replayEntries_cons {entry : ReplayEntry} {out : State × List String} :
    replayEntries s applied (entry :: entries) = .ok out ↔
      ∃ recorded recomputed, entry.result = .accepted recorded ∧
        reduce s entry.event entry.evidenceSet = .accepted recomputed ∧
        canonicalJson recomputed.canonical = canonicalJson recorded.canonical ∧
        replayEntries recomputed.state (applied ++ [recomputed.resultDigest]) entries =
          .ok out := by
  rw [replayEntries]
  constructor
  · intro h
    split at h
    case h_2 => cases h
    case h_1 recorded hrecd =>
      split at h
      case h_2 => cases h
      case h_1 recomputed hred =>
        split_ifs at h with hsame
        rw [hrecd] at hsame
        exact ⟨recorded, recomputed, hrecd, hred, not_not.mp hsame, h⟩
  · rintro ⟨recorded, recomputed, hrecd, hred, hsame, hrest⟩
    simp only [hrecd, hred, Result.canonical, hsame]
    simpa using hrest

variable {out : List String}

/-- **A journal that replays is an accepted run** of its events and Evidence. -/
theorem replayEntries_exec (h : replayEntries s applied entries = .ok (t, out)) :
    Run.exec step s (entries.map fun entry => (entry.event, entry.evidenceSet)) = some t := by
  induction entries generalizing s applied with
  | nil =>
    obtain ⟨rfl, -⟩ : s = t ∧ applied = out := by simpa [replayEntries] using h
    rfl
  | cons entry entries ih =>
    obtain ⟨_, recomputed, -, hred, -, hrest⟩ := replayEntries_cons.mp h
    rw [List.map_cons, Run.exec_cons]
    exact ⟨recomputed.state, step_eq_some.mpr ⟨recomputed, hred, rfl⟩, ih hrest⟩

theorem replay_genesis_ok {r : Replay} : replay (.genesis g) entries none = .ok r ↔
      genesisIsValid g ∧
        replayEntries g [] entries = .ok (r.state, r.appliedResultDigests) := by
  obtain ⟨state, applied, obligations, rfl⟩ := r
  cases hg : genesisIsValid g with
  | false => simp [replay, rootState, hg]
  | true =>
    simp only [replay, rootState, hg, Option.isSome_none, Bool.false_eq_true, if_false,
      Bool.not_true, true_and]
    cases replayEntries g [] entries with
    | error message => simp
    | ok out => simp [Prod.ext_iff]

theorem replayEntries_applied : replayEntries s applied entries = .ok (t, out) ↔
      ∃ new, replayEntries s [] entries = .ok (t, new) ∧ out = applied ++ new := by
  induction entries generalizing s applied out with
  | nil => simp [replayEntries, eq_comm]
  | cons entry entries ih =>
    simp only [replayEntries_cons, List.nil_append]
    constructor
    · rintro ⟨recorded, recomputed, hrecd, hred, hsame, hrest⟩
      obtain ⟨new, hnew, rfl⟩ := ih.mp hrest
      refine ⟨[recomputed.resultDigest] ++ new, ⟨recorded, recomputed, hrecd, hred, hsame,
        ih.mpr ⟨new, hnew, rfl⟩⟩, by simp⟩
    · rintro ⟨new, ⟨recorded, recomputed, hrecd, hred, hsame, hrest⟩, rfl⟩
      obtain ⟨new', hnew, rfl⟩ := ih.mp hrest
      exact ⟨recorded, recomputed, hrecd, hred, hsame, ih.mpr ⟨new', hnew, by simp⟩⟩

/-- **Replay splits at every point.** -/
theorem replayEntries_append {es fs : List ReplayEntry} :
    replayEntries s [] (es ++ fs) = .ok (t, out) ↔
      ∃ u first second, replayEntries s [] es = .ok (u, first) ∧
        replayEntries u [] fs = .ok (t, second) ∧ out = first ++ second := by
  induction es generalizing s out with
  | nil =>
    simp only [List.nil_append, replayEntries, Except.ok.injEq, Prod.mk.injEq]
    constructor
    · intro h
      exact ⟨s, [], out, ⟨rfl, rfl⟩, h, rfl⟩
    · rintro ⟨_, _, second, ⟨rfl, rfl⟩, h, rfl⟩
      exact h
  | cons entry es ih =>
    simp only [List.cons_append, replayEntries_cons, List.nil_append]
    constructor
    · rintro ⟨recorded, recomputed, hrecd, hred, hsame, hrest⟩
      obtain ⟨new, hnew, rfl⟩ := replayEntries_applied.mp hrest
      obtain ⟨u, first, second, hfst, hsnd, rfl⟩ := ih.mp hnew
      refine ⟨u, [recomputed.resultDigest] ++ first, second, ⟨recorded, recomputed, hrecd,
        hred, hsame, replayEntries_applied.mpr ⟨first, hfst, rfl⟩⟩, hsnd, by simp⟩
    · rintro ⟨u, first, second, ⟨recorded, recomputed, hrecd, hred, hsame, hrest⟩, hsnd, rfl⟩
      obtain ⟨new, hnew, rfl⟩ := replayEntries_applied.mp hrest
      refine ⟨recorded, recomputed, hrecd, hred, hsame, replayEntries_applied.mpr
        ⟨new ++ second, ih.mpr ⟨u, new, second, hnew, hsnd, rfl⟩, by simp⟩⟩

theorem replay_checkpoint_ok {root : CheckpointRoot}
    {authentication : Option CheckpointAuthentication} {r : Replay} :
    replay (.checkpoint root) entries authentication = .ok r ↔
      checkpointAuthenticationIsValid root authentication ∧
        replayEntries root.state [] entries = .ok (r.state, r.appliedResultDigests) := by
  obtain ⟨state, applied, obligations, rfl⟩ := r
  cases hauth : checkpointAuthenticationIsValid root authentication with
  | false => simp [replay, rootState, hauth]
  | true =>
    simp only [replay, rootState, hauth, Bool.not_true, Bool.false_eq_true, if_false, true_and]
    cases replayEntries root.state [] entries with
    | error message => simp
    | ok out => simp [Prod.ext_iff]

/-- The journal a client writes while it runs `xs` from `s`. -/
def journal (s : State) : List Input → List ReplayEntry
  | [] => []
  | x :: xs =>
    { event := x.1, evidenceSet := x.2, result := reduce s x.1 x.2 } ::
      match step s x with
      | some t => journal t xs
      | none => []

variable {xs : List Input}

theorem journal_inputs (h : Run.exec step s xs = some t) :
    ((journal s xs).map fun entry => (entry.event, entry.evidenceSet)) = xs := by
  induction xs generalizing s with
  | nil => rfl
  | cons x xs ih =>
    obtain ⟨u, hu, hxs⟩ := Run.exec_cons.mp h
    simp [journal, hu, ih hxs]

theorem replayEntries_journal (applied : List String) (h : Run.exec step s xs = some t) :
    ∃ out, replayEntries s applied (journal s xs) = .ok (t, out) := by
  induction xs generalizing s applied with
  | nil =>
    obtain rfl : s = t := by simpa using h
    exact ⟨applied, rfl⟩
  | cons x xs ih =>
    obtain ⟨u, hu, hxs⟩ := Run.exec_cons.mp h
    obtain ⟨a, hred, rfl⟩ := step_eq_some.mp hu
    obtain ⟨out, hout⟩ := ih (applied ++ [a.resultDigest]) hxs
    refine ⟨out, ?_⟩
    -- the recomputed Result is the recorded one, so the texts agree
    simp [journal, replayEntries, hu, hred, Result.canonical, hout]

/-- **The journal of an accepted run replays** to the State the run reached. -/
theorem replay_journal (hg : genesisIsValid g) (h : Run.exec step g xs = some t) :
    ∃ r, replay (.genesis g) (journal g xs) none = .ok r ∧ r.state = t := by
  obtain ⟨out, hout⟩ := replayEntries_journal [] h
  refine ⟨{ state := t, appliedResultDigests := out }, ?_, rfl⟩
  simp [replay, rootState, hg, hout]

end Valp.Kernel
