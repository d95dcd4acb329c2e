/-
Retrying an event that was accepted before.

The State keeps a record of every accepted event.  An input whose event is recorded
is answered from the record: with a no-op if its digest is the recorded one, and
with a rejection otherwise.  The check for stale attempt events comes first, so an
event of a fenced Attempt is rejected even when it is an exact retry.

* `exact_retry` — an exact retry is a no-op that reports the first Result, and a
  different input under the same identity is rejected;
* `fenced_retry_rejected` — an exact retry of the event that fenced the current
  Attempt is rejected.
-/
import Valp.KernelCanonical
import Valp.KernelAttempts

namespace Valp.Kernel

variable {s t g u : State} {x : Input} {e e' : Event} {kind : EventKind} {id : Identity}
  {a : Attempt} {xs ys : List Input} {E E' : List Evidence}

/-! ### Answers from the record -/

/-- **No-ops.**  The input is well formed, not stale, and recorded with its digest. -/
theorem reduce_noOp_iff {n : NoOp} :
    reduce s e E = .noOp n ↔ ∃ status kind prior, s.status = .known status ∧
      e.kind = .known kind ∧ hasUnknownEnum e = false ∧ inputIsValid s e kind E ∧
      attemptEventIsStale s e kind = false ∧
      Table.get (·.eventId) s.acceptedEvents e.eventId = some prior ∧
      prior.inputDigest = inputDigest s e E ∧
      n = { state := s, inputDigest := inputDigest s e E, priorResultId := prior.resultId,
            priorResultDigest := prior.resultDigest } := by
  constructor
  · intro h
    rcases reduce_cases s (e, E) with ⟨_, _, hr⟩ |
      ⟨status, kind, prior, hst, hkind, henums, hin, hstale, hprior, hdig, hr⟩ |
      ⟨_, _, _, -, -, hr⟩
    · simp [reject, h] at hr
    · rw [h, Result.noOp.injEq] at hr
      exact ⟨status, kind, prior, hst, hkind, henums, hin, hstale, hprior, hdig, hr⟩
    · simp [h] at hr
  · rintro ⟨status, kind, prior, hst, hkind, henums, hin, hstale, hprior, hdig, rfl⟩
    rw [Table.get] at hprior
    simp [reduce, hst, hkind, henums, hin, hstale, hprior, hdig]

theorem state_of_rejected {r : Rejected} (h : reduce s e E = .rejected r) : r.state = s := by
  rcases reduce_cases s (e, E) with ⟨_, _, hr⟩ | ⟨_, _, _, -, -, -, -, -, -, -, hr⟩ |
    ⟨_, _, _, -, -, hr⟩
  · rw [h, reject, Result.rejected.injEq] at hr
    rw [hr]
  · simp [h] at hr
  · simp [h] at hr

theorem exists_rejected (hacc : ∀ r, reduce s e E ≠ .accepted r)
    (hnoOp : ∀ n, reduce s e E ≠ .noOp n) :
    ∃ r, reduce s e E = .rejected r ∧ r.state = s := by
  cases h : reduce s e E with
  | accepted r => exact absurd h (hacc r)
  | noOp n => exact absurd h (hnoOp n)
  | rejected r => exact ⟨r, rfl, state_of_rejected h⟩

/-! ### The record along a run -/

/-- `t` is a later State of the Task of `s`: bound to the same installation and epoch,
with a record that extends that of `s`. -/
structure Extends (s t : State) : Prop where
  version : t.protocolVersion = s.protocolVersion
  installation : t.installationId = s.installationId
  leaderEpoch : t.leaderEpoch = s.leaderEpoch
  record : s.acceptedEvents <+: t.acceptedEvents

theorem Extends.refl (s : State) : Extends s s := ⟨rfl, rfl, rfl, List.prefix_rfl⟩

theorem Extends.trans (hst : Extends s t) (htu : Extends t u) : Extends s u :=
  ⟨htu.version.trans hst.version, htu.installation.trans hst.installation,
    htu.leaderEpoch.trans hst.leaderEpoch, hst.record.trans htu.record⟩

theorem step_extends (h : step s x = some t) : Extends s t := by
  obtain ⟨_, _, effect, -, -, rfl⟩ := step_iff.mp h
  exact ⟨rfl, rfl, rfl, List.prefix_append _ _⟩

theorem exec_extends (h : Run.exec step s xs = some t) : Extends s t :=
  Run.exec_rel (I := fun _ => True) (fun _ _ _ _ _ => trivial) Extends.refl
    (fun _ _ _ => Extends.trans) (fun _ _ _ _ => step_extends) trivial h

/-! ### Staleness -/

/-- An attempt event of the current Attempt is not stale, unless the Attempt is fenced
and the event is not the one that creates it. -/
theorem stale_of_current (hid : e.workItemId = some id) (ha : s.attempt? id = some a)
    (htup : a.tuple = e.tuple) (hscoped : kind ∈ attemptScopedEvents) :
    attemptEventIsStale s e kind = (kind != .attemptCreated && a.status == .fenced) := by
  obtain ⟨w, hw, hcur⟩ := attempt?_eq_some.mp ha
  have hfind : s.workItems.find? (fun item => some item.workItemId == e.workItemId) = some w := by
    rw [hid]
    exact hw
  rw [attemptEventIsStale, hfind]
  by_cases hcrtd : kind = .attemptCreated
  · simp [hcur, htup, hcrtd]
  · simp [hcur, htup, hscoped, hcrtd]

/-! ### Retries -/

theorem evidenceSetIsValid_of_perm (h : E'.Perm E) :
    evidenceSetIsValid E' = evidenceSetIsValid E := by
  rw [evidenceSetIsValid, evidenceSetIsValid, h.all_eq]
  congr 1
  exact decide_eq_decide.mpr (h.map _).nodup_iff

theorem authorityIsValid_of_perm (h : E'.Perm E) :
    authorityIsValid e kind E' = authorityIsValid e kind E := by
  rw [authorityIsValid, authorityIsValid, h.any_eq]

theorem inputDigest_of_perm (hver : s.protocolVersion = u.protocolVersion)
    (h : E'.Perm E) : inputDigest s e E' = inputDigest u e E := by
  rw [inputDigest, inputDigest, inputPayload, inputPayload, hver, canonicalEvidence_eq_of_perm h]

theorem exec_recorded_event {effect : Effect} (hsound : Sound s)
    (h : Run.exec step (nextState u e E effect) ys = some s) :
    Table.get (·.eventId) s.acceptedEvents e.eventId = some (acceptedEvent u e E effect) := by
  have hmem : acceptedEvent u e E effect ∈ s.acceptedEvents :=
    (exec_extends h).record.mem (List.mem_append_right _ (List.mem_singleton_self _))
  exact (Table.mem_iff_get hsound.valid.eventIds).mp hmem

section Retry

variable {status : TaskStatus} {effect : Effect} (hadm : Admitted u (e, E) status kind)
  (hprior : Table.get (·.eventId) s.acceptedEvents e.eventId = some (acceptedEvent u e E effect))

include hadm hprior

theorem retry_noOp (hsound : Sound s) (hext : Extends u s) (hperm : E'.Perm E)
    (hstale : attemptEventIsStale s e kind = false) :
    reduce s e E' = .noOp {
      state := s
      inputDigest := (acceptedResult u e E effect).inputDigest
      priorResultId := (acceptedResult u e E effect).resultId
      priorResultDigest := (acceptedResult u e E effect).resultDigest } := by
  obtain ⟨-, hev, hevid, hinst, hep, hauth⟩ := hadm.inputs
  obtain ⟨now, hnow⟩ := hsound.valid.status
  have hdig := inputDigest_of_perm (e := e) hext.version hperm
  -- the checks of the input depend on the binding of the State and on the evidence as a set
  have hin : inputIsValid s e kind E' := by
    rw [← evidenceSetIsValid_of_perm hperm] at hevid
    rw [← authorityIsValid_of_perm hperm] at hauth
    rw [← hext.installation] at hinst
    rw [← hext.leaderEpoch] at hep
    simp only [inputIsValid, Bool.and_eq_true, beq_iff_eq]
    exact ⟨⟨⟨⟨⟨stateIsValid_iff.mpr hsound.valid, hev⟩, hevid⟩, hinst⟩, hep⟩, hauth⟩
  refine reduce_noOp_iff.mpr ⟨now, kind, _, hnow, hadm.kind_eq, hadm.enums, hin, hstale,
    hprior, hdig.symm, ?_⟩
  simp only [acceptedResult, acceptedEvent, hdig]

theorem other_rejected (hid : e'.eventId = e.eventId) (hdiffs : e' ≠ e ∨ ¬E'.Perm E)
    (hcoll : inputDigest s e' E' = inputDigest u e E →
      canonicalJson (inputPayload s e' E') = canonicalJson (inputPayload u e E)) :
    ∃ q, reduce s e' E' = .rejected q ∧ q.state = s := by
  rw [← hid] at hprior
  refine exists_rejected ?_ ?_
  · -- it is not accepted, because its identity is recorded
    intro r hr
    obtain ⟨_, _, _, hadm', -, -⟩ := (reduce_accepted_iff (x := (e', E'))).mp hr
    have hnew : Table.get (·.eventId) s.acceptedEvents e'.eventId = none := hadm'.new
    rw [hprior] at hnew
    exact Option.some_ne_none _ hnew
  · -- a no-op would have the digest, so the text, so the content of the accepted input
    intro n hn
    obtain ⟨_, kind', prior, -, hkind', henums', -, -, hpr', hdig, -⟩ :=
      reduce_noOp_iff.mp hn
    rw [hprior, Option.some_inj] at hpr'
    rw [← hpr'] at hdig
    obtain ⟨hev', hperm⟩ := inputPayload_injective (hcoll hdig.symm)
    have hkn' : e'.kind.isKnown := Closed.isKnown_iff.mpr ⟨kind', hkind'⟩
    have hkn : e.kind.isKnown := Closed.isKnown_iff.mpr ⟨kind, hadm.kind_eq⟩
    rcases hdiffs with hne | hnperm
    · exact hne (Event.canonical_injective hkn' hkn henums' hadm.enums hev')
    · exact hnperm hperm

end Retry

/-- **Exact retries.**  Let `e` be accepted with the evidence `E` and the Result `r`,
and let `s` be a later State of the run.

A retry of `e` with the same evidence in any order is a no-op that reports `r`, if
`e` is not an attempt event, or if its tuple is that of the current Attempt of its
item and this Attempt is not fenced or `e` created it.

Any other input under the identity of `e` is rejected and changes nothing, unless
its text collides with that of the accepted input under the digest. -/
theorem exact_retry {r : Accepted} (hg : genesisIsValid g = true)
    (hu : Run.exec step g xs = some u) (hr : reduce u e E = .accepted r)
    (hs : Run.exec step r.state ys = some s) :
    (∀ kind E', e.kind = .known kind → E'.Perm E →
      (kind ∉ attemptScopedEvents ∨ ∃ id a, e.workItemId = some id ∧ s.attempt? id = some a ∧
        a.tuple = e.tuple ∧ (a.status ≠ .fenced ∨ kind = .attemptCreated)) →
      reduce s e E' = .noOp {
        state := s
        inputDigest := r.inputDigest
        priorResultId := r.resultId
        priorResultDigest := r.resultDigest }) ∧
    ∀ e' E', e'.eventId = e.eventId → (e' ≠ e ∨ ¬E'.Perm E) →
      (inputDigest s e' E' = inputDigest u e E →
        canonicalJson (inputPayload s e' E') = canonicalJson (inputPayload u e E)) →
      ∃ q, reduce s e' E' = .rejected q ∧ q.state = s := by
  have hstep : step u (e, E) = some r.state := step_eq_some.mpr ⟨r, hr, rfl⟩
  have hext := (step_extends hstep).trans (exec_extends hs)
  have hsound := exec_sound hg (Run.exec_append.mpr ⟨u, hu, Run.exec_cons.mpr ⟨_, hstep, hs⟩⟩)
  obtain ⟨status, kind, effect, hadm, -, rfl⟩ := (reduce_accepted_iff (x := (e, E))).mp hr
  dsimp only at hs ⊢
  have hprior := exec_recorded_event hsound hs
  -- the record answers both kinds of input; only the staleness of a retry is left
  constructor
  · intro kind' E' hkind hperm hcurrent
    obtain rfl := hadm.kind_unique hkind
    refine retry_noOp hadm hprior hsound hext hperm ?_
    by_cases hscoped : kind ∈ attemptScopedEvents
    · obtain ⟨id, a, hid, ha, htuple, hfenced⟩ := hcurrent.resolve_left (not_not.mpr hscoped)
      rw [stale_of_current hid ha htuple hscoped]
      rcases hfenced with hfenced | hcreated
      · simp [hfenced]
      · simp [hcreated]
    · simp [attemptEventIsStale, hscoped]
  · intro e' E' hid hdiffers hcollision
    exact other_rejected hadm hprior hid hdiffers hcollision

/-- The first event of a Task, and the one that follows it. -/
def startedEvent : Event := sampleEvent (ident .event "e0") 0 .routingValidationStarted

def passedEvent : Event := sampleEvent (ident .event "e1") 1 .routingValidationPassed

def sampleEvidence : List Evidence := [
  ⟨ident .evidence "a", "sha256:0000000000000000000000000000000000000000000000000000000000000000"⟩,
  ⟨ident .evidence "b", "sha256:1111111111111111111111111111111111111111111111111111111111111111"⟩]

theorem started_run (hE : E = [] ∨ E = sampleEvidence) :
    ∃ r s, reduce (sampleGenesis []) startedEvent E = .accepted r ∧
      Run.exec step r.state [(passedEvent, [])] = some s ∧
      s.protocolVersion = (sampleGenesis []).protocolVersion := by
  have hrun : ∃ s, Run.exec step (sampleGenesis []) [(startedEvent, E), (passedEvent, [])] =
      some s ∧ s.status = .known .dispatching := by
    rcases hE with rfl | rfl <;> exact exec_of_trusting sampleGenesis_valid (by decide +kernel)
  obtain ⟨s, hs, -⟩ := hrun
  obtain ⟨v, hv, hrest⟩ := Run.exec_cons.mp hs
  obtain ⟨r, hr, rfl⟩ := step_eq_some.mp hv
  exact ⟨r, s, hr, hrest, (exec_extends hs).version⟩

theorem exact_retry_startedEvent :
    (∃ r s, reduce (sampleGenesis []) startedEvent sampleEvidence = .accepted r ∧
      Run.exec step r.state [(passedEvent, [])] = some s ∧
      reduce s startedEvent sampleEvidence.reverse = .noOp {
        state := s
        inputDigest := r.inputDigest
        priorResultId := r.resultId
        priorResultDigest := r.resultDigest }) ∧
    ∃ r s q, reduce (sampleGenesis []) startedEvent [] = .accepted r ∧
      Run.exec step r.state [(passedEvent, [])] = some s ∧
      reduce s { startedEvent with expectedRevision := 1 } [] = .rejected q ∧ q.state = s := by
  constructor
  · obtain ⟨r, s, hr, hs, -⟩ := started_run (Or.inr rfl)
    refine ⟨r, s, hr, hs, ?_⟩
    exact (exact_retry sampleGenesis_valid (Run.exec_nil _) hr hs).1 _ _ rfl
      (List.reverse_perm _) (Or.inl (by decide))
  · obtain ⟨r, s, hr, hs, hversion⟩ := started_run (Or.inl rfl)
    obtain ⟨q, hq, hstate⟩ := (exact_retry sampleGenesis_valid (Run.exec_nil _) hr hs).2
      { startedEvent with expectedRevision := 1 } [] rfl (Or.inl (by decide)) (by
        rw [inputDigest_of_perm hversion (List.Perm.refl [])]
        -- the digest of the event with another revision is another one
        exact fun h => absurd h (by decide +kernel))
    exact ⟨r, s, q, hr, hs, hq, hstate⟩

/-! ### Retries of a fenced Attempt -/

theorem rejected_of_stale (hkind : e.kind = .known kind)
    (hstale : attemptEventIsStale s e kind) :
    ∃ q, reduce s e E = .rejected q ∧ q.state = s := by
  refine exists_rejected ?_ ?_
  · intro r hr
    obtain ⟨_, kind', _, hadm, -, -⟩ := (reduce_accepted_iff (x := (e, E))).mp hr
    obtain rfl := hadm.kind_unique hkind
    cases hadm.notStale.symm.trans hstale
  · intro n hn
    obtain ⟨_, kind', _, -, hkind', -, -, hfr, -⟩ := reduce_noOp_iff.mp hn
    obtain rfl : kind' = kind := by simpa using hkind'.symm.trans hkind
    cases hfr.symm.trans hstale

/-- The event that fences the first Attempt of the item "first". -/
def fencingEvent : Input :=
  retryEvent (ident .event "e2") 2 .attemptFenced (ident .attempt "a1") 0

/-- **An exact retry of the fencing event is rejected**, although the Attempt it
fenced is still the current one of its item. -/
theorem fenced_retry_rejected : genesisIsValid requiredGenesis = true ∧
      ∃ u r a, Run.exec step requiredGenesis (runningRun.take 2) = some u ∧
        reduce u fencingEvent.1 fencingEvent.2 = .accepted r ∧
        r.state.attempt? (ident .workItem "first") = some a ∧
        fencingEvent.1.workItemId = some (ident .workItem "first") ∧
        a.tuple = fencingEvent.1.tuple ∧
        ∃ q, reduce r.state fencingEvent.1 fencingEvent.2 = .rejected q := by
  refine ⟨requiredGenesis_valid, ?_⟩
  obtain ⟨t, ht, hfenced⟩ := exec_of_trusting requiredGenesis_valid
    (p := fun t => (t.attempt? (ident .workItem "first")).map (fun a => (a.tuple, a.status)) =
      some (fencingEvent.1.tuple, .fenced)) (by decide +kernel :
      (Run.exec stepTrusting _ (runningRun.take 2 ++ [fencingEvent])).any _)
  obtain ⟨u, hu, hstep⟩ := Run.exec_concat.mp ht
  obtain ⟨r, hr, rfl⟩ := step_eq_some.mp hstep
  obtain ⟨a, ha, hpair⟩ := Option.map_eq_some_iff.mp hfenced
  have htuple : a.tuple = fencingEvent.1.tuple := congrArg Prod.fst hpair
  have hstatus : a.status = .fenced := congrArg Prod.snd hpair
  refine ⟨u, r, a, hu, hr, ha, rfl, htuple, ?_⟩
  have hstale : attemptEventIsStale r.state fencingEvent.1 .attemptFenced := by
    rw [stale_of_current rfl ha htuple (by decide), hstatus]
    rfl
  obtain ⟨q, hq, -⟩ := rejected_of_stale (E := fencingEvent.2) rfl hstale
  exact ⟨q, hq⟩

end Valp.Kernel
