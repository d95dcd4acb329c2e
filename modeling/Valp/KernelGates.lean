/-
The status of the Task over whole runs.

The Task moves along `KERNEL_TASK_TRANSITIONS`, while events about Work Items,
Suspensions and control leave its status alone, except for a redirect, which leads
from every status that is not terminal to `fixing`.

* `gate_order` — the events that led a Task to `done` end with the gates in their
  order, none of which was passed during an interrupt or an outstanding wait;
* `dispatch_validated` — how a Task can come to be dispatched, and
  `dispatch_after_redirect`, a run to `dispatching` without routing validation.
-/
import Valp.KernelAttempts

namespace Valp.Kernel

open Run (exec exec_append exec_history exec_invariant)

variable {s t g : State} {x : Input} {e : Event} {kind : EventKind} {status : TaskStatus}
  {xs : List Input}

/-! ### The order of the gates -/

/-- The Task is not interrupted and no wait is outstanding. -/
def Calm (s : State) : Prop :=
  (currentControl s).status ≠ .interrupted ∧ ∀ u, s.suspension = some u → u.status ≠ .waiting

/-- The steps of a run that changed the status of the Task. -/
def statusSteps (g : State) (xs : List Input) : List (State × Input × State) :=
  (Run.trace step g xs).filter fun p => p.1.status ≠ p.2.2.status

/-- The kinds of the events that must have led to a status last. -/
def gatePaths : TaskStatus → List (List EventKind)
  | .verifying => [[.workCompleted]]
  | .reviewing => [[.workCompleted, .verificationPassed]]
  | .approvalRequired => [[.workCompleted, .verificationPassed, .approvalRequiredRaised]]
  | .recording => [
      [.workCompleted, .verificationPassed, .reviewPassed],
      [.workCompleted, .verificationPassed, .approvalRequiredRaised, .approvalGranted]]
  | .done => [
      [.workCompleted, .verificationPassed, .reviewPassed, .recordingCompleted],
      [.workCompleted, .verificationPassed, .approvalRequiredRaised, .approvalGranted,
        .recordingCompleted]]
  | _ => [[]]

variable {target : TaskStatus}

theorem gatePaths_edge (h : kernelTaskTransitions status kind = some target) :
    [] ∈ gatePaths target ∨
      (kind.isTaskEvent ∧ kind ∉ interruptedEvents ∧ kind ∉ waitEndingEvents ∧
        ∀ path ∈ gatePaths status, path ++ [kind] ∈ gatePaths target) := by
  unfold kernelTaskTransitions at h
  split at h
  case h_19 | h_20 =>
    -- failure and cancellation, from every status that is not terminal
    split at h
    · cases h
    · cases h
      exact Or.inl (by decide)
  case h_21 => cases h
  all_goals
    cases h
    decide

/-- The gates on the way to `status` were passed last, and calmly. -/
def GatesPassed (steps : List (State × Input × State)) (status : TaskStatus) : Prop :=
  ∃ path ∈ gatePaths status, ∃ earlier gates, steps = earlier ++ gates ∧
    gates.map (fun p => p.2.1.1.kind) = path.map Closed.known ∧ ∀ p ∈ gates, Calm p.1

theorem GatesPassed.of_nil {steps : List (State × Input × State)}
    (h : [] ∈ gatePaths status) : GatesPassed steps status :=
  ⟨[], h, steps, [], by simp, rfl, by simp⟩

theorem StatusMove.edge_or_redirect (h : StatusMove status kind target) (hne : target ≠ status) :
    target = .fixing ∨ kernelTaskTransitions status kind = some target := by
  cases h
  case redirected => exact Or.inl rfl
  case edge hedge => exact Or.inr hedge
  all_goals exact absurd rfl hne

/-- **The gates along a run.** -/
theorem exec_gatesPassed (hg : genesisIsValid g) (h : exec step g xs = some t) :
    ∃ status, t.status = .known status ∧ GatesPassed (statusSteps g xs) status := by
  refine exec_history (I := fun ys u =>
    ∃ status, u.status = .known status ∧ GatesPassed (statusSteps g ys) status) ?_ ?_ h
  · exact ⟨.published, (genesisIsValid_iff.mp hg).2.1, .of_nil (by decide)⟩
  · rintro ys u x v hu ⟨status, hst, hpassed⟩ hv
    obtain ⟨_, kind, -, hkind⟩ := step_known hv
    obtain ⟨target, htgt, hmove⟩ := step_status hv hst hkind
    refine ⟨target, htgt, ?_⟩
    by_cases hsame : target = status
    · -- the step is not among the status steps
      have hsteps : statusSteps g (ys ++ [x]) = statusSteps g ys := by
        simp [statusSteps, Run.trace_concat hu hv, hst, htgt, hsame]
      rw [hsteps, hsame]
      exact hpassed
    · have hsteps : statusSteps g (ys ++ [x]) = statusSteps g ys ++ [(u, x, v)] := by
        have hne : status ≠ target := fun heq => hsame heq.symm
        simp [statusSteps, Run.trace_concat hu hv, hst, htgt, hne]
      rcases hmove.edge_or_redirect hsame with rfl | hedge
      · exact .of_nil (by decide)
      rcases gatePaths_edge hedge with hnil | ⟨htask, hctrl, hwait, hnext⟩
      · exact .of_nil hnil
      -- the step passes the next gate after those on the way to the status before it
      obtain ⟨path, hpath, earlier, gates, heq, hks, hcalm⟩ := hpassed
      have hmov : v.status ≠ u.status := by
        rw [htgt, hst]
        simpa using hsame
      refine ⟨path ++ [kind], hnext path hpath, earlier, gates ++ [(u, x, v)], ?_, ?_, ?_⟩
      · rw [hsteps, heq, List.append_assoc]
      · rw [List.map_append, hks, List.map_append]
        simp [hkind]
      · exact List.forall_mem_append.mpr ⟨hcalm, List.forall_mem_singleton.mpr
          (step_calm hv hkind htask hmov hctrl hwait)⟩

/-- **Gate order.**  The events that changed the status of a Task that is done end
with the work, the verification, the review or an approval, and the recording, each
accepted while the Task was not interrupted and no wait was outstanding. -/
theorem gate_order (hg : genesisIsValid g = true) (h : exec step g xs = some t)
    (hdone : t.status = .known .done) :
    ∃ earlier gates, statusSteps g xs = earlier ++ gates ∧
      (gates.map (fun p => p.2.1.1.kind) = [.known .workCompleted, .known .verificationPassed,
          .known .reviewPassed, .known .recordingCompleted] ∨
        gates.map (fun p => p.2.1.1.kind) = [.known .workCompleted, .known .verificationPassed,
          .known .approvalRequiredRaised, .known .approvalGranted,
          .known .recordingCompleted]) ∧
      ∀ p ∈ gates, (currentControl p.1).status ≠ .interrupted ∧
        ∀ u, p.1.suspension = some u → u.status ≠ .waiting := by
  obtain ⟨status, hstatus, path, hpath, earlier, gates, heq, hkinds, hcalm⟩ :=
    exec_gatesPassed hg h
  obtain rfl : status = .done := by
    rw [hstatus] at hdone
    simpa using hdone
  refine ⟨earlier, gates, heq, ?_, hcalm⟩
  simp only [gatePaths, List.mem_cons, List.not_mem_nil, or_false] at hpath
  rcases hpath with rfl | rfl
  · exact Or.inl hkinds
  · exact Or.inr hkinds

theorem gate_order_doneSpine :
    ∃ t earlier gates, exec step (sampleGenesis []) (doneSpine 0) = some t ∧
      t.status = .known .done ∧
      statusSteps (sampleGenesis []) (doneSpine 0) = earlier ++ gates ∧
      ∀ p ∈ gates, (currentControl p.1).status ≠ .interrupted := by
  obtain ⟨t, ht, hdone⟩ := exec_of_trusting sampleGenesis_valid
    (p := fun t => t.status = .known .done) (by decide +kernel :
      (exec stepTrusting _ (doneSpine 0)).any _)
  obtain ⟨earlier, gates, heq, -, hcalm⟩ := gate_order sampleGenesis_valid ht hdone
  exact ⟨t, earlier, gates, ht, hdone, heq, fun p hp => (hcalm p hp).1⟩

/-! ### Dispatch -/

/-- The step validated the routing, or redirected a Task that was not validated. -/
def Cleared (p : State × Input × State) : Prop :=
  p.2.1.1.kind = .known .routingValidationPassed ∨
    (p.2.1.1.kind = .known .redirectAuthorized ∧
      (p.1.status = .known .published ∨ p.1.status = .known .routingValidation))

/-- The statuses of a Task that was never dispatched. -/
def TaskStatus.isEarly : TaskStatus → Bool
  | .published | .routingValidation | .failed | .cancelled => true
  | _ => false

theorem isEarly_edge (hearly : status.isEarly)
    (h : kernelTaskTransitions status kind = some target) :
    target.isEarly ∨ kind = .routingValidationPassed := by
  unfold kernelTaskTransitions at h
  split at h
  case h_19 | h_20 =>
    split at h
    · cases h
    · cases h
      exact Or.inl rfl
  case h_21 => cases h
  all_goals
    cases h
    first | exact Or.inl rfl | exact Or.inr rfl | cases hearly

theorem exec_cleared (hg : genesisIsValid g) (h : exec step g xs = some t) :
    ∃ status, t.status = .known status ∧
      (status.isEarly ∨ ∃ p ∈ Run.trace step g xs, Cleared p) := by
  refine exec_history (I := fun ys u => ∃ status, u.status = .known status ∧
    (status.isEarly ∨ ∃ p ∈ Run.trace step g ys, Cleared p)) ?_ ?_ h
  · exact ⟨.published, (genesisIsValid_iff.mp hg).2.1, Or.inl rfl⟩
  · rintro ys u x v hu ⟨status, hst, hbef⟩ hv
    obtain ⟨_, kind, -, hkind⟩ := step_known hv
    obtain ⟨target, htgt, hmove⟩ := step_status hv hst hkind
    refine ⟨target, htgt, ?_⟩
    rw [Run.trace_concat hu hv]
    -- leaving the early statuses takes one of the two events, and later steps keep it
    rcases hbef with hearly | ⟨p, hp, hcleared⟩
    · cases hmove
      case edge hedge =>
        rcases isEarly_edge hearly hedge with htgt' | rfl
        · exact Or.inl htgt'
        · exact Or.inr ⟨(u, x, v), by simp, Or.inl hkind⟩
      case redirected hopen =>
        -- an early status that is not terminal is one before the validation
        refine Or.inr ⟨(u, x, v), by simp, Or.inr ⟨hkind, ?_⟩⟩
        rw [hst]
        cases status <;> first
          | exact Or.inl rfl
          | exact Or.inr rfl
          | exact absurd hearly (by decide)
          | exact absurd hopen (by decide)
      all_goals exact Or.inl hearly
    · exact Or.inr ⟨p, List.mem_append_left _ hp, hcleared⟩

/-- **Dispatch.**  A Task that is dispatching or executing passed routing validation
earlier in the run, or was redirected before it could. -/
theorem dispatch_validated (hg : genesisIsValid g = true) (h : exec step g xs = some t)
    (hstatus : t.status = .known .dispatching ∨ t.status = .known .executing) :
    ∃ p ∈ Run.trace step g xs, p.2.1.1.kind = .known .routingValidationPassed ∨
      (p.2.1.1.kind = .known .redirectAuthorized ∧
        (p.1.status = .known .published ∨ p.1.status = .known .routingValidation)) := by
  obtain ⟨status, hs, hearly | hcleared⟩ := exec_cleared hg h
  · exfalso
    rw [hs] at hstatus
    rcases hstatus with heq | heq <;> cases heq <;> cases hearly
  · exact hcleared

theorem dispatch_validated_spine : ∃ t, exec step (sampleGenesis []) (dispatchSpine 0) = some t ∧
      ∃ p ∈ Run.trace step (sampleGenesis []) (dispatchSpine 0),
        p.2.1.1.kind = .known .routingValidationPassed ∨
          (p.2.1.1.kind = .known .redirectAuthorized ∧
            (p.1.status = .known .published ∨ p.1.status = .known .routingValidation)) := by
  obtain ⟨t, ht, hstatus⟩ := exec_of_trusting sampleGenesis_valid
    (p := fun t => t.status = .known .executing) (by decide +kernel :
      (exec stepTrusting _ (dispatchSpine 0)).any _)
  exact ⟨t, ht, dispatch_validated sampleGenesis_valid ht (Or.inr hstatus)⟩

/-- The event, with a principal and the Evidence for its authority. -/
def authorized (e : Event) : Input :=
  ({ e with
      authorityPrincipalId := some (ident .principal "principal")
      authorityEvidenceId := some (ident .evidence "evidence")
      controlReason := some (.known .userRequested) },
    [⟨ident .evidence "evidence",
      "sha256:0000000000000000000000000000000000000000000000000000000000000000"⟩])

/-- A published Task is redirected, and its fix is dispatched. -/
def redirectRun : List Input := [
  authorized { sampleEvent (ident .event "e0") 0 .redirectAuthorized with
    redirectId := some (ident .redirect "redirect")
    intentVersion := some 0
    nextIntentVersion := some 1 },
  (sampleEvent (ident .event "e1") 1 .fixDispatchRequested, [])]

/-- **A redirected Task can be dispatched without routing validation.** -/
theorem dispatch_after_redirect : genesisIsValid (sampleGenesis []) = true ∧
      (∃ t, exec step (sampleGenesis []) redirectRun = some t ∧ t.status = .known .dispatching) ∧
      ∀ x ∈ redirectRun, x.1.kind ≠ .known .routingValidationPassed := by
  refine ⟨sampleGenesis_valid, ?_, by decide⟩
  exact exec_of_trusting sampleGenesis_valid (by decide +kernel)

/-! ### Terminal Tasks -/

theorem kernelTaskTransitions_terminal (hterm : status.isTerminal) (kind : EventKind) :
    kernelTaskTransitions status kind = none := by
  cases status <;> first
    | exact absurd hterm (by decide)
    | (cases kind <;> rfl)

/-- A terminal status is left by no event, and few events are accepted in it. -/
theorem StatusMove.of_terminal (h : StatusMove status kind target)
    (hterm : status.isTerminal) :
    target = status ∧ (kind.isItemEvent ∨ kind = .interruptResumed) := by
  cases h
  case item hkind => exact ⟨rfl, Or.inl hkind⟩
  case resumed => exact ⟨rfl, Or.inr rfl⟩
  case interrupted hopen => simp [hterm] at hopen
  case redirected hopen => simp [hterm] at hopen
  case suspended hexec => simp [hexec, TaskStatus.isTerminal] at hterm
  case woken hexec => simp [hexec, TaskStatus.isTerminal] at hterm
  case edge _ hedge =>
    rw [kernelTaskTransitions_terminal hterm] at hedge
    cases hedge

theorem not_itemMove_resumed {w w' : WorkItem} : ¬ItemMove s e .interruptResumed w w' := by
  intro h
  cases h with
  | advanced htab => cases htab
  | moved htab => cases htab
  | cancelled hkind => rcases hkind with hkind | hkind | hkind <;> cases hkind

theorem step_resumed_items (h : step s x = some t) (hkind : x.1.kind = .known .interruptResumed) :
    t.workItems = s.workItems := by
  obtain ⟨f, hf⟩ := step_items h hkind
  rw [hf.rows]
  refine (List.map_congr_left fun w hw => ?_).trans (List.map_id _)
  exact (hf.move w hw).resolve_right fun hmov => not_itemMove_resumed hmov.move

end Valp.Kernel
