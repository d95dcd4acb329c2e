/-
Control of a Task: cancellation, interrupts and redirects.

`reduce` walks the Work Items of a cancelled Task by the status of the item, and guards
an interrupted Task before it looks at the event (`valp_cli/protocol_kernel.py`).

* `cancellation_complete_iff` — cancelling a Task ends every active Attempt and asks the
  adapters for each executing one, if no item is terminal while its Attempt is active;
* `partial_item_keeps_running` — a partial item keeps its running Attempt;
* `interrupt_freezes` — what may follow an interrupt, what a resume restores, and how
  the intent version grows.
-/
import Valp.KernelObligations

namespace Valp.Kernel

open List
open Option (ite_none_left_eq_some some_inj)

variable {s t g u v : State} {x y : Input} {kind : EventKind} {status : TaskStatus}
  {effect : Effect} {xs : List Input}

/-! ### Cancelling the Task -/

/-- The Attempts that are submitted or running, in the order of their Work Items. -/
def State.executing (s : State) : List Attempt :=
  s.workItems.flatMap fun w => w.currentAttempt.toList.filter (·.status.isExecuting)

theorem step_taskCancelled (hk : x.1.kind = .known .taskCancelled) (h : step s x = some t) :
    t.workItems = (cancelItems (fun _ => true) s.workItems).1 ∧
      obligationsOf s x = (cancelItems (fun _ => true) s.workItems).2 := by
  obtain ⟨r, hr, rfl⟩ := step_eq_some.mp h
  obtain ⟨status, kind, effect, hadm, heff, rfl⟩ := reduce_accepted_iff.mp hr
  obtain rfl := hadm.kind_unique hk
  obtain ⟨-, before, hbr, hset⟩ := transition_spec heff
  rw [obligationsOf, hr]
  show effect.workItems = _ ∧ effect.obligations = _
  rw [(settle_spec hset).1]
  cases hbr with
  | taskCancelled h =>
    simp only [taskCancelled, ite_none_left_eq_some, Option.map_eq_some_iff] at h
    obtain ⟨-, target, -, rfl⟩ := h
    exact ⟨rfl, rfl⟩
  | item hkind => cases hkind
  | task hkind => cases hkind

theorem cancelledWorkItem_snd (w : WorkItem) : (cancelledWorkItem w).2 =
    (w.currentAttempt.toList.filter (·.status.isExecuting)).map adapterCancelObligation := by
  rw [cancelledWorkItem]
  cases w.currentAttempt with
  | none => rfl
  | some a => cases hst : a.status <;>
      simp [AttemptStatus.isActive, AttemptStatus.isExecuting, hst]

theorem cancelAttempt_inactive (a : Attempt) : (cancelAttempt a).status.isActive = false := by
  rw [cancelAttempt]
  split
  case isTrue => rfl
  case isFalse hact => simpa using hact

/-- **Cancelling a Task is complete** exactly if no item is terminal while its Attempt
is active: the walk skips the terminal items. -/
theorem cancellation_complete_iff (hk : x.1.kind = .known .taskCancelled)
    (h : step s x = some t) :
    ((∀ w ∈ t.workItems, ∀ a, w.currentAttempt = some a → a.status.isActive = false) ∧
      obligationsOf s x = s.executing.map adapterCancelObligation) ↔
    ∀ w ∈ s.workItems, w.status.isTerminal = true →
      ∀ a, w.currentAttempt = some a → a.status.isActive = false := by
  obtain ⟨hitems, hemitted⟩ := step_taskCancelled hk h
  rw [hitems, hemitted, cancelItems_fst, cancelItems_snd]
  constructor
  · rintro ⟨hended, -⟩ w hw hterm
    exact hended w (mem_map.mpr ⟨w, hw, by simp [hterm]⟩)
  · intro hended
    constructor
    · rintro _ hw' a ha
      obtain ⟨w, hw, rfl⟩ := mem_map.mp hw'
      split at ha
      case isTrue =>
        rw [cancelledWorkItem_fst] at ha
        obtain ⟨b, -, rfl⟩ := Option.map_eq_some_iff.mp ha
        exact cancelAttempt_inactive b
      case isFalse hterm => exact hended w hw (by simpa using hterm) a ha
    · -- a skipped item has no executing Attempt, so it adds nothing on either side
      rw [State.executing, map_flatMap]
      generalize s.workItems = items at hended
      induction items with
      | nil => rfl
      | cons w items ih =>
        have hrest := ih fun v hv => hended v (by simp [hv])
        rw [filter_cons, flatMap_cons]
        split
        case isTrue => rw [flatMap_cons, hrest, cancelledWorkItem_snd]
        case isFalse hterm =>
          have hnone : w.currentAttempt.toList.filter (·.status.isExecuting) = [] := by
            refine filter_eq_nil_iff.mpr fun a ha hexec => ?_
            have hactive := hended w (by simp) (by simpa using hterm) a (by simpa using ha)
            revert hexec hactive
            cases a.status <;> simp [AttemptStatus.isActive, AttemptStatus.isExecuting]
          rw [hrest, hnone, map_nil, nil_append]

def cancelTask (revision : Int) : Input :=
  authorized { sampleEvent (ident .event "cancel") revision .taskCancelled with
    cancellationScope := some (.known .task) }

theorem cancellation_complete_running : ∃ s t,
    Run.exec step requiredGenesis runningRun = some s ∧ step s (cancelTask 4) = some t ∧
      ∀ w ∈ t.workItems, ∀ a, w.currentAttempt = some a → a.status.isActive = false := by
  obtain ⟨t, ht, -⟩ := exec_of_trusting requiredGenesis_valid
    (p := fun t => t.revision = 5) (by decide +kernel :
      (Run.exec stepTrusting _ (runningRun ++ [cancelTask 4])).any _)
  obtain ⟨s, hs, hstep⟩ := Run.exec_concat.mp ht
  obtain ⟨u, hu, hopen⟩ := exec_of_trusting requiredGenesis_valid
    (p := fun u => ∀ w ∈ u.workItems, w.status.isTerminal = false) (by decide +kernel :
      (Run.exec stepTrusting _ runningRun).any _)
  obtain rfl : s = u := by simpa [hs] using hu
  refine ⟨s, t, hs, hstep, ((cancellation_complete_iff rfl hstep).mpr ?_).1⟩
  intro w hw hterm
  simp [hopen w hw] at hterm

/-- The item whose Attempt runs is partial, and then the Task is cancelled. -/
def partialRun : List Input := runningRun ++ [
  (sampleItemEvent (ident .event "e4") 4 .workItemPartial (ident .workItem "first"), []),
  cancelTask 5]

/-- **A partial item keeps its running Attempt** when its Task is cancelled, and nothing
asks the adapter to stop. -/
theorem partial_item_keeps_running : genesisIsValid requiredGenesis = true ∧
    emitted requiredGenesis partialRun = [] ∧
    ∃ t, Run.exec step requiredGenesis partialRun = some t ∧ t.status = .known .cancelled ∧
      ∃ w ∈ t.workItems, ∃ a ∈ w.currentAttempt, a.status = .running := by
  refine ⟨requiredGenesis_valid, ?_, ?_⟩
  · rw [emitted_eq_trusting requiredGenesis_valid]
    decide +kernel
  · exact exec_of_trusting requiredGenesis_valid (by decide +kernel :
      (Run.exec stepTrusting _ partialRun).any _)

/-! ### Interrupts and redirects -/

theorem settle_same {before : Effect} (hsame : before.status = status)
    (h : settle status kind before = some effect) : effect = before := by
  simpa [settle, hsame, eq_comm] using h

theorem step_interruptRequested (hk : x.1.kind = .known .interruptRequested)
    (h : step s x = some t) :
    x.1.intentVersion = some (currentControl s).intentVersion ∧ t.status = s.status ∧
      t.workItems = s.workItems ∧ t.suspension = s.suspension ∧ t.control = some {
        intentVersion := (currentControl s).intentVersion
        status := .interrupted
        activeInterruptId := x.1.interruptId } := by
  obtain ⟨status, kind, before, effect, hadm, -, hbr, hset, rfl⟩ := step_cases h
  obtain rfl := hadm.kind_unique hk
  cases hbr with
  | interruptRequested h =>
    simp only [interruptRequested, ite_none_left_eq_some, some_inj, Bool.or_eq_true, not_or,
      bne_iff_ne, not_not] at h
    obtain ⟨⟨⟨⟨⟨⟨⟨-, -⟩, hintent⟩, -⟩, -⟩, -⟩, -⟩, rfl⟩ := h
    obtain rfl := settle_same rfl hset
    exact ⟨hintent, hadm.status_eq.symm, rfl, rfl, rfl⟩
  | item hkind => cases hkind
  | task hkind => cases hkind

theorem step_interruptResumed (hk : x.1.kind = .known .interruptResumed)
    (h : step s x = some t) :
    x.1.interruptId = (currentControl s).activeInterruptId ∧
      x.1.intentVersion = some (currentControl s).intentVersion ∧ t.status = s.status ∧
      t.workItems = s.workItems ∧ t.suspension = s.suspension ∧
      (currentControl t).intentVersion = (currentControl s).intentVersion := by
  obtain ⟨status, kind, before, effect, hadm, -, hbr, hset, rfl⟩ := step_cases h
  obtain rfl := hadm.kind_unique hk
  cases hbr with
  | interruptResumed h =>
    simp only [interruptResumed, ite_none_left_eq_some, some_inj, Bool.or_eq_true, not_or,
      bne_iff_ne, not_not] at h
    obtain ⟨⟨⟨⟨⟨⟨⟨-, hid⟩, hintent⟩, -⟩, -⟩, -⟩, -⟩, rfl⟩ := h
    obtain rfl := settle_same rfl hset
    exact ⟨hid, hintent, hadm.status_eq.symm, rfl, rfl, rfl⟩
  | item hkind => cases hkind
  | task hkind => cases hkind

theorem step_intentVersion (h : step s x = some t) :
    (currentControl t).intentVersion = (currentControl s).intentVersion +
      if x.1.kind = .known .redirectAuthorized then 1 else 0 := by
  obtain ⟨status, kind, before, effect, hadm, -, hbr, hset, rfl⟩ := step_cases h
  have hctrl : (nextState s x.1 x.2 effect).control = before.control := by
    show effect.control = _
    rw [(settle_spec hset).1]
  rw [hadm.kind_eq, currentControl, hctrl]
  cases hbr with
  | interruptRequested h => simp [(interruptRequested_spec h).2.2.2.2.2]
  | interruptResumed h => simp [(interruptResumed_spec h).2.2.2]
  | redirectAuthorized h => simp [(redirectAuthorized_spec h).2.2.2.2]
  | taskCancelled h => simp [(taskCancelled_spec h).2.2.2]
  | suspensionStarted h => simp [(suspensionStarted_spec h).2.2.2.1, currentControl]
  | wakeAccepted h => simp [(wakeAccepted_spec h).2.2.2.1, currentControl]
  | item hkind h =>
    obtain ⟨w, -, r, -, -, rfl⟩ := onWorkItem_spec hadm.valid h
    have hne : kind ≠ .redirectAuthorized := by rintro rfl; cases hkind
    simp [hne, currentControl]
  | task hkind h =>
    have hne : kind ≠ .redirectAuthorized := by rintro rfl; cases hkind
    simp [hne, (taskTransition_spec h).2.2.2, currentControl]

/-- **Interrupt freezes, resume restores.**  After an interrupt a run goes on with the
resume of that interrupt, a redirect, a cancellation or a failure; the resume restores
what the interrupt found.  The intent version counts the redirects. -/
theorem interrupt_freezes (h : Run.exec step g xs = some t) :
    (∀ ys x y zs u v w, xs = ys ++ x :: y :: zs → Run.exec step g ys = some u →
      step u x = some v → step v y = some w → x.1.kind = .known .interruptRequested →
      (y.1.kind = .known .interruptResumed ∧ y.1.interruptId = x.1.interruptId ∧
          y.1.intentVersion = x.1.intentVersion ∧ w.status = u.status ∧
          w.workItems = u.workItems ∧ w.suspension = u.suspension ∧
          (currentControl w).intentVersion = (currentControl u).intentVersion) ∨
        y.1.kind = .known .redirectAuthorized ∨ y.1.kind = .known .taskCancelled ∨
        y.1.kind = .known .taskFailed) ∧
    (currentControl t).intentVersion = (currentControl g).intentVersion +
      (xs.countP fun x => x.1.kind == .known .redirectAuthorized : Nat) := by
  constructor
  · intro ys x y zs u v w _ _ hv hw hk
    obtain ⟨hintent, hstatus, hitems, hsuspension, hcontrol⟩ := step_interruptRequested hk hv
    have hcurrent : currentControl v = {
        intentVersion := (currentControl u).intentVersion
        status := .interrupted
        activeInterruptId := x.1.interruptId } := by
      rw [currentControl, hcontrol]
      rfl
    obtain ⟨_, kind, _, _, hadm, hfrozen, -⟩ := step_cases hw
    have hkind := hfrozen (by rw [hcurrent])
    simp only [interruptedEvents, mem_cons, not_mem_nil, or_false] at hkind
    rcases hkind with rfl | rfl | rfl | rfl
    · obtain ⟨hid, hversion, hst, hit, hsu, hiv⟩ := step_interruptResumed hadm.kind_eq hw
      rw [hcurrent] at hid hversion hiv
      exact Or.inl ⟨hadm.kind_eq, hid, hversion.trans hintent.symm, hst.trans hstatus,
        hit.trans hitems, hsu.trans hsuspension, hiv⟩
    · exact Or.inr (Or.inl hadm.kind_eq)
    · exact Or.inr (Or.inr (Or.inl hadm.kind_eq))
    · exact Or.inr (Or.inr (Or.inr hadm.kind_eq))
  · refine Run.exec_history (I := fun ys u => (currentControl u).intentVersion =
      (currentControl g).intentVersion +
        (ys.countP fun x => x.1.kind == .known .redirectAuthorized : Nat)) (by simp) ?_ h
    intro ys u x v _ hu hv
    rw [step_intentVersion hv, hu, countP_append, countP_singleton]
    simp only [beq_iff_eq]
    split <;> simp [Int.add_assoc]

def resumedRun : List Input := [
  authorized { sampleEvent (ident .event "e0") 0 .interruptRequested with
    interruptId := some (ident .interrupt "i"), intentVersion := some 0 },
  authorized { sampleEvent (ident .event "e1") 1 .interruptResumed with
    interruptId := some (ident .interrupt "i"), intentVersion := some 0 }]

theorem interrupt_freezes_resumed : ∃ t, Run.exec step requiredGenesis resumedRun = some t ∧
    t.revision = 2 ∧ (currentControl t).intentVersion = 0 := by
  obtain ⟨t, ht, hrevision⟩ := exec_of_trusting requiredGenesis_valid
    (p := fun t => t.revision = 2) (by decide +kernel :
      (Run.exec stepTrusting _ resumedRun).any _)
  exact ⟨t, ht, hrevision, (interrupt_freezes ht).2⟩

end Valp.Kernel
