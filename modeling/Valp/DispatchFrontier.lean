/-
The frontier of the phases that may be dispatched (`valp_cli/workflow.py`).

`dependency_ready_frontier` leaves out the phases whose work item was delivered, but it looks
for the delivery among the v2 receipts only.

* `no_redispatch_iff` — **when it lists no phase whose work item was delivered.**
-/
import Valp.DispatchGate

namespace Valp.Dispatch

open Json (Value)
open Kernel (bind_eq_ok)
open List

def manualEvents : List String :=
  ["manual_dispatch_written", "manual_delivery_attested", "manual_result_attested",
    "manual_blocked"]

def runtimeReceiptIsEffective (text : Json → String) (dir : TaskDir) (receipt : Value) :
    Except Fault Bool := do
  if !(← inSet (receipt.get "event") manualEvents) then .ok true
  else if !(dir.runtime .manual).adopted then .ok true
  else
    match dir.manualEffective with
    | .error error => .error (.exit ("Invalid adopted manual v3 effective state: " ++ error))
    | .ok ids => .ok (ids.contains (strOrEmpty text (receipt.get "receipt_id")))

def phaseWorkItem (document : Value) (phase : String × String) : Except Fault (Option Value) := do
  let items ← iterate (document.get "work_items")
  .ok (items.find? fun item => item.isObject && (item.get "agent").equal (.str phase.1) &&
    (item.get "role").equal (.str phase.2))

/-- Whether `latest_phase_delivery_event` counts a receipt. -/
def countsForPhase (taskId : String) (item receipt : Value) : Except Fault Bool := do
  if !(receipt.get "schema_version").equal (.str schemaV2) then .ok false
  else if !hasIdentity taskId item receipt then .ok false
  else if !(← inSet (receipt.get "event") (deliveryEvents ++ terminalEvents)) then .ok false
  else if (receipt.get "event").equal (.str "dispatch_submitted") then
    hasConcreteRuntimeSubmissionProof receipt
  else .ok true

def latestPhaseDeliveryEvent (text : Json → String) (document : Value) (phase : String × String)
    (receipts : List Value) (taskId : String) : Except Fault (Option String) := do
  match ← phaseWorkItem document phase with
  | none => .ok none
  | some item =>
    receipts.foldlM (fun latest receipt => do
      if ← countsForPhase taskId item receipt then
        .ok (some (strOf text (receipt.get "event").1))
      else .ok latest) none

/-- What the frontier finds out about a phase. -/
inductive Verdict where
  | delivered
  | blocked (errors : List String)
  | ready
  deriving DecidableEq, Repr

/-- The body of the loop over the phases. -/
def phaseVerdict (files : Files) (document : Value) (receipts : List Value) (taskId : String)
    (phase : String × String) : Except Fault Verdict := do
  let latest ← latestPhaseDeliveryEvent files.text document phase receipts taskId
  if latest.any (deliveryEvents ++ ["dispatch_completed", "manual_result_attested"]).contains then
    .ok .delivered
  else if latest.any ["dispatch_blocked", "manual_blocked"].contains then
    .ok (.blocked [phase.2 ++ ":" ++ phase.1 ++ " is blocked"])
  else
    let errors ← unmetDependenciesForPhases files document [phase] receipts false
    .ok (if errors ≠ [] then .blocked errors else .ready)

/-- The loop over the phases: those that are ready, and the errors of the others. -/
def frontierFrom (files : Files) (document : Value) (receipts : List Value) (taskId : String) :
    List (String × String) → Except Fault (List (String × String) × List String)
  | [] => .ok ([], [])
  | phase :: phases => do
    let verdict ← phaseVerdict files document receipts taskId phase
    let (ready, errors) ← frontierFrom files document receipts taskId phases
    match verdict with
    | .delivered => .ok (ready, errors)
    | .blocked more => .ok (ready, more ++ errors)
    | .ready => .ok (phase :: ready, errors)

def dependencyReadyFrontier (dir : TaskDir) (files : Files) (document : Value)
    (phases : List (String × String)) (receipts : List Value) (taskId : String) :
    Except Fault (List (String × String) × List String) := do
  let effective ← selectOk (runtimeReceiptIsEffective files.text dir) receipts
  let (ready, blocked) ← frontierFrom files document effective taskId phases
  .ok (ready, blocked.eraseDups)

/-! ### What the frontier lists -/

section Frontier

variable {files : Files} {dir : TaskDir} {document item receipt : Value} {taskId : String}
  {phase : String × String} {phases : List (String × String)} {receipts : List Value}

/-- A v2 receipt of the item with an event of a delivery or an end, and with a concrete proof
if it is a submission. -/
def Counted (taskId : String) (item receipt : Value) : Prop :=
  receipt.get "schema_version" = .str schemaV2 ∧ hasIdentity taskId item receipt = true ∧
    ∃ event ∈ deliveryEvents ++ terminalEvents, receipt.get "event" = .str event ∧
      (event = "dispatch_submitted" → hasConcreteRuntimeSubmissionProof receipt = .ok true)

theorem countsForPhase_iff : countsForPhase taskId item receipt = .ok true ↔
    Counted taskId item receipt := by
  rw [countsForPhase, Counted, ← Value.equal_str]
  cases hsch : (receipt.get "schema_version").equal (.str schemaV2) with
  | false => simp
  | true =>
    cases hidt : hasIdentity taskId item receipt with
    | false => simp
    | true =>
      simp only [Bool.not_true, Bool.false_eq_true, if_false, bind_eq_ok, true_and]
      constructor
      · rintro ⟨known, hkn, h⟩
        cases known with
        | false => cases h
        | true =>
          obtain ⟨event, hev, heq⟩ := inSet_eq_true.mp hkn
          refine ⟨event, hev, heq, ?_⟩
          rintro rfl
          simpa [heq] using h
      · rintro ⟨event, hev, heq, hconcrete⟩
        refine ⟨true, inSet_eq_true.mpr ⟨event, hev, heq⟩, ?_⟩
        by_cases hsubd : event = "dispatch_submitted"
        · simp [heq, hsubd, hconcrete hsubd]
        · simp [heq, Value.equal_str_str, hsubd]

variable {latest : Option String} {ready : List (String × String)}

theorem latest_of_foldlM {counts : Value → Except Fault Bool} {f : Value → String}
    {first : Option String}
    (h : receipts.foldlM (fun latest receipt => do
      if ← counts receipt then .ok (some (f receipt)) else .ok latest) first = .ok latest) :
    (latest = first ∧ ∀ receipt ∈ receipts, counts receipt = .ok false) ∨
      ∃ receipt ∈ receipts, counts receipt = .ok true ∧ latest = some (f receipt) := by
  induction receipts generalizing first with
  | nil =>
    cases h
    exact .inl ⟨rfl, by simp⟩
  | cons receipt receipts ih =>
    rw [foldlM_cons, bind_eq_ok] at h
    obtain ⟨next, hnext, h⟩ := h
    rw [bind_eq_ok] at hnext
    obtain ⟨counted, hcntd, hnext⟩ := hnext
    rcases ih h with ⟨hlatest, hnone⟩ | ⟨other, hoth, htrue, hlatest⟩
    · cases counted with
      | false =>
        cases hnext
        exact .inl ⟨hlatest, forall_mem_cons.mpr ⟨hcntd, hnone⟩⟩
      | true =>
        cases hnext
        exact .inr ⟨receipt, mem_cons_self, hcntd, hlatest⟩
    · exact .inr ⟨other, mem_cons_of_mem _ hoth, htrue, hlatest⟩

/-- **The frontier sees a delivery** iff the ledger has a v2 receipt of it. -/
theorem latestPhaseDeliveryEvent_cases
    (h : latestPhaseDeliveryEvent files.text document phase receipts taskId = .ok latest) :
    (latest = none ∧ ∀ item, phaseWorkItem document phase = .ok (some item) →
        ∀ receipt ∈ receipts, ¬ Counted taskId item receipt) ∨
      ∃ item, phaseWorkItem document phase = .ok (some item) ∧
        ∃ receipt ∈ receipts, Counted taskId item receipt ∧
          ∃ event ∈ deliveryEvents ++ terminalEvents, latest = some event := by
  rw [latestPhaseDeliveryEvent, bind_eq_ok] at h
  obtain ⟨found, hfnd, h⟩ := h
  rw [hfnd]
  cases found with
  | none =>
    cases h
    exact .inl ⟨rfl, fun item hitem => by cases hitem⟩
  | some item =>
    rcases latest_of_foldlM h with ⟨rfl, hnone⟩ | ⟨receipt, hrcpt, hcounts, rfl⟩
    · refine .inl ⟨rfl, ?_⟩
      rintro _ ⟨⟩ receipt hrcpt hcntd
      have hfalse := hnone receipt hrcpt
      rw [countsForPhase_iff.mpr hcntd] at hfalse
      cases hfalse
    · have hcntd := countsForPhase_iff.mp hcounts
      obtain ⟨-, -, event, hev, heq, -⟩ := id hcntd
      refine .inr ⟨item, rfl, receipt, hrcpt, hcntd, event, hev, ?_⟩
      rw [heq]
      rfl

/-- The work item of the phase has a receipt that the frontier counts. -/
def Registered (document : Value) (taskId : String) (phase : String × String)
    (receipts : List Value) : Prop :=
  ∃ item, phaseWorkItem document phase = .ok (some item) ∧
    ∃ receipt ∈ receipts, Counted taskId item receipt

/-- A phase is ready iff no receipt of its item counts and no dependency is unmet. -/
theorem phaseVerdict_ready_iff {verdict : Verdict}
    (h : phaseVerdict files document receipts taskId phase = .ok verdict) :
    verdict = .ready ↔ ¬ Registered document taskId phase receipts ∧
      unmetDependenciesForPhases files document [phase] receipts false = .ok [] := by
  rw [phaseVerdict, bind_eq_ok] at h
  obtain ⟨latest, hlatest, h⟩ := h
  rcases latestPhaseDeliveryEvent_cases hlatest with
    ⟨rfl, hnone⟩ | ⟨item, hitem, receipt, hrcpt, hcntd, event, hev, rfl⟩
  · have hunregistered : ¬ Registered document taskId phase receipts := by
      rintro ⟨item, hitem, receipt, hrcpt, hcntd⟩
      exact hnone item hitem receipt hrcpt hcntd
    simp only [Option.any_none, Bool.false_eq_true, if_false, bind_eq_ok] at h
    obtain ⟨errors, herrs, h⟩ := h
    cases h
    rw [herrs]
    by_cases hcln : errors = [] <;> simp [hcln, hunregistered]
  · have hregistered : Registered document taskId phase receipts :=
      ⟨item, hitem, receipt, hrcpt, hcntd⟩
    refine iff_of_false ?_ fun hrdy => hrdy.1 hregistered
    rintro rfl
    simp only [deliveryEvents, terminalEvents, mem_append, mem_cons, not_mem_nil, or_false] at hev
    rcases hev with (rfl | rfl) | rfl | rfl | rfl | rfl <;> cases h

theorem mem_frontierFrom {errors : List String}
    (h : frontierFrom files document receipts taskId phases = .ok (ready, errors))
    (phase : String × String) : phase ∈ ready ↔ phase ∈ phases ∧
      ¬ Registered document taskId phase receipts ∧
      unmetDependenciesForPhases files document [phase] receipts false = .ok [] := by
  induction phases generalizing ready errors with
  | nil =>
    cases h
    simp
  | cons first phases ih =>
    rw [frontierFrom, bind_eq_ok] at h
    obtain ⟨verdict, hverdict, h⟩ := h
    rw [bind_eq_ok] at h
    obtain ⟨⟨others, more⟩, hoths, h⟩ := h
    have hfst := phaseVerdict_ready_iff hverdict
    rw [mem_cons, or_and_right, ← ih hoths]
    cases verdict with
    | ready =>
      cases h
      rw [mem_cons]
      refine or_congr_left ⟨?_, And.left⟩
      rintro rfl
      exact ⟨rfl, hfst.mp rfl⟩
    | _ =>
      cases h
      refine ⟨.inr, ?_⟩
      rintro (⟨rfl, hrdy⟩ | hoth)
      · cases hfst.mpr hrdy
      · exact hoth

def effectiveReceipts (files : Files) (dir : TaskDir) (receipts : List Value) :
    Except Fault (List Value) :=
  selectOk (runtimeReceiptIsEffective files.text dir) receipts

/-- **The phases of the frontier.** -/
theorem mem_ready_iff {blocked : List String}
    (h : dependencyReadyFrontier dir files document phases receipts taskId = .ok (ready, blocked)) :
    ∃ effective, effectiveReceipts files dir receipts = .ok effective ∧
      ∀ phase, phase ∈ ready ↔ phase ∈ phases ∧
        ¬ Registered document taskId phase effective ∧
        unmetDependenciesForPhases files document [phase] effective false = .ok [] := by
  rw [dependencyReadyFrontier, bind_eq_ok] at h
  obtain ⟨effective, heffv, h⟩ := h
  rw [bind_eq_ok] at h
  obtain ⟨⟨found, errors⟩, hfnd, h⟩ := h
  cases h
  exact ⟨effective, heffv, mem_frontierFrom hfnd⟩

/-- The ledger has an effective submission, completion or manual delivery of the work item of
the phase. -/
def Delivered (files : Files) (dir : TaskDir) (document : Value) (taskId : String)
    (phase : String × String) (receipts : List Value) : Prop :=
  ∃ item, phaseWorkItem document phase = .ok (some item) ∧
    ∃ receipt ∈ receipts, runtimeReceiptIsEffective files.text dir receipt = .ok true ∧
      hasIdentity taskId item receipt = true ∧
      (receipt.get "event" = .str "dispatch_submitted" ∧
          hasConcreteRuntimeSubmissionProof receipt = .ok true ∨
        ∃ event ∈ ["dispatch_completed", "manual_delivery_attested", "manual_result_attested"],
          receipt.get "event" = .str event)

/-- **No delivered phase is listed again** iff each requested phase with a delivery also has a
v2 receipt that the frontier counts, or an unmet dependency. -/
theorem no_redispatch_iff {ready : List (String × String)} {blocked : List String}
    {effective : List Value}
    (h : dependencyReadyFrontier dir files document phases receipts taskId = .ok (ready, blocked))
    (heffective : effectiveReceipts files dir receipts = .ok effective) :
    (∀ phase ∈ ready, ¬ Delivered files dir document taskId phase receipts) ↔
      ∀ phase ∈ phases, Delivered files dir document taskId phase receipts →
        Registered document taskId phase effective ∨
          unmetDependenciesForPhases files document [phase] effective false ≠ .ok [] := by
  obtain ⟨found, hfound, hready⟩ := mem_ready_iff h
  cases hfound.symm.trans heffective
  constructor
  · intro hnever phase hphase hdelivered
    by_contra hneither
    rw [not_or, not_not] at hneither
    exact hnever phase ((hready phase).mpr ⟨hphase, hneither⟩) hdelivered
  · intro hcondition phase hlisted hdelivered
    obtain ⟨hphase, hunregistered, hmet⟩ := (hready phase).mp hlisted
    rcases hcondition phase hphase hdelivered with hregistered | hunmet
    · exact hunregistered hregistered
    · exact hunmet hmet

end Frontier

/-! ### Two frontiers -/

/-- No evidence and no correction cycle. -/
def bareFiles : Files where
  text _ := ""
  isFilled _ := false
  evidenceStatus := emptyDict
  correctionCycle := emptyDict

def sampleDocument : Value := ⟨.obj [("work_items", .arr [sampleItem.1])], by decide⟩

/-- A v2 submission is not listed again. -/
theorem no_redispatch_v2 :
    dependencyReadyFrontier (plainDir [sampleSubmission]) bareFiles sampleDocument
        [("agent", "implementer")] [sampleSubmission] "task" = .ok ([], []) ∧
      ∀ phase ∈ ([] : List (String × String)),
        ¬ Delivered bareFiles (plainDir [sampleSubmission]) sampleDocument "task" phase
          [sampleSubmission] := by
  have hfrontier : dependencyReadyFrontier (plainDir [sampleSubmission]) bareFiles sampleDocument
      [("agent", "implementer")] [sampleSubmission] "task" = .ok ([], []) := by decide +kernel
  have heffective : effectiveReceipts bareFiles (plainDir [sampleSubmission]) [sampleSubmission] =
      .ok [sampleSubmission] := rfl
  refine ⟨hfrontier, (no_redispatch_iff hfrontier heffective).mpr ?_⟩
  intro phase hphase _
  rw [mem_singleton.mp hphase]
  exact .inl ⟨sampleItem, rfl, sampleSubmission, mem_singleton_self _, rfl, by decide,
    "dispatch_submitted", by decide, rfl, fun _ => by decide +kernel⟩

/-- A v3 submission of an adopted runtime is listed again. -/
theorem v3_submission_redispatched :
    loadDispatchReceipts adoptedDir "task" = .ok [canonicalValue adoptedReceipt] ∧
      dependencyReadyFrontier adoptedDir bareFiles sampleDocument [("agent", "implementer")]
        [canonicalValue adoptedReceipt] "task" = .ok ([("agent", "implementer")], []) ∧
      Delivered bareFiles adoptedDir sampleDocument "task" ("agent", "implementer")
        [canonicalValue adoptedReceipt] := by
  exact ⟨load_adoptedDir, rfl, sampleItem, rfl, _, mem_singleton_self _, rfl, rfl,
    .inl ⟨rfl, concrete_sorted rfl (List.Perm.refl _)⟩⟩

end Valp.Dispatch
