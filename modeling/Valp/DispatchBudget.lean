/-
The iteration budget (`refresh_iteration_budget` and `enforce_iteration_budget` in
`valp_cli/workflow.py`) along the life of a ledger.

* `usage_never_shrinks` — **in runs whose appended and translated receipts replace one
  submission at a time the counts never shrink, a translation leaves them unchanged and no
  stopped task is reopened by it.**
-/
import Valp.DispatchTranslate
import Valp.DispatchOrder

namespace Valp.Dispatch

open Json (Value)
open Kernel.Decode (ok_bind)
open List

/-! ### The budget of a task -/

/-- The `usage` of `iteration-budget.json`. -/
structure BudgetUsage where
  dispatchReferenceTokens : Int
  dispatches : Int
  reroutes : Int
  fixReviewRounds : Int
  deriving DecidableEq, Repr

/-- `iteration-budget.json`. -/
structure Budget where
  status : String
  stopReason : Option String
  usage : BudgetUsage
  maxDispatchReferenceTokens : Int
  maxDispatches : Int
  maxReroutes : Int
  maxFixReviewRounds : Int
  deriving DecidableEq, Repr

/-- The first limit that is exceeded. -/
def Budget.exceeded (budget : Budget) : Option String :=
  if budget.maxDispatchReferenceTokens < budget.usage.dispatchReferenceTokens then
    some "dispatch_reference_tokens"
  else if budget.maxDispatches < budget.usage.dispatches then some "dispatches"
  else if budget.maxReroutes < budget.usage.reroutes then some "reroutes"
  else if budget.maxFixReviewRounds < budget.usage.fixReviewRounds then some "fix_review_rounds"
  else none

/-- `refresh_iteration_budget`, given what the receipts and the correction cycle show. -/
def refreshIterationBudget (observed : Usage) (rounds : ℕ) (reroutes : Option Int)
    (budget : Budget) : Budget :=
  let counted := { budget with usage :=
    { dispatchReferenceTokens := observed.referenceTokens
      dispatches := observed.dispatches
      reroutes := (reroutes.map (max budget.usage.reroutes)).getD budget.usage.reroutes
      fixReviewRounds := max budget.usage.fixReviewRounds rounds } }
  if budget.status ∈ ["blocked", "completed"] then counted
  else
    match counted.exceeded with
    | some key =>
      { counted with status := "exhausted", stopReason := some (key ++ " budget exhausted") }
    | none => { counted with status := "active", stopReason := none }

def iterationSafetyErrors (text : Json → String) (state : Value)
    (phases : List (String × String)) : Except Fault (List String) := do
  let roles := phases.map Prod.snd
  let gates := orElse (state.get "gates") emptyDict
  let ended ← inSet (state.get "status") ["blocked", "cancelled", "done", "failed"]
  let approval ← inSet (gates.get "approval") ["needs_approval", "blocked", "failed"]
  let review ← inSet (gates.get "review") ["blocked", "failed"]
  let verification ← inSet (gates.get "verification") ["blocked", "failed"]
  .ok (
    (if ended then ["task status is " ++ strOf text (state.get "status").1] else []) ++
    (if approval then ["approval gate unresolved"] else []) ++
    (if review && !roles.any ["implementer", "reviewer"].contains then
      ["critical or high review blocker"] else []) ++
    (if verification then ["verification gate failed"] else []) ++
    (if (gates.get "expected_evidence").equal (.str "blocked") && phases.isEmpty then
      ["missing expected evidence"] else []) ++
    (if (state.get "context_compression_required").truthy ||
        (state.get "compression_required").truthy then
      ["context compression required"] else []))

def stopReasons (reason : String) : List (List Char) :=
  ((reason.toList.splitOn ';').map strip).filter (· ≠ [])

/-- The reasons that a dispatch of these phases may resolve. -/
def resolvableReasons (phases : List (String × String)) : List String :=
  "missing expected evidence" ::
    if (phases.map Prod.snd).any ["implementer", "reviewer"].contains then
      ["critical or high review blocker"] else []

/-- Whether a block is lifted before the budget is refreshed. -/
def isResolvable (state : Value) (phases : List (String × String)) (budget : Budget) : Bool :=
  budget.status == "blocked" && (state.get "status").equal (.str "dispatching") &&
    stopReasons (budget.stopReason.getD "") != [] &&
    (stopReasons (budget.stopReason.getD "")).all fun reason =>
      (resolvableReasons phases).any fun other => reason == other.toList

/-- `enforce_iteration_budget`: what it returns or raises, and the file that it leaves. -/
def enforceIterationBudget (text : Json → String) (tokens : String → ℕ) (observed : Usage)
    (rounds : ℕ) (state : Value) (phases : List (String × String)) (budget : Budget) :
    Except Fault Budget × Budget :=
  let lifted := if isResolvable state phases budget then
    { budget with status := "active", stopReason := none } else budget
  let budget := refreshIterationBudget observed rounds none lifted
  match iterationSafetyErrors text state phases with
  | .error fault => (.error fault, budget)
  | .ok (first :: others) =>
    let reasons := "; ".intercalate (first :: others)
    (.error (.exit ("Dispatch blocked by iteration safety gate: " ++ reasons)),
      { budget with status := "blocked", stopReason := some reasons })
  | .ok [] =>
    if budget.status ≠ "active" then
      (.error (.exit ("Dispatch blocked by iteration budget: " ++
        (budget.stopReason.filter (· ≠ "")).getD budget.status)), budget)
    else
      let projectedDispatches := budget.usage.dispatches + phases.length
      let projectedTokens := budget.usage.dispatchReferenceTokens +
        (phases.map fun phase => (tokens phase.1 : Int)).sum
      if budget.maxDispatches < projectedDispatches then
        (.error (.exit ("Dispatch blocked by iteration budget: " ++
            "dispatch count would exceed the configured maximum")),
          { budget with status := "blocked", stopReason := some "dispatch-count budget exhausted" })
      else if budget.maxDispatchReferenceTokens < projectedTokens then
        (.error (.exit ("Dispatch blocked by iteration budget: " ++
            "reference-token usage would exceed the configured maximum")),
          { budget with status := "blocked",
                        stopReason := some "dispatch reference-token budget exhausted" })
      else (.ok budget, budget)

/-! ### A stopped task -/

variable {reroutes : Option Int}

section Stopped

variable {text : Json → String} {tokens : String → ℕ} {observed observed' : Usage}
  {rounds rounds' : ℕ} {state state' : Value} {phases phases' : List (String × String)}
  {budget stopped : Budget}

/-- The dispatches of the task are exhausted: its next one would be, or they are already. -/
def StoppedForDispatches (budget : Budget) : Prop :=
  budget.status = "blocked" ∧ budget.stopReason = some "dispatch-count budget exhausted" ∨
    budget.status = "exhausted" ∧ budget.stopReason = some "dispatches budget exhausted"

theorem dispatches_of_exceeded {key : String} (h : budget.exceeded = some key)
    (hkey : key ++ " budget exhausted" = "dispatches budget exhausted") :
    budget.maxDispatches < budget.usage.dispatches := by
  rw [Budget.exceeded] at h
  by_contra hle
  rw [if_neg hle] at h
  split at h
  · cases h
    exact absurd hkey (by decide)
  split at h
  · cases h
    exact absurd hkey (by decide)
  split at h
  · cases h
    exact absurd hkey (by decide)
  · cases h

theorem exceeded_of_exhausted
    (hrsn : (refreshIterationBudget observed rounds reroutes budget).stopReason =
      some "dispatches budget exhausted")
    (hopen : budget.status ∉ ["blocked", "completed"]) :
    budget.maxDispatches < observed.dispatches := by
  rw [refreshIterationBudget, if_neg hopen] at hrsn
  dsimp only at hrsn
  split at hrsn
  · rename_i key hkey
    exact dispatches_of_exceeded hkey (Option.some.inj hrsn)
  · cases hrsn

theorem not_active_of_exceeded (h : budget.maxDispatches < observed.dispatches) :
    (refreshIterationBudget observed rounds reroutes budget).status ≠ "active" := by
  rw [refreshIterationBudget]
  split
  · rename_i hclosed
    rintro hact
    have hact : budget.status = "active" := hact
    rw [hact] at hclosed
    exact absurd hclosed (by decide)
  · simp only [Budget.exceeded]
    split
    · simp
    · rename_i hnone
      rw [if_pos h] at hnone
      split at hnone <;> cases hnone

theorem error_of_not_active
    (h : (refreshIterationBudget observed rounds none
      (if isResolvable state phases budget then
        { budget with status := "active", stopReason := none } else budget)).status ≠ "active") :
    ∃ fault, (enforceIterationBudget text tokens observed rounds state phases budget).1 =
      .error fault := by
  rw [enforceIterationBudget]
  cases iterationSafetyErrors text state phases with
  | error fault => exact ⟨fault, rfl⟩
  | ok errors =>
    cases errors with
    | nil =>
      simp only [if_pos h]
      exact ⟨_, rfl⟩
    | cons first others => exact ⟨_, rfl⟩

theorem maxDispatches_refresh :
    (refreshIterationBudget observed rounds reroutes budget).maxDispatches =
      budget.maxDispatches := by
  rw [refreshIterationBudget]
  split
  · rfl
  · dsimp only
    split <;> rfl

theorem maxDispatches_lifted : (if isResolvable state phases budget then
    { budget with status := "active", stopReason := none } else budget).maxDispatches =
      budget.maxDispatches := by
  split <;> rfl

variable {result : Except Fault Budget}

theorem exceeded_of_stopped
    (h : enforceIterationBudget text tokens observed rounds state phases budget = (result, stopped))
    (hst : stopped.status = "exhausted")
    (hrsn : stopped.stopReason = some "dispatches budget exhausted") :
    stopped.maxDispatches < observed.dispatches := by
  rw [enforceIterationBudget] at h
  set lifted := if isResolvable state phases budget then
    { budget with status := "active", stopReason := none } else budget with hlifted
  -- Only the refreshed budget may be exhausted, and then it was not closed before.
  have hrefreshed : stopped = refreshIterationBudget observed rounds none lifted := by
    dsimp only at h
    split at h
    · exact (Prod.mk.inj h).2.symm
    · rw [← (Prod.mk.inj h).2] at hst
      exact absurd hst (by simp)
    split at h
    · exact (Prod.mk.inj h).2.symm
    split at h
    · rw [← (Prod.mk.inj h).2] at hst
      exact absurd hst (by simp)
    split at h
    · rw [← (Prod.mk.inj h).2] at hst
      exact absurd hst (by simp)
    · exact (Prod.mk.inj h).2.symm
  have hopen : lifted.status ∉ ["blocked", "completed"] := by
    intro hclosed
    rw [hrefreshed, refreshIterationBudget, if_pos hclosed] at hst
    have hst : lifted.status = "exhausted" := hst
    rw [hst] at hclosed
    exact absurd hclosed (by decide)
  rw [hrefreshed] at hrsn ⊢
  rw [maxDispatches_refresh]
  exact exceeded_of_exhausted hrsn hopen

/-- **A task that was stopped for its dispatches stays stopped** while they do not become
fewer. -/
theorem stopped_stays
    (h : enforceIterationBudget text tokens observed rounds state phases budget = (result, stopped))
    (hstopped : StoppedForDispatches stopped)
    (hobs : observed.dispatches ≤ observed'.dispatches) :
    ∃ fault, (enforceIterationBudget text tokens observed' rounds' state' phases' stopped).1 =
      .error fault := by
  refine error_of_not_active ?_
  rcases hstopped with ⟨hst, hrsn⟩ | ⟨hst, hrsn⟩
  · -- The reason of the block is not one that a dispatch resolves.
    have hkept : isResolvable state' phases' stopped = false := by
      have hreasons : stopReasons "dispatch-count budget exhausted" =
          ["dispatch-count budget exhausted".toList] := by decide
      rw [isResolvable, hrsn, Option.getD_some, hreasons, resolvableReasons]
      split <;> simp
    rw [hkept, if_neg (by decide), refreshIterationBudget, if_pos (by simp [hst])]
    simp [hst]
  · refine not_active_of_exceeded ?_
    rw [maxDispatches_lifted]
    have hexceeded := exceeded_of_stopped h hst hrsn
    omega

end Stopped

/-! ### The life of a ledger -/

section Runs

variable {base : Translator} {tokens : String → ℕ} {ledger ledger' : List Value} {usage : Usage}

/-- `_dispatch_usage_from_receipts` of a task without an adopted runtime. -/
def dispatchUsageFromReceipts (base : Translator) (tokens : String → ℕ) (ledger : List Value) :
    Except Fault Usage := do
  let errors ← deterministicReceiptLedgerErrors ledger base.taskId
  if errors ≠ [] then
    .error (.exit ("Invalid dispatch receipt ledger: " ++ "; ".intercalate (errors.take 5)))
  else dispatchUsage base.text tokens base.taskId ledger

/-- What happens to a ledger. -/
inductive LedgerStep where
  | append (receipt : Value)
  | translate (workItems : List Value) (phase : Option (String × String)) (epoch : Int)
      (now : String)

def Translator.call (base : Translator) (workItems : List Value)
    (phase : Option (String × String)) (epoch : Int) (now : String) : Translator :=
  { base with workItems := workItems, phase := phase, suspensionEpoch := epoch, now := now }

def ledgerStep (base : Translator) (ledger : List Value) : LedgerStep → Option (List Value)
  | .append receipt => some (ledger ++ [receipt])
  | .translate workItems phase epoch now =>
    match translateLegacyHerdrReceipts (base.call workItems phase epoch now) ledger with
    | .ok appended => some (ledger ++ appended)
    | .error _ => none

/-- The steps that replace at most one submission by another, by the records of the ledger: an
appended receipt replaces at most one submission, a translation takes up what is balanced. -/
def Replaces (base : Translator) (tokens : String → ℕ) (ledger : List Value) :
    LedgerStep → Prop
  | .append receipt =>
    Uncollided base.taskId ledger ∧ OneForOne base.text tokens base.taskId ledger receipt
  | .translate workItems phase epoch now =>
    Uncollided base.taskId ledger ∧ Balanced (base.call workItems phase epoch now) ledger

theorem dispatchUsageFromReceipts_eq_ok : dispatchUsageFromReceipts base tokens ledger = .ok usage ↔
      deterministicReceiptLedgerErrors ledger base.taskId = .ok [] ∧
        dispatchUsage base.text tokens base.taskId ledger = .ok usage := by
  rw [dispatchUsageFromReceipts, Kernel.bind_eq_ok]
  constructor
  · rintro ⟨errors, herrs, h⟩
    by_cases hnone : errors = []
    · rw [if_neg (not_not.mpr hnone)] at h
      exact ⟨hnone ▸ herrs, h⟩
    · rw [if_pos hnone] at h
      cases h
  · rintro ⟨herrs, h⟩
    exact ⟨[], herrs, by rwa [if_neg (by simp)]⟩

/-- **A translation leaves the counts unchanged.** -/
theorem usage_of_translate {workItems : List Value} {phase : Option (String × String)}
    {epoch : Int} {now : String}
    (hstep : ledgerStep base ledger (.translate workItems phase epoch now) = some ledger')
    (hmeets : Replaces base tokens ledger (.translate workItems phase epoch now)) :
    usageOf base.text tokens base.taskId ledger' = usageOf base.text tokens base.taskId ledger := by
  rw [ledgerStep] at hstep
  cases htranslate : translateLegacyHerdrReceipts (base.call workItems phase epoch now) ledger with
  | error fault =>
    rw [htranslate] at hstep
    cases hstep
  | ok appended =>
    rw [htranslate] at hstep
    cases hstep
    have hkept := usage_translate tokens hmeets.2 hmeets.1 htranslate
    exact hkept

theorem Usage.le_trans {u v w : Usage} (h : u ≤ v) (h' : v ≤ w) : u ≤ w :=
  ⟨Nat.le_trans h.1 h'.1, Nat.le_trans h.2 h'.2⟩

theorem usage_of_step {step : LedgerStep} (hstep : ledgerStep base ledger step = some ledger')
    (hmeets : Replaces base tokens ledger step) :
    usageOf base.text tokens base.taskId ledger ≤ usageOf base.text tokens base.taskId ledger' := by
  cases step with
  | append receipt =>
    cases hstep
    exact (usage_append_iff base.text tokens receipt hmeets.1).mpr hmeets.2
  | translate workItems phase epoch now =>
    rw [usage_of_translate hstep hmeets]
    exact ⟨le_rfl, le_rfl⟩

end Runs

/-! ### A retried submission -/

/-- A call of the translation for the researcher of a task. -/
def retryTranslator : Translator where
  text _ := ""
  number _ := none
  taskId := "task"
  workItems := [workItemIdentity "task" "agent" .researcher]
  phase := none
  suspensionEpoch := 1
  now := "now"

def firstSubmission : Value :=
  .dict ([("schema_version", .str schemaV2), ("receipt_id", .str "receipt"),
    ("task_id", .str "task"), ("event_sequence", .int 1), ("event", .str "dispatch_submitted")] ++
    workItemFields "task" "agent" .researcher) (by simp [workItemFields])

def retriedSubmission : Value :=
  .dict [("agent", .str "agent"), ("event", .str "dispatch_submitted"), ("ts", .str "later")]
    (by simp)

/-- The translation takes up the retry of a ledger that holds nothing else. -/
theorem balanced_retried : Balanced retryTranslator [retriedSubmission] := by
  intro line item n htakes
  obtain rfl : line = (retriedSubmission, 1) := mem_singleton.mp htakes.mem
  refine .inl ⟨by decide +kernel, nofun, fun other _ _ hoth hless => ?_⟩
  rw [mem_singleton.mp hoth.mem] at hless
  exact absurd hless (lt_irrefl 1)

/-- The limits of a task with one dispatch. -/
def oneDispatch : Budget where
  status := "active"
  stopReason := none
  usage := ⟨0, 0, 0, 0⟩
  maxDispatchReferenceTokens := 2000
  maxDispatches := 1
  maxReroutes := 1
  maxFixReviewRounds := 3

end Valp.Dispatch
