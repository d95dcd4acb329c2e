/-
The dependency gate (`valp_cli/submission.py`).

A work item may be dispatched once its prerequisites are met: the latest terminal receipt of
each of them is a completion with valid evidence, or a fixed correction cycle has replaced
that evidence.  `dependency_order_errors` asks the same of a finished ledger.
-/
import Valp.DispatchMatchers

namespace Valp.Dispatch

open Json (Value)
open Queue (asStr exactInt)

/-! ### Evidence -/

def invalidEvidenceStatuses : List String := ["invalid", "superseded", "rejected", "blocked"]

/-- What the gate reads beside the receipts. -/
structure Files where
  text : Json → String
  /-- Whether a ref leads to a file of the task directory that is not empty. -/
  isFilled : String → Bool
  evidenceStatus : Value
  correctionCycle : Value

/-- The items of `for item in v or []`. -/
def iterate (v : Value) : Except Fault (List Value) :=
  if !v.truthy then .ok []
  else
    match hv : v.1 with
    | .arr items => .ok (items.attach.map fun item => ⟨item.1, by
        have hdist := v.2
        rw [hv, Json.distinctKeys, Json.distinctItems_eq_all, List.all_eq_true] at hdist
        exact hdist item.1 item.2⟩)
    | .str s => .ok (s.toList.map fun c => .str (String.singleton c))
    | .obj members => .ok (members.map fun m => .str m.1)
    | _ => .error (.python "TypeError")

/-- `[x for x in xs if keep(x)]`. -/
def selectOk {α : Type} (keep : α → Except Fault Bool) : List α → Except Fault (List α)
  | [] => .ok []
  | x :: xs => do
    let kept ← keep x
    let others ← selectOk keep xs
    .ok (if kept then x :: others else others)

theorem mem_of_selectOk {α : Type} {keep : α → Except Fault Bool} {xs ys : List α}
    (h : selectOk keep xs = .ok ys) (x : α) : x ∈ ys ↔ x ∈ xs ∧ keep x = .ok true := by
  induction xs generalizing ys with
  | nil =>
    cases h
    simp
  | cons y xs ih =>
    rw [selectOk, Kernel.bind_eq_ok] at h
    obtain ⟨kept, hkept, h⟩ := h
    rw [Kernel.bind_eq_ok] at h
    obtain ⟨others, hoths, h⟩ := h
    cases h
    rw [List.mem_cons, or_and_right, ← ih hoths]
    cases kept with
    | false =>
      refine ⟨.inr, ?_⟩
      rintro (⟨rfl, hkeep⟩ | hoth)
      · cases hkept.symm.trans hkeep
      · exact hoth
    | true =>
      rw [if_pos rfl, List.mem_cons]
      refine or_congr_left ⟨?_, And.left⟩
      rintro rfl
      exact ⟨rfl, hkept⟩

/-- `v or other`. -/
def orElse (v other : Value) : Value := if v.truthy then v else other

/-- `{}`. -/
def emptyDict : Value := .dict [] (by simp)

/-- The characters of `text.lower()`, as far as a comparison with an ASCII word goes: of the
characters outside ASCII only the Kelvin sign becomes an ASCII letter. -/
def lower (s : String) : List Char :=
  s.toList.map fun c => if c = '\u212a' then 'k' else c.toLower

/-- `text.strip()`. -/
def strip (s : List Char) : List Char :=
  ((s.dropWhile JsonLines.isWhite).reverse.dropWhile JsonLines.isWhite).reverse

def safeTaskRef (ref : String) : Bool :=
  ref != "" && ref.toList.head? != some '/' &&
    ref.toList.all (fun c => c != '\\' && c != '\n' && c != '\r') &&
    !(ref.toList.splitOn '/').contains ['.', '.']

def evidenceStatusValue (files : Files) (ref : String) : List Char :=
  let records := orElse (orElse (files.evidenceStatus.get "evidence")
    (files.evidenceStatus.get "items")) emptyDict
  if !records.isObject then "valid".toList
  else
    let record := orElse (records.get ref) emptyDict
    let status := if record.isObject then record.get "status" else record
    lower (strOr files.text status "valid")

def validEvidenceRef (files : Files) (ref : String) : Bool :=
  safeTaskRef ref && files.isFilled ref &&
    !invalidEvidenceStatuses.any fun status => evidenceStatusValue files ref == status.toList

/-! ### The receipt of a prerequisite -/

/-- `_latest_terminal_receipt`; `{}` is `none`. -/
def latestTerminalReceipt (text : Json → String) (receipts : List Value) (agent : String)
    (requiredRefs : List String) (taskId : String) (identity : Value) (strictIdentity : Bool) :
    Except Fault (Option Value) :=
  receipts.foldlM (fun latest receipt => do
    if !(receipt.get "agent").equal (.str agent) then .ok latest
    else if !(← inSet (receipt.get "event") terminalEvents) then .ok latest
    else if ← receiptMatches text receipt (strOrEmpty text (receipt.get "event")) requiredRefs
        taskId identity strictIdentity then .ok (some receipt)
    else .ok latest) none

/-- Whether a round of a correction cycle binds the replacement of these refs. -/
def bindsRound (text : Json → String) (requiredRefs : List String) (round : Value) :
    Except Fault Bool := do
  if !round.isObject then .ok false
  else if !(round.get "status").equal (.str "fixed") then .ok false
  else if !(round.get "trigger").equal (.str "evidence_superseded") then .ok false
  else if !covers (← refList text (round.get "rejected_refs")) requiredRefs then .ok false
  else
    let receiptRefs ← refList text (round.get "receipt_refs")
    .ok (receiptRefs.contains "dispatch-receipts.jsonl")

/-- The generation of a receipt that may replace one of the identity. -/
def replacementGeneration (agent taskId : String) (identity receipt : Value)
    (requestedGeneration : Int) : Except Fault (Option Int) := do
  if !(receipt.get "schema_version").equal (.str schemaV2) then .ok none
  else if !(receipt.get "task_id").equal (.str taskId) then .ok none
  else if !(receipt.get "agent").equal (.str agent) then .ok none
  else if !(receipt.get "agent").equal (identity.get "agent") then .ok none
  else if !(receipt.get "role").equal (identity.get "role") then .ok none
  else if !(receipt.get "work_item_id").equal (identity.get "work_item_id") then .ok none
  else if !(← inSet (receipt.get "event") terminalEvents) then .ok none
  else
    match exactInt (receipt.get "dispatch_generation"), asStr (receipt.get "dispatch_id") with
    | some generation, some dispatchId =>
      if generation ≤ requestedGeneration ∨ dispatchId = "" ∨
          (receipt.get "dispatch_id").equal (identity.get "dispatch_id") = true then .ok none
      else .ok (some generation)
    | _, _ => .ok none

/-- `latest_by_generation[generation] = receipt`. -/
def setGeneration (generation : Int) (receipt : Value) :
    List (Int × Value) → List (Int × Value)
  | [] => [(generation, receipt)]
  | entry :: entries =>
    if entry.1 = generation then (generation, receipt) :: entries
    else entry :: setGeneration generation receipt entries

/-- Whether the refs of a replacement are final, bound by a round and valid. -/
def replacementValid (files : Files) (finalRefs : List String) (rounds : List Value)
    (receipt : Value) : Except Fault Bool := do
  let refs ← refList files.text (receipt.get "expected_refs")
  if refs = [] then .ok false
  else if !covers finalRefs refs then .ok false
  else if !(← rounds.anyM fun round =>
      (refList files.text (round.get "evidence_refs")).map (covers · refs)) then .ok false
  else .ok (refs.all (validEvidenceRef files))

/-- The candidate of the highest generation; the generations differ. -/
def highestGeneration (entries : List (Int × Value)) : Option Value :=
  (entries.foldl (fun best entry =>
    match best with
    | some (generation, _) => if generation < entry.1 then some entry else best
    | none => some entry) none).map Prod.snd

def latestFixedCorrectionReceipt (files : Files) (receipts : List Value) (agent event : String)
    (requiredRefs : List String) (taskId : String) (identity : Value) :
    Except Fault (Option Value) := do
  let cycle := files.correctionCycle
  if !((cycle.get "schema_version").equal (.str "valp-correction-cycle.v1") &&
      (cycle.get "task_id").equal (.str taskId) && (cycle.get "status").equal (.str "fixed") &&
      (cycle.get "final_outcome").equal (.str "fixed")) then .ok none
  else if requiredRefs = [] || !requiredRefs.all fun ref =>
      evidenceStatusValue files ref == "superseded".toList then .ok none
  else
    let finalRefs ← refList files.text (cycle.get "final_evidence_refs")
    let rounds ← selectOk (bindsRound files.text requiredRefs) (← iterate (cycle.get "rounds"))
    if rounds = [] then .ok none
    else
      match exactInt (identity.get "dispatch_generation") with
      | none => .ok none
      | some requested =>
        let latest ← receipts.foldlM (fun latest receipt => do
          match ← replacementGeneration agent taskId identity receipt requested with
          | none => .ok latest
          | some generation =>
            if ← replacementValid files finalRefs rounds receipt then
              .ok (setGeneration generation receipt latest)
            else .ok latest) []
        .ok (highestGeneration (latest.filter fun entry =>
          (entry.2.get "event").equal (.str event)))

def latestQualifyingPrerequisiteReceipt (files : Files) (receipts : List Value) (agent : String)
    (requiredRefs : List String) (event taskId : String) (identity : Value)
    (strictIdentity : Bool) : Except Fault (Option Value) := do
  let latest ← latestTerminalReceipt files.text receipts agent requiredRefs taskId identity
    strictIdentity
  let matching ← match latest with
    | none => .ok false
    | some receipt =>
      receiptMatches files.text receipt event requiredRefs taskId identity strictIdentity
  if matching && requiredRefs.all (validEvidenceRef files) then .ok latest
  else if !strictIdentity || !identity.truthy then .ok none
  else latestFixedCorrectionReceipt files receipts agent event requiredRefs taskId identity

/-! ### The gate and the audit of the order -/

/-- `_dependency_work_item`; `None` is `null`. -/
def dependencyWorkItem (document : Value) (workItemId : String) : Except Fault Value := do
  let items ← iterate (document.get "work_items")
  .ok ((items.find? fun item =>
    item.isObject && (item.get "work_item_id").equal (.str workItemId)).getD .null)

/-- Whether the document asks for the identity of the work items. -/
def strictDocument (document : Value) (manualMode : Bool) : Bool :=
  (document.get "schema_version").equal (.str "valp-submission-dependencies.v2") && !manualMode

def prerequisiteEvent (manualMode : Bool) : String :=
  if manualMode then "manual_result_attested" else "dispatch_completed"

def dependentEvent (manualMode : Bool) : String :=
  if manualMode then "manual_delivery_attested" else "dispatch_submitted"

/-- The receipt that meets the prerequisite of a dependency. -/
def prerequisiteReceipt (files : Files) (document dependency : Value) (receipts : List Value)
    (manualMode : Bool) : Except Fault (Option Value) := do
  let refs ← refList files.text (dependency.get "prerequisite_refs")
  let identity ← dependencyWorkItem document
    (strOrEmpty files.text (dependency.get "prerequisite_work_item_id"))
  latestQualifyingPrerequisiteReceipt files receipts
    (strOrEmpty files.text (dependency.get "prerequisite_agent")) refs
    (prerequisiteEvent manualMode) (strOrEmpty files.text (document.get "task_id")) identity
    (strictDocument document manualMode)

/-- The phase that a dependency holds back. -/
def dependentPhase (text : Json → String) (dependency : Value) : String × String :=
  (strOrEmpty text (dependency.get "dependent_agent"),
    strOrEmpty text (dependency.get "dependent_role"))

def unmetDependenciesForPhases (files : Files) (document : Value)
    (phases : List (String × String)) (receipts : List Value) (manualMode : Bool) :
    Except Fault (List String) := do
  let dependencies ← iterate (document.get "dependencies")
  let errors ← dependencies.mapM fun dependency => do
    if !dependency.isObject then .ok ["invalid dependency entry"]
    else if !phases.contains (dependentPhase files.text dependency) then .ok []
    else
      match ← prerequisiteReceipt files document dependency receipts manualMode with
      | some _ => .ok []
      | none =>
        .ok [strOr files.text (dependency.get "id") "unknown" ++ " completion receipt"]
  .ok errors.flatten

/-- What `dependency_order_errors` says about one receipt and one dependency. -/
def receiptOrderErrors (files : Files) (document dependency : Value) (manualMode : Bool)
    (dependentRefs : List String) (dependentIdentity : Value) (earlier : List Value)
    (receipt : Value) : Except Fault (List String) := do
  let strict := strictDocument document manualMode
  let name := if dependency.has "id" then strOf files.text (dependency.get "id").1 else "unknown"
  let line := toString (earlier.length + 1)
  if strict && !(← if strict then isVersioned receipt else .ok true) then .ok []
  else if !(receipt.get "agent").equal (dependency.get "dependent_agent") then .ok []
  else if !(← receiptMatches files.text receipt (dependentEvent manualMode) dependentRefs "" .null
      false) then .ok []
  else if !(← receiptMatches files.text receipt (dependentEvent manualMode) dependentRefs
      (strOrEmpty files.text (document.get "task_id")) dependentIdentity strict) then
    .ok [name ++ " dependent receipt identity mismatch at line " ++ line]
  else
    match ← prerequisiteReceipt files document dependency earlier manualMode with
    | some _ => .ok []
    | none => .ok [name ++ " was not satisfied before receipt line " ++ line]

/-- The loop over the receipts behind those that were read. -/
def orderErrorsFrom (files : Files) (document dependency : Value) (manualMode : Bool)
    (dependentRefs : List String) (dependentIdentity : Value) (earlier : List Value) :
    List Value → Except Fault (List String)
  | [] => .ok []
  | receipt :: receipts => do
    let errors ← receiptOrderErrors files document dependency manualMode dependentRefs
      dependentIdentity earlier receipt
    let more ← orderErrorsFrom files document dependency manualMode dependentRefs
      dependentIdentity (earlier ++ [receipt]) receipts
    .ok (errors ++ more)

def dependencyOrderErrors (files : Files) (document : Value) (receipts : List Value)
    (manualMode : Bool) : Except Fault (List String) := do
  let dependencies ← iterate (document.get "dependencies")
  let errors ← dependencies.mapM fun dependency => do
    if !dependency.isObject then .ok ["invalid dependency entry"]
    else
      let _ ← refList files.text (dependency.get "prerequisite_refs")
      let dependentRefs ← refList files.text (dependency.get "dependent_refs")
      let dependentIdentity ← dependencyWorkItem document
        (strOrEmpty files.text (dependency.get "dependent_work_item_id"))
      orderErrorsFrom files document dependency manualMode dependentRefs dependentIdentity []
        receipts
  .ok errors.flatten

end Valp.Dispatch
