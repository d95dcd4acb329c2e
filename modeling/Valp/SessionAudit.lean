/-
The audit of Agent sessions (`check_agent_sessions` in `valp_cli/audit.py`).

- `ensure_herdr_agent_sessions` binds an Agent to a session of the task, generation after
  generation, with one provisioning receipt for each.
- `submit_herdr_dispatch` repeats the binding in its proof.  The proof is part of a v2 receipt;
  a v3 receipt has digests of what was proved, and not the binding.
- The audit looks for the binding in the `proof` of a submission.
-/
import Valp.DispatchBudget

namespace Valp.Session

open Json (Value)
open List
open Dispatch (canonicalValue emptyDict lower orElse strOrEmpty strip)
open Receipts (ProtocolReceipt)
open Run (exec)

/-! ### Sessions and submissions -/

/-- What a submission repeats of a binding in `agent-sessions.json`. -/
structure Binding where
  generation : Int
  /-- The `token` of its `runtime_identity`. -/
  identityToken : String
  ownership : Value

/-- A line of `agent-session-receipts.jsonl`. -/
structure SessionReceipt where
  adapter : String
  taskId : String
  agent : String
  event : String
  bindingRef : String
  binding : Binding

/-- A `dispatch_submitted` receipt, in the schema it was recorded in. -/
inductive Submission where
  | v2 (receipt : Value)
  | v3 (receipt : ProtocolReceipt)

/-- The receipt as the audit reads it. -/
def Submission.value : Submission → Value
  | .v2 receipt => receipt
  | .v3 receipt => canonicalValue receipt

/-- `agent-sessions.json`, the receipts of its sessions, and the submissions. -/
structure World where
  bindings : String → Option Binding
  sessionReceipts : List SessionReceipt
  submitted : List Submission

/-- The receipt of a session event. -/
def sessionReceipt (taskId agent event : String) (binding : Binding) : SessionReceipt :=
  ⟨"herdr", taskId, agent, event, "agent-sessions.json", binding⟩

/-- The `session_binding` of a submission. -/
def Binding.proof (b : Binding) : Value :=
  .dict [("ref", .str "agent-sessions.json"), ("generation", .int b.generation),
    ("identity_token", .str b.identityToken), ("ownership", b.ownership)] (by simp)

/-- The proof that `submit_herdr_dispatch` returns; `observed` are its other fields. -/
def submissionProof (observed : Value) (b : Binding) : Value :=
  (observed.set "runtime" (.str "HERDR")).set "session_binding" b.proof

/-- The v2 receipt of `write_herdr_submission_receipt`; `fields` are its other fields. -/
def submissionReceipt (fields : Value) (agent : String) (proof : Value) : Value :=
  ((fields.set "agent" (.str agent)).set "event" (.str "dispatch_submitted")).set "proof" proof

inductive Action where
  /-- `ensure_herdr_agent_sessions` makes a new session. -/
  | provision (agent identityToken : String) (ownership : Value)
  /-- A session is reused, or its bootstrap verified. -/
  | note (agent : String) (verified : Bool)
  | submit (agent : String) (fields observed : Value)
  /-- The submission where the v3 identity is available (`record_herdr_submission`). -/
  | submitV3 (agent : String) (receipt : ProtocolReceipt)

def World.start : World := ⟨fun _ => none, [], []⟩

def World.step (taskId : String) (w : World) : Action → Option World
  | .provision agent identityToken ownership =>
    let binding : Binding :=
      ⟨((w.bindings agent).elim 0 Binding.generation) + 1, identityToken, ownership⟩
    some { w with
      bindings := Function.update w.bindings agent (some binding)
      sessionReceipts := w.sessionReceipts ++
        [sessionReceipt taskId agent "agent_session_provisioned" binding] }
  | .note agent verified =>
    (w.bindings agent).map fun binding => { w with
      sessionReceipts := w.sessionReceipts ++ [sessionReceipt taskId agent
        (if verified then "agent_session_bootstrap_verified" else "agent_session_reused")
        binding] }
  | .submit agent fields observed =>
    (w.bindings agent).bind fun binding =>
      if fields.isObject ∧ observed.isObject then some { w with
        submitted := w.submitted ++
          [.v2 (submissionReceipt fields agent (submissionProof observed binding))] }
      else none
  | .submitV3 agent receipt =>
    (w.bindings agent).bind fun _ =>
      if receipt.draft.agent = agent ∧ receipt.draft.event = "dispatch_submitted" then
        some { w with submitted := w.submitted ++ [.v3 receipt] }
      else none

/-! ### The audit -/

section Audit

variable (text : Json → String) (taskId : String) (w : World) (receipt : Value)

/-- `receipt.get("proof") or {}`. -/
def proofOf : Value := orElse (receipt.get "proof") emptyDict

def proofBinding : Value := orElse ((proofOf receipt).get "session_binding") emptyDict

def World.boundToProvisioning : Bool :=
  let binding := proofBinding receipt
  (binding.get "ref").equal (.str "agent-sessions.json") &&
    w.sessionReceipts.any fun s =>
      s.adapter == "herdr" && s.taskId == taskId &&
        s.agent == strOrEmpty text (receipt.get "agent") &&
        s.event == "agent_session_provisioned" &&
        (Value.str s.bindingRef).equal (binding.get "ref") &&
        (Value.int s.binding.generation).equal (binding.get "generation") &&
        (Value.str s.binding.identityToken).equal (binding.get "identity_token") &&
        s.binding.ownership.equal (binding.get "ownership")

/-- What the loop over the submissions reports of one that is not superseded. -/
def World.submissionError : Option String :=
  let agent := strOrEmpty text (receipt.get "agent")
  if (w.bindings agent).isNone then
    some (agent ++ ": submitted dispatch has no owned session binding")
  else if !((proofBinding receipt).get "ref").equal (.str "agent-sessions.json") ||
      !w.boundToProvisioning text taskId receipt then
    some (agent ++ ": submission proof is not bound to agent-sessions.json")
  else if lower (String.ofList (strip (strOrEmpty text ((proofOf receipt).get "runtime")).toList)) ≠
      lower "herdr" then
    some (agent ++ ": submission proof names another runtime adapter")
  else none

end Audit

/-! ### What was recorded -/

variable {text : Json → String} {taskId : String} {w : World} {receipt : Value}

theorem get_orElse (v : Value) (k : String) : (orElse v emptyDict).get k = v.get k := by
  cases hv : v.truthy with
  | true => rw [orElse, if_pos hv]
  | false =>
    rw [orElse, if_neg (by simp [hv]), Dispatch.get_of_not_truthy hv]
    rfl

/-- A receipt whose proof repeats a binding that has its provisioning receipt. -/
def Bound (taskId : String) (w : World) (receipt : Value) : Prop :=
  ∃ agent binding, receipt.get "agent" = .str agent ∧
    (receipt.get "proof").get "runtime" = .str "HERDR" ∧
    (receipt.get "proof").get "session_binding" = binding.proof ∧ (w.bindings agent).isSome ∧
    sessionReceipt taskId agent "agent_session_provisioned" binding ∈ w.sessionReceipts

/-- The audit accepts it, whatever was provisioned since. -/
theorem Bound.submissionError (h : Bound taskId w receipt) :
    w.submissionError text taskId receipt = none := by
  obtain ⟨agent, binding, hag, hruntime, hpf, hsome, hmem⟩ := h
  have hname : strOrEmpty text (receipt.get "agent") = agent := by
    rw [hag, Dispatch.strOrEmpty_str]
  have hbind (k : String) : (proofBinding receipt).get k = binding.proof.get k := by
    rw [proofBinding, get_orElse, proofOf, get_orElse, hpf]
  have href : (binding.proof.get "ref").equal (.str "agent-sessions.json") := Value.equal_self _
  have hbd : w.boundToProvisioning text taskId receipt := by
    simp only [World.boundToProvisioning, hbind, hname, Bool.and_eq_true, any_eq_true]
    refine ⟨href, _, hmem, ?_⟩
    simp [sessionReceipt, Binding.proof, Value.get_dict]
  simp only [World.submissionError, hname, hbind, hbd, href, proofOf, get_orElse, hruntime,
    Dispatch.strOrEmpty_str]
  rw [if_neg (by simp [Option.isSome_iff_ne_none.mp hsome]), if_neg (by decide),
    if_neg (by decide)]

theorem submissionError_canonical (receipt : ProtocolReceipt) :
    w.submissionError text taskId (canonicalValue receipt) ≠ none := by
  have hpf : (canonicalValue receipt).get "proof" = .null := by
    have hmember : receipt.canonical.member? "proof" = none := by
      rw [ProtocolReceipt.canonical, Json.member?_record (by simp [ProtocolReceipt.fields])]
      rfl
    rw [Value.get]
    split
    · rfl
    · rename_i hsome
      cases hmember.symm.trans hsome
  have href : ((proofBinding (canonicalValue receipt)).get "ref").equal
      (.str "agent-sessions.json") = false := by
    rw [proofBinding, get_orElse, proofOf, get_orElse, hpf]
    rfl
  rw [World.submissionError, href]
  split <;> simp

/-! ### Runs -/

theorem Bound.mono {w' : World} (h : Bound taskId w receipt)
    (hbinds : ∀ agent, (w.bindings agent).isSome → (w'.bindings agent).isSome)
    (hrcpts : w.sessionReceipts ⊆ w'.sessionReceipts) : Bound taskId w' receipt := by
  obtain ⟨agent, binding, hag, hruntime, hpf, hsome, hmem⟩ := h
  exact ⟨agent, binding, hag, hruntime, hpf, hbinds agent hsome, hrcpts hmem⟩

/-- The bindings and the v2 submissions stand on provisioning receipts. -/
structure Recorded (taskId : String) (w : World) : Prop where
  provisioned : ∀ agent, ∀ binding ∈ w.bindings agent,
    sessionReceipt taskId agent "agent_session_provisioned" binding ∈ w.sessionReceipts
  bound : ∀ receipt, .v2 receipt ∈ w.submitted → Bound taskId w receipt

theorem Recorded.step {a : Action} {w' : World} (h : Recorded taskId w)
    (hstep : w.step taskId a = some w') : Recorded taskId w' := by
  cases a with
  | provision agent identityToken ownership =>
    cases hstep
    refine ⟨fun agent' binding hbind => ?_, fun receipt hrcpt =>
      (h.bound receipt hrcpt).mono (fun agent' hag => ?_) (by simp)⟩
    · by_cases hsame : agent' = agent
      · subst hsame
        simp_all
      · simp only [Function.update_of_ne hsame] at hbind
        exact mem_append_left _ (h.provisioned agent' binding hbind)
    · by_cases hsame : agent' = agent
      · simp [hsame]
      · simpa [Function.update_of_ne hsame] using hag
  | note agent verified =>
    obtain ⟨binding, hbind, rfl⟩ := Option.map_eq_some_iff.mp hstep
    exact ⟨fun agent' b hb => mem_append_left _ (h.provisioned agent' b hb),
      fun receipt hrcpt => (h.bound receipt hrcpt).mono (fun _ => id) (by simp)⟩
  | submit agent fields observed =>
    obtain ⟨binding, hbind, hstep⟩ := Option.bind_eq_some_iff.mp hstep
    obtain ⟨⟨hflds, hobs⟩, hstep⟩ := Option.ite_none_right_eq_some.mp hstep
    cases hstep
    refine ⟨h.provisioned, fun receipt hrcpt => ?_⟩
    rcases mem_append.mp hrcpt with hold | hnew
    · exact (h.bound receipt hold).mono (fun _ => id) (Subset.refl _)
    · cases mem_singleton.mp hnew
      refine ⟨agent, binding, ?_, ?_, ?_, by simp [hbind], h.provisioned agent _ hbind⟩
      all_goals simp [submissionReceipt, submissionProof, Value.get_set, hflds, hobs]
  | submitV3 agent receipt =>
    obtain ⟨binding, hbind, hstep⟩ := Option.bind_eq_some_iff.mp hstep
    obtain ⟨-, hstep⟩ := Option.ite_none_right_eq_some.mp hstep
    cases hstep
    refine ⟨h.provisioned, fun receipt hrcpt => ?_⟩
    exact (h.bound receipt (by simpa using hrcpt)).mono (fun _ => id) (Subset.refl _)

/-- **The audit accepts a submission of a run exactly if it was recorded as v2.** -/
theorem audit_binds_iff {actions : List Action} {s : Submission}
    (h : exec (World.step taskId) World.start actions = some w) (hmem : s ∈ w.submitted) :
    w.submissionError text taskId s.value = none ↔ ∃ receipt, s = .v2 receipt := by
  have hrecorded : Recorded taskId w :=
    Run.exec_invariant (fun _ _ _ hu hv => hu.step hv)
      ⟨by simp [World.start], by simp [World.start]⟩ h
  cases s with
  | v2 receipt => exact iff_of_true (hrecorded.bound receipt hmem).submissionError ⟨receipt, rfl⟩
  | v3 receipt => exact iff_of_false (submissionError_canonical receipt) nofun

/-- A submission, and a new session of its Agent afterwards. -/
def reprovisioned (submission : Action) : List Action :=
  let provision : Action := .provision "agent" "sha256:token" emptyDict
  [provision, submission, provision]

def v2Run : List Action := reprovisioned (.submit "agent" emptyDict emptyDict)

theorem v2_submission_bound : ∃ w s,
    exec (World.step "task") World.start v2Run = some w ∧ s ∈ w.submitted ∧
      (w.submissionError (fun _ => "") "task" s.value = none ↔ ∃ receipt, s = .v2 receipt) :=
  ⟨_, _, rfl, mem_cons_self, audit_binds_iff (show exec _ _ v2Run = _ from rfl) mem_cons_self⟩

theorem v3_submission_unbound : ∃ w,
    exec (World.step "task") World.start
      (reprovisioned (.submitV3 "agent" Dispatch.adoptedReceipt)) = some w ∧
    ∃ s ∈ w.submitted, w.submissionError (fun _ => "") "task" s.value ≠ none :=
  ⟨_, rfl, .v3 Dispatch.adoptedReceipt, mem_cons_self, submissionError_canonical _⟩

end Valp.Session
