/-
The cancellation of a LangGraph run (`cancel_langgraph_run` of `valp_cli/langgraph_adapter.py`).

A call asks the provider for the run, requests its cancellation, waits until the run is
interrupted, and leaves a proof and an ABI observation.  A later call with the same obligation
answers with the two files if there is a proof, and asks the provider for the run otherwise.

* `cancel_retry_iff` — **a second call returns exactly if the run has not ended without a proof
  and the observation is not missing beside it**.
-/
import Mathlib.Logic.Relation
import Valp.ControlReceipts
import Valp.DispatchTranslate

namespace Valp.Langgraph

open Control (Root digestValue digestWithout sealed)
open Dispatch (Adopted strOf strOr inSet intOf refList orElse emptyDict listOf)
open Durable
open Json (Value)
open Kernel (DocumentFile isDigest)
open Queue (safeRef)
open Durable.Ensures (lift_bind write_bind)

/-! ### The call -/

def terminalRunStatuses : List String := ["success", "error", "timeout", "interrupted"]

/-- The answers of the provider: to the first `GET`, to the cancel request, and to the polls
behind it up to the deadline. -/
structure Provider where
  current : Value
  response : Value
  polls : List Value

/-- A call with the files that it only reads. -/
structure Call where
  task : Adopted
  root : Root
  /-- `int` of a text. -/
  number : String → Option Int
  runId : String
  submission : DocumentFile Value
  obligation : String

/-- The files that a call writes beside `abi-adoption.json`, which it does not read. -/
structure Files where
  proof : DocumentFile Value
  observation : DocumentFile Value

/-- The cancel request and the writes. -/
inductive Step where
  | request
  | proof (v : Value)
  | observation (v : Value)
  | adoption

def Step.apply : Step → Files → Files
  | .request, s => s
  | .proof v, s => { s with proof := .document v }
  | .observation v, s => { s with observation := .document v }
  | .adoption, s => s

/-- The text of an exception of a Python value. -/
def python {α : Type} (x : Except Dispatch.Fault α) : Except String α :=
  x.mapError fun
    | .exit message => message
    | .python name => name

/-- `document[name]`. -/
def item (document : Value) (name : String) : Except String Value :=
  if document.has name then .ok (document.get name) else .error "KeyError"

def cancelObligationPayload (obligation : String) : Except String Value :=
  if !"adapter_cancel:".toList.isPrefixOf obligation.toList then
    .error "LangGraph cancellation obligation is malformed"
  else
    match Json.codec.loads (obligation.toList.drop 15) with
    | none => .error "LangGraph cancellation obligation is malformed"
    | some payload =>
      if !(payload.isObject && payload.keys.isPerm
          ["task_id", "work_item_id", "attempt_id", "dispatch_id", "dispatch_generation"]) then
        .error "LangGraph cancellation obligation is incomplete"
      else .ok payload

namespace Call

variable (call : Call)

/-- The identity that the obligation has to name. -/
def expected (submission : Value) : Value :=
  .dict [("task_id", .str call.task.taskId),
    ("work_item_id", submission.get "work_item_id"),
    ("attempt_id", submission.get "attempt_id"),
    ("dispatch_id", submission.get "dispatch_id"),
    ("dispatch_generation", submission.get "dispatch_generation")] (by simp)

/-- The checks before the files of the run are read. -/
def check : Except String Value := do
  let (installationId, leaderEpoch) ← Dispatch.langgraphIdentity call.task call.root
  call.task.requireUnmixedV3Ledger
  match call.submission with
  | .document submission =>
    if !submission.isObject then .error "AttributeError"
    let matched := (submission.get "task_id").equal (.str call.task.taskId) &&
      (submission.get "run_id").equal (.str call.runId) &&
      (submission.get "installation_id").equal (.str installationId) &&
      (submission.get "leader_epoch").equal (.int leaderEpoch) &&
      (submission.get "attempt_id").equal (.str ("langgraph:" ++ call.runId))
    let named ← if matched then
        (cancelObligationPayload call.obligation).map (·.equal (call.expected submission))
      else .ok false
    if !named then
      .error "LangGraph cancellation obligation does not match submission identity"
    let _ ← Dispatch.loadRuntimeV3Receipts .langgraph (call.task.runtime .langgraph call.root)
    .ok submission
  | _ => .error ("Cannot load LangGraph submission " ++ call.runId)

def runRef : String := "runtime/langgraph/" ++ call.runId

def proofRef : String := call.runRef ++ "/cancellation-proof.json"

def result (proof observation : Value) : Value :=
  .dict [("status", .str "cancelled"), ("run_ref", .str call.runRef),
    ("proof_ref", .str call.proofRef), ("proof", proof), ("observation", observation)] (by simp)

/-- The answer out of the files, if there is a proof. -/
def prior (s : Files) : Except String (Option Value) :=
  match s.proof with
  | .missing => .ok none
  | .malformed => .error "LangGraph cancellation proof is malformed"
  | .document prior =>
    if !prior.isObject then .error "AttributeError"
    else if !((prior.get "schema_version").equal (.str "valp-adapter-cancellation-proof.v1") &&
        (prior.get "adapter_id").equal (.str "langgraph") &&
        (prior.get "obligation").equal (.str call.obligation) &&
        (prior.get "proof_digest").equal (.str (digestWithout prior "proof_digest"))) then
      .error "LangGraph cancellation proof conflicts"
    else
      match s.observation with
      | .document observation => .ok (some (call.result prior observation))
      | _ => .error "LangGraph cancellation ABI observation is missing"

/-- The thread of the run and the status that the provider gives for it. -/
def running (submission current : Value) : Except String (String × String) := do
  let _ ← item submission "api_url"
  let thread ← item submission "thread_id"
  if !(orElse current emptyDict).isObject then .error "AttributeError"
  let status := strOr call.task.text ((orElse current emptyDict).get "status") "unknown"
  if terminalRunStatuses.contains status then
    .error ("LangGraph run is already terminal and cannot prove cancellation: " ++ status)
  .ok (strOf call.task.text thread.1, status)

end Call

/-- The wait for the run to be interrupted; no poll is left behind the deadline. -/
def awaitInterrupted : List Value → Except String Value
  | [] => .error "LangGraph cancellation was not confirmed by an interrupted terminal observation"
  | value :: polls => do
    let terminal := if value.isObject then value else emptyDict
    if (terminal.get "status").equal (.str "interrupted") then .ok terminal
    else if ← python (inSet (terminal.get "status") terminalRunStatuses) then
      .error "LangGraph cancellation was not confirmed by an interrupted terminal observation"
    else awaitInterrupted polls

namespace Call

variable (call : Call)

def proof (submission : Value) (thread status : String) (response terminal : Value) :
    Except String Value := do
  let workItemId ← item submission "work_item_id"
  let attemptId ← item submission "attempt_id"
  let dispatchId ← item submission "dispatch_id"
  let generation ← python (intOf call.number (← item submission "dispatch_generation"))
  .ok (sealed [
    ("schema_version", .str "valp-adapter-cancellation-proof.v1"),
    ("adapter_id", .str "langgraph"),
    ("abi_version", .str "1.0"),
    ("task_id", .str call.task.taskId),
    ("work_item_id", .str (strOf call.task.text workItemId.1)),
    ("attempt_id", .str (strOf call.task.text attemptId.1)),
    ("dispatch_id", .str (strOf call.task.text dispatchId.1)),
    ("dispatch_generation", .int generation),
    ("obligation", .str call.obligation),
    ("runtime_identity", .dict [("thread_id", .str thread), ("run_id", .str call.runId)] (by simp)),
    ("pre_cancel_status", .str status),
    ("provider_response_digest", .str (digestValue response)),
    ("terminal_observation_digest", .str (digestValue terminal)),
    ("terminal_status", .str "interrupted"),
    ("acknowledged", .bool true)] "proof_digest" (by simp))

end Call

structure AdapterRequest where
  requestId : String
  operation : String
  installationId : String
  leaderEpoch : Int
  taskId : String
  workItemId : String
  attemptId : String
  dispatchId : String
  dispatchGeneration : Int
  payloadDigest : String
  expectedEvidenceRefs : List String

namespace AdapterRequest

variable (request : AdapterRequest)

/-- The checks of `__post_init__`. -/
def isValid : Bool :=
  [request.requestId, request.installationId, request.taskId, request.workItemId,
      request.attemptId, request.dispatchId].all (· != "") &&
    0 ≤ request.leaderEpoch && 0 ≤ request.dispatchGeneration && isDigest request.payloadDigest &&
    request.expectedEvidenceRefs.Nodup && request.expectedEvidenceRefs.all safeRef

def canonical : Value :=
  .dict [("schema_version", .str "valp-adapter-request.v1"),
    ("request_id", .str request.requestId),
    ("operation", .str request.operation),
    ("installation_id", .str request.installationId),
    ("leader_epoch", .int request.leaderEpoch),
    ("task_id", .str request.taskId),
    ("work_item_id", .str request.workItemId),
    ("attempt_id", .str request.attemptId),
    ("dispatch_id", .str request.dispatchId),
    ("dispatch_generation", .int request.dispatchGeneration),
    ("payload_digest", .str request.payloadDigest),
    ("expected_evidence_refs", listOf (request.expectedEvidenceRefs.map .str))] (by simp)

end AdapterRequest

namespace Call

variable (call : Call)

/-- `_abi_request`, of a cancellation. -/
def abiRequest (submission : Value) : Except String AdapterRequest := do
  let text := fun v : Value => strOf call.task.text v.1
  let taskId ← item submission "task_id"
  let attemptId ← item submission "attempt_id"
  let payloadDigest ← item submission "payload_digest"
  let installationId ← item submission "installation_id"
  let leaderEpoch ← python (intOf call.number (← item submission "leader_epoch"))
  let workItemId ← item submission "work_item_id"
  let dispatchId ← item submission "dispatch_id"
  let generation ← python (intOf call.number (← item submission "dispatch_generation"))
  let refs ← python (refList call.task.text (submission.get "expected_refs"))
  let request : AdapterRequest := {
    requestId := digestValue (.dict [("adapter_id", .str "langgraph"), ("operation", .str "cancel"),
      ("task_id", taskId), ("attempt_id", attemptId), ("payload_digest", payloadDigest)] (by simp))
    operation := "cancel"
    installationId := text installationId
    leaderEpoch := leaderEpoch
    taskId := text taskId
    workItemId := text workItemId
    attemptId := text attemptId
    dispatchId := text dispatchId
    dispatchGeneration := generation
    payloadDigest := text payloadDigest
    expectedEvidenceRefs := refs }
  if request.isValid then .ok request else .error "invalid Adapter request"

/-- The ABI observation of a cancellation with this proof. -/
def observation (submission : Value) (thread proofDigest : String) : Except String Value := do
  let request ← call.abiRequest submission
  if !(isDigest proofDigest && safeRef call.proofRef) then
    .error "invalid Adapter provenance segment"
  else .ok (.dict [("schema_version", .str "valp-adapter-observation.v1"),
    ("observation_id", .str (digestValue (.dict [("request_id", .str request.requestId),
      ("operation", .str "cancel"), ("proof_digest", .str proofDigest)] (by simp)))),
    ("request", request.canonical),
    ("sequence", .int 1),
    ("status", .str "cancelled"),
    ("provenance", listOf [.dict [
      ("segment_id", .str (request.requestId ++ ":cancel")),
      ("sequence", .int 0),
      ("adapter_id", .str "langgraph"),
      ("abi_version", .str "1.0"),
      ("input_identity", .str request.requestId),
      ("input_digest", .str request.payloadDigest),
      ("output_identity", .str ("langgraph:" ++ thread ++ ":" ++ call.runId ++ ":interrupted")),
      ("output_digest", .str proofDigest),
      ("proof_kind", .str "process_bound"),
      ("evidence_refs", listOf [.str call.proofRef]),
      ("acknowledged", .bool true)] (by simp)]),
    ("evidence_refs", listOf [.str call.proofRef]),
    ("runtime_identity", .str (thread ++ ":" ++ call.runId ++ ":interrupted"))] (by simp))

end Call

def write (step : Step) : Durable Step Files String Unit := Durable.write step step.apply

/-- The part of `cancel_langgraph_run` behind the lookup of a proof. -/
def cancelRun (call : Call) (provider : Provider) (submission : Value) :
    Durable Step Files String Value := do
  let (thread, status) ← lift (call.running submission provider.current)
  write .request
  let terminal ← lift (awaitInterrupted provider.polls)
  let proof ← lift (call.proof submission thread status provider.response terminal)
  write (.proof proof)
  let observation ← lift
    (call.observation submission thread (strOf call.task.text (proof.get "proof_digest").1))
  write (.observation observation)
  write .adoption
  pure (call.result proof observation)

def cancelLanggraphRun (call : Call) (provider : Provider) : Durable Step Files String Value := do
  let submission ← lift call.check
  match ← observe call.prior with
  | some result => pure result
  | none => cancelRun call provider submission

/-! ### What a call leaves behind -/

section Stops

variable {call : Call} {submission proof : Value} {s : Files} {provider : Provider}

structure IsProof (call : Call) (proof : Value) : Prop where
  object : proof.isObject = true
  schema : proof.get "schema_version" = .str "valp-adapter-cancellation-proof.v1"
  adapter : proof.get "adapter_id" = .str "langgraph"
  obligation : proof.get "obligation" = .str call.obligation
  digest : proof.get "proof_digest" = .str (digestWithout proof "proof_digest")

theorem isProof_of_proof {thread status : String} {response terminal : Value}
    (h : call.proof submission thread status response terminal = .ok proof) :
    IsProof call proof := by
  simp only [Call.proof, Kernel.bind_eq_ok, Except.ok.injEq] at h
  obtain ⟨_, -, _, -, _, -, _, -, _, -, rfl⟩ := h
  exact ⟨rfl, Control.get_sealed (Json.mem_of_lookup rfl),
    Control.get_sealed (Json.mem_of_lookup rfl), Control.get_sealed (Json.mem_of_lookup rfl),
    Control.sealed_digest⟩

/-- The files behind stopped calls. -/
inductive Left (call : Call) : Files → Prop where
  | fresh : Left call ⟨.missing, .missing⟩
  | proved {p : Value} (h : IsProof call p) : Left call ⟨.document p, .missing⟩
  | observed {p : Value} (h : IsProof call p) (observation : Value) :
    Left call ⟨.document p, .document observation⟩

/-- The steps that a call may take, by the files it finds. -/
def Allowed (call : Call) (s : Files) : Step → Prop
  | .proof v => IsProof call v ∧ s.observation = .missing
  | .observation _ => s.proof ≠ .missing
  | _ => True

/-- **One step.** -/
theorem Left.step (h : Left call s) {step : Step} (hstep : Allowed call s step) :
    Left call (step.apply s) := by
  cases step with
  | request => exact h
  | proof v =>
    obtain ⟨hpf, hmiss⟩ := hstep
    cases h with
    | fresh => exact .proved hpf
    | proved _ => exact .proved hpf
    | observed _ _ => cases hmiss
  | observation v =>
    cases h with
    | fresh => exact absurd rfl hstep
    | proved hpf => exact .observed hpf v
    | observed hpf _ => exact .observed hpf v
  | adoption => exact h

theorem cancelRun_ensures : Ensures Step.apply (Allowed call)
    (cancelRun call provider submission) ⟨.missing, .missing⟩ fun _ _ => True := by
  refine lift_bind ?_
  rintro ⟨thread, status⟩ -
  refine write_bind trivial (lift_bind fun terminal _ => ?_)
  refine lift_bind fun proof hpf => ?_
  refine write_bind ⟨isProof_of_proof hpf, rfl⟩ ?_
  refine lift_bind fun observation _ => write_bind nofun ?_
  exact write_bind trivial (.pure trivial)

theorem prior_proved (h : IsProof call proof) (observation : DocumentFile Value) :
    call.prior ⟨.document proof, observation⟩ =
      match observation with
      | .document observation => .ok (some (call.result proof observation))
      | _ => .error "LangGraph cancellation ABI observation is missing" := by
  simp only [Call.prior, h.object, h.schema, h.adapter, h.obligation, h.digest, Value.equal_self]
  rfl

/-- A call keeps what stopped calls leave. -/
theorem Left.ensures (h : Left call s) : Ensures Step.apply (Allowed call)
    (cancelLanggraphRun call provider) s fun _ _ => True := by
  refine lift_bind fun submission _ => .observe_bind fun prior hpr => ?_
  cases h with
  | fresh =>
    cases hpr
    exact cancelRun_ensures
  | proved hpf =>
    rw [prior_proved hpf] at hpr
    cases hpr
  | observed hpf observation =>
    rw [prior_proved hpf] at hpr
    cases hpr
    exact .pure trivial

/-- A call that stops somewhere, or returns. -/
def Stops (call : Call) (s s' : Files) : Prop :=
  ∃ provider done, done <+: (cancelLanggraphRun call provider s).2 ∧ s' = last s done

/-- **Any number of stopped calls.** -/
theorem left_of_stops (h : Relation.ReflTransGen (Stops call) ⟨.missing, .missing⟩ s) :
    Left call s := by
  induction h with
  | refl => exact .fresh
  | tail _ hstop ih =>
    obtain ⟨provider, done, hdone, rfl⟩ := hstop
    exact ih.ensures.writes.keeps (I := fun d _ => Left call d)
      (fun _ _ _ hleft hstep => hleft.step hstep) [] ih hdone

end Stops

/-! ### The next call -/

section Retry

variable {call : Call} {submission : Value} {s : Files} {provider : Provider}

/-- The provider ends the run as interrupted before the deadline. -/
def Ends (polls : List Value) : Prop :=
  ∃ before terminal behind, polls = before ++ terminal :: behind ∧
    (∀ v ∈ before, inSet (v.get "status") terminalRunStatuses = .ok false) ∧
    terminal.get "status" = .str "interrupted"

theorem isObject_of_get {v : Value} {k t : String} (h : v.get k = .str t) : v.isObject := by
  obtain ⟨v, hv⟩ := v
  cases v with
  | obj members => rfl
  | bool b => cases b <;> cases h
  | _ => cases h

theorem awaitInterrupted_of_ends {polls : List Value} (h : Ends polls) :
    ∃ terminal, awaitInterrupted polls = .ok terminal := by
  obtain ⟨before, terminal, behind, rfl, hbef, hterm⟩ := h
  induction before with
  | nil =>
    refine ⟨terminal, ?_⟩
    rw [List.nil_append, awaitInterrupted]
    simp only [isObject_of_get hterm, if_true, hterm, Value.equal_self]
  | cons v before ih =>
    obtain ⟨hset, hrest⟩ := List.forall_mem_cons.mp hbef
    obtain ⟨terminal', hwait⟩ := ih hrest
    -- an answer that is no dictionary has no status either
    have hget : (if v.isObject then v else emptyDict).get "status" = v.get "status" := by
      split
      · rfl
      · rename_i hobj
        obtain ⟨v, hv⟩ := v
        cases v <;> first | rfl | exact absurd rfl hobj
    have hne : (v.get "status").equal (.str "interrupted") = false := by
      refine Bool.eq_false_iff.mpr fun heql => ?_
      rw [Value.equal_str.mp heql] at hset
      cases hset
    refine ⟨terminal', ?_⟩
    rw [List.cons_append, awaitInterrupted]
    simp only [hget, hne, hset]
    exact hwait

/-- An attempt that can be cancelled: the checks pass, and the submission makes a valid request. -/
structure Accepted (call : Call) (submission : Value) : Prop where
  checked : call.check = .ok submission
  api : submission.has "api_url" = true
  thread : submission.has "thread_id" = true
  request : ∃ request, call.abiRequest submission = .ok request
  ref : safeRef call.proofRef = true

/-- The provider has not ended the run. -/
def IsRunning (call : Call) (current : Value) : Prop :=
  (orElse current emptyDict).isObject = true ∧
    strOr call.task.text ((orElse current emptyDict).get "status") "unknown" ∉ terminalRunStatuses

theorem Accepted.running_iff (h : Accepted call submission) {current : Value} :
    (∃ found, call.running submission current = .ok found) ↔ IsRunning call current := by
  simp only [Call.running, item, h.api, h.thread, if_true, Kernel.Decode.ok_bind, IsRunning]
  cases hobj : (orElse current emptyDict).isObject with
  | false => exact iff_of_false (by rintro ⟨_, h⟩; cases h) fun h => by cases h.1
  | true =>
    by_cases hterm : strOr call.task.text ((orElse current emptyDict).get "status") "unknown" ∈
        terminalRunStatuses
    · refine iff_of_false ?_ fun h => h.2 hterm
      rw [if_pos (List.contains_iff_mem.mpr hterm)]
      rintro ⟨_, h⟩
      cases h
    · simp [hterm]

theorem Accepted.exists_proof (h : Accepted call submission) (thread status : String)
    (response terminal : Value) :
    ∃ proof, call.proof submission thread status response terminal = .ok proof := by
  obtain ⟨request, hrequest⟩ := h.request
  simp only [Call.abiRequest, Kernel.bind_eq_ok] at hrequest
  obtain ⟨taskId, -, attemptId, hatt, _, -, _, -, _, -, _, -, workItemId, hwork, dispatchId,
    hdisp, number, hnumber, generation, hgen, -⟩ := hrequest
  simp only [Call.proof, hatt, hwork, hdisp, hnumber, hgen, Kernel.Decode.ok_bind]
  exact ⟨_, rfl⟩

theorem Accepted.exists_observation (h : Accepted call submission) (thread : String) {proof : Value}
    (hpf : IsProof call proof) : ∃ observation, call.observation submission thread
      (strOf call.task.text (proof.get "proof_digest").1) = .ok observation := by
  obtain ⟨request, hrequest⟩ := h.request
  have hdig : isDigest (strOf call.task.text (proof.get "proof_digest").1) := by
    rw [hpf.digest]
    show isDigest (digestWithout proof "proof_digest") = true
    unfold digestWithout digestValue
    exact Kernel.isDigest_digest _
  simp only [Call.observation, hrequest, Kernel.Decode.ok_bind, hdig, h.ref]
  exact ⟨_, rfl⟩

/-- The call has returned with a proof for its obligation. -/
def Cancels (call : Call) (result : Value) : Prop :=
  result.get "status" = .str "cancelled" ∧ IsProof call (result.get "proof")

theorem Accepted.completes (h : Accepted call submission)
    (hrunning : IsRunning call provider.current) (hends : Ends provider.polls) :
    ∃ proof observation, IsProof call proof ∧
      Completes Step.apply (cancelRun call provider submission) s (call.result proof observation)
        [.request, .proof proof, .observation observation, .adoption] := by
  obtain ⟨⟨thread, status⟩, hrunning⟩ := h.running_iff.mpr hrunning
  obtain ⟨terminal, hwait⟩ := awaitInterrupted_of_ends hends
  obtain ⟨proof, hpf⟩ := h.exists_proof thread status provider.response terminal
  obtain ⟨observation, hobservation⟩ := h.exists_observation thread (isProof_of_proof hpf)
  refine ⟨proof, observation, isProof_of_proof hpf, ?_⟩
  refine Completes.seq (Completes.lift hrunning) ((Completes.write Step.request s).bind ?_)
  refine Completes.seq (Completes.lift hwait) (Completes.seq (Completes.lift hpf) ?_)
  refine (Completes.write (Step.proof proof) _).bind ?_
  refine Completes.seq (Completes.lift hobservation) ?_
  exact (Completes.write (Step.observation observation) _).bind
    ((Completes.write Step.adoption _).bind (Completes.pure _ _))

theorem Accepted.cancel_eq (h : Accepted call submission) {answer : Except String (Option Value)}
    (hpr : call.prior s = answer) : cancelLanggraphRun call provider s =
      match answer with
      | .error e => (.error e, [])
      | .ok (some result) => (.ok result, [])
      | .ok none => cancelRun call provider submission s := by
  have hread : (observe call.prior : Durable Step Files String _) s = (answer, []) :=
    congrArg (·, []) hpr
  refine (bind_of_pure (congrArg (·, []) h.checked)).trans ?_
  rcases answer with e | _ | result
  · exact bind_of_error hread
  · exact bind_of_pure hread
  · exact bind_of_pure hread

/-- **When the next call returns.**  Behind any number of stopped calls, a call whose provider ends
the run as interrupted returns a proof for the obligation exactly if there is no proof yet and the
run is still running, or if the observation has been written. -/
theorem cancel_retry_iff (haccepted : Accepted call submission)
    (hstops : Relation.ReflTransGen (Stops call) ⟨.missing, .missing⟩ s)
    (hends : Ends provider.polls) :
    (∃ result, (cancelLanggraphRun call provider s).1 = .ok result ∧ Cancels call result) ↔
      s.proof = .missing ∧ IsRunning call provider.current ∨ s.observation ≠ .missing := by
  cases left_of_stops hstops with
  | fresh =>
    rw [haccepted.cancel_eq rfl]
    constructor
    · rintro ⟨result, hresult, -⟩
      refine .inl ⟨rfl, haccepted.running_iff.mp ?_⟩
      cases hrunning : call.running submission provider.current with
      | error e =>
        simp only [cancelRun, hrunning] at hresult
        cases hresult
      | ok found => exact ⟨found, rfl⟩
    · rintro (⟨-, hrunning⟩ | hobserved)
      · obtain ⟨proof, observation, hproof, hcompletes⟩ := haccepted.completes hrunning hends
        exact ⟨call.result proof observation, congrArg Prod.fst hcompletes, rfl, hproof⟩
      · exact absurd rfl hobserved
  | proved hproof =>
    rw [haccepted.cancel_eq (prior_proved hproof .missing)]
    refine iff_of_false ?_ ?_
    · rintro ⟨_, h, -⟩
      cases h
    · rintro (⟨h, -⟩ | h)
      · cases h
      · exact h rfl
  | observed hproof observation =>
    rw [haccepted.cancel_eq (prior_proved hproof (.document observation))]
    exact iff_of_true ⟨_, rfl, rfl, hproof⟩ (.inr nofun)

end Retry

/-! ### A stopped cancellation -/

def sampleSubmission : Value :=
  .dict [("task_id", .str "task"), ("run_id", .str "run"),
    ("installation_id", .str "installation"), ("leader_epoch", .int 1),
    ("attempt_id", .str "langgraph:run"), ("work_item_id", .str "item"),
    ("dispatch_id", .str "dispatch"), ("dispatch_generation", .int 1),
    ("api_url", .str "http://localhost"), ("thread_id", .str "thread"),
    ("payload_digest", .str ("sha256:" ++ String.ofList (List.replicate 64 'a')))] (by simp)

def sampleCall : Call where
  task := { Dispatch.servedTask none with
    marker := .document (Dispatch.expectedAdoptionMarker .langgraph "task") }
  root := Dispatch.servedRoot 1
  number _ := none
  runId := "run"
  submission := .document sampleSubmission
  obligation := "adapter_cancel:\x7b\"task_id\":\"task\",\"work_item_id\":\"item\"," ++
    "\"attempt_id\":\"langgraph:run\",\"dispatch_id\":\"dispatch\",\"dispatch_generation\":1\x7d"

def statusIs (status : String) : Value := .dict [("status", .str status)] (by simp)

theorem named_sampleCall : (cancelObligationPayload sampleCall.obligation).map
    (·.equal (sampleCall.expected sampleSubmission)) = .ok true := by
  decide +kernel

theorem checked_sampleCall : sampleCall.check = .ok sampleSubmission := by
  have hidt : Dispatch.langgraphIdentity sampleCall.task sampleCall.root =
      .ok ("installation", 1) := rfl
  have hmixed : sampleCall.task.requireUnmixedV3Ledger = .ok () := by
    simp only [Adopted.requireUnmixedV3Ledger, sampleCall, Dispatch.servedTask, Value.equal_self]
    rfl
  have hopens : sampleCall.task.opens .langgraph sampleCall.root = .ok ("installation", 1) :=
    Dispatch.opens_eq_ok.mpr ⟨hidt, (if_pos rfl).trans hmixed⟩
  have hload : Dispatch.loadRuntimeV3Receipts .langgraph
      (sampleCall.task.runtime .langgraph sampleCall.root) = .ok [] := by
    rw [Dispatch.runtime_of_opens hopens, Dispatch.loadRuntimeV3Receipts_eq_ok]
    exact ⟨rfl, _, Receipts.load_none (Receipts.loadUnlocked_iff.mpr ⟨[], rfl, rfl, by simp⟩), rfl,
      rfl⟩
  have hsub : sampleCall.submission = .document sampleSubmission := rfl
  simp only [Call.check, hidt, hmixed, Kernel.Decode.ok_bind, hload, hsub]
  rw [if_neg (by decide), if_pos (by decide), named_sampleCall]
  rfl

theorem request_sampleCall : ∃ request, sampleCall.abiRequest sampleSubmission = .ok request := by
  refine ⟨_, if_pos ?_⟩
  have hid (v : Value) : digestValue v ≠ "" := fun h => by
    have hdig : isDigest (digestValue v) := by
      unfold digestValue
      exact Kernel.isDigest_digest _
    rw [h] at hdig
    cases hdig
  simp only [AdapterRequest.isValid, List.all_cons, bne_iff_ne.mpr (hid _)]
  decide +kernel

theorem accepted_sampleCall : Accepted sampleCall sampleSubmission :=
  ⟨checked_sampleCall, rfl, rfl, request_sampleCall, by decide⟩

/-- A provider that ends a run with this status as interrupted. -/
def interrupting (status : String) : Provider :=
  ⟨statusIs status, statusIs "", [statusIs "interrupted"]⟩

theorem ends_interrupting (status : String) : Ends (interrupting status).polls :=
  ⟨[], _, [], rfl, by simp, rfl⟩

theorem running_interrupting : IsRunning sampleCall (interrupting "running").current :=
  ⟨rfl, by decide⟩

/-- A call that stops behind its last write, and the next one, which finds the run interrupted. -/
theorem cancel_again : ∃ proof observation,
    Stops sampleCall ⟨.missing, .missing⟩ ⟨.document proof, .document observation⟩ ∧
      ∃ result, (cancelLanggraphRun sampleCall (interrupting "interrupted")
        ⟨.document proof, .document observation⟩).1 = .ok result ∧ Cancels sampleCall result := by
  obtain ⟨proof, observation, -, hcompletes⟩ := accepted_sampleCall.completes
    (s := ⟨.missing, .missing⟩) running_interrupting (ends_interrupting _)
  have hstops : Stops sampleCall ⟨.missing, .missing⟩ ⟨.document proof, .document observation⟩ := by
    refine ⟨interrupting "running", _, List.prefix_rfl, ?_⟩
    rw [accepted_sampleCall.cancel_eq rfl, hcompletes]
    rfl
  exact ⟨proof, observation, hstops, (cancel_retry_iff accepted_sampleCall (.single hstops)
    (ends_interrupting _)).mpr (.inr nofun)⟩

/-- **Two stops that no later call gets over**: behind the request, once the provider has
interrupted the run, and behind the proof. -/
theorem cancel_stopped : ∃ requested proved,
    [requested, proved] <+:
      (cancelLanggraphRun sampleCall (interrupting "running") ⟨.missing, .missing⟩).2 ∧
    requested.1 = .request ∧
    (∀ response polls, (cancelLanggraphRun sampleCall ⟨statusIs "interrupted", response, polls⟩
      requested.2).1 = .error ("LangGraph run is already terminal and cannot prove " ++
        "cancellation: interrupted")) ∧
    ∀ provider, (cancelLanggraphRun sampleCall provider proved.2).1 =
      .error "LangGraph cancellation ABI observation is missing" := by
  obtain ⟨proof, observation, hproof, hcompletes⟩ := accepted_sampleCall.completes
    (s := ⟨.missing, .missing⟩) running_interrupting (ends_interrupting _)
  refine ⟨(.request, ⟨.missing, .missing⟩), (.proof proof, ⟨.document proof, .missing⟩), ?_, rfl,
    fun response polls => ?_, fun provider => ?_⟩
  · rw [accepted_sampleCall.cancel_eq rfl, hcompletes]
    exact ⟨_, rfl⟩
  · rw [accepted_sampleCall.cancel_eq rfl]
    rfl
  · rw [accepted_sampleCall.cancel_eq (prior_proved hproof .missing)]

end Valp.Langgraph
