/-
The HERDR phases of a dispatch (`dispatch_task` in `valp_cli/workflow.py`, with
`observe_herdr_terminal` of `valp_cli/herdr_adapter.py`).

- A phase prompts one Agent, records its submission, waits for the evidence and, once the
  runtime is adopted, observes the Agent until it settles.
- One handler answers for the whole phase: it blocks the budget and reports a failed
  submission, whichever of these steps raised.
-/
import Mathlib.Algebra.Order.Ring.Unbundled.Rat
import Mathlib.Data.List.Basic

namespace Valp.Herdr

/-! ### Deadlines -/

/-- A loop that looks at something until a deadline: what it sees, with the clock behind each
look.  The first look that ends behind the deadline is the last one. -/
def upTo {α : Type} (deadline : Rat) : List (Rat × α) → List α
  | [] => []
  | (clock, seen) :: rest =>
    if clock ≥ deadline then [seen] else seen :: upTo deadline rest

/-! ### The terminal observation -/

/-- The Agent of an answer, as `_herdr_agent_response` returns it. -/
structure Agent where
  terminalId : String
  agent : String
  paneId : String
  agentStatus : String
  stateChangeSeq : Int

/-- An answer to `agent get`: its Agent, or the text of the `HerdrSubmissionError` that
`_require_success` or `_herdr_agent_response` raises. -/
abbrev Answer := Except String Agent

/-- What `submit_herdr_dispatch` returns; `identity` and `stateChangeSeq` are those of its
`submission_proof`. -/
structure Proof where
  runtime : String
  proofClass : String
  agentRef : String
  paneId : String
  runtimeTarget : String
  identity : Agent
  stateChangeSeq : Int

/-- The proof names the target, and an Agent that can be observed. -/
def Proof.Exact (proof : Proof) (target paneId : String) : Prop :=
  proof.runtime = "HERDR" ∧ proof.proofClass = "agent_invocation" ∧ proof.agentRef = target ∧
    proof.paneId = paneId
deriving Decidable

def Proof.Complete (proof : Proof) : Prop :=
  proof.runtimeTarget ≠ "" ∧ proof.identity.terminalId ≠ "" ∧ proof.identity.agent ≠ "" ∧
    proof.identity.paneId ≠ ""
deriving Decidable

/-- The Agent that was prompted. -/
def Proof.Same (proof : Proof) (observed : Agent) : Prop :=
  observed.terminalId = proof.identity.terminalId ∧ observed.agent = proof.identity.agent ∧
    observed.paneId = proof.identity.paneId
deriving Decidable

/-- The Agent has settled since its submission. -/
def Proof.Later (proof : Proof) (observed : Agent) : Prop :=
  observed.stateChangeSeq > proof.stateChangeSeq ∧ observed.agentStatus ∈ ["idle", "blocked"]
deriving Decidable

/-- The loop of `observe_herdr_terminal`, over the answers up to its deadline. -/
def Proof.poll (proof : Proof) : List Answer → Except String Agent
  | [] => .error "HERDR terminal observation timed out before a later idle or blocked state"
  | .error message :: _ => .error message
  | .ok observed :: rest =>
    if ¬ proof.Same observed then
      .error "HERDR terminal state changed the submitted Agent identity"
    else if proof.Later observed then .ok observed
    else proof.poll rest

/-- `observe_herdr_terminal`, with the observed Agent for the proof built from it. -/
def observeHerdrTerminal (target paneId : String) (proof : Proof) (polls : List Answer) :
    Except String Agent :=
  if ¬ proof.Exact target paneId then
    .error "HERDR terminal observation lacks exact submission proof"
  else if ¬ proof.Complete then
    .error "HERDR terminal observation submission identity is incomplete"
  else proof.poll polls

/-- The prompted Agent, not yet settled. -/
def Proof.pending (proof : Proof) : Answer → Bool
  | .error _ => false
  | .ok observed => proof.Same observed && !proof.Later observed

/-- The first answer that is not pending shows the prompted Agent. -/
def Proof.Settles (proof : Proof) (polls : List Answer) : Prop :=
  ∃ observed, polls.find? (!proof.pending ·) = some (.ok observed) ∧ proof.Same observed

theorem Proof.poll_ok_iff (proof : Proof) (polls : List Answer) :
    (∃ observed, proof.poll polls = .ok observed) ↔ proof.Settles polls := by
  rw [Settles]
  fun_induction proof.poll polls <;> simp_all [pending]

/-! ### A phase -/

/-- What is raised in a phase: a `HerdrSubmissionError`, or anything else. -/
inductive Fault where
  | herdr (message : String)
  | other (message : String)

/-- One phase of the loop, with what the calls of its body answer. -/
structure Phase where
  target : String
  role : String
  expected : List String
  /-- `shutil.which("herdr")` finds the command. -/
  found : Bool
  paneId : String
  /-- The answer of `submit_herdr_dispatch`. -/
  proof : Except Fault Proof
  /-- What `write_herdr_transport_receipt` raises. -/
  transported : Option String
  /-- Whether `write_herdr_submission_receipt` appends a receipt, and what it raises. -/
  written : Bool
  recorded : Option String
  /-- The answers of `herdr_expected_ref_status`. -/
  checks : List (Rat × Bool)
  /-- `runtime/herdr/adoption.json` exists. -/
  adopted : Bool
  /-- The answers to `agent get`. -/
  polls : List (Rat × Answer)
  /-- What `write_herdr_completion_receipt` raises. -/
  completion : Option String

/-- The arguments of `dispatch_task` that the loop reads, and whether there is a budget. -/
structure Call where
  recovery : Bool
  runtimeRetry : Bool
  waitSeconds : Option Rat
  proofSeconds : Option Rat
  budget : Bool

def Call.submissionOnly (call : Call) : Bool := call.waitSeconds == some 0

inductive Write where
  | transport
  | submitted
  | completed
  | event (name : String)
  | budget (stopReason : String)
deriving DecidableEq

/-- `wait_for_herdr_expected_refs`: whether the evidence is complete in time. -/
def Phase.completed (call : Call) (phase : Phase) : Bool :=
  (upTo (max (call.waitSeconds.getD 60) 0) phase.checks).any id

/-- The answers up to the deadline of the terminal observation. -/
def Phase.answers (phase : Phase) (proofSeconds : Rat) : List Answer :=
  upTo (max proofSeconds 5) phase.polls

/-- The terminal observation, made of an adopted runtime only.  Without `proof_seconds`, the
default of the command line, `max` raises before it. -/
def Phase.observe (call : Call) (phase : Phase) (proof : Proof) :
    Except Fault (Option Agent) :=
  if phase.adopted then
    match call.proofSeconds with
    | none => .error (.other "'>' not supported between instances of 'float' and 'NoneType'")
    | some seconds =>
      match observeHerdrTerminal phase.target phase.paneId proof (phase.answers seconds) with
      | .error message => .error (.herdr message)
      | .ok observed => .ok (some observed)
  else .ok none

/-- The body after the submission receipt. -/
def Phase.follow (call : Call) (phase : Phase) (proof : Proof) : List Write × Option Fault :=
  let retried := if call.recovery then [.event "incomplete_submission_retried"] else []
  if phase.expected = [] ∨ call.submissionOnly then (retried, none)
  else if ¬ phase.completed call then (retried ++ [.event "dispatch_waiting"], none)
  else
    match phase.observe call proof, phase.completion with
    | .error fault, _ => (retried, some fault)
    | .ok _, some message => (retried, some (.other message))
    | .ok _, none => (retried ++ [.completed, .event "dispatch_completed"], none)

/-- The `try` block of a phase. -/
def Phase.attempt (call : Call) (phase : Phase) : List Write × Option Fault :=
  match phase.proof with
  | .error fault => ([], some fault)
  | .ok proof =>
    if proof.proofClass = "transport_only" then
      match phase.transported with
      | some message => ([], some (.other message))
      | none => ([.transport, .event "dispatch_inserted"], some (.herdr
          "HERDR pane transport is Manual-degraded and cannot produce dispatch_submitted"))
    else
      let submitted := if phase.written then [.submitted] else []
      match phase.recorded with
      | some message => (submitted, some (.other message))
      | none => (submitted ++ (phase.follow call proof).1, (phase.follow call proof).2)

/-- The `stop_reason` of the blocked budget. -/
def Call.stopReason (call : Call) : String :=
  if call.recovery then "incomplete submission recovery failed"
  else if call.runtimeRetry then "runtime dispatch retry exhausted"
  else "runtime dispatch failure"

/-- The `except` block: every `HerdrSubmissionError` is a failed submission. -/
def Call.failed (call : Call) : List Write :=
  (if call.budget then [.budget call.stopReason] else []) ++ [.event "dispatch_submit_failed"]

def Phase.dispatch (call : Call) (phase : Phase) : List Write × Option String :=
  if ¬ phase.found then
    ([], some "HERDR submission became unavailable after preflight: herdr command not found")
  else if phase.paneId = "" then
    ([], some ("HERDR submission has no addressable pane for agent " ++ phase.target))
  else
    match phase.attempt call with
    | (writes, none) => (writes, none)
    | (writes, some (.other message)) => (writes, some message)
    | (writes, some (.herdr message)) => (writes ++ call.failed, some message)

def Phase.item (phase : Phase) : String × String := (phase.role, phase.target)

/-- The loop: what it makes durable, for which item, and how it ends. -/
def dispatchPhases (call : Call) : List Phase → List ((String × String) × Write) × Option String
  | [] => ([], none)
  | phase :: rest =>
    let own := (phase.dispatch call).1.map (phase.item, ·)
    match (phase.dispatch call).2 with
    | some message => (own, some message)
    | none => (own ++ (dispatchPhases call rest).1, (dispatchPhases call rest).2)

/-! ### The answers decide -/

/-- The command and the pane are there. -/
def Phase.Starts (phase : Phase) : Prop := phase.found = true ∧ phase.paneId ≠ ""

/-- The Agent was prompted. -/
def Phase.Prompted (phase : Phase) (proof : Proof) : Prop :=
  phase.proof = .ok proof ∧ proof.proofClass ≠ "transport_only"

/-- The submission fails before there is a receipt. -/
def Phase.Refused (phase : Phase) : Prop :=
  (∃ message, phase.proof = .error (.herdr message)) ∨
    ∃ proof, phase.proof = .ok proof ∧ proof.proofClass = "transport_only" ∧
      phase.transported = none

/-- The Agent is observed after the receipt of its submission, and not seen to settle. -/
def Phase.Unsettled (call : Call) (phase : Phase) : Prop :=
  ∃ proof, phase.Prompted proof ∧ phase.recorded = none ∧
    (phase.expected ≠ [] ∧ call.submissionOnly = false ∧ phase.completed call = true) ∧
    phase.adopted = true ∧ ∃ seconds, call.proofSeconds = some seconds ∧
      ¬ (proof.Exact phase.target phase.paneId ∧ proof.Complete ∧
        proof.Settles (phase.answers seconds))

variable (call : Call) (phase : Phase)

theorem observeHerdrTerminal_error_iff (proof : Proof) (target paneId : String)
    (answers : List Answer) :
    (∃ message, observeHerdrTerminal target paneId proof answers = .error message) ↔
      ¬ (proof.Exact target paneId ∧ proof.Complete ∧ proof.Settles answers) := by
  rw [← proof.poll_ok_iff, observeHerdrTerminal]
  by_cases hex : proof.Exact target paneId <;>
    by_cases hcompl : proof.Complete <;> simp [hex, hcompl]
  cases proof.poll answers <;> simp

theorem Phase.observe_error_iff (proof : Proof) :
    (∃ message, phase.observe call proof = .error (.herdr message)) ↔ phase.adopted ∧
      ∃ seconds, call.proofSeconds = some seconds ∧
        ¬ (proof.Exact phase.target phase.paneId ∧ proof.Complete ∧
          proof.Settles (phase.answers seconds)) := by
  simp only [← observeHerdrTerminal_error_iff]
  fun_cases observe call phase proof <;> simp_all

/-- The handler is entered by a refused submission, and by an Agent that does not settle. -/
theorem Phase.attempt_herdr_iff : (∃ message, (phase.attempt call).2 = some (.herdr message)) ↔
      phase.Refused ∨ phase.Unsettled call := by
  simp only [Refused, Unsettled, Prompted, ← observe_error_iff]
  fun_cases attempt call phase with
  | case5 proof hpf hclass submitted hrecd =>
    fun_cases follow call phase proof <;> grind
  | _ => simp_all

theorem Phase.follow_writes {proof : Proof} {w : Write} (hw : w ∈ (phase.follow call proof).1) :
    w ∈ [.event "incomplete_submission_retried", .event "dispatch_waiting", .completed,
      .event "dispatch_completed"] := by
  revert hw
  fun_cases follow call phase proof <;> grind

theorem Phase.attempt_submitted_iff :
    .submitted ∈ (phase.attempt call).1 ↔ phase.written ∧ ∃ proof, phase.Prompted proof := by
  have hfollow (proof : Proof) : .submitted ∉ (phase.follow call proof).1 :=
    fun h => by simpa using follow_writes _ _ h
  fun_cases attempt call phase <;> simp_all +zetaDelta [Prompted]

/-- The writes of the handler. -/
def Write.Reports (w : Write) : Prop :=
  w = .event "dispatch_submit_failed" ∨ ∃ stopReason, w = .budget stopReason

theorem Phase.attempt_clean {w : Write} (hw : w ∈ (phase.attempt call).1) : ¬ w.Reports := by
  have hfollow (proof : Proof) (h : w ∈ (phase.follow call proof).1) := follow_writes _ _ h
  revert hw
  fun_cases attempt call phase <;> grind [Write.Reports]

/-! ### The loop -/

theorem Phase.mem_dispatch_iff (w : Write) :
    w ∈ (phase.dispatch call).1 ↔ phase.Starts ∧ (w ∈ (phase.attempt call).1 ∨
      (phase.Refused ∨ phase.Unsettled call) ∧ w ∈ call.failed) := by
  rw [← attempt_herdr_iff, Starts]
  fun_cases dispatch call phase <;> simp_all

/-- The phases that the loop enters. -/
def entered (call : Call) : List Phase → List Phase
  | [] => []
  | phase :: rest =>
    if (phase.dispatch call).2 = none then phase :: entered call rest else [phase]

theorem mem_dispatchPhases_iff (phases : List Phase) (item : String × String) (w : Write) :
    (item, w) ∈ (dispatchPhases call phases).1 ↔
      ∃ phase ∈ entered call phases, phase.item = item ∧ w ∈ (phase.dispatch call).1 := by
  induction phases with
  | nil => simp [dispatchPhases, entered]
  | cons first rest ih =>
    rw [dispatchPhases, entered]
    cases hfault : (first.dispatch call).2 with
    | some message => simp [and_comm]
    | none => simp [ih, and_comm]

/-- **An item with a new submission receipt is not reported as a failed submission exactly if
no phase of that item is refused, or observes an Agent that is not seen to settle.** -/
theorem submitted_not_failed_iff (call : Call) (phases : List Phase) :
    (∀ item, (item, .submitted) ∈ (dispatchPhases call phases).1 →
      (item, .event "dispatch_submit_failed") ∉ (dispatchPhases call phases).1 ∧
      (item, .budget "runtime dispatch failure") ∉ (dispatchPhases call phases).1) ↔
    ∀ phase ∈ entered call phases, phase.Starts → phase.Refused ∨ phase.Unsettled call →
      ∀ other ∈ entered call phases, other.item = phase.item → other.Starts →
        (∃ proof, other.Prompted proof) → other.written = false := by
  simp only [mem_dispatchPhases_iff]
  constructor
  · -- the handler of the phase reports its item, and the other phase has written the receipt
    intro h phase hphase hstarts hfails other hother hitem hother_starts hprompted
    refine eq_false_of_ne_true fun hwritten => (h phase.item ⟨other, hother, hitem, ?_⟩).1
      ⟨phase, hphase, rfl, ?_⟩
    · exact (other.mem_dispatch_iff ..).mpr
        ⟨hother_starts, .inl ((other.attempt_submitted_iff call).mpr ⟨hwritten, hprompted⟩)⟩
    · exact (phase.mem_dispatch_iff ..).mpr ⟨hstarts, .inr ⟨hfails, by simp [Call.failed]⟩⟩
  · -- what reports the item comes from a handler, since no body writes it
    rintro h item ⟨other, hother, rfl, hsubmitted⟩
    suffices hreport : ∀ w : Write, w.Reports → ¬ ∃ phase ∈ entered call phases,
        phase.item = other.item ∧ w ∈ (phase.dispatch call).1 from
      ⟨hreport _ (.inl rfl), hreport _ (.inr ⟨_, rfl⟩)⟩
    rintro w hw ⟨phase, hphase, hitem, hmem⟩
    rw [Phase.mem_dispatch_iff] at hmem hsubmitted
    obtain ⟨hstarts, hmem | ⟨hfails, -⟩⟩ := hmem
    · exact Phase.attempt_clean _ _ hmem hw
    obtain ⟨hother_starts, hsubmitted | ⟨-, hsubmitted⟩⟩ := hsubmitted
    · obtain ⟨hwritten, hprompted⟩ := (other.attempt_submitted_iff call).mp hsubmitted
      cases hwritten.symm.trans
        (h phase hphase hstarts hfails other hother hitem.symm hother_starts hprompted)
    · simp [Call.failed] at hsubmitted

/-- An adopted HERDR Agent that is still at work when its evidence is complete. -/
def busyPhase : Phase :=
  let agent : Agent := ⟨"terminal", "worker", "pane", "working", 2⟩
  { target := "worker", role := "implementer", expected := ["evidence/report.md"], found := true
    paneId := "pane", transported := none, written := true, recorded := none
    checks := [(0, true)]
    proof := .ok ⟨"HERDR", "agent_invocation", "worker", "pane", "pane", agent, 2⟩
    adopted := true, polls := [(1, .ok agent), (6, .ok agent)], completion := none }

theorem busy_reported_failed : let call : Call := ⟨false, false, none, some 5, true⟩
    ∃ item, (item, .submitted) ∈ (dispatchPhases call [busyPhase]).1 ∧
      (item, .event "dispatch_submit_failed") ∈ (dispatchPhases call [busyPhase]).1 ∧
      (item, .budget "runtime dispatch failure") ∈ (dispatchPhases call [busyPhase]).1 :=
  ⟨busyPhase.item, by decide +kernel⟩

end Valp.Herdr
