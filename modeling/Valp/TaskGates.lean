/-
The gates of a task (`transition_task` of `valp_cli/task_control.py`).

A task is done only while every gate is true.  The gates are kept over the whole life of the
task: a call may set them, and nothing else changes them.

* `done_reproved_iff` — **a reopened task has to prove every gate again exactly if the calls up
  to its reopening have last set none of them to true**;
* `status_reachable_iff` — **a task that is not cancelled can still get to every status that a call
  can set**.
-/
import Mathlib.Data.List.Chain
import Valp.ControlContract

namespace Valp.Task

open Control (refusal)
open Run (exec exec_concat exec_cons exec_history)

def taskTransitions : List (String × List String) :=
  [("new", ["published", "blocked"]),
   ("published", ["scanning_capabilities", "blocked"]),
   ("scanning_capabilities", ["scanning_context", "blocked"]),
   ("scanning_context", ["loading_local_overlay", "blocked"]),
   ("loading_local_overlay", ["selecting_runtime_adapter", "blocked"]),
   ("selecting_runtime_adapter", ["classifying_task", "blocked"]),
   ("classifying_task", ["selecting_profile", "blocked"]),
   ("selecting_profile", ["decomposing_tasks", "blocked"]),
   ("decomposing_tasks", ["recommending_skills", "building_provider_matrix", "blocked"]),
   ("recommending_skills", ["building_provider_matrix", "blocked"]),
   ("building_provider_matrix", ["preflighting_runtime", "scoring_routes", "blocked"]),
   ("preflighting_runtime", ["scoring_routes", "blocked"]),
   ("scoring_routes", ["routing_capabilities", "blocked"]),
   ("routing_capabilities", ["routing_squad", "dispatching", "planned", "blocked"]),
   ("routing_squad", ["dispatching", "planned", "blocked"]),
   ("dispatching", ["suspended", "executing", "verifying", "blocked", "cancelled"]),
   ("suspended", ["executing", "verifying", "blocked", "cancelled"]),
   ("planned", ["locked", "dispatching", "blocked"]),
   ("locked", ["executing", "blocked", "cancelled"]),
   ("executing", ["verifying", "blocked", "cancelled"]),
   ("verifying", ["reviewing", "fixing", "approval_required", "recording", "blocked"]),
   ("reviewing", ["resolving_agent_recommendations", "fixing", "approval_required", "recording",
     "blocked"]),
   ("resolving_agent_recommendations", ["fixing", "approval_required", "recording", "blocked"]),
   ("fixing", ["dispatching", "executing", "verifying", "blocked", "cancelled"]),
   ("approval_required", ["recording", "blocked", "cancelled"]),
   ("recording", ["done", "blocked"]),
   ("done", ["blocked"]),
   ("blocked", ["published", "scanning_capabilities", "dispatching", "fixing", "executing",
     "verifying", "cancelled"]),
   ("failed", ["published", "blocked", "cancelled"]),
   ("cancelled", [])]

/-- `TASK_STATUSES`: the keys of the table but one. -/
def taskStatuses : List String :=
  (taskTransitions.map Prod.fst).filter (· ≠ "preflighting_runtime")

/-- The transition is known and allowed. -/
def Allowed (status target : String) : Prop :=
  target ∈ taskStatuses ∧ target ∈ (taskTransitions.lookup status).getD []
deriving Decidable

def doneGates : List String :=
  ["receipts", "expected_evidence", "verification", "review", "approvals", "final_synthesis",
    "audit"]

/-- The projection; a gate is kept as whether its value is `True`. -/
structure State where
  revision : Int := 0
  status : String := "new"
  activeBlockers : List String := []
  gates : String → Bool := fun _ => false

/-- A call, with what its checks of the installation and of the projection files raise. -/
structure Call where
  target : String
  expectedRevision : Option Int := none
  gates : List (String × Bool) := []
  fault : Option Control.Fault := none

def Call.nextGates (call : Call) (s : State) (gate : String) : Bool :=
  (call.gates.lookup gate).getD (s.gates gate)

def Call.nextState (call : Call) (s : State) : State where
  revision := s.revision + 1
  status := call.target
  activeBlockers :=
    if call.target ≠ "blocked" then []
    else if s.activeBlockers = [] then [call.target] else s.activeBlockers
  gates := call.nextGates s

def transitionTask (s : State) (call : Call) : Except Control.Fault State :=
  let missing := doneGates.filter fun gate => !call.nextGates s gate
  if let some fault := call.fault then .error fault
  else if ¬ Allowed s.status call.target then
    .error (refusal "VALP-E-STATE-TRANSITION"
      ("Illegal task transition " ++ s.status ++ " -> " ++ call.target))
  else if call.expectedRevision.any (· ≠ s.revision) then
    .error (refusal "VALP-E-STATE-CONFLICT" ("Expected task revision " ++
      toString (call.expectedRevision.getD 0) ++ ", current is " ++ toString s.revision))
  else if call.target = "done" ∧ missing ≠ [] then
    .error (refusal "VALP-E-EVIDENCE-MISSING"
      ("Done gates unresolved: " ++ ", ".intercalate missing))
  else .ok (call.nextState s)

def step (s : State) (call : Call) : Option State := (transitionTask s call).toOption

/-- The call moves the task out of `done` or into `fixing`. -/
def Reopens (s : State) (call : Call) : Prop := s.status = "done" ∨ call.target = "fixing"

/-- No call of a run reopens the task. -/
def Continues (s : State) : List Call → Prop
  | [] => True
  | call :: calls => ¬ Reopens s call ∧ ∀ t, step s call = some t → Continues t calls

/-- What the last of the calls that name a gate says. -/
def lastGiven (gate : String) (calls : List Call) : Option Bool :=
  (calls.filterMap (·.gates.lookup gate)).getLast?

variable {s t u v : State} {call last : Call} {calls later : List Call} {gate : String}

/-- **The calls that are accepted, and what they do.** -/
theorem step_eq_some : step s call = some t ↔ call.fault = none ∧ Allowed s.status call.target ∧
    call.expectedRevision.any (· ≠ s.revision) = false ∧
    (call.target = "done" → ∀ gate ∈ doneGates, call.nextGates s gate = true) ∧
    call.nextState s = t := by
  rw [step, transitionTask]
  rcases call.fault with _ | fault
  · dsimp only
    split_ifs <;> simp_all [Except.toOption]
  · simp [Except.toOption]

theorem status_step (h : step s call = some t) : t.status = call.target := by
  obtain ⟨-, -, -, -, rfl⟩ := step_eq_some.mp h
  rfl

/-- **A gate holds what the last call that named it said.** -/
theorem gate_exec (gate : String) (h : exec step s calls = some t) :
    t.gates gate = (lastGiven gate calls).getD (s.gates gate) := by
  refine exec_history
    (I := fun calls t => t.gates gate = (lastGiven gate calls).getD (s.gates gate)) rfl
    (fun calls u call v _ ih hstep => ?_) h
  obtain ⟨-, -, -, -, rfl⟩ := step_eq_some.mp hstep
  show (call.gates.lookup gate).getD (u.gates gate) = _
  rw [ih, lastGiven, lastGiven, List.filterMap_append]
  cases hgiven : call.gates.lookup gate <;> simp [hgiven]

theorem exists_of_lastGiven {value : Bool} (h : lastGiven gate calls = some value) :
    ∃ c ∈ calls, c.gates.lookup gate = some value :=
  List.mem_filterMap.mp (List.mem_of_getLast? h)

theorem status_of_reopens (h : step s call = some t) (hreopens : Reopens s call) :
    t.status ∈ ["blocked", "fixing"] := by
  obtain ⟨-, ⟨-, htgt⟩, -, -, rfl⟩ := step_eq_some.mp h
  rcases hreopens with hdone | hfixing
  · rw [hdone] at htgt
    exact List.mem_append_left ["fixing"] htgt
  · simp [Call.nextState, hfixing]

/-- Calls that prove every gate but one. -/
def proveBut (gate : String) : Call :=
  { target := "done", gates := (doneGates.filter (· ≠ gate)).map (·, true) }

theorem lookup_proveBut (gate other : String) : (proveBut gate).gates.lookup other =
    if other ∈ doneGates ∧ other ≠ gate then some true else none := by
  split_ifs with hoth
  · exact List.lookup_graph (fun _ => true) (by simpa using hoth)
  · refine List.lookup_eq_none_iff.mpr fun given hgiven => ?_
    obtain ⟨name, hname, rfl⟩ := List.mem_map.mp hgiven
    rw [bne_iff_ne]
    rintro rfl
    exact hoth (by simpa using hname)

theorem continues_proveBut (hst : s.status ∈ ["blocked", "fixing"]) :
    Continues s [{ target := "verifying" }, { target := "recording" }, proveBut gate] := by
  have hopen : s.status ≠ "done" := by
    intro h
    simp [h] at hst
  refine ⟨by simp [Reopens, hopen], fun t ht => ⟨by simp [Reopens, status_step ht], fun u hu =>
    ⟨by simp [Reopens, status_step hu, proveBut], fun _ _ => trivial⟩⟩⟩

/-- A reopened task is done again with a gate that nothing sets. -/
theorem redone (hst : s.status ∈ ["blocked", "fixing"]) (hgate : s.gates gate = true) :
    ∃ u v, exec step s [{ target := "verifying" }, { target := "recording" }] = some u ∧
      step u (proveBut gate) = some v ∧ v.status = "done" := by
  have hfst : ∀ status ∈ ["blocked", "fixing"], Allowed status "verifying" := by decide
  have hsnd : Allowed "verifying" "recording" := by decide
  have hthird : Allowed "recording" "done" := by decide
  refine ⟨_, _, exec_cons.mpr ⟨_, step_eq_some.mpr ⟨rfl, hfst _ hst, rfl, by simp, rfl⟩,
    exec_cons.mpr ⟨_, step_eq_some.mpr ⟨rfl, hsnd, rfl, by simp, rfl⟩, rfl⟩⟩,
    step_eq_some.mpr ⟨rfl, hthird, rfl, fun _ other hoth => ?_, rfl⟩, rfl⟩
  rw [Call.nextGates, lookup_proveBut]
  by_cases hsame : other = gate
  · subst hsame
    rw [if_neg (by simp)]
    exact hgate
  · simp [hoth, hsame]

/-- **A call that reopens a task makes it prove every gate again, before it is done for any
later time without another reopening, exactly if the calls up to it have last set no gate to
true.** -/
theorem done_reproved_iff (hrun : exec step {} calls = some s) (hcall : step s call = some t)
    (hreopens : Reopens s call) :
    (∀ later last u v, Continues t (later ++ [last]) → exec step t later = some u →
      step u last = some v → v.status = "done" →
        ∀ gate ∈ doneGates, ∃ c ∈ later ++ [last], c.gates.lookup gate = some true) ↔
    ∀ gate ∈ doneGates, lastGiven gate (calls ++ [call]) ≠ some true := by
  have hgate (gate) := gate_exec gate (exec_concat.mpr ⟨s, hrun, hcall⟩)
  constructor
  · intro h gate hmem htrue
    have hstatus := status_of_reopens hcall hreopens
    obtain ⟨u, v, hu, hv, hdone⟩ := redone hstatus
      (show t.gates gate = true by rw [hgate, htrue]; rfl)
    obtain ⟨c, hc, hset⟩ := h _ _ u v (continues_proveBut hstatus) hu hv hdone gate hmem
    simp only [List.cons_append, List.nil_append, List.mem_cons, List.not_mem_nil, or_false] at hc
    rcases hc with rfl | rfl | rfl
    · cases hset
    · cases hset
    · simp [lookup_proveBut] at hset
  · intro h later last u v _ hu hv hdone gate hmem
    by_contra hunset
    have htrue : v.gates gate = true := by
      obtain ⟨-, -, -, hgates, rfl⟩ := step_eq_some.mp hv
      exact hgates hdone gate hmem
    rw [gate_exec gate (exec_concat.mpr ⟨u, hu, hv⟩), hgate] at htrue
    -- the calls behind the reopening have not set the gate, so it was true before them
    rcases hlater : lastGiven gate (later ++ [last]) with _ | _ | _
    · rw [hlater, Option.getD_none] at htrue
      cases hbefore : lastGiven gate (calls ++ [call]) with
      | none => simp [hbefore] at htrue
      | some value => exact h gate hmem (by simpa [hbefore] using htrue)
    · simp [hlater] at htrue
    · exact hunset (exists_of_lastGiven hlater)

/-- Calls that lead a blocked task to its end. -/
def sampleCalls (gates : List (String × Bool)) : List Call :=
  [{ target := "blocked" }, { target := "verifying" }, { target := "recording" },
    { target := "done", gates := gates }]

/-- A task whose gates are reset when it is reopened. -/
theorem done_reproved_reset : ∃ s t, exec step {} (sampleCalls (doneGates.map (·, true))) = some s ∧
    step s { target := "blocked", gates := doneGates.map (·, false) } = some t ∧
    ∀ later last u v, Continues t (later ++ [last]) → exec step t later = some u →
      step u last = some v → v.status = "done" →
        ∀ gate ∈ doneGates, ∃ c ∈ later ++ [last], c.gates.lookup gate = some true := by
  obtain ⟨s, hs⟩ : ∃ s, exec step {} (sampleCalls (doneGates.map (·, true))) = some s := ⟨_, rfl⟩
  have hdone : s.status = "done" := by cases hs; rfl
  obtain ⟨t, ht⟩ : ∃ t,
      step s { target := "blocked", gates := doneGates.map (·, false) } = some t := by
    cases hs; exact ⟨_, rfl⟩
  exact ⟨s, t, hs, ht, (done_reproved_iff hs ht (Or.inl hdone)).mpr (by decide)⟩

/-- A task that is done, blocked, and done again without any proof. -/
theorem done_restored : ∃ s t, let gates := doneGates.map (·, true)
    exec step {} (sampleCalls gates) = some s ∧ exec step s (sampleCalls []) = some t ∧
      s.status = "done" ∧ t.status = "done" ∧
      ∀ c ∈ sampleCalls [], ∀ gate, c.gates.lookup gate = none :=
  ⟨_, _, rfl, rfl, rfl, rfl, by simp [sampleCalls]⟩

/-! ### Where a task can get to -/

/-- A walk from `blocked` through every status that a call can set. -/
def tour : List String :=
  ["published", "scanning_capabilities", "scanning_context", "loading_local_overlay",
    "selecting_runtime_adapter", "classifying_task", "selecting_profile", "decomposing_tasks",
    "recommending_skills", "building_provider_matrix", "scoring_routes", "routing_capabilities",
    "routing_squad", "planned", "locked", "executing", "verifying", "reviewing",
    "resolving_agent_recommendations", "fixing", "dispatching", "suspended", "verifying",
    "approval_required", "recording", "done", "blocked", "cancelled"]

theorem tour_allowed : ("blocked" :: tour).IsChain Allowed := by decide

/-- A call that may be made for any target. -/
def moveTo (target : String) : Call := { target, gates := doneGates.map (·, true) }

theorem step_moveTo {target : String} (h : Allowed s.status target) :
    step s (moveTo target) = some ((moveTo target).nextState s) := by
  refine step_eq_some.mpr ⟨rfl, h, rfl, fun _ gate hgate => ?_, rfl⟩
  rw [Call.nextGates, moveTo, List.lookup_graph (fun _ => true) hgate]
  rfl

theorem exec_walk {walk : List String} (h : (s.status :: walk).IsChain Allowed) :
    ∃ t, exec step s (walk.map moveTo) = some t := by
  induction walk generalizing s with
  | nil => exact ⟨s, rfl⟩
  | cons target walk ih =>
    obtain ⟨hallow, hwalk⟩ := List.isChain_cons_cons.mp h
    obtain ⟨t, ht⟩ := ih (s := (moveTo target).nextState s) hwalk
    exact ⟨t, exec_cons.mpr ⟨_, step_moveTo hallow, ht⟩⟩

theorem Allowed.blocked {status target : String} (h : Allowed status target)
    (hopen : target ≠ "cancelled") : target = "blocked" ∨ Allowed target "blocked" := by
  have hall : ∀ known ∈ taskStatuses, known ≠ "cancelled" →
      known = "blocked" ∨ Allowed known "blocked" := by decide
  exact hall target h.1 hopen

theorem Allowed.target_ne {status target : String} (h : Allowed status target) :
    target ∉ ["new", "failed"] := by
  have hall : ∀ row ∈ taskTransitions, ∀ known ∈ row.2, known ∉ ["new", "failed"] := by decide
  obtain ⟨-, hrow⟩ := h
  cases hlook : taskTransitions.lookup status with
  | none => simp [hlook] at hrow
  | some targets =>
    obtain ⟨before, after, htab, -⟩ := List.lookup_eq_some_iff.mp hlook
    rw [hlook] at hrow
    exact hall (status, targets) (by simp [htab]) target hrow

theorem exists_walk {target : String} (hmem : target ∈ tour)
    (h : s.status = "blocked" ∨ Allowed s.status "blocked") :
    ∃ walk, (s.status :: (walk ++ [target])).IsChain Allowed := by
  obtain ⟨before, after, htour⟩ := List.append_of_mem hmem
  have hwalk : ("blocked" :: (before ++ [target])).IsChain Allowed := by
    have hch := tour_allowed
    rw [htour, List.append_cons, ← List.cons_append] at hch
    exact hch.left_of_append
  rcases h with hblk | hallow
  · exact ⟨before, hblk ▸ hwalk⟩
  · exact ⟨"blocked" :: before, List.isChain_cons_cons.mpr ⟨hallow, hwalk⟩⟩

/-- **From every state of every run that is not cancelled, accepted calls lead to every status of
`TASK_STATUSES` but `new` and `failed`, the present one included, and to no other; a cancelled
task accepts no call.** -/
theorem status_reachable_iff (hrun : exec step {} calls = some s) (target : String) :
    (∃ later last t u, exec step s later = some t ∧ step t last = some u ∧ u.status = target) ↔
      s.status ≠ "cancelled" ∧ target ∈ taskStatuses ∧ target ∉ ["new", "failed"] := by
  constructor
  · rintro ⟨later, last, t, u, hlater, hlast, rfl⟩
    have hallowed := (step_eq_some.mp hlast).2.1
    rw [status_step hlast]
    refine ⟨fun hcancelled => ?_, hallowed.1, hallowed.target_ne⟩
    have hdead : ∀ {call v}, step s call ≠ some v := by
      intro call v hstep
      have hnext := (step_eq_some.mp hstep).2.1.2
      rw [hcancelled] at hnext
      cases hnext
    cases later with
    | nil =>
      cases hlater
      exact hdead hlast
    | cons call rest =>
      obtain ⟨v, hstep, -⟩ := exec_cons.mp hlater
      exact hdead hstep
  · rintro ⟨hopen, hknown, hnew⟩
    have hmem : target ∈ tour := by
      have hall : ∀ known ∈ taskStatuses, known ∉ ["new", "failed"] → known ∈ tour := by decide
      exact hall target hknown hnew
    have hblocked : s.status = "blocked" ∨ Allowed s.status "blocked" := by
      rcases List.eq_nil_or_concat' calls with rfl | ⟨before, call, rfl⟩
      · cases hrun
        exact .inr (by decide)
      · obtain ⟨r, -, hstep⟩ := exec_concat.mp hrun
        have hstatus := status_step hstep
        rw [hstatus] at hopen ⊢
        exact (step_eq_some.mp hstep).2.1.blocked hopen
    obtain ⟨walk, hwalk⟩ := exists_walk hmem hblocked
    obtain ⟨u, hu⟩ := exec_walk hwalk
    rw [List.map_append] at hu
    obtain ⟨t, ht, hstep⟩ := exec_concat.mp hu
    exact ⟨_, _, t, u, ht, hstep, status_step hstep⟩

/-- A task that is done can be published again. -/
theorem reachable_done : ∃ s, exec step {} (sampleCalls (doneGates.map (·, true))) = some s ∧
    ∃ later last t u, exec step s later = some t ∧ step t last = some u ∧
      u.status = "published" := by
  obtain ⟨s, hs⟩ : ∃ s, exec step {} (sampleCalls (doneGates.map (·, true))) = some s := ⟨_, rfl⟩
  have hdone : s.status = "done" := by cases hs; rfl
  refine ⟨s, hs, (status_reachable_iff hs "published").mpr ⟨?_, by decide, by decide⟩⟩
  rw [hdone]
  decide

end Valp.Task
