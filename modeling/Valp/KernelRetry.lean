/-
Stops and retries of `start_kernel_suspension` (`valp_cli/kernel_runtime.py`).

The call is made again with the same inputs after the process has stopped behind one of
its durable writes.  It then finds a store with a genesis, recovers it, and goes on from
the recovered State.  That State is enough to go on from between two items of the frontier
and behind the last write, but nowhere else: the events to `executing` are not repeated,
the events of an item are repeated from the first one on, and the binding is not written
again once the Suspension has started.

* `retry_converges_iff` — **a retry converges exactly behind the writes of `safeStops`**.
-/
import Valp.KernelRuntime

namespace Valp.Kernel

open Option (some_inj)
open Durable
open List

variable {b : DocumentFile Json} {dir : RuntimeDir} {s t u : State} {taskId : String}
  {x : FrontierItem × SubmissionReceipt} {f : FrontierAttempt} {kind : EventKind}
  {ws done : List (Write × RuntimeDir)} {E : List Evidence} {w w' : WorkItem} {e : Event}

/-! ### The four events of an Attempt -/

theorem ItemMove.of_eligible (h : ItemMove s e .workItemEligible w w') : w'.status = .eligible := by
  cases h with
  | eligible => rfl
  | advanced htab => cases htab
  | moved htab => cases htab
  | cancelled hkind => rcases hkind with hkind | hkind | hkind <;> cases hkind

theorem ItemMove.status_of_created (h : ItemMove s e .attemptCreated w w') :
    w'.status = .submitted := by
  cases h with
  | created => rfl
  | advanced htab => cases htab
  | moved htab => cases htab
  | cancelled hkind => rcases hkind with hkind | hkind | hkind <;> cases hkind

theorem ItemMove.of_row {requiredItem : Option WorkItemStatus}
    {requiredAttempt : Option AttemptStatus} {nextItem : WorkItemStatus}
    {nextAttempt : AttemptStatus} (h : ItemMove s e kind w w')
    (hrow : attemptTransitions kind = some (requiredItem, requiredAttempt, nextItem, nextAttempt)) :
    w'.status = nextItem ∧ ∃ a, w'.currentAttempt = some a ∧ a.status = nextAttempt ∧
      a.tuple = e.tuple := by
  cases h with
  | eligible | created | fenced => cases hrow
  | advanced htab hcur htup =>
    rw [hrow, some_inj] at htab
    cases htab
    exact ⟨rfl, _, rfl, rfl, htup⟩
  | moved htab =>
    unfold attemptTransitions at hrow
    split at hrow <;> first | cases htab | cases hrow
  | cancelled hkind => rcases hkind with rfl | rfl | rfl <;> cases hrow

theorem FrontierAttempt.event_tuple (hkind : kind ≠ .workItemEligible) :
    (f.event taskId s kind).tuple = f.tuple := by
  simp [FrontierAttempt.event, Event.tuple, FrontierAttempt.tuple, hkind]

theorem step_frontier (hkind : kind ∈ frontierKinds)
    (h : step s (f.event taskId s kind, E) = some t) :
    ∃ w w', s.item? f.workItemId = some w ∧ t.item? f.workItemId = some w' ∧
      ItemMove s (f.event taskId s kind) kind w w' := by
  obtain ⟨id, w, w', hid, hw, hw', hmove⟩ := step_named h rfl (isItemEvent_of_frontier hkind)
  cases hid
  exact ⟨w, w', hw, hw', hmove⟩

/-- No input that `t` has recorded at another revision has the digest of an event of `f`.
An input contains the revision that it expects, so only a collision can bring that about. -/
def Unrecorded (t : State) (taskId : String) (f : FrontierAttempt) : Prop :=
  ∀ kind ∈ frontierKinds, ∀ E, f.evidence kind = .ok E →
    ∀ (revision i : Nat) (prior : AcceptedEvent), revision ≤ t.acceptedEvents.length →
    t.acceptedEvents[i]? = some prior →
    prior.inputDigest = inputDigest t (f.event taskId { t with revision := revision } kind) E →
    i = revision

theorem Unrecorded.not_noOp (h : Unrecorded t taskId f) (hs : StateValid s) (hst : Precedes s t)
    (hkind : kind ∈ frontierKinds) (hE : f.evidence kind = .ok E) (noOp : NoOp) :
    reduce s (f.event taskId s kind) E ≠ .noOp noOp := by
  intro hnoOp
  obtain ⟨-, prior, hpr, -, hdig⟩ := recorded_of_noOp hnoOp
  obtain ⟨i, hi, rfl⟩ := getElem_of_mem hpr
  have hev : f.event taskId s kind =
      f.event taskId { t with revision := (s.acceptedEvents.length : Nat) } kind := by
    simp only [FrontierAttempt.event, hst.installation, hst.leaderEpoch, hst.task, hs.revision]
  have hsame : inputDigest s (f.event taskId s kind) E = inputDigest t
      (f.event taskId { t with revision := (s.acceptedEvents.length : Nat) } kind) E := by
    rw [hev, inputDigest, inputDigest, inputPayload, inputPayload, hst.version]
  have hrecd : t.acceptedEvents[i]? = some s.acceptedEvents[i] := by
    obtain ⟨rest, hrest⟩ := hst.record
    rw [← hrest, getElem?_append_left hi, getElem?_eq_getElem hi]
  have hrev := h kind hkind E hE _ i _ hst.record.length_le hrecd (hdig.trans hsame)
  omega

theorem startEvent_step (h : At b dir s) (hkind : kind ∈ frontierKinds)
    (hun : Unrecorded u taskId f) (hsu : Precedes s u)
    (hok : startEvent taskId f s kind dir = (.ok t, ws)) :
    ∃ E, step s (f.event taskId s kind, E) = some t ∧
      ∃ dir', ws = [(.event (.known kind), dir')] ∧ At b dir' t := by
  obtain ⟨E, hE, hok⟩ := lift_bind_eq_ok.mp hok
  rcases appendEvent_ok h hok with ⟨-, -, noOp, hnoOp⟩ | ⟨hstep, dir', hws, hat⟩
  · exact absurd hnoOp (hun.not_noOp h.recovered.sound.valid hsu hkind hE noOp)
  · exact ⟨E, hstep, dir', hws, hat⟩

/-- How far the Attempt `f` has been started in `u` when the process stops behind a write. -/
inductive Stage (taskId : String) (f : FrontierAttempt) (u : State) : EventKind → Prop
  | idle {kind : EventKind} {item : WorkItem} {prior : AcceptedEvent}
      (hkind : kind = .workItemEligible ∨ kind = .attemptCreated)
      (hitem : u.item? f.workItemId = some item) (hidle : item.runningAttempt = none)
      (hprior : prior ∈ u.acceptedEvents)
      (hid : prior.eventId = (f.event taskId u .workItemEligible).eventId) : Stage taskId f u kind
  | running {kind : EventKind} {item : WorkItem} {attempt : Attempt}
      (hkind : kind = .attemptSubmitted ∧ attempt.status = .submitted ∨
        kind = .attemptRunning ∧ attempt.status = .running)
      (hitem : u.item? f.workItemId = some item) (hrunning : item.runningAttempt = some attempt)
      (htuple : attempt.tuple = f.tuple) : Stage taskId f u kind

/-- What is found behind a write of the four events, which lead from `s` to `t`. -/
structure Found (b : DocumentFile Json) (taskId : String) (f : FrontierAttempt) (s t : State)
    (kind : EventKind) (dir : RuntimeDir) (u : State) : Prop where
  at_dir : At b dir u
  before : Beside f.workItemId s u
  after : Beside f.workItemId u t
  stage : Stage taskId f u kind

/-- **The four events, one by one**: the States they make durable. -/
theorem startAttempt_ok (h : At b dir s) (hun : Unrecorded u taskId f) (htu : Precedes t u)
    (hok : frontierKinds.foldlM (startEvent taskId f) s dir = (.ok t, ws)) :
    ∃ s1 s2 s3 d1 d2 d3 d4, Found b taskId f s t .workItemEligible d1 s1 ∧
      Found b taskId f s t .attemptCreated d2 s2 ∧ Found b taskId f s t .attemptSubmitted d3 s3 ∧
      Found b taskId f s t .attemptRunning d4 t ∧
      ws = [(.event (.known .workItemEligible), d1), (.event (.known .attemptCreated), d2),
        (.event (.known .attemptSubmitted), d3), (.event (.known .attemptRunning), d4)] := by
  have mem1 : EventKind.workItemEligible ∈ frontierKinds := by decide
  have mem2 : EventKind.attemptCreated ∈ frontierKinds := by decide
  have mem3 : EventKind.attemptSubmitted ∈ frontierKinds := by decide
  have mem4 : EventKind.attemptRunning ∈ frontierKinds := by decide
  -- the States between the events, and what lies between them
  simp only [frontierKinds, foldlM_cons, foldlM_nil] at hok
  obtain ⟨s1, ws1, rest1, hok1, hrest1, rfl⟩ := Durable.bind_eq_ok.mp hok
  obtain ⟨s2, ws2, rest2, hok2, hrest2, rfl⟩ := Durable.bind_eq_ok.mp hrest1
  obtain ⟨s3, ws3, rest3, hok3, hrest3, rfl⟩ := Durable.bind_eq_ok.mp hrest2
  obtain ⟨s4, ws4, rest4, hok4, hrest4, rfl⟩ := Durable.bind_eq_ok.mp hrest3
  obtain ⟨rfl, rfl⟩ : t = s4 ∧ rest4 = [] := by simpa [eq_comm] using hrest4
  obtain ⟨hat1, hss1⟩ := startEvent_ok h mem1 hok1
  obtain ⟨hat2, hs1s2⟩ := startEvent_ok hat1 mem2 hok2
  obtain ⟨hat3, hs2s3⟩ := startEvent_ok hat2 mem3 hok3
  obtain ⟨-, hs3t⟩ := startEvent_ok hat3 mem4 hok4
  have hs2t := hs2s3.trans hs3t
  have hs1t := hs1s2.trans hs2t
  have hst := hss1.trans hs1t
  -- none of them is a repetition
  obtain ⟨_, hstep1, d1, rfl, hat1⟩ := startEvent_step h mem1 hun (hst.toPrecedes.trans htu) hok1
  obtain ⟨_, hstep2, d2, rfl, hat2⟩ :=
    startEvent_step hat1 mem2 hun (hs1t.toPrecedes.trans htu) hok2
  obtain ⟨_, hstep3, d3, rfl, hat3⟩ :=
    startEvent_step hat2 mem3 hun (hs2t.toPrecedes.trans htu) hok3
  obtain ⟨_, hstep4, d4, rfl, hat4⟩ :=
    startEvent_step hat3 mem4 hun (hs3t.toPrecedes.trans htu) hok4
  obtain ⟨_, w1, -, hw1, hmove1⟩ := step_frontier mem1 hstep1
  obtain ⟨_, w2, -, hw2, hmove2⟩ := step_frontier mem2 hstep2
  obtain ⟨_, w3, -, hw3, hmove3⟩ := step_frontier mem3 hstep3
  obtain ⟨_, w4, -, hw4, hmove4⟩ := step_frontier mem4 hstep4
  obtain ⟨prior, hpr, hid⟩ := step_record hstep1
  refine ⟨s1, s2, s3, d1, d2, d3, d4, ⟨hat1, hss1, hs1t, ?_⟩, ⟨hat2, hss1.trans hs1s2, hs2t, ?_⟩,
    ⟨hat3, (hss1.trans hs1s2).trans hs2s3, hs3t, ?_⟩, ⟨hat4, hst, .refl _ _, ?_⟩, rfl⟩
  · refine .idle (.inl rfl) hw1 ?_ hpr hid
    rw [WorkItem.runningAttempt, hmove1.of_eligible, if_neg (by decide)]
  · refine .idle (.inr rfl) hw2 ?_ (hs1s2.record.subset hpr) hid
    rw [WorkItem.runningAttempt, hmove2.status_of_created, if_neg (by decide)]
  · obtain ⟨hstatus, a, ha, hsubd, htup⟩ := hmove3.of_row rfl
    refine .running (.inl ⟨rfl, hsubd⟩) hw3 ?_ (htup.trans (f.event_tuple (by decide)))
    rw [WorkItem.runningAttempt, hstatus, if_pos rfl, ha]
  · obtain ⟨hstatus, a, ha, hrunning, htup⟩ := hmove4.of_row rfl
    refine .running (.inr ⟨rfl, hrunning⟩) hw4 ?_ (htup.trans (f.event_tuple (by decide)))
    rw [WorkItem.runningAttempt, hstatus, if_pos rfl, ha]

/-! ### The frontier -/

section Frontier

variable {items : List (FrontierItem × SubmissionReceipt)}

/-- `Unrecorded`, for the items of a frontier that are still to be started in `s`. -/
def Fresh (items : List (FrontierItem × SubmissionReceipt)) (taskId : String) (s t : State) :
    Prop :=
  ∀ x ∈ items, ∀ f, frontierAttempt x = .ok f → ¬Started s f → Unrecorded t taskId f

theorem Fresh.advance {items' : List (FrontierItem × SubmissionReceipt)}
    (h : Fresh items taskId s t) (hsu : Advances s u) (hsub : items' ⊆ items) :
    Fresh items' taskId u t := by
  intro x hx f hf hstd
  exact h x (hsub hx) f hf fun hs => hstd (hsu.started hs)

theorem Fresh.unrecorded {item : WorkItem} (h : Fresh items taskId s t) (hx : x ∈ items)
    (hf : frontierAttempt x = .ok f) (hitem : s.item? f.workItemId = some item)
    (hidle : item.runningAttempt = none) : Unrecorded t taskId f := by
  refine h x hx f hf ?_
  rintro ⟨item', attempt, hitem', hrunning, -⟩
  rw [hitem, some_inj] at hitem'
  rw [← hitem', hidle] at hrunning
  cases hrunning

theorem Stage.started (h : Stage taskId f u .attemptRunning) : Started u f := by
  cases h with
  | idle hkind => rcases hkind with hkind | hkind <;> cases hkind
  | running _ hitem hrunning htup => exact ⟨_, _, hitem, hrunning, htup⟩

theorem startItems_started (h : At b dir s) (hfr : Fresh items taskId s u)
    (hok : items.foldlM (startItem taskId) s dir = (.ok t, ws)) (htu : Precedes t u) :
    ∀ x ∈ items, ∃ f, frontierAttempt x = .ok f ∧ Started t f := by
  induction items generalizing s dir ws with
  | nil => simp
  | cons x items ih =>
    rw [foldlM_cons] at hok
    obtain ⟨v, first, rest, hturn, hrest, rfl⟩ := Durable.bind_eq_ok.mp hok
    obtain ⟨hv, hsv⟩ := startItem_advances h hturn
    obtain ⟨-, hvt⟩ := startItems_advances hv hrest
    intro y hy
    rcases mem_cons.mp hy with rfl | hy
    · obtain ⟨f, hf, ⟨hstd, rfl, -⟩ | ⟨item, hitem, hidle, hevs⟩⟩ := startItem_ok hturn
      · exact ⟨f, hf, hvt.started hstd⟩
      have hun := hfr.unrecorded (by simp) hf hitem hidle
      obtain ⟨_, _, _, _, _, _, _, -, -, -, hlast, -⟩ :=
        startAttempt_ok h hun (hvt.toPrecedes.trans htu) hevs
      exact ⟨f, hf, hvt.started hlast.stage.started⟩
    · exact ih hv (hfr.advance hsv (subset_cons_self _ _)) hrest y hy

/-- A turn that finds its first event recorded fails. -/
theorem startItem_idle (h : At b dir s) (hun : Unrecorded u taskId f) (hsu : Precedes s u)
    (hf : frontierAttempt x = .ok f) (hstage : Stage taskId f s kind)
    (hkind : kind = .workItemEligible ∨ kind = .attemptCreated) :
    startItem taskId s x dir ≠ (.ok t, ws) := by
  intro hok
  cases hstage with
  | running hkind' => rcases hkind with rfl | rfl <;> simp at hkind'
  | idle _ hitem hidle hpr hid =>
    rw [startItem_of_idle hf hitem hidle, frontierKinds, foldlM_cons] at hok
    obtain ⟨_, _, _, hfst, -, -⟩ := Durable.bind_eq_ok.mp hok
    obtain ⟨E, hstep, -⟩ := startEvent_step h (by decide) hun hsu hfst
    rw [step_recorded hpr hid] at hstep
    cases hstep

/-- What a retry of the loop, which led to `t`, does where it has stopped behind an event. -/
inductive FrontierRetry (items : List (FrontierItem × SubmissionReceipt)) (taskId : String)
    (t : State) (left : List (Write × RuntimeDir)) (dir : RuntimeDir) (u : State) :
    EventKind → Prop
  | resumes (h : items.foldlM (startItem taskId) u dir = (.ok t, left)) :
      FrontierRetry items taskId t left dir u .attemptRunning
  | fails {kind : EventKind} (hkind : kind = .workItemEligible ∨ kind = .attemptCreated)
      (h : ∀ t' ws, items.foldlM (startItem taskId) u dir ≠ (.ok t', ws)) :
      FrontierRetry items taskId t left dir u kind
  | skips {id : Identity} {item item' : WorkItem} {attempt attempt' : Attempt}
      (hitem : u.item? id = some item) (hrunning : item.runningAttempt = some attempt)
      (hstatus : attempt.status = .submitted) (hitem' : t.item? id = some item')
      (hrunning' : item'.runningAttempt = some attempt') (hstatus' : attempt'.status = .running) :
      FrontierRetry items taskId t left dir u .attemptSubmitted

/-- **A stop in the frontier**: behind the last event of an item the retry goes on; behind
the first or the second it fails; behind the third it takes the item for started. -/
theorem startItems_stop (h : At b dir s) (hfr : Fresh items taskId s u)
    (hok : items.foldlM (startItem taskId) s dir = (.ok t, ws)) (htu : Precedes t u)
    (hdone : done <+: ws) (hne : done ≠ []) :
    ∃ v kind left, done.getLast?.map Prod.fst = some (.event (.known kind)) ∧ ws = done ++ left ∧
      At b (last dir done) v ∧ Steady s v ∧
      FrontierRetry items taskId t left (last dir done) v kind := by
  obtain ⟨before, x, after, v, v', first, inner, writes, rest, rfl, hbef, hturn, haft, hinner,
    hinner', rfl, rfl⟩ := foldlM_stop hok hdone hne
  obtain ⟨hv, hsv⟩ := startItems_advances h hbef
  obtain ⟨hv', hvv'⟩ := startItem_advances hv hturn
  obtain ⟨-, hv't⟩ := startItems_advances hv' haft
  have hv'u := hv't.toPrecedes.trans htu
  obtain ⟨f, hf, ⟨-, -, rfl⟩ | ⟨item, hitem, hidle, hevs⟩⟩ := startItem_ok hturn
  · exact absurd (prefix_nil.mp hinner) hinner'
  have hx : x ∈ before ++ x :: after := by simp
  have hun := (hfr.advance hsv (List.Subset.refl _)).unrecorded hx hf hitem hidle
  obtain ⟨s1, s2, s3, d1, d2, d3, d4, hfnd1, hfnd2, hfnd3, hfnd4, rfl⟩ :=
    startAttempt_ok hv hun hv'u hevs
  -- the items before this one are skipped wherever the four events have led
  have hskip : ∀ z, Beside f.workItemId v z → ∀ y ∈ before, ∀ d,
      startItem taskId z y d = (.ok z, []) := by
    intro z hvz y hy d
    obtain ⟨f', hf', hstd⟩ := startItems_started h
      (hfr.advance (.refl s) (subset_append_left _ _)) hbef
      (hvv'.toPrecedes.trans hv'u) y hy
    exact startItem_skip hf' ((hvz.advances hitem hidle).started hstd) d
  have hfails : ∀ z d kind, Found b taskId f v v' kind d z →
      (kind = .workItemEligible ∨ kind = .attemptCreated) → ∀ t' ws,
      (before ++ x :: after).foldlM (startItem taskId) z d ≠ (.ok t', ws) := by
    intro z d kind hfnd hkind t' ws hrt
    rw [foldlM_skip (hskip z hfnd.before), foldlM_cons] at hrt
    obtain ⟨_, _, _, hagain, -, -⟩ := Durable.bind_eq_ok.mp hrt
    exact startItem_idle hfnd.at_dir hun (hfnd.after.toPrecedes.trans hv'u) hf hfnd.stage
      hkind hagain
  obtain ⟨left, hleft⟩ := hinner
  suffices hstop : ∃ z kind, inner.getLast?.map Prod.fst = some (.event (.known kind)) ∧
      Found b taskId f v v' kind (last (last dir first) inner) z ∧
      FrontierRetry (before ++ x :: after) taskId t (left ++ rest) (last (last dir first) inner) z
        kind by
    obtain ⟨z, kind, hlast, hfnd, hrt⟩ := hstop
    rw [← last_append] at hfnd hrt
    refine ⟨z, kind, left ++ rest, ?_, ?_, hfnd.at_dir,
      hsv.toSteady.trans hfnd.before.toSteady, hrt⟩
    · rw [getLast?_append_of_ne_nil _ hinner', hlast]
    · rw [← hleft]
      simp
  -- behind which of the four events
  rcases inner with _ | ⟨w1, _ | ⟨w2, _ | ⟨w3, _ | ⟨w4, _ | ⟨w5, inner⟩⟩⟩⟩⟩
  · exact absurd rfl hinner'
  · obtain ⟨rfl, rfl⟩ : _ ∧ _ := by simpa using hleft
    exact ⟨s1, _, rfl, hfnd1, .fails (.inl rfl) (hfails s1 d1 _ hfnd1 (.inl rfl))⟩
  · obtain ⟨rfl, rfl, rfl⟩ : _ ∧ _ ∧ _ := by simpa using hleft
    exact ⟨s2, _, rfl, hfnd2, .fails (.inr rfl) (hfails s2 d2 _ hfnd2 (.inr rfl))⟩
  · obtain ⟨rfl, rfl, rfl, rfl⟩ : _ ∧ _ ∧ _ ∧ _ := by simpa using hleft
    refine ⟨s3, _, rfl, hfnd3, ?_⟩
    -- the item runs in both States, but its Attempt is submitted in one of them
    cases hfnd3.stage with
    | idle hkind => rcases hkind with hkind | hkind <;> cases hkind
    | running hkind hitem3 hrunning3 =>
      cases hfnd4.stage with
      | idle hkind => rcases hkind with hkind | hkind <;> cases hkind
      | running hkind' hitem4 hrunning4 =>
        exact .skips hitem3 hrunning3 (by simpa using hkind)
          (hv't.running _ _ _ hitem4 hrunning4) hrunning4 (by simpa using hkind')
  · obtain ⟨rfl, rfl, rfl, rfl, rfl⟩ : _ ∧ _ ∧ _ ∧ _ ∧ _ := by simpa using hleft
    refine ⟨v', _, rfl, hfnd4, .resumes ?_⟩
    rw [foldlM_skip (hskip v' hfnd4.before), foldlM_cons,
      bind_of_pure (startItem_skip hf hfnd4.stage.started _)]
    exact haft
  · simp at hleft

end Frontier

/-! ### The Suspension -/

variable {y : Input}

section Suspension

variable {p : Prepared} {call : SuspensionCall} {j : Json} {final : RuntimeDir}

theorem step_precedes (h : step s y = some t) : Precedes s t := by
  have hextends := step_extends h
  obtain ⟨_, _, _, -, -, rfl⟩ := step_iff.mp h
  exact ⟨hextends, rfl⟩

theorem step_suspension_none (h : step s y = some t) (hk : y.1.kind = .known kind)
    (hkind : kind ≠ .suspensionStarted) (hnone : s.suspension = none) : t.suspension = none := by
  have hmove := step_suspension h hk
  rw [hnone] at hmove
  generalize t.suspension = after at hmove
  cases hmove with
  | kept | cleared => rfl
  | started => exact absurd rfl hkind

theorem step_suspended (h : step s y = some t) (hy : Starts y) :
    s.status = .known .executing ∧ t.workItems = s.workItems ∧
      ∃ v, t.suspension = some v ∧ v.status = .waiting := by
  obtain ⟨status, kind, before, effect, hadm, -, hbr, hset, rfl⟩ := step_cases h
  obtain rfl := hadm.kind_unique hy
  obtain ⟨heff, hsusp⟩ := settle_spec hset
  cases hbr
  case item hkind _ => cases hkind
  case task hkind _ => cases hkind
  case suspensionStarted hbr =>
    obtain ⟨rfl, hst, hitems, -, -, -, -, _, _, _, _, -, -, -, -, hstd⟩ :=
      suspensionStarted_spec hbr
    obtain ⟨-, hsame⟩ | ⟨hmov, -⟩ := hsusp
    · refine ⟨hadm.status_eq, ?_, _, hsame.trans hstd, rfl⟩
      rw [← hitems, heff]
      rfl
    · exact absurd hst hmov

theorem suspensionInput_starts (h : suspensionInput p s = .ok y) : Starts y := by
  simp only [suspensionInput, bind_eq_ok, Except.ok.injEq] at h
  obtain ⟨_, -, _, -, _, -, _, -, _, -, _, -, rfl⟩ := h
  rfl

theorem workflowBinding_member (p : Prepared) (s : State) (v : Suspension) :
    (workflowBinding p s v).member? "workflow_suspension_id" =
        some (.str p.call.suspension.suspensionId) ∧
      (workflowBinding p s v).member? "kernel_revision" = some (.int s.revision) := by
  rw [workflowBinding, Json.member?_record (by simp only [List.map]; decide),
    Json.member?_record (by simp only [List.map]; decide)]
  exact ⟨rfl, rfl⟩

/-- **The end of the call**: the binding is written behind the Suspension, or behind an
append that was answered as a repetition and is so again. -/
theorem beginSuspension_ok (h : At b dir s) (hok : beginSuspension p s dir = (.ok j, ws)) :
    ∃ t v, j = workflowBinding p t v ∧ t.suspension = some v ∧ Precedes s t ∧
      t.workItems = s.workItems ∧ At (.document j) (last dir ws) t ∧
      ((t = s ∧ (∃ d, ws = [(.binding, d)]) ∧ ∀ d, beginSuspension p s d =
          (.ok j, [(.binding, { d with binding := .document j })])) ∨
        s.status = .known .executing ∧ v.status = .waiting ∧ s.revision < t.revision ∧
          ∃ d, ws = [(.event (.known .suspensionStarted), d),
            (.binding, { d with binding := .document j })] ∧ At b d t) := by
  obtain ⟨⟨e, E⟩, hin, hrest⟩ := lift_bind_eq_ok.mp hok
  obtain ⟨t, first, second, happ, hwrite, rfl⟩ := Durable.bind_eq_ok.mp hrest
  have hat := appendEvent_at h happ
  cases hsusp : t.suspension with
  | none => simp [hsusp] at hwrite
  | some v =>
    simp only [hsusp] at hwrite
    obtain ⟨rfl, rfl⟩ : j = workflowBinding p t v ∧ second =
        [(.binding, { last dir first with binding := .document (workflowBinding p t v) })] := by
      obtain ⟨_, writes, rest, hfst, hsnd, rfl⟩ := Durable.bind_eq_ok.mp hwrite
      rw [write, Prod.mk.injEq] at hfst
      rw [pure_apply, Prod.mk.injEq, Except.ok.injEq] at hsnd
      rw [← hfst.2, ← hsnd.2]
      exact ⟨hsnd.1.symm, rfl⟩
    rcases appendEvent_ok h happ with ⟨rfl, rfl, noOp, hnoOp⟩ | ⟨hstep, d, rfl, hd⟩
    · refine ⟨t, v, rfl, hsusp, (Steady.refl t).toPrecedes, rfl, ⟨hat.recovered, rfl⟩,
        .inl ⟨rfl, ⟨_, rfl⟩, ?_⟩⟩
      intro d
      have hagain : appendEvent t e E d = (.ok t, []) := by
        simp only [appendEvent, hnoOp, (recorded_of_noOp hnoOp).1]
      rw [beginSuspension, hin, lift_ok_bind]
      show (appendEvent t e E >>= _) d = _
      rw [bind_of_pure hagain]
      simp only [hsusp]
      rfl
    · have hstarts : Starts (e, E) := suspensionInput_starts hin
      obtain ⟨hst, hitems, v', hv', hwait⟩ := step_suspended hstep hstarts
      obtain rfl : v' = v := some_inj.mp (hv'.symm.trans hsusp)
      refine ⟨t, v', rfl, hsusp, step_precedes hstep, hitems, ⟨hd.recovered, rfl⟩,
        .inr ⟨hst, hwait, ?_, d, ?_, hd⟩⟩
      · have hrev := step_revision hstep
        omega
      · rw [show e.kind = _ from hstarts]
        rfl

/-! ### Behind the opening of the store -/

/-- A Suspension is waiting. -/
def State.isWaiting (s : State) : Bool :=
  s.suspension.any fun suspension => suspension.status == .waiting

theorem all_resumed_eq (s : State) :
    (s.suspension.all fun suspension => suspension.status == .resumed) = !s.isWaiting := by
  rw [State.isWaiting]
  cases s.suspension with
  | none => rfl
  | some v =>
    obtain ⟨_, _, _, status, _, _, _, _, _⟩ := v
    cases status <;> rfl

theorem continueSuspension_waiting (h : s.isWaiting) (dir : RuntimeDir) :
    continueSuspension p s dir = readBinding p dir := by
  rw [continueSuspension, all_resumed_eq, h]
  simp only [Bool.not_true, Bool.false_eq_true, if_false]
  rw [bind_of_pure rfl]
  rw [State.isWaiting] at h
  rw [if_pos h]

theorem continueSuspension_open (h : At b dir s) (hopen : s.isWaiting = false) :
    continueSuspension p s dir = (.ok j, ws) ↔ ∃ t first second,
      startFrontierAttempts p s dir = (.ok t, first) ∧
      beginSuspension p t (last dir first) = (.ok j, second) ∧ ws = first ++ second := by
  rw [continueSuspension, all_resumed_eq, hopen, Bool.not_false, if_pos rfl, Durable.bind_eq_ok]
  -- the frontier keeps the Suspension, so there is none to wait for behind it
  have hstill : ∀ t first, startFrontierAttempts p s dir = (.ok t, first) →
      (t.suspension.any fun suspension => suspension.status == .waiting) = false := by
    intro t first hfront
    rw [(startItems_advances h hfront).2.suspension]
    exact hopen
  constructor
  · rintro ⟨t, first, second, hfront, hrest, rfl⟩
    simp only [hstill t first hfront, Bool.false_eq_true, if_false] at hrest
    exact ⟨t, first, second, hfront, hrest, rfl⟩
  · rintro ⟨t, first, second, hfront, hrest, rfl⟩
    refine ⟨t, first, second, hfront, ?_, rfl⟩
    simp only [hstill t first hfront, Bool.false_eq_true, if_false]
    exact hrest

theorem continueSuspension_early (h : At b dir s) (hnone : s.suspension = none)
    (hok : continueSuspension p s dir = (.ok j, ws)) : s.status = .known .executing := by
  have hopen : s.isWaiting = false := by rw [State.isWaiting, hnone]; rfl
  obtain ⟨t, first, second, hfront, hbg, -⟩ := (continueSuspension_open h hopen).mp hok
  obtain ⟨ht, hst⟩ := startItems_advances h hfront
  obtain ⟨t', v, -, hv, -, -, -, ⟨rfl, -⟩ | ⟨hstatus, -⟩⟩ := beginSuspension_ok ht hbg
  · rw [hst.suspension, hnone] at hv
    cases hv
  · rw [← hst.status]
    exact hstatus

/-- The State belongs to the installation and the Task of the call. -/
structure Owned (p : Prepared) (s : State) : Prop where
  installation : s.installationId = p.installationId
  leaderEpoch : s.leaderEpoch = p.leaderEpoch
  task : s.taskId = p.task

theorem Owned.of_precedes (h : Owned p s) (hst : Precedes s t) : Owned p t :=
  ⟨hst.installation.trans h.installation, hst.leaderEpoch.trans h.leaderEpoch,
    hst.task.trans h.task⟩

/-- **A retry** recovers the store and goes on from its State. -/
theorem startKernelSuspension_resume (hp : prepare call = .ok p) (h : At b dir s)
    (howned : Owned p s) : startKernelSuspension call dir = continueSuspension p s dir := by
  obtain ⟨recovery, hrec, hsta⟩ := h.recovered
  obtain ⟨g, entries, -, -, hholds, -⟩ := h.recovered.holds
  have hopen : openHistory p dir = (.ok s, []) := by
    rw [openHistory, hholds.genesis]
    show recoverHistory p dir = _
    rw [recoverHistory, observe_apply, hrec]
    simp [hsta, howned.installation, howned.leaderEpoch, howned.task]
  rw [startKernelSuspension, hp, lift_ok_bind]
  exact bind_of_pure hopen

/-- The call, made again in the directory `found`, succeeds and leaves the Kernel State and
the binding of `final`. -/
def Converges (call : SuspensionCall) (found final : RuntimeDir) : Prop :=
  ∃ j ws t, startKernelSuspension call found = (.ok j, ws) ∧ Recovered (last found ws).files t ∧
    Recovered final.files t ∧ (last found ws).binding = final.binding

/-- The last durable writes behind which the call may stop: none, the last of the events to
`executing`, the last event of an item of the frontier, and the binding. -/
def safeStops : List (Option Write) :=
  [none, some (.event (.known .dispatchAccepted)), some (.event (.known .attemptRunning)),
    some .binding]

theorem readBinding_own {v : Suspension} (h : dir.binding = .document j)
    (hj : j = workflowBinding p t v) : readBinding p dir = (.ok j, []) := by
  have hmember := (workflowBinding_member p t v).1
  rw [← hj] at hmember
  rw [readBinding, observe_apply, h]
  cases j with
  | obj members => simp [Decode.hasText, hmember]
  | null | bool | int | str | arr => cases hmember

theorem retry_open (hp : prepare call = .ok p) (h : At b dir s) (howned : Owned p s)
    (hopen : s.isWaiting = false) :
    startKernelSuspension call dir = (.ok j, ws) ↔ ∃ t first second,
      startFrontierAttempts p s dir = (.ok t, first) ∧
      beginSuspension p t (last dir first) = (.ok j, second) ∧ ws = first ++ second := by
  rw [startKernelSuspension_resume hp h howned]
  exact continueSuspension_open h hopen

theorem retry_waiting (hp : prepare call = .ok p) (h : At b dir s) (howned : Owned p s)
    (hwait : s.isWaiting) : startKernelSuspension call dir = readBinding p dir := by
  rw [startKernelSuspension_resume hp h howned]
  exact continueSuspension_waiting hwait dir

section Stop

variable {first second : List (Write × RuntimeDir)}

theorem frontier_stop (hp : prepare call = .ok p) (h : At b dir s) (howned : Owned p s)
    (hopen : s.isWaiting = false) (hfront : startFrontierAttempts p s dir = (.ok t, first))
    (hbg : beginSuspension p t (last dir first) = (.ok j, second))
    (hfr : ∀ u, Recovered (last (last dir first) second).files u →
      Fresh p.frontier p.call.taskId s u) (hdone : done <+: first) (hne : done ≠ []) :
    Converges call (last dir done) (last (last dir first) second) ↔
      done.getLast?.map Prod.fst ∈ safeStops := by
  obtain ⟨ht, -⟩ := startItems_advances h hfront
  obtain ⟨u, -, -, -, htu, hitems, hfin, -⟩ := beginSuspension_ok ht hbg
  obtain ⟨z, kind, left, hlast, hleft, hz, hsz, hrt⟩ :=
    startItems_stop h (hfr u hfin.recovered) hfront htu hdone hne
  have hopenz : z.isWaiting = false := by
    rw [State.isWaiting, hsz.suspension]
    exact hopen
  have hownedz := howned.of_precedes hsz.toPrecedes
  rw [hlast]
  cases hrt with
  | resumes hloop =>
    -- the retry makes the writes that were left
    refine iff_of_true ?_ (by decide)
    have hreached : last (last dir done) left = last dir first := by
      rw [← last_append, ← hleft]
    refine ⟨j, left ++ second, u,
      (retry_open hp hz hownedz hopenz).mpr ⟨t, left, second, hloop, ?_, rfl⟩, ?_⟩
    · rw [hreached]
      exact hbg
    · rw [last_append, hreached]
      exact ⟨hfin.recovered, hfin.recovered, rfl⟩
  | fails hkind hloop =>
    refine iff_of_false ?_ (by rcases hkind with rfl | rfl <;> decide)
    rintro ⟨j', ws', _, hcall, -⟩
    obtain ⟨t', first', _, hloop', -⟩ := (retry_open hp hz hownedz hopenz).mp hcall
    exact hloop t' first' hloop'
  | @skips id item item' attempt attempt' hitem hrunning hst hitem' hrunning' hst' =>
    refine iff_of_false ?_ (by decide)
    rintro ⟨j', ws', u', hcall, hu', hu, -⟩
    obtain ⟨t', first', second', hloop', hbg', rfl⟩ :=
      (retry_open hp hz hownedz hopenz).mp hcall
    obtain ⟨ht', hzt'⟩ := startItems_advances hz hloop'
    obtain ⟨u'', -, -, -, -, hitems'', hfin'', -⟩ := beginSuspension_ok ht' hbg'
    rw [last_append] at hu'
    -- both States are that of the store, and they disagree about the Attempt
    obtain rfl := hu'.unique hfin''.recovered
    obtain rfl := hu.unique hfin.recovered
    have hretried : u'.item? id = some item := by
      rw [State.item?, hitems'']
      exact hzt'.running _ _ _ hitem hrunning
    have huninterrupted : u'.item? id = some item' := by
      rw [State.item?, hitems]
      exact hitem'
    rw [huninterrupted, some_inj] at hretried
    rw [hretried, hrunning, some_inj] at hrunning'
    rw [← hrunning', hst] at hst'
    cases hst'

/-- A stop behind the frontier: the Suspension without its binding, or both. -/
theorem suspension_stop (hp : prepare call = .ok p) (h : At b dir t) (howned : Owned p t)
    (hopen : t.isWaiting = false) (hbg : beginSuspension p t dir = (.ok j, second))
    (hstd : ∀ x ∈ p.frontier, ∃ f, frontierAttempt x = .ok f ∧ Started t f)
    (hbeh : ∀ value, b = .document value →
      ∃ revision, value.member? "kernel_revision" = some (.int revision) ∧ revision ≤ t.revision)
    (hdone : done <+: second) (hne : done ≠ []) :
    Converges call (last dir done) (last dir second) ↔
      done.getLast?.map Prod.fst ∈ safeStops := by
  obtain ⟨u, v, hj, hv, htu, -, hfin, hend⟩ := beginSuspension_ok h hbg
  have hownedu := howned.of_precedes htu
  rcases hend with ⟨rfl, ⟨d, rfl⟩, hagain⟩ | ⟨-, hwaiting, hrev, d, rfl, hd⟩
  · -- the append was a repetition, and so it is in the retry
    obtain rfl : done = [(.binding, d)] := by
      rcases prefix_cons_iff.mp hdone with hnil | ⟨rest, rfl, hrest⟩
      · exact absurd hnil hne
      · rw [prefix_nil.mp hrest]
    refine iff_of_true ?_ (by simp [safeStops])
    rw [last_cons, last_nil] at hfin ⊢
    have hskip : startFrontierAttempts p u d = (.ok u, []) := by
      have hturns : ∀ x ∈ p.frontier, ∀ d, startItem p.call.taskId u x d = (.ok u, []) := by
        intro x hx d
        obtain ⟨f, hf, hstd⟩ := hstd x hx
        exact startItem_skip hf hstd d
      have hitems : (p.frontier ++ []).foldlM (startItem p.call.taskId) u d = (.ok u, []) :=
        foldlM_skip hturns d
      rwa [append_nil] at hitems
    refine ⟨j, _, u, (retry_open hp hfin hownedu hopen).mpr ⟨u, [], _, hskip, hagain d, rfl⟩,
      hfin.recovered, hfin.recovered, hfin.binding.symm⟩
  · have hwait : u.isWaiting := by simp [State.isWaiting, hv, hwaiting]
    rw [last_cons, last_cons, last_nil] at hfin
    rcases prefix_cons_iff.mp hdone with hnil | ⟨rest, rfl, hrest⟩
    · exact absurd hnil hne
    rcases prefix_cons_iff.mp hrest with rfl | ⟨rest', rfl, hrest'⟩
    · -- the retry returns the binding that was there before, if any
      refine iff_of_false ?_ (by simp [safeStops])
      rw [last_cons, last_nil, last_cons, last_cons, last_nil]
      rintro ⟨j', ws', -, hcall, -, -, hbind⟩
      rw [retry_waiting hp hd hownedu hwait, readBinding, observe_apply, Prod.mk.injEq] at hcall
      rw [← hcall.2, last_nil, hd.binding] at hbind
      obtain ⟨revision, hmember, hle⟩ := hbeh j hbind
      rw [hj, (workflowBinding_member p u v).2, some_inj, Json.int.injEq] at hmember
      omega
    · obtain rfl := prefix_nil.mp hrest'
      refine iff_of_true ?_ (by simp [safeStops])
      rw [last_cons, last_cons, last_nil]
      have hread := readBinding_own hfin.binding hj
      exact ⟨j, [], u, (retry_waiting hp hfin hownedu hwait).trans hread, hfin.recovered,
        hfin.recovered, rfl⟩

/-- **A stop behind the opening of the store.**  The binding that is there was written at a
revision that the State `s` has reached. -/
theorem continueSuspension_stop (hp : prepare call = .ok p) (h : At b dir s) (howned : Owned p s)
    (hok : continueSuspension p s dir = (.ok j, ws))
    (hfr : ∀ t, Recovered (last dir ws).files t → Fresh p.frontier p.call.taskId s t)
    (hbeh : ∀ value, b = .document value →
      ∃ revision, value.member? "kernel_revision" = some (.int revision) ∧ revision ≤ s.revision)
    (hdone : done <+: ws) (hne : done ≠ []) :
    Converges call (last dir done) (last dir ws) ↔ done.getLast?.map Prod.fst ∈ safeStops := by
  cases hwait : s.isWaiting with
  | true =>
    -- a State that waits is left as it is
    rw [continueSuspension_waiting hwait, readBinding, observe_apply, Prod.mk.injEq] at hok
    rw [← hok.2] at hdone
    exact absurd (prefix_nil.mp hdone) hne
  | false =>
    obtain ⟨t, first, second, hfront, hbg, rfl⟩ := (continueSuspension_open h hwait).mp hok
    rw [last_append] at hfr ⊢
    rcases stop_append hdone with hfst | ⟨inner, hinner, hinner', rfl⟩
    · exact frontier_stop hp h howned hwait hfront hbg hfr hfst hne
    obtain ⟨ht, hst⟩ := startItems_advances h hfront
    obtain ⟨u, -, -, -, htu, -, hfin, -⟩ := beginSuspension_ok ht hbg
    have hopen : t.isWaiting = false := by
      rw [State.isWaiting, hst.suspension]
      exact hwait
    rw [last_append, getLast?_append_of_ne_nil _ hinner']
    refine suspension_stop hp ht (howned.of_precedes hst.toPrecedes) hopen hbg
      (startItems_started h (hfr u hfin.recovered) hfront htu) ?_ hinner hinner'
    intro value hvalue
    obtain ⟨revision, hmember, hle⟩ := hbeh value hvalue
    refine ⟨revision, hmember, hle.trans ?_⟩
    rw [h.recovered.sound.valid.revision, ht.recovered.sound.valid.revision]
    exact Int.ofNat_le.mpr hst.record.length_le

end Stop

/-! ### The opening of the store -/

theorem recoverHistory_ok (hok : recoverHistory p dir = (.ok s, ws)) :
    ws = [] ∧ At dir.binding dir s ∧ Owned p s := by
  rw [recoverHistory, observe_apply, Prod.mk.injEq] at hok
  obtain ⟨hsta, hws⟩ := hok
  refine ⟨hws.symm, ?_⟩
  split at hsta
  · cases hsta
  rename_i recovery hrec
  dsimp only at hsta
  split at hsta
  · cases hsta
  rename_i howned
  simp only [ne_eq, not_or, not_not] at howned
  cases hsta
  exact ⟨⟨⟨recovery, hrec, rfl⟩, rfl⟩, howned.1, howned.2.1, howned.2.2⟩

variable {g : State} {index : Int}

theorem initializeHistory_ok {done : Unit}
    (hok : initializeHistory g dir = (.ok done, ws)) :
    ∃ files, initializeStore none dir.files g = (.ok (), files) ∧
      ws = [(.genesis, { dir with files := files })] := by
  unfold initializeHistory at hok
  generalize initializeStore none dir.files g = result at hok
  obtain ⟨(error | message) | ⟨⟩, files⟩ := result
  · cases hok
  · cases hok
  · exact ⟨files, rfl, (Prod.mk.inj hok).2.symm⟩

theorem startHistory_ok (hmiss : dir.files.genesis = none)
    (hok : startHistory p dir = (.ok s, ws)) :
    ∃ items d rest, At dir.binding d (p.genesis items) ∧ ws = (.genesis, d) :: rest ∧
      spineKinds.foldlM (spineTurn p) (p.genesis items) d = (.ok s, rest) := by
  rw [startHistory] at hok
  obtain ⟨items, -, hrest⟩ := lift_bind_eq_ok.mp hok
  obtain ⟨_, first, second, hinitialize, hspine, hws⟩ := Durable.bind_eq_ok.mp hrest
  obtain ⟨files, hstore, hfst⟩ := initializeHistory_ok hinitialize
  refine ⟨items, { dir with files := files }, second,
    ⟨initializeStore_recovered hmiss hstore, rfl⟩, ?_, ?_⟩
  · rw [hws, hfst]
    rfl
  · rwa [hfst] at hspine

/-- The State of a Task that is not executing yet. -/
structure Early (p : Prepared) (b : DocumentFile Json) (dir : RuntimeDir) (s : State)
    (status : TaskStatus) : Prop where
  at_dir : At b dir s
  owned : Owned p s
  suspension : s.suspension = none
  status_eq : s.status = .known status

variable {status : TaskStatus}

theorem spineTurn_ok (h : Early p b dir s status)
    (hkind : kind.isTaskEvent) (hok : spineTurn p s (index, kind) dir = (.ok t, ws)) :
    (t = s ∧ ws = [] ∧ s.acceptedEvents ≠ []) ∨
      ∃ target d, kernelTaskTransitions status kind = some target ∧
        ws = [(.event (.known kind), d)] ∧ Early p b d t target := by
  rcases appendEvent_ok h.at_dir hok with ⟨rfl, rfl, noOp, hnoOp⟩ | ⟨hstep, d, rfl, hd⟩
  · obtain ⟨-, prior, hpr, -⟩ := recorded_of_noOp hnoOp
    exact .inl ⟨rfl, rfl, ne_nil_of_mem hpr⟩
  have hk : (spineEvent p s index kind, ([] : List Evidence)).1.kind = .known kind := rfl
  obtain ⟨target, htgt, hmove⟩ := step_status hstep h.status_eq hk
  have hsusp : t.suspension = none :=
    step_suspension_none hstep hk (by rintro rfl; cases hkind) h.suspension
  refine .inr ⟨target, d, ?_, rfl, hd, h.owned.of_precedes (step_precedes hstep), hsusp, htgt⟩
  cases hmove with
  | edge _ hedge => exact hedge
  | item hitem =>
    rw [isTaskEvent_of_item hitem] at hkind
    cases hkind
  | interrupted | resumed | suspended | woken | redirected => cases hkind

/-- **The events to `executing`** of a call that gets there: each is appended. -/
theorem spine_ok (h : Early p b dir s .published) (hnew : s.acceptedEvents = [])
    (hok : spineKinds.foldlM (spineTurn p) s dir = (.ok t, ws))
    (hexec : t.status = .known .executing) :
    ∃ s1 s2 d1 d2 d3, Early p b d1 s1 .routingValidation ∧ Early p b d2 s2 .dispatching ∧
      Early p b d3 t .executing ∧ ws = [(.event (.known .routingValidationStarted), d1),
        (.event (.known .routingValidationPassed), d2),
        (.event (.known .dispatchAccepted), d3)] := by
  simp only [spineKinds, foldlM_cons, foldlM_nil] at hok
  obtain ⟨s1, ws1, rest1, hok1, hrest1, rfl⟩ := Durable.bind_eq_ok.mp hok
  obtain ⟨s2, ws2, rest2, hok2, hrest2, rfl⟩ := Durable.bind_eq_ok.mp hrest1
  obtain ⟨s3, ws3, rest3, hok3, hrest3, rfl⟩ := Durable.bind_eq_ok.mp hrest2
  obtain ⟨rfl, rfl⟩ : t = s3 ∧ rest3 = [] := by simpa [eq_comm] using hrest3
  -- a repetition would leave the Task behind on its way
  rcases spineTurn_ok h rfl hok1 with ⟨-, -, hrecd⟩ | ⟨_, d1, hedge1, rfl, h1⟩
  · exact absurd hnew hrecd
  cases hedge1
  rcases spineTurn_ok h1 rfl hok2 with ⟨rfl, rfl, -⟩ | ⟨_, d2, hedge2, rfl, h2⟩
  · rcases spineTurn_ok h1 rfl hok3 with ⟨rfl, -⟩ | ⟨_, _, hedge3, -⟩
    · cases h1.status_eq.symm.trans hexec
    · cases hedge3
  cases hedge2
  rcases spineTurn_ok h2 rfl hok3 with ⟨rfl, -⟩ | ⟨_, d3, hedge3, rfl, h3⟩
  · cases h2.status_eq.symm.trans hexec
  cases hedge3
  exact ⟨s1, s2, d1, d2, d3, h1, h2, h3, rfl⟩

theorem Early.fails (h : Early p b dir s status) (hp : prepare call = .ok p)
    (hst : status ≠ .executing) : startKernelSuspension call dir ≠ (.ok j, ws) := by
  intro hcall
  rw [startKernelSuspension_resume hp h.at_dir h.owned] at hcall
  have hexec := continueSuspension_early h.at_dir h.suspension hcall
  rw [h.status_eq, Closed.known.injEq] at hexec
  exact hst hexec

/-- A call that succeeds leaves a store that recovers. -/
theorem continueSuspension_recovered (h : At b dir s)
    (hok : continueSuspension p s dir = (.ok j, ws)) : ∃ t, Recovered (last dir ws).files t := by
  cases hwait : s.isWaiting with
  | true =>
    rw [continueSuspension_waiting hwait, readBinding, observe_apply, Prod.mk.injEq] at hok
    rw [← hok.2]
    exact ⟨s, h.recovered⟩
  | false =>
    obtain ⟨t, first, second, hfront, hbg, rfl⟩ := (continueSuspension_open h hwait).mp hok
    obtain ⟨u, -, -, -, -, -, hfin, -⟩ :=
      beginSuspension_ok (startItems_advances h hfront).1 hbg
    rw [last_append]
    exact ⟨u, hfin.recovered⟩

/-- How a call that succeeds has opened the store: it has recovered the State, or made the
genesis and the three events to `executing` durable. -/
theorem openHistory_ok (hok : openHistory p dir = (.ok s, ws))
    (hcont : continueSuspension p s (last dir ws) = (.ok j, done)) :
    At dir.binding (last dir ws) s ∧ Owned p s ∧ (ws = [] ∨ dir.files.genesis = none ∧
      ∃ s0 s1 s2 d0 d1 d2 d3, Early p dir.binding d0 s0 .published ∧
        Early p dir.binding d1 s1 .routingValidation ∧ Early p dir.binding d2 s2 .dispatching ∧
        ws = [(.genesis, d0), (.event (.known .routingValidationStarted), d1),
          (.event (.known .routingValidationPassed), d2),
          (.event (.known .dispatchAccepted), d3)]) := by
  rw [openHistory] at hok
  split at hok
  case h_2 =>
    obtain ⟨rfl, hat, howned⟩ := recoverHistory_ok hok
    exact ⟨hat, howned, .inl rfl⟩
  case h_1 hmiss =>
    obtain ⟨items, d0, rest, hat, rfl, hspine⟩ := startHistory_ok hmiss hok
    have hearly : Early p dir.binding d0 (p.genesis items) .published :=
      ⟨hat, ⟨rfl, rfl, rfl⟩, rfl, rfl⟩
    have hreached : ∃ status, Early p dir.binding (last d0 rest) s status := by
      refine (foldlM_rel (I := fun d s => ∃ status, Early p dir.binding d s status)
        (R := fun _ _ => True) (fun _ => trivial) (fun _ _ _ _ _ => trivial) ?_ ⟨_, hearly⟩
        hspine).1
      rintro ⟨index, kind⟩ hkind u d t ws ⟨status, hu⟩ hturn
      have htask : kind.isTaskEvent := by
        revert hkind
        simp only [spineKinds, mem_cons, Prod.mk.injEq, not_mem_nil, or_false]
        rintro (⟨-, rfl⟩ | ⟨-, rfl⟩ | ⟨-, rfl⟩) <;> rfl
      rcases spineTurn_ok hu htask hturn with ⟨rfl, rfl, -⟩ | ⟨target, d', -, rfl, ht⟩
      · exact ⟨⟨status, hu⟩, trivial⟩
      · exact ⟨⟨target, ht⟩, trivial⟩
    obtain ⟨status, hs⟩ := hreached
    have hexec := continueSuspension_early hs.at_dir hs.suspension hcont
    obtain ⟨s1, s2, d1, d2, d3, h1, h2, -, rfl⟩ := spine_ok hearly rfl hspine hexec
    exact ⟨hs.at_dir, hs.owned, .inr ⟨hmiss, _, s1, s2, d0, d1, d2, d3, hearly, h1, h2, rfl⟩⟩

/-- No event that the call presents for its frontier has the digest of an input which its
store has recorded at another revision. -/
def NoCollision (call : SuspensionCall) (dir final : RuntimeDir) : Prop :=
  ∀ p s ws t, prepare call = .ok p → openHistory p dir = (.ok s, ws) →
    Recovered final.files t → Fresh p.frontier p.call.taskId s t

/-- A binding in the directory was written at a revision that its store has reached. -/
def BindingBehind (dir : RuntimeDir) : Prop :=
  ∀ value, dir.binding = .document value → ∃ s revision, Recovered dir.files s ∧
    value.member? "kernel_revision" = some (.int revision) ∧ revision ≤ s.revision

/-- **Where a retry converges.**  Let a call of `start_kernel_suspension` succeed with the
writes `ws`, and let the process of such a call stop behind the writes `done`.  The same
call then succeeds with the same Kernel State and the same binding exactly if the last
write was none, `DISPATCH_ACCEPTED`, `ATTEMPT_RUNNING` or the binding. -/
theorem retry_converges_iff (hrun : startKernelSuspension call dir = (.ok j, ws))
    (hcollision : NoCollision call dir (last dir ws)) (hbinding : BindingBehind dir)
    (hdone : done <+: ws) :
    Converges call (last dir done) (last dir ws) ↔ done.getLast?.map Prod.fst ∈ safeStops := by
  obtain ⟨p, hp, hrest⟩ := lift_bind_eq_ok.mp hrun
  obtain ⟨s, first, second, hopen, hcontinue, rfl⟩ := Durable.bind_eq_ok.mp hrest
  obtain ⟨hat, howned, hopening⟩ := openHistory_ok hopen hcontinue
  by_cases hnil : done = []
  · -- nothing was written, so the retry is the call itself
    obtain ⟨t, ht⟩ := continueSuspension_recovered hat hcontinue
    rw [← last_append] at ht
    rw [hnil]
    exact iff_of_true ⟨j, _, t, hrun, ht, ht, rfl⟩ (by decide)
  rcases stop_append hdone with hfirst | ⟨inner, hinner, hne, rfl⟩
  · rcases hopening with rfl | ⟨-, s0, s1, s2, d0, d1, d2, d3, h0, h1, h2, rfl⟩
    · exact absurd (prefix_nil.mp hfirst) hnil
    have hfailed : ∀ {d z status final}, Early p dir.binding d z status →
        status ≠ .executing → ¬Converges call d final := by
      rintro d z status final hz hstatus ⟨j', ws', -, hcall, -⟩
      exact hz.fails hp hstatus hcall
    rcases prefix_cons_iff.mp hfirst with hnone | ⟨rest0, rfl, hrest0⟩
    · exact absurd hnone hnil
    rcases prefix_cons_iff.mp hrest0 with rfl | ⟨rest1, rfl, hrest1⟩
    · exact iff_of_false (hfailed h0 (by decide)) (by simp [safeStops])
    rcases prefix_cons_iff.mp hrest1 with rfl | ⟨rest2, rfl, hrest2⟩
    · exact iff_of_false (hfailed h1 (by decide)) (by simp [safeStops])
    rcases prefix_cons_iff.mp hrest2 with rfl | ⟨rest3, rfl, hrest3⟩
    · exact iff_of_false (hfailed h2 (by decide)) (by simp [safeStops])
    -- the retry finds the State that the call went on from
    obtain rfl := prefix_nil.mp hrest3
    obtain ⟨t, ht⟩ := continueSuspension_recovered hat hcontinue
    refine iff_of_true ⟨j, second, t, ?_, ht, ?_, ?_⟩ (by simp [safeStops])
    · rw [startKernelSuspension_resume hp hat howned]
      exact hcontinue
    · rw [last_append]
      exact ht
    · rw [last_append]
  · rw [last_append, last_append, getLast?_append_of_ne_nil _ hne]
    refine continueSuspension_stop hp hat howned hcontinue ?_ ?_ hinner hne
    · intro t ht
      rw [← last_append] at ht
      exact hcollision p s first t hp hopen ht
    · intro value hvalue
      obtain ⟨u, revision, hu, hmember, hle⟩ := hbinding value hvalue
      rcases hopening with rfl | ⟨hmissing, -⟩
      · obtain rfl := hu.unique hat.recovered
        exact ⟨revision, hmember, hle⟩
      · -- a directory without a genesis recovers nothing
        obtain ⟨g, entries, -, -, hholds, -⟩ := hu.holds
        cases hholds.genesis.symm.trans hmissing

end Suspension

/-! ### A first call -/

def firstReceipt : SubmissionReceipt where
  schemaVersion := "valp-dispatch-receipt.v3"
  event := "dispatch_submitted"
  workItemId := "work"
  attemptId := "attempt"
  dispatchId := "dispatch"
  dispatchGeneration := 1
  receiptId := "receipt"
  receiptDigest := "sha256:" ++ String.ofList (List.replicate 64 'a')

/-- A first call for a Task with one Work Item, which has been submitted. -/
def firstCall : SuspensionCall where
  documents := {
    installation := some ⟨"installation", 1⟩
    state := some ⟨"installation", 1⟩
    submissionDependencies := .missing
    waitPolicy := fun _ => some (.record []) }
  taskId := "task"
  suspension := {
    suspensionId := "suspension"
    suspensionEpoch := 1
    waitPolicyRef := none
    waitPolicyId := "policy"
    requiredWorkItems := [⟨"work", "dispatch", 1⟩]
    document := .record [] }
  receipts := [firstReceipt]

def firstPrepared : Prepared where
  call := firstCall
  installationId := ident .installation "installation"
  leaderEpoch := 1
  task := ident .task "task"
  frontier := firstCall.suspension.requiredWorkItems.zip firstCall.receipts

theorem prepare_firstCall : prepare firstCall = .ok firstPrepared := by rfl

def firstItem : WorkItem where
  taskId := ident .task "task"
  workItemId := ident .workItem "work"
  requirement := .required
  status := .running
  currentAttempt := some {
    taskId := ident .task "task"
    workItemId := ident .workItem "work"
    attemptId := ident .attempt "attempt"
    dispatchId := ident .dispatch "dispatch"
    dispatchGeneration := 1
    status := .running }

theorem declaredWorkItems_firstCall : declaredWorkItems firstPrepared = .ok [firstItem] := by rfl

theorem firstGenesis_valid : genesisIsValid (firstPrepared.genesis [firstItem]) := by decide

def firstGenesis : State := firstPrepared.genesis [firstItem]

/-- The events to `executing`, and the Suspension. -/
def firstRun : List Input := [
  (spineEvent firstPrepared firstGenesis 0 .routingValidationStarted, []),
  (spineEvent firstPrepared { firstGenesis with revision := 1 } 1 .routingValidationPassed, []),
  (spineEvent firstPrepared { firstGenesis with revision := 2 } 2 .dispatchAccepted, []),
  (suspensionEvent firstPrepared { firstGenesis with revision := 3 } (digest (.record []))
    (ident .suspension "suspension") (ident .waitPolicy "policy") [ident .workItem "work"], [
      ⟨ident .evidence "wait-policy:wait-policy.json", digest (.record [])⟩,
      ⟨ident .evidence "receipt", "sha256:" ++ String.ofList (List.replicate 64 'a')⟩])]

theorem suspensionInput_firstCall {s : State} (hrev : s.revision = 3)
    (hnone : s.suspension = none) : suspensionInput firstPrepared s = .ok firstRun[3] := by
  have hep : nextSuspensionEpoch s = 0 := by rw [nextSuspensionEpoch, hnone]
  have hev : ∀ policy suspensionId waitPolicyId frontier,
      suspensionEvent firstPrepared s policy suspensionId waitPolicyId frontier =
        suspensionEvent firstPrepared { firstGenesis with revision := 3 } policy suspensionId
          waitPolicyId frontier := by
    intro policy suspensionId waitPolicyId frontier
    rw [suspensionEvent, suspensionEvent, hep, hrev]
    rfl
  rw [suspensionInput]
  simp only [hev]
  rfl

theorem exec_firstRun : ∃ t, Run.exec step firstGenesis firstRun = some t ∧
    t.workItems = [firstItem] :=
  exec_of_trusting firstGenesis_valid (by decide +kernel :
    (Run.exec stepTrusting firstGenesis firstRun).any
      (fun t => decide (t.workItems = [firstItem])))

theorem initializeHistory_empty (hg : genesisIsValid g) :
    ∃ d, initializeHistory g ⟨.empty, b⟩ = (.ok (), [(.genesis, d)]) ∧ At b d g := by
  obtain ⟨hok, -, -⟩ := initializeStore_holds hg
  have hstore : initializeStore none .empty g = (.ok (), (initializeStore none .empty g).2) :=
    Prod.ext hok rfl
  refine ⟨⟨(initializeStore none .empty g).2, b⟩, ?_, initializeStore_recovered rfl hstore, rfl⟩
  unfold initializeHistory
  generalize initializeStore none .empty g = result at hstore ⊢
  rw [hstore]

/-- The one item of the frontier runs from the genesis on. -/
theorem started_firstCall {s : State} (h : s.workItems = [firstItem]) :
    ∃ f, frontierAttempt (⟨"work", "dispatch", 1⟩, firstReceipt) = .ok f ∧ Started s f := by
  refine ⟨⟨ident .workItem "work", ident .attempt "attempt", ident .dispatch "dispatch", 1,
    firstReceipt⟩, by rfl, firstItem, _, ?_, by rfl, by rfl⟩
  rw [State.item?, h]
  rfl

theorem spineEvent_eq {s t : State} (h : s.revision = t.revision) :
    spineEvent p s index kind = spineEvent p t index kind := by
  rw [spineEvent, spineEvent, h]

/-- The first call makes six writes. -/
theorem startKernelSuspension_firstCall :
    ∃ j d0 d1 d2 d3 d4 d5, startKernelSuspension firstCall ⟨.empty, .missing⟩ =
      (.ok j, [(.genesis, d0), (.event (.known .routingValidationStarted), d1),
        (.event (.known .routingValidationPassed), d2), (.event (.known .dispatchAccepted), d3),
        (.event (.known .suspensionStarted), d4), (.binding, d5)]) ∧
      Early firstPrepared .missing d0 firstGenesis .published ∧
      ∃ s ws, openHistory firstPrepared ⟨.empty, .missing⟩ = (.ok s, ws) ∧
        s.workItems = [firstItem] := by
  obtain ⟨t, hrun, hitems⟩ := exec_firstRun
  obtain ⟨s1, hstep1, hrun⟩ := Run.exec_cons.mp hrun
  obtain ⟨s2, hstep2, hrun⟩ := Run.exec_cons.mp hrun
  obtain ⟨s3, hstep3, hrun⟩ := Run.exec_cons.mp hrun
  obtain ⟨s4, hstep4, hrun⟩ := Run.exec_cons.mp hrun
  obtain rfl : s4 = t := by simpa using hrun
  -- the events name the revisions of these States
  have hrev1 : s1.revision = 1 := step_revision hstep1
  have hrev2 : s2.revision = 2 := by rw [step_revision hstep2, hrev1]; rfl
  have hrev3 : s3.revision = 3 := by rw [step_revision hstep3, hrev2]; rfl
  have hnone1 := step_suspension_none hstep1 rfl (by decide) rfl
  have hnone2 := step_suspension_none hstep2 rfl (by decide) hnone1
  have hnone3 := step_suspension_none hstep3 rfl (by decide) hnone2
  have hsteps := step_suspended hstep4 rfl
  -- the opening writes the genesis and three events
  obtain ⟨d0, hgenesis, hat0⟩ := initializeHistory_empty (b := .missing) firstGenesis_valid
  obtain ⟨d1, happ1, hat1⟩ := appendEvent_step hat0 hstep1
  obtain ⟨d2, happ2, hat2⟩ := appendEvent_step hat1 hstep2
  obtain ⟨d3, happ3, hat3⟩ := appendEvent_step hat2 hstep3
  obtain ⟨d4, happ4, hat4⟩ := appendEvent_step hat3 hstep4
  have hopen : openHistory firstPrepared ⟨.empty, .missing⟩ = (.ok s3, [(.genesis, d0),
      (.event (.known .routingValidationStarted), d1),
      (.event (.known .routingValidationPassed), d2),
      (.event (.known .dispatchAccepted), d3)]) := by
    have hev1 : spineEvent firstPrepared s1 1 .routingValidationPassed = _ :=
      spineEvent_eq (s := s1) (t := { firstGenesis with revision := 1 }) hrev1
    have hev2 : spineEvent firstPrepared s2 2 .dispatchAccepted = _ :=
      spineEvent_eq (s := s2) (t := { firstGenesis with revision := 2 }) hrev2
    show startHistory firstPrepared _ = _
    rw [startHistory, declaredWorkItems_firstCall, lift_ok_bind]
    refine Durable.bind_eq_ok.mpr ⟨(), _, _, hgenesis, ?_, rfl⟩
    refine Durable.bind_eq_ok.mpr ⟨s1, _, _, happ1, ?_, rfl⟩
    rw [← hev1] at happ2
    rw [← hev2] at happ3
    refine Durable.bind_eq_ok.mpr ⟨s2, _, _, happ2, ?_, rfl⟩
    exact Durable.bind_eq_ok.mpr ⟨s3, _, [], happ3, rfl, rfl⟩
  have hworkItems : s3.workItems = [firstItem] := hsteps.2.1 ▸ hitems
  have hfront : startFrontierAttempts firstPrepared s3 d3 = (.ok s3, []) := by
    rw [startFrontierAttempts]
    obtain ⟨f, hf, hstd⟩ := started_firstCall hworkItems
    exact Durable.bind_eq_ok.mpr ⟨s3, [], [], startItem_skip hf hstd d3, rfl, rfl⟩
  have hbg : ∃ j d5, beginSuspension firstPrepared s3 d3 =
      (.ok j, [(.event (.known .suspensionStarted), d4), (.binding, d5)]) := by
    obtain ⟨v, hv, -⟩ := hsteps.2.2
    have hin := suspensionInput_firstCall hrev3 hnone3
    rw [beginSuspension, hin, lift_ok_bind]
    refine ⟨workflowBinding firstPrepared s4 v,
      { d4 with binding := .document (workflowBinding firstPrepared s4 v) },
      Durable.bind_eq_ok.mpr ⟨s4, _, _, happ4, ?_, rfl⟩⟩
    simp only [hv]
    rfl
  obtain ⟨j, d5, hbg⟩ := hbg
  refine ⟨j, d0, d1, d2, d3, d4, d5, ?_, ⟨hat0, ⟨rfl, rfl, rfl⟩, rfl, rfl⟩,
    s3, _, hopen, hworkItems⟩
  rw [startKernelSuspension, prepare_firstCall, lift_ok_bind]
  refine Durable.bind_eq_ok.mpr ⟨s3, _, _, hopen, ?_, rfl⟩
  refine (continueSuspension_open hat3 ?_).mpr ⟨s3, _, _, hfront, hbg, rfl⟩
  rw [State.isWaiting, hnone3]
  rfl

/-- A retry of the first call converges behind the last of its events to `executing`. -/
theorem retry_converges_firstCall : ∃ j d0 d1 d2 d3 d4 d5,
    startKernelSuspension firstCall ⟨.empty, .missing⟩ =
      (.ok j, [(.genesis, d0), (.event (.known .routingValidationStarted), d1),
        (.event (.known .routingValidationPassed), d2), (.event (.known .dispatchAccepted), d3),
        (.event (.known .suspensionStarted), d4), (.binding, d5)]) ∧
      NoCollision firstCall ⟨.empty, .missing⟩ d5 ∧ BindingBehind ⟨.empty, .missing⟩ ∧
      Converges firstCall d3 d5 := by
  obtain ⟨j, d0, d1, d2, d3, d4, d5, hrun, -, s, opening, hopen, hitems⟩ :=
    startKernelSuspension_firstCall
  have hcollision : NoCollision firstCall ⟨.empty, .missing⟩ d5 := by
    intro p s' ws t hp hopen' ht x hx f hf hstarted
    cases prepare_firstCall.symm.trans hp
    obtain rfl : s = s' := Except.ok.inj (Prod.mk.inj (hopen.symm.trans hopen')).1
    obtain ⟨f', hf', hs⟩ := started_firstCall hitems
    obtain rfl := mem_singleton.mp hx
    cases hf'.symm.trans hf
    exact absurd hs hstarted
  have hbinding : BindingBehind ⟨.empty, .missing⟩ := by
    intro value hvalue
    cases hvalue
  refine ⟨j, d0, d1, d2, d3, d4, d5, hrun, hcollision, hbinding, ?_⟩
  have hretry := retry_converges_iff hrun hcollision hbinding ( take_prefix 4 _)
  exact hretry.mpr (by simp [safeStops])

/-- The first call succeeds; the same call fails where the process stopped behind the genesis,
as the events to `executing` are appended in a directory without a genesis only. -/
theorem retry_fails_behind_genesis : ∃ j d0 rest,
    startKernelSuspension firstCall ⟨.empty, .missing⟩ = (.ok j, (.genesis, d0) :: rest) ∧
      ∀ j' ws, startKernelSuspension firstCall d0 ≠ (.ok j', ws) := by
  obtain ⟨j, d0, d1, d2, d3, d4, d5, hrun, hearly, -⟩ := startKernelSuspension_firstCall
  exact ⟨j, d0, _, hrun, fun _ _ => hearly.fails prepare_firstCall (by decide)⟩

end Valp.Kernel
