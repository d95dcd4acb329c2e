/-
Work Items over whole runs: the dependency gate and the end of the Task.

A Work Item is supposed to be attempted only when its required dependencies are
completed.  The reducer checks this on the edge from `pending` to `eligible`, but
an Attempt can also be created for a `blocked` item, and an item can be blocked
before it was ever eligible.

* `dependency_gate_of_gated` — the gate holds in every run that creates no first
  Attempt for a blocked item which the reducer would not make eligible;
* `dependency_gate_bypass` — without that condition it does not;
* `done_required_items` — what the reducer itself guarantees about the required
  items of a Task that is done.
-/
import Valp.KernelValid

namespace Valp.Kernel

open Table (mem_of_get key_of_get)

variable {s t g : State} {x : Input} {e : Event} {kind : EventKind} {status : TaskStatus}
  {w w' : WorkItem} {xs : List Input}

/-! ### Items along a run -/

/-- Every Work Item of `s` is in `t`, changed along `R`, and `t` has no others. -/
structure Tracks (R : WorkItem → WorkItem → Prop) (s t : State) : Prop where
  forth : ∀ id w, s.item? id = some w → ∃ w', t.item? id = some w' ∧ R w w'
  back : ∀ id w', t.item? id = some w' → ∃ w, s.item? id = some w ∧ R w w'

/-- **Item rule.**  A preorder that every move of an item respects is respected by
every run. -/
theorem exec_tracks {R : WorkItem → WorkItem → Prop} (hrefl : ∀ w, R w w)
    (htrans : ∀ u v w, R u v → R v w → R u w)
    (hmove : ∀ s e kind w w', ItemMove s e kind w w' → R w w')
    (h : Run.exec step s xs = some t) : Tracks R s t := by
  refine Run.exec_rel (I := fun _ => True) (R := Tracks R) (fun _ _ _ _ _ => trivial) ?_ ?_ ?_
    trivial h
  · intro u
    exact ⟨fun id w hw => ⟨w, hw, hrefl w⟩, fun id w hw => ⟨w, hw, hrefl w⟩⟩
  · intro u v w huv hvw
    constructor
    · intro id a ha
      obtain ⟨b, hb, hab⟩ := huv.forth id a ha
      obtain ⟨c, hc, hbc⟩ := hvw.forth id b hb
      exact ⟨c, hc, htrans a b c hab hbc⟩
    · intro id c hc
      obtain ⟨b, hb, hbc⟩ := hvw.back id c hc
      obtain ⟨a, ha, hab⟩ := huv.back id b hb
      exact ⟨a, ha, htrans a b c hab hbc⟩
  · intro u a v _ hv
    obtain ⟨status, kind, -, hkind⟩ := step_known hv
    -- a step leaves an item alone or moves it
    have hR : ∀ w w', (w' = w ∨ Moved u a.1 kind w w') → R w w' := by
      rintro w w' (rfl | hm)
      · exact hrefl w'
      · exact hmove _ _ _ _ _ hm.move
    constructor
    · intro id w hw
      obtain ⟨w', hw', hm⟩ := step_item hv hkind hw
      exact ⟨w', hw', hR w w' hm⟩
    · intro id w' hw'
      obtain ⟨w, hw, hm⟩ := step_item_of hv hkind hw'
      exact ⟨w, hw, hR w w' hm⟩

/-- What no run changes: the requirement and the dependencies of an item, and the
status of a terminal one. -/
structure ItemLe (w w' : WorkItem) : Prop where
  requirement : w'.requirement = w.requirement
  dependencies : w'.dependencies = w.dependencies
  terminal : w.status.isTerminal = true → w'.status = w.status

theorem exec_itemLe (h : Run.exec step s xs = some t) : Tracks ItemLe s t := by
  refine exec_tracks ?_ ?_ ?_ h
  · intro w
    exact ⟨rfl, rfl, fun _ => rfl⟩
  · intro u v w huv hvw
    refine ⟨hvw.requirement.trans huv.requirement, hvw.dependencies.trans huv.dependencies, ?_⟩
    intro hu
    have hv := huv.terminal hu
    rw [hvw.terminal (by rwa [hv]), hv]
  · intro s e kind w w' hm
    exact ⟨hm.frame.2.2.1, hm.frame.2.2.2, hm.status_of_terminal⟩

/-! ### The dependency gate -/

/-- Every required dependency of `w` names a completed Work Item of `s`. -/
def RequiredMet (s : State) (w : WorkItem) : Prop :=
  ∀ d ∈ w.dependencies, d.requirement = .required →
    ∃ v ∈ s.workItems, v.workItemId = d.workItemId ∧ v.status = .completed

instance (s : State) (w : WorkItem) : Decidable (RequiredMet s w) :=
  inferInstanceAs (Decidable (∀ d ∈ w.dependencies, d.requirement = .required →
    ∃ v ∈ s.workItems, v.workItemId = d.workItemId ∧ v.status = .completed))

theorem eligibleWorkItem_requiredMet (hs : StateValid s) {facts : List String}
    (h : eligibleWorkItem s w = some facts) : RequiredMet s w := by
  suffices hdeps : ∀ deps facts, eligibleDependencies s w deps = some facts →
      ∀ d ∈ deps, d.requirement = .required →
        ∃ v ∈ s.workItems, v.workItemId = d.workItemId ∧ v.status = .completed from
    hdeps w.dependencies facts h
  intro deps
  induction deps with
  | nil => simp
  | cons dep deps ih =>
    intro facts h d hd hreq
    rw [eligibleDependencies] at h
    split at h
    case h_1 => cases h
    case h_2 target htgt =>
      rw [hs.itemById_eq] at htgt
      rcases List.mem_cons.mp hd with rfl | hd
      · rw [if_pos (by simp [hreq])] at h
        refine ⟨target, mem_of_get htgt, key_of_get htgt, ?_⟩
        by_contra hopen
        simp [hopen] at h
      · -- the rest of the loop succeeded as well, whichever way it was entered
        have hrest : ∃ rest, eligibleDependencies s w deps = some rest := by
          split at h
          · split at h
            · cases h
            · exact ⟨facts, h⟩
          split at h
          · obtain ⟨rest, hrest, -⟩ := Option.map_eq_some_iff.mp h
            exact ⟨rest, hrest⟩
          · exact ⟨facts, h⟩
        obtain ⟨rest, hrest⟩ := hrest
        exact ih rest hrest d hd hreq

theorem RequiredMet.step (hmet : RequiredMet s w) (h : step s x = some t)
    (hdeps : w'.dependencies = w.dependencies) : RequiredMet t w' := by
  intro d hd hreq
  rw [hdeps] at hd
  obtain ⟨v, hv, hid, hdone⟩ := hmet d hd hreq
  obtain ⟨v', hv', hle⟩ := (exec_itemLe (Run.exec_cons.mpr ⟨t, h, Run.exec_nil t⟩)).forth _ v
    ((valid_of_step h).mem_iff_item?.mp hv)
  refine ⟨v', mem_of_get hv', ?_, ?_⟩
  · rw [← hid]
    exact key_of_get hv'
  · rw [hle.terminal (by rw [hdone]; rfl), hdone]

/-- An input does not create the first Attempt of a blocked Work Item that the
reducer would not make eligible. -/
def Gated (s : State) (x : Input) : Prop :=
  x.1.kind = .known .attemptCreated → ∀ w ∈ s.workItems, x.1.workItemId = some w.workItemId →
    w.status = .blocked → w.currentAttempt = none → (eligibleWorkItem s w).isSome = true

instance (s : State) (x : Input) : Decidable (Gated s x) :=
  inferInstanceAs (Decidable (x.1.kind = .known .attemptCreated →
    ∀ w ∈ s.workItems, x.1.workItemId = some w.workItemId → w.status = .blocked →
      w.currentAttempt = none → (eligibleWorkItem s w).isSome = true))

/-- The invariant behind the gate: what is eligible or attempted has its required
dependencies met. -/
def DependencyGate (s : State) : Prop :=
  ∀ w ∈ s.workItems, w.status = .eligible ∨ w.currentAttempt.isSome = true → RequiredMet s w

theorem DependencyGate.created (hgate : DependencyGate s) (hgated : Gated s x)
    (h : step s x = some t) (hkind : x.1.kind = .known .attemptCreated) (hw : w ∈ s.workItems)
    (hid : x.1.workItemId = some w.workItemId) : RequiredMet s w := by
  have hs := valid_of_step h
  obtain ⟨id, v, v', hid', hv, -, hmove⟩ := step_named h hkind rfl
  obtain rfl : w = v := by
    rw [hid, Option.some_inj] at hid'
    rw [← hid', hs.mem_iff_item?.mp hw, Option.some_inj] at hv
    exact hv
  rcases hmove.of_created.1 with hst | hst
  · exact hgate w hw (Or.inl hst)
  -- a blocked item: a retry was gated at its first Attempt, a first Attempt is here
  cases ha : w.currentAttempt with
  | some a => exact hgate w hw (Or.inr (by simp [ha]))
  | none =>
    obtain ⟨facts, hfacts⟩ :=
      Option.isSome_iff_exists.mp (hgated hkind w hw hid hst ha)
    exact eligibleWorkItem_requiredMet hs hfacts

theorem workItemMoves_ne_eligible {allowed : List WorkItemStatus} {target : WorkItemStatus}
    (h : workItemMoves kind = some (allowed, target)) : target ≠ .eligible := by
  rintro rfl
  cases kind <;> simp [workItemMoves] at h

theorem DependencyGate.step (hgate : DependencyGate s) (hgated : Gated s x)
    (h : step s x = some t) (ht : StateValid t) : DependencyGate t := by
  intro w' hw' hact
  obtain ⟨status, kind, -, hkind⟩ := step_known h
  obtain ⟨w, hw, hmov⟩ := step_item_of h hkind (ht.mem_iff_item?.mp hw')
  have hmem : w ∈ s.workItems := mem_of_get hw
  rcases hmov with rfl | hmov
  · exact (hgate w' hmem hact).step h rfl
  -- it is enough that the dependencies were met before the step, by the cases of the move
  refine RequiredMet.step ?_ h hmov.move.frame.2.2.2
  have hnamed := hmov.named
  cases hmov.move with
  | eligible _ hdeps => exact eligibleWorkItem_requiredMet (valid_of_step h) hdeps
  | created => exact hgate.created hgated h hkind hmem (hnamed rfl)
  | fenced hcur => exact hgate w hmem (Or.inr (by simp [hcur]))
  | advanced _ hcur => exact hgate w hmem (Or.inr (by simp [hcur]))
  | moved htab =>
    refine hgate w hmem (Or.inr (hact.resolve_left fun heligible => ?_))
    exact workItemMoves_ne_eligible htab heligible
  | cancelled =>
    rw [cancelledWorkItem_fst] at hact
    refine hgate w hmem (Or.inr ?_)
    simpa using hact

/-- **Dependency gating.**  In a run whose steps are all `Gated`, from a genesis
with pending items only, an Attempt is created only for an item whose required
dependencies are completed, and an item with an unmet one has no Attempt. -/
theorem dependency_gate_of_gated (hg : genesisIsValid g = true)
    (hinit : ∀ w ∈ g.workItems, w.status = .pending ∧ w.currentAttempt = none)
    (h : Run.exec step g xs = some t)
    (hgated : ∀ p ∈ Run.trace step g xs, Gated p.1 p.2.1) :
    (∀ p ∈ Run.trace step g xs, p.2.1.1.kind = .known .attemptCreated →
      ∀ w ∈ p.1.workItems, p.2.1.1.workItemId = some w.workItemId → RequiredMet p.1 w) ∧
    ∀ w ∈ t.workItems, ¬RequiredMet t w → w.currentAttempt = none := by
  have hstart : Sound g ∧ DependencyGate g := by
    refine ⟨genesis_sound hg, ?_⟩
    intro w hw hactive
    obtain ⟨hpending, hfree⟩ := hinit w hw
    simp [hpending, hfree] at hactive
  obtain ⟨⟨-, hend⟩, hbefore⟩ :=
    Run.exec_guarded (I := fun u => Sound u ∧ DependencyGate u) (C := Gated)
      (fun u a v hu ha hv =>
        ⟨step_valid hu.1 hv, hu.2.step ha hv (step_valid hu.1 hv).valid⟩) hstart h hgated
  constructor
  · rintro ⟨u, a, v⟩ hp hkind w hw hid
    obtain ⟨-, -, -, -, hstep, -⟩ := (Run.mem_trace_iff h).mp hp
    exact (hbefore _ hp).2.created (hgated _ hp) hstep hkind hw hid
  · intro w hw hunmet
    by_contra hattempt
    exact hunmet (hend w hw (Or.inr (Option.isSome_iff_ne_none.mpr hattempt)))

/-- Two required items, the second of which depends on the first. -/
def gateGenesis : State :=
  sampleGenesis [
    sampleItem (ident .workItem "first") .required [],
    sampleItem (ident .workItem "second") .required [⟨ident .workItem "first", .required⟩]]

theorem gateGenesis_valid : genesisIsValid gateGenesis := by decide

/-- An Attempt event of the first item, and of the second. -/
def firstAttempt (eventId : Identity) (revision : Int) (kind : EventKind) : Input :=
  (sampleAttemptEvent eventId revision kind (ident .workItem "first") (ident .attempt "a1")
    (ident .dispatch "d1") 0, [])

def secondAttempt (eventId : Identity) (revision : Int) (kind : EventKind) : Input :=
  (sampleAttemptEvent eventId revision kind (ident .workItem "second") (ident .attempt "a2")
    (ident .dispatch "d2") 0, [])

/-- The first item runs to its end, then the second is blocked before it was made
eligible, and attempted. -/
def gatedRun : List Input := [
  (sampleItemEvent (ident .event "e0") 0 .workItemEligible (ident .workItem "first"), []),
  firstAttempt (ident .event "e1") 1 .attemptCreated,
  firstAttempt (ident .event "e2") 2 .attemptSubmitted,
  firstAttempt (ident .event "e3") 3 .attemptRunning,
  firstAttempt (ident .event "e4") 4 .attemptCompleted,
  (sampleItemEvent (ident .event "e5") 5 .workItemBlocked (ident .workItem "second"), []),
  secondAttempt (ident .event "e6") 6 .attemptCreated]

theorem dependency_gate_gatedRun : ∃ t, Run.exec step gateGenesis gatedRun = some t ∧
      ∀ w ∈ t.workItems, ¬RequiredMet t w → w.currentAttempt = none := by
  obtain ⟨t, ht, -⟩ := exec_of_trusting gateGenesis_valid
    (p := fun t => t.revision = 7) (by decide +kernel :
      (Run.exec stepTrusting _ gatedRun).any _)
  refine ⟨t, ht, (dependency_gate_of_gated gateGenesis_valid (by decide) ht ?_).2⟩
  rw [trace_eq_trusting gateGenesis_valid]
  decide +kernel

/-- The second item is blocked and attempted while the first is still pending. -/
def bypassRun : List Input := [
  (sampleItemEvent (ident .event "e0") 0 .workItemBlocked (ident .workItem "second"), []),
  secondAttempt (ident .event "e1") 1 .attemptCreated]

/-- **The gate can be bypassed**: `bypassRun` is accepted, and its Attempt is created
for an item with an unmet required dependency. -/
theorem dependency_gate_bypass : genesisIsValid gateGenesis = true ∧
      (∀ w ∈ gateGenesis.workItems, w.status = .pending ∧ w.currentAttempt = none) ∧
      (Run.exec step gateGenesis bypassRun).isSome = true ∧
      ∃ p ∈ Run.trace step gateGenesis bypassRun,
        p.2.1.1.kind = .known .attemptCreated ∧
          ∃ w ∈ p.1.workItems, p.2.1.1.workItemId = some w.workItemId ∧
            ¬RequiredMet p.1 w := by
  refine ⟨gateGenesis_valid, by decide, ?_, ?_⟩
  · rw [exec_eq_trusting gateGenesis_valid]
    decide +kernel
  · rw [trace_eq_trusting gateGenesis_valid]
    decide +kernel

/-! ### Required items at the end of the Task -/

theorem kernelTaskTransitions_done (h : kernelTaskTransitions status kind = some .done) :
    kind = .recordingCompleted := by
  unfold kernelTaskTransitions at h
  split at h
  case h_13 => rfl
  case h_19 | h_20 => split at h <;> cases h
  all_goals cases h

theorem StatusMove.done (h : StatusMove status kind .done) :
    status = .done ∨ kind = .recordingCompleted := by
  cases h
  case edge hedge => exact Or.inr (kernelTaskTransitions_done hedge)
  all_goals exact Or.inl rfl

theorem exec_recorded (hg : genesisIsValid g) (h : Run.exec step g xs = some t)
    (hdone : t.status = .known .done) :
    ∃ p ∈ Run.trace step g xs, p.2.1.1.kind = .known .recordingCompleted := by
  revert hdone
  refine Run.exec_history (I := fun ys u => u.status = .known .done →
    ∃ p ∈ Run.trace step g ys, p.2.1.1.kind = .known .recordingCompleted) ?_ ?_ h
  · intro hdone
    rw [(genesisIsValid_iff.mp hg).2.1] at hdone
    cases hdone
  · intro ys u a v hu ih hv hdone
    rw [Run.trace_concat hu hv]
    obtain ⟨status, kind, hst, hkind⟩ := step_known hv
    obtain ⟨target, htgt, hmove⟩ := step_status hv hst hkind
    obtain rfl : target = .done := by
      rw [htgt] at hdone
      simpa using hdone
    rcases hmove.done with rfl | rfl
    · obtain ⟨p, hp, hrecd⟩ := ih hst
      exact ⟨p, List.mem_append_left _ hp, hrecd⟩
    · exact ⟨(u, a, v), by simp, hkind⟩

/-- The requirement of an item is fixed, and a required item is never skipped. -/
structure NotSkipped (w w' : WorkItem) : Prop where
  requirement : w'.requirement = w.requirement
  status : w.requirement = .required → w.status ≠ .skipped → w'.status ≠ .skipped

theorem ItemMove.notSkipped (h : ItemMove s e kind w w') : NotSkipped w w' := by
  refine ⟨h.frame.2.2.1, ?_⟩
  intro hreq hopen
  cases h with
  | fenced => exact hopen
  | eligible => simp
  | created => simp
  | advanced htab =>
    rintro rfl
    cases kind <;> simp [attemptTransitions] at htab
  | moved htab _ _ hskip =>
    -- the one row of the table that leads to `skipped` is guarded by the requirement
    rintro rfl
    have hkind : kind = .workItemSkipped := by
      cases kind <;> simp [workItemMoves] at htab ⊢
    exact hskip hkind hreq
  | cancelled => simp [cancelledWorkItem_fst]

theorem exec_notSkipped (h : Run.exec step s xs = some t) : Tracks NotSkipped s t := by
  refine exec_tracks ?_ ?_ ?_ h
  · intro w
    exact ⟨rfl, fun _ hw => hw⟩
  · intro u v w huv hvw
    refine ⟨hvw.requirement.trans huv.requirement, ?_⟩
    intro hreq hopen
    exact hvw.status (huv.requirement.trans hreq) (huv.status hreq hopen)
  · intro s e kind w w' hm
    exact hm.notSkipped

/-- **Required items of a Task that is done.**  None of them is skipped, and if they
were all completed when the Task was recorded, they all are. -/
theorem done_required_items (hg : genesisIsValid g = true)
    (hinit : ∀ w ∈ g.workItems, w.status.isTerminal = false)
    (h : Run.exec step g xs = some t) (hdone : t.status = .known .done) :
    (∀ w ∈ t.workItems, w.requirement = .required → w.status ≠ .skipped) ∧
      ∃ p ∈ Run.trace step g xs, p.2.1.1.kind = .known .recordingCompleted ∧
        ((∀ w ∈ p.1.workItems, w.requirement = .required → w.status = .completed) →
          ∀ w ∈ t.workItems, w.requirement = .required → w.status = .completed) := by
  have ht := (exec_sound hg h).valid
  constructor
  · intro w' hw' hrequired
    obtain ⟨w, hw, hle⟩ := (exec_notSkipped h).back _ w' (ht.mem_iff_item?.mp hw')
    refine hle.status (hle.requirement.symm.trans hrequired) ?_
    intro hskipped
    have hopen := hinit w (mem_of_get hw)
    rw [hskipped] at hopen
    cases hopen
  · obtain ⟨⟨u, a, v⟩, hp, hkind⟩ := exec_recorded hg h hdone
    refine ⟨(u, a, v), hp, hkind, ?_⟩
    intro hcompleted w' hw' hrequired
    -- the rest of the run starts with the recording, and completed items stay so
    obtain ⟨ys, zs, -, -, hstep, hrest⟩ := (Run.mem_trace_iff h).mp hp
    have htail : Run.exec step u (a :: zs) = some t := Run.exec_cons.mpr ⟨v, hstep, hrest⟩
    obtain ⟨w, hw, hle⟩ := (exec_itemLe htail).back _ w' (ht.mem_iff_item?.mp hw')
    have hw_completed :=
      hcompleted w (mem_of_get hw) (hle.requirement.symm.trans hrequired)
    rw [hle.terminal (by rw [hw_completed]; rfl), hw_completed]

/-- A Task with one required item. -/
def requiredGenesis : State :=
  sampleGenesis [sampleItem (ident .workItem "first") .required []]

theorem requiredGenesis_valid : genesisIsValid requiredGenesis := by decide

def completedRun : List Input := [
  (sampleItemEvent (ident .event "e0") 0 .workItemEligible (ident .workItem "first"), []),
  firstAttempt (ident .event "e1") 1 .attemptCreated,
  firstAttempt (ident .event "e2") 2 .attemptSubmitted,
  firstAttempt (ident .event "e3") 3 .attemptRunning,
  firstAttempt (ident .event "e4") 4 .attemptCompleted] ++ doneSpine 5

theorem done_required_items_completedRun :
    ∃ t, Run.exec step requiredGenesis completedRun = some t ∧ t.status = .known .done ∧
      ∀ w ∈ t.workItems, w.requirement = .required → w.status ≠ .skipped := by
  obtain ⟨t, ht, hdone⟩ := exec_of_trusting requiredGenesis_valid
    (p := fun t => t.status = .known .done) (by decide +kernel :
      (Run.exec stepTrusting _ completedRun).any _)
  exact ⟨t, ht, hdone, (done_required_items requiredGenesis_valid (by decide) ht hdone).1⟩

/-- **A Task can be done with a required item that was never started.** -/
theorem done_with_pending_item : genesisIsValid requiredGenesis = true ∧
      (∀ w ∈ requiredGenesis.workItems, w.status.isTerminal = false) ∧
      ∃ t, Run.exec step requiredGenesis (doneSpine 0) = some t ∧ t.status = .known .done ∧
        ∃ w ∈ t.workItems, w.requirement = .required ∧ w.status = .pending := by
  refine ⟨requiredGenesis_valid, by decide, ?_⟩
  exact exec_of_trusting requiredGenesis_valid (by decide +kernel)

end Valp.Kernel
