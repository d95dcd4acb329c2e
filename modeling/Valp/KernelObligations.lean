/-
Obligations over whole runs.

An accepted event that cancels an executing Attempt emits an `adapter_cancel`
obligation for it.  Four kinds of events do so, and `KernelStore` collects the
obligations of a journal while it drops repetitions
(`valp_cli/kernel_store.py`, `_accepted_obligations`).

* `obligations_emitted_once` — no obligation is emitted twice, so nothing is dropped;
* `terminal_status_final` — what can still happen to a terminal Task, and
  `terminal_task_attempted`, a run that goes on with its Work Items.
-/
import Valp.KernelCanonical
import Valp.KernelGates

namespace Valp.Kernel

open List
open Option (map_some ite_none_left_eq_some some_inj)
open Run (exec exec_append exec_invariant)

variable {s t g u : State} {x : Input} {e : Event} {kind : EventKind} {status : TaskStatus}
  {effect : Effect} {w w' : WorkItem} {a b : Attempt} {id : Identity} {xs : List Input}

/-! ### The text of an obligation -/

/-- **The text of an obligation determines the tuple of its Attempt.** -/
theorem adapterCancelObligation_injective
    (h : adapterCancelObligation a = adapterCancelObligation b) :
    a.taskId.value = b.taskId.value ∧ a.workItemId.value = b.workItemId.value ∧
      a.attemptId.value = b.attemptId.value ∧ a.dispatchId.value = b.dispatchId.value ∧
      a.dispatchGeneration = b.dispatchGeneration := by
  -- the equation lemma of `adapterCancelObligation` would be checked by evaluating texts
  delta adapterCancelObligation at h
  rw [String.append_right_inj] at h
  obtain ⟨htask, hitem, hatt, hdisp, hgen, -⟩ :=
    Json.record_injective (by rfl) (by simp) (canonicalJson_injective h)
  exact ⟨str_injective htask, str_injective hitem, str_injective hatt,
    str_injective hdisp, int_injective hgen⟩

/-- A cancelled item has an obligation exactly if its Attempt was executing. -/
theorem mem_cancelledWorkItem_snd {o : String} :
    o ∈ (cancelledWorkItem w).2 ↔ ∃ a, w.currentAttempt = some a ∧
      (a.status = .submitted ∨ a.status = .running) ∧ o = adapterCancelObligation a := by
  rw [cancelledWorkItem]
  cases ha : w.currentAttempt with
  | none => simp
  | some a => cases hst : a.status <;> simp [AttemptStatus.isActive, AttemptStatus.isExecuting,
      hst]

theorem cancelledWorkItem_snd_nodup (w : WorkItem) : (cancelledWorkItem w).2.Nodup := by
  rw [cancelledWorkItem]
  split
  · split
    · split <;> simp
    · exact nodup_nil
  · exact nodup_nil

/-! ### One step -/

/-- The items `cancelled` of `s` are cancelled together with their Attempts in the
table `items`, and `obligations` is what is emitted for them. -/
structure Cancels (s : State) (items : List WorkItem) (obligations : List String)
    (cancelled : List WorkItem) : Prop where
  sublist : cancelled.Sublist s.workItems
  emitted : obligations = cancelled.flatMap fun w => (cancelledWorkItem w).2
  rows : ∀ w ∈ cancelled, w.status.isTerminal = false ∧ ∃ w' ∈ items,
    w'.workItemId = w.workItemId ∧ w'.status = .cancelled ∧
      w'.currentAttempt = w.currentAttempt.map cancelAttempt

theorem Cancels.nil (s : State) (items : List WorkItem) : Cancels s items [] [] :=
  ⟨nil_sublist _, rfl, by simp⟩

theorem cancelItems_snd (names : WorkItem → Bool) (items : List WorkItem) :
    (cancelItems names items).2 =
      (items.filter fun w => names w && !w.status.isTerminal).flatMap fun w =>
        (cancelledWorkItem w).2 := by
  induction items with
  | nil => rfl
  | cons w items ih =>
    rw [cancelItems, filter_cons]
    split
    · rw [flatMap_cons, ← ih]
    · exact ih

theorem cancelItems_cancels (names : WorkItem → Bool) :
    Cancels s (cancelItems names s.workItems).1 (cancelItems names s.workItems).2
      (s.workItems.filter fun w => names w && !w.status.isTerminal) := by
  refine ⟨filter_sublist, cancelItems_snd names s.workItems, ?_⟩
  intro w hw
  obtain ⟨hmem, hnamed⟩ := mem_filter.mp hw
  refine ⟨by simp_all, (cancelledWorkItem w).1, ?_, ?_⟩
  · rw [cancelItems_fst]
    refine mem_map.mpr ⟨w, hmem, ?_⟩
    rw [if_pos hnamed]
  · simp [cancelledWorkItem_fst]

/-- An item event emits nothing, or it cancels the item and its Attempt. -/
def CancelsItem (w : WorkItem) (r : WorkItem × List String × List String) : Prop :=
  r.2.1 = [] ∨ (r.2.1 = (cancelledWorkItem w).2 ∧ w.status.isTerminal = false ∧
    r.1.status = .cancelled ∧ r.1.currentAttempt = w.currentAttempt.map cancelAttempt)

variable {r : WorkItem × List String × List String}

theorem ItemMove.cancels (h : ItemMove s e kind w w')
    (hkind : kind = .attemptCancelled ∨ kind = .workItemCancelled) :
    w.status.isTerminal = false ∧ w'.status = .cancelled ∧
      w'.currentAttempt = w.currentAttempt.map cancelAttempt := by
  cases h with
  | cancelled _ hopen => simp [cancelledWorkItem_fst, hopen]
  | advanced htab hcur _ hitem hact =>
    rcases hkind with rfl | rfl
    · obtain ⟨-, -, rfl, rfl⟩ : _ ∧ _ ∧ _ ∧ _ := by
        simpa [attemptTransitions, eq_comm] using htab
      refine ⟨?_, rfl, by rw [hcur, map_some, cancelAttempt, if_pos hact]⟩
      rcases hitem with hitem | hitem <;> rw [hitem] <;> rfl
    · cases htab
  | moved htab _ hcan =>
    rcases hkind with rfl | rfl
    · cases htab
    · exact absurd rfl hcan
  | _ => rcases hkind with hkind | hkind <;> cases hkind

theorem workItemBranch_cancels (h : workItemBranch s e kind w = some r) : CancelsItem w r := by
  obtain ⟨hmove, hemit⟩ := workItemBranch_move h
  rw [itemObligations] at hemit
  split at hemit
  case isTrue hkind => exact Or.inr ⟨hemit, hmove.cancels hkind⟩
  case isFalse => exact Or.inl hemit

theorem Branch.cancels (hs : StateValid s) (h : Branch s status e kind effect) :
    ∃ cancelled, Cancels s effect.workItems effect.obligations cancelled := by
  cases h with
  | redirectAuthorized h =>
    simp only [Kernel.redirectAuthorized, ite_none_left_eq_some, some_inj] at h
    obtain ⟨-, rfl⟩ := h
    exact ⟨_, cancelItems_cancels _⟩
  | taskCancelled h =>
    simp only [Kernel.taskCancelled, ite_none_left_eq_some, Option.map_eq_some_iff] at h
    obtain ⟨-, target, -, rfl⟩ := h
    exact ⟨_, cancelItems_cancels _⟩
  | item hkind h =>
    obtain ⟨w, hw, r, -, hr, rfl⟩ := onWorkItem_spec hs h
    rcases workItemBranch_cancels hr with hnil | ⟨hemit, hopen, hst, hatt⟩
    · refine ⟨[], ?_⟩
      show Cancels s _ r.2.1 []
      rw [hnil]
      exact Cancels.nil s _
    · refine ⟨[w], singleton_sublist.mpr hw, by simpa using hemit, ?_⟩
      intro v hv
      obtain rfl := mem_singleton.mp hv
      refine ⟨hopen, r.1, ?_, (workItemBranch_move hr).1.frame.2.1, hst, hatt⟩
      exact mem_map.mpr ⟨v, hw, if_pos rfl⟩
  | interruptRequested h =>
    simp only [Kernel.interruptRequested, ite_none_left_eq_some, some_inj] at h
    obtain ⟨-, rfl⟩ := h
    exact ⟨[], Cancels.nil s _⟩
  | interruptResumed h =>
    simp only [Kernel.interruptResumed, ite_none_left_eq_some, some_inj] at h
    obtain ⟨-, rfl⟩ := h
    exact ⟨[], Cancels.nil s _⟩
  | suspensionStarted h =>
    rw [Kernel.suspensionStarted] at h
    split at h
    case h_2 => cases h
    case h_1 =>
      simp only [ite_none_left_eq_some, some_inj] at h
      obtain ⟨-, rfl⟩ := h
      exact ⟨[], Cancels.nil s _⟩
  | wakeAccepted h =>
    rw [Kernel.wakeAccepted] at h
    split at h
    case h_1 => cases h
    case h_2 =>
      simp only [ite_none_left_eq_some, some_inj] at h
      obtain ⟨-, rfl⟩ := h
      exact ⟨[], Cancels.nil s _⟩
  | task _ h =>
    simp only [taskTransition, Option.map_eq_some_iff] at h
    obtain ⟨target, -, rfl⟩ := h
    exact ⟨[], Cancels.nil s _⟩

/-- **What an accepted event cancels and emits.** -/
theorem step_cancels (h : step s x = some t) :
    ∃ cancelled, Cancels s t.workItems (obligationsOf s x) cancelled := by
  obtain ⟨r, hr, rfl⟩ := step_eq_some.mp h
  obtain ⟨status, kind, effect, hadm, heff, rfl⟩ := reduce_accepted_iff.mp hr
  obtain ⟨-, before, hbr, hset⟩ := transition_spec heff
  obtain ⟨cancelled, hcancels⟩ := hbr.cancels hadm.valid
  refine ⟨cancelled, ?_⟩
  rw [obligationsOf, hr]
  show Cancels s effect.workItems effect.obligations cancelled
  rw [(settle_spec hset).1]
  exact hcancels

/-- The item `id` is cancelled, and its Attempt was cancelled with it. -/
def Settled (s : State) (id : Identity) (a : Attempt) : Prop :=
  ∃ w, s.item? id = some w ∧ w.status = .cancelled ∧ w.currentAttempt = some a ∧
    a.status = .cancelled

/-- Every obligation of an accepted event is for an Attempt that was executing in an
open item, and the event settles that item. -/
theorem step_obligation (hs : Sound s) (h : step s x = some t) {o : String}
    (ho : o ∈ obligationsOf s x) :
    ∃ w a, s.item? w.workItemId = some w ∧ w.status.isTerminal = false ∧
      w.currentAttempt = some a ∧ (a.status = .submitted ∨ a.status = .running) ∧
      o = adapterCancelObligation a ∧
      Settled t w.workItemId { a with status := .cancelled } := by
  obtain ⟨cancelled, hcancels⟩ := step_cancels h
  rw [hcancels.emitted, mem_flatMap] at ho
  obtain ⟨w, hw, ho⟩ := ho
  obtain ⟨a, ha, hexec, rfl⟩ := mem_cancelledWorkItem_snd.mp ho
  obtain ⟨hopen, w', hw', hid, hst, hatt⟩ := hcancels.rows w hw
  have hact : a.status.isActive := by
    rcases hexec with hexec | hexec <;> rw [hexec] <;> rfl
  refine ⟨w, a, hs.valid.mem_iff_item?.mp (hcancels.sublist.mem hw), hopen, ha, hexec, rfl, w',
    ?_, hst, ?_, rfl⟩
  · rw [← hid]
    exact (step_valid hs h).valid.mem_iff_item?.mp hw'
  · rw [hatt, ha, map_some, cancelAttempt, if_pos hact]

/-! ### Runs -/

theorem ItemMove.not_of_settled (hterm : w.status.isTerminal)
    (hatt : ∀ a, w.currentAttempt = some a → a.status.isActive = false) :
    ¬ItemMove s e kind w w' := by
  intro h
  have hsame := h.status_of_terminal hterm
  cases h with
  | eligible hst => simp [hst, WorkItemStatus.isTerminal] at hterm
  | created _ _ _ hst =>
    rcases hst with hst | hst <;> simp [hst, WorkItemStatus.isTerminal] at hterm
  | fenced hcur hact => simp [hatt _ hcur] at hact
  | advanced _ hcur _ _ hact => simp [hatt _ hcur] at hact
  | moved htab hallow =>
    -- the target of a move is never among the statuses it starts at
    have hsame : _ = w.status := hsame
    rw [← hsame] at hallow
    unfold workItemMoves at htab
    split at htab <;> first
      | (obtain ⟨rfl, rfl⟩ : _ ∧ _ := by simpa using htab
         simp at hallow)
      | cases htab
  | cancelled _ hopen => simp [hopen] at hterm

/-- **A settled item stays as it is.** -/
theorem exec_settled (h : Run.exec step s xs = some t) (hs : Settled s id a) : Settled t id a := by
  refine Run.exec_invariant (I := fun u => Settled u id a) ?_ hs h
  rintro u x v ⟨w, hw, hst, hatt, hcancd⟩ hv
  obtain ⟨_, kind, -, hk⟩ := step_known hv
  obtain ⟨w', hw', rfl | hmov⟩ := step_item hv hk hw
  · exact ⟨w', hw', hst, hatt, hcancd⟩
  refine absurd hmov.move (ItemMove.not_of_settled (by rw [hst]; rfl) ?_)
  intro b hb
  cases hatt.symm.trans hb
  rw [hcancd]
  rfl

theorem emitted_concat {ys : List Input} {v : State} (hu : Run.exec step g ys = some u)
    (hv : step u x = some v) : emitted g (ys ++ [x]) = emitted g ys ++ obligationsOf u x := by
  rw [emitted, Run.trace_concat hu hv, flatMap_append]
  simp [emitted]

theorem item_of_obligation (hs : StateValid s) {v : WorkItem}
    (hw : s.item? w.workItemId = some w) (ha : w.currentAttempt = some a)
    (hv : s.item? v.workItemId = some v) (hb : v.currentAttempt = some b)
    (h : adapterCancelObligation a = adapterCancelObligation b) : w = v := by
  have hitem : ∀ {w : WorkItem} {a : Attempt}, s.item? w.workItemId = some w →
      w.currentAttempt = some a → a.workItemId = w.workItemId ∧ w.workItemId.kind = .workItem := by
    intro w a hw ha
    obtain ⟨-, hkind, -, -, hatt⟩ :=
      workItemIsValid_iff.mp (hs.items w (Table.mem_of_get hw))
    exact ⟨(hatt a ha).2.2, hkind⟩
  obtain ⟨haw, hwkind⟩ := hitem hw ha
  obtain ⟨hbv, hvkind⟩ := hitem hv hb
  have hvalue := (adapterCancelObligation_injective h).2.1
  rw [haw, hbv] at hvalue
  have hid : w.workItemId = v.workItemId := by
    have hkind := hwkind.trans hvkind.symm
    generalize w.workItemId = i at hkind hvalue
    generalize v.workItemId = j at hkind hvalue
    cases i
    cases j
    simp_all
  rw [hid, hv, some_inj] at hw
  exact hw.symm

theorem obligationsOf_nodup (hs : Sound s) (h : step s x = some t) :
    (obligationsOf s x).Nodup := by
  obtain ⟨cancelled, hcancels⟩ := step_cancels h
  rw [hcancels.emitted, nodup_flatMap]
  refine ⟨fun w _ => cancelledWorkItem_snd_nodup w, ?_⟩
  have hids : (cancelled.map (·.workItemId)).Nodup :=
    (hcancels.sublist.map (·.workItemId)).nodup hs.valid.itemIds
  refine (pairwise_map.mp hids).imp_of_mem ?_
  intro w v hw hv hne o how hov
  obtain ⟨a, ha, -, rfl⟩ := mem_cancelledWorkItem_snd.mp how
  obtain ⟨b, hb, -, hab⟩ := mem_cancelledWorkItem_snd.mp hov
  have hmem := fun v (hv : v ∈ cancelled) =>
    hs.valid.mem_iff_item?.mp (hcancels.sublist.mem hv)
  exact hne (congrArg _ (item_of_obligation hs.valid (hmem w hw) ha (hmem v hv) hb hab))

/-- **All obligations of a run are different**, and each is for a settled item. -/
theorem exec_obligations (hg : genesisIsValid g) (h : Run.exec step g xs = some t) :
    (emitted g xs).Nodup ∧
      ∀ o ∈ emitted g xs, ∃ id a, Settled t id a ∧ o = adapterCancelObligation a := by
  refine Run.exec_history (I := fun ys u => (emitted g ys).Nodup ∧
    ∀ o ∈ emitted g ys, ∃ id a, Settled u id a ∧ o = adapterCancelObligation a) ?_ ?_ h
  · exact ⟨nodup_nil, by simp [emitted]⟩
  · rintro ys u x v hu ⟨hnd, hsett⟩ hv
    have hsound := exec_sound hg hu
    rw [emitted_concat hu hv]
    constructor
    · refine nodup_append.mpr ⟨hnd, obligationsOf_nodup hsound hv, ?_⟩
      -- what was emitted before is for a cancelled item, what is emitted now for an open one
      rintro o ho o' ho' rfl
      obtain ⟨id, a, ⟨w, hw, hst, ha, -⟩, rfl⟩ := hsett o ho
      obtain ⟨w', b, hw', hopen, hb, -, hab, -⟩ := step_obligation hsound hv ho'
      rw [← (Table.key_of_get hw : w.workItemId = id)] at hw
      obtain rfl := item_of_obligation hsound.valid hw ha hw' hb hab
      rw [hst] at hopen
      cases hopen
    · intro o ho
      rcases mem_append.mp ho with ho | ho
      · obtain ⟨id, a, hset, rfl⟩ := hsett o ho
        exact ⟨id, a, exec_settled (Run.exec_cons.mpr ⟨v, hv, Run.exec_nil v⟩) hset, rfl⟩
      · obtain ⟨w, a, -, -, -, -, rfl, hset⟩ := step_obligation hsound hv ho
        exact ⟨w.workItemId, _, hset, rfl⟩

/-! ### The obligations of a journal -/

def Result.accepted? : Result → Option Accepted
  | .accepted a => some a
  | _ => none

/-- The body of the inner loop of `_accepted_obligations`; `seen` holds what
`obligations` holds. -/
def addObligation (obligations : List String) (obligation : String) : List String :=
  if obligations.contains obligation then obligations else obligations ++ [obligation]

/-- `KernelStore._accepted_obligations`; `none` where an entry without an accepted
Result raises. -/
def acceptedObligations (entries : List ReplayEntry) : Option (List String) :=
  entries.foldlM (fun obligations entry =>
    entry.result.accepted?.map fun accepted =>
      accepted.obligations.foldl addObligation obligations) []

def ReplayEntry.obligations (entry : ReplayEntry) : List String :=
  (entry.result.accepted?.map (·.obligations)).getD []

theorem foldl_addObligation {seen new : List String} (h : (seen ++ new).Nodup) :
    new.foldl addObligation seen = seen ++ new := by
  induction new generalizing seen with
  | nil => simp
  | cons o new ih =>
    have hnot : o ∉ seen := by
      rw [nodup_append] at h
      exact fun ho => h.2.2 o ho o (by simp) rfl
    have hadd : addObligation seen o = seen ++ [o] := by
      simp [addObligation, hnot]
    rw [foldl_cons, hadd, ih (by simpa using h)]
    simp

variable {entries : List ReplayEntry}

theorem foldlM_obligations (seen : List String)
    (hacc : ∀ entry ∈ entries, ∃ a, entry.result = .accepted a)
    (h : (seen ++ entries.flatMap ReplayEntry.obligations).Nodup) :
    entries.foldlM (fun obligations entry => entry.result.accepted?.map fun accepted =>
      accepted.obligations.foldl addObligation obligations) seen =
        some (seen ++ entries.flatMap ReplayEntry.obligations) := by
  induction entries generalizing seen with
  | nil => simp
  | cons entry entries ih =>
    obtain ⟨a, ha⟩ := hacc entry (by simp)
    have hent : entry.obligations = a.obligations := by
      simp [ReplayEntry.obligations, ha, Result.accepted?]
    rw [flatMap_cons, hent, ← append_assoc] at h ⊢
    rw [foldlM_cons, ha, Result.accepted?, map_some]
    rw [foldl_addObligation (nodup_append.mp h).1]
    exact ih _ (fun e he => hacc e (by simp [he])) h

theorem Accepted.canonical_lists {p q : Accepted}
    (h : canonicalJson p.canonical = canonicalJson q.canonical) :
    p.obligations = q.obligations ∧ p.auditFacts = q.auditFacts := by
  have hsort := canonicalJson_injective h
  rw [Accepted.canonical, Accepted.canonical] at hsort
  obtain ⟨-, -, -, -, -, -, hobligations, hfacts, -⟩ :=
    Json.record_injective (by rfl) (by simp) hsort
  exact ⟨strings_injective hobligations, strings_injective hfacts⟩

theorem replayEntries_obligations {applied : List String}
    {out : State × List String} (h : replayEntries s applied entries = .ok out) :
    (∀ entry ∈ entries, ∃ a, entry.result = .accepted a) ∧
      entries.flatMap ReplayEntry.obligations =
        emitted s (entries.map fun entry => (entry.event, entry.evidenceSet)) := by
  induction entries generalizing s applied with
  | nil => exact ⟨by simp, rfl⟩
  | cons entry entries ih =>
    obtain ⟨recorded, recomputed, hrecd, hred, hsame, hrest⟩ := replayEntries_cons.mp h
    obtain ⟨hacc, hemit⟩ := ih hrest
    constructor
    · intro e he
      rcases mem_cons.mp he with rfl | he
      · exact ⟨recorded, hrecd⟩
      · exact hacc e he
    · have hstep : step s (entry.event, entry.evidenceSet) = some recomputed.state :=
        step_eq_some.mpr ⟨recomputed, hred, rfl⟩
      have hent : entry.obligations = obligationsOf s (entry.event, entry.evidenceSet) := by
        simp [ReplayEntry.obligations, obligationsOf, hrecd, hred, Result.accepted?,
          (Accepted.canonical_lists hsame).1]
      rw [flatMap_cons, hent, hemit, map_cons, emitted, emitted, Run.trace, hstep]
      rfl

/-- The obligations of a journal that replays are different, and all of them are
collected in the order of emission. -/
theorem acceptedObligations_of_replay (hg : genesisIsValid g)
    {r : Replay} (hr : replay (.genesis g) entries none = .ok r) :
    acceptedObligations entries = some (entries.flatMap ReplayEntry.obligations) ∧
      (entries.flatMap ReplayEntry.obligations).Nodup ∧
      entries.flatMap ReplayEntry.obligations =
        emitted g (entries.map fun entry => (entry.event, entry.evidenceSet)) := by
  have hrep := (replay_genesis_ok.mp hr).2
  obtain ⟨hacc, hemit⟩ := replayEntries_obligations hrep
  have hnd := (exec_obligations hg (replayEntries_exec hrep)).1
  rw [← hemit] at hnd
  refine ⟨?_, hnd, hemit⟩
  simpa [acceptedObligations] using foldlM_obligations [] hacc hnd

/-- **Obligations are emitted once.**  All obligations of a run from a genesis are
different.  Each is for an Attempt that was submitted or running before the event,
and that is cancelled in the State after it and in all later ones.  A journal of the
run yields them all in the order of emission. -/
theorem obligations_emitted_once (hg : genesisIsValid g = true)
    (h : Run.exec step g xs = some t) :
    (emitted g xs).Nodup ∧
    (∀ ys x zs u v, xs = ys ++ x :: zs → Run.exec step g ys = some u → step u x = some v →
      ∀ o ∈ obligationsOf u x, ∃ id a, u.attempt? id = some a ∧
        (a.status = .submitted ∨ a.status = .running) ∧ o = adapterCancelObligation a ∧
        ∀ ws r, ws <+: zs → Run.exec step v ws = some r →
          r.attempt? id = some { a with status := .cancelled }) ∧
    ∀ entries r, replay (.genesis g) entries none = .ok r →
      (entries.map fun entry => (entry.event, entry.evidenceSet)) = xs →
      acceptedObligations entries = some (entries.flatMap ReplayEntry.obligations) ∧
        entries.flatMap ReplayEntry.obligations = emitted g xs := by
  obtain ⟨hnodup, -⟩ := exec_obligations hg h
  refine ⟨hnodup, ?_, ?_⟩
  · intro ys x zs u v _ hu hv o ho
    obtain ⟨w, a, hw, -, ha, hexec, rfl, hsettled⟩ := step_obligation (exec_sound hg hu) hv ho
    refine ⟨w.workItemId, a, attempt?_eq_some.mpr ⟨w, hw, ha⟩, hexec, rfl, ?_⟩
    intro ws r _ hr
    obtain ⟨w', hw', -, hattempt, -⟩ := exec_settled hr hsettled
    exact attempt?_eq_some.mpr ⟨w', hw', hattempt⟩
  · rintro entries r hr rfl
    obtain ⟨hcollected, -, hemitted⟩ := acceptedObligations_of_replay hg hr
    exact ⟨hcollected, hemitted⟩

def cancelledRun : List Input := runningRun ++ [
  authorized { (retryEvent (ident .event "e4") 4 .attemptCancelled (ident .attempt "a1") 0).1 with
    cancellationScope := some (.known .attempt) }]

theorem cancelledRun_emits : ∃ t o, Run.exec step requiredGenesis cancelledRun = some t ∧
      emitted requiredGenesis cancelledRun = [o] := by
  obtain ⟨t, ht, -⟩ := exec_of_trusting requiredGenesis_valid
    (p := fun t => t.revision = 5) (by decide +kernel :
      (Run.exec stepTrusting _ cancelledRun).any _)
  have hone : (emitted requiredGenesis cancelledRun).length = 1 := by
    rw [emitted_eq_trusting requiredGenesis_valid]
    decide +kernel
  obtain ⟨o, ho⟩ := length_eq_one_iff.mp hone
  exact ⟨t, o, ht, ho⟩

theorem obligations_emitted_once_cancelledRun :
    ∃ t o, Run.exec step requiredGenesis cancelledRun = some t ∧
      emitted requiredGenesis cancelledRun = [o] ∧
      acceptedObligations (journal requiredGenesis cancelledRun) = some [o] := by
  obtain ⟨t, o, ht, ho⟩ := cancelledRun_emits
  obtain ⟨r, hr, -⟩ := replay_journal requiredGenesis_valid ht
  obtain ⟨hcollected, hemitted⟩ := (obligations_emitted_once requiredGenesis_valid ht).2.2 _ r hr
    (journal_inputs ht)
  exact ⟨t, o, ht, ho, hcollected.trans (congrArg some (hemitted.trans ho))⟩

/-! ### Terminal Tasks -/

theorem kernelTaskTransitions_cancelled
    (h : kernelTaskTransitions status kind = some .cancelled) : kind = .taskCancelled := by
  unfold kernelTaskTransitions at h
  split at h <;> first | rfl | cases h | (split at h <;> first | rfl | cases h)

theorem StatusMove.cancelled (h : StatusMove status kind .cancelled) :
    status = .cancelled ∨ kind = .taskCancelled := by
  cases h
  case edge hedge => exact Or.inr (kernelTaskTransitions_cancelled hedge)
  all_goals exact Or.inl rfl

/-- Every Work Item of a cancelled Task is terminal. -/
theorem terminal_of_cancelled (hg : genesisIsValid g) (h : exec step g xs = some s) :
    s.status = .known .cancelled → ∀ w ∈ s.workItems, w.status.isTerminal := by
  refine exec_invariant (I := fun u => u.status = .known .cancelled →
    ∀ w ∈ u.workItems, w.status.isTerminal) (fun u x v ih hv hst w hw => ?_) (fun hst => ?_) h
  · obtain ⟨status, kind, hu, hk⟩ := step_known hv
    obtain ⟨target, htgt, hmov⟩ := step_status hv hu hk
    cases hst.symm.trans htgt
    rcases hmov.cancelled with rfl | rfl
    · obtain ⟨f, hf⟩ := step_items hv hk
      rw [hf.rows] at hw
      obtain ⟨w, hmem, rfl⟩ := mem_map.mp hw
      have hterm := ih hu w hmem
      rcases hf.move w hmem with hsame | hmoved
      · rwa [hsame]
      · rwa [hmoved.move.status_of_terminal hterm]
    · -- the event itself cancels what is not terminal yet
      obtain ⟨_, _, before, effect, hadm, -, hbr, hset, rfl⟩ := step_cases hv
      obtain rfl := hadm.kind_unique hk
      have hitems : (nextState u x.1 x.2 effect).workItems = before.workItems := by
        rw [(settle_spec hset).1]
        rfl
      cases hbr with
      | taskCancelled h =>
        rw [hitems, (taskCancelled_spec h).2.1, cancelItems_fst] at hw
        obtain ⟨w, -, rfl⟩ := mem_map.mp hw
        split
        · simp [cancelledWorkItem_fst, WorkItemStatus.isTerminal]
        · simp_all
      | item hkind => cases hkind
      | task hkind => cases hkind
  · rw [(genesisIsValid_iff.mp hg).2.1] at hst
    cases hst

theorem quiet_of_cancelled (hg : genesisIsValid g) (h : exec step g xs = some s)
    (hst : s.status = .known .cancelled) (hstep : step s x = some t) :
    (∀ id, ¬ Creates id x) ∧ obligationsOf s x = [] := by
  have hterm := terminal_of_cancelled hg h hst
  refine ⟨fun id hcrts => ?_, eq_nil_iff_forall_not_mem.mpr fun o ho => ?_⟩
  · obtain ⟨_, w, _, -, hw, -, hmov⟩ := step_named hstep hcrts.1 rfl
    have hw := hterm w (Table.mem_of_get hw)
    rcases hmov.of_created.1 with h | h <;> simp [h, WorkItemStatus.isTerminal] at hw
  · obtain ⟨w, _, hw, hopen, -⟩ := step_obligation (exec_sound hg h) hstep ho
    rw [hterm w (Table.mem_of_get hw)] at hopen
    cases hopen

/-- **Terminal Tasks.**  Once the status is terminal it never changes, there is no
Suspension, and the only events still accepted are those about one Work Item, which
change no other, and the end of an interrupt, which changes none.  In a cancelled Task
they create no Attempt and emit no obligation. -/
theorem terminal_status_final (hg : genesisIsValid g = true) (h : exec step g xs = some s)
    (hstatus : s.status = .known status) (hterm : status.isTerminal = true) {ys : List Input}
    (hys : exec step s ys = some t) :
    t.status = s.status ∧ t.suspension = none ∧
      ∀ p ∈ Run.trace step s ys, ∃ kind, p.2.1.1.kind = .known kind ∧
        ((kind.isItemEvent = true ∧
            ∀ id, p.2.1.1.workItemId ≠ some id → p.2.2.item? id = p.1.item? id) ∨
          (kind = .interruptResumed ∧ p.2.2.workItems = p.1.workItems)) ∧
        (status = .cancelled → (∀ id, ¬ Creates id p.2.1) ∧ obligationsOf p.1 p.2.1 = []) := by
  have hkept : ∀ {zs u}, exec step s zs = some u → Sound u ∧ u.status = .known status := by
    intro zs u hu
    refine exec_invariant (I := fun u => Sound u ∧ u.status = .known status) ?_
      ⟨exec_sound hg h, hstatus⟩ hu
    rintro u a v ⟨hsound, hu⟩ hv
    obtain ⟨_, kind, -, hkind⟩ := step_known hv
    obtain ⟨target, htarget, hmove⟩ := step_status hv hu hkind
    refine ⟨step_valid hsound hv, ?_⟩
    rw [htarget, (hmove.of_terminal hterm).1]
  obtain ⟨hsound, ht⟩ := hkept hys
  refine ⟨ht.trans hstatus.symm, ?_, ?_⟩
  · -- a valid State has a Suspension only while it is executing
    by_contra hne
    obtain ⟨u, hu⟩ := Option.ne_none_iff_exists'.mp hne
    have hexec := ht.symm.trans (hsound.valid.executing u hu)
    obtain rfl : status = .executing := by simpa using hexec
    cases hterm
  · rintro ⟨u, a, v⟩ hp
    obtain ⟨before, -, -, hu, hv, -⟩ := (Run.mem_trace_iff hys).mp hp
    obtain ⟨_, kind, -, hkind⟩ := step_known hv
    obtain ⟨target, -, hmove⟩ := step_status hv (hkept hu).2 hkind
    refine ⟨kind, hkind, ?_, ?_⟩
    · rcases (hmove.of_terminal hterm).2 with hitem | rfl
      · exact Or.inl ⟨hitem, fun id hid => step_unnamed hv hkind hitem hid⟩
      · exact Or.inr ⟨rfl, step_resumed_items hv hkind⟩
    · rintro rfl
      exact quiet_of_cancelled hg (exec_append.mpr ⟨s, h, hu⟩) (hkept hu).2 hv

/-- The Task fails while an Attempt of its item runs. -/
def failedRun : List Input :=
  runningRun ++ [(sampleEvent (ident .event "fail") 4 .taskFailed, [])]

def afterFailure : List Input := [
  (sampleItemEvent (ident .event "e5") 5 .workItemBlocked (ident .workItem "first"), []),
  retryEvent (ident .event "e6") 6 .attemptCreated (ident .attempt "a2") 1,
  retryEvent (ident .event "e7") 7 .attemptSubmitted (ident .attempt "a2") 1,
  authorized { sampleItemEvent (ident .event "e8") 8 .workItemCancelled
      (ident .workItem "first") with cancellationScope := some (.known .workItem) }]

theorem terminal_status_final_failedRun :
    ∃ s t, exec step requiredGenesis failedRun = some s ∧ s.status = .known .failed ∧
      exec step s afterFailure = some t ∧ t.status = s.status ∧ t.suspension = none := by
  obtain ⟨s, hs, hfailed⟩ := exec_of_trusting requiredGenesis_valid
    (p := fun s => s.status = .known .failed) (by decide +kernel :
      (exec stepTrusting _ failedRun).any _)
  obtain ⟨t, ht, -⟩ := exec_of_trusting requiredGenesis_valid
    (p := fun t => t.revision = 9) (by decide +kernel :
      (exec stepTrusting _ (failedRun ++ afterFailure)).any _)
  obtain ⟨s', hs', hrest⟩ := exec_append.mp ht
  cases hs.symm.trans hs'
  obtain ⟨hsame, hnone, -⟩ :=
    terminal_status_final requiredGenesis_valid hs hfailed rfl hrest
  exact ⟨s, t, hs, hfailed, hrest, hsame, hnone⟩

/-- **Work goes on in a failed Task**: a new Attempt is created, and an obligation is
emitted, after the status has become `failed`. -/
theorem terminal_task_attempted : genesisIsValid requiredGenesis = true ∧
      (∃ s, exec step requiredGenesis failedRun = some s ∧ s.status = .known .failed) ∧
      (exec step requiredGenesis (failedRun ++ afterFailure)).isSome = true ∧
      (∃ x ∈ afterFailure, Creates (ident .workItem "first") x) ∧
      emitted requiredGenesis failedRun = [] ∧
      emitted requiredGenesis (failedRun ++ afterFailure) ≠ [] := by
  refine ⟨requiredGenesis_valid, ?_, ?_, by decide, ?_, ?_⟩
  · exact exec_of_trusting requiredGenesis_valid (by decide +kernel)
  · rw [exec_eq_trusting requiredGenesis_valid]
    decide +kernel
  · rw [emitted_eq_trusting requiredGenesis_valid]
    decide +kernel
  · rw [emitted_eq_trusting requiredGenesis_valid]
    decide +kernel

end Valp.Kernel
