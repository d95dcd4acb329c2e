/-
What an accepted wait ledger proves about a dependency wake (`valp_cli/workflow.py`).

* `barrier_earned` — **behind a `dependency_ready` wake every required work item has its own
  completion receipt, cited by exactly one line of the suspension**.
-/
import Valp.WaitLedger

namespace Valp.Wait

open Json (Value)
open Queue (asStr exactInt)
open Dispatch (strOrEmpty intOr listOf iterate_listOf orElse emptyDict)
open Kernel (bind_eq_ok)
open List
open Json.Value

/-! ### The lines of a suspension -/

variable {item receipt : Value}

section Lines

variable {env : Env} {dir : Directory} {cursor next : Cursor} {event : Value}
  {lines later : List Value} {receipts : List Value} {b b' : Barrier} {stamp : Stamp} {id : String}

/-- The work item that a `work_item_completed` names. -/
def completedOf (event : Value) : Option String :=
  if isCompleted event then asStr (event.get "work_item_id") else none

def Stamp.behind (stamp : Stamp) (event : Value) : Cursor :=
  ⟨stamp.sequence, some stamp.after, suspensionOf event⟩

/-- The validator has read the lines of one suspension behind its first.  Until the barrier is
empty, the completed work items are those that the lines name. -/
structure Segment (env : Env) (dir : Directory) (cursor : Cursor) (lines : List Value)
    (b : Barrier) : Prop where
  barrier : IsBarrier cursor.suspension b
  object : cursor.suspension.isObject = true
  same : ∀ e ∈ lines, SameSuspension cursor.suspension (suspensionOf e)
  checked : ∀ e ∈ lines, ∃ before stamp b', EventChecked env dir before e stamp ∧
    IsBarrier (suspensionOf e) b'
  named : ∀ e ∈ lines, isCompleted e = true → ∃ id, e.get "work_item_id" = .str id
  completed : b.pending ≠ [] → b.completed = lines.filterMap completedOf

theorem isCompleted_of_resumed (h : isResumed event) : isCompleted event = false := by
  rw [isResumed, equal_str] at h
  rw [isCompleted, h, equal_str_str]
  decide

theorem Move.named (h : Move env.text event b b') (hcomp : isCompleted event) :
    ∃ id, event.get "work_item_id" = .str id := by
  have hresm : strOrEmpty env.text (event.get "event") ≠ "coordinator_resumed" := by
    rw [name_completed.mpr hcomp]
    decide
  cases h with
  | completed id _ hid => exact ⟨id, hid⟩
  | ready id hname => exact absurd hname hresm
  | blocked id hname => exact absurd hname hresm
  | exception hname => exact absurd hname hresm

theorem completedOf_eq_none (h : isCompleted event = false) : completedOf event = none := by
  rw [completedOf, h]
  rfl

theorem Segment.entry (h : EventChecked env dir cursor event stamp)
    (hent : isSuspended event) :
    ∃ required, Segment env dir (stamp.behind event) [] (.fresh required) := by
  obtain ⟨required, hb⟩ := (suspended_transition_iff (name_suspended.mpr hent)).mp h.transition
  exact ⟨required, hb, h.suspension, fun _ he => (not_mem_nil he).elim,
    fun _ he => (not_mem_nil he).elim, fun _ he => (not_mem_nil he).elim, fun _ => rfl⟩

section

variable (h : Segment env dir cursor lines b)
include h

/-- **One more line of a suspension.** -/
theorem Segment.step
    (hchk : EventChecked env dir cursor event stamp) (hne : isSuspended event = false) :
    ∃ b', Segment env dir (stamp.behind event) (lines ++ [event]) b' ∧
      Move env.text event b b' := by
  have hname : strOrEmpty env.text (event.get "event") ≠ "coordinator_suspended" := by
    rw [Ne, name_suspended, hne]
    exact Bool.false_ne_true
  obtain ⟨b', hb', hsame, hmove⟩ :=
    (transition_iff h.barrier h.object hname).mp hchk.transition
  refine ⟨b', ⟨hb', hchk.suspension, ?_, ?_, ?_, ?_⟩, hmove⟩
  · exact forall_mem_append.mpr ⟨fun e he => hsame.trans (h.same e he),
      forall_mem_singleton.mpr (.refl _)⟩
  · exact forall_mem_append.mpr ⟨h.checked, forall_mem_singleton.mpr ⟨cursor, stamp, b', hchk, hb'⟩⟩
  · exact forall_mem_append.mpr ⟨h.named, forall_mem_singleton.mpr hmove.named⟩
  · intro hpend
    rw [filterMap_append]
    cases hmove with
    | completed id hname hid hmem =>
      have hcomp : completedOf event = some id := by
        rw [completedOf, if_pos (name_completed.mp hname), hid]
        rfl
      rw [filterMap_cons_some hcomp, Barrier.complete, h.completed (ne_nil_of_mem hmem)]
      rfl
    | ready id hname hrsn hone =>
      rw [Barrier.complete, hone] at hpend
      exact absurd (by simp) hpend
    | blocked id hname =>
      have hnone := completedOf_eq_none (isCompleted_of_resumed (name_resumed.mp hname))
      rw [filterMap_cons_none hnone, filterMap_nil, append_nil, Barrier.fail]
      exact h.completed hpend
    | exception hname =>
      have hnone := completedOf_eq_none (isCompleted_of_resumed (name_resumed.mp hname))
      rw [filterMap_cons_none hnone, filterMap_nil, append_nil]
      exact h.completed hpend

/-- **The lines of a suspension.** -/
theorem Segment.of_run
    (hrun : later.foldlM (checkEvent env dir) cursor = .ok next)
    (hne : ∀ e ∈ later, isSuspended e = false) :
    ∃ b', Segment env dir next (lines ++ later) b' := by
  induction later generalizing cursor lines b with
  | nil =>
    cases hrun
    rw [append_nil]
    exact ⟨b, h⟩
  | cons e later ih =>
    rw [foldlM_cons, bind_eq_ok] at hrun
    obtain ⟨mid, hmid, hrun⟩ := hrun
    obtain ⟨stamp, hchk, rfl⟩ := checkEvent_eq_ok.mp hmid
    obtain ⟨hfst, hrest⟩ := List.forall_mem_cons.mp hne
    obtain ⟨b', hb', -⟩ := h.step hchk hfst
    rw [← singleton_append, ← append_assoc]
    exact ih hb' hrun hrest

/-- Behind an empty barrier no line completes a work item. -/
theorem Segment.idle (hpend : b.pending = [])
    (hrun : later.foldlM (checkEvent env dir) cursor = .ok next)
    (hne : ∀ e ∈ later, isSuspended e = false) : ∀ e ∈ later, isCompleted e = false := by
  induction later generalizing cursor lines b with
  | nil => exact fun _ he => (not_mem_nil he).elim
  | cons e later ih =>
    rw [foldlM_cons, bind_eq_ok] at hrun
    obtain ⟨mid, hmid, hrun⟩ := hrun
    obtain ⟨stamp, hchk, rfl⟩ := checkEvent_eq_ok.mp hmid
    obtain ⟨hfst, hrest⟩ := List.forall_mem_cons.mp hne
    obtain ⟨b', hb', hmove⟩ := h.step hchk hfst
    have hemp : ∀ id, id ∉ b.pending := by
      rw [hpend]
      exact fun _ => not_mem_nil
    cases hmove with
    | completed id _ _ hmem => exact absurd hmem (hemp id)
    | ready id _ _ hone => exact absurd (hone ▸ mem_singleton_self id) (hemp id)
    | blocked id _ _ hmem => exact absurd hmem (hemp id)
    | exception hname =>
      exact List.forall_mem_cons.mpr
        ⟨isCompleted_of_resumed (name_resumed.mp hname), ih hb' hpend hrun hrest⟩

end

theorem Serves.item_id (h : Serves env receipts event item receipt) :
    (receipt.get "work_item_id").equal (item.get "work_item_id") :=
  List.all_eq_true.mp h.identity ("work_item_id", item.get "work_item_id")
    (by simp [Dispatch.expectedIdentity])

/-- A line serves the work items of one identity only. -/
theorem Serves.same_id {other receipt' : Value}
    (h : Serves env receipts event item receipt) (hid : item.get "work_item_id" = .str id)
    (h' : Serves env receipts event other receipt') : other.get "work_item_id" = .str id := by
  cases h.cited.symm.trans h'.cited
  have hrcpt : receipt.get "work_item_id" = .str id :=
    Value.equal_str.mp (hid ▸ h.item_id)
  have hoth := h'.item_id
  rw [hrcpt] at hoth
  refine Value.equal_str.mp (Value.equal_iff.mpr ?_)
  exact (Value.equal_iff.mp hoth).symm

/-- A `work_item_completed` cites a receipt of the work item it names. -/
theorem completed_serves (hchk : EventChecked env dir cursor event stamp)
    (hload : Dispatch.loadDispatchReceipts dir.dispatch env.taskId = .ok receipts)
    (hcomp : isCompleted event) (hid : event.get "work_item_id" = .str id)
    (hstrict : ((suspensionOf event).get "strict_identity").truthy) :
    ∃ item ∈ requiredItems (suspensionOf event), item.get "work_item_id" = .str id ∧
      ∃ receipt, Serves env receipts event item receipt := by
  obtain ⟨found, hfnd, herr⟩ := hchk.receipt (by
    rw [citesReceipt]
    exact Bool.or_eq_true_iff.mpr (.inl hcomp))
  cases hload.symm.trans hfnd
  have hclm : receiptClaim env.text event =
      .ok (some ⟨event.get "receipt_ref", completionEvents, event.get "work_item_id"⟩) := by
    rw [receiptClaim, if_pos (name_completed.mpr hcomp)]
  obtain ⟨ref, receipt, item, hchkd⟩ := (receiptChecked_iff hclm).mp herr
  obtain ⟨hitem, hsrv⟩ := hchkd.serves hclm rfl hstrict
  refine ⟨item, hitem, ?_, receipt, hsrv⟩
  have hsame := hchkd.item_id
  rw [hid] at hsame
  exact Value.equal_str.mp (hsame rfl)

/-- A `dependency_ready` wake cites a receipt of the last pending work item. -/
theorem ready_serves (hb : IsBarrier cursor.suspension b) (hb' : IsBarrier (suspensionOf event) b')
    (hobj : cursor.suspension.isObject)
    (hchk : EventChecked env dir cursor event stamp)
    (hresm : isResumed event)
    (hrsn : strOrEmpty env.text (event.get "wake_reason") = "dependency_ready")
    (hpend : b.pending = [id])
    (hstrict : ((suspensionOf event).get "strict_identity").truthy) :
    ∃ receipts, Dispatch.loadDispatchReceipts dir.dispatch env.taskId = .ok receipts ∧
      ∃ item ∈ requiredItems (suspensionOf event), item.get "work_item_id" = .str id ∧
        ∃ receipt, Serves env receipts event item receipt := by
  -- the pair of the wake allows this reason for a receipt only
  have hrcpt : (event.get "resume_event").equal (.str "receipt") := by
    have hpair := hchk.reason hresm
    rw [reasonCheck, bind_eq_ok] at hpair
    obtain ⟨_, hpair, -⟩ := hpair
    rw [hrsn, wakeReasonPairError, exitIf_eq_ok, Bool.not_eq_false', contains_iff_mem] at hpair
    refine (word_iff env (by decide)).mp ?_
    revert hpair
    generalize strOrEmpty env.text (event.get "resume_event") = resumeEvent
    intro hpair
    unfold wakeReasons at hpair
    split at hpair
    · rfl
    all_goals exact absurd hpair (by decide)
  obtain ⟨receipts, hload, herr⟩ := hchk.receipt (by
    rw [citesReceipt, hresm, hrcpt]
    simp)
  have hname : strOrEmpty env.text (event.get "event") = "coordinator_resumed" :=
    name_resumed.mpr hresm
  have hclm : receiptClaim env.text event =
      .ok (some ⟨event.get "resume_ref", completionEvents, .null⟩) := by
    rw [receiptClaim, if_neg (by rw [hname]; decide), if_pos ⟨hname, hrcpt⟩, if_pos hrsn]
  obtain ⟨ref, receipt, item, hchkd⟩ := (receiptChecked_iff hclm).mp herr
  obtain ⟨hitem, hsrv⟩ := hchkd.serves hclm rfl hstrict
  refine ⟨receipts, hload, item, hitem, ?_, receipt, hsrv⟩
  have hlast := hchkd.wake
  rw [hname, hrsn, wakeItemError, if_pos ⟨rfl, hobj⟩, if_pos rfl, hb.pending, hpend,
    namesValue, iterate_listOf, Kernel.Decode.ok_bind, exitIf_eq_ok, Bool.not_eq_false',
    any_eq_true] at hlast
  obtain ⟨v, hv, heq⟩ := hlast
  rw [List.mem_singleton.mp hv, equal_str_str, decide_eq_true_iff] at heq
  obtain ⟨name, -, hname⟩ := hb'.exists_id hitem
  rw [hname, Dispatch.strOrEmpty_str] at heq
  rw [hname, heq]

end Lines

/-! ### The barrier -/

variable {e : Value}

section Earned

variable {env : Env} {dir : Directory} {entry wake : Value} {before lines later after : List Value}

variable {i j : ℕ}

theorem index_unique {α β : Type} {f : α → Option β} {xs : List α} {x y : α} {v : β}
    (hnd : (xs.filterMap f).Nodup) (hi : xs[i]? = some x) (hj : xs[j]? = some y)
    (hx : f x = some v) (hy : f y = some v) : i = j := by
  rw [Nodup, pairwise_filterMap, pairwise_iff_getElem] at hnd
  obtain ⟨hilt, rfl⟩ := List.getElem?_eq_some_iff.mp hi
  obtain ⟨hjlt, rfl⟩ := List.getElem?_eq_some_iff.mp hj
  rcases lt_trichotomy i j with hlt | heq | hgt
  · exact absurd rfl (hnd i j hilt hjlt hlt v hx v hy)
  · exact heq
  · exact absurd rfl (hnd j i hjlt hilt hgt v hy v hx)

/-- The lines that may complete a work item of the suspension. -/
def Completing (lines later : List Value) (wake : Value) (i : ℕ) (e : Value) : Prop :=
  (lines ++ wake :: later)[i]? = some e ∧ (isCompleted e = true ∨ i = lines.length)

theorem Completing.cases (h : Completing lines later wake i e)
    (hidle : ∀ e ∈ later, isCompleted e = false) :
    lines[i]? = some e ∧ isCompleted e ∨ i = lines.length ∧ e = wake := by
  obtain ⟨hget, hcandidate⟩ := h
  rcases lt_trichotomy i lines.length with hlt | rfl | hgt
  · refine .inl ⟨?_, hcandidate.resolve_right hlt.ne⟩
    rwa [getElem?_append_left hlt] at hget
  · refine .inr ⟨rfl, ?_⟩
    rw [getElem?_append_right le_rfl, Nat.sub_self] at hget
    exact (Option.some.inj hget).symm
  · have hmem : e ∈ later := by
      rw [getElem?_append_right hgt.le, ← Nat.sub_add_cancel (Nat.sub_pos_of_lt hgt)] at hget
      exact mem_of_getElem? hget
    have hcomp := hcandidate.resolve_right hgt.ne'
    rw [hidle e hmem] at hcomp
    cases hcomp

/-- The suspension has ended with a wake that took the last pending work item. -/
structure Ended (env : Env) (dir : Directory) (receipts lines : List Value) (wake : Value)
    (b : Barrier) (x : String) : Prop where
  segment : ∃ cursor, Segment env dir cursor lines b
  barrier : IsBarrier (suspensionOf wake) (b.complete x)
  same : ∀ e ∈ lines, SameSuspension (suspensionOf wake) (suspensionOf e)
  pending : b.pending = [x]
  load : Dispatch.loadDispatchReceipts dir.dispatch env.taskId = .ok receipts
  strict : ∀ e ∈ lines, ((suspensionOf e).get "strict_identity").truthy = true
  served : ∃ item ∈ requiredItems (suspensionOf wake), item.get "work_item_id" = .str x ∧
    ∃ receipt, Serves env receipts wake item receipt

namespace Ended

variable {receipts : List Value} {b : Barrier} {x : String}

section

variable (h : Ended env dir receipts lines wake b x)

include h

theorem completed_eq : (b.complete x).completed = lines.filterMap completedOf ++ [x] := by
  obtain ⟨cursor, hseg⟩ := h.segment
  rw [Barrier.complete, hseg.completed (by simp [h.pending])]

theorem mem_required {id : String}
    (hid : id ∈ b.required) : id ∈ lines.filterMap completedOf ∨ id = x := by
  have hcov := h.barrier.wellFormed.covered hid
  rw [h.completed_eq, Barrier.complete, h.pending] at hcov
  simpa using hcov

theorem line (he : e ∈ lines) (hcomp : isCompleted e) :
    ∃ id, completedOf e = some id ∧ ∃ item ∈ requiredItems (suspensionOf e),
      item.get "work_item_id" = .str id ∧ ∃ receipt, Serves env receipts e item receipt := by
  obtain ⟨cursor, hseg⟩ := h.segment
  obtain ⟨before, stamp, b', hchk, -⟩ := hseg.checked e he
  obtain ⟨id, hid⟩ := hseg.named e he hcomp
  refine ⟨id, ?_, completed_serves hchk h.load hcomp hid (h.strict e he)⟩
  rw [completedOf, if_pos hcomp, hid]
  rfl

theorem exists_line (later : List Value) (hitem : item ∈ requiredItems (suspensionOf wake)) :
    ∃ i e receipt, Completing lines later wake i e ∧ Serves env receipts e item receipt := by
  obtain ⟨id, hid, hitemId⟩ := h.barrier.exists_id hitem
  rcases h.mem_required hid with hearl | rfl
  · obtain ⟨e, he, hof⟩ := List.mem_filterMap.mp hearl
    have hcomp : isCompleted e := by
      by_contra hnot
      rw [completedOf_eq_none (Bool.eq_false_iff.mpr hnot)] at hof
      cases hof
    obtain ⟨id', hof', own, hown, hownId, receipt, hsrv⟩ := h.line he hcomp
    cases hof.symm.trans hof'
    -- the line has its own copy of the work item, equal to the one of the wake
    obtain ⟨cursor, hseg⟩ := h.segment
    obtain ⟨before, stamp, b', -, hb'⟩ := hseg.checked e he
    obtain ⟨other, hoth, heql⟩ := (h.same e he).item h.barrier hb' hitem
    have hotherId := equal_get heql "work_item_id"
    rw [hitemId] at hotherId
    have hsame : other = own := hb'.item_unique hoth hown (by
      rw [hownId]
      exact Value.equal_str.mp (Value.equal_iff.mpr (Value.equal_iff.mp hotherId).symm))
    subst hsame
    obtain ⟨i, hi, hget⟩ := List.mem_iff_getElem.mp he
    refine ⟨i, e, receipt, ⟨?_, .inl hcomp⟩, { hsrv with identity := ?_ }⟩
    · rw [getElem?_append_left hi, getElem?_eq_getElem hi, hget]
    · rw [hasIdentity_congr heql]
      exact hsrv.identity
  · obtain ⟨last, hlast, hlastId, receipt, hsrv⟩ := h.served
    have hsame := h.barrier.item_unique hitem hlast (hitemId.trans hlastId.symm)
    subst hsame
    refine ⟨lines.length, wake, receipt, ⟨?_, .inr rfl⟩, hsrv⟩
    rw [getElem?_append_right le_rfl, Nat.sub_self]
    rfl

theorem line_unique (hidle : ∀ e ∈ later, isCompleted e = false)
    (hitem : item ∈ requiredItems (suspensionOf wake)) {e' receipt' : Value}
    (hi : Completing lines later wake i e) (hsrv : Serves env receipts e item receipt)
    (hj : Completing lines later wake j e') (hsrv' : Serves env receipts e' item receipt') :
    i = j := by
  obtain ⟨id, -, hitemId⟩ := h.barrier.exists_id hitem
  have hnd := h.barrier.wellFormed.completed_nodup
  rw [h.completed_eq, nodup_append] at hnd
  have hof : ∀ (k : ℕ) u r, lines[k]? = some u → isCompleted u →
      Serves env receipts u item r → completedOf u = some id := by
    intro k u r hget hcomp hu
    obtain ⟨id', hof, own, -, hownId, r', hown⟩ := h.line (mem_of_getElem? hget) hcomp
    have hsame := hown.same_id hownId hu
    rw [hitemId] at hsame
    rw [hof, Value.str_inj.mp hsame]
  have hlast : ∀ r, Serves env receipts wake item r → id = x := by
    intro r hr
    obtain ⟨last, -, hlastId, r', hlast⟩ := h.served
    have hsame := hlast.same_id hlastId hr
    rw [hitemId] at hsame
    exact Value.str_inj.mp hsame
  have hapart : ∀ (k : ℕ) u r r', lines[k]? = some u → isCompleted u →
      Serves env receipts u item r → ¬ Serves env receipts wake item r' := by
    intro k u r r' hget hcomp hu hw
    exact hnd.2.2 id
      (List.mem_filterMap.mpr ⟨u, mem_of_getElem? hget, hof k u r hget hcomp hu⟩) x
      (mem_singleton_self x) (hlast r' hw)
  rcases hi.cases hidle with ⟨hgeti, hcompletedi⟩ | ⟨rfl, rfl⟩
  · rcases hj.cases hidle with ⟨hgetj, hcompletedj⟩ | ⟨rfl, rfl⟩
    · exact index_unique hnd.1 hgeti hgetj (hof i e receipt hgeti hcompletedi hsrv)
        (hof j e' receipt' hgetj hcompletedj hsrv')
    · exact absurd hsrv' (hapart i e receipt receipt' hgeti hcompletedi hsrv)
  · rcases hj.cases hidle with ⟨hgetj, hcompletedj⟩ | ⟨rfl, rfl⟩
    · exact absurd hsrv (hapart j e' receipt' receipt hgetj hcompletedj hsrv')
    · rfl

end

end Ended

/-- **The dependency barrier is earned.**  In a ledger that the validator accepts, let a
suspension end with a `dependency_ready` wake and let its lines up to there record a strict
identity.  Then every required work item is served by exactly one of its lines, a
`work_item_completed` or this wake, and no receipt serves two work items. -/
theorem barrier_earned
    (hvalid : validatedWaitEvents env dir =
      .ok (before ++ entry :: (lines ++ wake :: later) ++ after))
    (hentry : isSuspended entry = true) (hlines : ∀ e ∈ lines ++ later, isSuspended e = false)
    (hstrict : ∀ e ∈ lines ++ [wake], ((suspensionOf e).get "strict_identity").truthy = true)
    (hwake : isResumed wake = true) (hreason : wake.get "wake_reason" = .str "dependency_ready") :
    ∃ receipts, Dispatch.loadDispatchReceipts dir.dispatch env.taskId = .ok receipts ∧
      (∀ e ∈ lines, SameSuspension (suspensionOf wake) (suspensionOf e)) ∧
      (∀ item ∈ requiredItems (suspensionOf wake), ∃! i, ∃ e receipt,
        Completing lines later wake i e ∧ Serves env receipts e item receipt) ∧
      ∀ item ∈ requiredItems (suspensionOf wake), ∀ other ∈ requiredItems (suspensionOf wake),
        ∀ e e' receipt, Serves env receipts e item receipt → Serves env receipts e' other receipt →
          item = other := by
  -- the turns of the validator for the first line, the lines behind it, the wake and the rest
  rw [validatedWaitEvents, bind_eq_ok] at hvalid
  obtain ⟨events, -, hvalid⟩ := hvalid
  rw [bind_eq_ok] at hvalid
  obtain ⟨last, hfold, hevents⟩ := hvalid
  cases hevents
  simp only [foldlM_append, foldlM_cons, bind_eq_ok] at hfold
  obtain ⟨c₄, ⟨c₀, -, c₁, hfirst, c₂, hrun, c₃, hturn, hlater⟩, -⟩ := hfold
  obtain ⟨stamp₁, hcheck₁, rfl⟩ := checkEvent_eq_ok.mp hfirst
  obtain ⟨stamp, hcheck, rfl⟩ := checkEvent_eq_ok.mp hturn
  obtain ⟨hlines', hlaterLines⟩ := List.forall_mem_append.mp hlines
  have hwakeLine : isSuspended wake = false := by
    rw [isResumed, equal_str] at hwake
    rw [isSuspended, hwake, equal_str_str]
    decide
  obtain ⟨required, hopened⟩ := Segment.entry hcheck₁ hentry
  obtain ⟨b, hsegment⟩ := hopened.of_run hrun hlines'
  obtain ⟨b', hsegment', hmove⟩ := hsegment.step hcheck hwakeLine
  rw [nil_append] at hsegment hsegment'
  -- the wake takes the last pending work item
  have hready : strOrEmpty env.text (wake.get "wake_reason") = "dependency_ready" := by
    rw [hreason, Dispatch.strOrEmpty_str]
  obtain ⟨x, hpending, rfl⟩ : ∃ x, b.pending = [x] ∧ b' = b.complete x := by
    cases hmove with
    | completed id hname =>
      have hnot := isCompleted_of_resumed hwake
      rw [name_completed.mp hname] at hnot
      cases hnot
    | ready id _ _ hone => exact ⟨id, hone, rfl⟩
    | blocked id _ hblocked =>
      rw [hready] at hblocked
      exact absurd hblocked (by decide)
    | exception _ hnot => exact absurd hready hnot
  have hempty : (b.complete x).pending = [] := by
    rw [Barrier.complete, hpending]
    simp
  have hidle := hsegment'.idle hempty hlater hlaterLines
  obtain ⟨hstrictLines, hstrictWake⟩ := List.forall_mem_append.mp hstrict
  obtain ⟨receipts, hload, hserved⟩ := ready_serves hsegment.barrier hsegment'.barrier
    hsegment.object hcheck hwake hready hpending (hstrictWake wake (mem_singleton_self wake))
  have hsame : ∀ e ∈ lines, SameSuspension (suspensionOf wake) (suspensionOf e) :=
    fun e he => hsegment'.same e (mem_append_left _ he)
  have hended : Ended env dir receipts lines wake b x :=
    ⟨⟨_, hsegment⟩, hsegment'.barrier, hsame, hpending, hload, hstrictLines, hserved⟩
  refine ⟨receipts, hload, hsame, ?_, ?_⟩
  · intro item hitem
    obtain ⟨i, e, receipt, hcompleting, hserves⟩ := hended.exists_line later hitem
    refine ⟨i, ⟨e, receipt, hcompleting, hserves⟩, ?_⟩
    rintro j ⟨e', receipt', hcompleting', hserves'⟩
    exact hended.line_unique hidle hitem hcompleting' hserves' hcompleting hserves
  · intro item hitem other hother e e' receipt hserves hserves'
    obtain ⟨id, -, hitemId⟩ := hsegment'.barrier.exists_id hitem
    obtain ⟨id', -, hotherId⟩ := hsegment'.barrier.exists_id hother
    have hfirst := hserves.item_id
    have hsecond := hserves'.item_id
    rw [hitemId, equal_str] at hfirst
    rw [hotherId, equal_str] at hsecond
    exact hsegment'.barrier.item_unique hitem hother
      (hitemId.trans (hfirst.symm.trans (hsecond.trans hotherId.symm)))

end Earned

/-! ### A task that is suspended twice -/

section Checks

variable {env : Env} {dir : Directory} {cursor : Cursor} {event : Value}

theorem stampOf_of_fields (before : Int) {eventId : String}
    (hsch : event.get "schema_version" = .str "valp-wait-event.v1")
    (htask : event.get "task_id" = .str env.taskId)
    (hseq : event.get "event_sequence" = .int (cursor.sequence + 1))
    (hbef : event.get "state_revision_before" = .int before)
    (haft : event.get "state_revision_after" = .int (before + 1))
    (hrev : cursor.revision.any (before != ·) = false)
    (hid : event.get "event_id" = .str eventId)
    (hderived : waitEventId env.taskId (strOrEmpty env.text (event.get "event"))
      (strOrEmpty env.text (event.get "suspension_id")) (cursor.sequence + 1) (before + 1) =
        eventId) :
    stampOf env cursor event = .ok ⟨cursor.sequence + 1, before + 1, eventId⟩ := by
  rw [stampOf, hsch, htask, hseq, hbef, haft, hid]
  simp [exactInt, Value.int, Value.equal_self, hderived, exitIf, hrev, Kernel.Decode.ok_bind]

theorem wakeCheck_of_fields {epoch : Int} {wakeId eventId : String} {accepted result : Value}
    (hexternal : externalCheck env dir event = .ok ())
    (hep : intOr env.number (event.get "suspension_epoch") 0 = .ok epoch)
    (hderived : deterministicWakeId env.text env.taskId epoch
      (strOrEmpty env.text (event.get "resume_event")) (event.get "resume_ref")
      (event.get "external_event") = wakeId)
    (hacc : orElse ((suspensionOf event).get "accepted_wake") emptyDict = accepted)
    (hid : event.get "wake_id" = .str wakeId) (hid' : accepted.get "wake_id" = .str wakeId)
    (heventId : accepted.get "wake_event_id" = .str eventId)
    (href : event.get "result_ref" = .str (wakeResultRef wakeId))
    (href' : accepted.get "result_ref" = .str (wakeResultRef wakeId))
    (hres : dir.wakeResults (wakeResultRef wakeId) = .document result)
    (hobj : result.isObject)
    (hst : wakeStatusPairError (strOrEmpty env.text (event.get "wake_reason"))
      (strOrEmpty env.text (result.get "resulting_task_status")) = .ok ())
    (hlists : (workItemStateFields.any fun field =>
      !(result.get field).equal ((suspensionOf event).get field)) = false) :
    wakeCheck env dir event eventId = .ok () := by
  rw [suspensionOf] at hacc hlists
  simp [wakeCheck, hexternal, hep, hderived, hacc, hid, hid', heventId, href, href',
    Value.equal_self, hres, readJsonStrict, hobj, hst, exitIf, -any_eq_true, hlists]

end Checks

section Sample

/-- A task whose texts are no lists and no dictionaries. -/
def sampleEnv : Env where
  text
    | .arr _ => "["
    | .obj _ => "\x7b"
    | _ => ""
  text_arr := fun _ => (by decide : "[".toList.head? = some '[')
  text_obj := fun _ => (by decide : "\x7b".toList.head? = some '\x7b')
  number s := if s = "1" then some 1 else none
  taskId := "task"

def sampleFields : List (String × Value) :=
  Dispatch.sampleIdentity ++ [("expected_refs", namesValue ["agents/agent/evidence.md"])]

def sampleWork : Value := .dict sampleFields (by decide)

/-- The completion of the work item, with the first number. -/
def sampleCompletion : Value :=
  .dict ([("schema_version", .str Dispatch.schemaV2), ("receipt_id", .str "done"),
    ("task_id", .str "task"), ("event_sequence", .int 1), ("event", .str "dispatch_completed"),
    ("suspension_epoch", .int 1)] ++ sampleFields) (by decide)

def sampleDependencies : Value :=
  .dict [("schema_version", .str "valp-submission-dependencies.v2"), ("task_id", .str "task"),
    ("work_items", listOf [sampleWork])] (by decide)

def samplePolicy : Value :=
  .dict [("schema_version", .str "valp-wait-policy.v1"), ("task_id", .str "task"),
    ("wait_policy_id", .str "policy"), ("mode", .str "dependency_ready"),
    ("exception_policy", .str "exception_short_circuit"),
    ("dependency_ref", .str "submission-dependencies.json"),
    ("required_work_items", listOf [sampleWork]),
    ("exception_events", namesValue requiredWaitExceptionEvents)] (by decide)

/-- The fields of a strict suspension for the work item, with this number at its entry. -/
def waitFields (status : String) (entry : Int) (completed pending : List String) :
    List (String × Value) := [
  ("status", .str status), ("suspension_id", .str "suspension"), ("suspension_epoch", .int 1),
  ("state_revision_at_entry", .int 0), ("wait_policy_ref", .str "wait-policy.json"),
  ("wait_policy_id", .str "policy"), ("strict_identity", .bool true),
  ("event_sequence_at_entry", .int 0), ("receipt_event_sequence_at_entry", .int entry),
  ("receipt_cursor_at_entry", .int 0), ("required_work_items", listOf [sampleWork]),
  ("required_work_item_ids", namesValue ["work"]), ("pending_work_item_ids", namesValue pending),
  ("completed_work_item_ids", namesValue completed), ("failed_work_item_ids", namesValue []),
  ("entered_at", .str ""), ("deadline_at", .str ""), ("execution_deadline", .str ""),
  ("waiting_for_agents", namesValue ["agent"]), ("receipt_count_at_entry", .int 0),
  ("allowed_resume_events", namesValue requiredWaitExceptionEvents)]

def sampleWait (entry : Int) : Value :=
  .dict (waitFields "waiting" entry [] ["work"]) (by simp [waitFields])

def sampleWakeId : String :=
  deterministicWakeId sampleEnv.text "task" 1 "receipt" (.str "dispatch-receipts.jsonl#1") .null

/-- What the suspension keeps of the wake in the line behind this number. -/
def sampleAccepted (n : Int) : Value :=
  .dict [("wake_id", .str sampleWakeId),
    ("wake_event_id", .str (waitEventId "task" "coordinator_resumed" "suspension" (n + 1) (n + 1))),
    ("wake_reason", .str "dependency_ready"), ("resume_event", .str "receipt"),
    ("resume_ref", .str "dispatch-receipts.jsonl#1"), ("accepted_sequence", .int (n + 1)),
    ("resulting_state_revision", .int (n + 1)), ("result_ref", .str (wakeResultRef sampleWakeId))]
    (by simp)

/-- The suspension behind the wake; the number at its entry is zero. -/
def sampleWoken (n : Int) : Value :=
  .dict (waitFields "resumed" 0 ["work"] [] ++ [("resume_event", .str "receipt"),
    ("resumed_at", .str ""), ("resume_ref", .str "dispatch-receipts.jsonl#1"),
    ("accepted_wake", sampleAccepted n)]) (by simp [waitFields])

def lineFields (n : Int) (event status : String) (suspension : Value) : List (String × Value) := [
  ("schema_version", .str "valp-wait-event.v1"), ("task_id", .str "task"),
  ("event_id", .str (waitEventId "task" event "suspension" (n + 1) (n + 1))),
  ("event_sequence", .int (n + 1)), ("event", .str event), ("recorded_at", .str ""),
  ("state_revision_before", .int n), ("state_revision_after", .int (n + 1)),
  ("suspension_id", .str "suspension"), ("suspension_epoch", .int 1),
  ("projection", .dict [("status", .str status), ("suspension", suspension),
    ("updated_at", .str "")] (by simp))]

def sampleEntry (n entry : Int) : Value :=
  .dict (lineFields n "coordinator_suspended" "suspended" (sampleWait entry))
    (by simp [lineFields])

def sampleWaking (n : Int) : Value :=
  .dict (lineFields n "coordinator_resumed" "executing" (sampleWoken n) ++
    [("resume_event", .str "receipt"), ("resume_ref", .str "dispatch-receipts.jsonl#1"),
      ("wake_reason", .str "dependency_ready"), ("wake_id", .str sampleWakeId),
      ("result_ref", .str (wakeResultRef sampleWakeId)), ("qualifying_receipt_id", .str "done"),
      ("continuation_status", .str "ready")]) (by simp [lineFields])

def sampleResult : Value :=
  .dict [("resulting_task_status", .str "executing"),
    ("completed_work_item_ids", namesValue ["work"]), ("pending_work_item_ids", namesValue []),
    ("failed_work_item_ids", namesValue [])] (by decide)

/-- The suspension and its wake, and once more a suspension of the same epoch and its wake.  The
first line gives another number for the entry than the second one. -/
def sampleLines : List Value := [sampleEntry 0 5, sampleWaking 1, sampleEntry 2 0, sampleWaking 3]

def sampleDir : Directory where
  dispatch := Dispatch.plainDir [sampleCompletion]
  waitEvents := JsonLines.written Json.codec false sampleLines
  dependencies := .document sampleDependencies
  policies ref := if ref = "wait-policy.json" then some ⟨"", .document samplePolicy⟩ else none
  wakeResults _ := .document sampleResult
  files _ := .absent

theorem load_sampleCompletion :
    Dispatch.loadDispatchReceipts sampleDir.dispatch "task" = .ok [sampleCompletion] :=
  Dispatch.load_plainDir (by simp [sampleCompletion, Value.dict, Value.isObject, Json.shape])
    (by decide +kernel) rfl

theorem load_samplePolicy :
    loadWaitPolicy sampleEnv sampleDir "wait-policy.json" = .ok samplePolicy := by
  have hchk : checkWaitPolicy sampleEnv sampleDir samplePolicy = .ok () := rfl
  have hfile : sampleDir.policies "wait-policy.json" =
      some ⟨"", .document samplePolicy⟩ := by
    simp [sampleDir]
  rw [loadWaitPolicy, if_neg fun h => h.1 rfl, hfile]
  simp only [bind_eq_ok]
  exact ⟨(), rfl, samplePolicy, rfl, (), hchk, rfl⟩

theorem policy_of_fields {suspension : Value}
    (href : suspension.get "wait_policy_ref" = .str "wait-policy.json")
    (hid : suspension.get "wait_policy_id" = .str "policy")
    (hitems : suspension.get "required_work_items" = listOf [sampleWork])
    (hids : suspension.get "required_work_item_ids" = namesValue ["work"]) :
    policyCheck sampleEnv sampleDir suspension = .ok () := by
  rw [policyCheck, href, show strOrEmpty sampleEnv.text (.str "wait-policy.json") =
    "wait-policy.json" from rfl, load_samplePolicy, Kernel.Decode.ok_bind, waitWorkItemPolicyError,
    href, hid, hitems, hids]
  rfl

theorem check_sampleEntry (n entry : Int) {revision : Option Int} {previous : Value}
    (hrev : revision.any (n != ·) = false) :
    checkEvent sampleEnv sampleDir ⟨n, revision, previous⟩ (sampleEntry n entry) =
      .ok ⟨n + 1, some (n + 1), sampleWait entry⟩ :=
  checkEvent_eq_ok.mpr ⟨_, {
    stamped := stampOf_of_fields n rfl rfl rfl rfl rfl hrev rfl rfl
    projection := rfl
    suspension := rfl
    checkpoint := rfl
    reason := nofun
    policy := fun _ => policy_of_fields rfl rfl rfl rfl
    transition := rfl
    receipt := nofun
    wake := nofun }, rfl⟩

theorem receipt_sampleWaking (n entry : Int) :
    waitReceiptEventError sampleEnv sampleDir (sampleWaking n) (sampleWait entry)
      [sampleCompletion] = .ok () := by
  have hclm : receiptClaim sampleEnv.text (sampleWaking n) =
      .ok (some ⟨.str "dispatch-receipts.jsonl#1", completionEvents, .null⟩) := rfl
  have hmatch : Dispatch.receiptMatchesWorkItem sampleEnv.text sampleCompletion sampleWork "task"
      true (some 1) (some 0) = .ok true := by
    decide +kernel
  exact (receiptChecked_iff hclm).mpr ⟨"dispatch-receipts.jsonl#1", sampleCompletion, sampleWork,
    rfl, rfl, rfl, rfl, ⟨_, rfl, rfl⟩, nofun, ⟨1, 0, rfl, rfl, hmatch⟩, rfl⟩

theorem check_sampleWaking (n entry : Int) :
    checkEvent sampleEnv sampleDir ⟨n, some n, sampleWait entry⟩ (sampleWaking n) =
      .ok ⟨n + 1, some (n + 1), sampleWoken n⟩ :=
  checkEvent_eq_ok.mpr ⟨_, {
    stamped := stampOf_of_fields n rfl rfl rfl rfl rfl (by simp) rfl rfl
    projection := rfl
    suspension := rfl
    checkpoint := rfl
    reason := fun _ => rfl
    policy := fun _ => policy_of_fields rfl rfl rfl rfl
    transition := rfl
    receipt := fun _ => ⟨_, load_sampleCompletion, receipt_sampleWaking n entry⟩
    wake := fun _ => wakeCheck_of_fields rfl rfl rfl rfl rfl rfl rfl rfl rfl rfl rfl rfl rfl }, rfl⟩

theorem validated_sampleLines :
    validatedWaitEvents sampleEnv sampleDir = .ok sampleLines := by
  have hls : ∀ event ∈ sampleLines, event.isObject = true ∧ event.Clean := by decide +kernel
  have hread : JsonLines.read Json.codec (JsonLines.written Json.codec false sampleLines) =
      .ok (sampleLines.map id) :=
    JsonLines.read_clean Json.lawful_codec (fun event hev => (hls event hev).1)
      fun event hev => (hls event hev).2
  have hevs : readWaitEvents sampleDir = .ok sampleLines := by
    rw [readWaitEvents, sampleDir, Ledgers.readJsonLinesStrict, hread, map_id]
    rfl
  rw [validatedWaitEvents, hevs, Kernel.Decode.ok_bind, bind_eq_ok]
  refine ⟨⟨4, some 4, sampleWoken 3⟩, ?_, rfl⟩
  simp only [sampleLines, foldlM_cons, foldlM_nil, bind_eq_ok]
  exact ⟨_, check_sampleEntry 0 5 rfl, _, check_sampleWaking 1 5, _, check_sampleEntry 2 0 rfl, _,
    check_sampleWaking 3 0, rfl⟩

/-- The work item of the first wake is served by the completion. -/
theorem barrier_earned_sample : ∃ receipts,
    Dispatch.loadDispatchReceipts sampleDir.dispatch "task" = .ok receipts ∧
      ∀ item ∈ requiredItems (suspensionOf (sampleWaking 1)), ∃! i, ∃ e receipt,
        Completing [] [] (sampleWaking 1) i e ∧ Serves sampleEnv receipts e item receipt := by
  have hvalid : validatedWaitEvents sampleEnv sampleDir = .ok ([] ++ sampleEntry 0 5 ::
      ([] ++ sampleWaking 1 :: []) ++ [sampleEntry 2 0, sampleWaking 3]) :=
    validated_sampleLines
  obtain ⟨receipts, hload, -, hserved, -⟩ := barrier_earned hvalid rfl (by simp)
    (by simp; rfl) rfl rfl
  exact ⟨receipts, hload, hserved⟩

/-- The first entry gives the number five and the only receipt has the number one, so that no
receipt lies behind that entry; and two wakes of one suspension identity and epoch are served by
that receipt. -/
theorem barrier_entry_not_kept :
    validatedWaitEvents sampleEnv sampleDir = .ok sampleLines ∧
      (∀ e ∈ sampleLines, ((suspensionOf e).get "strict_identity").truthy = true ∧
        SameSuspension (suspensionOf e) (suspensionOf (sampleEntry 0 5))) ∧
      (suspensionOf (sampleEntry 0 5)).get "receipt_event_sequence_at_entry" = .int 5 ∧
      Dispatch.loadDispatchReceipts sampleDir.dispatch "task" = .ok [sampleCompletion] ∧
      sampleCompletion.get "event_sequence" = .int 1 ∧
      ∀ n ∈ [1, 3], sampleWaking n ∈ sampleLines ∧ isResumed (sampleWaking n) = true ∧
        (sampleWaking n).get "wake_reason" = .str "dependency_ready" ∧
        Serves sampleEnv [sampleCompletion] (sampleWaking n) sampleWork sampleCompletion := by
  refine ⟨validated_sampleLines, ?_, rfl, load_sampleCompletion, rfl, ?_⟩
  · have hsame : ∀ n, SameSuspension (sampleWoken n) (sampleWait 5) := by
      intro n field hfield
      simp only [identityFields, mem_cons, not_mem_nil, or_false] at hfield
      rcases hfield with rfl | rfl | rfl | rfl <;> exact equal_self _
    have hagain : SameSuspension (sampleWait 0) (sampleWait 5) := by
      intro field hfield
      simp only [identityFields, mem_cons, not_mem_nil, or_false] at hfield
      rcases hfield with rfl | rfl | rfl | rfl <;> exact equal_self _
    simp only [sampleLines, forall_mem_cons]
    exact ⟨⟨rfl, SameSuspension.refl _⟩, ⟨rfl, hsame 1⟩, ⟨rfl, hagain⟩, ⟨rfl, hsame 3⟩,
      forall_mem_nil _⟩
  · intro n hn
    have hserves : Serves sampleEnv [sampleCompletion] (sampleWaking n) sampleWork
        sampleCompletion :=
      ⟨rfl, ⟨_, mem_cons_self, rfl⟩, by decide +kernel, ⟨1, rfl, rfl⟩, 0, 1, rfl, rfl, by decide⟩
    refine ⟨?_, rfl, rfl, hserves⟩
    simp only [mem_cons, not_mem_nil, or_false] at hn
    rcases hn with rfl | rfl <;> simp [sampleLines]

end Sample

end Valp.Wait
