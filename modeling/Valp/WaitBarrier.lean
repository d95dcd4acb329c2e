/-
The work items of a suspension from one wait event to the next (`valp_cli/workflow.py`).

A line of `wait-events.jsonl` lists which required work items are completed, pending and
failed.  What the validator asks of the lists of two lines in a row is a relation of its own,
`Move`: a completion takes one item from the pending to the completed, the last one wakes the
coordinator, a blocked receipt marks a pending item as failed, and an exception changes nothing.

* `transition_iff` — **the check of two lines in a row is a move**.
-/
import Valp.DispatchOrder
import Valp.WaitEvents

namespace Valp.Wait

open Json (Value)
open Queue (asStr)
open Dispatch (strOrEmpty listOf)
open Kernel (bind_eq_ok)
open List
open Bool (or_eq_false_iff not_eq_false')

/-! ### Checks -/

variable {condition : Bool} {u : Unit} {suspension : Value}

@[simp] theorem exitIf_eq_ok {message : String} :
    exitIf condition message = .ok u ↔ condition = false := by
  cases condition <;> simp [exitIf]

theorem checkIf_eq_ok {check : Except Fault Unit} :
    checkIf condition check = .ok u ↔ (condition → check = .ok ()) := by
  cases condition <;> simp [checkIf]

/-! ### Lists of names -/

def namesValue (names : List String) : Value := listOf (names.map .str)

theorem val_namesValue (names : List String) : (namesValue names).1 = .arr (names.map .str) := by
  show Json.arr ((names.map Value.str).map Subtype.val) = _
  rw [map_map]
  rfl

theorem listItems_namesValue (names : List String) :
    listItems (namesValue names) = some (names.map .str) := by
  rw [listItems, val_namesValue]

variable {names : List String}

theorem mapM_nameOf {items : List Json} :
    items.mapM nameOf = some names ↔ items = names.map .str ∧ ∀ name ∈ names, name ≠ "" := by
  have hname : ∀ {item name}, nameOf item = some name ↔ item = .str name ∧ name ≠ "" := by
    intro item name
    cases item <;> simp [nameOf]
    grind
  induction items generalizing names with
  | nil => cases names <;> simp
  | cons item items ih =>
    simp only [mapM_cons, Option.bind_eq_bind, Option.bind_eq_some_iff, hname, ih, Option.pure_def,
      Option.some.injEq]
    cases names <;> simp
    tauto

theorem distinctNames_eq_some {v : Value} : distinctNames v = some names ↔
      v = namesValue names ∧ (∀ name ∈ names, name ≠ "") ∧ names.Nodup := by
  have hlist : ∀ items : List Json, listItems v = some items ↔ v.1 = .arr items := by
    intro items
    rw [listItems]
    split
    · rename_i found hv
      rw [hv, Option.some.injEq, Json.arr.injEq]
    · rename_i hv
      exact iff_of_false nofun (hv items)
  simp only [distinctNames, Option.bind_eq_bind, Option.bind_eq_some_iff, hlist, mapM_nameOf]
  constructor
  · rintro ⟨items, hv, found, ⟨rfl, hnames⟩, h⟩
    split_ifs at h with hnd
    cases h
    exact ⟨Subtype.ext (hv.trans (val_namesValue names).symm), hnames, hnd⟩
  · rintro ⟨rfl, hnames, hnd⟩
    exact ⟨_, val_namesValue names, names, ⟨rfl, hnames⟩, if_pos hnd⟩

theorem key_str_inj {a b : String} : (Json.str a).key = (Json.str b).key ↔ a = b := by
  rw [Json.key_eq_str, Json.str.injEq]

variable {xs ys : List String}

theorem nameKeys_inj : nameKeys xs = nameKeys ys ↔ xs = ys :=
  (map_injective_iff.mpr fun _ _ h => key_str_inj.mp h).eq_iff

theorem namesValue_inj (h : (namesValue xs).equal (namesValue ys)) : xs = ys := by
  have hkey : ∀ names : List String, Json.numeric (Json.sortKeys (namesValue names).1) =
      .arr (names.map .str) := by
    intro names
    rw [val_namesValue, Json.sortKeys, Json.numeric]
    congr 1
    induction names with
    | nil => rfl
    | cons name names ih => exact congrArg _ ih
  have hsame := Json.render_injective (Value.equal_iff.mp h)
  rw [hkey, hkey, Json.arr.injEq] at hsame
  exact (map_injective_iff.mpr fun _ _ h => Json.str.inj h) hsame

/-! ### The lists of a line -/

/-- What the lists of a line have to be. -/
structure Barrier.WellFormed (b : Barrier) : Prop where
  required_ne : b.required ≠ []
  named : ∀ name ∈ b.required, name ≠ ""
  required_nodup : b.required.Nodup
  completed_nodup : b.completed.Nodup
  pending_nodup : b.pending.Nodup
  failed_nodup : b.failed.Nodup
  completed_subset : b.completed ⊆ b.required
  pending_subset : b.pending ⊆ b.required
  failed_subset : b.failed ⊆ b.required
  disjoint : b.completed.Disjoint b.pending
  covered : b.required ⊆ b.completed ++ b.pending
  unfailed : b.completed.Disjoint b.failed

/-- The lists of a suspension. -/
structure IsBarrier (suspension : Value) (b : Barrier) : Prop where
  shape : deterministicSuspensionShapeError suspension = .ok ()
  items : itemsNamed (suspension.get "required_work_items") b.required = true
  required : suspension.get "required_work_item_ids" = namesValue b.required
  completed : suspension.get "completed_work_item_ids" = namesValue b.completed
  pending : suspension.get "pending_work_item_ids" = namesValue b.pending
  failed : suspension.get "failed_work_item_ids" = namesValue b.failed
  wellFormed : b.WellFormed

theorem stateField_eq_ok {required : List String} {field : String}
    (hrequired : ∀ name ∈ required, name ≠ "") :
    stateField suspension required field = .ok names ↔
      suspension.get field = namesValue names ∧ names.Nodup ∧ names ⊆ required := by
  rw [stateField]
  constructor
  · intro h
    split at h
    · cases h
    rename_i found hfnd
    obtain ⟨hvalue, -, hnd⟩ := distinctNames_eq_some.mp hfnd
    split_ifs at h with hall
    cases h
    refine ⟨hvalue, hnd, fun name hname => ?_⟩
    simpa using all_eq_true.mp hall name hname
  · rintro ⟨hvalue, hnd, hsubset⟩
    have hfnd : distinctNames (suspension.get field) = some names :=
      distinctNames_eq_some.mpr ⟨hvalue, fun name hname => hrequired name (hsubset hname), hnd⟩
    rw [hfnd]
    exact if_pos (all_eq_true.mpr fun name hname => by simpa using hsubset hname)

theorem any_contains_eq_false : (xs.any ys.contains) = false ↔ xs.Disjoint ys := by
  rw [any_eq_false]
  simp only [contains_iff_mem]
  rfl

/-- **The lists of a line.** -/
theorem barrierOf_eq_ok {b : Barrier} :
    barrierOf suspension = .ok b ↔ IsBarrier suspension b := by
  rw [barrierOf, bind_eq_ok]
  constructor
  · rintro ⟨⟨⟩, hshape, h⟩
    split at h
    · cases h
    rename_i required hrequired
    obtain ⟨hvalue, hnames, hnd⟩ := distinctNames_eq_some.mp hrequired
    simp only [bind_eq_ok, exitIf_eq_ok, stateField_eq_ok hnames] at h
    obtain ⟨_, hitems, completed, hcomp, pending, hpend, failed, hfail, _, hsp, _,
      hunfailed, h⟩ := h
    cases h
    rw [or_eq_false_iff, isEmpty_eq_false_iff, not_eq_false'] at hitems
    rw [or_eq_false_iff, any_contains_eq_false, not_eq_false'] at hsp
    exact {
      shape := hshape
      items := hitems.2
      required := hvalue
      completed := hcomp.1
      pending := hpend.1
      failed := hfail.1
      wellFormed := {
        required_ne := hitems.1
        named := hnames
        required_nodup := hnd
        completed_nodup := hcomp.2.1
        pending_nodup := hpend.2.1
        failed_nodup := hfail.2.1
        completed_subset := hcomp.2.2
        pending_subset := hpend.2.2
        failed_subset := hfail.2.2
        disjoint := hsp.1
        covered := fun name hname => by simpa using all_eq_true.mp hsp.2 name hname
        unfailed := any_contains_eq_false.mp hunfailed } }
  · intro h
    have hw := h.wellFormed
    refine ⟨(), h.shape, ?_⟩
    rw [distinctNames_eq_some.mpr ⟨h.required, hw.named, hw.required_nodup⟩]
    simp only [bind_eq_ok, exitIf_eq_ok, stateField_eq_ok hw.named]
    refine ⟨(), ?_, b.completed, ⟨h.completed, hw.completed_nodup, hw.completed_subset⟩, b.pending,
      ⟨h.pending, hw.pending_nodup, hw.pending_subset⟩, b.failed,
      ⟨h.failed, hw.failed_nodup, hw.failed_subset⟩, (), ?_, (),
      any_contains_eq_false.mpr hw.unfailed, rfl⟩
    · rw [or_eq_false_iff, isEmpty_eq_false_iff, not_eq_false']
      exact ⟨hw.required_ne, h.items⟩
    · rw [or_eq_false_iff, any_contains_eq_false, not_eq_false']
      refine ⟨hw.disjoint, all_eq_true.mpr fun name hname => ?_⟩
      simpa using hw.covered hname

/-! ### Moves -/

/-- A pending work item is completed. -/
def Barrier.complete (b : Barrier) (id : String) : Barrier :=
  { b with completed := b.completed ++ [id], pending := b.pending.filter (· ≠ id) }

/-- A pending work item has failed. -/
def Barrier.fail (b : Barrier) (id : String) : Barrier := { b with failed := b.failed ++ [id] }

def Barrier.fresh (required : List String) : Barrier := ⟨required, [], required, []⟩

/-- What a line does to the lists of the line before. -/
@[mk_iff] inductive Move (text : Json → String) (event : Value) (b : Barrier) : Barrier → Prop
  | completed (id : String) (hname : strOrEmpty text (event.get "event") = "work_item_completed")
      (hid : event.get "work_item_id" = .str id) (hmem : id ∈ b.pending) :
      Move text event b (b.complete id)
  | ready (id : String) (hname : strOrEmpty text (event.get "event") = "coordinator_resumed")
      (hreason : strOrEmpty text (event.get "wake_reason") = "dependency_ready")
      (hpending : b.pending = [id]) : Move text event b (b.complete id)
  | blocked (id : String) (hname : strOrEmpty text (event.get "event") = "coordinator_resumed")
      (hreason : strOrEmpty text (event.get "wake_reason") ∈ blockedReasons)
      (hmem : id ∈ b.pending) : Move text event b (b.fail id)
  | exception (hname : strOrEmpty text (event.get "event") = "coordinator_resumed")
      (hready : strOrEmpty text (event.get "wake_reason") ≠ "dependency_ready")
      (hblocked : strOrEmpty text (event.get "wake_reason") ∉ blockedReasons) :
      Move text event b b

/-- The fields that no line of a suspension may change. -/
def identityFields : List String :=
  ["suspension_id", "suspension_epoch", "required_work_items", "required_work_item_ids"]

/-- Two projections of one suspension. -/
def SameSuspension (current previous : Value) : Prop :=
  ∀ field ∈ identityFields, (current.get field).equal (previous.get field) = true

section Transition

variable {text : Json → String} {previous event : Value} {b b' : Barrier}

theorem barrier_eq_iff (h : b'.required = b.required) : b' = b ↔
    b'.completed = b.completed ∧ b'.pending = b.pending ∧ b'.failed = b.failed := by
  cases b
  cases b'
  simp_all

theorem previousSets_eq (h : IsBarrier previous b) : previousSets previous =
    some ⟨nameKeys b.completed, nameKeys b.pending, nameKeys b.failed⟩ := by
  have hkeys : ∀ names : List String, (names.map Json.str).map Json.key = nameKeys names :=
    fun names => map_map
  rw [previousSets, h.completed, h.pending, h.failed]
  simp only [listItems_namesValue, Option.bind_eq_bind, Option.bind_some, hkeys]

theorem contains_nameKeys {id : String} :
    (nameKeys names).contains (Json.str id).key ↔ id ∈ names := by
  rw [contains_iff_mem, nameKeys, mem_map]
  constructor
  · rintro ⟨name, hname, hkey⟩
    exact key_str_inj.mp hkey ▸ hname
  · intro hid
    exact ⟨id, hid, rfl⟩

theorem filter_nameKeys (names : List String) (id : String) :
    (nameKeys names).filter (· != (Json.str id).key) = nameKeys (names.filter (· ≠ id)) := by
  rw [nameKeys, nameKeys, filter_map]
  congr 1
  refine filter_congr fun name _ => ?_
  rw [Bool.eq_iff_iff]
  simp [key_str_inj]

section

variable (hrequired : b'.required = b.required)

include hrequired

theorem eq_complete_iff {id : String} :
    b' = b.complete id ↔ nameKeys b'.completed = nameKeys b.completed ++ [(Json.str id).key] ∧
      nameKeys b'.pending = nameKeys (b.pending.filter (· ≠ id)) ∧
      nameKeys b'.failed = nameKeys b.failed := by
  have happ : nameKeys b.completed ++ [(Json.str id).key] = nameKeys (b.completed ++ [id]) := by
    rw [nameKeys, nameKeys, map_append]
    rfl
  rw [happ, nameKeys_inj, nameKeys_inj, nameKeys_inj]
  exact barrier_eq_iff (b := b.complete id) hrequired

theorem completedTransition_iff :
    completedTransition event b' ⟨nameKeys b.completed, nameKeys b.pending, nameKeys b.failed⟩ =
        .ok () ↔
      ∃ id, event.get "work_item_id" = .str id ∧ id ∈ b.pending ∧ b' = b.complete id := by
  rw [completedTransition]
  cases hid : asStr (event.get "work_item_id") with
  | none => exact iff_of_false nofun (by rintro ⟨id, hstr, -⟩; rw [hstr] at hid; cases hid)
  | some id =>
    simp only [bind_eq_ok, exitIf_eq_ok, not_eq_false', contains_nameKeys, or_eq_false_iff,
      bne_eq_false_iff_eq, filter_nameKeys, eq_complete_iff hrequired, and_assoc]
    rw [Dispatch.eq_str_of_asStr hid]
    simp

theorem readyTransition_iff : resumedTransition "dependency_ready" b'
        ⟨nameKeys b.completed, nameKeys b.pending, nameKeys b.failed⟩ = .ok () ↔
      ∃ id, b.pending = [id] ∧ b' = b.complete id := by
  rw [resumedTransition, if_pos rfl, exitIf_eq_ok]
  simp only [or_eq_false_iff, bne_eq_false_iff_eq, not_eq_false']
  constructor
  · rintro ⟨⟨⟨hlen, hcomp⟩, hpend⟩, hfail⟩
    rw [nameKeys, length_map, length_eq_one_iff] at hlen
    obtain ⟨id, hid⟩ := hlen
    refine ⟨id, hid, (eq_complete_iff hrequired).mpr ⟨?_, ?_, hfail⟩⟩
    · rw [hcomp, hid]
      rfl
    · rw [hid, isEmpty_iff.mp hpend]
      simp
  · rintro ⟨id, hid, hcompl⟩
    obtain ⟨hcomp, hpend, hfail⟩ := (eq_complete_iff hrequired).mp hcompl
    refine ⟨⟨⟨?_, ?_⟩, ?_⟩, hfail⟩
    · rw [hid]
      rfl
    · rw [hcomp, hid]
      rfl
    · rw [hid, nameKeys_inj] at hpend
      rw [hpend]
      simp

variable {wakeReason : String}

theorem blockedTransition_iff
    (hrdy : wakeReason ≠ "dependency_ready") (hblk : wakeReason ∈ blockedReasons) :
    resumedTransition wakeReason b'
        ⟨nameKeys b.completed, nameKeys b.pending, nameKeys b.failed⟩ = .ok () ↔
      ∃ id ∈ b.pending, b' = b.fail id := by
  rw [resumedTransition, if_neg hrdy, if_pos (contains_iff_mem.mpr hblk), exitIf_eq_ok]
  simp only [or_eq_false_iff, bne_eq_false_iff_eq, not_eq_false']
  have htake : (nameKeys b'.failed).take (nameKeys b.failed).length =
      nameKeys (b'.failed.take b.failed.length) := by
    rw [nameKeys, nameKeys, nameKeys, length_map, map_take]
  have hdrop : (nameKeys b'.failed).drop (nameKeys b.failed).length =
      nameKeys (b'.failed.drop b.failed.length) := by
    rw [nameKeys, nameKeys, nameKeys, length_map, map_drop]
  simp only [htake, hdrop, nameKeys_inj]
  constructor
  · rintro ⟨⟨⟨⟨hcomp, hpend⟩, hfail⟩, hone⟩, hall⟩
    rw [nameKeys, length_map, length_eq_one_iff] at hone
    obtain ⟨id, hid⟩ := hone
    have hmem : id ∈ b.pending := by
      rw [hid] at hall
      exact contains_nameKeys.mp (all_eq_true.mp hall _ (mem_singleton_self _))
    refine ⟨id, hmem, ?_⟩
    refine (barrier_eq_iff (b := b.fail id) hrequired).mpr ⟨hcomp, hpend, ?_⟩
    rw [← take_append_drop b.failed.length b'.failed, hid, hfail, Barrier.fail]
  · rintro ⟨id, hmem, rfl⟩
    refine ⟨⟨⟨⟨rfl, rfl⟩, ?_⟩, ?_⟩, ?_⟩
    · exact take_left
    · rw [Barrier.fail, drop_left]
      rfl
    · rw [Barrier.fail, drop_left]
      exact all_eq_true.mpr fun key hkey => by
        rw [mem_singleton.mp hkey]
        exact contains_nameKeys.mpr hmem

theorem exceptionTransition_iff
    (hrdy : wakeReason ≠ "dependency_ready") (hblk : wakeReason ∉ blockedReasons) :
    resumedTransition wakeReason b'
        ⟨nameKeys b.completed, nameKeys b.pending, nameKeys b.failed⟩ = .ok () ↔ b' = b := by
  rw [resumedTransition, if_neg hrdy, if_neg (by simpa using hblk), exitIf_eq_ok,
    barrier_eq_iff hrequired]
  simp only [or_eq_false_iff, bne_eq_false_iff_eq, nameKeys_inj, and_assoc]

end

theorem SameSuspension.required_eq {current : Value} (hsame : SameSuspension current previous)
    (hcur : IsBarrier current b') (hprev : IsBarrier previous b) :
    b'.required = b.required := by
  have hids := hsame "required_work_item_ids" (by simp [identityFields])
  rw [hcur.required, hprev.required] at hids
  exact namesValue_inj hids

/-- A new suspension begins with all its work items pending. -/
theorem suspended_transition_iff
    (hname : strOrEmpty text (event.get "event") = "coordinator_suspended") :
    waitWorkItemTransitionError text previous event = .ok () ↔
      ∃ required, IsBarrier (suspensionOf event) (.fresh required) := by
  rw [waitWorkItemTransitionError, bind_eq_ok]
  simp only [barrierOf_eq_ok, if_pos hname, exitIf_eq_ok, or_eq_false_iff,
    not_eq_false', List.isEmpty_iff, bne_eq_false_iff_eq]
  constructor
  · rintro ⟨⟨required, completed, pending, failed⟩, hb, ⟨hcomp, hfail⟩, hpend⟩
    simp only at hcomp hfail hpend
    subst hcomp hfail hpend
    exact ⟨pending, hb⟩
  · rintro ⟨required, hb⟩
    exact ⟨_, hb, ⟨rfl, rfl⟩, rfl⟩

/-- **The lists of two lines in a row.** -/
theorem transition_iff (hprev : IsBarrier previous b) (hobj : previous.isObject)
    (hname : strOrEmpty text (event.get "event") ≠ "coordinator_suspended") :
    waitWorkItemTransitionError text previous event = .ok () ↔
      ∃ b', IsBarrier (suspensionOf event) b' ∧ SameSuspension (suspensionOf event) previous ∧
        Move text event b b' := by
  rw [waitWorkItemTransitionError, bind_eq_ok]
  simp only [barrierOf_eq_ok, if_neg hname, previousSets_eq hprev]
  refine exists_congr fun b' => and_congr_right fun hb' => ?_
  simp only [bind_eq_ok, exitIf_eq_ok, hobj, Bool.not_true, true_and, exists_const,
    any_eq_false, Bool.not_eq_true', Bool.not_eq_false]
  refine and_congr_right fun hsame => ?_
  have hrequired := SameSuspension.required_eq hsame hb' hprev
  rw [move_iff]
  by_cases hcomp : strOrEmpty text (event.get "event") = "work_item_completed"
  · rw [if_pos hcomp, completedTransition_iff hrequired]
    simp [hcomp]
  rw [if_neg hcomp]
  by_cases hresm : strOrEmpty text (event.get "event") = "coordinator_resumed"
  · rw [if_neg (not_not.mpr hresm)]
    by_cases hrdy : strOrEmpty text (event.get "wake_reason") = "dependency_ready"
    · rw [hrdy, readyTransition_iff hrequired]
      simp [hresm, blockedReasons]
    by_cases hblk : strOrEmpty text (event.get "wake_reason") ∈ blockedReasons
    · rw [blockedTransition_iff hrequired hrdy hblk]
      simp [hresm, hrdy, hblk]
    · rw [exceptionTransition_iff hrequired hrdy hblk]
      simp [hresm, hrdy, hblk]
  · rw [if_pos hresm]
    simp [hcomp, hresm]

end Transition

end Valp.Wait
