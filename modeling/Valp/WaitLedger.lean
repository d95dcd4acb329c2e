/-
What the validator asks of a line of `wait-events.jsonl` (`valp_cli/workflow.py`).

* `checkEvent_eq_ok` — **one turn of the validator**;
* `receiptChecked_iff` — **the receipt that a line cites**;
* `ReceiptChecked.serves` — a completion receipt of a strict suspension is one of the work item
  that it names, of the epoch and behind the entry.
-/
import Valp.WaitBarrier

namespace Valp.Wait

open Json (Value)
open Queue (exactInt)
open Dispatch (inSet strOrEmpty intOr iterate listOf iterate_listOf hasIdentity)
open Kernel (bind_eq_ok)
open List
open Json.Value

/-! ### Words -/

section Words

variable {python : Python} {v : Value} {word : String}

theorem toList_toString_int (n : Int) : (toString n).toList = Json.renderInt n := by
  cases n with
  | ofNat m => simp [toString, Int.repr, Json.renderInt, Nat.repr]
  | negSucc m => simp [toString, Int.repr, Json.renderInt, Nat.repr]

theorem eq_str_of_strOrEmpty (hlower : word.toList.head?.any Char.isLower)
    (h : strOrEmpty python.text v = word) : v = .str word := by
  have hne : ¬ word = "" := by
    rintro rfl
    cases hlower
  have hoth : ∀ text : String, text = word → ∀ d ∈ text.toList.head?, d.isLower := by
    rintro text rfl d hd
    rw [Option.mem_def.mp hd] at hlower
    exact hlower
  rw [strOrEmpty] at h
  split at h
  · obtain ⟨v, hv⟩ := v
    cases v with
    | str s => exact Subtype.ext (congrArg Json.str h)
    | null => exact absurd (hoth "None" h 'N' (by decide)) (by decide)
    | bool b =>
      cases b with
      | false => exact absurd (hoth "False" h 'F' (by decide)) (by decide)
      | true => exact absurd (hoth "True" h 'T' (by decide)) (by decide)
    | int n =>
      obtain ⟨d, ds, hd, hdigit⟩ := Json.renderInt_head n
      have hlow : (d.val ≥ 'a'.val && d.val ≤ 'z'.val) := hoth _ h d (by
        show d ∈ (toString n).toList.head?
        rw [toList_toString_int, hd]
        rfl)
      rcases hdigit with rfl | hdigit
      · exact absurd hlow (by decide)
      · simp only [Char.isDigit, Bool.and_eq_true, decide_eq_true_eq] at hlow hdigit
        exact absurd (UInt32.le_trans hlow.1 hdigit.2) (by decide)
    | arr items => exact absurd (hoth _ h '[' (python.text_arr items)) (by decide)
    | obj members => exact absurd (hoth _ h '\x7b' (python.text_obj members)) (by decide)
  · exact absurd h.symm hne

theorem strOrEmpty_eq_iff (hlower : word.toList.head?.any Char.isLower) :
    strOrEmpty python.text v = word ↔ v.equal (.str word) := by
  rw [equal_str]
  constructor
  · exact eq_str_of_strOrEmpty hlower
  · rintro rfl
    exact Dispatch.strOrEmpty_str python.text word

end Words

/-! ### One line -/

variable {receipt : Value}

section Line

variable {env : Env} {dir : Directory} {cursor next : Cursor} {event : Value}
  {receipts : List Value}

/-- Whether a line opens a suspension. -/
def isSuspended (event : Value) : Bool :=
  (event.get "event").equal (.str "coordinator_suspended")

/-- Whether a line completes a work item and leaves others pending. -/
def isCompleted (event : Value) : Bool := (event.get "event").equal (.str "work_item_completed")

theorem word_iff (env : Env) {v : Value} {word : String}
    (hlower : word.toList.head?.any Char.isLower) :
    strOrEmpty env.text v = word ↔ v.equal (.str word) :=
  strOrEmpty_eq_iff hlower

theorem name_suspended :
    strOrEmpty env.text (event.get "event") = "coordinator_suspended" ↔ isSuspended event :=
  word_iff env (by decide)

theorem name_completed :
    strOrEmpty env.text (event.get "event") = "work_item_completed" ↔ isCompleted event :=
  word_iff env (by decide)

theorem name_resumed :
    strOrEmpty env.text (event.get "event") = "coordinator_resumed" ↔ isResumed event :=
  word_iff env (by decide)

/-- What the validator asks of a line. -/
structure EventChecked (env : Env) (dir : Directory) (cursor : Cursor) (event : Value)
    (stamp : Stamp) : Prop where
  stamped : stampOf env cursor event = .ok stamp
  projection : (event.get "projection").isObject = true
  suspension : (suspensionOf event).isObject = true
  checkpoint : suspensionCheckpointError dir (suspensionOf event) = none
  reason : isResumed event = true → reasonCheck env.text event = .ok ()
  policy : ((suspensionOf event).get "strict_identity").truthy = true →
    policyCheck env dir (suspensionOf event) = .ok ()
  transition : waitWorkItemTransitionError env.text cursor.suspension event = .ok ()
  receipt : citesReceipt event = true →
    ∃ receipts, Dispatch.loadDispatchReceipts dir.dispatch env.taskId = .ok receipts ∧
      waitReceiptEventError env dir event cursor.suspension receipts = .ok ()
  wake : isResumed event = true → wakeCheck env dir event stamp.eventId = .ok ()

/-- **One turn of the validator.** -/
theorem checkEvent_eq_ok : checkEvent env dir cursor event = .ok next ↔
    ∃ stamp, EventChecked env dir cursor event stamp ∧
      next = ⟨stamp.sequence, some stamp.after, suspensionOf event⟩ := by
  rw [checkEvent, bind_eq_ok]
  refine exists_congr fun stamp => ?_
  constructor
  · rintro ⟨hstamp, h⟩
    rw [bind_eq_ok] at h
    obtain ⟨_, hobjs, h⟩ := h
    rw [exitIf_eq_ok, Bool.or_eq_false_iff, Bool.not_eq_false', Bool.not_eq_false'] at hobjs
    split at h
    · cases h
    rename_i hcp
    simp only [bind_eq_ok, checkIf_eq_ok] at h
    obtain ⟨_, hrsn, _, hpol, _, htr, _, hrcpt, _, hwake, hnext⟩ := h
    exact ⟨⟨hstamp, hobjs.1, hobjs.2, hcp, hrsn, hpol, htr,
      hrcpt, hwake⟩, (Except.ok.inj hnext).symm⟩
  · rintro ⟨h, rfl⟩
    refine ⟨h.stamped, ?_⟩
    rw [h.projection, h.suspension, h.checkpoint]
    simp only [bind_eq_ok, checkIf_eq_ok, exitIf_eq_ok, Bool.not_true, Bool.or_self]
    exact ⟨(), trivial, (), h.reason, (), h.policy, (), h.transition, (), h.receipt, (), h.wake,
      trivial⟩

/-- The receipt that a line cites. -/
def citedReceipt (env : Env) (receipts : List Value) (event : Value) : Option Value :=
  match receiptClaim env.text event with
  | .ok (some claim) =>
    match receiptAt env.number receipts claim.ref with
    | .ok (_, receipt) => some receipt
    | .error _ => none
  | _ => none

/-- A line cites a completion receipt of a work item, in the epoch of its suspension and behind
the sequence that the line records for the entry. -/
structure Serves (env : Env) (receipts : List Value) (event item receipt : Value) : Prop where
  cited : citedReceipt env receipts event = some receipt
  completion : ∃ name ∈ completionEvents, receipt.get "event" = .str name
  identity : hasIdentity env.taskId item receipt = true
  epoch : ∃ epoch, intOr env.number ((suspensionOf event).get "suspension_epoch") 0 = .ok epoch ∧
    receipt.get "suspension_epoch" = .int epoch
  later : ∃ entry sequence,
    intOr env.number ((suspensionOf event).get "receipt_event_sequence_at_entry") 0 = .ok entry ∧
      receipt.get "event_sequence" = .int sequence ∧ entry < sequence

theorem strict_match {item : Value} {epoch entry : Int} {name : String}
    (hev : receipt.get "event" = .str name) (hname : name ∈ completionEvents)
    (h : Dispatch.receiptMatchesWorkItem env.text receipt item env.taskId true (some epoch)
      (some entry) = .ok true) :
    hasIdentity env.taskId item receipt ∧ receipt.get "suspension_epoch" = .int epoch ∧
      ∃ sequence, receipt.get "event_sequence" = .int sequence ∧ entry < sequence := by
  have hterm : inSet (receipt.get "event") Dispatch.terminalEvents = .ok true := by
    rw [Dispatch.inSet_eq_true]
    refine ⟨name, ?_, hev⟩
    simp only [completionEvents, mem_cons, not_mem_nil, or_false] at hname
    rcases hname with rfl | rfl <;> decide
  rw [Dispatch.receiptMatchesWorkItem, if_pos rfl] at h
  split at h
  · cases h
  split at h
  · cases h
  rename_i hidt
  split at h
  · cases h
  rw [hterm, Kernel.Decode.ok_bind] at h
  split at h
  · cases h
  rename_i hsusp
  simp only [Bool.true_and, Bool.not_eq_true', Bool.not_eq_false, Dispatch.inSuspension,
    Option.any_some, Bool.and_eq_true, decide_eq_true_eq] at hsusp
  obtain ⟨hep, hlat⟩ := hsusp
  refine ⟨by simpa using hidt, Dispatch.eq_int_of_exactInt hep, ?_⟩
  cases hseq : exactInt (receipt.get "event_sequence") with
  | none =>
    rw [hseq] at hlat
    cases hlat
  | some sequence =>
    rw [hseq] at hlat
    exact ⟨sequence, Dispatch.eq_int_of_exactInt hseq, by simpa using hlat⟩

/-- The required work items of a suspension. -/
def requiredItems (suspension : Value) : List Value :=
  match iterate (suspension.get "required_work_items") with
  | .ok items => items
  | .error _ => []

/-- What the validator asks of a line that cites a receipt. -/
structure ReceiptChecked (env : Env) (dir : Directory) (event previous : Value)
    (receipts : List Value) (claim : ReceiptClaim) (ref : String) (receipt item : Value) :
    Prop where
  found : receiptAt env.number receipts claim.ref = .ok (ref, receipt)
  effective : Dispatch.runtimeReceiptIsEffective env.text dir.dispatch receipt = .ok true
  qualifying : event.get "qualifying_receipt_id" =
    .str (Dispatch.strOr env.text (receipt.get "receipt_id") ref)
  supported : inSet (receipt.get "event") claim.expectedEvents = .ok true
  named : ∃ items, iterate ((suspensionOf event).get "required_work_items") = .ok items ∧
    namedItems ((suspensionOf event).get "strict_identity").truthy receipt items = [item]
  item_id : claim.workItemId.isNone = false →
    (item.get "work_item_id").equal claim.workItemId = true
  matched : ∃ epoch entry,
    intOr env.number ((suspensionOf event).get "suspension_epoch") 0 = .ok epoch ∧
    intOr env.number ((suspensionOf event).get "receipt_event_sequence_at_entry") 0 = .ok entry ∧
    Dispatch.receiptMatchesWorkItem env.text receipt item env.taskId
      ((suspensionOf event).get "strict_identity").truthy (some epoch) (some entry) = .ok true
  wake : wakeItemError (strOrEmpty env.text (event.get "event"))
    (strOrEmpty env.text (event.get "wake_reason")) previous (suspensionOf event)
    (strOrEmpty env.text (item.get "work_item_id")) = .ok ()

/-- **The receipt of a line.** -/
theorem receiptChecked_iff {previous : Value} {claim : ReceiptClaim}
    (hclm : receiptClaim env.text event = .ok (some claim)) :
    waitReceiptEventError env dir event previous receipts = .ok () ↔
      ∃ ref receipt item,
        ReceiptChecked env dir event previous receipts claim ref receipt item := by
  rw [waitReceiptEventError, hclm, Kernel.Decode.ok_bind]
  constructor
  · intro h
    simp only [bind_eq_ok, exitIf_eq_ok, Bool.not_eq_false'] at h
    obtain ⟨⟨ref, receipt⟩, hfnd, effective, heffv, _, rfl, _, hqualifying, supported,
      hsupported, _, rfl, items, hitems, h⟩ := h
    split at h
    · rename_i item hnamed
      simp only [bind_eq_ok, exitIf_eq_ok, Bool.not_eq_false'] at h
      obtain ⟨_, hid, epoch, hep, entry, hent, matched, hmatch, _, rfl, hwake⟩ := h
      refine ⟨ref, receipt, item, hfnd, heffv, Value.equal_str.mp hqualifying, hsupported,
        ⟨items, hitems, hnamed⟩, fun hsome => ?_, ⟨epoch, entry, hep, hent, hmatch⟩, hwake⟩
      rw [hsome] at hid
      simpa using hid
    · cases h
  · rintro ⟨ref, receipt, item, h⟩
    obtain ⟨items, hitems, hnamed⟩ := h.named
    obtain ⟨epoch, entry, hep, hent, hmatch⟩ := h.matched
    simp only [bind_eq_ok, exitIf_eq_ok, Bool.not_eq_false']
    refine ⟨(ref, receipt), h.found, true, h.effective, (), rfl, (),
      Value.equal_str.mpr h.qualifying, true, h.supported, (), rfl, items, hitems, ?_⟩
    have hnamed' : namedItems
        (((event.get "projection").get "suspension").get "strict_identity").truthy receipt items =
          [item] := hnamed
    rw [hnamed']
    simp only [bind_eq_ok, exitIf_eq_ok, Bool.not_eq_false']
    refine ⟨(), ?_, epoch, hep, entry, hent, true, hmatch, (), rfl, h.wake⟩
    rw [Bool.and_eq_false_iff, Bool.not_eq_false', Bool.not_eq_false']
    cases hnone : claim.workItemId.isNone with
    | true => exact .inl rfl
    | false => exact .inr (h.item_id hnone)

/-- What a line with a completion claim cites. -/
theorem ReceiptChecked.serves {previous item : Value} {claim : ReceiptClaim} {ref : String}
    (h : ReceiptChecked env dir event previous receipts claim ref receipt item)
    (hclm : receiptClaim env.text event = .ok (some claim))
    (hexp : claim.expectedEvents = completionEvents)
    (hstrict : ((suspensionOf event).get "strict_identity").truthy) :
    item ∈ requiredItems (suspensionOf event) ∧ Serves env receipts event item receipt := by
  obtain ⟨items, hitems, hnamed⟩ := h.named
  obtain ⟨epoch, entry, hep, hent, hmatch⟩ := h.matched
  have hsupported := h.supported
  rw [hexp, Dispatch.inSet_eq_true] at hsupported
  obtain ⟨name, hname, hev⟩ := hsupported
  rw [hstrict] at hmatch
  obtain ⟨hidt, hsame, sequence, hseq, hlat⟩ := strict_match hev hname hmatch
  refine ⟨?_, ?_, ⟨name, hname, hev⟩, hidt, ⟨epoch, hep, hsame⟩, entry, sequence, hent, hseq, hlat⟩
  · rw [requiredItems, hitems]
    have hfilter : item ∈ namedItems ((suspensionOf event).get "strict_identity").truthy receipt
        items := hnamed ▸ mem_singleton_self item
    exact (List.mem_filter.mp hfilter).1
  · rw [citedReceipt, hclm]
    simp only [h.found]

end Line

/-! ### Work items -/

section Items

variable {suspension current previous : Value} {b : Barrier}

theorem exists_listOf {v : Value} {items : List Json} (h : v.1 = .arr items) :
    ∃ values, v = listOf values ∧ values.map Subtype.val = items := by
  have hdist := v.2
  rw [h, Json.distinctKeys, Json.distinctItems_eq_all, all_eq_true] at hdist
  refine ⟨items.attach.map fun item => ⟨item.1, hdist item.1 item.2⟩, Subtype.ext ?_, ?_⟩
  · rw [h]
    show Json.arr items = Json.arr _
    rw [map_map]
    exact congrArg _ (attach_map_subtype_val items).symm
  · rw [map_map]
    exact attach_map_subtype_val items

theorem requiredItems_eq {items : List Value}
    (h : suspension.get "required_work_items" = listOf items) :
    requiredItems suspension = items := by
  rw [requiredItems, h, iterate_listOf]

theorem IsBarrier.items_eq (h : IsBarrier suspension b) :
    suspension.get "required_work_items" = listOf (requiredItems suspension) ∧
      (∀ item ∈ requiredItems suspension, item.isObject) ∧
      (requiredItems suspension).map (·.get "work_item_id") = b.required.map .str := by
  have hnamed := h.items
  rw [itemsNamed] at hnamed
  split at hnamed
  · cases hnamed
  rename_i items hitems
  have harr : (suspension.get "required_work_items").1 = .arr items := by
    rw [listItems] at hitems
    split at hitems
    · rename_i found hfnd
      rw [hfnd, Option.some.inj hitems]
    · cases hitems
  obtain ⟨values, hvalues, rfl⟩ := exists_listOf harr
  rw [Bool.and_eq_true, all_eq_true, beq_iff_eq, map_map] at hnamed
  rw [requiredItems_eq hvalues]
  refine ⟨hvalues, fun item hitem => hnamed.1 item.1 (mem_map_of_mem hitem), ?_⟩
  have hids := hnamed.2
  clear hnamed hvalues harr hitems
  generalize b.required = required at hids
  induction values generalizing required with
  | nil =>
    cases required with
    | nil => rfl
    | cons name required => cases hids
  | cons value values ih =>
    cases required with
    | nil => cases hids
    | cons name required =>
      rw [map_cons, nameKeys, map_cons, List.cons.injEq] at hids
      rw [map_cons, map_cons, ih required hids.2]
      congr 1
      have hget : (value.get "work_item_id").1 = (value.1.member? "work_item_id").getD .null := by
        cases hmember : value.1.member? "work_item_id" with
        | none =>
          rw [get_of_none hmember]
          rfl
        | some w => rw [get_of_member hmember, Option.getD_some]
      refine Subtype.ext ?_
      rw [hget]
      exact Json.key_eq_str.mp hids.1

theorem IsBarrier.item_unique (h : IsBarrier suspension b) {item other : Value}
    (hitem : item ∈ requiredItems suspension) (hoth : other ∈ requiredItems suspension)
    (hid : item.get "work_item_id" = other.get "work_item_id") : item = other := by
  have hnd : ((requiredItems suspension).map (·.get "work_item_id")).Nodup := by
    rw [h.items_eq.2.2]
    exact h.wellFormed.required_nodup.map fun _ _ heq => Json.str.inj (congrArg Subtype.val heq)
  exact inj_on_of_nodup_map hnd hitem hoth hid

theorem IsBarrier.exists_id (h : IsBarrier suspension b) {item : Value}
    (hitem : item ∈ requiredItems suspension) :
    ∃ id ∈ b.required, item.get "work_item_id" = .str id := by
  have hmem := mem_map_of_mem (f := fun value : Value => value.get "work_item_id") hitem
  rw [h.items_eq.2.2] at hmem
  obtain ⟨id, hid, heq⟩ := List.mem_map.mp hmem
  exact ⟨id, hid, heq.symm⟩

theorem equal_listOf {xs ys : List Value} (h : (listOf xs).equal (listOf ys)) :
    List.Forall₂ (fun x y => x.equal y) xs ys := by
  have hitems : ∀ zs : List Value, Json.numeric (Json.sortKeys (listOf zs).1) =
      .arr (zs.map fun z => Json.numeric (Json.sortKeys z.1)) := by
    intro zs
    show Json.numeric (Json.sortKeys (.arr (zs.map Subtype.val))) = _
    rw [Json.sortKeys, Json.numeric]
    congr 1
    induction zs with
    | nil => rfl
    | cons z zs ih => exact congrArg _ ih
  have hsame := Json.render_injective (Value.equal_iff.mp h)
  rw [hitems, hitems, Json.arr.injEq] at hsame
  clear h hitems
  induction xs generalizing ys with
  | nil =>
    rw [map_nil, eq_comm, map_eq_nil_iff] at hsame
    rw [hsame]
    exact .nil
  | cons x xs ih =>
    cases ys with
    | nil => cases hsame
    | cons y ys =>
      rw [map_cons, map_cons, List.cons.injEq] at hsame
      exact .cons (Value.equal_iff.mpr (congrArg Json.render hsame.1)) (ih hsame.2)

theorem equal_trans {u v w : Value} (huv : u.equal v) (hvw : v.equal w) :
    u.equal w :=
  Value.equal_iff.mpr ((Value.equal_iff.mp huv).trans (Value.equal_iff.mp hvw))

theorem SameSuspension.refl (v : Value) : SameSuspension v v := fun _ _ => equal_self _

theorem SameSuspension.trans {u v w : Value} (huv : SameSuspension u v)
    (hvw : SameSuspension v w) : SameSuspension u w :=
  fun field hfld => equal_trans (huv field hfld) (hvw field hfld)

theorem hasIdentity_congr {taskId : String} {item other : Value}
    (h : item.equal other) :
    hasIdentity taskId item receipt = hasIdentity taskId other receipt := by
  have hfld : ∀ k, (receipt.get k).equal (item.get k) = (receipt.get k).equal (other.get k) := by
    intro k
    rw [Value.equal, Value.equal, Value.equal_iff.mp (equal_get h k)]
  simp only [hasIdentity, Dispatch.expectedIdentity, all_cons, hfld]

theorem SameSuspension.item {b' : Barrier} (h : SameSuspension current previous)
    (hcur : IsBarrier current b') (hprev : IsBarrier previous b) {item : Value}
    (hitem : item ∈ requiredItems current) :
    ∃ other ∈ requiredItems previous, item.equal other := by
  have hitems := h "required_work_items" (by simp [identityFields])
  rw [hcur.items_eq.1, hprev.items_eq.1] at hitems
  obtain ⟨i, hi, rfl⟩ := List.mem_iff_getElem.mp hitem
  have hpairs := List.forall₂_iff_get.mp (equal_listOf hitems)
  have hlt : i < (requiredItems previous).length := hpairs.1 ▸ hi
  exact ⟨_, getElem_mem hlt, hpairs.2 i hi hlt⟩

end Items

end Valp.Wait
