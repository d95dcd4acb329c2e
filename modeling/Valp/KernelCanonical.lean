/-
Canonical texts determine what they are the text of.

`reduce` recognises a duplicate by the digest of the canonical text of its input.
This file says what that text pins down: the Event, field by field, and the
evidence as a set, since `_canonical_evidence` sorts it.

* `Event.canonical_injective` — Events without unknown values that have the same
  text are equal;
* `canonicalEvidence_eq_of_perm`, `perm_of_canonicalEvidence` — two evidence sets
  have the same canonical form exactly when one is a permutation of the other;
* `inputPayload_injective` — the text of an input determines its Event, and its
  evidence up to order.
-/
import Mathlib.Data.List.Perm.Basic
import Valp.KernelReduce

namespace Valp.Kernel

open List

/-! ### Vocabularies -/

theorem injective_of_nodup_map {α β : Type*} {f : α → β} (members : List α)
    (hall : ∀ a, a ∈ members) (hnd : (members.map f).Nodup) : Function.Injective f :=
  fun a b h => inj_on_of_nodup_map hnd (hall a) (hall b) h

def IdentityKind.all : List IdentityKind :=
  [.installation, .task, .workItem, .attempt, .dispatch, .event, .evidence, .receipt, .claim,
    .result, .suspension, .waitPolicy, .wake, .principal, .interrupt, .redirect]

theorem IdentityKind.mem_all (a : IdentityKind) : a ∈ IdentityKind.all := by
  cases a <;> decide

theorem IdentityKind.value_injective : Function.Injective IdentityKind.value :=
  injective_of_nodup_map IdentityKind.all IdentityKind.mem_all (by decide +kernel)

def EventKind.all : List EventKind :=
  [.routingValidationStarted, .routingValidationPassed, .dispatchAccepted, .workCompleted,
    .verificationPassed, .verificationFailed, .reviewPassed, .reviewRejected,
    .approvalRequiredRaised, .fixDispatchRequested, .approvalGranted, .approvalDenied,
    .recordingCompleted, .taskBlocked, .blockedRecoveryToFixing, .taskFailed, .taskCancelled,
    .workItemEligible, .attemptCreated, .attemptCompleted, .attemptFenced, .attemptSubmitted,
    .attemptRunning, .attemptFailed, .attemptCancelled, .workItemPartial, .workItemDegraded,
    .workItemBlocked, .workItemFailed, .workItemCancelled, .workItemSkipped, .suspensionStarted,
    .wakeAccepted, .interruptRequested, .interruptResumed, .redirectAuthorized]

theorem EventKind.mem_all (a : EventKind) : a ∈ EventKind.all := by
  cases a <;> decide

theorem EventKind.value_injective : Function.Injective EventKind.value :=
  injective_of_nodup_map EventKind.all EventKind.mem_all (by decide +kernel)

theorem WakeReason.value_injective : Function.Injective WakeReason.value :=
  fun a b _ => by cases a; cases b; rfl

theorem ControlReason.value_injective : Function.Injective ControlReason.value := by
  intro a b
  cases a <;> cases b <;> decide

theorem CancellationScope.value_injective : Function.Injective CancellationScope.value := by
  intro a b
  cases a <;> cases b <;> decide

variable {α : Type} {e e' : Event}

/-- An unknown value may be written like a known one; two known values are not. -/
theorem Closed.text_injective {value : α → String} (hv : Function.Injective value)
    {c d : Closed α} (hc : c.isKnown) (hd : d.isKnown)
    (h : c.text value = d.text value) : c = d := by
  obtain ⟨a, rfl⟩ := Closed.isKnown_iff.mp hc
  obtain ⟨b, rfl⟩ := Closed.isKnown_iff.mp hd
  rw [hv h]

/-! ### Records -/

theorem int_injective : Function.Injective fun n : Int => (Json.int n).sortKeys :=
  fun _ _ h => Json.int.inj h

theorem str_injective : Function.Injective fun t : String => (Json.str t).sortKeys :=
  fun _ _ h => Json.str.inj h

theorem strings_injective {xs ys : List String}
    (h : (Json.arr (xs.map .str)).sortKeys = (Json.arr (ys.map .str)).sortKeys) : xs = ys := by
  rw [Json.sortKeys, Json.sortKeys, Json.sortItems_eq_map, Json.sortItems_eq_map,
    Json.arr.injEq, map_map, map_map] at h
  exact List.map_injective_iff.mpr str_injective h

theorem Identity.canonical_injective :
    Function.Injective fun i : Identity => i.canonical.sortKeys := by
  intro i j h
  simp only [Identity.canonical] at h
  obtain ⟨hkind, hvalue, -⟩ := Json.record_injective (by rfl) (by simp) h
  obtain ⟨kind, value, _⟩ := i
  obtain ⟨kind', value', _⟩ := j
  obtain rfl : kind = kind' := IdentityKind.value_injective (str_injective hkind)
  obtain rfl : value = value' := str_injective hvalue
  rfl

theorem Evidence.canonical_injective :
    Function.Injective fun v : Evidence => v.canonical.sortKeys := by
  intro v w h
  simp only [Evidence.canonical] at h
  obtain ⟨-, hid, hdig, -⟩ := Json.record_injective (by rfl) (by simp) h
  obtain ⟨id, digest⟩ := v
  obtain ⟨id', digest'⟩ := w
  obtain rfl : id = id' := Identity.canonical_injective hid
  obtain rfl : digest = digest' := str_injective hdig
  rfl

/-- An optional field determines its value if the value's text does. -/
theorem map_sortKeys_injective {f : α → Json}
    (hf : Function.Injective fun a => (f a).sortKeys) {o o' : Option α}
    (h : Json.SameField (o.map f) (o'.map f)) : o = o' := by
  rw [Json.sameField_iff, Option.map_map, Option.map_map] at h
  exact Option.map_injective hf h

theorem canonicalIds_injective {ids ids' : List Identity}
    (h : Json.SameField (canonicalIds ids) (canonicalIds ids')) : ids = ids' := by
  rw [Json.sameField_iff, canonicalIds, canonicalIds] at h
  by_cases hnil : ids = [] <;> by_cases hnil' : ids' = []
  · rw [hnil, hnil']
  · simp [hnil, hnil'] at h
  · simp [hnil, hnil'] at h
  · simp only [hnil, hnil', if_false, Option.map_some, Option.some.injEq, Json.sortKeys,
      Json.sortItems_eq_map, Json.arr.injEq, map_map] at h
    exact List.map_injective_iff.mpr Identity.canonical_injective h

theorem Closed.map_text_injective {value : α → String}
    (hv : Function.Injective value) {c d : Option (Closed α)}
    (hc : c.any (fun r => !r.isKnown) = false) (hd : d.any (fun r => !r.isKnown) = false)
    (h : Json.SameField (c.map fun r => Json.str (r.text value))
      (d.map fun r => Json.str (r.text value))) : c = d := by
  rw [Json.sameField_iff, Option.map_map, Option.map_map] at h
  cases c with
  | none => exact (Option.map_eq_none_iff.mp h.symm).symm
  | some a =>
    obtain ⟨b, rfl, htext⟩ := Option.map_eq_some_iff.mp h.symm
    rw [Closed.text_injective hv (by simpa using hc) (by simpa using hd)
      (str_injective htext.symm)]

/-- **Events without unknown values that have the same text are equal.** -/
theorem Event.canonical_injective (hk : e.kind.isKnown)
    (hk' : e'.kind.isKnown) (hu : hasUnknownEnum e = false)
    (hu' : hasUnknownEnum e' = false) (h : e.canonical.sortKeys = e'.canonical.sortKeys) :
    e = e' := by
  rw [Event.canonical, Event.canonical] at h
  obtain ⟨-, heventId, hinst, hep, htask, hkind, hrev, hitem, hatt, hdisp,
    hsusp, hpol, hwake, hprin, hauth, hintr, hredirect, hgen,
    hsuspensionEpoch, hpolicyDigest, hreq, hrsn, hctrl, hscope, hintent, hnext,
    hsup, -⟩ := Json.record_injective (by rfl) (by simp only [List.map]; decide) h
  simp only [hasUnknownEnum, Bool.or_eq_false_iff] at hu hu'
  cases e
  cases e'
  rw [Event.mk.injEq]
  refine ⟨Identity.canonical_injective heventId, Identity.canonical_injective hinst,
    int_injective hep, Identity.canonical_injective htask,
    Closed.text_injective EventKind.value_injective hk hk' (str_injective hkind),
    int_injective hrev, map_sortKeys_injective Identity.canonical_injective hitem,
    map_sortKeys_injective Identity.canonical_injective hatt,
    map_sortKeys_injective Identity.canonical_injective hdisp,
    map_sortKeys_injective int_injective hgen,
    map_sortKeys_injective Identity.canonical_injective hsusp,
    map_sortKeys_injective int_injective hsuspensionEpoch,
    map_sortKeys_injective Identity.canonical_injective hpol,
    map_sortKeys_injective str_injective hpolicyDigest, canonicalIds_injective hreq,
    map_sortKeys_injective Identity.canonical_injective hwake,
    Closed.map_text_injective WakeReason.value_injective hu.1.1 hu'.1.1 hrsn,
    map_sortKeys_injective Identity.canonical_injective hprin,
    map_sortKeys_injective Identity.canonical_injective hauth,
    Closed.map_text_injective ControlReason.value_injective hu.1.2 hu'.1.2 hctrl,
    Closed.map_text_injective CancellationScope.value_injective hu.2 hu'.2 hscope,
    map_sortKeys_injective Identity.canonical_injective hintr,
    map_sortKeys_injective Identity.canonical_injective hredirect,
    map_sortKeys_injective int_injective hintent, map_sortKeys_injective int_injective hnext,
    canonicalIds_injective hsup⟩

/-! ### Inputs -/

variable {E E' : List Evidence}

/-- **The order of the evidence does not matter.** -/
theorem canonicalEvidence_eq_of_perm (h : E'.Perm E) :
    canonicalEvidence E' = canonicalEvidence E := by
  have hsort : ∀ F, (canonicalEvidence F).Pairwise fun a b =>
      canonicalJson a ≤ canonicalJson b := fun F => by
    have : Std.Total fun a b : Json => canonicalJson a ≤ canonicalJson b :=
      ⟨fun a b => le_total _ _⟩
    have : IsTrans Json fun a b => canonicalJson a ≤ canonicalJson b :=
      ⟨fun a b c => le_trans⟩
    exact pairwise_insertionSort _ _
  have hmem : ∀ F, ∀ a ∈ canonicalEvidence F, ∃ v : Evidence, v.canonical = a := by
    intro F a ha
    rw [canonicalEvidence, mem_insertionSort] at ha
    obtain ⟨v, -, hv⟩ := mem_map.mp ha
    exact ⟨v, hv⟩
  have hperm : (canonicalEvidence E').Perm (canonicalEvidence E) :=
    (perm_insertionSort _ _).trans
      ((h.map _).trans (perm_insertionSort _ _).symm)
  refine List.Perm.eq_of_pairwise ?_ (hsort E') (hsort E) hperm
  -- the order is not antisymmetric on all values, but it is on the forms of evidence
  intro a b ha hb hab hba
  obtain ⟨v, rfl⟩ := hmem E' a ha
  obtain ⟨w, rfl⟩ := hmem E b hb
  rw [Evidence.canonical_injective (canonicalJson_injective (le_antisymm hab hba))]

theorem perm_of_canonicalEvidence
    (h : (Json.arr (canonicalEvidence E')).sortKeys = (Json.arr (canonicalEvidence E)).sortKeys) :
    E'.Perm E := by
  rw [Json.sortKeys, Json.sortKeys, Json.sortItems_eq_map, Json.sortItems_eq_map,
    Json.arr.injEq] at h
  have hforms : ∀ F, ((canonicalEvidence F).map Json.sortKeys).Perm
      (F.map fun v => v.canonical.sortKeys) := by
    intro F
    have hperm := (perm_insertionSort (fun a b => canonicalJson a ≤ canonicalJson b)
      (F.map Evidence.canonical)).map Json.sortKeys
    rwa [map_map] at hperm
  refine (map_perm_map_iff Evidence.canonical_injective).mp ?_
  exact (hforms E').symm.trans ((List.Perm.of_eq h).trans (hforms E))

/-- **What the text of an input determines.** -/
theorem inputPayload_injective {s s' : State}
    (h : canonicalJson (inputPayload s' e' E') = canonicalJson (inputPayload s e E)) :
    e'.canonical.sortKeys = e.canonical.sortKeys ∧ E'.Perm E := by
  have hsort := canonicalJson_injective h
  rw [inputPayload, inputPayload] at hsort
  obtain ⟨-, hev, hevid, -⟩ := Json.record_injective (by rfl) (by simp) hsort
  exact ⟨hev, perm_of_canonicalEvidence hevid⟩

end Valp.Kernel
