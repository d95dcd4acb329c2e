/-
Equality of JSON objects, member by member.

Two objects whose members agree have the same text once their keys are sorted, so `==` and
everything that is computed from the sorted text can be checked one key at a time.

* `Value.normal_ext` — **objects with the same members are the same up to the order of keys**;
* `Value.equal_ext` — objects with equal members are equal;
* `Value.equal_set` — equal objects stay equal under an update;
* `Value.equal_isObject`, `Value.equal_has` — what `==` keeps.
-/
import Valp.JsonValue

namespace Json

open List

/-! ### Sorted members -/

section Members

variable {β : Type*} {ms ns : List (String × β)}

/-- Members that agree are the same list once they are sorted. -/
theorem insertionSort_eq_of_lookup (hms : (ms.map Prod.fst).Nodup) (hns : (ns.map Prod.fst).Nodup)
    (h : ∀ k, ms.lookup k = ns.lookup k) :
    (ms.insertionSort fun a b => a.1 ≤ b.1) = ns.insertionSort fun a b => a.1 ≤ b.1 := by
  have : Std.Total fun a b : String × β => a.1 ≤ b.1 := ⟨fun a b => le_total a.1 b.1⟩
  have : IsTrans (String × β) fun a b => a.1 ≤ b.1 := ⟨fun _ _ _ => le_trans⟩
  have hmem : ∀ m, m ∈ ms ↔ m ∈ ns := fun m => by
    rw [mem_iff_lookup hms, mem_iff_lookup hns, h]
  have hperm : ms.Perm ns :=
    (perm_ext_iff_of_nodup hms.of_map hns.of_map).mpr hmem
  have hsort : (ms.insertionSort fun a b => a.1 ≤ b.1).Perm
      (ns.insertionSort fun a b => a.1 ≤ b.1) :=
    (perm_insertionSort _ ms).trans (hperm.trans (perm_insertionSort _ ns).symm)
  refine hsort.eq_of_pairwise ?_ (pairwise_insertionSort _ ms)
    (pairwise_insertionSort _ ns)
  -- two members with one key are the same member
  intro a b ha hb hab hba
  have ha := (perm_insertionSort _ ms).mem_iff.mp ha
  have hb := (hmem b).mpr ((perm_insertionSort _ ns).mem_iff.mp hb)
  exact inj_on_of_nodup_map hms ha hb (le_antisymm hab hba)

end Members

section Erase

variable {β : Type*}

theorem lookup_eraseKey (k j : String) (ms : List (String × β)) :
    (eraseKey k ms).lookup j = if j = k then none else ms.lookup j := by
  induction ms with
  | nil => simp [eraseKey]
  | cons m ms ih =>
    rw [eraseKey] at ih ⊢
    rw [lookup_cons_if]
    by_cases hm : m.1 = k
    · rw [filter_cons_of_neg (by simpa using hm), ih]
      by_cases hj : j = k
      · rw [if_pos hj, if_pos hj]
      · rw [if_neg hj, if_neg hj, if_neg (hm ▸ hj)]
    · rw [filter_cons_of_pos (by simpa using hm), lookup_cons_if, ih]
      by_cases hj : j = m.1
      · rw [if_pos hj, if_pos hj, if_neg (hj ▸ hm)]
      · rw [if_neg hj, if_neg hj]

theorem eraseKey_setKey (k : String) (w : β) (ms : List (String × β)) :
    eraseKey k (setKey k w ms) = eraseKey k ms := by
  rw [eraseKey, eraseKey]
  induction ms with
  | nil => simp [setKey]
  | cons m ms ih =>
    rw [setKey]
    by_cases hm : m.1 = k
    · rw [if_pos hm, filter_cons_of_neg (by simp), filter_cons_of_neg (by simpa using hm)]
    · rw [if_neg hm, filter_cons_of_pos (by simpa using hm),
        filter_cons_of_pos (by simpa using hm), ih]

end Erase

theorem nodup_of_distinctKeys {members : List (String × Json)}
    (h : (Json.obj members).distinctKeys) : (members.map Prod.fst).Nodup := by
  rw [distinctKeys, Bool.and_eq_true, decide_eq_true_iff] at h
  exact h.1

namespace Value

variable {v w u v' : Value} {k : String}

theorem exists_obj (h : v.isObject) : ∃ members, v.1 = .obj members :=
  exists_members (beq_iff_eq.mp h)

/-- What the objects `v` and `w` look like through `f` agrees at every key. -/
theorem sorted_ext {f : Json → Json} (hv : v.isObject) (hw : w.isObject)
    (h : ∀ k, (v.1.member? k).map f = (w.1.member? k).map f) :
    ∃ ms ns, v.1 = .obj ms ∧ w.1 = .obj ns ∧
      ((ms.map fun m => (m.1, f m.2)).insertionSort fun a b => a.1 ≤ b.1) =
        (ns.map fun m => (m.1, f m.2)).insertionSort fun a b => a.1 ≤ b.1 := by
  obtain ⟨ms, hms⟩ := exists_obj hv
  obtain ⟨ns, hns⟩ := exists_obj hw
  refine ⟨ms, ns, hms, hns, ?_⟩
  refine insertionSort_eq_of_lookup ?_ ?_ fun k => ?_
  · rw [map_map]
    exact nodup_of_distinctKeys (hms ▸ v.2)
  · rw [map_map]
    exact nodup_of_distinctKeys (hns ▸ w.2)
  · have hk := h k
    rw [hms, hns] at hk
    rw [lookup_map_snd, lookup_map_snd]
    exact hk

/-- **Objects with the same members are the same up to the order of the keys.** -/
theorem normal_ext (hv : v.isObject) (hw : w.isObject)
    (h : ∀ k, (v.1.member? k).map sortKeys = (w.1.member? k).map sortKeys) :
    v.normal true = w.normal true := by
  obtain ⟨ms, ns, hms, hns, hsort⟩ := sorted_ext hv hw h
  refine Subtype.ext ?_
  show sortKeys v.1 = sortKeys w.1
  rw [hms, hns, sortKeys, sortKeys, sortMembers_eq_map, sortMembers_eq_map, hsort]

theorem get_set_self (h : v.isObject) (k : String) (w : Value) : (v.set k w).get k = w := by
  rw [get_set h, if_pos rfl]

theorem get_set_ne (h : v.isObject) {j k : String} (hne : j ≠ k) (w : Value) :
    (v.set k w).get j = v.get j := by
  rw [get_set h, if_neg hne]

theorem has_set_ne (h : v.isObject) {j k : String} (hne : j ≠ k) (w : Value) :
    (v.set k w).has j = v.has j := by
  rw [has_set h, decide_eq_false hne, Bool.false_or]

/-! ### Equality -/

theorem equal_comm (v w : Value) : v.equal w = w.equal v := by
  rw [Bool.eq_iff_iff, equal_iff, equal_iff, eq_comm]

theorem equal_symm (h : v.equal w) : w.equal v := (equal_comm v w).symm.trans h

theorem equal_trans (h : v.equal w) (h' : w.equal u) : v.equal u :=
  equal_iff.mpr ((equal_iff.mp h).trans (equal_iff.mp h'))

theorem equal_of_normal (h : v.normal true = w.normal true) : v.equal w := by
  have hsort : sortKeys v.1 = sortKeys w.1 := congrArg Subtype.val h
  rw [equal_iff, ← key_sortKeys, hsort, key_sortKeys]

theorem equal_has (h : v.equal w) (k : String) : v.has k = w.has k := by
  have hmember := congrArg Option.isSome (member?_of_equal h k)
  rwa [Option.isSome_map, Option.isSome_map] at hmember

theorem equal_isObject (h : v.equal w) : v.isObject = w.isObject := by
  have hshape : ∀ u : Value, u.isObject = ((numeric (sortKeys u.1)).shape == 5) := by
    rintro ⟨u, hu⟩
    cases u with
    | bool b => cases b <;> rfl
    | _ => rfl
  rw [hshape, hshape, numeric_of_equal h]

/-- **Objects with equal members are equal.** -/
theorem equal_ext (hv : v.isObject) (hw : w.isObject)
    (hhas : ∀ k, v.has k = w.has k) (hget : ∀ k, (v.get k).equal (w.get k)) :
    v.equal w := by
  have hmember : ∀ k, (v.1.member? k).map (fun m => numeric (sortKeys m)) =
      (w.1.member? k).map fun m => numeric (sortKeys m) := by
    intro k
    have hh := hhas k
    have hg := hget k
    rw [has, has] at hh
    cases hvk : v.1.member? k with
    | none =>
      rw [hvk] at hh
      rw [Option.isSome_eq_false_iff.mp hh.symm |> Option.isNone_iff_eq_none.mp]
    | some a =>
      rw [hvk] at hh
      obtain ⟨b, hwk⟩ := Option.isSome_iff_exists.mp hh.symm
      rw [hwk, Option.map_some, Option.map_some]
      have hnumeric := numeric_of_equal hg
      rw [get_of_member hvk, get_of_member hwk] at hnumeric
      rw [hnumeric]
  obtain ⟨ms, ns, hms, hns, hsort⟩ := sorted_ext (f := fun m => numeric (sortKeys m)) hv hw hmember
  -- the numbers are put in behind the sorting, which does not look at the values
  have hkey : ∀ ms : List (String × Json), numeric (sortKeys (.obj ms)) =
      .obj ((ms.map fun m => (m.1, numeric (sortKeys m.2))).insertionSort
        fun a b => a.1 ≤ b.1) := by
    intro ms
    rw [sortKeys, numeric, numericMembers_eq, sortMembers_eq_map]
    congr 1
    rw [map_insertionSort _ (fun a b : String × Json => a.1 ≤ b.1) _ _ fun _ _ _ _ => Iff.rfl,
      map_map]
    rfl
  rw [equal_iff, key, key, hms, hns, hkey, hkey, hsort]

theorem equal_set (h : v.equal w) (hv : v.isObject) (hu : u.equal v')
    (k : String) : (v.set k u).equal (w.set k v') := by
  have hw : w.isObject := (equal_isObject h).symm.trans hv
  refine equal_ext (by rw [isObject_set, hv]) (by rw [isObject_set, hw]) (fun j => ?_) fun j => ?_
  · rw [has_set hv, has_set hw, equal_has h]
  · rw [get_set hv, get_set hw]
    by_cases hj : j = k
    · rw [if_pos hj, if_pos hj]
      exact hu
    · rw [if_neg hj, if_neg hj]
      exact equal_get h j

/-! ### Taking a key out -/

/-- `{key: value for key, value in v.items() if key != k}`. -/
def without (v : Value) (k : String) : Value :=
  ⟨v.1.erase k, by
    obtain ⟨v, hv⟩ := v
    cases v with
    | obj members =>
      rw [distinctKeys, Bool.and_eq_true, decide_eq_true_iff, distinctMembers_eq_all,
        all_eq_true] at hv
      rw [erase, distinctKeys, Bool.and_eq_true, decide_eq_true_iff, distinctMembers_eq_all,
        all_eq_true]
      exact ⟨hv.1.sublist (filter_sublist.map _), fun m hm => hv.2 m (mem_of_mem_filter hm)⟩
    | _ => exact hv⟩

theorem member?_without (v : Value) (k j : String) :
    (v.without k).1.member? j = if j = k then none else v.1.member? j := by
  obtain ⟨v, hv⟩ := v
  cases v with
  | obj members => exact lookup_eraseKey k j members
  | _ => simp [without, erase, member?]

theorem has_without (v : Value) (k : String) : (v.without k).has k = false := by
  rw [has, member?_without, if_pos rfl]
  rfl

/-- An update of a key is lost with the key. -/
theorem erase_set (hv : v.isObject) (k : String) (w : Value) :
    (v.set k w).1.erase k = v.1.erase k := by
  obtain ⟨v, hdist⟩ := v
  cases v with
  | obj members => exact congrArg Json.obj (eraseKey_setKey k w.1 members)
  | bool b => cases b <;> cases hv
  | _ => cases hv

/-- A key may be taken out before or after the keys are sorted. -/
theorem normal_without (v : Value) (k : String) :
    ((v.normal true).without k).normal true = (v.without k).normal true := by
  obtain ⟨v, hv⟩ := v
  cases v with
  | obj members =>
    refine normal_ext rfl rfl fun j => ?_
    rw [member?_without, member?_without, val_normal, member?_sortKeys]
    split_ifs with hj
    · rfl
    · rw [Option.map_map]
      exact congrArg (Option.map · _) (funext sortKeys_sortKeys)
  | _ => exact Subtype.ext (sortKeys_sortKeys _)

end Value

end Json
