/-
Tables: lists of rows that are found by a key.

A table is a list whose rows carry a key.  Programs update one in three ways that
look different: they overwrite the row at the first matching index, they splice a
new row between two slices, or they rebuild the list row by row.  When the keys
are distinct all of them are a `map` that keeps the keys, and looking up after
such a `map` is looking up before it.

* `get_map` — lookup after a key-preserving rebuild;
* `mem_iff_get` — with distinct keys, the rows are what lookup finds;
* `nodup_concat` — a row with a new key keeps the keys distinct;
* `splice_eq_map` — replacing the first matching row is a key-preserving rebuild;
* `get_reverse` — a dictionary built from the rows finds the same row.
-/
import Mathlib.Data.List.Nodup
import Mathlib.Tactic.Common

namespace Table

open List

variable {κ ω : Type*} {key : ω → κ}

theorem map_key_map {f : ω → ω} (hf : ∀ w, key (f w) = key w) (rows : List ω) :
    (rows.map f).map key = rows.map key := by
  rw [map_map]
  exact map_congr_left fun w _ => hf w

variable {rows : List ω} {w : ω}

theorem nodup_concat (hrows : (rows.map key).Nodup)
    (hw : key w ∉ rows.map key) : ((rows ++ [w]).map key).Nodup := by
  rw [map_append, map_singleton, ← concat_eq_append]
  exact hrows.concat hw

variable [DecidableEq κ]

/-- The first row with the key `k`. -/
def get (key : ω → κ) (rows : List ω) (k : κ) : Option ω := rows.find? fun w => key w == k

theorem key_of_get {k : κ} (h : get key rows k = some w) : key w = k := by
  simpa using find?_some h

theorem mem_of_get {k : κ} (h : get key rows k = some w) : w ∈ rows :=
  mem_of_find?_eq_some h

/-- **Lookup after a rebuild** that keeps the keys. -/
theorem get_map {f : ω → ω} (hf : ∀ w, key (f w) = key w) (rows : List ω) (k : κ) :
    get key (rows.map f) k = (get key rows k).map f := by
  rw [get, get, find?_map]
  congr 2
  funext w
  rw [Function.comp_apply, hf]

/-- **With distinct keys the rows are what lookup finds.** -/
theorem mem_iff_get (hrows : (rows.map key).Nodup) : w ∈ rows ↔ get key rows (key w) = some w := by
  refine ⟨fun hw => ?_, mem_of_get⟩
  cases h : get key rows (key w) with
  | none =>
    have hnone := List.find?_eq_none.mp h w hw
    simp at hnone
  | some v => rw [inj_on_of_nodup_map hrows (mem_of_get h) hw (key_of_get h)]

/-- A dictionary filled row by row keeps the last row of a key; with distinct keys
that is the first one as well. -/
theorem get_reverse (hrows : (rows.map key).Nodup) (k : κ) :
    get key rows.reverse k = get key rows k := by
  have hrev : (rows.reverse.map key).Nodup := by
    rw [map_reverse]
    exact nodup_reverse.mpr hrows
  refine Option.ext fun w => ⟨fun h => ?_, fun h => ?_⟩
  · have hk := key_of_get h
    rw [← hk]
    exact (mem_iff_get hrows).mp (mem_reverse.mp (mem_of_get h))
  · have hk := key_of_get h
    rw [← hk]
    exact (mem_iff_get hrev).mp (mem_reverse.mpr (mem_of_get h))

/-- **Replacing a row** between two slices rebuilds the table: every row with its
key, that is this one row, becomes `next`. -/
theorem splice_eq_map (hrows : (rows.map key).Nodup) {i : ℕ} (next : ω) (hw : rows[i]? = some w) :
    rows.take i ++ [next] ++ rows.drop (i + 1) =
      rows.map fun v => if key v = key w then next else v := by
  induction rows generalizing i with
  | nil => simp at hw
  | cons v rows ih =>
    rw [map_cons, nodup_cons] at hrows
    rcases i with _ | i
    · obtain rfl : v = w := by simpa using hw
      have hrest : rows.map (fun u => if key u = key v then next else u) = rows := by
        refine (map_congr_left fun u hu => ?_).trans (map_id rows)
        have hne : key u ≠ key v := fun heq => hrows.1 (heq ▸ mem_map_of_mem hu)
        exact if_neg hne
      simp [hrest]
    · rw [getElem?_cons_succ] at hw
      have hne : key v ≠ key w := fun heq =>
        hrows.1 (heq ▸ mem_map_of_mem (mem_of_getElem? hw))
      have hrest := ih hrows.2 hw
      simp only [take_succ_cons, drop_succ_cons, cons_append, map_cons, if_neg hne, hrest]

end Table
