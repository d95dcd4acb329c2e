/-
JSON values as Python handles them.

A value is read by `get`, compared by `==`, tested for truth and asked for its type.  Two
dictionaries are equal whatever the order of their keys, and `True` is equal to `1`, so what
`==` compares is a normal form, `Json.key`.

* `Value.get_dict` — a member of a dictionary display is read back;
* `Value.get_normal` — reading a member does not depend on the order of the keys;
* `Value.equal_str` — only a string is equal to a string;
* `Value.get_set` — reading a dictionary behind an update.
-/
import Valp.JsonLines

namespace Json

open List

/-! ### Equality -/

mutual

/-- The value with numbers for its truth values. -/
def numeric : Json → Json
  | .null => .null
  | .bool b => .int (if b then 1 else 0)
  | .int n => .int n
  | .str s => .str s
  | .arr items => .arr (numericItems items)
  | .obj members => .obj (numericMembers members)

def numericItems : List Json → List Json
  | [] => []
  | v :: vs => numeric v :: numericItems vs

def numericMembers : List (String × Json) → List (String × Json)
  | [] => []
  | (k, v) :: ms => (k, numeric v) :: numericMembers ms

end

/-- What `==` compares. -/
def key (v : Json) : List Char := render (numeric (sortKeys v))

theorem key_sortKeys (v : Json) : key (sortKeys v) = key v := by
  rw [key, sortKeys_sortKeys, key]

variable {s : String}

theorem key_eq_str {v : Json} : key v = key (.str s) ↔ v = .str s := by
  constructor
  · intro h
    have hvalue : numeric (sortKeys v) = .str s := render_injective h
    cases v with
    | str t =>
      rw [sortKeys, numeric] at hvalue
      exact hvalue
    | null => rw [sortKeys, numeric] at hvalue; cases hvalue
    | bool b => rw [sortKeys, numeric] at hvalue; cases hvalue
    | int n => rw [sortKeys, numeric] at hvalue; cases hvalue
    | arr items => rw [sortKeys, numeric] at hvalue; cases hvalue
    | obj members => rw [sortKeys, numeric] at hvalue; cases hvalue
  · rintro rfl
    rfl

theorem numericMembers_eq (ms : List (String × Json)) :
    numericMembers ms = ms.map fun m => (m.1, numeric m.2) := by
  induction ms with
  | nil => rfl
  | cons m ms ih => rw [numericMembers, ih, map_cons]

theorem member?_numeric (v : Json) (k : String) :
    (numeric v).member? k = (v.member? k).map numeric := by
  cases v with
  | obj members =>
    rw [numeric, member?, member?, numericMembers_eq, lookup_map_snd]
  | _ => rfl

/-! ### Objects without one of their keys -/

section Erase

variable {β : Type*}

/-- The members of an object without one key. -/
def eraseKey (k : String) (members : List (String × β)) : List (String × β) :=
  members.filter fun m => m.1 ≠ k

/-- `{key: value for key, value in v.items() if key != k}`. -/
def erase (k : String) : Json → Json
  | .obj members => .obj (eraseKey k members)
  | v => v

end Erase

/-! ### Values -/

variable {k : String}

theorem distinctKeys_member {v w : Json} (hv : v.distinctKeys)
    (hw : v.member? k = some w) : w.distinctKeys := by
  cases v with
  | obj members =>
    rw [distinctKeys, Bool.and_eq_true, distinctMembers_eq_all, all_eq_true] at hv
    exact hv.2 (k, w) (mem_of_lookup hw)
  | _ => cases hw

namespace Value

def null : Value := ⟨.null, rfl⟩

def bool (b : Bool) : Value := ⟨.bool b, rfl⟩

def int (n : Int) : Value := ⟨.int n, rfl⟩

def str (s : String) : Value := ⟨.str s, rfl⟩

/-- A dictionary display. -/
def dict (fields : List (String × Value)) (h : (fields.map Prod.fst).Nodup) : Value :=
  ⟨.obj (fields.map fun f => (f.1, f.2.1)), by
    rw [distinctKeys, Bool.and_eq_true, distinctMembers_eq_all, all_eq_true]
    refine ⟨decide_eq_true (by rwa [map_map]), fun m hm => ?_⟩
    obtain ⟨f, -, rfl⟩ := mem_map.mp hm
    exact f.2.2⟩

/-- `isinstance(v, dict)`. -/
def isObject (v : Value) : Bool := v.1.shape == 5

/-- `v is None`. -/
def isNone (v : Value) : Bool :=
  match v.1 with
  | .null => true
  | _ => false

/-- `v.get(k)`. -/
def get (v : Value) (k : String) : Value :=
  match h : v.1.member? k with
  | none => null
  | some w => ⟨w, distinctKeys_member v.2 h⟩

/-- `k in v`. -/
def has (v : Value) (k : String) : Bool := (v.1.member? k).isSome

/-- `set(v)`. -/
def keys (v : Value) : List String := v.1.keys

/-- `v == w`. -/
def equal (v w : Value) : Bool := v.1.key == w.1.key

/-- `bool(v)`. -/
def truthy (v : Value) : Bool :=
  match v.1 with
  | .null => false
  | .bool b => b
  | .int n => n != 0
  | .str s => s != ""
  | .arr items => !items.isEmpty
  | .obj members => !members.isEmpty

/-- The number that a value is if `isinstance(v, int)`. -/
def asInt (v : Value) : Option Int :=
  match v.1 with
  | .int n => some n
  | .bool b => some (if b then 1 else 0)
  | _ => none

variable {v : Value}

theorem val_get (v : Value) (k : String) : (v.get k).1 = (v.1.member? k).getD .null := by
  rw [get]
  split
  case h_1 hnone => exact (congrArg (Option.getD · Json.null) hnone).symm
  case h_2 w hw => exact (congrArg (Option.getD · Json.null) hw).symm

theorem get_of_member {w : Json} (h : v.1.member? k = some w) : (v.get k).1 = w := by
  rw [val_get, h, Option.getD_some]

theorem get_of_none (h : v.1.member? k = none) : v.get k = null := by
  refine Subtype.ext ?_
  rw [val_get, h]
  rfl

variable {fields : List (String × Value)}

/-- **A member of a dictionary display is read back.** -/
theorem get_dict {h : (fields.map Prod.fst).Nodup} (hmem : (k, v) ∈ fields) :
    (dict fields h).get k = v := by
  have hkeys : ((fields.map fun f => (f.1, f.2.1)).map Prod.fst).Nodup := by rwa [map_map]
  exact Subtype.ext (get_of_member ((mem_iff_lookup hkeys).mp
    (mem_map_of_mem (f := fun f : String × Value => (f.1, f.2.1)) hmem)))

theorem erase_dict
    {h : ((fields ++ [(k, v)]).map Prod.fst).Nodup} {h' : (fields.map Prod.fst).Nodup} :
    (dict (fields ++ [(k, v)]) h).1.erase k = (dict fields h').1 := by
  have hnew : ∀ f ∈ fields, f.1 ≠ k := by
    rintro f hf rfl
    rw [map_append, nodup_append] at h
    exact h.2.2 f.1 (mem_map_of_mem hf) f.1 (by simp) rfl
  rw [dict, dict, erase, eraseKey, map_append, filter_append]
  congr 1
  rw [filter_eq_self.mpr, filter_eq_nil_iff.mpr, append_nil]
  · simp
  · intro m hm
    obtain ⟨f, hf, rfl⟩ := mem_map.mp hm
    simpa using hnew f hf

theorem val_normal (v : Value) : (v.normal true).1 = sortKeys v.1 := rfl

theorem get_normal (v : Value) (k : String) : (v.normal true).get k = (v.get k).normal true := by
  refine Subtype.ext ?_
  rw [val_get, val_normal, val_normal, val_get, member?_sortKeys]
  cases v.1.member? k <;> rfl

theorem has_normal (v : Value) (k : String) : (v.normal true).has k = v.has k := by
  rw [has, has, val_normal, member?_sortKeys, Option.isSome_map]

theorem normal_dict {h : (fields.map Prod.fst).Nodup}
    {h' : ((fields.map fun f => (f.1, f.2.normal true)).map Prod.fst).Nodup} :
    (dict (fields.map fun f => (f.1, f.2.normal true)) h').normal true =
      (dict fields h).normal true := by
  refine Subtype.ext ?_
  rw [val_normal, val_normal, dict, dict, sortKeys, sortKeys, sortMembers_eq_map,
    sortMembers_eq_map]
  simp only [map_map, Function.comp_def, val_normal, sortKeys_sortKeys]

variable {w : Value}

@[simp] theorem equal_iff : v.equal w ↔ v.1.key = w.1.key := by
  rw [equal, beq_iff_eq]

@[simp] theorem equal_self (v : Value) : v.equal v := equal_iff.mpr rfl

theorem equal_of_eq {v w u : Value} (hv : v = u) (hw : w = u) : v.equal w := by
  rw [hv, hw, equal_self]

theorem equal_normal (v w : Value) : (v.normal true).equal w = v.equal w := by
  rw [equal, equal, val_normal, key_sortKeys]

theorem equal_str : v.equal (str s) ↔ v = str s := by
  rw [equal_iff]
  exact key_eq_str.trans ⟨fun h => Subtype.ext h, fun h => congrArg Subtype.val h⟩

@[simp] theorem str_inj {a b : String} : str a = str b ↔ a = b :=
  ⟨fun h => Json.str.inj (congrArg Subtype.val h), fun h => h ▸ rfl⟩

theorem equal_str_str (a b : String) : (str a).equal (str b) = decide (a = b) := by
  rw [Bool.eq_iff_iff, equal_str, decide_eq_true_iff, str_inj]

theorem equal_int_int (m n : Int) : (int m).equal (int n) = decide (m = n) := by
  rw [Bool.eq_iff_iff, equal_iff, decide_eq_true_iff]
  exact ⟨fun h => Json.int.inj (render_injective h), fun h => h ▸ rfl⟩

theorem numeric_of_equal (h : v.equal w) :
    numeric (sortKeys v.1) = numeric (sortKeys w.1) :=
  render_injective (equal_iff.mp h)

theorem member?_of_equal (h : v.equal w) (k : String) :
    (v.1.member? k).map (fun m => numeric (sortKeys m)) =
      (w.1.member? k).map fun m => numeric (sortKeys m) := by
  have hkey : ∀ u : Value, (numeric (sortKeys u.1)).member? k =
      (u.1.member? k).map fun m => numeric (sortKeys m) := by
    intro u
    rw [member?_numeric, member?_sortKeys, Option.map_map]
    rfl
  rw [← hkey, ← hkey, numeric_of_equal h]

theorem equal_get (h : v.equal w) (k : String) : (v.get k).equal (w.get k) := by
  have hvalue : ∀ u : Value, numeric (sortKeys (u.get k).1) =
      ((u.1.member? k).map fun m => numeric (sortKeys m)).getD .null := by
    intro u
    rw [val_get]
    cases u.1.member? k <;> rfl
  rw [equal_iff, key, key, hvalue, hvalue, member?_of_equal h]

/-! ### Values that a line keeps together -/

/-- No string of the value holds a line boundary outside ASCII. -/
def Clean (v : Value) : Prop := ∀ c ∈ v.1.characters, c ∉ JsonLines.wideBoundaries

instance (v : Value) : Decidable v.Clean :=
  inferInstanceAs (Decidable (∀ c ∈ v.1.characters, c ∉ JsonLines.wideBoundaries))

theorem Clean.get (h : v.Clean) (k : String) : (v.get k).Clean := by
  cases hmember : v.1.member? k with
  | none =>
    rw [get_of_none hmember]
    intro c hc
    cases hc
  | some w =>
    intro c hc
    rw [get_of_member hmember] at hc
    refine h c ?_
    cases hv : v.1 with
    | obj members =>
      rw [hv] at hmember
      rw [characters, memberCharacters_eq, mem_flatMap]
      exact ⟨(k, w), mem_of_lookup hmember, mem_append_right _ hc⟩
    | _ =>
      rw [hv] at hmember
      cases hmember

theorem clean_str_iff : (str s).Clean ↔ ∀ c ∈ s.toList, c ∉ JsonLines.wideBoundaries :=
  Iff.rfl

theorem clean_str_of_ascii (h : ∀ c ∈ s.toList, c.toNat < 128) : (str s).Clean := by
  have hwide : ∀ c ∈ JsonLines.wideBoundaries, 128 ≤ c.toNat := by decide
  intro c hc hbdry
  exact absurd (h c hc) (Nat.not_lt.mpr (hwide c hbdry))

theorem clean_int (n : Int) : (int n).Clean := by
  intro c hc
  cases hc

theorem clean_dict {hnd : (fields.map Prod.fst).Nodup}
    (h : ∀ f ∈ fields, (str f.1).Clean ∧ f.2.Clean) : (dict fields hnd).Clean := by
  intro c hc
  rw [dict, characters, memberCharacters_eq, mem_flatMap] at hc
  obtain ⟨m, hm, hc⟩ := hc
  obtain ⟨f, hf, rfl⟩ := mem_map.mp hm
  rcases mem_append.mp hc with hkey | hvalue
  · exact (h f hf).1 c hkey
  · exact (h f hf).2 c hvalue

end Value

/-! ### Updates -/

section Set

variable {β : Type*}

/-- The members of an object behind `v[k] = w`. -/
def setKey (k : String) (w : β) : List (String × β) → List (String × β)
  | [] => [(k, w)]
  | m :: ms => if m.1 = k then (k, w) :: ms else m :: setKey k w ms

theorem lookup_setKey (k j : String) (w : β) (ms : List (String × β)) :
    (setKey k w ms).lookup j = if j = k then some w else ms.lookup j := by
  induction ms with
  | nil =>
    rw [setKey, lookup_cons_if]
  | cons m ms ih =>
    rw [setKey]
    by_cases hm : m.1 = k
    · rw [if_pos hm, lookup_cons_if, lookup_cons_if]
      by_cases hj : j = k
      · rw [if_pos hj, if_pos hj]
      · rw [if_neg hj, if_neg hj, if_neg (hm ▸ hj)]
    · rw [if_neg hm, lookup_cons_if, lookup_cons_if, ih]
      by_cases hj : j = m.1
      · rw [if_pos hj, if_pos hj, if_neg (hj ▸ hm)]
      · rw [if_neg hj, if_neg hj]

theorem mem_setKey {w : β} {m : String × β} {ms : List (String × β)}
    (h : m ∈ setKey k w ms) : m = (k, w) ∨ m ∈ ms := by
  induction ms with
  | nil => exact .inl (mem_singleton.mp h)
  | cons first ms ih =>
    rw [setKey] at h
    split at h
    · rcases mem_cons.mp h with heq | htail
      · exact .inl heq
      · exact .inr (mem_cons_of_mem _ htail)
    · rcases mem_cons.mp h with heq | htail
      · exact .inr (heq ▸ mem_cons_self)
      · exact (ih htail).imp_right (mem_cons_of_mem _)

theorem nodup_setKey (k : String) (w : β) {ms : List (String × β)}
    (h : (ms.map Prod.fst).Nodup) : ((setKey k w ms).map Prod.fst).Nodup := by
  induction ms with
  | nil => simp [setKey]
  | cons m ms ih =>
    rw [map_cons, nodup_cons] at h
    rw [setKey]
    split
    · rename_i hm
      rw [map_cons, nodup_cons]
      exact ⟨hm ▸ h.1, h.2⟩
    rename_i hm
    rw [map_cons, nodup_cons]
    refine ⟨fun hmem => ?_, ih h.2⟩
    obtain ⟨other, hoth, hsame⟩ := mem_map.mp hmem
    rcases mem_setKey hoth with rfl | hold
    · exact hm hsame.symm
    · exact h.1 (hsame ▸ mem_map_of_mem hold)

end Set

namespace Value

/-- `v[k] = w` of a dictionary. -/
def set (v : Value) (k : String) (w : Value) : Value :=
  match h : v.1 with
  | .obj members => ⟨.obj (setKey k w.1 members), by
      have hv := v.2
      rw [h, distinctKeys, Bool.and_eq_true, decide_eq_true_iff, distinctMembers_eq_all,
        all_eq_true] at hv
      rw [distinctKeys, Bool.and_eq_true, decide_eq_true_iff, distinctMembers_eq_all, all_eq_true]
      refine ⟨nodup_setKey k w.1 hv.1, fun m hm => ?_⟩
      rcases mem_setKey hm with rfl | hold
      · exact w.2
      · exact hv.2 m hold⟩
  | _ => v

variable {v : Value}

/-- `v.setdefault(k, w)`. -/
def setDefault (v : Value) (k : String) (w : Value) : Value := if v.has k then v else v.set k w

theorem member?_set (h : v.isObject) (k j : String) (w : Value) :
    (v.set k w).1.member? j = if j = k then some w.1 else v.1.member? j := by
  obtain ⟨v, hv⟩ := v
  cases v with
  | obj members => exact lookup_setKey k j w.1 members
  | bool b => cases b <;> cases h
  | _ => cases h

@[simp] theorem isObject_set (v : Value) (k : String) (w : Value) :
    (v.set k w).isObject = v.isObject := by
  obtain ⟨v, hv⟩ := v
  cases v <;> rfl

/-- **Reading a dictionary behind an update.** -/
theorem get_set (h : v.isObject) (k j : String) (w : Value) :
    (v.set k w).get j = if j = k then w else v.get j := by
  refine Subtype.ext ?_
  rw [val_get, member?_set h]
  split_ifs with hj
  · rfl
  · rw [val_get]

theorem has_set (h : v.isObject) (k j : String) (w : Value) :
    (v.set k w).has j = (decide (j = k) || v.has j) := by
  rw [has, has, member?_set h]
  by_cases hj : j = k
  · simp [hj]
  · simp [hj]

theorem mem_keys_iff {k : String} : k ∈ v.keys ↔ v.has k := by
  obtain ⟨v, hv⟩ := v
  rw [keys, has]
  cases v with
  | obj members =>
    show k ∈ members.map Prod.fst ↔ (members.lookup k).isSome = true
    rw [← Option.ne_none_iff_isSome, Ne, lookup_eq_none_iff]
    simp only [mem_map, not_forall]
    constructor
    · rintro ⟨m, hm, rfl⟩
      exact ⟨m, hm, by simp⟩
    · rintro ⟨m, hm, hk⟩
      refine ⟨m, hm, ?_⟩
      rw [bne_iff_ne, not_not] at hk
      exact hk.symm
  | _ => exact iff_of_false (not_mem_nil) (by simp [member?])

theorem isObject_setDefault (h : v.isObject) (k : String) (w : Value) :
    (v.setDefault k w).isObject := by
  rw [setDefault]
  split
  · exact h
  · rw [isObject_set, h]

theorem get_setDefault_ne (h : v.isObject) {k j : String} (hj : j ≠ k)
    (w : Value) : (v.setDefault k w).get j = v.get j := by
  rw [setDefault]
  split
  · rfl
  · rw [get_set h, if_neg hj]

end Value

end Json
