/-
JSON values and their compact text.

`render` prints a value the way `json.dumps(value, separators=(",", ":"),
ensure_ascii=False)` does; `sortKeys` orders the members of every object by key,
so `render (sortKeys v)` is the text with `sort_keys=True`.  Objects are lists of
members, and `record` builds one from fields that may be absent.

* `lookup_sortKeys` — sorting the keys changes no lookup;
* `sortKeys_sortKeys`, `Reorders` — the order of the members is immaterial to a reader;
* `record_injective` — two records over the same distinct keys with the same
  sorted text have the same fields (up to the order of keys inside them).
-/
import Mathlib.Data.List.Sort
import Mathlib.Data.List.Nodup
import Mathlib.Data.Char
import Mathlib.Data.String.Basic
import Mathlib.Tactic.IntervalCases

/-- A quantifier over the characters of a text is decided on the text, not on all of `Char`. -/
instance (priority := 2000) decidableForallChar (p : Char → Prop) [DecidablePred p]
    (text : List Char) : Decidable (∀ c ∈ text, p c) :=
  List.decidableBAll p text

/-- JSON values without floating point numbers. -/
inductive Json where
  | null
  | bool (b : Bool)
  | int (n : Int)
  | str (s : String)
  | arr (items : List Json)
  | obj (members : List (String × Json))

namespace Json

open List

/-! ### Strings -/

def shortEscapes : List (Char × Char) :=
  [('"', '"'), ('\\', '\\'), ('\n', 'n'), ('\r', 'r'), ('\t', 't'), ('\x0c', 'f'), ('\x08', 'b')]

/-- One character inside a JSON string: the quote, the backslash and the control
characters are escaped, every other character stands for itself. -/
def escapeChar (c : Char) : List Char :=
  match shortEscapes.lookup c with
  | some e => ['\\', e]
  | none =>
    if c.toNat < 32 then
      ['\\', 'u', '0', '0', Nat.digitChar (c.toNat / 16), Nat.digitChar (c.toNat % 16)]
    else [c]

def renderString (s : String) : List Char :=
  '"' :: (s.toList.flatMap escapeChar ++ ['"'])

variable {β γ : Type*} {k : String} {fields : List (String × Option Json)}

theorem mem_of_lookup {α : Type*} [BEq α] [LawfulBEq α] {ms : List (α × β)} {k : α} {v : β}
    (h : ms.lookup k = some v) : (k, v) ∈ ms := by
  obtain ⟨before, after, rfl, -⟩ := lookup_eq_some_iff.mp h
  simp

theorem renderString_printable (s : String) : ∀ c ∈ renderString s, 32 ≤ c.toNat := by
  have hescape : ∀ d, ∀ c ∈ escapeChar d, 32 ≤ c.toNat := by
    intro d
    rw [escapeChar]
    split
    case h_1 e hlook =>
      have hletter : ∀ p ∈ shortEscapes, 32 ≤ p.2.toNat := by decide
      exact forall_mem_cons.mpr ⟨by decide, by simpa using hletter _ (mem_of_lookup hlook)⟩
    case h_2 =>
      have hhex : ∀ n < 16, 32 ≤ (Nat.digitChar n).toNat := by decide
      split_ifs with hctrl
      · simp only [forall_mem_cons]
        exact ⟨by decide, by decide, by decide, by decide, hhex _ (by omega), hhex _ (by omega),
          by simp⟩
      · simpa using hctrl
  rw [renderString, forall_mem_cons, forall_mem_append]
  refine ⟨by decide, fun c hc => ?_, by decide⟩
  obtain ⟨d, -, hc⟩ := mem_flatMap.mp hc
  exact hescape d c hc

/-! ### Integers -/

def renderInt : Int → List Char
  | .ofNat m => Nat.toDigits 10 m
  | .negSucc m => '-' :: Nat.toDigits 10 (m + 1)

theorem renderInt_head (n : Int) :
    ∃ c cs, renderInt n = c :: cs ∧ (c = '-' ∨ c.isDigit) := by
  rcases n with m | m
  · obtain ⟨c, cs, hc⟩ := exists_cons_of_ne_nil (Nat.toDigits_ne_nil (n := m) (b := 10))
    refine ⟨c, cs, hc, Or.inr ?_⟩
    exact Nat.isDigit_of_mem_toDigits (b := 10) (n := m) (by decide) (by decide) (by simp [hc])
  · exact ⟨'-', _, rfl, Or.inl rfl⟩

theorem renderInt_ascii (n : Int) : ∀ c ∈ renderInt n, 32 ≤ c.toNat ∧ c.toNat ≤ 127 := by
  have hdigits : ∀ m, ∀ c ∈ Nat.toDigits 10 m, 32 ≤ c.toNat ∧ c.toNat ≤ 127 := by
    intro m c hc
    have hrange := Char.isDigit_iff_toNat.mp
      (Nat.isDigit_of_mem_toDigits (b := 10) (n := m) (by decide) (by decide) hc)
    exact ⟨le_trans (by decide) hrange.1, hrange.2.trans (by decide)⟩
  rcases n with m | m
  · exact hdigits m
  · exact forall_mem_cons.mpr ⟨by decide, hdigits (m + 1)⟩

/-! ### Values -/

mutual

def render : Json → List Char
  | .null => ['n', 'u', 'l', 'l']
  | .bool true => ['t', 'r', 'u', 'e']
  | .bool false => ['f', 'a', 'l', 's', 'e']
  | .int n => renderInt n
  | .str s => renderString s
  | .arr items => '[' :: (renderItems false items ++ [']'])
  | .obj members => '\x7b' :: (renderMembers false members ++ ['\x7d'])

/-- The items of an array; `sep` says whether a comma is due before the next. -/
def renderItems (sep : Bool) : List Json → List Char
  | [] => []
  | v :: vs => (if sep then [','] else []) ++ (render v ++ renderItems true vs)

def renderMembers (sep : Bool) : List (String × Json) → List Char
  | [] => []
  | (k, v) :: ms =>
    (if sep then [','] else []) ++ (renderString k ++ ':' :: (render v ++ renderMembers true ms))

end

/-- The constructor of a value, as a number. -/
def shape : Json → Nat
  | .null => 0
  | .bool true => 1
  | .bool false => 2
  | .str _ => 3
  | .arr _ => 4
  | .obj _ => 5
  | .int _ => 6

/-- The constructor a text starts with. -/
def shapeOf (c : Char) : Nat :=
  if c = 'n' then 0 else if c = 't' then 1 else if c = 'f' then 2 else if c = '"' then 3
  else if c = '[' then 4 else if c = '\x7b' then 5 else 6

theorem shapeOf_number {c : Char} (h : c = '-' ∨ c.isDigit) : shapeOf c = 6 := by
  have hne : ∀ d : Char, d ≠ '-' → d.isDigit = false → c ≠ d := by
    rintro d hd hdig rfl
    rcases h with rfl | h
    · exact hd rfl
    · exact absurd h (by simp [hdig])
  simp [shapeOf, hne 'n' (by decide) (by decide), hne 't' (by decide) (by decide),
    hne 'f' (by decide) (by decide), hne '"' (by decide) (by decide),
    hne '[' (by decide) (by decide), hne '\x7b' (by decide) (by decide)]

/-! ### Sorted keys -/

mutual

/-- The value with the members of every object ordered by key. -/
def sortKeys : Json → Json
  | .null => .null
  | .bool b => .bool b
  | .int n => .int n
  | .str s => .str s
  | .arr items => .arr (sortItems items)
  | .obj members => .obj ((sortMembers members).insertionSort fun a b => a.1 ≤ b.1)

def sortItems : List Json → List Json
  | [] => []
  | v :: vs => sortKeys v :: sortItems vs

def sortMembers : List (String × Json) → List (String × Json)
  | [] => []
  | (k, v) :: ms => (k, sortKeys v) :: sortMembers ms

end

theorem sortItems_eq_map (vs : List Json) : sortItems vs = vs.map sortKeys := by
  induction vs with
  | nil => rfl
  | cons v vs ih => rw [sortItems, ih, map_cons]

theorem sortMembers_eq_map (ms : List (String × Json)) :
    sortMembers ms = ms.map fun m => (m.1, sortKeys m.2) := by
  induction ms with
  | nil => rfl
  | cons m ms ih => rw [sortMembers, ih, map_cons]

theorem keys_sortMembers (ms : List (String × Json)) :
    (sortMembers ms).map Prod.fst = ms.map Prod.fst := by
  rw [sortMembers_eq_map, map_map]
  rfl

/-- The value of a member of an object. -/
def member? : Json → String → Option Json
  | .obj members, k => members.lookup k
  | _, _ => none

theorem lookup_map_snd (f : β → γ) (ms : List (String × β)) (k : String) :
    (ms.map fun m => (m.1, f m.2)).lookup k = (ms.lookup k).map f := by
  induction ms with
  | nil => rfl
  | cons m ms ih =>
    rw [map_cons, lookup_cons, lookup_cons, ih]
    cases k == m.1 <;> rfl

theorem lookup_cons_if (m : String × β) (ms : List (String × β)) (k : String) :
    (m :: ms).lookup k = if k = m.1 then some m.2 else ms.lookup k := by
  rw [lookup_cons]
  by_cases hk : k = m.1
  · rw [if_pos hk, hk, beq_self_eq_true]
  · rw [if_neg hk, beq_eq_false_iff_ne.mpr hk]

theorem lookup_eq_none_of_notMem {ms : List (String × β)}
    (h : k ∉ ms.map Prod.fst) : ms.lookup k = none := by
  rw [lookup_eq_none_iff]
  intro p hp
  have hne : k ≠ p.1 := by
    rintro rfl
    exact h (mem_map_of_mem hp)
  simpa using hne

theorem mem_iff_lookup {ms : List (String × β)} (h : (ms.map Prod.fst).Nodup)
    {m : String × β} : m ∈ ms ↔ ms.lookup m.1 = some m.2 := by
  refine ⟨fun hm => ?_, mem_of_lookup⟩
  induction ms with
  | nil => cases hm
  | cons first ms ih =>
    rw [map_cons, nodup_cons] at h
    rw [lookup_cons_if]
    rcases mem_cons.mp hm with rfl | htail
    · rw [if_pos rfl]
    · have hne : ¬ m.1 = first.1 := fun heq => h.1 (heq ▸ mem_map_of_mem htail)
      rw [if_neg hne]
      exact ih h.2 htail

/-- Inserting a member in key order gives the lookups of putting it first. -/
theorem lookup_orderedInsert (m : String × β) (ms : List (String × β)) (k : String) :
    (ms.orderedInsert (fun a b => a.1 ≤ b.1) m).lookup k = (m :: ms).lookup k := by
  induction ms with
  | nil => rfl
  | cons b ms ih =>
    by_cases hle : m.1 ≤ b.1
    · rw [orderedInsert_cons, if_pos hle]
    rw [orderedInsert_cons, if_neg hle, lookup_cons_if, ih]
    simp only [lookup_cons_if]
    -- the key of `b` is smaller than that of `m`, so they are not both `k`
    by_cases hb : k = b.1
    · have hm : ¬ k = m.1 := fun heq => hle (le_of_eq (heq.symm.trans hb))
      rw [if_pos hb, if_neg hm, if_pos hb]
    · rw [if_neg hb, if_neg hb]

theorem lookup_insertionSort (ms : List (String × β)) (k : String) :
    (ms.insertionSort fun a b => a.1 ≤ b.1).lookup k = ms.lookup k := by
  induction ms with
  | nil => rfl
  | cons m ms ih =>
    rw [insertionSort_cons, lookup_orderedInsert, lookup_cons_if, lookup_cons_if, ih]

theorem member?_sortKeys (v : Json) (k : String) :
    (sortKeys v).member? k = (v.member? k).map sortKeys := by
  cases v with
  | obj ms =>
    rw [sortKeys, member?, member?, lookup_insertionSort, sortMembers_eq_map, lookup_map_snd]
  | _ => rfl

mutual

/-- **Sorting the keys twice changes nothing more.** -/
theorem sortKeys_sortKeys : ∀ v : Json, sortKeys (sortKeys v) = sortKeys v
  | .null | .bool _ | .int _ | .str _ => rfl
  | .arr items => by rw [sortKeys, sortKeys, sortItems_sortItems items]
  | .obj members => by
    -- sorting the values does not move the members
    have hsort : sortMembers ((sortMembers members).insertionSort fun a b => a.1 ≤ b.1) =
        (sortMembers (sortMembers members)).insertionSort fun a b => a.1 ≤ b.1 := by
      rw [sortMembers_eq_map, sortMembers_eq_map (sortMembers members)]
      exact map_insertionSort _ _ _ _ fun _ _ _ _ => Iff.rfl
    have : Std.Total fun a b : String × Json => a.1 ≤ b.1 := ⟨fun a b => le_total _ _⟩
    have : IsTrans (String × Json) fun a b => a.1 ≤ b.1 := ⟨fun a b c => le_trans⟩
    rw [sortKeys, sortKeys, hsort, sortMembers_sortMembers members,
      (pairwise_insertionSort _ _).insertionSort_eq]

theorem sortItems_sortItems : ∀ vs : List Json, sortItems (sortItems vs) = sortItems vs
  | [] => rfl
  | v :: vs => by rw [sortItems, sortItems, sortKeys_sortKeys v, sortItems_sortItems vs]

theorem sortMembers_sortMembers : ∀ ms : List (String × Json),
    sortMembers (sortMembers ms) = sortMembers ms
  | [] => rfl
  | (k, v) :: ms => by
    rw [sortMembers, sortMembers, sortKeys_sortKeys v, sortMembers_sortMembers ms]

end

/-- A change of the order of the members inside objects, which no reader of members
notices. -/
structure Reorders (f : Json → Json) : Prop where
  null : f .null = .null
  int : ∀ n, f (.int n) = .int n
  str : ∀ s, f (.str s) = .str s
  arr : ∀ items, f (.arr items) = .arr (items.map f)
  obj : ∀ members, ∃ members', f (.obj members) = .obj members' ∧
    ∀ k ∈ members'.map Prod.fst, k ∈ members.map Prod.fst
  member : ∀ v k, (f v).member? k = (v.member? k).map f
  sorted : ∀ v, sortKeys (f v) = sortKeys v

theorem reorders_sortKeys : Reorders sortKeys where
  null := rfl
  int _ := rfl
  str _ := rfl
  arr items := by rw [sortKeys, sortItems_eq_map]
  obj members := by
    refine ⟨_, by rw [sortKeys], fun k hk => ?_⟩
    obtain ⟨m, hm, rfl⟩ := mem_map.mp hk
    rw [mem_insertionSort] at hm
    rw [← keys_sortMembers]
    exact mem_map_of_mem hm
  member := member?_sortKeys
  sorted := sortKeys_sortKeys

/-! ### Records -/

def record (fields : List (String × Option Json)) : Json :=
  .obj (fields.filterMap fun f => f.2.map fun v => (f.1, v))

def keys : Json → List String
  | .obj members => members.map Prod.fst
  | _ => []

theorem Reorders.mem_keys_record {f : Json → Json} (hf : Reorders f)
    (h : k ∈ (f (record fields)).keys) : k ∈ fields.map Prod.fst := by
  obtain ⟨members, hmbs, hsub⟩ := hf.obj (fields.filterMap fun p => p.2.map fun v => (p.1, v))
  rw [record, hmbs, keys] at h
  obtain ⟨m, hm, rfl⟩ := mem_map.mp (hsub k h)
  obtain ⟨p, hp, hpm⟩ := mem_filterMap.mp hm
  obtain ⟨v, -, rfl⟩ := Option.map_eq_some_iff.mp hpm
  exact mem_map_of_mem hp

theorem member?_record
    (hnd : (fields.map Prod.fst).Nodup) (k : String) :
    (record fields).member? k = (fields.lookup k).join := by
  rw [record, member?]
  induction fields with
  | nil => rfl
  | cons f fields ih =>
    obtain ⟨l, o⟩ := f
    rw [map_cons, nodup_cons] at hnd
    have hrest := ih hnd.2
    rw [lookup_cons_if]
    cases o with
    | none =>
      rw [filterMap_cons_none (by rfl), hrest]
      by_cases hk : k = l
      · -- an absent field is not overridden by a later one with the same key
        rw [if_pos hk, hk, lookup_eq_none_of_notMem hnd.1]
        rfl
      · rw [if_neg hk]
    | some v =>
      rw [filterMap_cons_some (by rfl), lookup_cons_if, hrest]
      by_cases hk : k = l
      · rw [if_pos hk, if_pos hk]
        rfl
      · rw [if_neg hk, if_neg hk]

theorem sortKeys_record (fields : List (String × Option Json)) :
    sortKeys (record fields) =
      .obj ((fields.filterMap fun f => (f.2.map sortKeys).map (Prod.mk f.1)).insertionSort
        fun a b => a.1 ≤ b.1) := by
  rw [record, sortKeys, sortMembers_eq_map, map_filterMap]
  simp only [Option.map_map, Function.comp_def]

/-- Two fields of a record have the same sorted value, or both are left out. -/
def SameField : Option Json → Option Json → Prop
  | some a, some b => a.sortKeys = b.sortKeys
  | a, b => a = b

def SameFields : List (String × Option Json) → List (String × Option Json) → Prop
  | f :: fs, g :: gs => SameField f.2 g.2 ∧ SameFields fs gs
  | _, _ => True

theorem sameField_iff {a b : Option Json} : SameField a b ↔ a.map sortKeys = b.map sortKeys := by
  cases a <;> cases b <;> simp [SameField]

/-- **Records are determined by their sorted text.** -/
theorem record_injective {fs gs : List (String × Option Json)}
    (hkeys : fs.map Prod.fst = gs.map Prod.fst) (hnd : (fs.map Prod.fst).Nodup)
    (h : sortKeys (record fs) = sortKeys (record gs)) :
    SameFields fs gs := by
  have hnd' : (gs.map Prod.fst).Nodup := hkeys ▸ hnd
  have hlook : ∀ k, (fs.lookup k).join.map sortKeys = (gs.lookup k).join.map sortKeys := by
    intro k
    rw [← member?_record hnd, ← member?_record hnd', ← member?_sortKeys, ← member?_sortKeys, h]
  clear h
  induction fs generalizing gs with
  | nil =>
    rcases gs with _ | ⟨g, gs⟩
    · trivial
    · simp at hkeys
  | cons f fs ih =>
    rcases gs with _ | ⟨g, gs⟩
    · simp at hkeys
    obtain ⟨k, a⟩ := f
    obtain ⟨l, b⟩ := g
    obtain ⟨rfl, htail⟩ : k = l ∧ fs.map Prod.fst = gs.map Prod.fst := by simpa using hkeys
    rw [map_cons, nodup_cons] at hnd hnd'
    have hhead : a.map sortKeys = b.map sortKeys := by simpa using hlook k
    refine ⟨sameField_iff.mpr hhead, ih htail hnd.2 hnd'.2 fun k' => ?_⟩
    by_cases hk : k' = k
    · -- the head key occurs in neither tail
      rw [hk, lookup_eq_none_of_notMem hnd.1, lookup_eq_none_of_notMem hnd'.1]
    · simpa only [lookup_cons_if, if_neg hk] using hlook k'

end Json
