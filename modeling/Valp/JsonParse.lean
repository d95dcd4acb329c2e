/-
JSON text read back.

`loads` reads the texts `json.loads` reads, with white space between the tokens and
every escape of a string.  It refuses an object that repeats a key, a number with a
fraction or an exponent, and half of a surrogate pair: none of these has a place in
`Json`.  The readers take fuel, which the length of the text bounds.

* `readValue_spaced` — a value is read back from its text, whatever follows;
* `render_injective` — so the compact text determines the value;
* `loads_spaced` — `loads` inverts the text of a value without repeated keys;
* `loads_render` — in particular the compact one;
* `loads_proper` — the text of an object is not read before its last character.
-/
import Mathlib.Data.List.TakeWhile
import Valp.Json

namespace Json

open List
open Option (map_some bind_eq_bind bind_some bind_eq_some_iff some_inj map_eq_some_iff)

/-! ### Readers -/

def isSpace (c : Char) : Bool := c == ' ' || c == '\t' || c == '\n' || c == '\r'

def skipSpace (cs : List Char) : List Char := cs.dropWhile isSpace

/-- The value of a hexadecimal digit of either case. -/
def hexDigit? (c : Char) : Option Nat :=
  if c.isDigit then some (c.toNat - 48)
  else if 'a' ≤ c ∧ c ≤ 'f' then some (c.toNat - 87)
  else if 'A' ≤ c ∧ c ≤ 'F' then some (c.toNat - 55)
  else none

/-- The four digits of a `\u` escape. -/
def readHex : List Char → Option (Nat × List Char)
  | a :: b :: c :: d :: rest => do
    let a ← hexDigit? a
    let b ← hexDigit? b
    let c ← hexDigit? c
    let d ← hexDigit? d
    some (16 * (16 * (16 * a + b) + c) + d, rest)
  | _ => none

/-- A `\u` escape: a code point, or two halves of one. -/
def readUnicode (cs : List Char) : Option (Char × List Char) := do
  let (n, rest) ← readHex cs
  if 0xD800 ≤ n ∧ n < 0xDC00 then
    match rest with
    | '\\' :: 'u' :: rest => do
      let (m, rest) ← readHex rest
      if 0xDC00 ≤ m ∧ m < 0xE000 then
        some (Char.ofNat (0x10000 + 0x400 * (n - 0xD800) + (m - 0xDC00)), rest)
      else none
    | _ => none
  else if 0xDC00 ≤ n ∧ n < 0xE000 then none
  else some (Char.ofNat n, rest)

/-- What follows a backslash. -/
def readEscape : List Char → Option (Char × List Char)
  | e :: rest =>
    if e = 'u' then readUnicode rest
    else if e = '/' then some ('/', rest)
    else (shortEscapes.find? fun p => p.2 = e).map fun p => (p.1, rest)
  | [] => none

/-- The characters of a string, up to the closing quote. -/
def readString : Nat → List Char → Option (List Char × List Char)
  | n + 1, c :: rest =>
    if c = '"' then some ([], rest)
    else do
      let (d, rest) ←
        if c = '\\' then readEscape rest
        else if c.toNat < 32 then none
        else some (c, rest)
      let (ds, rest) ← readString n rest
      some (d :: ds, rest)
  | _, _ => none

/-- The digits of a number without leading zeros, fraction and exponent. -/
def readDigits (cs : List Char) : Option (Nat × List Char) :=
  let digits := cs.takeWhile Char.isDigit
  let rest := cs.dropWhile Char.isDigit
  if digits = [] ∨ (digits.head? = some '0' ∧ digits ≠ ['0']) ∨
      rest.head?.any (fun c => c == '.' || c == 'e' || c == 'E') = true then none
  else some (Nat.ofDigitChars 10 digits 0, rest)

def readNumber : List Char → Option (Json × List Char)
  | c :: cs =>
    if c = '-' then (readDigits cs).map fun p => (.int (-p.1), p.2)
    else (readDigits (c :: cs)).map fun p => (.int p.1, p.2)
  | [] => none

/-- The rest of the word for a constant. -/
def readWord (word : List Char) (v : Json) (cs : List Char) : Option (Json × List Char) :=
  if word.isPrefixOf cs then some (v, cs.drop word.length) else none

mutual

/-- A value; its first character says of which kind. -/
def readValue : Nat → List Char → Option (Json × List Char)
  | n + 1, c :: rest =>
    match shapeOf c with
    | 0 => readWord ['u', 'l', 'l'] .null rest
    | 1 => readWord ['r', 'u', 'e'] (.bool true) rest
    | 2 => readWord ['a', 'l', 's', 'e'] (.bool false) rest
    | 3 => (readString n rest).map fun p => (.str (String.ofList p.1), p.2)
    | 4 =>
      if (skipSpace rest).head? = some ']' then some (.arr [], (skipSpace rest).tail)
      else (readItems n (skipSpace rest)).map fun p => (.arr p.1, p.2)
    | 5 =>
      if (skipSpace rest).head? = some '\x7d' then some (.obj [], (skipSpace rest).tail)
      else (readMembers n (skipSpace rest)).map fun p => (.obj p.1, p.2)
    | _ => readNumber (c :: rest)
  | _, _ => none

/-- The items of an array, from its first item to the closing bracket. -/
def readItems : Nat → List Char → Option (List Json × List Char)
  | n + 1, cs => do
    let (v, rest) ← readValue n cs
    match skipSpace rest with
    | c :: rest =>
      if c = ']' then some ([v], rest)
      else if c = ',' then do
        let (vs, rest) ← readItems n (skipSpace rest)
        some (v :: vs, rest)
      else none
    | [] => none
  | 0, _ => none

/-- The members of an object, from its first key to the closing brace. -/
def readMembers : Nat → List Char → Option (List (String × Json) × List Char)
  | n + 1, c :: cs => do
    if c ≠ '"' then none
    let (key, rest) ← readString n cs
    let rest := skipSpace rest
    if rest.head? ≠ some ':' then none
    let (v, rest) ← readValue n (skipSpace rest.tail)
    match skipSpace rest with
    | d :: rest =>
      if d = '\x7d' then some ([(String.ofList key, v)], rest)
      else if d = ',' then do
        let (ms, rest) ← readMembers n (skipSpace rest)
        some ((String.ofList key, v) :: ms, rest)
      else none
    | [] => none
  | _, _ => none

end

/-- The value of a text, with white space around it. -/
def parse (text : List Char) : Option Json :=
  match readValue (2 * text.length) (skipSpace text) with
  | some (v, rest) => if skipSpace rest = [] then some v else none
  | none => none

mutual

/-- No object inside the value repeats a key. -/
def distinctKeys : Json → Bool
  | .arr items => distinctItems items
  | .obj members => decide (members.map Prod.fst).Nodup && distinctMembers members
  | _ => true

def distinctItems : List Json → Bool
  | [] => true
  | v :: vs => distinctKeys v && distinctItems vs

def distinctMembers : List (String × Json) → Bool
  | [] => true
  | (_, v) :: ms => distinctKeys v && distinctMembers ms

end

/-- `json.loads`, with a hook that refuses repeated keys. -/
def loads (text : String) : Option Json := (parse text.toList).filter distinctKeys

/-! ### Strings and numbers -/

variable {c : Char}

theorem skipSpace_cons (h : isSpace c = false) (cs : List Char) :
    skipSpace (c :: cs) = c :: cs := by
  rw [skipSpace, dropWhile_cons_of_neg (by simp [h])]

theorem hexDigit?_digitChar : ∀ n < 16, hexDigit? (Nat.digitChar n) = some n := by decide

/-- The letter of a short escape belongs to one character only. -/
theorem shortEscapes_spec : ∀ p ∈ shortEscapes, p.2 ≠ 'u' ∧ p.2 ≠ '/' ∧
    (shortEscapes.find? fun q => q.2 = p.2) = some p := by
  decide

/-- One character of a string is read back from its escaped form. -/
theorem readString_escapeChar (c : Char) (n : Nat) (rest : List Char) :
    readString (n + 1) (escapeChar c ++ rest) =
      (readString n rest).map fun p => (c :: p.1, p.2) := by
  rw [escapeChar]
  cases hlook : shortEscapes.lookup c with
  | some e =>
    obtain ⟨hu, hslash, hfind⟩ := shortEscapes_spec _ (mem_of_lookup hlook)
    simp only [cons_append, nil_append, readString, readEscape, hu, hslash, hfind,
      if_false, if_true, map_some, Char.reduceEq, bind_eq_bind, bind_some]
    cases readString n rest <;> rfl
  | none =>
    have hquote : c ≠ '"' := by rintro rfl; exact absurd hlook (by decide)
    have hback : c ≠ '\\' := by rintro rfl; exact absurd hlook (by decide)
    by_cases hc : c.toNat < 32
    · -- a control character: its two low digits stand in the escape
      have hval : 16 * (c.toNat / 16) + c.toNat % 16 = c.toNat := Nat.div_add_mod _ _
      have hzero : hexDigit? '0' = some 0 := by decide
      have hhex : readUnicode ('0' :: '0' :: Nat.digitChar (c.toNat / 16) ::
          Nat.digitChar (c.toNat % 16) :: rest) = some (c, rest) := by
        simp only [readUnicode, readHex, hzero,
          hexDigit?_digitChar _ (show c.toNat / 16 < 16 by omega),
          hexDigit?_digitChar _ (show c.toNat % 16 < 16 by omega), bind_eq_bind, bind_some]
        rw [if_neg (by omega), if_neg (by omega)]
        simp [hval]
      simp only [hc, if_true, cons_append, nil_append, readString, readEscape, hhex,
        if_false, Char.reduceEq, bind_eq_bind, bind_some]
      cases readString n rest <;> rfl
    · simp only [hc, if_false, cons_append, nil_append, readString, hquote, hback,
        bind_eq_bind, bind_some]
      cases readString n rest <;> rfl

theorem readString_render (cs : List Char) (n : Nat) (r : List Char) (hn : cs.length < n) :
    readString n (cs.flatMap escapeChar ++ '"' :: r) = some (cs, r) := by
  induction cs generalizing n with
  | nil =>
    obtain ⟨n, rfl⟩ := Nat.exists_eq_add_of_lt hn
    simp [readString]
  | cons c cs ih =>
    obtain ⟨m, rfl⟩ : ∃ m, n = m + 1 := ⟨n - 1, by simp at hn; omega⟩
    rw [flatMap_cons, append_assoc, readString_escapeChar,
      ih m (by simpa using hn)]
    rfl

/-- A continuation that does not extend a number. -/
def Ends (r : List Char) : Prop :=
  ∀ c ∈ r.head?, c.isDigit = false ∧ c ≠ '.' ∧ c ≠ 'e' ∧ c ≠ 'E'

variable {r : List Char}

theorem ends_cons (h : c.isDigit = false ∧ c ≠ '.' ∧ c ≠ 'e' ∧ c ≠ 'E') : Ends (c :: r) := by
  simpa [Ends] using h

variable {m : Nat} {space : List Char} {w : Json}

theorem head_toDigits (hm : 0 < m) : (Nat.toDigits 10 m).head? ≠ some '0' := by
  induction m using Nat.strong_induction_on with
  | _ m ih =>
    by_cases hlt : m < 10
    · rw [Nat.toDigits_of_lt_base hlt]
      interval_cases m <;> decide
    · rw [Nat.toDigits_of_base_le (by decide) (by omega),
        head?_append_of_ne_nil _ Nat.toDigits_ne_nil]
      exact ih (m / 10) (by omega) (by omega)

theorem readDigits_toDigits (m : Nat) (hr : Ends r) :
    readDigits (Nat.toDigits 10 m ++ r) = some (m, r) := by
  have hdigits : ∀ c ∈ Nat.toDigits 10 m, c.isDigit := fun c hc =>
    Nat.isDigit_of_mem_toDigits (by decide) (by decide) hc
  have hend : ∀ c ∈ r.head?, ¬c.isDigit := fun c hc => by simp [(hr c hc).1]
  have htake : (Nat.toDigits 10 m ++ r).takeWhile Char.isDigit = Nat.toDigits 10 m := by
    rw [takeWhile_append_of_pos hdigits]
    cases r with
    | nil => simp
    | cons c r => rw [takeWhile_cons_of_neg (hend c rfl), append_nil]
  have hdrop : (Nat.toDigits 10 m ++ r).dropWhile Char.isDigit = r := by
    have hall := takeWhile_append_dropWhile (p := Char.isDigit) (l := Nat.toDigits 10 m ++ r)
    rwa [htake, append_right_inj] at hall
  have hzero : ¬((Nat.toDigits 10 m).head? = some '0' ∧ Nat.toDigits 10 m ≠ ['0']) := by
    rintro ⟨hhead, hne⟩
    rcases Nat.eq_zero_or_pos m with rfl | hm
    · exact hne rfl
    · exact head_toDigits hm hhead
  have hfraction : r.head?.any (fun c => c == '.' || c == 'e' || c == 'E') = false := by
    cases r with
    | nil => rfl
    | cons c r =>
      obtain ⟨-, h1, h2, h3⟩ := hr c rfl
      simp [h1, h2, h3]
  rw [readDigits, htake, hdrop, if_neg]
  · rw [Nat.ofDigitChars_ten_toDigits]
  · rw [hfraction]
    simpa [Nat.toDigits_ne_nil] using hzero

theorem readNumber_renderInt (n : Int) (hr : Ends r) :
    readNumber (renderInt n ++ r) = some (.int n, r) := by
  rcases n with m | m
  · obtain ⟨c, cs, hc⟩ := exists_cons_of_ne_nil (Nat.toDigits_ne_nil (n := m) (b := 10))
    have hne : c ≠ '-' := by
      rintro rfl
      have hdigit := Nat.isDigit_of_mem_toDigits (b := 10) (n := m) (by decide) (by decide)
        (show '-' ∈ Nat.toDigits 10 m by simp [hc])
      exact absurd hdigit (by decide)
    have hread := readDigits_toDigits m hr
    rw [hc, cons_append] at hread
    rw [renderInt, hc, cons_append, readNumber, if_neg hne, hread]
    rfl
  · rw [renderInt, cons_append, readNumber, if_pos rfl, readDigits_toDigits _ hr]
    rfl

/-! ### Values -/

mutual

/-- The text of a value with `gap` behind every comma and every colon;
`json.dumps(value, ensure_ascii=False)` leaves one blank there. -/
def spaced (gap : List Char) : Json → List Char
  | .null => render .null
  | .bool b => render (.bool b)
  | .int n => renderInt n
  | .str s => renderString s
  | .arr items => '[' :: (spacedItems gap false items ++ [']'])
  | .obj members => '\x7b' :: (spacedMembers gap false members ++ ['\x7d'])

def spacedItems (gap : List Char) (sep : Bool) : List Json → List Char
  | [] => []
  | v :: vs => (if sep then ',' :: gap else []) ++ (spaced gap v ++ spacedItems gap true vs)

def spacedMembers (gap : List Char) (sep : Bool) : List (String × Json) → List Char
  | [] => []
  | (k, v) :: ms => (if sep then ',' :: gap else []) ++
    (renderString k ++ ':' :: (gap ++ (spaced gap v ++ spacedMembers gap true ms)))

end

mutual

theorem spaced_nil : ∀ v : Json, spaced [] v = render v
  | .null => by rw [spaced]
  | .bool b => by rw [spaced]
  | .int n => by rw [spaced, render]
  | .str s => by rw [spaced, render]
  | .arr items => by rw [spaced, render, spacedItems_nil]
  | .obj members => by rw [spaced, render, spacedMembers_nil]

theorem spacedItems_nil : ∀ (sep : Bool) (vs : List Json),
    spacedItems [] sep vs = renderItems sep vs
  | _, [] => rfl
  | sep, v :: vs => by rw [spacedItems, renderItems, spaced_nil v, spacedItems_nil true vs]

theorem spacedMembers_nil : ∀ (sep : Bool) (ms : List (String × Json)),
    spacedMembers [] sep ms = renderMembers sep ms
  | _, [] => rfl
  | sep, (k, v) :: ms => by
    rw [spacedMembers, renderMembers, spaced_nil v, spacedMembers_nil true ms]
    rfl

end

section Spaced

variable {gap : List Char}

/-- A value starts neither with white space nor like the end of an array. -/
theorem spaced_start (gap : List Char) (v : Json) : ∃ c cs, spaced gap v = c :: cs ∧
    isSpace c = false ∧ c ≠ ']' := by
  cases v with
  | null => exact ⟨_, _, by rw [spaced, render], by decide, by decide⟩
  | bool b => cases b <;> exact ⟨_, _, by rw [spaced, render], by decide, by decide⟩
  | int n =>
    obtain ⟨c, cs, hc, hnum⟩ := renderInt_head n
    refine ⟨c, cs, by rw [spaced, hc], ?_, by rintro rfl; revert hnum; decide⟩
    by_contra hspace
    simp only [isSpace, Bool.not_eq_false, Bool.or_eq_true, beq_iff_eq] at hspace
    rcases hspace with ((rfl | rfl) | rfl) | rfl <;> revert hnum <;> decide
  | str s => exact ⟨_, _, by rw [spaced, renderString], by decide, by decide⟩
  | arr items => exact ⟨'[', _, by rw [spaced], by decide, by decide⟩
  | obj members => exact ⟨'\x7b', _, by rw [spaced], by decide, by decide⟩

theorem skipSpace_spaced (v : Json) (r : List Char) :
    skipSpace (spaced gap v ++ r) = spaced gap v ++ r := by
  obtain ⟨c, cs, hv, hspace, -⟩ := spaced_start gap v
  rw [hv, cons_append, skipSpace_cons hspace]

theorem skipSpace_gap (hgap : ∀ c ∈ gap, isSpace c) (r : List Char) :
    skipSpace (gap ++ r) = skipSpace r :=
  dropWhile_append_of_pos hgap

theorem spacedItems_true_cons (v : Json) (vs : List Json) :
    spacedItems gap true (v :: vs) = ',' :: (gap ++ spacedItems gap false (v :: vs)) := by
  simp [spacedItems]

theorem spacedMembers_true_cons (m : String × Json) (ms : List (String × Json)) :
    spacedMembers gap true (m :: ms) = ',' :: (gap ++ spacedMembers gap false (m :: ms)) := by
  simp [spacedMembers]

theorem ends_spacedItems (vs : List Json) (r : List Char) :
    Ends (spacedItems gap true vs ++ ']' :: r) := by
  cases vs with
  | nil => exact ends_cons (by decide)
  | cons v vs =>
    rw [spacedItems_true_cons]
    exact ends_cons (by decide)

theorem ends_spacedMembers (ms : List (String × Json)) (r : List Char) :
    Ends (spacedMembers gap true ms ++ '\x7d' :: r) := by
  cases ms with
  | nil => exact ends_cons (by decide)
  | cons m ms =>
    rw [spacedMembers_true_cons]
    exact ends_cons (by decide)

/-- The first item of an array is neither white space nor taken for its end. -/
theorem skipSpace_spacedItems (gap : List Char) (v : Json) (vs : List Json) (r : List Char) :
    skipSpace (spacedItems gap false (v :: vs) ++ r) = spacedItems gap false (v :: vs) ++ r ∧
      (spacedItems gap false (v :: vs) ++ r).head? ≠ some ']' := by
  have hitems : spacedItems gap false (v :: vs) ++ r =
      spaced gap v ++ (spacedItems gap true vs ++ r) := by
    simp [spacedItems]
  rw [hitems]
  refine ⟨skipSpace_spaced v _, fun h => ?_⟩
  obtain ⟨c, cs, hv, -, hclose⟩ := spaced_start gap v
  rw [hv, cons_append, head?_cons, some_inj] at h
  exact hclose h

/-- A member written out: its key, its value, and the members that follow. -/
theorem spacedMembers_false_cons (k : String) (v : Json) (ms : List (String × Json)) :
    spacedMembers gap false ((k, v) :: ms) = '"' :: (k.toList.flatMap escapeChar ++
      '"' :: ':' :: (gap ++ (spaced gap v ++ spacedMembers gap true ms))) := by
  simp [spacedMembers, renderString]

theorem skipSpace_spacedMembers (gap : List Char) (m : String × Json)
    (ms : List (String × Json)) (r : List Char) :
    skipSpace (spacedMembers gap false (m :: ms) ++ r) = spacedMembers gap false (m :: ms) ++ r ∧
      (spacedMembers gap false (m :: ms) ++ r).head? ≠ some '\x7d' := by
  rw [spacedMembers_false_cons, cons_append, skipSpace_cons (by decide)]
  simp

theorem separator_printable (hgap : ∀ c ∈ gap, 32 ≤ c.toNat) (sep : Bool) :
    ∀ c ∈ (if sep then ',' :: gap else []), 32 ≤ c.toNat := by
  cases sep with
  | false => simp
  | true => exact forall_mem_cons.mpr ⟨by decide, hgap⟩

theorem length_le_escape (cs : List Char) : cs.length ≤ (cs.flatMap escapeChar).length := by
  induction cs with
  | nil => simp
  | cons c cs ih =>
    have hone : 1 ≤ (escapeChar c).length := by
      rw [escapeChar]
      split <;> [simp; split <;> simp]
    rw [flatMap_cons, length_append, length_cons]
    omega

mutual

/-- **A value is read back from its text**, with twice as much fuel as the text is long. -/
theorem readValue_spaced (hgap : ∀ c ∈ gap, isSpace c) : ∀ (v : Json) (n : Nat)
    (r : List Char), 2 * (spaced gap v).length ≤ n → Ends r →
      readValue n (spaced gap v ++ r) = some (v, r)
  | .null, n, r, hn, _ => by
    obtain ⟨n, rfl⟩ : ∃ m, n = m + 1 := ⟨n - 1, by simp [spaced, render] at hn; omega⟩
    simp [spaced, render, readValue, shapeOf, readWord]
  | .bool true, n, r, hn, _ => by
    obtain ⟨n, rfl⟩ : ∃ m, n = m + 1 := ⟨n - 1, by simp [spaced, render] at hn; omega⟩
    simp [spaced, render, readValue, shapeOf, readWord]
  | .bool false, n, r, hn, _ => by
    obtain ⟨n, rfl⟩ : ∃ m, n = m + 1 := ⟨n - 1, by simp [spaced, render] at hn; omega⟩
    simp [spaced, render, readValue, shapeOf, readWord]
  | .int m, n, r, hn, hr => by
    obtain ⟨c, cs, hc, hnum⟩ := renderInt_head m
    have hread := readNumber_renderInt m hr
    rw [spaced, hc] at hn
    obtain ⟨n, rfl⟩ : ∃ m, n = m + 1 := ⟨n - 1, by simp at hn; omega⟩
    rw [hc, cons_append] at hread
    rw [spaced, hc, cons_append, readValue, shapeOf_number hnum]
    exact hread
  | .str s, n, r, hn, _ => by
    have hlen := length_le_escape s.toList
    simp only [spaced, renderString, length_cons, length_append, length_nil] at hn
    obtain ⟨n, rfl⟩ : ∃ m, n = m + 1 := ⟨n - 1, by omega⟩
    have hread := readString_render s.toList n r (by omega)
    simp [spaced, renderString, readValue, shapeOf, hread]
  | .arr items, n, r, hn, _ => by
    simp only [spaced, length_cons, length_append, length_nil] at hn
    obtain ⟨n, rfl⟩ : ∃ m, n = m + 1 := ⟨n - 1, by omega⟩
    by_cases hnil : items = []
    · simp [hnil, spaced, spacedItems, readValue, shapeOf, skipSpace_cons, isSpace]
    have hread := readItems_spaced hgap items n r hnil (by omega)
    obtain ⟨v, vs, rfl⟩ := exists_cons_of_ne_nil hnil
    obtain ⟨hskip, hhead⟩ := skipSpace_spacedItems gap v vs (']' :: r)
    rw [spaced, cons_append, append_assoc, readValue]
    simp only [shapeOf, Char.reduceEq, if_false, if_true, cons_append, nil_append,
      hskip, hhead, hread, map_some]
  | .obj members, n, r, hn, _ => by
    simp only [spaced, length_cons, length_append, length_nil] at hn
    obtain ⟨n, rfl⟩ : ∃ m, n = m + 1 := ⟨n - 1, by omega⟩
    by_cases hnil : members = []
    · simp [hnil, spaced, spacedMembers, readValue, shapeOf, skipSpace_cons, isSpace]
    have hread := readMembers_spaced hgap members n r hnil (by omega)
    obtain ⟨m, ms, rfl⟩ := exists_cons_of_ne_nil hnil
    obtain ⟨hskip, hhead⟩ := skipSpace_spacedMembers gap m ms ('\x7d' :: r)
    rw [spaced, cons_append, append_assoc, readValue]
    simp only [shapeOf, Char.reduceEq, if_false, if_true, cons_append, nil_append,
      hskip, hhead, hread, map_some]

theorem readItems_spaced (hgap : ∀ c ∈ gap, isSpace c) : ∀ (items : List Json) (n : Nat)
    (r : List Char), items ≠ [] → 2 * (spacedItems gap false items).length < n →
      readItems n (spacedItems gap false items ++ ']' :: r) = some (items, r)
  | [], _, _, hne, _ => absurd rfl hne
  | v :: vs, n, r, _, hn => by
    have hsp : spacedItems gap false (v :: vs) = spaced gap v ++ spacedItems gap true vs := by
      simp [spacedItems]
    rw [hsp, length_append] at hn
    obtain ⟨n, rfl⟩ : ∃ m, n = m + 1 := ⟨n - 1, by omega⟩
    have hv := readValue_spaced hgap v n (spacedItems gap true vs ++ ']' :: r) (by omega)
      (ends_spacedItems vs r)
    rw [hsp, append_assoc, readItems, hv]
    simp only [bind_eq_bind, bind_some]
    by_cases hnil : vs = []
    · rw [hnil, spacedItems, nil_append, skipSpace_cons (by decide)]
      rfl
    have hrest := readItems_spaced hgap vs n r hnil
    obtain ⟨w, ws, rfl⟩ := exists_cons_of_ne_nil hnil
    rw [spacedItems_true_cons, length_cons, length_append] at hn
    rw [spacedItems_true_cons, cons_append, skipSpace_cons (by decide)]
    simp [skipSpace_gap hgap, (skipSpace_spacedItems gap w ws _).1, hrest (by omega)]

theorem readMembers_spaced (hgap : ∀ c ∈ gap, isSpace c) :
    ∀ (members : List (String × Json)) (n : Nat) (r : List Char), members ≠ [] →
      2 * (spacedMembers gap false members).length < n →
      readMembers n (spacedMembers gap false members ++ '\x7d' :: r) = some (members, r)
  | [], _, _, hne, _ => absurd rfl hne
  | (k, v) :: ms, n, r, _, hn => by
    have hlen := length_le_escape k.toList
    rw [spacedMembers_false_cons] at hn
    simp only [length_cons, length_append] at hn
    obtain ⟨n, rfl⟩ : ∃ m, n = m + 1 := ⟨n - 1, by omega⟩
    have hk := readString_render k.toList n
      (':' :: (gap ++ (spaced gap v ++ (spacedMembers gap true ms ++ '\x7d' :: r)))) (by omega)
    have hv := readValue_spaced hgap v n (spacedMembers gap true ms ++ '\x7d' :: r) (by omega)
      (ends_spacedMembers ms r)
    rw [spacedMembers_false_cons, cons_append, append_assoc, cons_append,
      cons_append, append_assoc, append_assoc, readMembers, hk]
    simp only [ne_eq, not_true_eq_false, if_false, bind_eq_bind, bind_some,
      skipSpace_cons (show isSpace ':' = false by decide), head?_cons, tail_cons,
      skipSpace_gap hgap, skipSpace_spaced, hv]
    by_cases hnil : ms = []
    · rw [hnil, spacedMembers, nil_append, skipSpace_cons (by decide)]
      simp
    have hrest := readMembers_spaced hgap ms n r hnil
    obtain ⟨m, ms, rfl⟩ := exists_cons_of_ne_nil hnil
    rw [spacedMembers_true_cons, length_cons, length_append] at hn
    rw [spacedMembers_true_cons, cons_append, skipSpace_cons (by decide)]
    simp [skipSpace_gap hgap, (skipSpace_spacedMembers gap m ms _).1, hrest (by omega)]

end

mutual

theorem spaced_printable (hgap : ∀ c ∈ gap, 32 ≤ c.toNat) : ∀ (v : Json), ∀ c ∈ spaced gap v,
    32 ≤ c.toNat
  | .null => by rw [spaced]; decide
  | .bool true => by rw [spaced]; decide
  | .bool false => by rw [spaced]; decide
  | .int n => by rw [spaced]; exact fun c hc => (renderInt_ascii n c hc).1
  | .str s => by rw [spaced]; exact renderString_printable s
  | .arr items => by
    rw [spaced, forall_mem_cons, forall_mem_append]
    exact ⟨by decide, spacedItems_printable hgap false items, by decide⟩
  | .obj members => by
    rw [spaced, forall_mem_cons, forall_mem_append]
    exact ⟨by decide, spacedMembers_printable hgap false members, by decide⟩

theorem spacedItems_printable (hgap : ∀ c ∈ gap, 32 ≤ c.toNat) : ∀ (sep : Bool)
    (vs : List Json), ∀ c ∈ spacedItems gap sep vs, 32 ≤ c.toNat
  | _, [] => by simp [spacedItems]
  | sep, v :: vs => by
    simp only [spacedItems, forall_mem_append]
    exact ⟨separator_printable hgap sep, spaced_printable hgap v,
      spacedItems_printable hgap true vs⟩

theorem spacedMembers_printable (hgap : ∀ c ∈ gap, 32 ≤ c.toNat) : ∀ (sep : Bool)
    (ms : List (String × Json)), ∀ c ∈ spacedMembers gap sep ms, 32 ≤ c.toNat
  | _, [] => by simp [spacedMembers]
  | sep, (k, v) :: ms => by
    simp only [spacedMembers, forall_mem_append, forall_mem_cons]
    exact ⟨separator_printable hgap sep, renderString_printable k, by decide, hgap,
      spaced_printable hgap v, spacedMembers_printable hgap true ms⟩

end

variable {v : Json}

/-- **`loads` inverts the text of a value** without repeated keys; white space may follow. -/
theorem loads_spaced (hgap : ∀ c ∈ gap, isSpace c)
    (hv : v.distinctKeys) (hspace : ∀ c ∈ space, isSpace c) :
    loads (String.ofList (spaced gap v ++ space)) = some v := by
  have hends : Ends space := by
    intro c hc
    have hmem : isSpace c := hspace c (mem_of_mem_head? hc)
    simp only [isSpace, Bool.or_eq_true, beq_iff_eq] at hmem
    rcases hmem with ((rfl | rfl) | rfl) | rfl <;> decide
  have hread := readValue_spaced hgap v (2 * (spaced gap v ++ space).length) space
    (by rw [length_append]; omega) hends
  have hrest : skipSpace space = [] := dropWhile_eq_nil_iff.mpr hspace
  rw [loads, String.toList_ofList, parse, skipSpace_spaced, hread]
  simp [hrest, hv]

end Spaced

/-- **The compact text determines the value**, which is read back from it. -/
theorem render_injective (h : render v = render w) : v = w := by
  have hread : ∀ u : Json, readValue (2 * (render u).length) (render u) = some (u, []) := by
    intro u
    have hspaced := @readValue_spaced [] (by simp) u (2 * (render u).length) []
      (by rw [spaced_nil]) (by simp [Ends])
    rwa [spaced_nil, append_nil] at hspaced
  exact (Prod.mk.inj (Option.some.inj ((hread v).symm.trans (h ▸ hread w)))).1

theorem render_printable (v : Json) : ∀ c ∈ render v, 32 ≤ c.toNat := by
  rw [← spaced_nil]
  exact spaced_printable (by simp) v

theorem loads_render (hv : v.distinctKeys)
    (hspace : ∀ c ∈ space, isSpace c) :
    loads (String.ofList (render v ++ space)) = some v := by
  rw [← spaced_nil]
  exact loads_spaced (by simp) hv hspace

/-! ### Longer texts

What a reader has read stays the same when the text goes on behind it, except for a number at
the very end. -/

variable {n : Nat}

section Longer

variable {cs rest : List Char}

theorem skipSpace_append (h : skipSpace cs ≠ []) (q : List Char) :
    skipSpace (cs ++ q) = skipSpace cs ++ q := by
  rw [skipSpace, dropWhile_append, if_neg (by rwa [List.isEmpty_iff]), skipSpace]

/-- What `read` has read, `read'` reads when the text goes on. -/
def Extends {α : Type} (read read' : List Char → Option (α × List Char)) : Prop :=
  ∀ ⦃cs rest a⦄, read cs = some (a, rest) → ∀ q, read' (cs ++ q) = some (a, rest ++ q)

theorem Extends.map {α β : Type} {read read' : List Char → Option (α × List Char)}
    (h : Extends read read') (f : α → β) : Extends
      (fun cs => (read cs).map fun p => (f p.1, p.2))
      (fun cs => (read' cs).map fun p => (f p.1, p.2)) := by
  intro cs rest a hread q
  obtain ⟨⟨b, tail⟩, hb, hpair⟩ := map_eq_some_iff.mp hread
  cases hpair
  exact map_eq_some_iff.mpr ⟨_, h hb q, rfl⟩

theorem readHex_append : Extends readHex readHex := by
  intro cs rest n h q
  rcases cs with _ | ⟨a, _ | ⟨b, _ | ⟨c, _ | ⟨d, cs⟩⟩⟩⟩
  · cases h
  · cases h
  · cases h
  · cases h
  simp only [readHex, cons_append, bind_eq_bind, bind_eq_some_iff] at h ⊢
  obtain ⟨i, hi, j, hj, k, hk, l, hl, h⟩ := h
  cases h
  exact ⟨i, hi, j, hj, k, hk, l, hl, rfl⟩

theorem readUnicode_append : Extends readUnicode readUnicode := by
  intro cs rest c h q
  simp only [readUnicode, bind_eq_bind, bind_eq_some_iff] at h ⊢
  obtain ⟨⟨n, tail⟩, hhex, h⟩ := h
  refine ⟨⟨n, tail ++ q⟩, readHex_append hhex q, ?_⟩
  dsimp only at h ⊢
  split_ifs at h ⊢ with hhigh hlow
  · split at h
    · simp only [bind_eq_some_iff, cons_append] at h ⊢
      obtain ⟨⟨m, tail⟩, hhex, h⟩ := h
      refine ⟨⟨m, tail ++ q⟩, readHex_append hhex q, ?_⟩
      dsimp only at h ⊢
      split_ifs at h ⊢ with hlow
      obtain ⟨rfl, rfl⟩ := Prod.mk.inj (some_inj.mp h)
      rfl
    · cases h
  · cases h
    rfl

theorem readEscape_append : Extends readEscape readEscape := by
  intro cs rest c h q
  cases cs with
  | nil => cases h
  | cons e cs =>
    simp only [readEscape, cons_append] at h ⊢
    split_ifs at h ⊢ with hu hslash
    · exact readUnicode_append h q
    · cases h
      rfl
    · obtain ⟨p, hp, hpc⟩ := map_eq_some_iff.mp h
      cases hpc
      rw [hp, map_some]

theorem readString_append (hnm : n ≤ m) : Extends (readString n) (readString m) := by
  intro cs rest s h q
  induction n generalizing m cs s with
  | zero => simp [readString] at h
  | succ n ih =>
    obtain ⟨m, rfl⟩ : ∃ k, m = k + 1 := ⟨m - 1, by omega⟩
    cases cs with
    | nil => simp [readString] at h
    | cons c cs =>
      rw [readString] at h
      rw [cons_append, readString]
      split_ifs at h ⊢ with hquote hback hctrl
      · cases h
        rfl
      · simp only [bind_eq_bind, bind_eq_some_iff] at h ⊢
        obtain ⟨⟨d, tail⟩, hchar, ⟨ds, tail'⟩, hrest, h⟩ := h
        cases h
        exact ⟨⟨d, tail ++ q⟩, readEscape_append hchar q, ⟨ds, tail' ++ q⟩,
          ih (by omega) hrest, rfl⟩
      · cases h
      · simp only [bind_eq_bind, bind_some, bind_eq_some_iff] at h ⊢
        obtain ⟨⟨ds, tail'⟩, hrest, h⟩ := h
        cases h
        exact ⟨⟨ds, tail' ++ q⟩, ih (by omega) hrest, rfl⟩

theorem readDigits_append (h : readDigits cs = some (n, rest)) (hrest : rest ≠ [])
    (q : List Char) : readDigits (cs ++ q) = some (n, rest ++ q) := by
  have hdrop : cs.dropWhile Char.isDigit = rest := by
    rw [readDigits] at h
    split at h
    · cases h
    · exact (Prod.mk.inj (some_inj.mp h)).2
  have hdrop' : (cs ++ q).dropWhile Char.isDigit = rest ++ q := by
    rw [dropWhile_append, hdrop, if_neg (by simpa using hrest)]
  have htake' : (cs ++ q).takeWhile Char.isDigit = cs.takeWhile Char.isDigit := by
    have hall := takeWhile_append_dropWhile (p := Char.isDigit) (l := cs ++ q)
    have hcs := takeWhile_append_dropWhile (p := Char.isDigit) (l := cs)
    rw [hdrop', ← append_assoc, append_left_inj, ← hcs, hdrop, append_left_inj] at hall
    rw [← hall, ← hdrop, hcs]
  have hhead : (rest ++ q).head? = rest.head? := head?_append_of_ne_nil _ hrest
  rw [readDigits] at h ⊢
  simp only [htake', hdrop', hhead] at h ⊢
  rw [hdrop] at h
  split_ifs at h ⊢ with hgd
  rw [(Prod.mk.inj (some_inj.mp h)).1]

theorem readNumber_append (h : readNumber cs = some (v, rest)) (hrest : rest ≠ [])
    (q : List Char) : readNumber (cs ++ q) = some (v, rest ++ q) := by
  cases cs with
  | nil => cases h
  | cons c cs =>
    rw [readNumber] at h
    rw [cons_append, readNumber, ← cons_append]
    split_ifs at h ⊢ with hminus <;>
    · obtain ⟨⟨n, tail⟩, hdigits, hv⟩ := map_eq_some_iff.mp h
      cases hv
      rw [readDigits_append hdigits hrest q]
      rfl

theorem readWord_append {word : List Char} : Extends (readWord word v) (readWord word v) := by
  intro cs rest w h q
  rw [readWord] at h ⊢
  split_ifs at h with hword
  cases h
  obtain ⟨tail, rfl⟩ := isPrefixOf_iff_prefix.mp hword
  rw [if_pos ( isPrefixOf_iff_prefix.mpr ⟨tail ++ q, by simp⟩)]
  simp

theorem shape_readNumber (h : readNumber cs = some (v, rest)) : shape v = 6 := by
  cases cs with
  | nil => cases h
  | cons c cs =>
    rw [readNumber] at h
    split at h <;> obtain ⟨p, -, hv⟩ := map_eq_some_iff.mp h <;>
      rw [← (Prod.mk.inj hv).1] <;> rfl

theorem readItems_nil (n : Nat) : readItems n [] = none := by
  cases n with
  | zero => simp [readItems]
  | succ n => cases n <;> simp [readItems, readValue]

theorem readMembers_nil (n : Nat) : readMembers n [] = none := by
  cases n <;> simp [readMembers]

/-- The inside of an array or an object, which ends in `close`. -/
theorem inside_append {α : Type} {close : Char} {empty a : α}
    {read read' : List Char → Option (α × List Char)} (hread : Extends read read')
    (hnil : read [] = none)
    (h : (if (skipSpace cs).head? = some close then some (empty, (skipSpace cs).tail)
      else read (skipSpace cs)) = some (a, rest)) (q : List Char) :
    (if (skipSpace (cs ++ q)).head? = some close then some (empty, (skipSpace (cs ++ q)).tail)
      else read' (skipSpace (cs ++ q))) = some (a, rest ++ q) := by
  have hne : skipSpace cs ≠ [] := by
    intro hemp
    rw [hemp, hnil] at h
    cases h
  rw [skipSpace_append hne]
  have hhead : (skipSpace cs ++ q).head? = (skipSpace cs).head? :=
    head?_append_of_ne_nil _ hne
  by_cases hclose : (skipSpace cs).head? = some close
  · rw [if_pos hclose] at h
    cases h
    rw [if_pos (hhead.trans hclose), tail_append_of_ne_nil hne]
  · rw [if_neg hclose] at h
    rw [if_neg (hhead ▸ hclose)]
    exact hread h q

/-- What stands behind an item or a member: the end, or a comma and the others. -/
theorem behind_append {β : Type} {close : Char} {x : β} {xs : List β} {tail : List Char}
    {read read' : List Char → Option (List β × List Char)} (hread : Extends read read')
    (hnil : read [] = none)
    (h : (match skipSpace tail with
      | c :: after =>
        if c = close then some ([x], after)
        else if c = ',' then (read (skipSpace after)).bind fun p => some (x :: p.1, p.2)
        else none
      | [] => none) = some (xs, rest)) :
    tail ≠ [] ∧ ∀ q, (match skipSpace (tail ++ q) with
      | c :: after =>
        if c = close then some ([x], after)
        else if c = ',' then (read' (skipSpace after)).bind fun p => some (x :: p.1, p.2)
        else none
      | [] => none) = some (xs, rest ++ q) := by
  cases htail : skipSpace tail with
  | nil =>
    rw [htail] at h
    cases h
  | cons c after =>
    have hne : skipSpace tail ≠ [] := by rw [htail]; exact cons_ne_nil _ _
    refine ⟨by rintro rfl; exact hne rfl, fun q => ?_⟩
    rw [skipSpace_append hne, htail, cons_append]
    rw [htail] at h
    dsimp only at h ⊢
    split_ifs at h ⊢ with hclose hcomma
    · cases h
      rfl
    · obtain ⟨⟨others, rest'⟩, hoths, h⟩ := bind_eq_some_iff.mp h
      cases h
      have haft : skipSpace after ≠ [] := by
        intro hemp
        rw [hemp, hnil] at hoths
        cases hoths
      rw [skipSpace_append haft]
      exact bind_eq_some_iff.mpr ⟨_, hread hoths q, rfl⟩

/-- **What is read is read again when the text goes on**, with as much fuel or more; a number
must not stand at the end. -/
theorem read_append (n : Nat) :
    (∀ {m : Nat} {cs rest : List Char} {v : Json}, n ≤ m → readValue n cs = some (v, rest) →
      (rest ≠ [] ∨ shape v ≠ 6) → ∀ q, readValue m (cs ++ q) = some (v, rest ++ q)) ∧
    (∀ {m : Nat}, n ≤ m → Extends (readItems n) (readItems m)) ∧
    (∀ {m : Nat}, n ≤ m → Extends (readMembers n) (readMembers m)) := by
  induction n with
  | zero =>
    refine ⟨fun _ h => ?_, fun _ _ _ _ h => ?_, fun _ _ _ _ h => ?_⟩
    · simp [readValue] at h
    · simp [readItems] at h
    · simp [readMembers] at h
  | succ n ih =>
    obtain ⟨ihValue, ihItems, ihMembers⟩ := ih
    refine ⟨fun {m cs rest v} hnm h hend q => ?_, fun {m} hnm cs rest vs h q => ?_,
      fun {m} hnm cs rest ms h q => ?_⟩
    · obtain ⟨m, rfl⟩ : ∃ k, m = k + 1 := ⟨m - 1, by omega⟩
      have hle : n ≤ m := by omega
      cases cs with
      | nil => simp [readValue] at h
      | cons c cs =>
        rw [readValue] at h
        rw [cons_append, readValue]
        generalize shapeOf c = k at h ⊢
        split at h
        · exact readWord_append h q
        · exact readWord_append h q
        · exact readWord_append h q
        · exact (readString_append hle).map (fun s => Json.str (String.ofList s)) h q
        · exact inside_append ((ihItems hle).map Json.arr) (by rw [readItems_nil]; rfl) h q
        · exact inside_append ((ihMembers hle).map Json.obj)
            (by rw [readMembers_nil]; rfl) h q
        · exact readNumber_append h (hend.resolve_right fun hshape =>
            hshape (shape_readNumber h)) q
    · obtain ⟨m, rfl⟩ : ∃ k, m = k + 1 := ⟨m - 1, by omega⟩
      have hle : n ≤ m := by omega
      rw [readItems] at h ⊢
      simp only [bind_eq_bind, bind_eq_some_iff] at h ⊢
      obtain ⟨⟨v, tail⟩, hvalue, h⟩ := h
      obtain ⟨hne, hbeh⟩ := behind_append (ihItems hle) (readItems_nil n) h
      exact ⟨⟨v, tail ++ q⟩, ihValue hle hvalue (.inl hne) q, hbeh q⟩
    · obtain ⟨m, rfl⟩ : ∃ k, m = k + 1 := ⟨m - 1, by omega⟩
      have hle : n ≤ m := by omega
      cases cs with
      | nil => simp [readMembers] at h
      | cons c cs =>
        rw [readMembers] at h
        rw [cons_append, readMembers]
        by_cases hquote : c ≠ '"'
        · simp [hquote] at h
        simp only [if_neg hquote, bind_eq_bind, bind_eq_some_iff] at h ⊢
        obtain ⟨⟨key, tail⟩, hkey, h⟩ := h
        refine ⟨⟨key, tail ++ q⟩, readString_append hle hkey q, ?_⟩
        dsimp only at h ⊢
        cases hcolon : skipSpace tail with
        | nil => simp [hcolon] at h
        | cons d after =>
          have hne : skipSpace tail ≠ [] := by rw [hcolon]; exact cons_ne_nil _ _
          rw [skipSpace_append hne, hcolon, cons_append]
          rw [hcolon] at h
          by_cases hd : d = ':'
          · simp only [hd, head?_cons, ne_eq, not_true_eq_false, if_false,
              tail_cons, bind_eq_some_iff] at h ⊢
            obtain ⟨⟨v, tail'⟩, hvalue, h⟩ := h
            obtain ⟨hne', hbeh⟩ := behind_append (ihMembers hle)
              (readMembers_nil n) h
            have haft : skipSpace after ≠ [] := by
              intro hemp
              rw [hemp] at hvalue
              cases n <;> simp [readValue] at hvalue
            rw [skipSpace_append haft]
            exact ⟨⟨v, tail' ++ q⟩, ihValue hle hvalue (.inl hne') q, hbeh q⟩
          · simp [hd] at h

/-- **The text of an object is not read before its last character.** -/
theorem loads_proper {gap p q : List Char} (hgap : ∀ c ∈ gap, isSpace c)
    {members : List (String × Json)} (h : spaced gap (.obj members) = p ++ q) (hq : q ≠ []) :
    loads (String.ofList p) = none := by
  have hparse : parse p = none := by
    cases p with
    | nil => simp [parse, readValue]
    | cons c cs =>
      obtain rfl : '\x7b' = c := by
        rw [spaced, cons_append, List.cons.injEq] at h
        exact h.1
      have hskip : skipSpace ('\x7b' :: cs) = '\x7b' :: cs := skipSpace_cons (by decide) cs
      rw [parse, hskip]
      cases hread : readValue (2 * ('\x7b' :: cs).length) ('\x7b' :: cs) with
      | none => rfl
      | some found =>
        -- the object that was read would be read from the whole text, with something left
        obtain ⟨w, rest⟩ := found
        have hshape : shape w ≠ 6 := by
          rw [length_cons, Nat.mul_add, readValue] at hread
          simp only [shapeOf, Char.reduceEq, if_false, if_true] at hread
          split at hread
          · rw [← (Prod.mk.inj (some_inj.mp hread)).1]
            decide
          · obtain ⟨found, -, hfnd⟩ := map_eq_some_iff.mp hread
            rw [← (Prod.mk.inj hfnd).1]
            simp [shape]
        have hlen : 2 * ('\x7b' :: cs).length ≤ 2 * (spaced gap (.obj members)).length := by
          rw [h, length_append]
          omega
        have hwhole := (read_append _).1 hlen hread (.inr hshape) q
        have hends : Ends [] := by simp [Ends]
        have htext := readValue_spaced hgap (.obj members) _ [] le_rfl hends
        rw [append_nil] at htext
        rw [← h, htext] at hwhole
        have hrest := (Prod.mk.inj (some_inj.mp hwhole)).2
        exact absurd (append_eq_nil_iff.mp hrest.symm).2 hq
  rw [loads, String.toList_ofList, hparse]
  rfl

end Longer

/-! ### Distinct keys -/

theorem distinctItems_eq_all (vs : List Json) : distinctItems vs = vs.all distinctKeys := by
  induction vs with
  | nil => rfl
  | cons v vs ih => rw [distinctItems, ih, all_cons]

theorem distinctMembers_eq_all (ms : List (String × Json)) :
    distinctMembers ms = ms.all fun m => distinctKeys m.2 := by
  induction ms with
  | nil => rfl
  | cons m ms ih => rw [distinctMembers, ih, all_cons]

mutual

theorem distinctKeys_sortKeys : ∀ v : Json, distinctKeys (sortKeys v) = distinctKeys v
  | .null | .bool _ | .int _ | .str _ => rfl
  | .arr items => by rw [sortKeys, distinctKeys, distinctKeys, distinctItems_sortItems]
  | .obj members => by
    have hperm := perm_insertionSort (fun a b : String × Json => a.1 ≤ b.1)
      (sortMembers members)
    have hkeys := (hperm.map Prod.fst).nodup_iff
    rw [keys_sortMembers] at hkeys
    rw [sortKeys, distinctKeys, distinctKeys, distinctMembers_eq_all, hperm.all_eq,
      ← distinctMembers_eq_all, distinctMembers_sortMembers, decide_eq_decide.mpr hkeys]

theorem distinctItems_sortItems : ∀ vs : List Json, distinctItems (sortItems vs) = distinctItems vs
  | [] => rfl
  | v :: vs => by
    rw [sortItems, distinctItems, distinctItems, distinctKeys_sortKeys v,
      distinctItems_sortItems vs]

theorem distinctMembers_sortMembers : ∀ ms : List (String × Json),
    distinctMembers (sortMembers ms) = distinctMembers ms
  | [] => rfl
  | (_, v) :: ms => by
    rw [sortMembers, distinctMembers, distinctMembers, distinctKeys_sortKeys v,
      distinctMembers_sortMembers ms]

end

@[simp] theorem distinctKeys_arr (items : List Json) :
    distinctKeys (.arr items) = items.all distinctKeys := by
  rw [distinctKeys, distinctItems_eq_all]

theorem distinctKeys_record {fields : List (String × Option Json)}
    (hnd : (fields.map Prod.fst).Nodup)
    (hflds : fields.all (fun f => f.2.all distinctKeys)) :
    distinctKeys (record fields) := by
  have hsub : ((fields.filterMap fun f => f.2.map fun v => (f.1, v)).map Prod.fst).Sublist
      (fields.map Prod.fst) := by
    induction fields with
    | nil => exact List.Sublist.slnil
    | cons f fields ih =>
      rw [map_cons, nodup_cons] at hnd
      rw [all_cons, Bool.and_eq_true] at hflds
      obtain ⟨l, o⟩ := f
      cases o with
      | none =>
        rw [filterMap_cons_none (by rfl)]
        exact (ih hnd.2 hflds.2).cons _
      | some v =>
        rw [filterMap_cons_some (by rfl)]
        exact (ih hnd.2 hflds.2).cons_cons _
  rw [record, distinctKeys, distinctMembers_eq_all, Bool.and_eq_true]
  refine ⟨decide_eq_true (hnd.sublist hsub), ?_⟩
  rw [all_eq_true] at hflds ⊢
  intro m hm
  obtain ⟨f, hf, hfm⟩ := mem_filterMap.mp hm
  obtain ⟨v, hv, rfl⟩ := map_eq_some_iff.mp hfm
  have hall := hflds f hf
  rw [hv] at hall
  exact hall

end Json
