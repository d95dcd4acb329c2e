/-
Files with one JSON object a line, read through `str.splitlines`.

A record is appended as its JSON text and a newline.  The reader splits the text of the file
at every line boundary of Unicode, skips blank lines and decodes the others.  The encoder
escapes the control characters and leaves every other character as it is, and three of those
are line boundaries too.

The JSON module is a parameter: `Codec` is what `json.dumps(…, ensure_ascii=False)` and
`json.loads` are, and `Codec.Lawful` what is known of them.

* `splitlines_append` — lines that are closed are split on their own;
* `read_append_iff` — **a record is read back behind the others exactly when none of its
  strings holds a line boundary outside ASCII**;
* `read_written`, `read_clean` — what a file is read as, and that it is read back if no record
  holds such a boundary;
* `Json.lawful_codec` — JSON values and their texts are such a module.
-/
import Mathlib.Data.List.Induction
import Valp.JsonParse

namespace JsonLines

open List

/-! ### Lines of a text -/

/-- The line boundaries of `str.splitlines`. -/
def isBoundary (c : Char) : Bool :=
  c == '\n' || c == '\r' || c == '\x0b' || c == '\x0c' || c == '\x1c' || c == '\x1d' ||
    c == '\x1e' || c == '\x85' || c == '\u2028' || c == '\u2029'

/-- The line boundaries outside ASCII. -/
def wideBoundaries : List Char := ['\x85', '\u2028', '\u2029']

/-- `text.splitlines()`. -/
def splitlines : List Char → List (List Char)
  | [] => []
  | '\r' :: '\n' :: cs => [] :: splitlines cs
  | c :: cs =>
    if isBoundary c then [] :: splitlines cs
    else
      match splitlines cs with
      | [] => [[c]]
      | line :: lines => (c :: line) :: lines

/-- The characters that `str.strip` removes. -/
def isWhite (c : Char) : Bool :=
  (9 ≤ c.toNat && c.toNat ≤ 13) || (28 ≤ c.toNat && c.toNat ≤ 32) || c.toNat == 0x85 ||
    c.toNat == 0xA0 || c.toNat == 0x1680 || (0x2000 ≤ c.toNat && c.toNat ≤ 0x200A) ||
    c.toNat == 0x2028 || c.toNat == 0x2029 || c.toNat == 0x202F || c.toNat == 0x205F ||
    c.toNat == 0x3000

/-- `not line.strip()`. -/
def isBlank (line : List Char) : Bool := line.all isWhite

variable {c : Char}

theorem isBoundary_printable (hc : 32 ≤ c.toNat) :
    isBoundary c ↔ c ∈ wideBoundaries := by
  have hlow : ∀ d : Char, d.toNat < 32 → c ≠ d := by
    rintro d hd rfl
    omega
  simp [isBoundary, wideBoundaries, hlow '\n' (by decide), hlow '\r' (by decide),
    hlow '\x0b' (by decide), hlow '\x0c' (by decide), hlow '\x1c' (by decide),
    hlow '\x1d' (by decide), hlow '\x1e' (by decide), or_assoc]

theorem splitlines_cons (h : isBoundary c = false) (cs : List Char) :
    splitlines (c :: cs) = match splitlines cs with
      | [] => [[c]]
      | line :: lines => (c :: line) :: lines := by
  have hret : c ≠ '\r' := by rintro rfl; exact absurd h (by decide)
  rw [splitlines, if_neg (by simp [h])]
  exact fun _ heq _ => hret heq

theorem splitlines_boundary (h : isBoundary c) (hret : c ≠ '\r')
    (cs : List Char) : splitlines (c :: cs) = [] :: splitlines cs := by
  rw [splitlines, if_pos h]
  exact fun _ heq _ => hret heq

variable {text : List Char}

theorem splitlines_ne_nil (h : text ≠ []) : splitlines text ≠ [] := by
  obtain ⟨c, cs, rfl⟩ := exists_cons_of_ne_nil h
  rw [splitlines.eq_def]
  split
  · rename_i heq
    cases heq
  · exact cons_ne_nil _ _
  · split
    · exact cons_ne_nil _ _
    · split <;> exact cons_ne_nil _ _

/-- A text without line boundaries is the start of the first line. -/
theorem splitlines_line (h : ∀ c ∈ text, isBoundary c = false) {b : Char}
    (hb : isBoundary b) (hret : b ≠ '\r') (rest : List Char) :
    splitlines (text ++ b :: rest) = text :: splitlines rest := by
  induction text with
  | nil => exact splitlines_boundary hb hret rest
  | cons c text ih =>
    rw [forall_mem_cons] at h
    rw [cons_append, splitlines_cons h.1, ih h.2]

/-- **Lines that are closed are split on their own.** -/
theorem splitlines_append (h : '\r' ∉ text) (rest : List Char) :
    splitlines (text ++ '\n' :: rest) = splitlines (text ++ ['\n']) ++ splitlines rest := by
  have hnewline : ∀ cs, splitlines ('\n' :: cs) = [] :: splitlines cs :=
    splitlines_boundary (by decide) (by decide)
  induction text with
  | nil =>
    rw [nil_append, nil_append, hnewline, hnewline]
    rfl
  | cons c text ih =>
    rw [mem_cons, not_or] at h
    rw [cons_append, cons_append]
    cases hc : isBoundary c with
    | true =>
      rw [splitlines_boundary hc (Ne.symm h.1), splitlines_boundary hc (Ne.symm h.1), ih h.2]
      rfl
    | false =>
      rw [splitlines_cons hc, splitlines_cons hc, ih h.2]
      have hclosed : text ++ ['\n'] ≠ [] := by simp
      obtain ⟨line, lines, hls⟩ := exists_cons_of_ne_nil (splitlines_ne_nil hclosed)
      rw [hls]
      rfl

/-- What `read_text` makes of the ends of lines. -/
def universalNewlines : List Char → List Char
  | [] => []
  | '\r' :: '\n' :: cs => '\n' :: universalNewlines cs
  | '\r' :: cs => '\n' :: universalNewlines cs
  | c :: cs => c :: universalNewlines cs

theorem universalNewlines_eq (h : '\r' ∉ text) : universalNewlines text = text := by
  induction text with
  | nil => rfl
  | cons c text ih =>
    rw [mem_cons, not_or] at h
    rw [universalNewlines, ih h.2]
    · exact fun _ heq _ => h.1 heq.symm
    · exact fun heq => h.1 heq.symm

/-! ### Records -/

/-- A JSON module: the texts of its values, with or without sorted keys, and their reader.
`normal` is the same value with its keys in the order of the text, and `characters` are those
of the strings and the keys of a value. -/
structure Codec (J : Type) where
  dumps : Bool → J → List Char
  loads : List Char → Option J
  isObject : J → Bool
  normal : Bool → J → J
  characters : J → List Char

/-- What is known of the module, for objects. -/
structure Codec.Lawful {J : Type} (json : Codec J) : Prop where
  /-- Decoding inverts encoding. -/
  loads_dumps : ∀ sort v, json.isObject v = true →
    json.loads (json.dumps sort v) = some (json.normal sort v)
  isObject_normal : ∀ sort v, json.isObject (json.normal sort v) = json.isObject v
  /-- Control characters are escaped. -/
  printable : ∀ sort v, ∀ c ∈ json.dumps sort v, 32 ≤ c.toNat
  /-- A text outside ASCII stands for itself, and all else is ASCII. -/
  wide : ∀ sort v c, 127 < c.toNat → (c ∈ json.dumps sort v ↔ c ∈ json.characters v)
  /-- An object starts with its brace. -/
  opens : ∀ sort v, json.isObject v = true → ∃ rest, json.dumps sort v = '\x7b' :: rest
  /-- An object is not read before its last character. -/
  proper : ∀ sort v p q, json.isObject v = true → json.dumps sort v = p ++ q → q ≠ [] →
    json.loads p = none

section Records

variable {J : Type} (json : Codec J) (sort : Bool)

/-- Why a line is refused. -/
inductive Fault where
  | malformed (line : ℕ)
  | notObject (line : ℕ)
  deriving DecidableEq, Repr

/-- The records on lines of which the first has the number `n`. -/
def readRecords : ℕ → List (List Char) → Except Fault (List J)
  | _, [] => .ok []
  | n, line :: lines =>
    if isBlank line then readRecords (n + 1) lines
    else
      match json.loads line with
      | none => .error (.malformed n)
      | some v =>
        if !json.isObject v then .error (.notObject n)
        else
          match readRecords (n + 1) lines with
          | .error fault => .error fault
          | .ok vs => .ok (v :: vs)

def append (file : Option (List Char)) (v : J) : Option (List Char) :=
  some (file.getD [] ++ (json.dumps sort v ++ ['\n']))

def read : Option (List Char) → Except Fault (List J)
  | none => .ok []
  | some text => readRecords json 1 (splitlines (universalNewlines text))

/-- A file that is written by `append` alone. -/
def written (records : List J) : Option (List Char) := records.foldl (append json sort) none

end Records

section Laws

variable {J : Type} {json : Codec J} {sort : Bool} {v : J} {records before : List J}

theorem written_concat : written json sort (records ++ [v]) =
    append json sort (written json sort records) v := by
  rw [written, foldl_append]
  rfl

theorem written_text (hjson : json.Lawful) (sort : Bool) (records : List J) :
    '\r' ∉ (written json sort records).getD [] ∧
      ((written json sort records).getD [] = [] ∨
        ∃ text, (written json sort records).getD [] = text ++ ['\n']) := by
  induction records using List.reverseRecOn with
  | nil => simp [written]
  | append_singleton records v ih =>
    rw [written_concat, append, Option.getD_some]
    refine ⟨?_, .inr ⟨_, (append_assoc _ _ _).symm⟩⟩
    simp only [mem_append, not_or]
    refine ⟨ih.1, fun hmem => ?_, by decide⟩
    exact absurd (hjson.printable sort v _ hmem) (by decide)

theorem readRecords_append (first second : List (List Char)) (n : ℕ) :
    readRecords json n (first ++ second) =
      match readRecords json n first with
      | .error fault => .error fault
      | .ok vs =>
        match readRecords json (n + first.length) second with
        | .error fault => .error fault
        | .ok ws => .ok (vs ++ ws) := by
  induction first generalizing n with
  | nil =>
    simp only [nil_append, readRecords, length_nil, Nat.add_zero]
    cases readRecords json n second <;> rfl
  | cons line first ih =>
    have hlen : n + 1 + first.length = n + (line :: first).length := by
      rw [length_cons]
      omega
    rw [cons_append, readRecords, readRecords, ih, hlen]
    split
    · rfl
    split
    · rfl
    split
    · rfl
    · cases readRecords json (n + 1) first with
      | error fault => rfl
      | ok vs => cases readRecords json (n + (line :: first).length) second <;> rfl

theorem lines_append (hjson : json.Lawful) (records : List J) (v : J) :
    splitlines ((written json sort records).getD [] ++ (json.dumps sort v ++ ['\n'])) =
      splitlines ((written json sort records).getD []) ++
        splitlines (json.dumps sort v ++ ['\n']) := by
  obtain ⟨hret, hemp | ⟨text, htext⟩⟩ := written_text hjson sort records
  · rw [hemp]
    rfl
  · rw [htext] at hret ⊢
    rw [append_assoc, singleton_append, splitlines_append]
    exact fun hmem => hret (mem_append_left _ hmem)

theorem read_append (hjson : json.Lawful) (records : List J) (v : J) :
    read json (append json sort (written json sort records) v) =
      match read json (written json sort records) with
      | .error fault => .error fault
      | .ok vs =>
        match readRecords json (1 + (splitlines ((written json sort records).getD [])).length)
            (splitlines (json.dumps sort v ++ ['\n'])) with
        | .error fault => .error fault
        | .ok ws => .ok (vs ++ ws) := by
  have hread : read json (written json sort records) =
      readRecords json 1 (splitlines ((written json sort records).getD [])) := by
    cases hfile : written json sort records with
    | none => rfl
    | some text =>
      have hret := (written_text hjson sort records).1
      rw [hfile, Option.getD_some] at hret
      rw [read, universalNewlines_eq hret, Option.getD_some]
  have hret := (written_text hjson sort (records ++ [v])).1
  rw [written_concat] at hret
  rw [append, Option.getD_some] at hret
  rw [append, read, universalNewlines_eq hret, lines_append hjson, readRecords_append, hread]

/-- The first line boundary of a text. -/
theorem exists_first_boundary {c : Char} (hc : c ∈ text)
    (hbdry : isBoundary c) : ∃ line b rest, text = line ++ b :: rest ∧
      (∀ d ∈ line, isBoundary d = false) ∧ isBoundary b := by
  induction text with
  | nil => cases hc
  | cons d text ih =>
    cases hd : isBoundary d with
    | true => exact ⟨[], d, text, rfl, by simp, hd⟩
    | false =>
      have hmem : c ∈ text := (mem_cons.mp hc).resolve_left (by rintro rfl; simp_all)
      obtain ⟨line, b, rest, rfl, hline, hb⟩ := ih hmem
      exact ⟨d :: line, b, rest, rfl, forall_mem_cons.mpr ⟨hd, hline⟩, hb⟩

/-- The line of a record: it is read back, or it is split inside. -/
theorem readRecords_line (hjson : json.Lawful) (hv : json.isObject v) (n : ℕ) :
    readRecords json n (splitlines (json.dumps sort v ++ ['\n'])) =
      if ∀ c ∈ json.characters v, c ∉ wideBoundaries then .ok [json.normal sort v]
      else .error (.malformed n) := by
  obtain ⟨tail, hopen⟩ := hjson.opens sort v hv
  have hblank : ∀ rest, isBlank ('\x7b' :: rest) = false := fun rest => rfl
  have hwide : ∀ c, c ∈ wideBoundaries → 127 < c.toNat := by decide
  by_cases hcln : ∀ c ∈ json.characters v, c ∉ wideBoundaries
  · -- the text has no boundary and is one line
    have hline : ∀ c ∈ json.dumps sort v, isBoundary c = false := by
      intro c hc
      rw [Bool.eq_false_iff, Ne, isBoundary_printable (hjson.printable sort v c hc)]
      intro hbdry
      exact hcln c ((hjson.wide sort v c (hwide c hbdry)).mp hc) hbdry
    rw [if_pos hcln, splitlines_line hline (by decide) (by decide), splitlines, readRecords]
    rw [hjson.loads_dumps sort v hv]
    have hnotBlank : isBlank (json.dumps sort v) = false := by rw [hopen]; exact hblank tail
    simp [hnotBlank, hjson.isObject_normal, hv, readRecords]
  · -- what stands before the first boundary is not a JSON text
    rw [if_neg hcln]
    push Not at hcln
    obtain ⟨c, hc, hbdry⟩ := hcln
    have hmem : c ∈ json.dumps sort v := (hjson.wide sort v c (hwide c hbdry)).mpr hc
    obtain ⟨line, b, rest, htext, hline, hb⟩ := exists_first_boundary hmem
      ((isBoundary_printable (hjson.printable sort v c hmem)).mpr hbdry)
    have hret : b ≠ '\r' := by
      rintro rfl
      exact absurd (hjson.printable sort v '\r' (by rw [htext]; simp)) (by decide)
    have hload := hjson.proper sort v line (b :: rest) hv htext (cons_ne_nil _ _)
    have hnotBlank : isBlank line = false := by
      rcases line with _ | ⟨d, line⟩
      · rw [hopen, nil_append, List.cons.injEq] at htext
        rw [← htext.1] at hb
        exact absurd hb (by decide)
      · rw [hopen, cons_append, List.cons.injEq] at htext
        rw [← htext.1]
        exact hblank line
    rw [htext, append_assoc, cons_append, splitlines_line hline hb hret, readRecords, hload]
    simp [hnotBlank]

/-- **A record is read back behind the others exactly when none of its strings holds a line
boundary outside ASCII.** -/
theorem read_append_iff (hjson : json.Lawful) (hv : json.isObject v)
    (hread : read json (written json sort records) = .ok before) :
    read json (append json sort (written json sort records) v) =
        .ok (before ++ [json.normal sort v]) ↔
      ∀ c ∈ json.characters v, c ∉ wideBoundaries := by
  rw [read_append hjson, hread, readRecords_line hjson hv]
  by_cases hcln : ∀ c ∈ json.characters v, c ∉ wideBoundaries
  · simp only [if_pos hcln]
    exact iff_of_true trivial hcln
  · simp only [if_neg hcln]
    exact iff_of_false nofun hcln

/-- **What a file is read as**: its records, or nothing if one of them is split inside. -/
theorem read_written (hjson : json.Lawful) (hrcds : ∀ v ∈ records, json.isObject v) :
    read json (written json sort records) = .ok (records.map (json.normal sort)) ∨
      ∃ fault, read json (written json sort records) = .error fault := by
  induction records using List.reverseRecOn with
  | nil => exact .inl rfl
  | append_singleton records v ih =>
    rw [forall_mem_append, forall_mem_singleton] at hrcds
    rw [written_concat, read_append hjson, readRecords_line hjson hrcds.2]
    rcases ih hrcds.1 with hread | ⟨fault, hread⟩
    · rw [hread]
      by_cases hcln : ∀ c ∈ json.characters v, c ∉ wideBoundaries
      · left
        simp only [if_pos hcln, map_append, map_singleton]
      · right
        simp only [if_neg hcln]
        exact ⟨_, rfl⟩
    · rw [hread]
      exact .inr ⟨fault, rfl⟩

/-- A file whose records hold no line boundary outside ASCII is read back. -/
theorem read_clean (hjson : json.Lawful) (hrcds : ∀ v ∈ records, json.isObject v)
    (hcln : ∀ v ∈ records, ∀ c ∈ json.characters v, c ∉ wideBoundaries) :
    read json (written json sort records) = .ok (records.map (json.normal sort)) := by
  induction records using List.reverseRecOn with
  | nil => rfl
  | append_singleton records v ih =>
    rw [forall_mem_append, forall_mem_singleton] at hrcds hcln
    rw [written_concat, map_append, map_singleton]
    exact (read_append_iff hjson hrcds.2 (ih hrcds.1 hcln.1)).mpr hcln.2

end Laws

end JsonLines

/-! ### The JSON module of `Json` -/

namespace Json

mutual

/-- The characters of the strings and the keys of a value. -/
def characters : Json → List Char
  | .str s => s.toList
  | .arr items => itemCharacters items
  | .obj members => memberCharacters members
  | .null | .bool _ | .int _ => []

def itemCharacters : List Json → List Char
  | [] => []
  | v :: vs => characters v ++ itemCharacters vs

def memberCharacters : List (String × Json) → List Char
  | [] => []
  | (k, v) :: ms => k.toList ++ (characters v ++ memberCharacters ms)

end

theorem memberCharacters_eq (ms : List (String × Json)) :
    memberCharacters ms = ms.flatMap fun m => m.1.toList ++ characters m.2 := by
  induction ms with
  | nil => rfl
  | cons m ms ih => rw [memberCharacters, ih, List.flatMap_cons, List.append_assoc]

section Wide

variable {c : Char} (hc : 127 < c.toNat)

include hc

theorem notMem_ascii {text : List Char} (h : ∀ d ∈ text, d.toNat ≤ 127) : c ∉ text := by
  intro hmem
  have hascii := h c hmem
  omega

theorem ne_of_wide {d : Char} (hd : d.toNat ≤ 127) : c ≠ d := by
  rintro rfl
  omega

/-- A character outside ASCII is not escaped, and no escape holds one. -/
theorem mem_renderString_wide {s : String} : c ∈ renderString s ↔ c ∈ s.toList := by
  have hescape : ∀ d, c ∈ escapeChar d ↔ c = d := by
    intro d
    rw [escapeChar]
    cases hlook : shortEscapes.lookup d with
    | some e =>
      have hascii : ∀ p ∈ shortEscapes, p.1.toNat ≤ 127 ∧ p.2.toNat ≤ 127 := by decide
      obtain ⟨hd, he⟩ := hascii _ (mem_of_lookup hlook)
      exact iff_of_false (notMem_ascii hc (by simpa using he)) (ne_of_wide hc hd)
    | none =>
      dsimp only
      split_ifs with hctrl
      · have hhex : ∀ n < 16, (Nat.digitChar n).toNat ≤ 127 := by decide
        have hhigh := hhex (d.toNat / 16) (by omega)
        have hlow := hhex (d.toNat % 16) (by omega)
        exact iff_of_false (notMem_ascii hc (by simpa using ⟨hhigh, hlow⟩))
          (ne_of_wide hc (by omega))
      · simp
  simp [renderString, List.mem_flatMap, hescape, ne_of_wide hc (d := '"') (by decide)]

theorem notMem_separator_wide (sep : Bool) : c ∉ (if sep then [',', ' '] else []) := by
  cases sep <;> simp [ne_of_wide hc (d := ',') (by decide), ne_of_wide hc (d := ' ') (by decide)]

mutual

/-- Outside ASCII a text has the characters of its strings. -/
theorem mem_spaced_wide : ∀ v : Json, c ∈ spaced [' '] v ↔ c ∈ characters v
  | .null => by
    have hascii : ∀ d ∈ render .null, d.toNat ≤ 127 := by decide
    simp [spaced, characters, notMem_ascii hc hascii]
  | .bool b => by
    have hascii : ∀ d ∈ render (.bool b), d.toNat ≤ 127 := by cases b <;> decide
    simp [spaced, characters, notMem_ascii hc hascii]
  | .int n => by
    simp [spaced, characters, notMem_ascii hc fun d hd => (renderInt_ascii n d hd).2]
  | .str s => by rw [spaced, characters, mem_renderString_wide hc]
  | .arr items => by
    rw [spaced, characters, ← mem_spacedItems_wide false items]
    simp [ne_of_wide hc (d := '[') (by decide), ne_of_wide hc (d := ']') (by decide)]
  | .obj members => by
    rw [spaced, characters, ← mem_spacedMembers_wide false members]
    simp [ne_of_wide hc (d := '\x7b') (by decide), ne_of_wide hc (d := '\x7d') (by decide)]

theorem mem_spacedItems_wide : ∀ (sep : Bool) (vs : List Json),
    c ∈ spacedItems [' '] sep vs ↔ c ∈ itemCharacters vs
  | _, [] => by simp [spacedItems, itemCharacters]
  | sep, v :: vs => by
    rw [spacedItems, itemCharacters, List.mem_append, List.mem_append, List.mem_append,
      mem_spaced_wide v, mem_spacedItems_wide true vs, or_iff_right (notMem_separator_wide hc sep)]

theorem mem_spacedMembers_wide : ∀ (sep : Bool) (ms : List (String × Json)),
    c ∈ spacedMembers [' '] sep ms ↔ c ∈ memberCharacters ms
  | _, [] => by simp [spacedMembers, memberCharacters]
  | sep, (k, v) :: ms => by
    rw [spacedMembers, memberCharacters, List.mem_append, List.mem_append, List.mem_append,
      List.mem_append, List.mem_cons, List.mem_append, List.mem_append, mem_spaced_wide v,
      mem_spacedMembers_wide true ms, mem_renderString_wide hc,
      or_iff_right (notMem_separator_wide hc sep)]
    simp [ne_of_wide hc (d := ':') (by decide), ne_of_wide hc (d := ' ') (by decide)]

end

end Wide

mutual

variable {c : Char}

theorem mem_characters_sortKeys : ∀ v : Json, c ∈ characters (sortKeys v) ↔ c ∈ characters v
  | .null | .bool _ | .int _ | .str _ => by rfl
  | .arr items => by
    rw [sortKeys, characters, characters, mem_itemCharacters_sort]
  | .obj members => by
    have hperm := List.perm_insertionSort (fun a b : String × Json => a.1 ≤ b.1)
      (sortMembers members)
    rw [sortKeys, characters, characters, memberCharacters_eq,
      (hperm.flatMap_right _).mem_iff, ← memberCharacters_eq, mem_memberCharacters_sort]

theorem mem_itemCharacters_sort : ∀ vs : List Json,
    c ∈ itemCharacters (sortItems vs) ↔ c ∈ itemCharacters vs
  | [] => by rfl
  | v :: vs => by
    rw [sortItems, itemCharacters, itemCharacters, List.mem_append, List.mem_append,
      mem_characters_sortKeys v, mem_itemCharacters_sort vs]

theorem mem_memberCharacters_sort : ∀ ms : List (String × Json),
    c ∈ memberCharacters (sortMembers ms) ↔ c ∈ memberCharacters ms
  | [] => by rfl
  | (k, v) :: ms => by
    rw [sortMembers, memberCharacters, memberCharacters, List.mem_append, List.mem_append,
      List.mem_append, List.mem_append, mem_characters_sortKeys v, mem_memberCharacters_sort ms]

end

/-- The values that Python has: no dictionary repeats a key. -/
abbrev Value := { v : Json // v.distinctKeys = true }

/-- The keys of a value in the order of its text. -/
def Value.normal (sort : Bool) (v : Value) : Value :=
  if sort then ⟨sortKeys v.1, by rw [distinctKeys_sortKeys]; exact v.2⟩ else v

theorem distinctKeys_of_loads {text : String} {v : Json} (h : loads text = some v) :
    v.distinctKeys := by
  rw [loads, Option.filter_eq_some_iff] at h
  exact h.2

theorem shape_sortKeys (v : Json) : (sortKeys v).shape = v.shape := by
  cases v <;> rfl

theorem Value.shape_normal (sort : Bool) (v : Value) : (v.normal sort).1.shape = v.1.shape := by
  cases sort with
  | false => rfl
  | true => exact shape_sortKeys v.1

theorem exists_members {v : Json} (h : v.shape = 5) : ∃ members, v = .obj members := by
  cases v with
  | obj members => exact ⟨members, rfl⟩
  | bool b => cases b <;> cases h
  | null | int _ | str _ | arr _ => cases h

/-- `json.dumps(…, ensure_ascii=False)` and `json.loads`. -/
def codec : JsonLines.Codec Value where
  dumps sort v := spaced [' '] (v.normal sort).1
  loads text := (Json.loads (String.ofList text)).attach.map fun v =>
    ⟨v.1, distinctKeys_of_loads v.2⟩
  isObject v := v.1.shape == 5
  normal sort v := v.normal sort
  characters v := characters v.1

theorem normal_eq_obj {sort : Bool} {v : Value} (hv : codec.isObject v = true) :
    ∃ members, (v.normal sort).1 = .obj members := by
  refine exists_members ?_
  rw [Value.shape_normal]
  simpa [codec] using hv

/-- **They are a lawful module.** -/
theorem lawful_codec : codec.Lawful where
  loads_dumps sort v _ := by
    have hgap : ∀ c ∈ [' '], isSpace c := by decide
    have hload := loads_spaced hgap (v.normal sort).2 (List.forall_mem_nil _)
    rw [List.append_nil] at hload
    simp only [codec]
    rw [Option.map_eq_some_iff]
    exact ⟨⟨_, hload⟩, Option.mem_attach _ _, rfl⟩
  isObject_normal sort v := by
    simp only [codec, Value.shape_normal]
  printable sort v := spaced_printable (by decide) _
  wide sort v c hc := by
    simp only [codec]
    rw [mem_spaced_wide hc]
    cases sort with
    | false => rfl
    | true => exact mem_characters_sortKeys v.1
  opens sort v hv := by
    obtain ⟨members, hmbs⟩ := normal_eq_obj hv
    exact ⟨_, by simp only [codec]; rw [hmbs, spaced]⟩
  proper sort v p q hv htext hq := by
    obtain ⟨members, hmbs⟩ := normal_eq_obj hv
    simp only [codec] at htext ⊢
    rw [hmbs] at htext
    have hload := loads_proper (by decide) htext hq
    rw [Option.map_eq_none_iff, Option.attach_eq_none_iff]
    exact hload

end Json
