/-
Byte strings, UTF-8 and lines.

A file is a list of bytes.  A file of records has one record a line, each the UTF-8
text of the record behind which stands a newline; since the bytes of a character
outside ASCII are all above 127, a newline byte is always a newline.

* `decode_encode` — a text is read back from its bytes;
* `splitLines_flatten` — the lines of a file are the file;
* `splitLines_lines` — a file written line by line splits into these lines;
* `mapM_lines`, `map_write_of_mapM` — a reader of lines that inverts their writer does
  so on whole files, in both directions.
-/
import Mathlib.Data.String.Basic
import Mathlib.Data.List.Forall2

/-- The contents of a file. -/
abbrev Bytes := List UInt8

namespace Bytes

open List

/-! ### UTF-8 -/

/-- `text.encode("utf-8")`. -/
def encode (text : String) : Bytes := text.toUTF8.data.toList

/-- `payload.decode("utf-8")`; `none` where it raises. -/
def decode (payload : Bytes) : Option String := String.fromUTF8? ⟨payload.toArray⟩

@[simp] theorem decode_encode (text : String) : decode (encode text) = some text := by
  have hval : (⟨(encode text).toArray⟩ : ByteArray) = text.toByteArray := by
    simp [encode, String.toUTF8]
  rw [decode, String.fromUTF8?, dif_pos (by rw [hval]; exact text.isValidUTF8)]
  simp only [String.fromUTF8, hval]

theorem encode_injective : Function.Injective encode := by
  intro s t h
  have hdecode := congrArg decode h
  simpa using hdecode

theorem encode_ofList (cs : List Char) :
    encode (String.ofList cs) = cs.flatMap String.utf8EncodeChar := by
  rw [encode, String.toUTF8, String.toByteArray_ofList, List.utf8Encode]
  simp

/-- A byte below 128 is the whole encoding of a character. -/
theorem of_mem_utf8EncodeChar {b : UInt8} {c : Char} (hb : b < 128)
    (h : b ∈ String.utf8EncodeChar c) : c.toNat = b.toNat := by
  have hhigh : ∀ n, n < 256 → 128 ≤ n → b ≠ UInt8.ofNat n := by
    rintro n hn hge rfl
    rw [UInt8.lt_iff_toNat_lt, UInt8.toNat_ofNat_of_lt' hn] at hb
    exact absurd hb (by simp; omega)
  rw [String.utf8EncodeChar] at h
  split at h
  · rename_i hlow
    rw [mem_singleton] at h
    have hsize : c.val.toNat < UInt8.size := lt_of_le_of_lt hlow (by decide)
    rw [h, UInt8.toNat_ofNat_of_lt' hsize]
    rfl
  split at h
  · simp only [mem_cons, not_mem_nil, or_false] at h
    rcases h with h | h <;> exact absurd h (hhigh _ (by omega) (by omega))
  split at h
  · simp only [mem_cons, not_mem_nil, or_false] at h
    rcases h with h | h | h <;> exact absurd h (hhigh _ (by omega) (by omega))
  · simp only [mem_cons, not_mem_nil, or_false] at h
    rcases h with h | h | h | h <;> exact absurd h (hhigh _ (by omega) (by omega))

/-! ### Lines -/

/-- `payload.splitlines(keepends=True)` of a payload without carriage returns. -/
def splitLines : Bytes → List Bytes
  | [] => []
  | b :: bs =>
    if b = 10 then [b] :: splitLines bs
    else match splitLines bs with
      | [] => [[b]]
      | line :: lines => (b :: line) :: lines

theorem splitLines_flatten (payload : Bytes) : (splitLines payload).flatten = payload := by
  induction payload with
  | nil => rfl
  | cons b bs ih =>
    rw [splitLines]
    split
    · rw [flatten_cons, ih, singleton_append]
    cases hls : splitLines bs with
    | nil =>
      rw [hls] at ih
      rw [← ih]
      rfl
    | cons line lines =>
      rw [hls, flatten_cons] at ih
      rw [flatten_cons, cons_append, ih]

/-- A text without line breaks, and a newline behind it. -/
def IsLine (line : Bytes) : Prop := ∃ text : Bytes, line = text ++ [10] ∧ ∀ b ∈ text, 32 ≤ b

theorem splitLines_append {text : Bytes} (htext : ∀ b ∈ text, 32 ≤ b) (rest : Bytes) :
    splitLines (text ++ 10 :: rest) = (text ++ [10]) :: splitLines rest := by
  induction text with
  | nil => rfl
  | cons b text ih =>
    have hb : b ≠ 10 := by
      rintro rfl
      exact absurd (htext 10 (by simp)) (by decide)
    rw [cons_append, splitLines, if_neg hb, ih fun c hc => htext c (by simp [hc])]
    rfl

variable {lines : List Bytes}

/-- **A file written line by line splits into these lines.** -/
theorem splitLines_lines (h : ∀ line ∈ lines, IsLine line) : splitLines lines.flatten = lines := by
  induction lines with
  | nil => rfl
  | cons line lines ih =>
    obtain ⟨text, rfl, htext⟩ := h line (by simp)
    rw [flatten_cons, append_assoc, singleton_append, splitLines_append htext,
      ih fun l hl => h l (by simp [hl])]

/-- Such a file has no carriage return, and its last byte is a newline. -/
theorem flatten_lines (h : ∀ line ∈ lines, IsLine line) :
    13 ∉ lines.flatten ∧ (lines.flatten ≠ [] → lines.flatten.getLast? = some 10) := by
  constructor
  · intro hmem
    obtain ⟨line, hline, hb⟩ := mem_flatten.mp hmem
    obtain ⟨text, rfl, htext⟩ := h line hline
    rcases mem_append.mp hb with hb | hb
    · exact absurd (htext 13 hb) (by decide)
    · exact absurd (mem_singleton.mp hb) (by decide)
  · intro hne
    rcases eq_nil_or_concat' lines with rfl | ⟨init, line, rfl⟩
    · exact absurd rfl hne
    · obtain ⟨text, rfl, -⟩ := h line (by simp)
      rw [flatten_append, flatten_singleton, ← append_assoc, getLast?_concat]

/-! ### Records -/

section Records

variable {α ε : Type} {read : Bytes → Except ε α} {write : α → Bytes}

/-- What reads back each line that is written reads back the file. -/
theorem mapM_lines {normal : α → α} {records : List α}
    (hls : ∀ x ∈ records, IsLine (write x))
    (hread : ∀ x ∈ records, read (write x) = .ok (normal x)) :
    (splitLines (records.map write).flatten).mapM read = .ok (records.map normal) := by
  rw [splitLines_lines fun line hline => by
    obtain ⟨x, hx, rfl⟩ := mem_map.mp hline
    exact hls x hx]
  induction records with
  | nil => rfl
  | cons x records ih =>
    rw [map_cons, mapM_cons, hread x (by simp),
      ih (fun y hy => hls y (by simp [hy])) fun y hy => hread y (by simp [hy])]
    rfl

/-- What reads a list item by item reads every item. -/
theorem forall₂_of_mapM {β : Type} {f : β → Except ε α} {xs : List β} {ys : List α}
    (h : xs.mapM f = .ok ys) : List.Forall₂ (fun x y => f x = .ok y) xs ys := by
  induction xs generalizing ys with
  | nil =>
    rw [mapM_nil] at h
    cases h
    exact .nil
  | cons x xs ih =>
    rw [mapM_cons] at h
    cases hx : f x with
    | error e => simp [hx, bind, Except.bind] at h
    | ok y =>
      cases hxs : xs.mapM f with
      | error e => simp [hx, hxs, bind, Except.bind] at h
      | ok rest =>
        simp only [hx, hxs, bind, Except.bind, pure, Except.pure, Except.ok.injEq] at h
        subst h
        exact .cons hx (ih hxs)

/-- Every item that is read comes from some item, and every item is read. -/
theorem exists_of_mapM {β : Type} {f : β → Except ε α} {xs : List β} {ys : List α}
    (h : xs.mapM f = .ok ys) :
    (∀ y ∈ ys, ∃ x, f x = .ok y) ∧ ∀ x ∈ xs, ∃ y, f x = .ok y := by
  have hpairs := forall₂_of_mapM h
  clear h
  induction hpairs with
  | nil => simp
  | cons hx _ ih =>
    rw [forall_mem_cons, forall_mem_cons]
    exact ⟨⟨⟨_, hx⟩, ih.1⟩, ⟨_, hx⟩, ih.2⟩

/-- What accepts a line only as it would write it accepts a file only so. -/
theorem map_write_of_mapM (hread : ∀ line x, read line = .ok x → write x = line) {records : List α}
    (h : lines.mapM read = .ok records) :
    records.map write = lines := by
  have hpairs := forall₂_of_mapM h
  clear h
  induction hpairs with
  | nil => rfl
  | cons hx _ ih => rw [map_cons, hread _ _ hx, ih]

end Records

end Bytes
