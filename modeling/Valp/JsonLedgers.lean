/-
The JSONL ledgers (`valp_cli/continuation.py`, `workflow.py`, `control_plane.py`).

Three pairs of a writer and a reader of files with one JSON object a line: the event ledger
of a `ContinuationStore`, the ledgers of a task directory and those of the control plane.
They print the record without escaping what lies outside ASCII and read the file through
`str.splitlines`.  A file is its text: a file that these writers alone have written is UTF-8.
The decoder's own message at the end of an error is left out.

* `jsonl_round_trip_iff` — **which records are read back behind those before them**.
-/
import Valp.JsonLines

namespace Valp.Ledgers

open JsonLines (Codec Fault wideBoundaries)

section Pairs

variable {J : Type} (json : Codec J)

/-- The write of `ContinuationStore._append`. -/
def continuationAppend (file : Option (List Char)) (record : J) : Option (List Char) :=
  JsonLines.append json true file record

/-- `ContinuationStore._events`. -/
def continuationEvents (file : Option (List Char)) : Except String (List J) :=
  (JsonLines.read json file).mapError fun
    | .malformed n => "malformed continuation ledger line " ++ toString n
    | .notObject n => "invalid continuation ledger line " ++ toString n

def appendJsonLineDurable (file : Option (List Char)) (record : J) : Option (List Char) :=
  JsonLines.append json false file record

def readJsonLinesStrict (name : String) (file : Option (List Char)) : Except String (List J) :=
  (JsonLines.read json file).mapError fun
    | .malformed n => "Invalid JSONL record at " ++ name ++ ":" ++ toString n ++ ": "
    | .notObject n => "Invalid JSONL record at " ++ name ++ ":" ++ toString n ++
      ": expected object"

def appendJsonl (file : Option (List Char)) (record : J) : Option (List Char) :=
  JsonLines.append json true file record

def appendJsonlAtomic (name : String) (file : Option (List Char)) (record : J) :
    Except String (Option (List Char)) :=
  let existing := file.getD []
  if existing ≠ [] ∧ existing.getLast? ≠ some '\n' then
    .error ("Cannot append to truncated " ++ name)
  else .ok (some (existing ++ (json.dumps true record ++ ['\n'])))

def readJsonl (name : String) (file : Option (List Char)) : Except String (List J) :=
  (JsonLines.read json file).mapError fun
    | .malformed n => "Malformed " ++ name ++ ":" ++ toString n
    | .notObject n => "Non-object record in " ++ name ++ ":" ++ toString n

/-- The pairs, with the name of the file. -/
inductive Ledger where
  | continuation
  | workflow (name : String)
  | controlPlane (name : String)
  deriving DecidableEq, Repr

def Ledger.sortKeys : Ledger → Bool
  | .continuation => true
  | .workflow _ => false
  | .controlPlane _ => true

def Ledger.append : Ledger → Option (List Char) → J → Option (List Char)
  | .continuation => continuationAppend json
  | .workflow _ => appendJsonLineDurable json
  | .controlPlane _ => appendJsonl json

def Ledger.read : Ledger → Option (List Char) → Except String (List J)
  | .continuation => continuationEvents json
  | .workflow name => readJsonLinesStrict json name
  | .controlPlane name => readJsonl json name

def Ledger.written (ledger : Ledger) (records : List J) : Option (List Char) :=
  records.foldl (ledger.append json) none

end Pairs

section RoundTrip

variable {J : Type} {json : Codec J} {ledger : Ledger} {file : Option (List Char)}
  {records before : List J} {record : J}

theorem Ledger.append_eq : ledger.append json = JsonLines.append json ledger.sortKeys := by
  cases ledger <;> rfl

theorem Ledger.written_eq :
    ledger.written json records = JsonLines.written json ledger.sortKeys records := by
  rw [Ledger.written, Ledger.append_eq]
  rfl

theorem Ledger.read_eq_ok :
    ledger.read json file = .ok records ↔ JsonLines.read json file = .ok records := by
  have hmap : ∀ message : Fault → String,
      (JsonLines.read json file).mapError message = .ok records ↔
        JsonLines.read json file = .ok records := by
    intro message
    cases JsonLines.read json file with
    | error fault => exact iff_of_false nofun nofun
    | ok found =>
      exact ⟨fun h => congrArg _ (Except.ok.inj h), fun h => congrArg _ (Except.ok.inj h)⟩
  cases ledger <;> exact hmap _

/-- **A record is read back behind the records before it exactly when none of its strings holds
a line boundary outside ASCII.** -/
theorem jsonl_round_trip_iff (hjson : json.Lawful) (hrecord : json.isObject record = true)
    (hread : ledger.read json (ledger.written json records) = .ok before) :
    ledger.read json (ledger.append json (ledger.written json records) record) =
        .ok (before ++ [json.normal ledger.sortKeys record]) ↔
      ∀ c ∈ json.characters record, c ∉ wideBoundaries := by
  rw [Ledger.read_eq_ok, Ledger.written_eq] at hread
  rw [Ledger.read_eq_ok, Ledger.append_eq, Ledger.written_eq]
  exact JsonLines.read_append_iff hjson hrecord hread

end RoundTrip

def sampleRecord (reason : String) : Json.Value :=
  ⟨.obj [("reason", .str reason)], by simp [Json.distinctKeys, Json.distinctMembers]⟩

/-- An ordinary reason is read back from an empty ledger. -/
theorem jsonl_round_trip_sample : (Ledger.workflow "timeline.jsonl").read Json.codec
      ((Ledger.workflow "timeline.jsonl").append Json.codec none (sampleRecord "done")) =
        .ok [sampleRecord "done"] := by
  have hread : (Ledger.workflow "timeline.jsonl").read Json.codec
      ((Ledger.workflow "timeline.jsonl").written Json.codec []) = .ok [] := rfl
  exact (jsonl_round_trip_iff Json.lawful_codec rfl hread).mpr (by decide)

/-- A reason with a line separator makes the ledger unreadable. -/
theorem jsonl_line_separator : Ledger.continuation.read Json.codec
        (Ledger.continuation.append Json.codec none (sampleRecord "a\u2028b")) ≠
      .ok [Json.codec.normal true (sampleRecord "a\u2028b")] := by
  intro hread
  rw [Ledger.read_eq_ok, Ledger.append_eq] at hread
  have hempty : JsonLines.read Json.codec (JsonLines.written Json.codec true []) = .ok [] := rfl
  have hclean := (JsonLines.read_append_iff Json.lawful_codec rfl hempty).mp hread
  exact absurd hclean (by decide)

end Valp.Ledgers
