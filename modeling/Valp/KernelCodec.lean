/-
The journal on disk (`valp_cli/kernel_store.py`).

`KernelStore._journal_bytes` writes one line of canonical JSON for each entry, and
`KernelStore._load_entries` reads the file back: it decodes every line and refuses
one that is not the canonical text of what it decoded.  A file is the list of its
bytes, and `none` when it does not exist.

* `journal_codec` — both, and the inversion of every record in it.
-/
import Valp.Bytes
import Valp.KernelDecode
import Valp.KernelValid

namespace Valp.Kernel

open Decode
open List
open Json (distinctKeys_record)
open Option (all_some)

/-! ### Reading and writing -/

/-- `KernelStore._parse`. -/
def parsePayload (payload : Bytes) : Except String Json :=
  match Bytes.decode payload with
  | none => .error "invalid UTF-8"
  | some text =>
    match Json.loads text with
    | none => .error "invalid JSON"
    | some value => .ok value

/-- `_canonical_json(value).encode("utf-8")`. -/
def canonicalBytes (value : Json) : Bytes := Bytes.encode (canonicalJson value)

def journalBytes (entries : List ReplayEntry) : Bytes :=
  (entries.map fun entry => canonicalBytes entry.canonical).flatten

/-- One turn of the loop of `KernelStore._load_entries`. -/
def loadLine (line : Bytes) : Except String ReplayEntry := do
  if line = [10] then
    .error "Kernel journal contains a blank line"
  let entry ← decodeReplayEntry (← parsePayload line.dropLast)
  if line ≠ canonicalBytes entry.canonical then
    .error "Kernel journal contains a noncanonical entry"
  .ok entry

def loadEntries : Option Bytes → Except String (List ReplayEntry)
  | none => .ok []
  | some payload =>
    if payload ≠ [] ∧ (payload.getLast? ≠ some 10 ∨ 13 ∈ payload) then
      .error "Kernel journal is not canonical LF-terminated JSONL"
    else (Bytes.splitLines payload).mapM loadLine

/-! ### Lines -/

theorem canonicalBytes_eq (value : Json) : canonicalBytes value =
    Bytes.encode (String.ofList value.sortKeys.render) ++ [10] := by
  rw [canonicalBytes, canonicalJson, Bytes.encode_ofList, Bytes.encode_ofList, flatMap_append]
  rfl

theorem isLine_canonicalBytes (value : Json) : Bytes.IsLine (canonicalBytes value) := by
  refine ⟨_, canonicalBytes_eq value, fun b hb => ?_⟩
  by_contra hlow
  rw [Bytes.encode_ofList] at hb
  obtain ⟨c, hc, hbc⟩ := mem_flatMap.mp hb
  -- a byte below 32 would be a control character of the text
  have hsmall : b < 32 := UInt8.not_le.mp hlow
  have hchar := Bytes.of_mem_utf8EncodeChar
    (UInt8.lt_trans hsmall (by decide)) hbc
  have hprintable := Json.render_printable _ c hc
  rw [hchar] at hprintable
  exact absurd (UInt8.lt_iff_toNat_lt.mp hsmall) (not_lt.mpr hprintable)

theorem isLine_lines (entries : List ReplayEntry) :
    ∀ line ∈ entries.map (fun entry => canonicalBytes entry.canonical), Bytes.IsLine line := by
  intro line hline
  obtain ⟨entry, -, rfl⟩ := mem_map.mp hline
  exact isLine_canonicalBytes _

theorem canonicalBytes_ne_blank (value : Json) : canonicalBytes value ≠ [10] := by
  intro hblank
  obtain ⟨c, cs, hc, -⟩ := Json.spaced_start [] value.sortKeys
  rw [canonicalBytes_eq, ← Json.spaced_nil, hc, Bytes.encode_ofList, flatMap_cons,
    append_assoc] at hblank
  have hlen := congrArg List.length hblank
  have hne := String.utf8EncodeChar_ne_nil (c := c)
  have hpos : 0 < (String.utf8EncodeChar c).length := length_pos_of_ne_nil hne
  simp only [length_append, length_singleton] at hlen
  omega

theorem canonicalBytes_record (fields : List (String × Option Json)) :
    ∃ rest, canonicalBytes (.record fields) = 123 :: rest := by
  rw [canonicalBytes_eq, Json.record, Json.sortKeys, Json.render, Bytes.encode_ofList]
  exact ⟨_, rfl⟩

variable {value : Json}

theorem parsePayload_text (hkeys : value.distinctKeys) {space : List Char}
    (hspace : ∀ c ∈ space, Json.isSpace c) :
    parsePayload (Bytes.encode (String.ofList (value.sortKeys.render ++ space))) =
      .ok value.sortKeys := by
  rw [← Json.distinctKeys_sortKeys] at hkeys
  simp only [parsePayload, Bytes.decode_encode, Json.loads_render hkeys hspace]

/-! ### Keys -/

section Keys

variable {α : Type} {encode : α → Json} (hencode : ∀ a, (encode a).distinctKeys = true)

include hencode

theorem all_map_distinct (o : Option α) : (o.map encode).all Json.distinctKeys := by
  cases o with
  | none => rfl
  | some a => exact hencode a

theorem arr_distinct (xs : List α) : (Json.arr (xs.map encode)).distinctKeys := by
  rw [Json.distinctKeys_arr, all_map, all_eq_true]
  exact fun a _ => hencode a

end Keys

theorem distinct_int (n : Int) : (Json.int n).distinctKeys := rfl

theorem distinct_str (t : String) : (Json.str t).distinctKeys := rfl

theorem Identity.distinctKeys (i : Identity) : i.canonical.distinctKeys :=
  distinctKeys_record (by simp) (by simp [distinct_str])

theorem canonicalIds_distinct (ids : List Identity) :
    (canonicalIds ids).all Json.distinctKeys := by
  rw [canonicalIds]
  split
  · rfl
  · exact arr_distinct Identity.distinctKeys ids

theorem Evidence.distinctKeys (v : Evidence) : v.canonical.distinctKeys :=
  distinctKeys_record (by simp) (by simp [distinct_str, Identity.distinctKeys])

theorem Dependency.distinctKeys (d : Dependency) : d.canonical.distinctKeys :=
  distinctKeys_record (by simp) (by simp [distinct_str, Identity.distinctKeys])

theorem Attempt.distinctKeys (a : Attempt) : a.canonical.distinctKeys :=
  distinctKeys_record (by simp) (by simp [distinct_str, distinct_int, Identity.distinctKeys])

theorem WorkItem.distinctKeys (w : WorkItem) : w.canonical.distinctKeys := by
  have hatt : (w.currentAttempt.elim .null Attempt.canonical).distinctKeys := by
    cases w.currentAttempt with
    | none => rfl
    | some a => exact a.distinctKeys
  exact distinctKeys_record (by simp) (by
    simp only [all_cons, all_nil, all_some, Identity.distinctKeys, distinct_str,
      arr_distinct Dependency.distinctKeys, hatt, Bool.and_self])

theorem Suspension.distinctKeys (u : Suspension) : u.canonical.distinctKeys :=
  distinctKeys_record (by simp) (by
    simp only [all_cons, all_nil, all_some, Identity.distinctKeys, distinct_str,
      distinct_int, arr_distinct Identity.distinctKeys, all_map_distinct Identity.distinctKeys,
      all_map_distinct fun r : WakeReason => distinct_str r.value, Bool.and_self])

theorem ControlState.distinctKeys (c : ControlState) : c.canonical.distinctKeys :=
  distinctKeys_record (by simp) (by
    simp only [all_cons, all_nil, all_some, distinct_str, distinct_int,
      all_map_distinct Identity.distinctKeys, Bool.and_self])

theorem AcceptedEvent.distinctKeys (a : AcceptedEvent) : a.canonical.distinctKeys :=
  distinctKeys_record (by simp) (by simp [distinct_str, Identity.distinctKeys])

theorem State.distinctKeys (s : State) : s.canonical.distinctKeys := by
  have hitems : (if s.workItems = [] then none else
      some (Json.arr (s.workItems.map WorkItem.canonical))).all Json.distinctKeys := by
    split
    · rfl
    · exact arr_distinct WorkItem.distinctKeys _
  exact distinctKeys_record (by simp) (by
    simp only [all_cons, all_nil, all_some, Identity.distinctKeys, distinct_str,
      distinct_int, arr_distinct AcceptedEvent.distinctKeys, hitems,
      all_map_distinct Suspension.distinctKeys, all_map_distinct ControlState.distinctKeys,
      Bool.and_self])

theorem Event.distinctKeys (e : Event) : e.canonical.distinctKeys :=
  distinctKeys_record (by simp only [List.map]; decide) (by
    simp only [all_cons, all_nil, all_some, Identity.distinctKeys, distinct_str,
      distinct_int, canonicalIds_distinct, all_map_distinct Identity.distinctKeys,
      all_map_distinct distinct_int, all_map_distinct distinct_str,
      all_map_distinct fun r : Closed WakeReason => distinct_str (r.text WakeReason.value),
      all_map_distinct fun r : Closed ControlReason => distinct_str (r.text ControlReason.value),
      all_map_distinct fun c : Closed CancellationScope =>
        distinct_str (c.text CancellationScope.value), Bool.and_self])

theorem Result.distinctKeys (r : Result) : r.canonical.distinctKeys := by
  cases r with
  | accepted a =>
    exact distinctKeys_record (by simp) (by
      simp only [all_cons, all_nil, all_some, Identity.distinctKeys, distinct_str,
        State.distinctKeys, arr_distinct distinct_str, Bool.and_self])
  | noOp n =>
    exact distinctKeys_record (by simp) (by
      simp only [all_cons, all_nil, all_some, Identity.distinctKeys, distinct_str,
        State.distinctKeys, Bool.and_self])
  | rejected r =>
    exact distinctKeys_record (by simp) (by
      simp only [all_cons, all_nil, all_some, distinct_str, State.distinctKeys,
        all_map_distinct Identity.distinctKeys, all_map_distinct distinct_str, Bool.and_self])

theorem ReplayEntry.distinctKeys (entry : ReplayEntry) : entry.canonical.distinctKeys := by
  rw [ReplayEntry.canonical, canonicalEvidence_eq_map]
  exact distinctKeys_record (by simp) (by
    simp only [all_cons, all_nil, all_some, distinct_str, Event.distinctKeys,
      arr_distinct Evidence.distinctKeys, Result.distinctKeys, Bool.and_self])

/-! ### Round trips -/

theorem ReplayEntry.canonical_sorted (entry : ReplayEntry) :
    entry.sorted.canonical = entry.canonical := by
  rw [ReplayEntry.canonical, ReplayEntry.sorted,
    canonicalEvidence_eq_of_perm (sortEvidence_perm entry.evidenceSet)]
  rfl

variable {entry : ReplayEntry}

theorem loadLine_canonicalBytes (h : EntryValid entry) :
    loadLine (canonicalBytes entry.canonical) = .ok entry.sorted := by
  have hparse : parsePayload (canonicalBytes entry.canonical).dropLast =
      .ok entry.canonical.sortKeys := by
    have htext := parsePayload_text entry.distinctKeys (forall_mem_nil _)
    rw [append_nil] at htext
    rw [canonicalBytes_eq, dropLast_concat, htext]
  have hsame : canonicalBytes entry.canonical = canonicalBytes entry.sorted.canonical := by
    rw [entry.canonical_sorted]
  rw [loadLine, if_neg (canonicalBytes_ne_blank _), hparse]
  simp only [ok_bind, ReplayEntry.decode_canonical Json.reorders_sortKeys h]
  rw [if_neg (not_not.mpr hsame)]

/-- What an accepted line is: the canonical text of an entry that was decoded. -/
theorem of_loadLine {line : Bytes} (h : loadLine line = .ok entry) :
    canonicalBytes entry.canonical = line ∧ ∃ value, decodeReplayEntry value = .ok entry := by
  rw [loadLine] at h
  split at h
  · cases h
  cases hvalue : parsePayload line.dropLast with
  | error message => simp [hvalue, bind, Except.bind] at h
  | ok value =>
    cases hent : decodeReplayEntry value with
    | error message => simp [hvalue, hent, bind, Except.bind] at h
    | ok decoded =>
      simp only [hvalue, hent, ok_bind] at h
      split at h
      · cases h
      · rename_i hcanon
        cases h
        exact ⟨(not_not.mp hcanon).symm, value, hent⟩

variable {entries : List ReplayEntry}

/-- **A journal is read back**, with the evidence of each entry in canonical order. -/
theorem loadEntries_journalBytes (h : ∀ entry ∈ entries, EntryValid entry) :
    loadEntries (some (journalBytes entries)) = .ok (entries.map ReplayEntry.sorted) := by
  obtain ⟨hret, hlast⟩ := Bytes.flatten_lines (isLine_lines entries)
  have hframe : ¬(journalBytes entries ≠ [] ∧
      ((journalBytes entries).getLast? ≠ some 10 ∨ 13 ∈ journalBytes entries)) := by
    rintro ⟨hne, hbad | hbad⟩
    · exact hbad (hlast hne)
    · exact hret hbad
  rw [loadEntries, if_neg hframe]
  exact Bytes.mapM_lines (fun entry _ => isLine_canonicalBytes _)
    fun entry hent => loadLine_canonicalBytes (h entry hent)

/-- **What is accepted is what would be written.** -/
theorem journalBytes_of_loadEntries {payload : Bytes}
    (h : loadEntries (some payload) = .ok entries) : journalBytes entries = payload := by
  rw [loadEntries] at h
  split_ifs at h
  have hread : ∀ line entry, loadLine line = .ok entry →
      canonicalBytes entry.canonical = line := by
    intro line entry hent
    exact (of_loadLine hent).1
  have hls := Bytes.map_write_of_mapM hread h
  rw [journalBytes, hls, Bytes.splitLines_flatten]

/-! ### What is decoded -/

theorem bind_eq_ok {α β ε : Type} {x : Except ε α} {k : α → Except ε β} {b : β} :
    (x >>= k) = .ok b ↔ ∃ a, x = .ok a ∧ k a = .ok b := by
  cases x with
  | error e => simp [bind, Except.bind]
  | ok a => simp [ok_bind]

theorem mapError_eq_ok {α ε δ : Type} {x : Except ε α} {f : ε → δ} {a : α} :
    x.mapError f = .ok a ↔ x = .ok a := by
  cases x <;> simp [Except.mapError]

theorem identity_kind {kind : IdentityKind} {i : Identity}
    (h : Decode.identity kind value = .ok i) : i.kind = kind := by
  simp only [Decode.identity, bind_eq_ok] at h
  obtain ⟨_, -, _, -, actual, -, _, -, h⟩ := h
  split at h
  case h_2 => cases h
  split at h
  · cases h
  split_ifs at h with hkind
  cases h
  exact not_not.mp hkind

theorem evidence_kind {v : Evidence} (h : Decode.evidence value = .ok v) :
    v.evidenceId.kind = .evidence := by
  simp only [Decode.evidence, bind_eq_ok] at h
  obtain ⟨_, -, h⟩ := h
  split at h
  · cases h
  simp only [bind_eq_ok] at h
  obtain ⟨_, -, i, hi, _, -, _, -, h⟩ := h
  cases h
  exact identity_kind hi

theorem decodeReplayEntry_evidence (h : decodeReplayEntry value = .ok entry) :
    ∀ v ∈ entry.evidenceSet, v.evidenceId.kind = .evidence := by
  simp only [decodeReplayEntry, bind_eq_ok] at h
  obtain ⟨_, -, h⟩ := h
  split at h
  · cases h
  simp only [bind_eq_ok] at h
  obtain ⟨_, -, items, -, _, -, _, -, evidenceSet, hevid, _, -, _, -, h⟩ := h
  cases h
  intro v hv
  obtain ⟨item, hitem⟩ := (Bytes.exists_of_mapM hevid).1 v hv
  exact evidence_kind hitem

/-- What the canonical text of an entry determines. -/
theorem ReplayEntry.canonical_fields {x y : ReplayEntry}
    (h : canonicalJson x.canonical = canonicalJson y.canonical) :
    x.event.canonical.sortKeys = y.event.canonical.sortKeys ∧
      x.evidenceSet.Perm y.evidenceSet ∧
      x.result.canonical.sortKeys = y.result.canonical.sortKeys := by
  have hsort := canonicalJson_injective h
  rw [ReplayEntry.canonical, ReplayEntry.canonical] at hsort
  obtain ⟨-, hev, hevid, hres, -⟩ := Json.record_injective (by rfl) (by simp) hsort
  exact ⟨hev, perm_of_canonicalEvidence hevid, hres⟩

theorem canonicalBytes_injective {v w : Json} (h : canonicalBytes v = canonicalBytes w) :
    canonicalJson v = canonicalJson w :=
  Bytes.encode_injective h

theorem evidence_of_loadEntries {decoded : List ReplayEntry}
    (h : loadEntries (some (journalBytes entries)) = .ok decoded) :
    ∀ entry ∈ entries, ∀ v ∈ entry.evidenceSet, v.evidenceId.kind = .evidence := by
  have hls := Bytes.splitLines_lines (isLine_lines entries)
  rw [loadEntries] at h
  split at h
  · cases h
  rw [journalBytes, hls] at h
  intro entry hent v hv
  -- the line of the entry was decoded, to an entry with the same text
  obtain ⟨read, hread⟩ := (Bytes.exists_of_mapM h).2 _ (mem_map_of_mem hent)
  obtain ⟨htext, value, hvalue⟩ := of_loadLine hread
  have hperm := (ReplayEntry.canonical_fields (canonicalBytes_injective htext)).2.1
  exact decodeReplayEntry_evidence hvalue v (hperm.mem_iff.mpr hv)

/-- **The codec of the journal.**  Let the events, evidence and Results of the entries
be valid.  The journal written for them is read back, with each evidence set in
canonical order; every file that is accepted is the journal of the entries read from
it; and each decoder inverts the canonical form of the values that pass the
validators, in whatever order the members of the objects are. -/
theorem journal_codec : (∀ entries : List ReplayEntry, (∀ entry ∈ entries, EntryValid entry) →
      loadEntries (some (journalBytes entries)) = .ok (entries.map ReplayEntry.sorted)) ∧
    (∀ payload entries, loadEntries (some payload) = .ok entries → journalBytes entries = payload) ∧
    ∀ f, Json.Reorders f →
      (∀ e, eventIsValid e = true → decodeEvent (f e.canonical) = .ok e) ∧
      (∀ s, stateIsValid s = true → Decode.state (f s.canonical) = .ok s) ∧
      (∀ r, ResultValid r → Decode.result (f r.canonical) = .ok r) ∧
      ∀ s, stateIsValid s = true →
        (∀ u, suspensionIsValid u s = true → Decode.suspension (f u.canonical) = .ok u) ∧
        (∀ w, workItemIsValid w s.taskId = true → Decode.workItem (f w.canonical) = .ok w) ∧
        ∀ c, controlIsValid c = true → Decode.control (f c.canonical) = .ok c := by
  refine ⟨?_, ?_, ?_⟩
  · intro entries hvalid
    exact loadEntries_journalBytes hvalid
  · intro payload entries hload
    exact journalBytes_of_loadEntries hload
  intro f hf
  refine ⟨fun e h => Event.decodeEvent_canonical hf h,
    fun s h => State.decode_canonical hf (stateIsValid_iff.mp h),
    fun r h => Result.decode_canonical hf h, ?_⟩
  intro s hs
  have htask := (stateIsValid_iff.mp hs).task
  exact ⟨fun u h => Suspension.decode_canonical hf htask h,
    fun w h => WorkItem.decode_canonical hf htask h, fun c h => ControlState.decode_canonical hf h⟩

/-- An entry of a valid Event and a valid State, with the given evidence. -/
def codecEntry (evidenceSet : List Evidence) : ReplayEntry where
  event := sampleEvent (ident .event "e0") 0 .routingValidationStarted
  evidenceSet := evidenceSet
  result := .accepted {
    resultId := ident .result "r0"
    state := sampleGenesis []
    inputDigest := ""
    resultDigest := "" }

theorem codecEntry_valid (evidenceSet : List Evidence) :
    eventIsValid (codecEntry evidenceSet).event ∧ StateValid (sampleGenesis []) := by
  have hev : eventIsValid (sampleEvent (ident .event "e0") 0 .routingValidationStarted) :=
    by decide
  exact ⟨hev, (genesisIsValid_iff.mp sampleGenesis_valid).1⟩

theorem journal_codec_sorted :
    loadEntries (some (journalBytes [codecEntry [⟨ident .evidence "b", ""⟩,
      ⟨ident .evidence "a", ""⟩]])) =
        .ok [(codecEntry [⟨ident .evidence "b", ""⟩, ⟨ident .evidence "a", ""⟩]).sorted] := by
  have hvalid := codecEntry_valid [⟨ident .evidence "b", ""⟩, ⟨ident .evidence "a", ""⟩]
  refine journal_codec.1 _ fun entry hentry => ?_
  rw [mem_singleton.mp hentry]
  exact ⟨hvalid.1, by simp [codecEntry, ident], hvalid.2, rfl⟩

/-- An entry of a valid Event and a valid State is not read back if it holds evidence
under an identity of another kind. -/
theorem journal_misnamed_evidence :
    ∃ entry a, eventIsValid entry.event = true ∧ entry.result = .accepted a ∧
      stateIsValid a.state = true ∧
      ∀ entries, loadEntries (some (journalBytes [entry])) ≠ .ok entries := by
  have hvalid := codecEntry_valid [⟨ident .task "a", ""⟩]
  refine ⟨codecEntry [⟨ident .task "a", ""⟩], _, hvalid.1, rfl, stateIsValid_iff.mpr hvalid.2, ?_⟩
  intro entries hload
  have hkind := evidence_of_loadEntries hload _ (mem_singleton_self _)
    ⟨ident .task "a", ""⟩ (mem_singleton_self _)
  exact absurd hkind (by decide)

end Valp.Kernel
