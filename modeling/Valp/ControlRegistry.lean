/-
The capability registry (`InstallationCore.reconcile_capabilities` of
`valp_cli/control_plane.py`).

A call records every observation in a ledger and folds it into the entry of its subject and
capability.  The entries are keyed by one joined string.

* `Registry.add` is the turn of the loop, `reconcileCapabilities` the call
* `folded` says what the entry of a key is, in terms of the records with that key:
  `Folds.reconcile` shows that every call keeps it so
* `Faithful` says what the registry should be in terms of subjects and capabilities
-/
import Valp.ControlReplay

namespace Valp.Control

open Json (Value setKey)
open Dispatch (emptyDict iterate listOf orElse strOr)
open Kernel (bind_eq_ok)
open List

/-! ### The call -/

/-- The layers of evidence. -/
inductive Layer where
  | officialClaim
  | localPresence
  | liveCallable
  | taskVerified
  deriving DecidableEq, Repr

def Layer.name : Layer → String
  | .officialClaim => "official_claim"
  | .localPresence => "local_presence"
  | .liveCallable => "live_callable"
  | .taskVerified => "task_verified"

def Layer.ofValue? (v : Value) : Option Layer :=
  [.officialClaim, .localPresence, .liveCallable, .taskVerified].find? fun layer =>
    v.equal (.str layer.name)

/-- A subject with one of its capabilities. -/
structure Pair where
  subject : String
  capability : String
  deriving DecidableEq, Repr

/-- `subject + "::" + capability`. -/
def Pair.key (p : Pair) : String := p.subject ++ "::" ++ p.capability

def pairOf (text : Json → String) (record : Value) : Pair where
  subject := strOr text (record.get "subject_id") "unknown"
  capability := strOr text (record.get "capability_id") "unknown"

def layerOf (record : Value) : Option Layer := Layer.ofValue? (record.get "layer")

/-- `record.get("status") == "pass"`. -/
def passes (record : Value) : Bool := (record.get "status").equal (.str "pass")

/-- `record.get("status", "unknown")`. -/
def statusOf (record : Value) : Value :=
  if record.has "status" then record.get "status" else .str "unknown"

structure Entry where
  pair : Pair
  layers : Layer → Option Value
  effectiveStatus : Value

/-- The registry file, with the ledger of the observations. -/
structure Registry where
  revision : Int
  sequence : Int
  entries : List (String × Entry)
  observations : List Value

/-- What a call is given and what it finds: the state at its start, the clock, the new names and
how its two transitions come out. -/
structure Call where
  observations : List Value
  state : Value
  now : Int → String
  newId : Int → String
  started : Except Fault Unit
  finished : Except Fault Unit

/-- `(state.get("active_leader") or {}).get("principal_id", "unknown")`. -/
def leaderOf (state : Value) : Value :=
  let leader := orElse (state.get "active_leader") emptyDict
  if leader.has "principal_id" then leader.get "principal_id" else .str "unknown"

def recordFields (call : Call) (sequence : Int) (observation : Value) (refs : List Value) :
    List (String × Value) :=
  [("schema_version", .str "valp-capability-observation.v1"),
    ("installation_id", call.state.get "installation_id"),
    ("observation_id", orElse (observation.get "observation_id") (.str (call.newId sequence))),
    ("registry_sequence", .int sequence),
    ("leader_epoch", call.state.get "active_leader_epoch"),
    ("observed_at", orElse (observation.get "observed_at") (.str (call.now sequence))),
    ("source_principal_id",
      orElse (observation.get "source_principal_id") (leaderOf call.state)),
    ("source_kind", orElse (observation.get "source_kind") (.str "reference-probe")),
    ("evidence_refs", listOf refs)]

def recordOf (call : Call) (sequence : Int) (observation : Value) : Except Fault Value := do
  let refs ← (iterate (observation.get "evidence_refs")).mapError fun _ => .python "TypeError"
  let record := (recordFields call sequence observation refs).foldl
    (fun record field => record.set field.1 field.2) observation
  .ok (record.set "content_digest" (.str (digestWithout record "content_digest")))

def Registry.add (text : Json → String) (layer : Layer) (record : Value) (r : Registry) :
    Registry :=
  let pair := pairOf text record
  let entry := (r.entries.lookup pair.key).getD ⟨pair, fun _ => none, .null⟩
  let layers := Function.update entry.layers layer (some record)
  let status := if (layers .liveCallable).any passes then .str "pass" else statusOf record
  { r with
    sequence := r.sequence + 1
    entries := setKey pair.key ⟨entry.pair, layers, status⟩ r.entries
    observations := r.observations ++ [record] }

/-- One turn of the loop over the observations. -/
def Registry.observe (text : Json → String) (call : Call) (r : Registry) (observation : Value) :
    Except Fault Registry := do
  if !observation.isObject then .error (.python "AttributeError")
  else
    match Layer.ofValue? (← hashed (observation.get "layer")) with
    | none => .error (refusal "VALP-E-MESSAGE-SCHEMA" "Unknown capability evidence layer")
    | some layer => do
      let record ← recordOf call (r.sequence + 1) observation
      .ok (r.add text layer record)

def reconcileCapabilities (text : Json → String) (r : Registry) (call : Call) :
    Except Fault Registry := do
  if !(["active", "degraded"].any fun status => (call.state.get "status").equal (.str status)) then
    .error (refusal "VALP-E-STATE-TRANSITION"
      "Capability reconciliation requires active or degraded installation")
  else if call.observations.isEmpty then
    .error (refusal "VALP-E-CAPABILITY-STALE" "At least one capability observation is required")
  else do
    call.started
    let r ← call.observations.foldlM (Registry.observe text call) r
    call.finished
    .ok { r with revision := r.revision + 1 }

/-! ### What a record keeps of its observation -/

/-- What the registry looks at. -/
structure Sight where
  pair : Pair
  layer : Option Layer
  pass : Bool

def sightOf (text : Json → String) (v : Value) : Sight := ⟨pairOf text v, layerOf v, passes v⟩

section Records

variable {text : Json → String} {call : Call} {r r' : Registry} {observation record : Value}

theorem get_update {fields : List (String × Value)} {v : Value} {k : String}
    (hv : v.isObject) (hk : k ∉ fields.map Prod.fst) :
    (fields.foldl (fun record field => record.set field.1 field.2) v).isObject ∧
      (fields.foldl (fun record field => record.set field.1 field.2) v).get k = v.get k := by
  induction fields generalizing v with
  | nil => exact ⟨hv, rfl⟩
  | cons field fields ih =>
    rw [map_cons, mem_cons, not_or] at hk
    obtain ⟨hobj, hget⟩ := ih ((Value.isObject_set _ _ _).trans hv) hk.2
    exact ⟨hobj, hget.trans (Value.get_set_ne hv hk.1 _)⟩

theorem sightOf_record {sequence : Int} (hobj : observation.isObject)
    (h : recordOf call sequence observation = .ok record) :
    sightOf text record = sightOf text observation := by
  obtain ⟨refs, -, hrcd⟩ := bind_eq_ok.mp h
  have hget : ∀ k, k ∉ (recordFields call sequence observation refs).map Prod.fst →
      k ≠ "content_digest" → record.get k = observation.get k := by
    intro k hk hdig
    obtain ⟨hupdated, hget⟩ := get_update hobj hk
    rw [← Except.ok.inj hrcd, Value.get_set_ne hupdated hdig, hget]
  simp only [sightOf, pairOf, layerOf, passes]
  rw [hget _ (by simp [recordFields]) (by decide), hget _ (by simp [recordFields]) (by decide),
    hget _ (by simp [recordFields]) (by decide), hget _ (by simp [recordFields]) (by decide)]

/-- **What a turn of the loop does.** -/
theorem observe_eq_ok (h : r.observe text call observation = .ok r') :
    ∃ layer record, r' = r.add text layer record ∧ layerOf record = some layer ∧
      sightOf text record = sightOf text observation := by
  rw [Registry.observe] at h
  split_ifs at h with hobj
  obtain ⟨v, hv, h⟩ := bind_eq_ok.mp h
  obtain rfl := eq_of_hashed hv
  split at h
  · cases h
  rename_i layer hlayer
  obtain ⟨record, hrcd, h⟩ := bind_eq_ok.mp h
  have hsight : sightOf text record = sightOf text observation :=
    sightOf_record (by simpa using hobj) hrcd
  exact ⟨layer, record, (Except.ok.inj h).symm, (congrArg Sight.layer hsight).trans hlayer, hsight⟩

end Records

/-! ### The fold -/

/-- The last record of a layer. -/
def latest (records : List Value) (layer : Layer) : Option Value :=
  (records.filter fun record => layerOf record = some layer).getLast?

def recordsAt (text : Json → String) (records : List Value) (key : String) : List Value :=
  records.filter fun record => (pairOf text record).key = key

/-- **The entry of a key**: the names are those of the first record with the key, and the status is
that of the last one unless the last record of a live call passed. -/
def folded (text : Json → String) (records : List Value) (key : String) : Option Entry :=
  let found := recordsAt text records key
  found.getLast?.map fun last =>
    { pair := pairOf text (found.headD last)
      layers := latest found
      effectiveStatus :=
        if (latest found .liveCallable).any passes then .str "pass" else statusOf last }

/-- The entries are what the ledger says. -/
structure Folds (text : Json → String) (r : Registry) : Prop where
  nodup : (r.entries.map Prod.fst).Nodup
  lookup : ∀ key, r.entries.lookup key = folded text r.observations key

section Folds

variable {text : Json → String} {call : Call} {r r' : Registry} {record : Value} {layer : Layer}
  {records : List Value} {key : String}

theorem latest_concat (h : layerOf record = some layer) :
    latest (records ++ [record]) = Function.update (latest records) layer (some record) := by
  funext other
  rw [latest, filter_append, Function.update_apply]
  by_cases hoth : other = layer
  · rw [if_pos hoth, filter_cons_of_pos (by simp [h, hoth]), filter_nil,
      getLast?_concat]
  have hne : layer ≠ other := fun heq => hoth heq.symm
  rw [if_neg hoth, filter_cons_of_neg (by simp [h, hne]), filter_nil,
    append_nil]
  rfl

theorem recordsAt_concat : recordsAt text (records ++ [record]) key =
    if key = (pairOf text record).key then recordsAt text records key ++ [record]
    else recordsAt text records key := by
  rw [recordsAt, filter_append]
  by_cases hkey : key = (pairOf text record).key
  · rw [if_pos hkey, filter_cons_of_pos (by simp [hkey]), filter_nil, recordsAt]
  · have hne : (pairOf text record).key ≠ key := fun heq => hkey heq.symm
    rw [if_neg hkey, filter_cons_of_neg (by simp [hne]), filter_nil, append_nil,
      recordsAt]

theorem Folds.add (h : Folds text r) (hlayer : layerOf record = some layer) :
    Folds text (r.add text layer record) := by
  refine ⟨Json.nodup_setKey _ _ h.nodup, fun key => ?_⟩
  rw [Registry.add, Json.lookup_setKey, folded, recordsAt_concat]
  by_cases hkey : key = (pairOf text record).key
  · rw [if_pos hkey, if_pos hkey, getLast?_concat, Option.map_some, h.lookup, folded, ← hkey,
      latest_concat hlayer]
    cases hfnd : recordsAt text r.observations key with
    | nil => rfl
    | cons first rest =>
      rw [getLast?_cons, Option.map_some]
      rfl
  · rw [if_neg hkey, if_neg hkey, h.lookup, folded]

theorem Folds.observe {observations : List Value} (h : Folds text r)
    (hok : observations.foldlM (Registry.observe text call) r = .ok r') :
    Folds text r' ∧ r'.observations.map (sightOf text) =
      r.observations.map (sightOf text) ++ observations.map (sightOf text) := by
  induction observations generalizing r with
  | nil =>
    cases hok
    exact ⟨h, by simp⟩
  | cons observation observations ih =>
    rw [foldlM_cons] at hok
    obtain ⟨next, hnext, hok⟩ := bind_eq_ok.mp hok
    obtain ⟨layer, record, rfl, hlayer, hsight⟩ := observe_eq_ok hnext
    obtain ⟨hfolds, hsights⟩ := ih (h.add hlayer) hok
    refine ⟨hfolds, hsights.trans ?_⟩
    rw [Registry.add, map_append, map_singleton, hsight, append_assoc]
    rfl

/-- **Every call folds its observations into the registry.** -/
theorem Folds.reconcile {calls : List Call} (h : Folds text r)
    (hok : calls.foldlM (reconcileCapabilities text) r = .ok r') :
    Folds text r' ∧ r'.observations.map (sightOf text) =
      r.observations.map (sightOf text) ++
        (calls.flatMap Call.observations).map (sightOf text) := by
  induction calls generalizing r with
  | nil =>
    cases hok
    exact ⟨h, by simp⟩
  | cons call calls ih =>
    rw [foldlM_cons] at hok
    obtain ⟨next, hnext, hok⟩ := bind_eq_ok.mp hok
    rw [reconcileCapabilities] at hnext
    split at hnext
    · cases hnext
    split_ifs at hnext
    simp only [bind_eq_ok] at hnext
    obtain ⟨-, -, last, hlast, -, -, hnext⟩ := hnext
    cases hnext
    obtain ⟨hfolds, hfst⟩ := h.observe hlast
    have hbumped : Folds text { last with revision := last.revision + 1 } :=
      ⟨hfolds.nodup, hfolds.lookup⟩
    obtain ⟨hfin, hrest⟩ := ih hbumped hok
    refine ⟨hfin, hrest.trans ?_⟩
    rw [hfst, flatMap_cons, map_append, append_assoc]

end Folds

/-! ### What the registry should be -/

def recordsFor (text : Json → String) (records : List Value) (p : Pair) : List Value :=
  records.filter fun record => pairOf text record = p

/-- **The registry is a faithful fold** of the records: one entry for each observed pair, its layers
are the last records of that pair, and its status is the one of the last live call. -/
structure Faithful (text : Json → String) (r : Registry) : Prop where
  observed : ∀ e ∈ r.entries, ∃ record ∈ r.observations, pairOf text record = e.2.pair
  present : ∀ record ∈ r.observations, ∃ e ∈ r.entries, e.2.pair = pairOf text record
  single : (r.entries.map fun e => e.2.pair).Nodup
  layers : ∀ e ∈ r.entries, e.2.layers = latest (recordsFor text r.observations e.2.pair)
  status : ∀ e ∈ r.entries, e.2.effectiveStatus.equal (.str "pass") =
    (latest (recordsFor text r.observations e.2.pair) .liveCallable).any passes

/-- Different pairs have different keys. -/
def Apart (sights : List Sight) : Prop :=
  ∀ a ∈ sights, ∀ b ∈ sights, a.pair.key = b.pair.key → a.pair = b.pair

/-- If the last observation of a pair passed, so did its last live call. -/
def Backed (sights : List Sight) : Prop :=
  ∀ p : Pair, (sights.filter fun s => s.pair = p).getLast?.any Sight.pass = true →
    ((sights.filter fun s => s.pair = p).filter fun s =>
      s.layer = some .liveCallable).getLast?.any Sight.pass = true

section Faithful

variable {text : Json → String} {r : Registry} {record : Value} {e : String × Entry}

theorem statusOf_passes : (statusOf record).equal (.str "pass") = passes record := by
  rw [statusOf, passes]
  split
  · rfl
  · rename_i hhas
    rw [Value.get_of_none (Option.not_isSome_iff_eq_none.mp hhas)]
    rfl

theorem getLast?_pass (records : List Value) (keep : Sight → Bool) :
    ((records.map (sightOf text)).filter keep).getLast?.any Sight.pass =
      (records.filter fun record => keep (sightOf text record)).getLast?.any passes := by
  rw [filter_map, getLast?_map, Option.any_map]
  rfl

theorem backed_iff : Backed (r.observations.map (sightOf text)) ↔
    ∀ p, (recordsFor text r.observations p).getLast?.any passes →
      (latest (recordsFor text r.observations p) .liveCallable).any passes := by
  simp only [Backed, filter_filter, getLast?_pass, latest, recordsFor]
  rfl

variable (h : Folds text r)

include h

theorem Folds.entry (he : e ∈ r.entries) : ∃ first rest,
    recordsAt text r.observations e.1 = first :: rest ∧ e.2.pair = pairOf text first ∧
      e.2.pair.key = e.1 ∧ e.2.layers = latest (first :: rest) ∧
      e.2.effectiveStatus.equal (.str "pass") =
        ((latest (first :: rest) .liveCallable).any passes ||
          (first :: rest).getLast?.any passes) := by
  have hlook := (Json.mem_iff_lookup h.nodup).mp he
  rw [h.lookup, folded] at hlook
  cases hfnd : recordsAt text r.observations e.1 with
  | nil =>
    rw [hfnd] at hlook
    cases hlook
  | cons first rest =>
    rw [hfnd, getLast?_cons, Option.map_some] at hlook
    have hent := Option.some.inj hlook
    have hkey : (pairOf text first).key = e.1 := by
      have hmem : first ∈ recordsAt text r.observations e.1 := by
        rw [hfnd]
        exact mem_cons_self
      simpa [recordsAt] using (mem_filter.mp hmem).2
    refine ⟨first, rest, rfl, ?_, ?_, ?_, ?_⟩
    · rw [← hent]
      rfl
    · rw [← hent]
      exact hkey
    · rw [← hent]
    · rw [← hent, getLast?_cons]
      show (if _ then Value.str "pass" else _).equal _ = _
      split
      · rename_i hlive
        rw [hlive]
        rfl
      rename_i hlive
      rw [Bool.not_eq_true] at hlive
      rw [hlive]
      exact statusOf_passes

theorem Folds.exists_entry (hrcd : record ∈ r.observations) :
    ∃ e ∈ r.entries, e.1 = (pairOf text record).key := by
  have hmem : record ∈ recordsAt text r.observations (pairOf text record).key :=
    mem_filter.mpr ⟨hrcd, by simp⟩
  cases hlook : r.entries.lookup (pairOf text record).key with
  | none =>
    rw [h.lookup, folded, Option.map_eq_none_iff, getLast?_eq_none_iff] at hlook
    rw [hlook] at hmem
    cases hmem
  | some entry => exact ⟨(_, entry), (Json.mem_iff_lookup h.nodup).mpr hlook, rfl⟩

omit h in
/-- Where different pairs have different keys, the records with a key are those of one pair. -/
theorem recordsAt_eq (hapart : Apart (r.observations.map (sightOf text)))
    (hrcd : record ∈ r.observations) :
    recordsAt text r.observations (pairOf text record).key =
      recordsFor text r.observations (pairOf text record) := by
  refine filter_congr fun other hoth => ?_
  rw [decide_eq_decide]
  refine ⟨fun hkey => ?_, fun hpair => by rw [hpair]⟩
  exact hapart _ (mem_map_of_mem hoth) _ (mem_map_of_mem hrcd) hkey

theorem Faithful.apart (hfaith : Faithful text r) :
    Apart (r.observations.map (sightOf text)) := by
  intro a ha b hb hkey
  obtain ⟨first, hfst, rfl⟩ := mem_map.mp ha
  obtain ⟨second, hsnd, rfl⟩ := mem_map.mp hb
  obtain ⟨e, he, hpair⟩ := hfaith.present first hfst
  obtain ⟨e', he', hpair'⟩ := hfaith.present second hsnd
  obtain ⟨-, -, -, -, hekey, -⟩ := h.entry he
  obtain ⟨-, -, -, -, hekey', -⟩ := h.entry he'
  -- both have the one entry of their key
  have hsame : e = e' := by
    refine inj_on_of_nodup_map h.nodup he he' ?_
    rw [← hekey, ← hekey', hpair, hpair']
    exact hkey
  show pairOf text first = pairOf text second
  rw [← hpair, ← hpair', hsame]

theorem Folds.entry_apart (hapart : Apart (r.observations.map (sightOf text)))
    (he : e ∈ r.entries) : (∃ record ∈ r.observations, pairOf text record = e.2.pair) ∧
      e.2.layers = latest (recordsFor text r.observations e.2.pair) ∧
      e.2.effectiveStatus.equal (.str "pass") =
        ((latest (recordsFor text r.observations e.2.pair) .liveCallable).any passes ||
          (recordsFor text r.observations e.2.pair).getLast?.any passes) := by
  obtain ⟨first, rest, hfnd, hpair, hkey, hlayers, hst⟩ := h.entry he
  have hfst : first ∈ r.observations := by
    have hmem : first ∈ recordsAt text r.observations e.1 := by
      rw [hfnd]
      exact mem_cons_self
    exact (mem_filter.mp hmem).1
  rw [← hfnd, ← hkey, hpair, recordsAt_eq hapart hfst] at hlayers hst
  rw [hpair]
  exact ⟨⟨first, hfst, rfl⟩, hlayers, hst⟩

theorem Faithful.backed (hfaith : Faithful text r) :
    Backed (r.observations.map (sightOf text)) := by
  refine backed_iff.mpr fun p hlast => ?_
  obtain ⟨record, hrcd, -⟩ := (Option.any_eq_true _ _).mp hlast
  obtain ⟨hrcd, hp⟩ := mem_filter.mp (mem_of_getLast? hrcd)
  obtain ⟨e, he, hpair⟩ := hfaith.present record hrcd
  obtain ⟨-, -, hst⟩ := h.entry_apart (hfaith.apart h) he
  have hpe : e.2.pair = p := hpair.trans (of_decide_eq_true hp)
  rw [hfaith.status e he, hpe, hlast, Bool.or_true] at hst
  exact hst

theorem Folds.faithful (hapart : Apart (r.observations.map (sightOf text)))
    (hbacked : Backed (r.observations.map (sightOf text))) : Faithful text r := by
  constructor
  case observed => exact fun e he => (h.entry_apart hapart he).1
  case present =>
    intro record hrcd
    obtain ⟨e, he, hkey⟩ := h.exists_entry hrcd
    obtain ⟨other, hoth, hpair⟩ := (h.entry_apart hapart he).1
    obtain ⟨-, -, -, -, hekey, -⟩ := h.entry he
    refine ⟨e, he, ?_⟩
    rw [← hpair]
    refine hapart _ (mem_map_of_mem hoth) _ (mem_map_of_mem hrcd) ?_
    show (pairOf text other).key = (pairOf text record).key
    rw [hpair, hekey, hkey]
  case single =>
    have hkeys : (r.entries.map fun e => e.2.pair).map Pair.key = r.entries.map Prod.fst := by
      rw [map_map]
      refine map_congr_left fun e he => ?_
      obtain ⟨-, -, -, -, hekey, -⟩ := h.entry he
      exact hekey
    exact List.Nodup.of_map Pair.key (hkeys ▸ h.nodup)
  case layers => exact fun e he => (h.entry_apart hapart he).2.1
  case status =>
    intro e he
    rw [(h.entry_apart hapart he).2.2]
    cases hlast : (recordsFor text r.observations e.2.pair).getLast?.any passes with
    | false => rw [Bool.or_false]
    | true => rw [backed_iff.mp hbacked _ hlast, Bool.true_or]

end Faithful

/-- The registry that `init` writes. -/
def Registry.initial : Registry := ⟨0, 0, [], []⟩

theorem folds_initial (text : Json → String) : Folds text .initial := ⟨nodup_nil, fun _ => rfl⟩

section Calls

variable {text : Json → String} {calls : List Call} {r : Registry}
  (hok : calls.foldlM (reconcileCapabilities text) .initial = .ok r)

include hok

theorem folds_calls : Folds text r ∧ r.observations.map (sightOf text) =
    (calls.flatMap Call.observations).map (sightOf text) :=
  (folds_initial text).reconcile hok

theorem Faithful.sights (h : Faithful text r) :
    Apart ((calls.flatMap Call.observations).map (sightOf text)) ∧
      Backed ((calls.flatMap Call.observations).map (sightOf text)) := by
  obtain ⟨hfolds, hsights⟩ := folds_calls hok
  rw [← hsights]
  exact ⟨h.apart hfolds, h.backed hfolds⟩

/-- **When the registry is a faithful fold** of the observations of any calls that succeeded:
exactly if different pairs have different keys, and no pair passed last without a live call that
passed. -/
theorem registry_faithful_iff :
    Faithful text r ↔ Apart ((calls.flatMap Call.observations).map (sightOf text)) ∧
      Backed ((calls.flatMap Call.observations).map (sightOf text)) := by
  refine ⟨fun h => h.sights hok, fun h => ?_⟩
  obtain ⟨hfolds, hsights⟩ := folds_calls hok
  rw [← hsights] at h
  exact hfolds.faithful h.1 h.2

end Calls

def sampleText : Json → String := fun _ => ""

def sampleObservation (subject capability : String) (layer : Layer) : Value :=
  .dict [("subject_id", .str subject), ("capability_id", .str capability),
    ("layer", .str layer.name), ("status", .str "pass")] (by simp)

def sampleCall (observations : List Value) : Call where
  observations := observations
  state := .dict [("installation_id", .str "inst-1"), ("status", .str "active"),
    ("active_leader_epoch", .int 1)] (by simp)
  now := fun _ => "2026-01-02T00:00:00Z"
  newId := fun _ => "observation-1"
  started := .ok ()
  finished := .ok ()

/-- A live call that passed. -/
theorem registry_live_faithful :
    ∃ r, [sampleCall [sampleObservation "worker" "edit" .liveCallable]].foldlM
      (reconcileCapabilities sampleText) .initial = .ok r ∧ Faithful sampleText r := by
  obtain ⟨r, hr⟩ : ∃ r, [sampleCall [sampleObservation "worker" "edit" .liveCallable]].foldlM
      (reconcileCapabilities sampleText) .initial = .ok r := ⟨_, rfl⟩
  refine ⟨r, hr, (registry_faithful_iff hr).mpr ⟨?_, fun p hlast => ?_⟩⟩
  · intro a ha b hb _
    rw [mem_singleton.mp ha, mem_singleton.mp hb]
  · obtain ⟨sight, hsight, -⟩ := (Option.any_eq_true _ _).mp hlast
    obtain ⟨hmem, hp⟩ := mem_filter.mp (mem_of_getLast? hsight)
    obtain rfl := mem_singleton.mp hmem
    obtain rfl := of_decide_eq_true hp
    rfl

/-- **Two pairs share an entry, and a claim counts as a live call.** -/
theorem registry_not_faithful : (∃ r, [sampleCall [sampleObservation "a::b" "c" .liveCallable,
        sampleObservation "a" "b::c" .liveCallable]].foldlM
      (reconcileCapabilities sampleText) .initial = .ok r ∧ ¬ Faithful sampleText r) ∧
    ∃ r, [sampleCall [sampleObservation "worker" "edit" .officialClaim]].foldlM
      (reconcileCapabilities sampleText) .initial = .ok r ∧ ¬ Faithful sampleText r := by
  constructor
  · obtain ⟨r, hr⟩ : ∃ r, [sampleCall [sampleObservation "a::b" "c" .liveCallable,
        sampleObservation "a" "b::c" .liveCallable]].foldlM
      (reconcileCapabilities sampleText) .initial = .ok r := ⟨_, rfl⟩
    refine ⟨r, hr, fun h => ?_⟩
    have hsame := (h.sights hr).1 _ mem_cons_self _
      (mem_cons_of_mem _ mem_cons_self) (by decide)
    exact absurd hsame (by decide)
  · obtain ⟨r, hr⟩ : ∃ r, [sampleCall [sampleObservation "worker" "edit" .officialClaim]].foldlM
      (reconcileCapabilities sampleText) .initial = .ok r := ⟨_, rfl⟩
    refine ⟨r, hr, fun h => ?_⟩
    exact absurd ((h.sights hr).2 ⟨"worker", "edit"⟩ rfl) (by decide)

end Valp.Control
