/-
The replay of an installation (`InstallationCore.replay` of `valp_cli/control_plane.py`).

* `Root.replay` is the replay: the loop over the messages, the loop over the events with the
  contract of every transition, and the comparison with the persisted state
* `Replayed` says what the replay asks of an event, with its message
* `Fenced` says what the epochs of a history should be, and `Numbered` what the records of a ledger
  have to say for that: a replay does not ask for it, since it takes the epoch of a new leader
  from the payload and does not look at the epoch of an event
-/
import Valp.ControlRefusal

namespace Valp.Control

open Json (Value)
open Kernel (bind_eq_ok)
open List
open Json.Value

/-! ### The replay -/

/-- `if not …: raise ControlPlaneError(…, message, state_effect="blocked")`. -/
def demand (condition : Bool) (message : String) : Except Fault Unit :=
  if condition then .ok ()
  else .error (.control "VALP-E-REGISTRY-CONSISTENCY" message "blocked")

/-- A key of a dictionary or an item of a set, which has to be hashable. -/
def hashed (v : Value) : Except Fault Value :=
  match v.1 with
  | .arr _ | .obj _ => .error (.python "TypeError")
  | _ => .ok v

/-- One turn of the loop over the messages, behind those of `message_by_id`. -/
def checkMessage (before : List Value) (message : Value) : Except Fault (List Value) := do
  demand ((message.get "installation_sequence").equal (.int (before.length + 1)))
    "Accepted message sequence has a gap"
  demand ((message.get "message_digest").equal (.str (digestWithout message "message_digest")))
    "Message digest mismatch"
  let id ← hashed (message.get "message_id")
  demand (!before.any fun other => (other.get "message_id").equal id)
    "Duplicate accepted message id"
  .ok (before ++ [message])

/-- What the loop over the events carries along. -/
structure Cursor where
  seen : List Value
  current : Value
  previousDigest : Value
  previousRevision : Int

/-- `message_by_id.get(event.get("accepted_message_id"))`, with the message of the event. -/
def acceptedMessage (messages : List Value) (event : Value) : Except Fault Value := do
  let id ← hashed (event.get "accepted_message_id")
  match messages.find? fun message => (message.get "message_id").equal id with
  | some message => do
    demand ((message.get "event_id").equal (event.get "event_id"))
      "Event is missing its accepted message"
    .ok message
  | none => .error (.control "VALP-E-REGISTRY-CONSISTENCY" "Event is missing its accepted message"
      "blocked")

/-- Event, projection and message fit the revision before them and each other. -/
def fits (message event projection : Value) (previousRevision : Int) : Bool :=
  let payload := message.get "payload"
  let result := message.get "result"
  (projection.get "projection_digest").equal (.str (stateDigest projection)) &&
  (event.get "prior_revision").equal (.int previousRevision) &&
  (event.get "new_revision").equal (.int (previousRevision + 1)) &&
  (projection.get "revision").equal (event.get "new_revision") &&
  (projection.get "last_event_id").equal (event.get "event_id") &&
  (projection.get "last_event_digest").equal (event.get "prior_event_digest") &&
  (projection.get "updated_at").equal (event.get "occurred_at") &&
  (projection.get "installation_id").equal (event.get "installation_id") &&
  (message.get "expected_state_revision").equal (event.get "prior_revision") &&
  (message.get "sender_principal_id").equal (event.get "actor_principal_id") &&
  (message.get "leader_epoch").equal (event.get "leader_epoch") &&
  (message.get "content_digest").equal (.str (contentDigest (message.get "kind")
    (message.get "sender_principal_id") (message.get "leader_epoch")
    (message.get "expected_state_revision") payload)) &&
  (if payload.isObject then
    (event.get "payload").equal (payload.set "state_projection" projection)
  else (event.get "payload").isNone) &&
  result.isObject &&
  (result.get "message_id").equal (message.get "message_id") &&
  (result.get "event_id").equal (event.get "event_id") &&
  (result.get "revision").equal (event.get "new_revision") &&
  (result.get "status").equal (projection.get "status")

def projectionOf (event : Value) : Value := (event.get "payload").get "state_projection"

def stateBehind (event : Value) : Value :=
  let current := (projectionOf event).set "last_event_digest" (event.get "event_digest")
  current.set "projection_digest" (.str (stateDigest current))

def Cursor.advance (cursor : Cursor) (event : Value) : Cursor where
  seen := cursor.seen ++ [event]
  current := stateBehind event
  previousDigest := event.get "event_digest"
  previousRevision := cursor.previousRevision + 1

/-- One turn of the loop over the events. -/
def replayEvent (messages : List Value) (cursor : Cursor) (event : Value) :
    Except Fault Cursor := do
  demand ((event.get "installation_sequence").equal (.int (cursor.seen.length + 1)))
    "Event sequence has a gap"
  let message ← acceptedMessage messages event
  let id ← hashed (event.get "event_id")
  demand (!cursor.seen.any fun other => (other.get "event_id").equal id ||
      (other.get "accepted_message_id").equal (event.get "accepted_message_id"))
    "Message and event identity is not one-to-one"
  demand ((event.get "prior_event_digest").equal cursor.previousDigest)
    "Event chain digest mismatch"
  demand ((event.get "event_digest").equal (.str (digestWithout event "event_digest")))
    "Event digest mismatch"
  demand (projectionOf event).isObject "Event has no state projection"
  validateTransitionContract true message event (projectionOf event) cursor.current
  demand (fits message event (projectionOf event) cursor.previousRevision)
    "Event projection or accepted message conflicts with replay"
  .ok (cursor.advance event)

def Root.replay (now : String) (root : Root) : Except Fault Value := do
  root.requireInitialized
  demand (!present root.journal) "Pending transition journal requires recovery before replay"
  let messages ← root.readMessages
  let _ ← messages.foldlM checkMessage []
  let events ← root.readEvents
  let installation ← root.readInstallation
  let installationId ← item installation "installation_id"
  let cursor ← events.foldlM (replayEvent messages) ⟨[], emptyState installationId now, .null, 0⟩
  demand (messages.all fun message => events.any fun event =>
      (event.get "accepted_message_id").equal (message.get "message_id"))
    "Accepted message ledger contains an orphan record"
  let current := if events.isEmpty then
      cursor.current.set "projection_digest" (.str (stateDigest cursor.current))
    else cursor.current
  let persisted ← readJson "state.json" root.state
  demand ((persisted.get "projection_digest").equal (.str (stateDigest persisted)))
    "Persisted state digest mismatch"
  demand (persisted.equal current) "State projection differs from event replay"
  .ok current

/-! ### What a replay accepts -/

theorem demand_eq_ok {condition : Bool} {message : String} {u : Unit} :
    demand condition message = .ok u ↔ condition := by
  rw [demand]
  split
  · exact iff_of_true rfl ‹_›
  · exact iff_of_false nofun ‹_›

theorem eq_of_hashed {v w : Value} (h : hashed v = .ok w) : w = v := by
  rw [hashed] at h
  split at h
  · cases h
  · cases h
  · exact (Except.ok.inj h).symm

/-- **What the replay asks of an event** of one kind with its message. -/
structure Replayed (messages : List Value) (cursor : Cursor) (kind : EventKind)
    (message event : Value) : Prop where
  sequence : (event.get "installation_sequence").equal (.int (cursor.seen.length + 1)) = true
  found : acceptedMessage messages event = .ok message
  hashable : hashed (event.get "event_id") = .ok (event.get "event_id")
  new : ∀ other ∈ cursor.seen, (other.get "event_id").equal (event.get "event_id") = false ∧
    (other.get "accepted_message_id").equal (event.get "accepted_message_id") = false
  chain : (event.get "prior_event_digest").equal cursor.previousDigest = true
  digest : (event.get "event_digest").equal (.str (digestWithout event "event_digest")) = true
  object : (projectionOf event).isObject = true
  lawful : Lawful true kind message event (projectionOf event) cursor.current
  fits : fits message event (projectionOf event) cursor.previousRevision = true

theorem replayEvent_eq_ok {messages : List Value} {cursor next : Cursor} {event : Value} :
    replayEvent messages cursor event = .ok next ↔
      (∃ kind message, Replayed messages cursor kind message event) ∧
        next = cursor.advance event := by
  simp only [replayEvent, bind_eq_ok, demand_eq_ok, exists_const, Bool.not_eq_true',
    any_eq_false, Bool.or_eq_true, not_or, Bool.not_eq_true]
  constructor
  · rintro ⟨hseq, message, hmsg, id, hid, hnew, hch, hdig, hobj, ⟨⟩, hlawful, hfits, hnext⟩
    obtain rfl := eq_of_hashed hid
    obtain ⟨kind, hlawful⟩ := lawful_iff.mp hlawful
    exact ⟨⟨kind, message, hseq, hmsg, hid, hnew, hch, hdig, hobj, hlawful,
      hfits⟩, (Except.ok.inj hnext).symm⟩
  · rintro ⟨⟨kind, message, h⟩, rfl⟩
    exact ⟨h.sequence, message, h.found, _, h.hashable, h.new, h.chain, h.digest, h.object, (),
      lawful_iff.mpr ⟨kind, h.lawful⟩, h.fits, rfl⟩

theorem exists_cursor {root : Root} {now : String} {current : Value}
    (h : root.replay now = .ok current) :
    ∃ messages events installationId cursor, root.readMessages = .ok messages ∧
      root.readEvents = .ok events ∧ events.foldlM (replayEvent messages)
        ⟨[], emptyState installationId now, .null, 0⟩ = .ok cursor := by
  simp only [Root.replay, bind_eq_ok] at h
  obtain ⟨_, -, _, -, messages, hmsgs, _, -, events, hevs, _, -, installationId, -, cursor,
    hcursor, -⟩ := h
  exact ⟨messages, events, installationId, cursor, hmsgs, hevs, hcursor⟩

/-! ### Epochs -/

/-- The kinds of events that put a leader in place. -/
def activates (event : Value) : Bool :=
  (event.get "event_kind").equal (.str EventKind.leaderActivated.name) ||
    (event.get "event_kind").equal (.str EventKind.leaderRotationCompleted.name)

/-- The epoch of the state behind the events. -/
def epochBehind (events : List Value) : Value :=
  (events.getLast?.map fun event => (projectionOf event).get "active_leader_epoch").getD (.int 0)

/-- **The history is fenced**: every event carries the epoch of the state before it, and the epoch
goes up by one where a leader is put in place and stays elsewhere. -/
def Fenced (events : List Value) : Prop :=
  ∀ before event after, events = before ++ event :: after →
    (event.get "leader_epoch").equal (epochBehind before) = true ∧
      if activates event then ∃ n : Int, (epochBehind before).equal (.int n) = true ∧
        (epochBehind (before ++ [event])).equal (.int (n + 1)) = true
      else (epochBehind (before ++ [event])).equal (epochBehind before) = true

/-- **The epochs are numbers of activations**: the i-th activation asks for the epoch i, and every
event carries the number of the activations before it. -/
def Numbered (events : List Value) : Prop :=
  ∀ before event after, events = before ++ event :: after →
    (event.get "leader_epoch").equal (.int (before.countP activates)) = true ∧
      (activates event = true → ((event.get "payload").get "active_leader_epoch").equal
        (.int (before.countP activates + 1)) = true)

section Epochs

variable {messages events before after : List Value} {cursor mid : Cursor} {event message : Value}
  {kind : EventKind} {installationId : Value} {now : String}

theorem activates_iff (h : event.get "event_kind" = .str kind.name) :
    activates event ↔ "active_leader_epoch" ∈ kind.payloadFields := by
  rw [activates, h, equal_str_str, equal_str_str]
  cases kind <;> decide

/-- The epoch behind an event: what its payload says if a leader is put in place, and the epoch
before it if not. -/
theorem Replayed.epoch (h : Replayed messages cursor kind message event) :
    ((projectionOf event).get "active_leader_epoch").equal
      (if activates event then (event.get "payload").get "active_leader_epoch"
        else cursor.current.get "active_leader_epoch") := by
  split
  · rename_i hactv
    have hdecl := (activates_iff h.lawful.event_kind).mp hactv
    have hfld : "active_leader_epoch" ∈
        payloadStateFields true kind (message.get "payload") := by
      rw [payloadStateFields]
      split
      · exact mem_cons_of_mem _ hdecl
      · exact hdecl
    have hpay : (event.get "payload").equal
        ((message.get "payload").set "state_projection" (projectionOf event)) := by
      have hfits := h.fits
      simp only [Control.fits, h.lawful.payload, if_true, Bool.and_eq_true, and_assoc] at hfits
      exact hfits.2.2.2.2.2.2.2.2.2.2.2.2.1
    have hget := equal_get hpay "active_leader_epoch"
    rw [get_set_ne h.lawful.payload (by decide)] at hget
    exact equal_trans (h.lawful.declared _ hfld).2 (equal_symm hget)
  · rename_i hactv
    have hfld : "active_leader_epoch" ∉
        payloadStateFields true kind (message.get "payload") := by
      rw [activates_iff h.lawful.event_kind] at hactv
      rw [payloadStateFields]
      split
      · simpa using hactv
      · exact hactv
    exact equal_symm (h.lawful.unchanged _ (by decide) hfld)

theorem exists_replayed {start : Cursor}
    (h : (before ++ event :: after).foldlM (replayEvent messages) start = .ok cursor) :
    ∃ mid kind message, before.foldlM (replayEvent messages) start = .ok mid ∧
      Replayed messages mid kind message event := by
  rw [foldlM_append] at h
  obtain ⟨mid, hmid, h⟩ := bind_eq_ok.mp h
  rw [foldlM_cons] at h
  obtain ⟨next, hnext, -⟩ := bind_eq_ok.mp h
  obtain ⟨⟨kind, message, hreplayed⟩, -⟩ := replayEvent_eq_ok.mp hnext
  exact ⟨mid, kind, message, hmid, hreplayed⟩

theorem epoch_current (h : before.foldlM (replayEvent messages)
    ⟨[], emptyState installationId now, .null, 0⟩ = .ok mid) :
    mid.current.get "active_leader_epoch" = epochBehind before := by
  rcases eq_nil_or_concat before with rfl | ⟨init, event, rfl⟩
  · cases h
    rfl
  rw [concat_eq_append] at h ⊢
  rw [foldlM_append] at h
  obtain ⟨cursor, -, h⟩ := bind_eq_ok.mp h
  rw [foldlM_cons] at h
  obtain ⟨next, hnext, h⟩ := bind_eq_ok.mp h
  cases h
  obtain ⟨⟨_, _, hreplayed⟩, rfl⟩ := replayEvent_eq_ok.mp hnext
  have hobj := hreplayed.object
  rw [epochBehind, getLast?_concat, Option.map_some, Option.getD_some, Cursor.advance, stateBehind]
  simp [get_set, hobj]

variable (h : events.foldlM (replayEvent messages)
  ⟨[], emptyState installationId now, .null, 0⟩ = .ok cursor)

include h

theorem epochBehind_concat (hevs : events = before ++ event :: after) :
    (epochBehind (before ++ [event])).equal
      (if activates event then (event.get "payload").get "active_leader_epoch"
        else epochBehind before) := by
  rw [hevs] at h
  obtain ⟨mid, kind, message, hmid, hreplayed⟩ := exists_replayed h
  have hep := hreplayed.epoch
  rw [epoch_current hmid] at hep
  rw [epochBehind, getLast?_concat]
  exact hep

omit h in
/-- An epoch that every activation counts up, and nothing else, is the number of activations. -/
theorem epoch_of_steps (hstep : ∀ before event after, events = before ++ event :: after →
      if activates event then (epochBehind before).equal (.int (before.countP activates)) →
        (epochBehind (before ++ [event])).equal (.int (before.countP activates + 1)) = true
      else (epochBehind (before ++ [event])).equal (epochBehind before))
    (hevs : events = before ++ after) :
    (epochBehind before).equal (.int (before.countP activates)) := by
  induction before using List.reverseRecOn generalizing after with
  | nil => exact equal_self _
  | append_singleton before event ih =>
    rw [append_assoc, singleton_append] at hevs
    have hbef := ih hevs
    have hnext := hstep before event after hevs
    rw [countP_append, countP_singleton]
    split at hnext
    · rename_i hactv
      rw [if_pos hactv, Nat.cast_add, Nat.cast_one]
      exact hnext hbef
    · rename_i hactv
      rw [if_neg hactv, Nat.add_zero]
      exact equal_trans hnext hbef

omit h in
theorem Fenced.epoch (hfen : Fenced events) (hevs : events = before ++ after) :
    (epochBehind before).equal (.int (before.countP activates)) := by
  refine epoch_of_steps (fun before event after hevs => ?_) hevs
  have hstep := (hfen before event after hevs).2
  split
  · rename_i hactv
    intro hbef
    rw [if_pos hactv] at hstep
    obtain ⟨n, hn, hnext⟩ := hstep
    have hcount := equal_trans (equal_symm hn) hbef
    rw [equal_int_int, decide_eq_true_iff] at hcount
    rwa [hcount] at hnext
  · rename_i hactv
    rwa [if_neg hactv] at hstep

theorem Numbered.epoch (hnum : Numbered events) (hevs : events = before ++ after) :
    (epochBehind before).equal (.int (before.countP activates)) := by
  refine epoch_of_steps (fun before event after hevs => ?_) hevs
  have hstep := epochBehind_concat h hevs
  split
  · rename_i hactv
    rw [if_pos hactv] at hstep
    exact fun _ => equal_trans hstep ((hnum before event after hevs).2 hactv)
  · rename_i hactv
    rwa [if_neg hactv] at hstep

theorem fenced_iff_numbered : Fenced events ↔ Numbered events := by
  constructor
  · intro hfen before event after hevs
    obtain ⟨hep, hstep⟩ := hfen before event after hevs
    have hbef := hfen.epoch hevs
    refine ⟨equal_trans hep hbef, fun hactv => ?_⟩
    have hconcat := epochBehind_concat h hevs
    rw [if_pos hactv] at hconcat hstep
    have hsp : events = (before ++ [event]) ++ after := by
      rw [hevs, append_assoc, singleton_append]
    have hbeh := hfen.epoch hsp
    rw [countP_append, countP_singleton, if_pos hactv, Nat.cast_add, Nat.cast_one] at hbeh
    exact equal_trans (equal_symm hconcat) hbeh
  · intro hnum before event after hevs
    obtain ⟨hep, hpay⟩ := hnum before event after hevs
    have hbef := hnum.epoch h hevs
    have hconcat := epochBehind_concat h hevs
    refine ⟨equal_trans hep (equal_symm hbef), ?_⟩
    split
    · rename_i hactv
      rw [if_pos hactv] at hconcat
      exact ⟨_, hbef, equal_trans hconcat (hpay hactv)⟩
    · rename_i hactv
      rwa [if_neg hactv] at hconcat

end Epochs

/-- **When a replay refuses unfenced histories.**  A ledger that is replayed is fenced exactly if
its epochs are numbered; the replay itself does not look at them. -/
theorem replay_fenced_iff {root : Root} {now : String} {current : Value} {events : List Value}
    (h : root.replay now = .ok current) (hevents : root.readEvents = .ok events) :
    Fenced events ↔ Numbered events := by
  obtain ⟨messages, found, installationId, cursor, -, hfound, hcursor⟩ := exists_cursor h
  cases hevents.symm.trans hfound
  exact fenced_iff_numbered hcursor

/-! ### A ledger that starts with an epoch -/

def craftedState (digest : Value) : Value :=
  .dict [
    ("active_blockers", Dispatch.listOf []),
    ("active_leader", .null),
    ("active_leader_epoch", .int 0),
    ("installation_id", .str "inst-1"),
    ("last_event_digest", .null),
    ("last_event_id", .str "evt-1"),
    ("projection_digest", digest),
    ("registry_revision", .int 0),
    ("revision", .int 1),
    ("schema_version", .str "valp-executable-state.v1"),
    ("selected_leader", .null),
    ("status", .str Status.bootstrapping.name),
    ("updated_at", .str "2026-01-02T00:00:00Z")] (by simp)

def craftedProjection : Value := craftedState (.str (stateDigest (craftedState .null)))

def craftedEvent (epoch : Int) (digest : Value) : Value :=
  .dict [
    ("accepted_message_id", .str "msg-1"),
    ("actor_principal_id", .str "bootstrap-controller"),
    ("event_digest", digest),
    ("event_id", .str "evt-1"),
    ("event_kind", .str EventKind.installationInitialized.name),
    ("installation_id", .str "inst-1"),
    ("installation_sequence", .int 1),
    ("leader_epoch", .int epoch),
    ("new_revision", .int 1),
    ("occurred_at", .str "2026-01-02T00:00:00Z"),
    ("payload", .dict [("state_projection", craftedProjection)] (by simp)),
    ("prior_event_digest", .null),
    ("prior_revision", .int 0)] (by simp)

def craftedMessage (epoch : Int) (digest : Value) : Value :=
  .dict [
    ("content_digest", .str (contentDigest (.str EventKind.installationInitialized.messageKind)
      (.str "bootstrap-controller") (.int epoch) (.int 0) (.dict [] nodup_nil))),
    ("event_id", .str "evt-1"),
    ("expected_state_revision", .int 0),
    ("installation_sequence", .int 1),
    ("kind", .str EventKind.installationInitialized.messageKind),
    ("leader_epoch", .int epoch),
    ("message_digest", digest),
    ("message_id", .str "msg-1"),
    ("payload", .dict [] nodup_nil),
    ("result", .dict [("event_id", .str "evt-1"), ("message_id", .str "msg-1"),
      ("revision", .int 1), ("status", .str Status.bootstrapping.name)] (by simp)),
    ("sender_kind", .str "bootstrap-controller"),
    ("sender_principal_id", .str "bootstrap-controller")] (by simp)

section Crafted

variable (epoch : Int)

def loggedEvent : Value :=
  craftedEvent epoch (.str (digestWithout (craftedEvent epoch .null) "event_digest"))

def loggedMessage : Value :=
  craftedMessage epoch (.str (digestWithout (craftedMessage epoch .null) "message_digest"))

/-- The root of a ledger with one rehashed event. -/
def craftedRoot : Root where
  installation := .document (.dict [("installation_id", .str "inst-1")] (nodup_singleton _))
  state := .document (stateBehind (loggedEvent epoch))
  journal := .missing
  messages := Ledgers.appendJsonl Json.codec none (loggedMessage epoch)
  events := Ledgers.appendJsonl Json.codec none (loggedEvent epoch)
  failures := none

theorem clean_digest (v : Value) : (Value.str (digestValue v)).Clean :=
  clean_str_of_ascii fun c hc => by
    rw [digestValue] at hc
    exact Kernel.digestText_ascii hc

theorem craftedProjection_clean : craftedProjection.Clean := by
  rw [craftedProjection, craftedState]
  refine clean_dict ?_
  simp only [forall_mem_cons, not_mem_nil, false_implies, implies_true]
  refine ⟨?_, ?_, ?_, ?_, ?_, ?_, ?_, ?_, ?_, ?_, ?_, ?_, ?_, trivial⟩
  all_goals refine ⟨by decide, ?_⟩
  all_goals first | decide | exact clean_digest _

theorem logged_clean : (loggedMessage epoch).Clean ∧ (loggedEvent epoch).Clean := by
  have hpay : (Value.dict [("state_projection", craftedProjection)] (by simp)).Clean :=
    clean_dict (by simpa using ⟨by decide, craftedProjection_clean⟩)
  rw [loggedMessage, craftedMessage, loggedEvent, craftedEvent]
  refine ⟨clean_dict ?_, clean_dict ?_⟩
  all_goals simp only [forall_mem_cons, not_mem_nil, false_implies, implies_true]
  · refine ⟨?_, ?_, ?_, ?_, ?_, ?_, ?_, ?_, ?_, ?_, ?_, ?_, trivial⟩
    all_goals refine ⟨by decide, ?_⟩
    all_goals first | exact clean_int _ | decide | exact clean_digest _
  · refine ⟨?_, ?_, ?_, ?_, ?_, ?_, ?_, ?_, ?_, ?_, ?_, ?_, ?_, trivial⟩
    all_goals refine ⟨by decide, ?_⟩
    all_goals first | exact clean_int _ | exact hpay | decide | exact clean_digest _

theorem readJsonl_single {record : Value} (name : String) (hobj : record.isObject)
    (hcln : record.Clean) (hnormal : record.normal true = record) :
    readJsonl name (Ledgers.appendJsonl Json.codec none record) = .ok [record] := by
  have hemp : JsonLines.read Json.codec (JsonLines.written Json.codec true []) = .ok [] := rfl
  have hread : JsonLines.read Json.codec (Ledgers.appendJsonl Json.codec none record) =
      .ok [record.normal true] :=
    (JsonLines.read_append_iff Json.lawful_codec hobj hemp).mpr hcln
  rw [readJsonl, Ledgers.readJsonl, hread, hnormal]
  rfl

theorem logged_normal (hep : epoch = 0 ∨ epoch = 3) :
    (loggedMessage epoch).normal true = loggedMessage epoch ∧
      (loggedEvent epoch).normal true = loggedEvent epoch := by
  rcases hep with rfl | rfl
  · exact ⟨rfl, rfl⟩
  · exact ⟨rfl, rfl⟩

theorem craftedRoot_events (hep : epoch = 0 ∨ epoch = 3) :
    (craftedRoot epoch).readEvents = .ok [loggedEvent epoch] :=
  readJsonl_single _ rfl (logged_clean epoch).2 (logged_normal epoch hep).2

theorem logged_lawful :
    Lawful true .installationInitialized (loggedMessage epoch) (loggedEvent epoch)
      craftedProjection (emptyState (.str "inst-1") "") := by
  have hkeys : ∀ f ∈ (emptyState (.str "inst-1") "").keys ++ craftedProjection.keys,
      f ∈ allowedChanges ∨ ((emptyState (.str "inst-1") "").get f).equal
        (craftedProjection.get f) := by
    decide +kernel
  constructor
  case legal => exact .inl (by decide)
  case asserted => exact fun _ _ h => absurd h Bool.false_ne_true
  case declared => exact fun _ h => absurd h not_mem_nil
  case unchanged => exact fun f hf _ => forall_keys_iff.mp (fun f hf => (hkeys f hf).symm) f hf
  case revision => exact ⟨_, rfl, rfl⟩
  case blockers => exact ⟨_, rfl, rfl⟩
  all_goals rfl

theorem logged_fits : fits (loggedMessage epoch) (loggedEvent epoch) craftedProjection 0 := by
  have hpay : (loggedMessage epoch).get "payload" = .dict [] (by simp) := rfl
  have hev : (loggedEvent epoch).get "payload" =
      (Value.dict [] (by simp)).set "state_projection" craftedProjection := rfl
  have hcontent : (loggedMessage epoch).get "content_digest" = .str (contentDigest
      ((loggedMessage epoch).get "kind") ((loggedMessage epoch).get "sender_principal_id")
      ((loggedMessage epoch).get "leader_epoch")
      ((loggedMessage epoch).get "expected_state_revision") (.dict [] (by simp))) := rfl
  have hprojection : craftedProjection.get "projection_digest" =
      .str (stateDigest craftedProjection) := rfl
  have hep : (loggedMessage epoch).get "leader_epoch" =
      (loggedEvent epoch).get "leader_epoch" := rfl
  have hobj : (Value.dict [] (by simp)).isObject := rfl
  simp only [fits, hpay, hev, hcontent, hprojection, hep, hobj, equal_self,
    if_true, Bool.true_and, Bool.and_true]
  rfl

theorem logged_replayed :
    Replayed [loggedMessage epoch] ⟨[], emptyState (.str "inst-1") "", .null, 0⟩
      .installationInitialized (loggedMessage epoch) (loggedEvent epoch) where
  sequence := rfl
  found := rfl
  hashable := rfl
  new := nofun
  chain := rfl
  digest := equal_self _
  object := rfl
  lawful := logged_lawful epoch
  fits := logged_fits epoch

/-- **The replay accepts the ledger, whatever its epoch.** -/
theorem craftedRoot_replays (hep : epoch = 0 ∨ epoch = 3) :
    (craftedRoot epoch).replay "" = .ok (stateBehind (loggedEvent epoch)) := by
  have hmsgs : (craftedRoot epoch).readMessages = .ok [loggedMessage epoch] :=
    readJsonl_single _ rfl (logged_clean epoch).1 (logged_normal epoch hep).1
  have hchkd : [loggedMessage epoch].foldlM checkMessage [] = .ok [loggedMessage epoch] := by
    simp only [foldlM_cons, foldlM_nil, checkMessage, bind_eq_ok, demand_eq_ok, exists_const]
    exact ⟨_, ⟨rfl, equal_self _, _, rfl, rfl, rfl⟩, rfl⟩
  have hturn := replayEvent_eq_ok.mpr ⟨⟨_, _, logged_replayed epoch⟩, rfl⟩
  have hpers : ((stateBehind (loggedEvent epoch)).get "projection_digest").equal
      (.str (stateDigest (stateBehind (loggedEvent epoch)))) := by
    have hobj : ((projectionOf (loggedEvent epoch)).set "last_event_digest"
        ((loggedEvent epoch).get "event_digest")).isObject := rfl
    rw [stateBehind, get_set_self hobj, stateDigest, stateDigest, digestWithout_set hobj]
    exact equal_self _
  simp only [Root.replay, hmsgs, craftedRoot_events epoch hep, bind_eq_ok,
    demand_eq_ok, exists_const]
  exact ⟨(), rfl, rfl, _, rfl, _, hchkd, _, rfl, _, rfl, _, rfl, _,
    bind_eq_ok.mpr ⟨_, hturn, rfl⟩, rfl, _, rfl, hpers, equal_self _, rfl⟩

end Crafted

/-- The ledger with the epoch 0 is numbered, and so it is fenced. -/
theorem replay_first_fenced :
    (craftedRoot 0).replay "" = .ok (stateBehind (loggedEvent 0)) ∧ Fenced [loggedEvent 0] := by
  have hreplay := craftedRoot_replays 0 (.inl rfl)
  refine ⟨hreplay, (replay_fenced_iff hreplay (craftedRoot_events 0 (.inl rfl))).mpr ?_⟩
  intro before event after hevents
  obtain ⟨rfl, hrest⟩ : before = [] ∧ [loggedEvent 0] = event :: after := by
    cases before with
    | nil => exact ⟨rfl, hevents⟩
    | cons => simp at hevents
  cases hrest
  exact ⟨rfl, fun h => absurd h Bool.false_ne_true⟩

/-- **The replay accepts a ledger that starts with the epoch 3.** -/
theorem replay_first_unfenced : (craftedRoot 3).replay "" = .ok (stateBehind (loggedEvent 3)) ∧
      (craftedRoot 3).readEvents = .ok [loggedEvent 3] ∧ ¬ Fenced [loggedEvent 3] := by
  refine ⟨craftedRoot_replays 3 (.inr rfl), craftedRoot_events 3 (.inr rfl), fun hfenced => ?_⟩
  have hepoch := (hfenced [] _ [] rfl).1
  exact absurd hepoch (by decide +kernel)

end Valp.Control
