/-
The records of a transition (`valp_cli/control_plane.py`).

`_transition_unlocked` makes the next state, the message, the event and the installation
document from the state that it has read, which is a view without legacy fields.  The commit
checks these records against each other and against the contract, with the persisted state as
the state before.

* `Built.lawful_iff` — **a transition is lawful exactly if its arguments suit the persisted
  state**: the kinds, the principal, the target and the fields of the payload are not looked at
  before the journal is written.
-/
import Valp.ControlTransition

namespace Valp.Control

open Json (Value)
open Dispatch (listOf)
open Durable
open Queue (exactInt)
open List
open Json.Value

/-! ### Sealed records -/

section Sealed

variable {fields : List (String × Value)} {field k : String} {v : Value}
  {h : (fields.map Prod.fst ++ [field]).Nodup}

theorem get_sealed (hmem : (k, v) ∈ fields) : (sealed fields field h).get k = v :=
  get_dict (mem_append_left _ hmem)

theorem get_sealed_digest : (sealed fields field h).get field =
    .str (digestValue (.dict fields (nodup_append.mp h).1)) :=
  get_dict (mem_append_right _ (mem_singleton_self _))

/-- **A record is what its digest says.** -/
theorem digestWithout_sealed : digestWithout (sealed fields field h) field =
    digestValue (.dict fields (nodup_append.mp h).1) := by
  have hkeys : ∀ w : Value, ((fields ++ [(field, w)]).map Prod.fst).Nodup := fun w => by
    rw [map_append]
    exact h
  have herase : (sealed fields field h).without field =
      .dict fields (nodup_append.mp h).1 := Subtype.ext (erase_dict (h := hkeys _))
  rw [digestWithout, herase]

theorem sealed_digest : (sealed fields field h).get field =
    .str (digestWithout (sealed fields field h) field) := by
  rw [digestWithout_sealed, get_sealed_digest]

end Sealed

theorem digestWithout_set {v : Value} (hv : v.isObject) (field : String) (w : Value) :
    digestWithout (v.set field w) field = digestWithout v field := by
  have herase : (v.set field w).without field = v.without field :=
    Subtype.ext (erase_set hv field w)
  rw [digestWithout, digestWithout, herase]

/-! ### The next state -/

section Next

variable {state next v : Value} {args : Arguments} {target : Status} {world : World}
  {fields : List String}

section

variable (payload : Value) (hv : v.isObject)
include hv

theorem isObject_copyField (f : String) :
    (copyField payload v f).isObject := by
  rw [copyField]
  split
  · rw [isObject_set, hv]
  · exact hv

theorem isObject_copyFields (fields : List String) :
    (fields.foldl (copyField payload) v).isObject := by
  induction fields generalizing v with
  | nil => exact hv
  | cons f fields ih => exact ih (isObject_copyField payload hv f)

theorem get_copyField (f k : String) :
    (copyField payload v f).get k =
      if k = f ∧ payload.has f = true then payload.get f else v.get k := by
  rw [copyField]
  by_cases hhas : payload.has f = true
  · simp [hhas, get_set hv]
  · simp [hhas]

theorem get_copyFields (fields : List String)
    (k : String) : (fields.foldl (copyField payload) v).get k =
      if k ∈ fields ∧ payload.has k = true then payload.get k else v.get k := by
  induction fields generalizing v with
  | nil => simp
  | cons f fields ih =>
    rw [foldl_cons, ih (isObject_copyField payload hv f), get_copyField payload hv]
    by_cases hk : k = f
    · subst hk
      by_cases hhas : payload.has k = true
      · simp [hhas]
      · simp [hhas]
    · simp [hk]

theorem has_copyFields (fields : List String)
    {k : String} (hk : k ∉ fields) : (fields.foldl (copyField payload) v).has k = v.has k := by
  induction fields generalizing v with
  | nil => rfl
  | cons f fields ih =>
    rw [mem_cons, not_or] at hk
    rw [foldl_cons, ih (isObject_copyField payload hv f) hk.2, copyField]
    split
    · rw [has_set hv, decide_eq_false hk.1, Bool.false_or]
    · rfl

end

def movedFields : List String := allowedChanges ++ protectedFields

/-- **What the next state says.** -/
structure Next (state : Value) (args : Arguments) (target : Status) (world : World)
    (next : Value) : Prop where
  object : next.isObject = true
  revision : ∃ n, nextRevision state = .ok n ∧ next.get "revision" = n
  status : next.get "status" = .str args.targetStatus
  updated_at : next.get "updated_at" = .str world.updatedAt
  event_id : next.get "last_event_id" = .str world.eventId
  event_digest : next.get "last_event_digest" = state.get "last_event_digest"
  copied : ∀ f ∈ protectedFields,
    next.get f = if args.payload.has f = true then args.payload.get f else state.get f
  blockers : ∃ b, expectedBlockers args.eventKind target args.payload state = .ok b ∧
    next.get "active_blockers" = b
  digest : next.get "projection_digest" = .str (stateDigest next)
  kept : ∀ f ∉ movedFields, next.get f = state.get f
  has_digest : next.has "last_event_digest" = state.has "last_event_digest"

theorem get_movedState (args : Arguments) (world : World) (hsta : state.isObject)
    (revision : Value) (k : String) : (movedState state args world revision).get k =
      if k = "active_leader_epoch" then state.get "active_leader_epoch"
      else if k = "last_event_id" then .str world.eventId
      else if k = "updated_at" then .str world.updatedAt
      else if k = "status" then .str args.targetStatus
      else if k = "revision" then revision
      else state.get k := by
  simp only [movedState, get_set, isObject_set, hsta]

theorem withBlockers_spec {copied : Value} (hcopied : copied.isObject)
    (hkept : copied.get "active_blockers" = state.get "active_blockers")
    (h : withBlockers args target copied = .ok next) :
    next.isObject ∧ next.has "last_event_digest" = copied.has "last_event_digest" ∧
      (∃ b, expectedBlockers args.eventKind target args.payload state = .ok b ∧
        next.get "active_blockers" = b) ∧
      ∀ k, k ≠ "active_blockers" → next.get k = copied.get k := by
  have hset : ∀ b, (copied.set "active_blockers" b).isObject ∧
      (copied.set "active_blockers" b).has "last_event_digest" = copied.has "last_event_digest" ∧
      (copied.set "active_blockers" b).get "active_blockers" = b ∧
      ∀ k, k ≠ "active_blockers" → (copied.set "active_blockers" b).get k = copied.get k := by
    intro b
    exact ⟨by rw [isObject_set, hcopied],
      has_set_ne hcopied (by decide) _, get_set_self hcopied _ _,
      fun k hk => get_set_ne hcopied hk _⟩
  rw [withBlockers] at h
  rw [expectedBlockers]
  split_ifs at h ⊢ with htgt hclears
  · cases hlist : blockersOf args.eventKind args.payload with
    | error e =>
      rw [hlist] at h
      cases h
    | ok b =>
      rw [hlist] at h
      cases h
      obtain ⟨hobj, hhas, hget, hoth⟩ := hset b
      exact ⟨hobj, hhas, ⟨b, rfl, hget⟩, hoth⟩
  · cases h
    obtain ⟨hobj, hhas, hget, hoth⟩ := hset (listOf [])
    exact ⟨hobj, hhas, ⟨_, rfl, hget⟩, hoth⟩
  · cases h
    exact ⟨hcopied, rfl, ⟨_, rfl, hkept⟩, fun _ _ => rfl⟩

theorem next_of_eq_ok (hsta : state.isObject)
    (h : nextState state args target world = .ok next) : Next state args target world next := by
  simp only [nextState, Kernel.bind_eq_ok] at h
  obtain ⟨revision, hrev, blocked, hblk, hnext⟩ := h
  cases hnext
  have hobj : (movedState state args world revision).isObject := by
    simp only [movedState, isObject_set, hsta]
  have hget := get_movedState args world hsta revision
  have hhas : (movedState state args world revision).has "last_event_digest" =
      state.has "last_event_digest" := by
    simp [movedState, has_set, hsta]
  generalize movedState state args world revision = moved at hblk hobj hget hhas
  have hcobject := isObject_copyFields args.payload hobj protectedFields
  have hcget := get_copyFields args.payload hobj protectedFields
  have hchas := has_copyFields args.payload hobj protectedFields
    (k := "last_event_digest") (by decide)
  generalize protectedFields.foldl (copyField args.payload) moved = copied
    at hblk hcobject hcget hchas
  have hkept : copied.get "active_blockers" = state.get "active_blockers" := by
    rw [hcget, hget]
    simp [protectedFields]
  obtain ⟨hbobject, hbhas, ⟨b, hb, hbget⟩, hbkept⟩ := withBlockers_spec hcobject hkept hblk
  have hlast : ∀ k, k ≠ "projection_digest" →
      (blocked.set "projection_digest" (.str (stateDigest blocked))).get k = blocked.get k :=
    fun k hk => by rw [get_set hbobject, if_neg hk]
  have hplain : ∀ k, k ≠ "projection_digest" → k ≠ "active_blockers" → k ∉ protectedFields →
      (blocked.set "projection_digest" (.str (stateDigest blocked))).get k = moved.get k := by
    intro k h₁ h₂ h₃
    rw [hlast k h₁, hbkept k h₂, hcget, if_neg fun h => h₃ h.1]
  constructor
  case object => rw [isObject_set, hbobject]
  case revision =>
    refine ⟨revision, hrev, ?_⟩
    rw [hplain _ (by decide) (by decide) (by decide), hget]
    simp
  case status | updated_at | event_id | event_digest =>
    rw [hplain _ (by decide) (by decide) (by decide), hget]
    simp
  case copied =>
    intro f hf
    have hne : f ≠ "projection_digest" ∧ f ≠ "active_blockers" ∧
        f ∉ ["last_event_id", "updated_at", "status", "revision"] :=
      (by decide : ∀ f ∈ protectedFields, f ≠ "projection_digest" ∧ f ≠ "active_blockers" ∧
        f ∉ ["last_event_id", "updated_at", "status", "revision"]) f hf
    rw [hlast f hne.1, hbkept f hne.2.1, hcget, hget]
    by_cases hpay : args.payload.has f = true
    · rw [if_pos ⟨hf, hpay⟩, if_pos hpay]
    have hoth := hne.2.2
    simp only [mem_cons, not_mem_nil, or_false, not_or] at hoth
    rw [if_neg fun h => hpay h.2, if_neg hpay, if_neg hoth.1, if_neg hoth.2.1,
      if_neg hoth.2.2.1, if_neg hoth.2.2.2]
    split_ifs with heq
    · rw [heq]
    · rfl
  case blockers => exact ⟨b, hb, by rw [hlast _ (by decide), hbget]⟩
  case digest =>
    rw [get_set_self hbobject, stateDigest, stateDigest, digestWithout_set hbobject]
  case kept =>
    intro f hf
    simp only [movedFields, allowedChanges, protectedFields, mem_append, mem_cons,
      not_mem_nil, or_false, not_or] at hf
    rw [hplain f hf.1.2.2.2.2.2.1 hf.1.2.2.2.2.2.2 (by
      simp only [protectedFields, mem_cons, not_mem_nil, or_false, not_or]
      exact hf.2), hget, if_neg hf.2.2.2.1, if_neg hf.1.2.2.2.1, if_neg hf.1.2.2.1,
      if_neg hf.1.2.1, if_neg hf.1.1]
  case has_digest => rw [has_set_ne hbobject (by decide), hbhas, hchas, hhas]

end Next

/-! ### The records of a transition -/

variable {w : Value}

theorem digestValue_congr {v : Value} (h : v.normal true = w.normal true) :
    digestValue v = digestValue w := by
  have hsort : v.1.sortKeys = w.1.sortKeys := congrArg Subtype.val h
  rw [digestValue, digestValue, Kernel.digest, Kernel.digest, Kernel.canonicalJson,
    Kernel.canonicalJson, hsort]

theorem digestWithout_congr {v : Value} {field : String} (hv : v.isObject)
    (hw : w.isObject) (h : ∀ k, k ≠ field →
      (v.1.member? k).map Json.sortKeys = (w.1.member? k).map Json.sortKeys) :
    digestWithout v field = digestWithout w field := by
  have hobj : ∀ {u : Value}, u.isObject → (u.without field).isObject := by
    intro u hu
    obtain ⟨members, hmbs⟩ := exists_obj hu
    show (u.1.erase field).shape == 5
    rw [hmbs]
    rfl
  refine digestValue_congr (normal_ext (hobj hv) (hobj hw) fun k => ?_)
  rw [Value.member?_without, Value.member?_without]
  split_ifs with hk
  · rfl
  · exact h k hk

variable {sequence : Int}

section Records

variable {state next installation : Value} {args : Arguments} {target : Status} {world : World}
  {messages events : ℕ} {k : String} {v : Value}

theorem get_eventOf (h : (eventFields state args world next sequence).lookup k = some v) :
    (eventOf state args world next sequence).get k = v :=
  get_sealed (Json.mem_of_lookup h)

section

variable (hnext : next.isObject) (event : Value)
include hnext

theorem isObject_persistedState : (persistedState next event).isObject := by
  simp only [persistedState, isObject_set, hnext]

theorem get_persistedState
    (hdig : k ≠ "projection_digest") (hlink : k ≠ "last_event_digest") :
    (persistedState next event).get k = next.get k := by
  simp only [persistedState, get_set, isObject_set, hnext, hdig, hlink, if_false]

theorem stateDigest_persistedState : (persistedState next event).get "projection_digest" =
      .str (stateDigest (persistedState next event)) := by
  have hset : ∀ w, (next.set "last_event_digest" w).isObject := by simp [hnext]
  rw [persistedState, get_set_self (hset _), stateDigest, stateDigest, digestWithout_set (hset _)]

end

/-- The persisted state with the digest of the event before its own. -/
def relinked (next event prior : Value) : Value :=
  (persistedState next event).set "last_event_digest" prior

theorem isObject_relinked (hnext : next.isObject) (event prior : Value) :
    (relinked next event prior).isObject := by
  rw [relinked, isObject_set, isObject_persistedState hnext]

theorem member?_relinked (hnext : next.isObject) (event prior : Value)
    (hk : k ≠ "projection_digest") : (relinked next event prior).1.member? k =
      if k = "last_event_digest" then some prior.1 else next.1.member? k := by
  simp only [relinked, persistedState, Value.member?_set, isObject_set, hnext, hk, if_false]
  split <;> rfl

theorem projection_eq :
    (transitionRecords state args world next installation messages events).projection =
      (relinked next (eventOf state args world next (events + 1))
        (state.get "last_event_digest")).set "projection_digest"
        (.str (stateDigest (relinked next (eventOf state args world next (events + 1))
          (state.get "last_event_digest")))) := by
  have hpr : (transitionRecords state args world next installation messages events).event.get
      "prior_event_digest" = state.get "last_event_digest" :=
    get_eventOf rfl
  rw [Journal.projection, hpr]
  rfl

theorem member?_of_get {v : Value} {s : String} (h : v.get k = .str s) :
    v.1.member? k = some (.str s) := by
  cases hmember : v.1.member? k with
  | none =>
    rw [get_of_none hmember] at h
    cases congrArg Subtype.val h
  | some u => rw [← get_of_member hmember, h]; rfl

variable (hnext : Next state args target world next)

include hnext

theorem get_projection (hk : k ≠ "projection_digest") :
    (transitionRecords state args world next installation messages events).projection.get k =
      next.get k := by
  rw [projection_eq]
  generalize eventOf state args world next (events + 1) = event
  have hobj := isObject_relinked hnext.object event (state.get "last_event_digest")
  rw [get_set_ne hobj hk, relinked]
  by_cases hlink : k = "last_event_digest"
  · rw [hlink, get_set_self (isObject_persistedState hnext.object event), hnext.event_digest]
  · rw [get_set_ne (isObject_persistedState hnext.object event) hlink,
      get_persistedState hnext.object event hk hlink]

/-- The projection that is checked is the one that the event embeds, up to the order of the
keys, provided the state had a digest to link to. -/
theorem projection_normal (hhas : state.has "last_event_digest") :
    (transitionRecords state args world next installation messages events).projection.normal true =
      next.normal true := by
  rw [projection_eq]
  generalize eventOf state args world next (events + 1) = event
  have hobj := isObject_relinked hnext.object event (state.get "last_event_digest")
  have hmember : ∀ k, k ≠ "projection_digest" →
      (relinked next event (state.get "last_event_digest")).1.member? k = next.1.member? k := by
    intro k hk
    rw [member?_relinked hnext.object event _ hk]
    by_cases hlink : k = "last_event_digest"
    · have hnexthas := hnext.has_digest.trans hhas
      obtain ⟨u, hu⟩ := Option.isSome_iff_exists.mp hnexthas
      rw [if_pos hlink, hlink, hu, ← hnext.event_digest, get_of_member hu]
    · rw [if_neg hlink]
  have hdig : stateDigest (relinked next event (state.get "last_event_digest")) =
      stateDigest next :=
    digestWithout_congr hobj hnext.object fun k hk => by rw [hmember k hk]
  refine normal_ext (by rw [isObject_set, hobj]) hnext.object fun k => ?_
  rw [Value.member?_set hobj]
  by_cases hk : k = "projection_digest"
  · rw [if_pos hk, hk, member?_of_get hnext.digest, hdig]
    rfl
  · rw [if_neg hk, hmember k hk]

theorem embeds_iff : (transitionRecords state args world next installation messages events).embeds ↔
      state.has "last_event_digest" = true := by
  have hpay : (transitionRecords state args world next installation messages
      events).message.get "payload" = args.payload :=
    get_sealed (h := by simp [messageFields]) (Json.mem_of_lookup rfl)
  have hev : (transitionRecords state args world next installation messages
      events).event.get "payload" = args.payload.set "state_projection" next :=
    get_eventOf rfl
  rw [Journal.embeds, hpay, hev]
  simp only [args.payload_object, if_true]
  constructor
  · intro h
    have hget := equal_get h "state_projection"
    rw [get_set_self args.payload_object, get_set_self args.payload_object] at hget
    have hhas := equal_has hget "last_event_digest"
    rw [← hnext.has_digest, hhas, projection_eq]
    generalize eventOf state args world next (events + 1) = event
    rw [has_set_ne (isObject_relinked hnext.object _ _) (by decide), relinked,
      has_set (isObject_persistedState hnext.object _)]
    simp
  · intro hhas
    refine equal_set (equal_self _) args.payload_object ?_ _
    exact equal_symm (equal_of_normal (projection_normal hnext hhas))

omit hnext in
/-- What the records of a transition say. -/
structure Built (state : Value) (args : Arguments) (world : World) (next installation : Value)
    (messages events : ℕ) (j : Journal) : Prop where
  message_object : j.message.isObject = true
  message : ∀ {k v}, (k, v) ∈ messageFields state args world next (messages + 1) →
    j.message.get k = v
  message_digest : j.message.get "message_digest" = .str (digestWithout j.message "message_digest")
  event_object : j.event.isObject = true
  event : ∀ {k v}, (k, v) ∈ eventFields state args world next (events + 1) → j.event.get k = v
  event_digest : j.event.get "event_digest" = .str (digestWithout j.event "event_digest")
  persisted : j.nextState = persistedState next j.event
  installed : j.installation = installationAt installation j.nextState
  projection : ∀ {k}, k ≠ "projection_digest" → j.projection.get k = next.get k
  normal : state.has "last_event_digest" = true → j.projection.normal true = next.normal true
  embeds : j.embeds = true ↔ state.has "last_event_digest" = true

theorem built : Built state args world next installation messages events
    (transitionRecords state args world next installation messages events) where
  message_object := rfl
  message h := get_sealed (h := by simp [messageFields]) h
  message_digest := sealed_digest (h := by simp [messageFields])
  event_object := rfl
  event h := get_sealed (h := by simp [eventFields]) h
  event_digest := sealed_digest (h := by simp [eventFields])
  persisted := rfl
  installed := rfl
  projection hk := get_projection hnext hk
  normal hhas := projection_normal hnext hhas
  embeds := embeds_iff hnext

end Records

theorem nextRevision_int {state revision : Value} {n : Int} (hsta : state.get "revision" = .int n)
    (h : nextRevision state = .ok revision) : revision = .int (n + 1) := by
  rw [nextRevision, hsta] at h
  split at h
  · exact (Except.ok.inj h).symm
  rename_i hhas
  have hnull : state.get "revision" = .null :=
    get_of_none (Option.not_isSome_iff_eq_none.mp hhas)
  cases congrArg Subtype.val (hsta.symm.trans hnull)

section Built

variable {state next installation : Value} {args : Arguments} {target : Status} {world : World}
  {messages events : ℕ} {j : Journal}
  (hj : Built state args world next installation messages events j)
  (hnext : Next state args target world next) (hinstallation : installation.isObject)

include hj hnext

theorem Built.state_object : j.nextState.isObject :=
  hj.persisted ▸ isObject_persistedState hnext.object j.event

theorem Built.get_state {k : String} (hdig : k ≠ "projection_digest")
    (hlink : k ≠ "last_event_digest") : j.nextState.get k = next.get k := by
  rw [hj.persisted]
  exact get_persistedState hnext.object j.event hdig hlink

theorem Built.state_digest :
    j.nextState.get "projection_digest" = .str (stateDigest j.nextState) := by
  rw [hj.persisted]
  exact stateDigest_persistedState hnext.object j.event

include hinstallation

omit hnext in
theorem Built.installation_object : j.installation.isObject :=
  hj.installed ▸ by simp only [installationAt, isObject_set, hinstallation]

omit hnext in
theorem Built.get_installation :
    j.installation.get "installation_id" = installation.get "installation_id" ∧
      j.installation.get "installation_status" = j.nextState.get "status" ∧
      j.installation.get "active_leader_epoch" = j.nextState.get "active_leader_epoch" := by
  simp [hj.installed, installationAt, get_set, hinstallation]

omit hnext hinstallation in
theorem Built.get_message {k : String} {v : Value}
    (h : (messageFields state args world next (messages + 1)).lookup k = some v) :
    j.message.get k = v :=
  hj.message (Json.mem_of_lookup h)

omit hnext hinstallation in
theorem Built.get_event {k : String} {v : Value}
    (h : (eventFields state args world next (events + 1)).lookup k = some v) :
    j.event.get k = v :=
  hj.event (Json.mem_of_lookup h)

/-- **The records of a transition fit each other** exactly if the state has a number for its
revision and a digest to link to, and the installation is the one of the state. -/
theorem Built.consistent_iff
    (hrevision : args.expectedRevision.equal (state.get "revision")) :
    j.consistent ↔ (exactInt (state.get "revision")).isSome ∧
      (installation.get "installation_id").equal (state.get "installation_id") ∧
      state.has "last_event_digest" = true := by
  have hm := @Built.get_message _ _ _ _ _ _ _ _ hj
  have he := @Built.get_event _ _ _ _ _ _ _ _ hj
  have hres : j.message.get "result" = resultOf args world next := hm rfl
  have hr : ∀ {k v}, List.lookup k [("message_id", Value.str world.messageId),
      ("event_id", .str world.eventId), ("revision", next.get "revision"),
      ("status", .str args.targetStatus)] = some v → (resultOf args world next).get k = v :=
    fun h => by
      rw [resultOf]
      exact get_dict (Json.mem_of_lookup h)
  obtain ⟨hid, hst, hep⟩ := hj.get_installation hinstallation
  have hs := @Built.get_state _ _ _ _ _ _ _ _ _ hj hnext
  obtain ⟨revision, hnextRevision, hget⟩ := hnext.revision
  have hpr : j.event.get "prior_revision" = state.get "revision" := he rfl
  have hnew : j.event.get "new_revision" = next.get "revision" := he rfl
  have hinstd : j.event.get "installation_id" = state.get "installation_id" := he rfl
  simp only [Journal.consistent, Bool.and_eq_true, and_assoc]
  constructor
  · rintro ⟨-, -, -, -, -, -, -, -, -, -, -, -, -, -, -, hint, -, -, -, hinst, -, -, -, hembeds⟩
    refine ⟨?_, ?_, hj.embeds.mp hembeds⟩
    · rw [hpr, succeeds] at hint
      cases hex : exactInt (state.get "revision") with
      | none =>
        rw [hex] at hint
        cases hint
      | some n => rfl
    · rwa [hid, hinstd] at hinst
  · rintro ⟨hint, hinst, hhas⟩
    obtain ⟨n, hn⟩ := Option.isSome_iff_exists.mp hint
    have hrev : state.get "revision" = .int n := Dispatch.eq_int_of_exactInt hn
    have hplus : next.get "revision" = .int (n + 1) := by
      rw [hget]
      exact nextRevision_int hrev hnextRevision
    have hex : succeeds (j.event.get "prior_revision") (j.event.get "new_revision") := by
      rw [hpr, hnew, hrev, hplus]
      exact beq_self_eq_true _
    have hkept : next.get "installation_id" = state.get "installation_id" :=
      hnext.kept _ (by decide)
    have hcontent : j.message.get "content_digest" = .str (contentDigest (j.message.get "kind")
        (j.message.get "sender_principal_id") (j.message.get "leader_epoch")
        (j.message.get "expected_state_revision") (j.message.get "payload")) := by
      rw [hm (k := "content_digest") rfl, hm (k := "kind") rfl, hm (k := "sender_principal_id") rfl,
        hm (k := "leader_epoch") rfl, hm (k := "expected_state_revision") rfl,
        hm (k := "payload") rfl, Arguments.contentDigest]
    rw [hj.message_digest, hcontent, hj.event_digest, hj.state_digest hnext, hid, hst, hep, hres]
    refine ⟨equal_self _, equal_self _, equal_self _, equal_self _,
      equal_of_eq (hm rfl) (he rfl), equal_of_eq (he rfl) (hm rfl),
      equal_of_eq hnew (hs (by decide) (by decide)), equal_of_eq (hm rfl) (he rfl),
      equal_of_eq (hm rfl) (he rfl), rfl, equal_of_eq (hr rfl) (hm rfl),
      equal_of_eq (hr rfl) (he rfl), equal_of_eq (hm rfl) (hs (by decide) (by decide)),
      equal_of_eq (hr rfl) (hs (by decide) (by decide)),
      equal_of_eq (hr rfl) ((hs (by decide) (by decide)).trans hnext.status),
      hex, ?_, ?_, ?_, ?_, equal_self _, equal_self _, ?_, hj.embeds.mpr hhas⟩
    · rw [hpr, hm (k := "expected_state_revision") rfl]
      exact hrevision
    · exact equal_of_eq (hm rfl) hinstd
    · exact equal_of_eq ((hs (by decide) (by decide)).trans hkept) hinstd
    · rw [hinstd]
      exact hinst
    · exact equal_of_eq (he rfl) (hs (by decide) (by decide))

end Built

/-! ### The contract of a transition -/

section Authority

variable {raw : Value}

theorem isObject_of_has {v : Value} {k : String} (h : v.has k) : v.isObject := by
  obtain ⟨v, hv⟩ := v
  cases v with
  | obj members => rfl
  | _ => cases h

theorem authorityView_eq (h : (raw.get "active_leader").has "session_id" = false) :
    authorityView raw = raw := by
  rw [authorityView]
  simp [h]

theorem authorityView_legacy (h : (raw.get "active_leader").has "session_id") :
    authorityView raw =
      raw.set "active_leader" ((raw.get "active_leader").without "session_id") := by
  rw [authorityView]
  simp [h, isObject_of_has h]

theorem isObject_authorityView (hraw : raw.isObject) :
    (authorityView raw).isObject := by
  cases h : (raw.get "active_leader").has "session_id" with
  | false => rwa [authorityView_eq h]
  | true =>
    rw [authorityView_legacy h, isObject_set, hraw]

/-- The view hides nothing but a part of the active leader. -/
theorem get_authorityView (hraw : raw.isObject) {k : String} (hk : k ≠ "active_leader") :
    (authorityView raw).get k = raw.get k := by
  cases h : (raw.get "active_leader").has "session_id" with
  | false => rw [authorityView_eq h]
  | true => rw [authorityView_legacy h, get_set_ne hraw hk]

theorem has_authorityView (hraw : raw.isObject) {k : String} (hk : k ≠ "active_leader") :
    (authorityView raw).has k = raw.has k := by
  cases h : (raw.get "active_leader").has "session_id" with
  | false => rw [authorityView_eq h]
  | true => rw [authorityView_legacy h, has_set_ne hraw hk]

/-- The view of a leader with a legacy session id is not equal to the leader. -/
theorem authorityView_equal_iff (hraw : raw.isObject) :
    (raw.get "active_leader").equal ((authorityView raw).get "active_leader") ↔
      (raw.get "active_leader").has "session_id" = false := by
  cases h : (raw.get "active_leader").has "session_id" with
  | false =>
    rw [authorityView_eq h]
    exact iff_of_true (equal_self _) rfl
  | true =>
    rw [authorityView_legacy h, get_set_self hraw]
    refine iff_of_false (fun heq => ?_) (by decide)
    have hhas := equal_has heq "session_id"
    rw [h, has_without] at hhas
    cases hhas

end Authority

/-- **The arguments of a transition suit the persisted state**: kinds, principal and target are
those of the event, no field of the state is set that the event does not declare and none that
it declares is missing, and a legacy session id is not dropped on the way. -/
structure Suits (raw : Value) (args : Arguments) (kind : EventKind) : Prop where
  event_kind : args.eventKind = kind.name
  message_kind : args.messageKind = kind.messageKind
  principal_kind : args.principalKind = kind.sender.name
  principal : kind.sender.principal raw = .str args.principalId
  principal_named : args.principalId ≠ ""
  target : args.targetStatus = kind.target.name
  asserted : ∀ f ∈ protectedFields, args.payload.has f = true → f ∉ kind.payloadFields →
    (args.payload.get f).equal (raw.get f) = true
  declared : ∀ f ∈ kind.payloadFields, args.payload.has f = true
  plain : "active_leader" ∉ kind.payloadFields → args.payload.has "active_leader" = false →
    (raw.get "active_leader").has "session_id" = false

section Contract

variable {raw next installation : Value} {args : Arguments} {target : Status} {world : World}
  {messages events : ℕ} {j : Journal} {kind : EventKind}

theorem next_unchanged (hraw : raw.isObject)
    (hnext : Next (authorityView raw) args target world next) (h : Suits raw args kind)
    {f : String} (hallow : f ∉ allowedChanges) (hdecl : f ∉ kind.payloadFields) :
    (raw.get f).equal (next.get f) := by
  by_cases hprotected : f ∈ protectedFields
  · rw [hnext.copied f hprotected]
    by_cases hhas : args.payload.has f = true
    · rw [if_pos hhas]
      exact equal_symm (h.asserted f hprotected hhas hdecl)
    rw [if_neg hhas]
    by_cases hact : f = "active_leader"
    · subst hact
      exact (authorityView_equal_iff hraw).mpr (h.plain hdecl (by simpa using hhas))
    · rw [get_authorityView hraw hact]
      exact equal_self _
  · have hmov : f ∉ movedFields := by
      rw [movedFields, mem_append, not_or]
      exact ⟨hallow, hprotected⟩
    have hact : f ≠ "active_leader" := fun heq => hprotected (heq ▸ by decide)
    rw [hnext.kept f hmov, get_authorityView hraw hact]
    exact equal_self _

theorem principal_equal {v : Value} {sender : Sender}
    (h : sender = .installationLeader → (v.get "active_leader").equal (w.get "active_leader")) :
    (sender.principal v).equal (sender.principal w) := by
  cases sender with
  | installationLeader => exact principal_congr (h rfl) _
  | _ => exact equal_self _

theorem sender_leader {kind : EventKind} (h : kind.sender = .installationLeader) :
    "active_leader" ∉ kind.payloadFields := by
  revert h
  cases kind <;> decide

/-- **A transition is lawful exactly if its arguments suit the state.** -/
theorem Built.lawful_iff (hraw : raw.isObject)
    (hj : Built (authorityView raw) args world next installation messages events j)
    (hnext : Next (authorityView raw) args target world next)
    (htgt : args.targetStatus = target.name) (hlegal : target ∈ legalFrom (raw.get "status")) :
    Lawful false kind j.message j.event j.projection raw ↔ Suits raw args kind := by
  have hm := @Built.get_message _ _ _ _ _ _ _ _ hj
  have he := @Built.get_event _ _ _ _ _ _ _ _ hj
  have hp := @Built.projection _ _ _ _ _ _ _ _ hj
  have hpay : j.message.get "payload" = args.payload := hm rfl
  have hflds : payloadStateFields false kind args.payload = kind.payloadFields := rfl
  have hsent : j.message.get "sender_principal_id" = .str args.principalId := hm rfl
  have hstr : ∀ {a b : String}, Value.str a = .str b → a = b := fun h =>
    Value.str_inj.mp h
  constructor
  · intro h
    have hasserted : ∀ f ∈ protectedFields, args.payload.has f → f ∉ kind.payloadFields →
        (args.payload.get f).equal (raw.get f) := by
      intro f hf hhas hnot
      have hboth := h.asserted f hf
      rw [hpay, hflds] at hboth
      exact (hboth hhas hnot).1
    have hsame : "active_leader" ∉ kind.payloadFields →
        (raw.get "active_leader").equal (j.projection.get "active_leader") := fun hnot =>
      h.unchanged "active_leader" (by decide) (by rw [hpay, hflds]; exact hnot)
    have hprin : (kind.sender.principal j.projection) = .str args.principalId := by
      have hsender := h.sender
      rw [hsent] at hsender
      exact Value.equal_str.mp (equal_symm hsender)
    refine ⟨?_, ?_, ?_, ?_, ?_, ?_, hasserted, fun f hf => ?_, fun hnot hhas => ?_⟩
    · exact hstr ((he rfl).symm.trans h.event_kind)
    · exact hstr ((hm rfl).symm.trans h.message_kind)
    · exact hstr ((hm rfl).symm.trans h.sender_kind)
    · refine Value.equal_str.mp ?_
      rw [← hprin]
      exact principal_equal fun hleader => hsame (sender_leader hleader)
    · rintro hemp
      have htruthy := h.principal
      rw [hprin, hemp] at htruthy
      cases htruthy
    · exact hstr (hnext.status.symm.trans ((hp (by decide)).symm.trans h.status))
    · have hboth := h.declared f
      rw [hpay, hflds] at hboth
      exact (hboth hf).1
    · have hkept := hsame hnot
      rw [hp (by decide), hnext.copied _ (by decide), if_neg (by simp [hhas])] at hkept
      exact (authorityView_equal_iff hraw).mp hkept
  · intro h
    obtain rfl : target = kind.target := Status.name_injective (htgt.symm.trans h.target)
    have hcopied : ∀ f ∈ protectedFields, args.payload.has f →
        j.projection.get f = args.payload.get f := by
      intro f hf hhas
      have hdig : f ≠ "projection_digest" :=
        (by decide : ∀ f ∈ protectedFields, f ≠ "projection_digest") f hf
      rw [hp hdig, hnext.copied f hf, if_pos hhas]
    have hunch : ∀ f, f ∉ allowedChanges → f ∉ kind.payloadFields →
        (raw.get f).equal (j.projection.get f) := by
      intro f hallow hnot
      have hdig : f ≠ "projection_digest" := fun heq => hallow (heq ▸ by decide)
      rw [hp hdig]
      exact next_unchanged hraw hnext h hallow hnot
    have hprin : kind.sender.principal j.projection = .str args.principalId := by
      refine Value.equal_str.mp ?_
      rw [← h.principal]
      exact principal_equal fun hleader =>
        equal_symm (hunch _ (by decide) (sender_leader hleader))
    obtain ⟨revision, hrev, hget⟩ := hnext.revision
    obtain ⟨b, hb, hblockers⟩ := hnext.blockers
    constructor
    case event_kind => rw [← h.event_kind]; exact he rfl
    case message_kind => rw [← h.message_kind]; exact hm rfl
    case sender_kind => rw [← h.principal_kind]; exact hm rfl
    case principal =>
      rw [hprin]
      exact bne_iff_ne.mpr h.principal_named
    case sender => exact equal_of_eq hsent hprin
    case actor => exact equal_of_eq (he rfl) hprin
    case payload => rw [hpay]; exact args.payload_object
    case status => rw [hp (by decide), hnext.status, h.target]
    case legal => exact .inl hlegal
    case prior_revision =>
      exact equal_of_eq (he rfl) (get_authorityView hraw (by decide)).symm
    case revision =>
      rw [nextRevision, has_authorityView hraw (by decide),
        get_authorityView hraw (by decide)] at hrev
      exact ⟨revision, hrev, equal_of_eq (hp (by decide)) hget.symm⟩
    case event_id => exact equal_of_eq ((hp (by decide)).trans hnext.event_id) (he rfl)
    case event_digest => exact equal_of_eq ((hp (by decide)).trans hnext.event_digest) (he rfl)
    case updated_at => exact equal_of_eq (hp (by decide)) (he rfl)
    case asserted =>
      rw [hpay, hflds]
      intro f hf hhas hnot
      rw [hcopied f hf hhas]
      exact ⟨h.asserted f hf hhas hnot, h.asserted f hf hhas hnot⟩
    case declared =>
      rw [hpay, hflds]
      intro f hf
      have hhas := h.declared f hf
      rw [hcopied f (kind.payloadFields_protected f hf) hhas]
      exact ⟨hhas, equal_self _⟩
    case blockers =>
      rw [hpay, ← h.event_kind]
      rw [expectedBlockers, get_authorityView hraw (by decide)] at hb
      exact ⟨b, hb, equal_of_eq (hp (by decide)) hblockers.symm⟩
    case unchanged =>
      rw [hpay, hflds]
      exact hunch

end Contract

end Valp.Control
