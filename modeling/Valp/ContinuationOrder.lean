/-
What the calls of a continuation store may write, and the order of its events.

`Permitted` says once which writes the calls make: events of their own envelope, a stage of
the success chain only behind the stage before it, artifacts that are not there yet, and the
end of an in-flight marker only beside a receipt.  Everything that is proved about runs is
derived from it.

* `pending_ensures`, `receive_ensures`, `claim_ensures`, `enter_ensures`, `settle_ensures`, … —
  every call makes permitted writes only;
* `Ordered.apply` — **permitted writes keep the ledger in order.**
-/
import Valp.ContinuationStore

namespace Valp.Continuation

open Json (Value)
open Durable (Ensures)
open Kernel (bind_eq_ok digest)
open List
open Durable.Ensures (observe_bind write_bind lift_bind)

/-! ### The store behind a write -/

section Apply

variable (s : Store) (event : Event) (wake wake' : String) (file file' : ArtifactFile)
  (value : Value)

@[simp] theorem ledger_apply_event : (s.apply (.event event)).ledger = s.ledger ++ [event.value] :=
  map_append

theorem artifacts_apply_create : (s.apply (.create wake file value)).artifacts wake' file' =
    if wake' = wake ∧ file' = file then some value else s.artifacts wake' file' := by
  simp only [Store.apply, Function.update_apply]
  by_cases hwake : wake' = wake
  · by_cases hfile : file' = file <;> simp [hwake, hfile]
  · simp [hwake]

theorem artifacts_apply_unlink : (s.apply (.unlink wake)).artifacts wake' file' =
    if wake' = wake ∧ file' = .inflight then none else s.artifacts wake' file' := by
  simp only [Store.apply, Function.update_apply]
  by_cases hwake : wake' = wake
  · by_cases hfile : file' = .inflight <;> simp [hwake, hfile]
  · simp [hwake]

end Apply

theorem recorded_apply {s : Store} {kind : EventKind} {envelope : Value} (w : Write)
    (h : s.recorded kind envelope) : (s.apply w).recorded kind envelope := by
  have hldg : ∀ event ∈ s.ledger, event ∈ (s.apply w).ledger := by
    intro event hev
    cases w with
    | event e => simp [hev]
    | _ => exact hev
  rw [Store.recorded, any_eq_true] at h ⊢
  obtain ⟨event, hev, his⟩ := h
  exact ⟨event, hldg event hev, his⟩

/-! ### Permitted writes -/

def EventKind.prior : EventKind → Option EventKind
  | .resumeReceived => some .resumePending
  | .digestVerified => some .resumeReceived
  | .resumeAccepted => some .digestVerified
  | .continuationStarted => some .resumeAccepted
  | .resumeConsumed => some .continuationStarted
  | _ => none

/-- A stage of the success chain is due: its envelope is stored, it is not recorded, and the
stage before it is. -/
structure Store.Due (s : Store) (envelope : Value) (kind : EventKind) : Prop where
  stored : s.artifacts (wakeDir envelope) .envelope ≠ none
  fresh : s.recorded kind envelope = false
  prior : ∀ before, kind.prior = some before → s.recorded before envelope = true

/-- What a call for `envelope` that appends events of these `kinds` may write. -/
def Permitted (kinds : List EventKind) (envelope : Value) (s : Store) : Write → Prop
  | .event event =>
    event.kind ∈ kinds ∧ event.envelope = envelope ∧ event.sequence = s.records.length + 1 ∧
      (event.kind ∈ successEvents → s.Due envelope event.kind)
  | .create wake file _ =>
    wake = wakeDir envelope ∧ s.artifacts wake file = none ∧
      (file = .inflight → s.artifacts wake .receipt = none)
  | .unlink wake => wake = wakeDir envelope ∧ s.artifacts wake .receipt ≠ none
  | .register _ => s.capability = none
  | .invoke _ => False

theorem Permitted.artifacts {kinds : List EventKind} {envelope : Value} {s : Store} {w : Write}
    (h : Permitted kinds envelope s w) {wake : String} {file : ArtifactFile} {value : Value}
    (hfile : file ≠ .inflight) (hvalue : s.artifacts wake file = some value) :
    (s.apply w).artifacts wake file = some value := by
  cases w with
  | event e => exact hvalue
  | create wake' file' value' =>
    rw [artifacts_apply_create, if_neg, hvalue]
    rintro ⟨rfl, rfl⟩
    cases h.2.1.symm.trans hvalue
  | unlink wake' =>
    rw [artifacts_apply_unlink, if_neg fun heq => hfile heq.2, hvalue]
  | register value' => exact hvalue
  | invoke envelope' => exact h.elim

/-! ### The calls -/

variable {extra : Extra} {reason : String}

variable {α : Type} {Q : α → Store → Prop}

section Calls

variable {kinds : List EventKind} {env : Env} {envelope payload : Value} {s : Store}

/-- The writes of `m` are permitted, and its result meets `Q`. -/
abbrev Keeps {α : Type} (kinds : List EventKind) (envelope : Value) (m : Op α) (s : Store)
    (Q : α → Store → Prop) : Prop :=
  Ensures (fun w s => s.apply w) (Permitted kinds envelope) m s Q

theorem recorded_apply_event (event : Event) (kind : EventKind) :
    (s.apply (.event event)).recorded kind envelope =
      (s.recorded kind envelope || decide (kind = event.kind) &&
        correlates event.envelope envelope) := by
  rw [Store.recorded, ledger_apply_event, any_append, Store.recorded]
  simp only [any_cons, any_nil, Bool.or_false, Event.value, isEvent_eventRecord]

theorem append_of_allowed {allowed : Store → Write → Prop} {kind : EventKind}
    (hallow : allowed s (.event ⟨s.records.length + 1, kind, envelope, extra⟩)) :
    Ensures (fun w s => s.apply w) allowed (append kind envelope extra) s fun _ s' =>
      s'.recorded kind envelope ∧ s'.artifacts = s.artifacts ∧
        ∀ k, s.recorded k envelope → s'.recorded k envelope := by
  rw [append]
  refine observe_bind fun records hread => ?_
  by_cases hobj : (!envelope.isObject) = true
  · rw [if_pos hobj]
    exact .fail _
  · rw [if_neg hobj, length_of_events hread]
    refine write_bind hallow (.pure ⟨?_, rfl, fun k hk => recorded_apply _ hk⟩)
    simp [recorded_apply_event, correlates_refl]

theorem append_ensures {kind : EventKind} (hkind : kind ∈ kinds)
    (hdue : kind ∈ successEvents → s.Due envelope kind) :
    Keeps kinds envelope (append kind envelope extra) s fun _ s' =>
      s'.recorded kind envelope ∧ s'.artifacts = s.artifacts ∧
        ∀ k, s.recorded k envelope → s'.recorded k envelope :=
  append_of_allowed ⟨hkind, rfl, rfl, hdue⟩

/-- Rejections and failures are no stages, so they are permitted anywhere. -/
theorem append_other {kind : EventKind} (hkind : kind ∈ kinds) (hoth : kind ∉ successEvents) :
    Keeps kinds envelope (append kind envelope extra) s fun _ _ => True :=
  (append_ensures hkind fun h => absurd h hoth).mono fun _ _ _ => trivial

theorem writeOnce_ensures {file : ArtifactFile} {value : Value}
    (hinflight : file = .inflight → s.artifacts (wakeDir envelope) .receipt = none) :
    Keeps kinds envelope (writeOnce env (wakeDir envelope) file value) s fun _ s' =>
      s'.artifacts (wakeDir envelope) file = some value ∧
        (∀ other, other ≠ file →
          s'.artifacts (wakeDir envelope) other = s.artifacts (wakeDir envelope) other) ∧
        s'.records = s.records := by
  rw [writeOnce]
  refine observe_bind fun found hfnd => ?_
  replace hfnd := Except.ok.inj hfnd
  cases found with
  | some present =>
    by_cases hdiffs : present.1.render ≠ value.1.render
    · simp only [if_pos hdiffs]
      exact .fail _
    · simp only [if_neg hdiffs]
      have hsame : present = value := Subtype.ext (Json.render_injective (not_not.mp hdiffs))
      exact .pure ⟨hsame ▸ hfnd, fun _ _ => rfl, rfl⟩
  | none =>
    refine .write ⟨rfl, hfnd, hinflight⟩ ⟨?_, fun other hoth => ?_, rfl⟩
    · rw [artifacts_apply_create, if_pos ⟨rfl, rfl⟩]
    · rw [artifacts_apply_create, if_neg fun h => hoth h.2]

variable {durable : Bool} {message : String} {before : EventKind}

theorem rejecting_of_append {call : Op α} {allowed : Store → Write → Prop}
    (happ : ∀ s message, Ensures (fun w s => s.apply w) allowed
      (append .continuationRejected envelope (.reason message)) s fun _ _ => True)
    (hcall : Ensures (fun w s => s.apply w) allowed call s Q) :
    Ensures (fun w s => s.apply w) allowed (rejecting envelope durable call) s Q := by
  refine .rescue (I := fun _ => True) (fun _ _ _ _ => trivial) trivial hcall ?_
  intro fault s' _
  cases fault with
  | python name => exact .fail _
  | continuation message =>
    cases durable with
    | false => exact .fail _
    | true => exact .bind (happ s' message) fun _ _ _ => .fail _

theorem rejecting_ensures {call : Op α}
    (hkind : .continuationRejected ∈ kinds) (hcall : Keeps kinds envelope call s Q) :
    Keeps kinds envelope (rejecting envelope durable call) s Q :=
  rejecting_of_append (fun _ _ => append_other hkind (by decide)) hcall

theorem refuse_ensures (hkind : .continuationRejected ∈ kinds) :
    Keeps kinds envelope (refuse envelope message : Op α) s Q :=
  .bind (append_other hkind (by decide)) fun _ _ _ => .fail _

@[simp] theorem require_eq_ok {condition : Bool} {u : Unit} :
    require condition message = .ok u ↔ condition := by
  cases condition with
  | false => exact iff_of_false nofun (by decide)
  | true => exact iff_of_true rfl rfl

theorem persisted_eq_ok {found : Value × Value}
    (h : persisted env s envelope payload = .ok found) :
    (∃ stored, s.artifacts (wakeDir envelope) .envelope = some stored ∧ stored.equal envelope) ∧
      s.recorded .resumePending envelope ∧ ∃ records, s.events = .ok records := by
  rw [persisted, bind_eq_ok] at h
  obtain ⟨-, -, h⟩ := h
  split at h
  · rename_i stored _ hsto _
    simp only [bind_eq_ok, require_eq_ok, Bool.and_eq_true] at h
    obtain ⟨-, ⟨hsame, -⟩, -, -, -, -, records, hread, -, hpend, -⟩ := h
    exact ⟨⟨stored, hsto, hsame⟩, (any_of_events hread _ _).symm.trans hpend, records, hread⟩
  · cases h

theorem of_persisted {found : Value × Value} (h : persisted env s envelope payload = .ok found) :
    s.artifacts (wakeDir envelope) .envelope ≠ none ∧
      s.recorded .resumePending envelope := by
  obtain ⟨⟨stored, hsto, -⟩, hpend, -⟩ := persisted_eq_ok h
  exact ⟨by simp [hsto], hpend⟩

theorem persisted_ensures :
    Keeps kinds envelope (Durable.observe fun s => persisted env s envelope payload) s
      fun _ s' => s = s' ∧ s.artifacts (wakeDir envelope) .envelope ≠ none ∧
        s.recorded .resumePending envelope :=
  .observe fun _ h => ⟨rfl, of_persisted h⟩

theorem due_of_prior {kind : EventKind} (hpr : kind.prior = some before)
    (hsto : s.artifacts (wakeDir envelope) .envelope ≠ none)
    (hfr : s.recorded kind envelope = false) (hbef : s.recorded before envelope) :
    s.Due envelope kind where
  stored := hsto
  fresh := hfr
  prior b hb := by rw [Option.some.inj (hb.symm.trans hpr)]; exact hbef

section Find

variable {existing : List Value} {kind : EventKind} (hread : s.events = .ok existing)

include hread

theorem recorded_of_find {event : Value}
    (h : existing.find? (isEvent kind envelope) = some event) : s.recorded kind envelope :=
  (any_of_events hread _ _).symm.trans
    (any_eq_true.mpr ⟨event, mem_of_find?_eq_some h, find?_some h⟩)

theorem fresh_of_find (h : existing.find? (isEvent kind envelope) = none) :
    s.recorded kind envelope = false :=
  (any_of_events hread _ _).symm.trans (any_eq_false.mpr (List.find?_eq_none.mp h))

end Find

theorem receiveStage_ensures {existing : List Value} {kind : EventKind}
    (hkind : kind ∈ kinds) (hpr : kind.prior = some before) (hread : s.events = .ok existing)
    (hsto : s.artifacts (wakeDir envelope) .envelope ≠ none)
    (hbef : s.recorded before envelope) :
    Keeps kinds envelope (receiveStage envelope existing kind) s fun found s' =>
      s'.events = .ok found ∧ s'.artifacts (wakeDir envelope) .envelope ≠ none ∧
        s'.recorded kind envelope := by
  rw [receiveStage]
  by_cases hthere : existing.any (isEvent kind envelope) = true
  · rw [if_pos hthere]
    exact .pure ⟨hread, hsto, (any_of_events hread _ _).symm.trans hthere⟩
  rw [if_neg hthere]
  have hfr : s.recorded kind envelope = false := by
    rw [← any_of_events hread]
    exact Bool.eq_false_iff.mpr hthere
  have hdue := due_of_prior hpr hsto hfr hbef
  refine .bind (append_ensures hkind fun _ => hdue) ?_
  rintro _ s' ⟨hrecd, hartifacts, -⟩
  exact .observe fun found hfnd => ⟨hfnd, hartifacts ▸ hsto, hrecd⟩

theorem receive_ensures : Keeps [.continuationRejected, .resumeReceived, .digestVerified] envelope
      (receive env envelope payload) s fun _ _ => True := by
  rw [receive]
  refine .bind (rejecting_ensures (by decide) persisted_ensures) ?_
  rintro _ _ ⟨rfl, hsto, hpend⟩
  refine observe_bind fun existing hread => ?_
  refine .bind (receiveStage_ensures (by decide) rfl hread hsto hpend) ?_
  rintro existing' s' ⟨hread', hsto', hreceived⟩
  exact (receiveStage_ensures (by decide) rfl hread' hsto' hreceived).mono
    fun _ _ _ => trivial

theorem claim_ensures (hrej : .continuationRejected ∈ kinds)
    (hacc : .resumeAccepted ∈ kinds) :
    Keeps kinds envelope (claim env envelope) s fun _ s' =>
      s'.recorded .resumeAccepted envelope := by
  rw [claim]
  refine .bind (rejecting_ensures hrej persisted_ensures) ?_
  rintro _ _ ⟨rfl, hsto, -⟩
  refine observe_bind fun existing hread => ?_
  split
  · exact refuse_ensures hrej
  cases hpr : existing.find? (isEvent .resumeAccepted envelope) with
  | some prior => exact .pure (recorded_of_find hread hpr)
  | none =>
    by_cases hverified : (!existing.any (isEvent .digestVerified envelope)) = true
    · simp only [if_pos hverified]
      exact refuse_ensures hrej
    simp only [if_neg hverified]
    refine (append_ensures hacc fun _ => ?_).mono fun _ _ h => h.1
    refine due_of_prior rfl hsto (fresh_of_find hread hpr) ?_
    rw [← any_of_events hread]
    simpa using hverified

theorem registerCapability_ensures {capability : Value} :
    Keeps kinds envelope (registerCapability env capability) s fun _ _ => True := by
  rw [registerCapability]
  refine lift_bind fun _ _ => observe_bind fun found hfnd => ?_
  cases found with
  | some present =>
    by_cases hdiffs : present.1.render ≠ capability.1.render
    · simp only [if_pos hdiffs]
      exact .fail _
    · simp only [if_neg hdiffs]
      exact .pure trivial
  | none =>
    exact write_bind (Except.ok.inj hfnd) (.pure trivial)

theorem reject_ensures :
    Keeps [.continuationRejected] envelope (reject env envelope reason) s fun _ _ => True :=
  lift_bind fun _ _ => append_other (by decide) (by decide)

theorem fail_ensures :
    Keeps [.continuationFailed] envelope (fail env envelope reason) s fun _ _ => True :=
  observe_bind fun _ _ => append_other (by decide) (by decide)

theorem supersede_ensures {generation : Int} :
    Keeps [.continuationSuperseded] envelope (supersede env envelope generation reason) s
      fun _ _ => True := by
  rw [supersede]
  refine lift_bind fun current _ => ?_
  by_cases hbeh : generation ≤ current
  · rw [if_pos hbeh]
    exact .fail _
  · rw [if_neg hbeh]
    exact observe_bind fun _ _ => append_other (by decide) (by decide)

/-! ### The sections of `consume` -/

theorem commitEvent_ensures {kind : EventKind} (hkind : kind ∈ kinds)
    (hpr : kind.prior = some before)
    (hsto : s.artifacts (wakeDir envelope) .envelope ≠ none)
    (hbef : s.recorded before envelope) :
    Keeps kinds envelope (commitEvent kind envelope extra) s fun _ s' =>
      s'.recorded kind envelope ∧ s'.artifacts = s.artifacts := by
  rw [commitEvent]
  refine observe_bind fun existing hread => ?_
  cases hfnd : existing.find? (isEvent kind envelope) with
  | some event =>
    by_cases hsame : (extra.fields.all fun field => (event.get field.1).equal field.2) = true
    · simp only [if_pos hsame]
      exact .pure ⟨recorded_of_find hread hfnd, rfl⟩
    · simp only [if_neg hsame]
      exact .fail _
  | none =>
    have hdue := due_of_prior hpr hsto (fresh_of_find hread hfnd) hbef
    exact .bind (append_ensures hkind fun _ => hdue) fun _ _ h => .pure ⟨h.1, h.2.1⟩

theorem finalizeReceipt_ensures {validated : Value} (hstd : .continuationStarted ∈ kinds)
    (hcons : .resumeConsumed ∈ kinds)
    (hacc : s.recorded .resumeAccepted envelope) :
    Keeps kinds envelope (finalizeReceipt env envelope validated) s fun receipt s' =>
      s'.artifacts (wakeDir envelope) .receipt = some receipt := by
  rw [finalizeReceipt]
  refine observe_bind fun _ hfnd => ?_
  obtain ⟨hsto, -⟩ := of_persisted hfnd
  refine .bind (writeOnce_ensures nofun) ?_
  rintro _ s1 ⟨hrcpt, hoths, hrcds⟩
  have hsto1 : s1.artifacts (wakeDir envelope) .envelope ≠ none := by
    rw [hoths _ (by decide)]
    exact hsto
  have hacc1 : s1.recorded .resumeAccepted envelope := by
    rw [Store.recorded, Store.ledger, hrcds]
    exact hacc
  refine .bind (commitEvent_ensures hstd rfl hsto1 hacc1) ?_
  rintro _ s2 ⟨hstd2, hartifacts2⟩
  rw [← hartifacts2] at hsto1 hrcpt
  refine .bind (commitEvent_ensures hcons rfl hsto1 hstd2) ?_
  rintro _ s3 ⟨-, hartifacts3⟩
  rw [← hartifacts3] at hrcpt
  -- the marker goes, the receipt stays
  refine write_bind ⟨rfl, ?_⟩ (.pure ?_)
  · rw [hrcpt]
    simp
  · show (s3.apply (.unlink (wakeDir envelope))).artifacts _ _ = _
    rw [artifacts_apply_unlink, if_neg (by simp), hrcpt]

/-- The kinds of the events that `consume` appends. -/
def consumeKinds : List EventKind :=
  [.continuationRejected, .continuationFailed, .resumeAccepted, .continuationStarted,
    .resumeConsumed]

/-- What is known when the second section of `consume` ends: a receipt that is returned is in
the store; the provider is started only from a state without marker and without receipt, in
which the marker is left. -/
def Entered.Post (envelope : Value) (s s' : Store) : Entered → Prop
  | .committed receipt => s'.artifacts (wakeDir envelope) .receipt = some receipt
  | .invoke _ =>
    s.artifacts (wakeDir envelope) .inflight = none ∧
      s.artifacts (wakeDir envelope) .receipt = none ∧
      s'.artifacts (wakeDir envelope) .inflight ≠ none ∧
      s'.recorded .resumeConsumed envelope = false
  | .reconcileOnly _ => True

theorem enter_ensures {reconcile : Bool} (hacc : s.recorded .resumeAccepted envelope) :
    Keeps consumeKinds envelope (enter env envelope reconcile) s fun entered s' =>
      entered.Post envelope s s' ∧ s'.recorded .resumeAccepted envelope := by
  suffices h : Keeps consumeKinds envelope (enter env envelope reconcile) s fun entered s' =>
      entered.Post envelope s s' from
    h.keep (fun _ w h _ => recorded_apply w h) hacc
  rw [enter]
  refine observe_bind fun _ _ => observe_bind fun existing hread => ?_
  refine observe_bind fun capability _ => observe_bind fun receipt hrcpt => ?_
  replace hrcpt := Except.ok.inj hrcpt
  cases hpr : existing.find? (isEvent .resumeConsumed envelope) with
  | some prior =>
    cases receipt with
    | none => exact .fail _
    | some receipt =>
      refine lift_bind fun validated hval => ?_
      split
      · exact .fail _
      · rw [eq_of_validateReceipt hval]
        exact .pure hrcpt
  | none =>
    cases receipt with
    | some receipt =>
      refine lift_bind fun validated _ => ?_
      exact .bind (finalizeReceipt_ensures (by decide) (by decide) hacc)
        fun _ _ h => .pure h
    | none =>
      refine observe_bind fun marker hmarker => ?_
      replace hmarker := Except.ok.inj hmarker
      cases marker with
      | some present =>
        cases reconcile with
        | true => exact .pure trivial
        | false => exact .fail _
      | none =>
        refine .bind (writeOnce_ensures fun _ => hrcpt) ?_
        rintro _ s' ⟨hleft, -, hrcds⟩
        refine .pure ⟨hmarker, hrcpt, by rw [hleft]; simp, ?_⟩
        rw [Store.recorded, Store.ledger, hrcds]
        exact fresh_of_find hread hpr

theorem settle_ensures {ending : Ending} (hacc : s.recorded .resumeAccepted envelope) :
    Keeps consumeKinds envelope (settle env envelope ending) s fun receipt s' =>
      s'.artifacts (wakeDir envelope) .receipt = some receipt := by
  cases ending with
  | raised fault => exact .fail _
  | failed name =>
    exact .bind (append_other (by decide) (by decide)) fun _ _ _ => .fail _
  | rejected message => exact refuse_ensures (by decide)
  | finalized receipt => exact finalizeReceipt_ensures (by decide) (by decide) hacc

/-- What `consume` as a whole does: it starts the provider as well, while the envelope is not
consumed. -/
def ConsumePermitted (envelope : Value) (s : Store) (w : Write) : Prop :=
  Permitted consumeKinds envelope s w ∨
    w = .invoke envelope ∧ s.recorded .resumeConsumed envelope = false

theorem consume_ensures {env : ConsumeEnv} {invoke : Outcome} {reconcile : Option Outcome} :
    Ensures (fun w s => s.apply w) (ConsumePermitted envelope)
      (consume env envelope invoke reconcile) s fun _ _ => True := by
  have hperm : ∀ (s : Store) w, Permitted consumeKinds envelope s w →
      ConsumePermitted envelope s w := fun _ _ => .inl
  rw [consume]
  refine .bind ((claim_ensures (by decide) (by decide)).allow hperm) ?_
  intro _ s1 hacc
  refine .bind ((enter_ensures hacc).allow hperm) ?_
  rintro entered s2 ⟨hpost, hacc2⟩
  cases entered with
  | committed receipt => exact .pure trivial
  | invoke capability =>
    refine write_bind (.inr ⟨rfl, hpost.2.2.2⟩) ?_
    exact ((settle_ensures hacc2).allow hperm).mono fun _ _ _ => trivial
  | reconcileOnly capability =>
    exact ((settle_ensures hacc2).allow hperm).mono fun _ _ _ => trivial

end Calls

/-! ### The order of the ledger -/

/-- The stages of an envelope, in the order of the ledger. -/
def stages (ledger : List Value) (envelope : Value) : List EventKind :=
  ledger.flatMap fun event => successEvents.filter fun kind => isEvent kind envelope event

/-- The ledger is numbered without gaps, the stages of each envelope begin the success chain,
and an envelope with a stage is stored. -/
structure Ordered (s : Store) : Prop where
  sequence : ∀ i (hi : i < s.records.length), s.records[i].sequence = i + 1
  stages : ∀ envelope, stages s.ledger envelope <+: successEvents
  stored : ∀ event ∈ s.records, event.kind ∈ successEvents →
    s.artifacts (wakeDir event.envelope) .envelope ≠ none

theorem ordered_empty : Ordered Store.empty where
  sequence i hi := by simp [Store.empty] at hi
  stages envelope := nil_prefix
  stored event hev := by simp [Store.empty] at hev

section Stages

variable {s : Store} {kind : EventKind} {envelope : Value}

theorem mem_stages (hkind : kind ∈ successEvents) :
    kind ∈ stages s.ledger envelope ↔ s.recorded kind envelope := by
  rw [stages, mem_flatMap, Store.recorded, any_eq_true]
  refine exists_congr fun event => and_congr_right fun _ => ?_
  rw [mem_filter, and_iff_right hkind]

theorem chain_concat {chain : List EventKind} (hch : chain <+: successEvents)
    (hkind : kind ∈ successEvents) (hfr : kind ∉ chain)
    (hpr : ∀ before, kind.prior = some before → before ∈ chain) :
    chain ++ [kind] <+: successEvents := by
  have hfinite : ∀ n ≤ 6, ∀ k ∈ successEvents, k ∉ successEvents.take n →
      (∀ before ∈ k.prior, before ∈ successEvents.take n) →
      successEvents.take n ++ [k] <+: successEvents := by decide
  have htake := prefix_iff_eq_take.mp hch
  have hlen : chain.length ≤ 6 := hch.length_le
  rw [htake] at hfr hpr ⊢
  exact hfinite _ hlen kind hkind hfr fun before hbef => hpr before hbef

theorem stages_event (event : Event) (envelope : Value) :
    stages [event.value] envelope =
      if correlates event.envelope envelope ∧ event.kind ∈ successEvents then [event.kind]
      else [] := by
  have hsingle : ∀ k : EventKind, successEvents.filter (fun kind => decide (kind = k)) =
      if k ∈ successEvents then [k] else [] := by
    intro k
    cases k <;> decide
  have hflat : stages [event.value] envelope =
      successEvents.filter fun kind => isEvent kind envelope event.value := by
    simp [stages]
  rw [hflat]
  by_cases hcorr : correlates event.envelope envelope = true
  · simp only [Event.value, isEvent_eventRecord, hcorr, Bool.and_true, hsingle, true_and]
  · rw [Bool.not_eq_true] at hcorr
    simp [Event.value, isEvent_eventRecord, hcorr]

/-- **Permitted writes keep the ledger in order.** -/
theorem Ordered.apply (h : Ordered s) {kinds : List EventKind} {w : Write}
    (hw : Permitted kinds envelope s w) : Ordered (s.apply w) := by
  -- an envelope that is stored stays stored
  have hstays : ∀ wake, s.artifacts wake .envelope ≠ none →
      (s.apply w).artifacts wake .envelope ≠ none := by
    intro wake hsto
    obtain ⟨value, hvalue⟩ := Option.ne_none_iff_exists'.mp hsto
    rw [hw.artifacts (by decide) hvalue]
    simp
  cases w with
  | event event =>
    obtain ⟨-, rfl, hseq, hdue⟩ := hw
    refine ⟨fun i hi => ?_, fun other => ?_, fun e he hkind => ?_⟩
    · simp only [Store.apply, getElem_append]
      split
      · rename_i hlt
        exact h.sequence i hlt
      rename_i hge
      have hlen : i < s.records.length + 1 := by simpa [Store.apply] using hi
      have heq : i = s.records.length := by omega
      simp [hseq, heq]
    · have happ : Continuation.stages (s.apply (.event event)).ledger other =
          Continuation.stages s.ledger other ++ Continuation.stages [event.value] other := by
        simp [Continuation.stages]
      rw [happ, stages_event]
      split
      · rename_i hstage
        -- the event counts for `other`, whose stages are those of its own envelope
        have hdue := hdue hstage.2
        have hsame : ∀ k, s.recorded k other = s.recorded k event.envelope := by
          intro k
          have hevs : isEvent k other = isEvent k event.envelope :=
            funext fun _ => (isEvent_congr hstage.1).symm
          rw [Store.recorded, Store.recorded, hevs]
        refine chain_concat (h.stages other) hstage.2 ?_ ?_
        · rw [mem_stages hstage.2, hsame, hdue.fresh]
          simp
        · intro before hbef
          have hmem : before ∈ successEvents := by
            revert hbef
            cases event.kind <;> cases before <;> decide
          rw [mem_stages hmem, hsame]
          exact hdue.prior before hbef
      · rw [append_nil]
        exact h.stages other
    · rcases mem_append.mp he with hold | hnew
      · exact h.stored e hold hkind
      · rw [mem_singleton.mp hnew] at hkind ⊢
        exact (hdue hkind).stored
  | _ => exact ⟨h.sequence, h.stages, fun e he hkind => hstays _ (h.stored e he hkind)⟩

theorem Ordered.fresh (h : Ordered s) (hkind : kind ∈ successEvents)
    (hnone : s.artifacts (wakeDir envelope) .envelope = none) :
    s.recorded kind envelope = false := by
  rw [← Bool.not_eq_true, Store.recorded, any_eq_true]
  rintro ⟨value, hvalue, his⟩
  obtain ⟨event, hev, rfl⟩ := mem_map.mp hvalue
  have hdir := wakeDir_of_isEvent his
  rw [Event.value, isEvent_eventRecord, Bool.and_eq_true, decide_eq_true_iff] at his
  rw [Event.value, wakeDir_eventRecord] at hdir
  refine h.stored event hev (his.1 ▸ hkind) ?_
  rw [hdir, hnone]

end Stages

/-- The envelope is stored, with a payload that has its digest. -/
def Store.Backs (s : Store) (envelope : Value) : Prop :=
  s.artifacts (wakeDir envelope) .envelope = some envelope ∧
    ∃ payload, s.artifacts (wakeDir envelope) .payload = some payload ∧
      (Value.str (digest payload.1)).equal (envelope.get "payload_digest") = true

section Pending

variable {env : Env} {envelope payload : Value} {s : Store}

theorem pending_backs (h : Ordered s) :
    Ensures (fun w s => s.apply w) (fun s w =>
      Permitted [.continuationRejected, .resumePending] envelope s w ∧
        ∀ event, w = .event event → event.kind = .resumePending → s.Backs envelope)
      (pending env envelope payload) s fun _ _ => True := by
  have hfs : ∀ {s w}, Permitted [] envelope s w →
      Permitted [.continuationRejected, .resumePending] envelope s w ∧
        ∀ event, w = .event event → event.kind = .resumePending → s.Backs envelope := by
    intro s w hw
    cases w with
    | event event => cases hw.1
    | _ => exact ⟨hw, nofun⟩
  rw [pending]
  refine rejecting_of_append (fun s _ => ?_) (lift_bind fun _ _ => lift_bind fun _ hpay => ?_)
  · refine (append_of_allowed ⟨⟨mem_cons_self, rfl, rfl, ?_⟩, ?_⟩).mono fun _ _ _ => trivial
    · exact fun hsuccess => absurd hsuccess (by simp [successEvents])
    · rintro _ ⟨⟩ ⟨⟩
  refine observe_bind fun _ _ => observe_bind fun found hfnd => ?_
  cases found with
  | some present => exact observe_bind fun _ _ => .pure trivial
  | none =>
    refine .bind (.allow (writeOnce_ensures ?_) fun _ _ => hfs) ?_
    · nofun
    rintro _ s1 ⟨hsto, -, hrcds1⟩
    refine .bind (.allow (writeOnce_ensures ?_) fun _ _ => hfs) ?_
    · nofun
    rintro _ s2 ⟨hwr, hoths, hrcds2⟩
    have hbacks : s2.Backs envelope :=
      ⟨(hoths _ (by decide)).trans hsto, payload, hwr, require_eq_ok.mp hpay⟩
    have hdue : s2.Due envelope .resumePending :=
      { stored := by rw [hbacks.1]; simp
        fresh := by
          rw [Store.recorded, Store.ledger, hrcds2, hrcds1]
          exact h.fresh (by decide) (Except.ok.inj hfnd)
        prior := fun _ hb => by cases hb }
    exact .bind
      (append_of_allowed ⟨⟨by simp, rfl, rfl, fun _ => hdue⟩, fun _ _ _ => hbacks⟩)
      fun _ _ _ => .pure trivial

theorem pending_ensures (h : Ordered s) :
    Keeps [.continuationRejected, .resumePending] envelope (pending env envelope payload) s
      fun _ _ => True :=
  (pending_backs h).allow fun _ _ hw => hw.1

end Pending

end Valp.Continuation
