/-
A `pending` call that stops and is made again (`valp_cli/continuation.py`).

`pending` makes three writes: the envelope, the payload and the `resume_pending` event.  A
second call finds the envelope and asks for the other two; it never writes what is missing.

* `Backed.step` — **a `resume_pending` event has its envelope and its payload behind it**, after
  any run;
* `pending_retry_iff` — **a call that is made again succeeds exactly if the first one left all
  three writes or none.**
* `supersession_keeps_wake` — no other generation is accepted under the wake of a superseded
  envelope.
-/
import Valp.ContinuationTerminal

namespace Valp.Continuation

open Json (Value)
open Kernel (digest)
open Durable (Ensures observe_bind_eq_ok bind_of_pure bind_eq_ok lift_bind_eq_ok last_nil)
open List

/-! ### What stands behind an event -/

structure Backed (s : Store) : Prop where
  wakes : ∀ wake, s.artifacts wake .envelope ≠ none → wake ∈ s.wakes
  pending : ∀ event ∈ s.records, event.kind = .resumePending → s.Backs event.envelope

theorem backed_empty : Backed Store.empty where
  wakes wake h := absurd rfl h
  pending event h := by cases h

/-- A write of a call that appends a `resume_pending` event only for an envelope that is
stored with its payload. -/
def Admitted (s : Store) (w : Write) : Prop :=
  (∃ kinds envelope, Permitted kinds envelope s w) ∧
    ∀ event, w = .event event → event.kind = .resumePending → s.Backs event.envelope

variable {durable : Bool}

variable {α : Type} {call : Op α} {Q : α → Store → Prop}

section Backed

variable {s : Store} {kinds : List EventKind} {env : Env} {envelope payload : Value} {w : Write}

theorem Permitted.admitted (hks : .resumePending ∉ kinds) (h : Permitted kinds envelope s w) :
    Admitted s w := by
  refine ⟨⟨kinds, envelope, h⟩, ?_⟩
  rintro event rfl hkind
  exact absurd (hkind ▸ h.1) hks

theorem Store.Backs.apply (h : s.Backs envelope) (hw : Admitted s w) :
    (s.apply w).Backs envelope := by
  obtain ⟨⟨_, _, hperm⟩, -⟩ := hw
  obtain ⟨hsto, payload, hpay, hdig⟩ := h
  exact ⟨hperm.artifacts (by decide) hsto, payload,
    hperm.artifacts (by decide) hpay, hdig⟩

theorem Backed.apply (h : Backed s) (hw : Admitted s w) : Backed (s.apply w) where
  wakes wake hsto := by
    cases w with
    | create wake' file value =>
      rw [artifacts_apply_create] at hsto
      by_cases hfile : file = .envelope
      · simp only [Store.apply, if_pos hfile]
        by_cases hwake : wake = wake'
        · simp [hwake]
        · rw [if_neg fun heq => hwake heq.1] at hsto
          exact mem_append_left _ (h.wakes wake hsto)
      · simp only [Store.apply, if_neg hfile]
        rw [if_neg fun heq => hfile heq.2.symm] at hsto
        exact h.wakes wake hsto
    | unlink wake' =>
      rw [artifacts_apply_unlink, if_neg (by simp)] at hsto
      exact h.wakes wake hsto
    | _ => exact h.wakes wake hsto
  pending event hev hkind := by
    have hold : event ∈ s.records → (s.apply w).Backs event.envelope :=
      fun hmem => (h.pending event hmem hkind).apply hw
    cases w with
    | event new =>
      rcases mem_append.mp hev with hmem | hnew
      · exact hold hmem
      · rw [mem_singleton.mp hnew] at hkind ⊢
        exact (hw.2 new rfl hkind).apply hw
    | _ => exact hold hev

/-! ### The calls -/

/-- The writes of the call are admitted. -/
abbrev Admits {α : Type} (call : Op α) (s : Store) (Q : α → Store → Prop) : Prop :=
  Ensures (fun w s => s.apply w) Admitted call s Q

theorem Keeps.admits
    (hks : .resumePending ∉ kinds) (h : Keeps kinds envelope call s Q) : Admits call s Q :=
  .allow h fun _ _ => Permitted.admitted hks

theorem pending_admits (h : Ordered s) :
    Admits (pending env envelope payload) s fun _ _ => True := by
  refine .allow (pending_backs h) fun s w hw => ⟨⟨_, _, hw.1⟩, ?_⟩
  rintro event rfl hkind
  rw [hw.1.2.1]
  exact hw.2 event rfl hkind

/-- What sections with admitted writes leave: the events stay, and what stands behind them. -/
structure Grown (s s' : Store) : Prop where
  backed : Backed s'
  recorded : ∀ kind envelope, s.recorded kind envelope = true → s'.recorded kind envelope = true

theorem Grown.refl (h : Backed s) : Grown s s := ⟨h, fun _ _ => id⟩

theorem Grown.section {ι : Type} {world : World ι}
    (h : Backed world.store) (hcall : Admits call world.store Q) (stop : Option ℕ) :
    Grown world.store (world.write call stop).store :=
  hcall.writes.keeps (I := fun s _ => Grown world.store s)
    (fun _ _ w hgrown hw => ⟨hgrown.backed.apply hw, fun kind e he =>
      recorded_apply w (hgrown.recorded kind e he)⟩)
    [] (Grown.refl h) (sectionWrites_stop call stop)

end Backed

section Runs

variable {ι : Type} [DecidableEq ι] {w w' : World ι}

theorem Request.admits {s : Store} (h : Ordered s) (env : Env) (request : Request) :
    Admits (request.run env) s fun _ _ => True := by
  have hkp := request.ensures h env
  cases request with
  | pending envelope payload => exact pending_admits h
  | _ => exact Keeps.admits (by simp [kinds]) hkp

/-- **What every action keeps of the events and of what stands behind them.** -/
theorem Backed.step (h : Backed w.store) (hw : Coherent w) {a : Action ι}
    (ha : w.step a = some w') : Grown w.store w'.store := by
  cases a with
  | request env request stop =>
    cases ha
    exact Grown.section h (request.admits hw.logged.ordered env) stop
  | consume p env envelope reconcile stop =>
    have hkp : Keeps consumeKinds envelope (claim env envelope) w.store _ :=
      claim_ensures (by decide) (by decide)
    simp only [World.step] at ha
    split at ha
    · cases ha
    · cases ha
      exact Grown.section h (Keeps.admits (by decide) hkp) stop
  | enter p env stop =>
    simp only [World.step] at ha
    split at ha
    · rename_i envelope reconcile hcall
      have hkp : Keeps consumeKinds envelope (enter env envelope reconcile) w.store _ :=
        enter_ensures (hw.accepted p _ hcall)
      have hgrown := Grown.section h (Keeps.admits (by decide) hkp) stop
      split at ha <;> cases ha <;> exact hgrown
    · cases ha
  | invoke p =>
    simp only [World.step] at ha
    split at ha
    · cases ha
      exact Grown.refl h
    · cases ha
  | answer p env outcome =>
    simp only [World.step] at ha
    split at ha
    · cases ha
      exact Grown.refl h
    · cases ha
  | settle p env stop =>
    simp only [World.step] at ha
    split at ha
    · rename_i envelope ending hcall
      have hkp : Keeps consumeKinds envelope (settle env envelope ending) w.store _ :=
        settle_ensures (hw.accepted p _ hcall)
      have hgrown := Grown.section h (Keeps.admits (by decide) hkp) stop
      split at ha <;> cases ha <;> exact hgrown
    · cases ha
  | stop p =>
    cases ha
    exact Grown.refl h

theorem Backed.run (h : Backed w.store) (hw : Coherent w) {actions : List (Action ι)}
    (hrun : Run.exec World.step w actions = some w') : Coherent w' ∧ Grown w.store w'.store := by
  refine Run.exec_invariant (I := fun u => Coherent u ∧ Grown w.store u.store) ?_
    ⟨hw, Grown.refl h⟩ hrun
  rintro u a v ⟨hu, hgrown⟩ ha
  have hnext := hgrown.backed.step hu ha
  exact ⟨hu.step ha, hnext.backed,
    fun kind e he => hnext.recorded kind e (hgrown.recorded kind e he)⟩

end Runs

/-! ### Recovery -/

/-- The envelope of these events is stored, and wherever it passes the checks `recover_pending`
returns and lists it, unless it has ended. -/
def Recoverable (s : Store) (envelope : Value) : Prop :=
  ∃ stored, s.artifacts (wakeDir envelope) .envelope = some stored ∧
    correlates stored envelope = true ∧
    ∀ env, validateEnvelope env stored = .ok () → ∃ recovered,
      recoverPending env s = .ok recovered ∧
        (s.terminal envelope = false → ∃ payload, (stored, payload) ∈ recovered)

variable {records : List Value}

section Recovery

variable {s : Store} {env : Env} {envelope payload : Value}

/-- The computation raises nothing but a `ContinuationError`. -/
def Declared {α : Type} (x : Except Fault α) : Prop := ∀ name, x ≠ .error (.python name)

theorem Declared.bind {β : Type} {x : Except Fault α} {f : α → Except Fault β} (hx : Declared x)
    (hf : ∀ a, x = .ok a → Declared (f a)) : Declared (x >>= f) := by
  cases x with
  | error fault =>
    intro name h
    exact hx name (congrArg Except.error (Except.error.inj h))
  | ok a => exact hf a rfl

theorem declared_require (condition : Bool) (message : String) :
    Declared (require condition message) := by
  intro name h
  cases condition <;> cases h

theorem declared_ok (a : α) : Declared (.ok a : Except Fault α) := fun _ h => by cases h

section

variable (h : validateEnvelope env envelope = .ok ())

include h

theorem declared_activeEpoch (suspensionId : Value) : Declared (activeEpoch env suspensionId) := by
  have hact : ∃ epoch, activeEpoch env (envelope.get "suspension_id") = .ok epoch := by
    rw [validateEnvelope] at h
    simp only [Kernel.bind_eq_ok] at h
    obtain ⟨-, -, -, -, -, -, -, -, -, -, -, -, -, -, -, -, -, -, -, -, -, -, -, -, -, -, -, -,
      epoch, hep, -⟩ := h
    exact ⟨epoch, hep⟩
  obtain ⟨epoch, hep⟩ := hact
  intro name hname
  rw [activeEpoch] at hep hname
  cases hsta : env.state with
  | none => simp [hsta] at hname
  | some decoded =>
    cases decoded with
    | none => simp [hsta] at hname
    | some state =>
      simp only [hsta] at hep hname
      by_cases hobj : (!state.isObject) = true
      · rw [if_pos hobj] at hep
        cases hep
      · rw [if_neg hobj] at hname
        repeat' split at hname
        all_goals cases hname

theorem declared_validateEnvelope (other : Value) : Declared (validateEnvelope env other) := by
  rw [validateEnvelope]
  iterate 14 refine Declared.bind (declared_require _ _) fun _ _ => ?_
  refine Declared.bind (declared_activeEpoch h _) fun _ _ => ?_
  exact Declared.bind (declared_require _ _) fun _ _ => declared_require _ _

theorem declared_persisted (hread : s.events = .ok records) (other payload : Value) :
    Declared (persisted env s other payload) := by
  rw [persisted]
  refine Declared.bind (declared_validateEnvelope h other) fun _ _ => ?_
  split
  · iterate 3 refine Declared.bind (declared_require _ _) fun _ _ => ?_
    rw [hread]
    refine Declared.bind (declared_ok _) fun _ _ => ?_
    exact Declared.bind (declared_require _ _) fun _ _ => declared_ok _
  · exact fun _ h => by cases h

end

theorem recoverFrom_lists (events : List Value)
    (hfault : ∀ other, Declared (persisted env s other .null))
    (wakes : List String) : ∃ recovered, recoverFrom env s events wakes = .ok recovered ∧
      ∀ wake ∈ wakes, ∀ envelope found, s.artifacts wake .envelope = some envelope →
        persisted env s envelope .null = .ok found →
        (terminalEvents.any fun kind => events.any (isEvent kind envelope)) = false →
          (envelope, found.2) ∈ recovered := by
  induction wakes with
  | nil => exact ⟨[], rfl, by simp⟩
  | cons wake wakes ih =>
    obtain ⟨recovered, hrecv, hlists⟩ := ih
    rw [recoverFrom]
    cases hsto : s.artifacts wake .envelope with
    | none =>
      refine ⟨recovered, hrecv, fun wake' hwake' e found he => ?_⟩
      rcases mem_cons.mp hwake' with rfl | hlat
      · cases hsto.symm.trans he
      · exact hlists wake' hlat e found he
    | some stored =>
      have hoths : ∀ more : List (Value × Value), recovered ⊆ more →
          (∀ found, persisted env s stored .null = .ok found →
            (terminalEvents.any fun kind => events.any (isEvent kind stored)) = false →
              (stored, found.2) ∈ more) →
          ∀ wake' ∈ wake :: wakes, ∀ e found, s.artifacts wake' .envelope = some e →
            persisted env s e .null = .ok found →
            (terminalEvents.any fun kind => events.any (isEvent kind e)) = false →
              (e, found.2) ∈ more := by
        intro more hmore hown wake' hwake' e found he hfnd hopen
        rcases mem_cons.mp hwake' with rfl | hlat
        · cases hsto.symm.trans he
          exact hown found hfnd hopen
        · exact hmore (hlists wake' hlat e found he hfnd hopen)
      cases hpers : persisted env s stored .null with
      | error fault =>
        cases fault with
        | python name => exact absurd hpers (hfault stored name)
        | continuation message =>
          refine ⟨recovered, by simp only [hpers, hrecv],
            hoths recovered (List.Subset.refl _) fun found hfnd => ?_⟩
          cases hpers.symm.trans hfnd
      | ok found =>
        by_cases hended : (terminalEvents.any fun kind => events.any (isEvent kind stored)) = true
        · refine ⟨recovered, by simp only [hpers, if_pos hended, hrecv],
            hoths recovered (List.Subset.refl _) fun _ _ hopen => ?_⟩
          cases hended.symm.trans hopen
        refine ⟨(stored, found.2) :: recovered, ?_,
          hoths _ (subset_cons_self _ _) fun other hoth _ => ?_⟩
        · simp only [hpers, if_neg hended, hrecv]
          rfl
        · cases hpers.symm.trans hoth
          exact mem_cons_self

/-- **An event of the envelope in a ledger that can be read makes it recoverable.** -/
theorem recoverable_of_backed (h : Backed s) (hpend : s.recorded .resumePending envelope)
    (hread : s.events = .ok records) : Recoverable s envelope := by
  rw [Store.recorded, any_eq_true] at hpend
  obtain ⟨value, hvalue, his⟩ := hpend
  obtain ⟨event, hev, rfl⟩ := mem_map.mp hvalue
  have hdir := wakeDir_of_isEvent his
  rw [Event.value, wakeDir_eventRecord] at hdir
  have hkind := his
  rw [Event.value, isEvent_eventRecord, Bool.and_eq_true, decide_eq_true_iff] at hkind
  obtain ⟨hkind, hcorr⟩ := hkind
  obtain ⟨hsto, payload, hpay, hdig⟩ := h.pending event hev hkind.symm
  refine ⟨event.envelope, hdir ▸ hsto, hcorr, fun env hval => ?_⟩
  have hrecd : s.recorded .resumePending event.envelope := by
    rw [recorded_congr hcorr]
    exact any_eq_true.mpr ⟨event.value, hvalue, his⟩
  have hpers : persisted env s event.envelope .null = .ok (event.envelope, payload) :=
    persisted_of_events hval hsto hpay hdig hread hrecd (.inl rfl)
  obtain ⟨recovered, hrecv, hlists⟩ := recoverFrom_lists records
    (fun other => declared_persisted hval hread other .null) (s.wakes.insertionSort (· ≤ ·))
  refine ⟨recovered, ?_, fun hopen => ⟨payload, ?_⟩⟩
  · rw [recoverPending, hread]
    exact hrecv
  · refine hlists _ ?_ _ _ hsto hpers ?_
    · rw [mem_insertionSort]
      exact h.wakes _ (by rw [hsto]; simp)
    · simp only [any_of_events hread, recorded_congr hcorr]
      exact hopen

end Recovery

/-! ### A call that is made again -/

variable {final : Store}

section Retry

variable {s : Store} {env : Env} {envelope payload : Value}

/-- **An event can be read behind the others exactly if its strings hold no line boundary
outside ASCII.** -/
theorem events_apply_event (hread : s.events = .ok records) (event : Event) :
    (∃ found, (s.apply (.event event)).events = .ok found) ↔ event.value.Clean := by
  have hldg : JsonLines.written Json.codec true (s.apply (.event event)).ledger =
      JsonLines.append Json.codec true (JsonLines.written Json.codec true s.ledger)
        event.value := by
    rw [ledger_apply_event, JsonLines.written_concat]
  have hbef := Store.of_events hread
  rw [Store.events_eq_ok] at hread
  have hback := JsonLines.read_append_iff Json.lawful_codec (v := event.value) rfl hread
  rw [← hldg] at hback
  constructor
  · rintro ⟨found, hfnd⟩
    have hsame := Store.of_events hfnd
    rw [ledger_apply_event, map_append, ← hbef] at hsame
    exact hback.mp (hsame ▸ Store.events_eq_ok.mp hfnd)
  · intro hcln
    exact ⟨_, Store.events_eq_ok.mpr (hback.mpr hcln)⟩

theorem clean_next_iff : (s.next .resumePending envelope .none).value.Clean ↔
    ∀ field ∈ correlation envelope, field.2.Clean := by
  constructor
  · intro hcln field hfld
    have hget : (s.next .resumePending envelope .none).value.get field.1 = field.2 :=
      get_correlation hfld
    exact hget ▸ hcln.get field.1
  · intro hflds
    exact Event.clean_of_correlation hflds Extra.clean_none

variable {found : Value × Value} {writes : List (Write × Store)}

theorem rejecting_eq_ok {a : α} (h : (rejecting envelope durable call s).1 = .ok a) :
    call s = (.ok a, (rejecting envelope durable call s).2) := by
  have hrescue : rejecting envelope durable call s = Durable.rescue call _ s := rfl
  rcases hcall : call s with ⟨fault | b, writes⟩
  · exfalso
    rw [hrescue, Durable.rescue, hcall] at h
    cases fault with
    | python name => cases h
    | continuation message =>
      cases durable with
      | false => cases h
      | true =>
        simp only [if_true] at h
        obtain ⟨_, _, _, -, hfail, -⟩ := bind_eq_ok.mp (Prod.ext h rfl)
        cases congrArg Prod.fst hfail
  · rw [hrescue, Durable.rescue, hcall] at h ⊢
    exact Prod.ext h rfl

theorem writeOnce_eq_ok {wake : String} (h : writeOnce env wake file value s = (.ok (), writes)) :
    (s.artifacts wake file = some value ∧ writes = []) ∨ (s.artifacts wake file = none ∧
      writes = [(.create wake file value, s.apply (.create wake file value))]) := by
  rw [writeOnce, artifact, observe_bind_eq_ok] at h
  obtain ⟨found, hfnd, h⟩ := h
  cases hfnd
  cases hthere : s.artifacts wake file with
  | none =>
    rw [hthere] at h
    exact .inr ⟨rfl, (congrArg Prod.snd h).symm⟩
  | some present =>
    rw [hthere] at h
    by_cases hdiffs : present.1.render ≠ value.1.render
    · simp only [if_pos hdiffs] at h
      cases congrArg Prod.fst h
    · simp only [if_neg hdiffs] at h
      have hsame : present = value := Subtype.ext (Json.render_injective (not_not.mp hdiffs))
      exact .inl ⟨hsame ▸ rfl, (congrArg Prod.snd h).symm⟩

theorem append_eq_ok {kind : EventKind} {extra : Extra} {v : Value}
    (h : append kind envelope extra s = (.ok v, writes)) :
    (∃ records, s.events = .ok records) ∧
      writes = [(.event (s.next kind envelope extra),
        s.apply (.event (s.next kind envelope extra)))] := by
  rw [append, events, observe_bind_eq_ok] at h
  obtain ⟨records, hread, h⟩ := h
  by_cases hobj : (!envelope.isObject) = true
  · rw [if_pos hobj] at h
    cases congrArg Prod.fst h
  · rw [if_neg hobj, length_of_events hread] at h
    exact ⟨⟨records, hread⟩, (congrArg Prod.snd h).symm⟩

theorem pending_eq_ok (h : (pending env envelope payload s).1 = .ok envelope) :
    validateEnvelope env envelope = .ok () ∧
      (Value.str (digest payload.1)).equal (envelope.get "payload_digest") ∧
      s.conflicts envelope = false ∧
      ((∃ found, persisted env s envelope payload = .ok found) ∧
          (pending env envelope payload s).2 = [] ∨
        s.artifacts (wakeDir envelope) .envelope = none ∧ (do
            writeOnce env (wakeDir envelope) .envelope envelope
            writeOnce env (wakeDir envelope) .payload payload
            let _ ← append .resumePending envelope .none
            pure envelope : Op Value) s = (.ok envelope, (pending env envelope payload s).2)) := by
  have hcall := rejecting_eq_ok h
  simp only [artifact, lift_bind_eq_ok, observe_bind_eq_ok, require_eq_ok] at hcall
  obtain ⟨_, hval, _, hdig, _, hconf, found, hfnd, hrest⟩ := hcall
  refine ⟨hval, hdig, by simpa using hconf, ?_⟩
  cases hfnd
  cases hsto : s.artifacts (wakeDir envelope) .envelope with
  | none =>
    rw [hsto] at hrest
    exact .inr ⟨rfl, hrest⟩
  | some present =>
    rw [hsto, observe_bind_eq_ok] at hrest
    obtain ⟨pair, hpers, hpure⟩ := hrest
    exact .inl ⟨⟨pair, hpers⟩, (congrArg Prod.snd hpure).symm⟩

theorem conflicts_payload (wake : String) (value : Value) :
    (s.apply (.create wake .payload value)).conflicts envelope = s.conflicts envelope := by
  have hwakes : (s.apply (.create wake .payload value)).wakes = s.wakes := rfl
  simp only [Store.conflicts, hwakes, artifacts_apply_create, reduceCtorEq, and_false, if_false]

theorem conflicts_create (h : s.conflicts envelope = false) :
    (s.apply (.create (wakeDir envelope) .envelope envelope)).conflicts envelope = false := by
  rw [Store.conflicts, any_eq_false] at h ⊢
  intro wake hwake
  rw [artifacts_apply_create]
  by_cases hown : wake = wakeDir envelope
  · rw [if_pos ⟨hown, rfl⟩]
    simp [Value.equal_self]
  · rw [if_neg fun heq => hown heq.1]
    refine h wake ?_
    simpa [Store.apply, hown] using hwake

theorem events_congr {t : Store} (h : t.records = s.records) : t.events = s.events := by
  rw [Store.events, Store.events, Store.ledger, Store.ledger, h]

/-- What a call leaves that has stored the envelope. -/
structure Filed (env : Env) (s : Store) (envelope payload : Value) (final : Store) : Prop where
  valid : validateEnvelope env envelope = .ok ()
  digested : (Value.str (digest payload.1)).equal (envelope.get "payload_digest") = true
  conflicts : final.conflicts envelope = false
  readable : ∃ records, s.events = .ok records
  stored : final.artifacts (wakeDir envelope) .envelope = some envelope
  storedPayload : final.artifacts (wakeDir envelope) .payload = some payload
  records : final.records = s.records ++ [s.next .resumePending envelope .none]

/-- The ledger is read behind the call exactly if the event can be read. -/
theorem Filed.events_iff (h : Filed env s envelope payload final) :
    (∃ records, final.events = .ok records) ↔
      ∀ field ∈ correlation envelope, field.2.Clean := by
  obtain ⟨records, hread⟩ := h.readable
  have hsame : final.events = (s.apply (.event (s.next .resumePending envelope .none))).events :=
    events_congr h.records
  rw [hsame, events_apply_event hread, clean_next_iff]

theorem Filed.recorded (h : Filed env s envelope payload final) :
    final.recorded .resumePending envelope := by
  have hldg : final.ledger = (s.apply (.event (s.next .resumePending envelope .none))).ledger :=
    congrArg (List.map Event.value) h.records
  rw [Store.recorded, hldg]
  exact recorded_next _ _

theorem filed_event {held : Store} (hval : validateEnvelope env envelope = .ok ())
    (hdig : (Value.str (digest payload.1)).equal (envelope.get "payload_digest"))
    (hconf : held.conflicts envelope = false) (hread : held.events = .ok records)
    (hsto : held.artifacts (wakeDir envelope) .envelope = some envelope)
    (hpay : held.artifacts (wakeDir envelope) .payload = some payload)
    (hrcds : held.records = s.records) :
    Filed env s envelope payload
      (held.apply (.event (held.next .resumePending envelope .none))) where
  valid := hval
  digested := hdig
  conflicts := hconf
  readable := ⟨records, (events_congr hrcds).symm.trans hread⟩
  stored := hsto
  storedPayload := hpay
  records := by
    show held.records ++ [held.next .resumePending envelope .none] = _
    rw [Store.next, hrcds, Store.next]

/-- A call that returns for an envelope that is not stored: where it may stop, and what it
leaves. -/
theorem pending_files (hnone : s.artifacts (wakeDir envelope) .envelope = none)
    (h : (pending env envelope payload s).1 = .ok envelope) :
    Filed env s envelope payload (Durable.last s (pending env envelope payload s).2) ∧
      ∀ n found, Durable.last s ((pending env envelope payload s).2.take n) = found →
        found = s ∨ found = Durable.last s (pending env envelope payload s).2 ∨
          (found.artifacts (wakeDir envelope) .envelope ≠ none ∧ found.records = s.records) := by
  obtain ⟨hval, hdig, hconf, ⟨⟨found, hpers⟩, -⟩ | ⟨-, hcall⟩⟩ := pending_eq_ok h
  · exact absurd hnone (of_persisted hpers).1
  generalize (pending env envelope payload s).2 = writes at hcall ⊢
  obtain ⟨_, first, _, hfst, hbeh, rfl⟩ := bind_eq_ok.mp hcall
  obtain ⟨_, second, _, hsnd, hlast, rfl⟩ := bind_eq_ok.mp hbeh
  obtain ⟨_, third, _, hthird, hpure, rfl⟩ := bind_eq_ok.mp hlast
  obtain rfl : [] = _ := congrArg Prod.snd hpure
  have hsto : (s.apply (.create (wakeDir envelope) .envelope envelope)).artifacts
      (wakeDir envelope) .envelope = some envelope := by
    rw [artifacts_apply_create, if_pos ⟨rfl, rfl⟩]
  have hpres := Option.ne_none_iff_exists'.mpr ⟨_, hsto⟩
  have hfree := conflicts_create hconf
  rcases writeOnce_eq_ok hfst with ⟨hthere, -⟩ | ⟨-, rfl⟩
  · cases hnone.symm.trans hthere
  rcases writeOnce_eq_ok hsnd with ⟨hpay, rfl⟩ | ⟨-, rfl⟩
  · -- a payload that was there already is not written again
    obtain ⟨⟨records, hread⟩, rfl⟩ := append_eq_ok hthird
    refine ⟨filed_event hval hdig hfree hread hsto hpay rfl, ?_⟩
    rintro n found rfl
    rcases n with _ | _ | n
    · exact .inl rfl
    · exact .inr (.inr ⟨hpres, rfl⟩)
    · exact .inr (.inl (congrArg (Durable.last s) (take_of_length_le (by simp))))
  · obtain ⟨⟨records, hread⟩, rfl⟩ := append_eq_ok hthird
    generalize hheld : s.apply (.create (wakeDir envelope) .envelope envelope) = held at *
    have hkept : (held.apply (.create (wakeDir envelope) .payload payload)).artifacts
        (wakeDir envelope) .envelope = some envelope := by
      rw [artifacts_apply_create, if_neg (by simp), hsto]
    have hwr : (held.apply (.create (wakeDir envelope) .payload payload)).artifacts
        (wakeDir envelope) .payload = some payload := by
      rw [artifacts_apply_create, if_pos ⟨rfl, rfl⟩]
    have hrcds : held.records = s.records := by rw [← hheld]; rfl
    have hfree' := (conflicts_payload (wakeDir envelope) payload).trans hfree
    refine ⟨filed_event hval hdig hfree' hread hkept hwr hrcds, ?_⟩
    rintro n found rfl
    rcases n with _ | _ | _ | n
    · exact .inl rfl
    · exact .inr (.inr ⟨hpres, hrcds⟩)
    · exact .inr (.inr ⟨Option.ne_none_iff_exists'.mpr ⟨_, hkept⟩, hrcds⟩)
    · exact .inr (.inl (congrArg (Durable.last s) (take_of_length_le (by simp))))

theorem Filed.again (h : Filed env s envelope payload final) (hread : final.events = .ok records) :
    Does (pending env envelope payload) final envelope [] := by
  have hpers : persisted env final envelope payload = .ok (envelope, payload) :=
    persisted_of_events h.valid h.stored h.storedPayload h.digested hread h.recorded
      (.inr (Value.equal_self _))
  have hconf : (!final.conflicts envelope) := by rw [h.conflicts]; rfl
  rw [pending]
  refine .rescue ?_
  refine .seq (.lift h.valid) ?_
  refine .seq (.lift ((require_eq_ok (u := ())).mpr h.digested)) ?_
  refine .seq (.observe ((require_eq_ok (u := ())).mpr hconf)) ?_
  refine .seq (.observe (congrArg Except.ok h.stored)) ?_
  exact .seq (.observe hpers) (.pure _ _)

section

variable (env : Env) (envelope payload : Value) (s : Store)

/-- The store that a call leaves if it stops behind its first `n` writes. -/
def stopped (n : ℕ) : Store :=
  Durable.last s ((pending env envelope payload s).2.take n)

def retried : Store :=
  Durable.last s (pending env envelope payload s).2

/-- The call succeeds on this store, and behind it there is exactly one `resume_pending` event
of the envelope, which is recovered. -/
def Converges : Prop :=
  (pending env envelope payload s).1 = .ok envelope ∧
    (retried env envelope payload s).ledger.countP (isEvent .resumePending envelope) = 1 ∧
    Recoverable (retried env envelope payload s) envelope

end

theorem Ordered.exactly_one (h : Ordered s)
    (hrecd : s.recorded .resumePending envelope) :
    s.ledger.countP (isEvent .resumePending envelope) = 1 := by
  have hle := h.once (by decide : EventKind.resumePending ∈ successEvents) envelope
  have hpos : 0 < s.ledger.countP (isEvent .resumePending envelope) :=
    countP_pos_iff.mpr (any_eq_true.mp hrecd)
  omega

theorem Filed.converges_iff (h : Filed env s envelope payload final)
    (hbacked : Backed final) (hord : Ordered final) :
    Converges env envelope payload final ↔ ∀ field ∈ correlation envelope, field.2.Clean := by
  rw [← h.events_iff]
  constructor
  · rintro ⟨hok, -, -⟩
    obtain ⟨-, -, -, ⟨⟨found, hpers⟩, -⟩ | ⟨hnone, -⟩⟩ := pending_eq_ok hok
    · exact (persisted_eq_ok hpers).2.2
    · cases h.stored.symm.trans hnone
  · rintro ⟨records, hread⟩
    have hagain := h.again hread
    have hsame : retried env envelope payload final = final := by rw [retried, hagain]; rfl
    refine ⟨by rw [hagain], ?_, ?_⟩
    · rw [hsame]
      exact hord.exactly_one h.recorded
    · rw [hsame]
      exact recoverable_of_backed hbacked h.recorded hread

theorem Filed.first_iff (h : Filed env s envelope payload final)
    (hok : (pending env envelope payload s).1 = .ok envelope)
    (hfin : retried env envelope payload s = final) (hbacked : Backed final)
    (hord : Ordered final) :
    Converges env envelope payload s ↔ ∀ field ∈ correlation envelope, field.2.Clean := by
  rw [← h.events_iff, Converges, hfin]
  constructor
  · rintro ⟨-, -, stored, hsto, -, hrecovers⟩
    cases h.stored.symm.trans hsto
    obtain ⟨_, hrecv, -⟩ := hrecovers env h.valid
    obtain ⟨records, hread, -⟩ := Kernel.bind_eq_ok.mp hrecv
    exact ⟨records, hread⟩
  · rintro ⟨records, hread⟩
    exact ⟨hok, hord.exactly_one h.recorded, recoverable_of_backed hbacked h.recorded hread⟩

theorem not_converges (hsto : s.artifacts (wakeDir envelope) .envelope ≠ none)
    (hmiss : s.recorded .resumePending envelope = false) :
    ¬ Converges env envelope payload s := by
  rintro ⟨hok, -, -⟩
  obtain ⟨-, -, -, ⟨⟨found, hpers⟩, -⟩ | ⟨hnone, -⟩⟩ := pending_eq_ok hok
  · rw [(of_persisted hpers).2] at hmiss
    cases hmiss
  · exact hsto hnone

theorem converges_stored (hok : (pending env envelope payload s).1 = .ok envelope)
    (hws : (pending env envelope payload s).2 = [])
    (hpers : persisted env s envelope payload = .ok found) (hbacked : Backed s)
    (hord : Ordered s) : Converges env envelope payload s := by
  obtain ⟨-, hrecd, records, hread⟩ := persisted_eq_ok hpers
  have hsame : retried env envelope payload s = s := by rw [retried, hws]; rfl
  refine ⟨hok, ?_, ?_⟩
  · rw [hsame]
    exact hord.exactly_one hrecd
  · rw [hsame]
    exact recoverable_of_backed hbacked hrecd hread

end Retry

section Runs

variable {ι : Type} [DecidableEq ι] {w : World ι} {env : Env} {envelope payload : Value}

/-- **When a `pending` call can be made again**, after any run of the store. -/
theorem converges_iff (hw : Coherent w) (hbacked : Backed w.store)
    (hok : (pending env envelope payload w.store).1 = .ok envelope) (n : ℕ) :
    Converges env envelope payload (stopped env envelope payload w.store n) ↔
      ((stopped env envelope payload w.store n).artifacts (wakeDir envelope) .envelope = none ∨
        (stopped env envelope payload w.store n).recorded .resumePending envelope) ∧
      (w.store.artifacts (wakeDir envelope) .envelope = none →
        ∀ field ∈ correlation envelope, field.2.Clean) := by
  cases hsto : w.store.artifacts (wakeDir envelope) .envelope with
  | some present =>
    obtain ⟨-, -, -, ⟨⟨found, hpers⟩, hws⟩ | ⟨hnone, -⟩⟩ := pending_eq_ok hok
    · have hsame : stopped env envelope payload w.store n = w.store := by
        rw [stopped, hws, take_nil]
        rfl
      rw [hsame]
      exact iff_of_true (converges_stored hok hws hpers hbacked hw.logged.ordered)
        ⟨.inr (of_persisted hpers).2, nofun⟩
    · cases hsto.symm.trans hnone
  | none =>
    obtain ⟨hfiled, hstops⟩ := pending_files hsto hok
    -- the store that the whole call leaves is one of the run, too
    have hstep : w.step (.request env (.pending envelope payload) none) =
        some (w.write (pending env envelope payload) none) := rfl
    have hlast : Backed (retried env envelope payload w.store) := (hbacked.step hw hstep).backed
    have hord : Ordered (retried env envelope payload w.store) := (hw.step hstep).logged.ordered
    rw [imp_iff_right rfl]
    rcases hstops n _ rfl with hfst | hfin | ⟨hthere, hrcds⟩
    · have hsame : stopped env envelope payload w.store n = w.store := hfst
      rw [hsame, and_iff_right (.inl hsto)]
      exact hfiled.first_iff hok rfl hlast hord
    · have hsame : stopped env envelope payload w.store n =
          retried env envelope payload w.store := hfin
      rw [hsame, and_iff_right (.inr hfiled.recorded)]
      exact hfiled.converges_iff hlast hord
    · have hmiss : (stopped env envelope payload w.store n).recorded .resumePending envelope =
          false := by
        rw [Store.recorded, Store.ledger, show (stopped env envelope payload w.store n).records = _
          from hrcds]
        exact hw.logged.ordered.fresh (by decide) hsto
      refine iff_of_false (not_converges hthere hmiss) ?_
      rintro ⟨hnone | hrecd, -⟩
      · exact hthere hnone
      · cases hmiss.symm.trans hrecd

/-- **A `pending` call that stops and is made again.**  After any run, wherever the call stops
behind its first `n` writes: made again it succeeds, leaves one `resume_pending` event and is
recovered exactly if the stop has left no envelope or has left the event, and the event can be
read.  It is then recovered after every later run that leaves a ledger that can be read, until
it is terminal. -/
theorem pending_retry_iff {actions : List (Action ι)}
    (hrun : Run.exec World.step World.init actions = some w)
    (hok : (pending env envelope payload w.store).1 = .ok envelope) (n : ℕ) :
    (Converges env envelope payload (stopped env envelope payload w.store n) ↔
      ((stopped env envelope payload w.store n).artifacts (wakeDir envelope) .envelope = none ∨
        (stopped env envelope payload w.store n).recorded .resumePending envelope = true) ∧
      (w.store.artifacts (wakeDir envelope) .envelope = none →
        ∀ field ∈ correlation envelope, field.2.Clean)) ∧
    (Converges env envelope payload (stopped env envelope payload w.store n) →
      ∀ (later : List (Action ι)) (u : World ι),
        Run.exec World.step w (.request env (.pending envelope payload) (some n) ::
          .request env (.pending envelope payload) none :: later) = some u →
        ∀ records, u.store.events = .ok records → Recoverable u.store envelope) := by
  obtain ⟨hw, hgrown⟩ := Backed.run backed_empty coherent_init hrun
  refine ⟨converges_iff hw hgrown.backed hok n, ?_⟩
  rintro ⟨-, hone, -⟩ later u hlater records hread
  obtain ⟨w₁, hfirst, hlater⟩ := Run.exec_cons.mp hlater
  obtain ⟨w₂, hsecond, hlater⟩ := Run.exec_cons.mp hlater
  have hstopped := hgrown.backed.step hw hfirst
  have hretried := hstopped.backed.step (hw.step hfirst) hsecond
  have hcoherent := (hw.step hfirst).step hsecond
  cases hfirst
  cases hsecond
  have hrecorded : (retried env envelope payload (stopped env envelope payload w.store n)).recorded
      .resumePending envelope :=
    any_eq_true.mpr (countP_pos_iff.mp (by rw [hone]; decide))
  obtain ⟨-, hkept⟩ := Backed.run hretried.backed hcoherent hlater
  exact recoverable_of_backed hkept.backed (hkept.recorded _ _ hrecorded) hread

end Runs

theorem stopped_behind_event {env : Env} {envelope payload : Value}
    (h : Ready env envelope payload) :
    stopped env envelope payload Store.empty 3 = pendingStore envelope payload := by
  have hdoes : pending env envelope payload Store.empty = _ := does_pending h
  rw [stopped, hdoes]
  rfl

/-- The sample, stopped behind its last write and called again. -/
theorem pending_retry_sample : Converges sampleEnv sampleEnvelope samplePayload
        (stopped sampleEnv sampleEnvelope samplePayload Store.empty 3) ∧
      ∀ later (u : World ℕ), Run.exec World.step World.init
          (.request sampleEnv (.pending sampleEnvelope samplePayload) (some 3) ::
            .request sampleEnv (.pending sampleEnvelope samplePayload) none :: later) = some u →
        ∀ records, u.store.events = .ok records → Recoverable u.store sampleEnvelope := by
  have hok : (pending sampleEnv sampleEnvelope samplePayload Store.empty).1 =
      .ok sampleEnvelope := congrArg Prod.fst (does_pending ready_sample)
  obtain ⟨hiff, hlater⟩ := pending_retry_iff (w := (World.init : World ℕ)) (Run.exec_nil _) hok 3
  have hrecorded : (stopped sampleEnv sampleEnvelope samplePayload Store.empty 3).recorded
      .resumePending sampleEnvelope = true := by
    rw [stopped_behind_event ready_sample]
    exact (held_pendingStore ready_sample).pending
  have hconverges := hiff.mpr ⟨.inr hrecorded, fun _ => clean_correlation clean_sample⟩
  exact ⟨hconverges, hlater hconverges⟩

theorem rejecting_raises {s : Store} {envelope : Value}
    {message : String} (hcall : call s = (.error (.continuation message), []))
    (hread : s.events = .ok records) (hobj : envelope.isObject) :
    (rejecting envelope durable call s).1 = .error (.continuation message) := by
  have happ := append_completes hobj hread .continuationRejected (.reason message)
  rw [rejecting, Durable.rescue, hcall]
  cases durable with
  | false => rfl
  | true =>
    simp only [if_true]
    rw [last_nil, Durable.bind_of_ok happ]
    rfl

theorem stopped_behind_envelope {env : Env} {envelope payload : Value}
    (h : Ready env envelope payload) : stopped env envelope payload Store.empty 1 =
      Store.empty.apply (.create (wakeDir envelope) .envelope envelope) := by
  have hdoes : pending env envelope payload Store.empty = _ := does_pending h
  rw [stopped, hdoes]
  rfl

/-- A call that has stopped behind the envelope cannot be made again. -/
theorem pending_raises {env : Env} {s : Store} {envelope payload : Value}
    (h : Ready env envelope payload) (hconf : s.conflicts envelope = false)
    (hread : s.events = .ok records)
    (hsto : s.artifacts (wakeDir envelope) .envelope = some envelope)
    (hmiss : s.artifacts (wakeDir envelope) .payload = none) :
    (pending env envelope payload s).1 =
      .error (.continuation "persisted resume_pending envelope or payload is missing") := by
  have hpers : persisted env s envelope payload =
      .error (.continuation "persisted resume_pending envelope or payload is missing") := by
    rw [persisted, h.valid, hsto, hmiss]
    rfl
  refine rejecting_raises ?_ hread h.object
  refine (bind_of_pure (congrArg (·, []) h.valid)).trans ?_
  refine (bind_of_pure (congrArg (·, []) ((require_eq_ok (u := ())).mpr h.payload))).trans ?_
  refine (bind_of_pure (congrArg (·, []) ((require_eq_ok (u := ())).mpr
    (by rw [hconf]; rfl)))).trans ?_
  refine (bind_of_pure (congrArg (fun found => (Except.ok found, [])) hsto)).trans ?_
  exact Durable.bind_of_error (congrArg (·, []) hpers)

/-- The sample, stopped behind the envelope: the same call raises. -/
theorem pending_stopped_behind_envelope :
    (pending sampleEnv sampleEnvelope samplePayload Store.empty).1 = .ok sampleEnvelope ∧
      (pending sampleEnv sampleEnvelope samplePayload
          (stopped sampleEnv sampleEnvelope samplePayload Store.empty 1)).1 =
        .error (.continuation "persisted resume_pending envelope or payload is missing") := by
  rw [stopped_behind_envelope ready_sample]
  refine ⟨congrArg Prod.fst (does_pending ready_sample),
    pending_raises ready_sample (conflicts_create rfl) rfl ?_ ?_⟩
  · rw [artifacts_apply_create, if_pos ⟨rfl, rfl⟩]
  · rw [artifacts_apply_create, if_neg (by simp)]
    rfl

/-! ### A superseded envelope -/

section Superseded

variable {env : Env} {s : Store} {e r : Value} {given : Value} {found : Value × Value}

/-- The store has the envelope under its wake, and its supersession. -/
structure Superseded (s : Store) (e : Value) : Prop where
  stored : ∃ present, s.artifacts (wakeDir e) .envelope = some present ∧ present.equal e
  recorded : s.recorded .continuationSuperseded e

theorem superseded_of_supersede {generation : Int} {reason : String} {v : Value}
    (h : (supersede env e generation reason s).1 = .ok v) :
    Superseded (Durable.last s (supersede env e generation reason s).2) e := by
  obtain ⟨writes, hws⟩ : ∃ writes, supersede env e generation reason s = (.ok v, writes) :=
    ⟨_, Prod.ext h rfl⟩
  rw [hws]
  obtain ⟨own, -, hcall⟩ := lift_bind_eq_ok.mp hws
  split at hcall
  · cases congrArg Prod.fst hcall
  obtain ⟨found, hfnd, happ⟩ := observe_bind_eq_ok.mp hcall
  simp only [(append_eq_ok happ).2, Durable.last_cons, last_nil]
  have hsto := (persisted_eq_ok hfnd).1
  exact ⟨hsto, recorded_next _ _⟩

section Replacement

variable (h : Superseded s e) (hwake : r.get "wake_id" = e.get "wake_id")
  (hgeneration : (r.get "continuation_generation").equal (e.get "continuation_generation") = false)

include h hwake hgeneration

theorem Superseded.not_persisted : persisted env s r given ≠ .ok found := by
  intro hok
  obtain ⟨present, hpres, hreplacement⟩ := (persisted_eq_ok hok).1
  obtain ⟨stored, hsto, hsame⟩ := h.stored
  have hdir : wakeDir r = wakeDir e := by rw [wakeDir, wakeDir, hwake]
  obtain rfl : stored = present := Option.some_inj.mp (hsto.symm.trans (hdir ▸ hpres))
  have heql : r.equal e := Value.equal_iff.mpr
    ((Value.equal_iff.mp hreplacement).symm.trans (Value.equal_iff.mp hsame))
  exact Bool.false_ne_true (hgeneration.symm.trans (Value.equal_get heql _))

theorem Superseded.pending_ne_ok {payload v : Value} : (pending env r payload s).1 ≠ .ok v := by
  intro hok
  have hcall := rejecting_eq_ok hok
  simp only [artifact, lift_bind_eq_ok, observe_bind_eq_ok] at hcall
  obtain ⟨_, -, _, -, _, -, found, hfnd, hrest⟩ := hcall
  cases hfnd
  obtain ⟨stored, hsto, -⟩ := h.stored
  have hdir : wakeDir r = wakeDir e := by rw [wakeDir, wakeDir, hwake]
  rw [hdir, hsto, observe_bind_eq_ok] at hrest
  obtain ⟨pair, hpers, -⟩ := hrest
  exact h.not_persisted hwake hgeneration hpers

theorem Superseded.rejecting_ne_ok {f : Value × Value → Op α} {a : α} :
    ((rejecting r true (Durable.observe fun s => persisted env s r given) >>= f) s).1 ≠ .ok a := by
  intro hok
  obtain ⟨pair, _, _, hfst, -⟩ := bind_eq_ok.mp (Prod.ext hok rfl)
  have hcall := rejecting_eq_ok (congrArg Prod.fst hfst)
  exact h.not_persisted hwake hgeneration (congrArg Prod.fst hcall)

/-- **A superseded envelope keeps its wake**: no method accepts an envelope of another
generation under it, and `recover_pending` no longer lists the superseded one. -/
theorem supersession_keeps_wake :
    (∀ payload v, (pending env r payload s).1 ≠ .ok v) ∧
      (∀ payload existing, (receive env r payload s).1 ≠ .ok existing) ∧
      (∀ v, (claim env r s).1 ≠ .ok v) ∧
      (∀ calls invoke reconcile v, (consume calls r invoke reconcile s).1 ≠ .ok v) ∧
      ∀ recovered, recoverPending env s = .ok recovered →
        ∀ found ∈ recovered, correlates found.1 e = false := by
  have hclaim : ∀ env v, (claim env r s).1 ≠ .ok v :=
    fun _ _ => h.rejecting_ne_ok hwake hgeneration
  refine ⟨fun _ _ => h.pending_ne_ok hwake hgeneration,
    fun _ _ => h.rejecting_ne_ok hwake hgeneration, hclaim env, ?_, ?_⟩
  · intro calls invoke reconcile v hok
    obtain ⟨accepted, _, _, hfirst, -⟩ := bind_eq_ok.mp (Prod.ext hok rfl)
    exact hclaim _ accepted (congrArg Prod.fst hfirst)
  · intro recovered hrecovered found hfound
    by_contra hsame
    have hopen := (resumable_of_recoverPending hrecovered hfound).2
    rw [recorded_congr (Bool.not_eq_false _ ▸ hsame), h.recorded] at hopen
    cases hopen

end Replacement

theorem supersede_completes {payload : Value} {own generation : Int} (h : Held env s e payload)
    (hown : intOrZero (e.get "continuation_generation") = .ok own) (hlt : own < generation)
    (reason : String) : Does (supersede env e generation reason) s
      (s.next .continuationSuperseded e (.supersession generation reason)).value
      [.event (s.next .continuationSuperseded e (.supersession generation reason))] := by
  refine .seq (.lift hown) ?_
  rw [if_neg hlt.not_ge]
  exact .seq (.observe (h.persisted (.inl rfl)))
    (append_completes h.ready.object h.events _ _)

/-- The sample in a later generation. -/
def sampleReplacement : Value :=
  .dict (sampleFields.map fun field =>
    if field.1 = "continuation_generation" then (field.1, .int 2) else field)
    (by simp [sampleFields])

def supersededStore : Store :=
  Durable.last (pendingStore sampleEnvelope samplePayload)
    (supersede sampleEnv sampleEnvelope 2 "replaced" (pendingStore sampleEnvelope samplePayload)).2

theorem supersede_sample : ∃ v, (supersede sampleEnv sampleEnvelope 2 "replaced"
    (pendingStore sampleEnvelope samplePayload)).1 = .ok v := by
  have hgeneration : sampleEnvelope.get "continuation_generation" = .int 1 :=
    get_sample (by simp [sampleFields])
  have hown : intOrZero (sampleEnvelope.get "continuation_generation") = .ok 1 := by
    rw [hgeneration]
    rfl
  exact ⟨_, congrArg Prod.fst (supersede_completes (held_pendingStore ready_sample) hown
    (by decide) "replaced")⟩

theorem superseded_sample : Superseded supersededStore sampleEnvelope := by
  obtain ⟨v, hv⟩ := supersede_sample
  exact superseded_of_supersede hv

theorem wake_replacement : sampleReplacement.get "wake_id" = sampleEnvelope.get "wake_id" :=
  rfl

theorem generation_replacement : (sampleReplacement.get "continuation_generation").equal
    (sampleEnvelope.get "continuation_generation") = false := by
  decide +kernel

/-- The superseded sample, and its replacement. -/
theorem supersession_keeps_wake_sample :
    (∀ v, (claim sampleEnv sampleReplacement supersededStore).1 ≠ .ok v) ∧
      ∀ recovered, recoverPending sampleEnv supersededStore = .ok recovered →
        ∀ found ∈ recovered, correlates found.1 sampleEnvelope = false :=
  have h := supersession_keeps_wake superseded_sample wake_replacement generation_replacement
  ⟨h.2.2.1, h.2.2.2.2⟩

/-- A valid replacement with the wake and the target of the superseded sample is refused. -/
theorem replacement_refused :
    (pending sampleEnv sampleEnvelope samplePayload Store.empty).1 = .ok sampleEnvelope ∧
      (∃ v, (supersede sampleEnv sampleEnvelope 2 "replaced"
        (pendingStore sampleEnvelope samplePayload)).1 = .ok v) ∧
      validateEnvelope sampleEnv sampleReplacement = .ok () ∧
      sampleReplacement.get "wake_id" = sampleEnvelope.get "wake_id" ∧
      sampleReplacement.get "target" = sampleEnvelope.get "target" ∧
      sampleReplacement.get "continuation_generation" = .int 2 ∧
      ∀ payload v, (pending sampleEnv sampleReplacement payload supersededStore).1 ≠ .ok v :=
  ⟨congrArg Prod.fst (does_pending ready_sample), supersede_sample, by decide +kernel,
    wake_replacement, rfl, rfl,
    fun _ _ => superseded_sample.pending_ne_ok wake_replacement generation_replacement⟩

end Superseded

end Valp.Continuation
