/-
Calls for a continuation that has ended (`TERMINAL_EVENTS` of `valp_cli/continuation.py`).

`recover_pending` leaves out an envelope with a terminal event, and it is the only method that
looks at all three of them: `receive`, `claim` and `consume` go on with an envelope that was
failed or superseded.  Here the calls come one after the other.

* `terminal_continuations_stay` — **if only such envelopes are received, claimed and consumed,
  nothing goes on behind a terminal event.**
-/
import Valp.ContinuationRuns

namespace Valp.Continuation

open Json (Value)
open Durable (Follows)

/-! ### Recovery -/

/-- Whether a terminal event of the envelope is in the ledger. -/
def Store.terminal (s : Store) (envelope : Value) : Bool :=
  terminalEvents.any fun kind => s.recorded kind envelope

/-- The loop of `recover_pending` over the directories of the wakes. -/
def recoverFrom (env : Env) (s : Store) (events : List Value) :
    List String → Except Fault (List (Value × Value))
  | [] => .ok []
  | wake :: wakes =>
    match s.artifacts wake .envelope with
    | none => recoverFrom env s events wakes
    | some envelope =>
      match persisted env s envelope .null with
      | .error (.continuation _) => recoverFrom env s events wakes
      | .error fault => .error fault
      | .ok (_, payload) =>
        if terminalEvents.any fun kind => events.any (isEvent kind envelope) then
          recoverFrom env s events wakes
        else do
          let recovered ← recoverFrom env s events wakes
          .ok ((envelope, payload) :: recovered)

def recoverPending (env : Env) (s : Store) : Except Fault (List (Value × Value)) := do
  let events ← s.events
  recoverFrom env s events (s.wakes.insertionSort (· ≤ ·))

/-- The envelope was neither failed nor superseded. -/
def Store.Resumable (s : Store) (envelope : Value) : Prop :=
  s.recorded .continuationFailed envelope = false ∧
    s.recorded .continuationSuperseded envelope = false

instance (s : Store) (envelope : Value) : Decidable (s.Resumable envelope) :=
  inferInstanceAs (Decidable (_ ∧ _))

variable {recovered : List (Value × Value)} {found : Value × Value}

theorem terminal_of_recoverFrom {env : Env} {s : Store} {events : List Value}
    {wakes : List String}
    (h : recoverFrom env s events wakes = .ok recovered)
    (hfnd : found ∈ recovered) :
    (terminalEvents.any fun kind => events.any (isEvent kind found.1)) = false := by
  induction wakes generalizing recovered with
  | nil =>
    cases h
    cases hfnd
  | cons wake wakes ih =>
    rw [recoverFrom] at h
    split at h
    · exact ih h hfnd
    split at h
    · exact ih h hfnd
    · cases h
    split at h
    · exact ih h hfnd
    rename_i hopen
    obtain ⟨rest, hrest, h⟩ := Kernel.bind_eq_ok.mp h
    cases h
    rcases List.mem_cons.mp hfnd with rfl | hlat
    · exact Bool.eq_false_iff.mpr hopen
    · exact ih hrest hlat

/-- **What `recover_pending` gives was neither failed nor superseded.** -/
theorem resumable_of_recoverPending {env : Env} {s : Store}
    (h : recoverPending env s = .ok recovered)
    (hfnd : found ∈ recovered) : s.Resumable found.1 := by
  obtain ⟨events, hread, hloop⟩ := Kernel.bind_eq_ok.mp h
  have hnone := terminal_of_recoverFrom hloop hfnd
  simp only [terminalEvents, List.any_cons, List.any_nil, Bool.or_false, any_of_events hread,
    Bool.or_eq_false_iff] at hnone
  exact ⟨hnone.2.1, hnone.2.2⟩

/-! ### Calls one after the other -/

inductive Invocation where
  | request (env : Env) (request : Request)
  | consume (env : ConsumeEnv) (envelope : Value) (invoke : Outcome) (reconcile : Option Outcome)

def Invocation.run : Invocation → Op Value
  | .request env r => r.run env
  | .consume env envelope invoke reconcile => Continuation.consume env envelope invoke reconcile

def Invocation.kinds : Invocation → List EventKind
  | .request _ r => r.kinds
  | .consume _ _ _ _ => consumeKinds

def Invocation.envelope : Invocation → Value
  | .request _ r => r.envelope
  | .consume _ envelope _ _ => envelope

/-- What a call writes, with the starts of providers. -/
def Invocation.writes (s : Store) (call : Invocation) : List Write :=
  (call.run s).2.map Prod.fst

/-- One call, whether it returns or raises. -/
def Invocation.step (s : Store) (call : Invocation) : Option Store :=
  some (Durable.last s (call.run s).2)

/-- The stages behind the first one. -/
def laterStages : List EventKind :=
  [.resumeReceived, .digestVerified, .resumeAccepted, .continuationStarted, .resumeConsumed]

/-- A write that goes on with the envelope: a start of its provider or one of its later
stages. -/
def continues (envelope : Value) : Write → Bool
  | .invoke invoked => correlates invoked envelope
  | .event event => laterStages.contains event.kind && correlates event.envelope envelope
  | _ => false

/-- The call goes on with no envelope that has ended before it. -/
def Quiet (s : Store) (call : Invocation) : Prop :=
  ∀ envelope, s.terminal envelope = true → ∀ w ∈ call.writes s, continues envelope w = false

/-- `receive`, `claim` and `consume` are called for an envelope that was neither failed nor
superseded. -/
def Prudent (s : Store) : Invocation → Prop
  | .request _ (.receive envelope _) => s.Resumable envelope
  | .request _ (.claim envelope) => s.Resumable envelope
  | .consume _ envelope _ _ => s.Resumable envelope
  | _ => True

section Terminal

variable {s : Store} {call : Invocation} {kinds : List EventKind} {envelope : Value} {w : Write}

/-- What a call may write, with the start of the provider by a call that consumes. -/
def Sanctioned (kinds : List EventKind) (envelope : Value) (s : Store) (w : Write) : Prop :=
  Permitted kinds envelope s w ∨ .resumeConsumed ∈ kinds ∧ w = .invoke envelope ∧
    s.recorded .resumeConsumed envelope = false

theorem Ordered.sanctioned (h : Ordered s) (hw : Sanctioned kinds envelope s w) :
    Ordered (s.apply w) := by
  rcases hw with hperm | ⟨-, rfl, -⟩
  · exact h.apply hperm
  · exact h

theorem recorded_congr {e f : Value} (h : correlates e f) (kind : EventKind) :
    s.recorded kind e = s.recorded kind f := by
  have hevs : isEvent kind e = isEvent kind f := funext fun _ => isEvent_congr h
  rw [Store.recorded, Store.recorded, hevs]

theorem Ordered.recorded_of_consumed (h : Ordered s)
    (hcons : s.recorded .resumeConsumed envelope) {kind : EventKind}
    (hkind : kind ∈ successEvents) : s.recorded kind envelope := by
  have hch := chain_complete (h.stages envelope) ((mem_stages (by decide)).mpr hcons)
  rw [← mem_stages hkind, hch]
  exact hkind

theorem continues_of_follows {writes : List (Write × Store)} (hord : Ordered s)
    (hresumable : (∃ kind ∈ kinds, kind ∈ laterStages) → s.Resumable envelope)
    (hfol : Follows (fun w s => s.apply w) (Sanctioned kinds envelope) s writes)
    {ended : Value} (hended : s.terminal ended) (hw : w ∈ writes.map Prod.fst) :
    continues ended w = false := by
  -- a resumable envelope that has ended was consumed, and stays so
  have hcons : ∀ kind ∈ kinds, kind ∈ laterStages → correlates envelope ended →
      s.recorded .resumeConsumed envelope := by
    intro kind hkind hlat hcorr
    obtain ⟨hfail, hsup⟩ := hresumable ⟨kind, hkind, hlat⟩
    simpa [Store.terminal, terminalEvents, ← recorded_congr hcorr, hfail, hsup]
      using hended
  obtain ⟨d, ⟨hd, hkept⟩, hsanctioned⟩ := hfol.mem
    (I := fun d => Ordered d ∧
      (s.recorded .resumeConsumed envelope → d.recorded .resumeConsumed envelope))
    (fun d w hd hw => ⟨hd.1.sanctioned hw, fun h => recorded_apply w (hd.2 h)⟩)
    ⟨hord, id⟩ hw
  rw [← Bool.not_eq_true]
  intro hcontinues
  rcases hsanctioned with hperm | ⟨hkind, rfl, hopen⟩
  · cases w with
    | event event =>
      obtain ⟨hkind, rfl, -, hdue⟩ := hperm
      obtain ⟨hlat, hcorr⟩ := Bool.and_eq_true_iff.mp hcontinues
      have hlat : event.kind ∈ laterStages := List.contains_iff_mem.mp hlat
      have hsuccess : event.kind ∈ successEvents := List.mem_cons_of_mem _ hlat
      have hthere := hd.recorded_of_consumed
        (hkept (hcons _ hkind hlat hcorr)) hsuccess
      rw [(hdue hsuccess).fresh] at hthere
      cases hthere
    | invoke invoked => exact hperm
    | create wake file value => cases hcontinues
    | unlink wake => cases hcontinues
    | register capability => cases hcontinues
  · have hthere := hkept (hcons _ hkind (by decide) hcontinues)
    cases hopen.symm.trans hthere

theorem Invocation.follows (h : Ordered s) (call : Invocation) :
    Follows (fun w s => s.apply w) (Sanctioned call.kinds call.envelope) s (call.run s).2 := by
  cases call with
  | request env request => exact (request.ensures h env).writes.mono fun _ _ => .inl
  | consume env envelope invoke reconcile =>
    have hensures : Durable.Ensures (fun w s => s.apply w) (ConsumePermitted envelope)
      (Continuation.consume env envelope invoke reconcile) s fun _ _ => True := consume_ensures
    refine hensures.writes.mono ?_
    rintro d w (hw | ⟨rfl, hopen⟩)
    · exact .inl hw
    · exact .inr ⟨by simp [Invocation.kinds, consumeKinds], rfl, hopen⟩

theorem Prudent.resumable (h : Prudent s call) (hlat : ∃ kind ∈ call.kinds, kind ∈ laterStages) :
    s.Resumable call.envelope := by
  cases call with
  | consume env envelope invoke reconcile => exact h
  | request env request =>
    cases request with
    | receive envelope payload => exact h
    | claim envelope => exact h
    | _ => exact absurd hlat (by simp [Invocation.kinds, Request.kinds, laterStages])

theorem Ordered.step (h : Ordered s) {t : Store} (hstep : call.step s = some t) : Ordered t := by
  cases hstep
  exact (call.follows h).keeps (I := fun d _ => Ordered d)
    (fun _ _ _ hd hw => hd.sanctioned hw) [] h List.prefix_rfl

end Terminal

/-- **Terminal continuations stay terminal**, in every sequence of calls in which `receive`,
`claim` and `consume` are called for envelopes that were neither failed nor superseded. -/
theorem terminal_continuations_stay {calls : List Invocation} {s : Store}
    (h : Run.exec Invocation.step Store.empty calls = some s)
    (hprudent : ∀ p ∈ Run.trace Invocation.step Store.empty calls, Prudent p.1 p.2.1) :
    ∀ p ∈ Run.trace Invocation.step Store.empty calls, Quiet p.1 p.2.1 := by
  obtain ⟨-, hordered⟩ := Run.exec_guarded (C := fun _ _ => True)
    (fun _ _ _ hu _ hstep => Ordered.step hu hstep) ordered_empty h fun _ _ => trivial
  intro p hp ended hended w hw
  exact continues_of_follows (hordered p hp) (hprudent p hp).resumable
    (p.2.1.follows (hordered p hp)) hended hw

/-! ### Samples -/

section Samples

variable {a : Value} {writes : List Write}

theorem step_of_does {s : Store} {call : Invocation}
    (h : Does call.run s a writes) : call.step s = some (s.after writes) := by
  rw [Invocation.step, h, Durable.last_trail]
  rfl

variable {env : Env} {envelope payload : Value}

theorem step_request_of_does {s : Store} {request : Request}
    (h : Does (request.run env) s a writes) :
    (Invocation.request env request).step s = some (s.after writes) :=
  step_of_does h

/-- The store behind `fail`. -/
def failedStore (s : Store) (envelope : Value) (reason : String) : Store :=
  s.apply (.event (s.next .continuationFailed envelope (.reason reason)))

theorem step_fail {s : Store} (h : Held env s envelope payload) (reason : String) :
    (Invocation.request env (.fail envelope reason)).step s =
      some (failedStore s envelope reason) := by
  have hdoes : Does ((Request.fail envelope reason).run env) s _ _ := fail_completes h reason
  exact step_request_of_does hdoes

theorem terminal_failedStore (s : Store) (envelope : Value) (reason : String) :
    (failedStore s envelope reason).terminal envelope := by
  have hfail : (failedStore s envelope reason).recorded .continuationFailed envelope :=
    recorded_next _ _
  simp [Store.terminal, terminalEvents, hfail]

end Samples

/-- A second `pending` of an envelope that was failed is quiet. -/
theorem terminal_continuations_stay_sample : ∃ p ∈ Run.trace Invocation.step Store.empty
        [.request sampleEnv (.pending sampleEnvelope samplePayload),
          .request sampleEnv (.fail sampleEnvelope "lost"),
          .request sampleEnv (.pending sampleEnvelope samplePayload)],
      p.1.terminal sampleEnvelope = true ∧ Quiet p.1 p.2.1 := by
  have hfirst : Invocation.step Store.empty
      (.request sampleEnv (.pending sampleEnvelope samplePayload)) =
        some (pendingStore sampleEnvelope samplePayload) :=
    step_request_of_does (does_pending ready_sample)
  have hsecond := step_fail (held_pendingStore ready_sample) "lost"
  obtain ⟨t, hthird⟩ : ∃ t, (Invocation.request sampleEnv
      (.pending sampleEnvelope samplePayload)).step
        (failedStore (pendingStore sampleEnvelope samplePayload) sampleEnvelope "lost") = some t :=
    ⟨_, rfl⟩
  have hrun : Run.exec Invocation.step Store.empty
      [.request sampleEnv (.pending sampleEnvelope samplePayload),
        .request sampleEnv (.fail sampleEnvelope "lost"),
        .request sampleEnv (.pending sampleEnvelope samplePayload)] = some t :=
    Run.exec_cons.mpr ⟨_, hfirst, Run.exec_cons.mpr ⟨_, hsecond, Run.exec_cons.mpr
      ⟨_, hthird, Run.exec_nil t⟩⟩⟩
  have hquiet := terminal_continuations_stay hrun
  simp only [Run.trace, hfirst, hsecond, hthird, List.forall_mem_cons] at hquiet ⊢
  obtain ⟨-, -, hlast, -⟩ := hquiet ⟨trivial, trivial, trivial, fun _ h => by cases h⟩
  exact ⟨_, List.mem_cons_of_mem _ (List.mem_cons_of_mem _ (List.mem_cons_self ..)),
    terminal_failedStore _ _ _, hlast⟩

/-- An envelope that is failed between `receive` and `consume` is claimed and handed to the
provider. -/
theorem exec_failed {env : Env} {envelope payload capability receipt : Value}
    (h : Served env envelope payload capability receipt) (outcome : Outcome) :
    ∃ s, Run.exec Invocation.step Store.empty
        [.request env (.pending envelope payload), .request env (.receive envelope payload),
          .request env (.registerCapability capability), .request env (.fail envelope "lost")] =
            some s ∧
      s.terminal envelope ∧
      Write.invoke envelope ∈
        (Invocation.consume ⟨env, env, env, env⟩ envelope outcome none).writes s := by
  have hserved : Held env (servedStore envelope payload capability) envelope payload :=
    held_servedStore h.ready
  have hrsn : (Extra.reason "lost").Clean := by
    intro field hfld
    rw [List.mem_singleton.mp hfld, Value.clean_str_iff]
    decide
  refine ⟨_, Run.exec_cons.mpr ⟨_, step_request_of_does (does_pending h.ready),
    Run.exec_cons.mpr ⟨_, step_request_of_does (does_receive h.ready),
    Run.exec_cons.mpr ⟨_, step_request_of_does (does_register h.registered),
    Run.exec_cons.mpr ⟨_, step_fail hserved "lost", rfl⟩⟩⟩⟩, terminal_failedStore _ _ _, ?_⟩
  -- the claim and the section that leaves the marker do not look at the failure
  have hfail : Held env (failedStore (servedStore envelope payload capability) envelope "lost")
      envelope payload := hserved.next .continuationFailed hrsn
  have hrecd : ∀ kind, kind ≠ .continuationFailed →
      (failedStore (servedStore envelope payload capability) envelope "lost").recorded kind
        envelope = decide (kind ∈ [.resumePending, .resumeReceived, .digestVerified]) := by
    intro kind hkind
    rw [failedStore, recorded_apply_event]
    show ((receivedStore envelope payload).recorded kind envelope || _) = _
    rw [recorded_receivedStore]
    simp [Store.next, hkind]
  have hnone : ∀ event ∈ (failedStore (servedStore envelope payload capability) envelope
      "lost").records, event.kind ≠ .resumeAccepted :=
    List.forall_mem_append.mpr
      ⟨kind_servedStore, List.forall_mem_singleton.mpr (by simp [Store.next])⟩
  have hclm := claim_completes hfail hnone (hrecd _ (by decide))
  have hclmd := hfail.next .resumeAccepted Extra.clean_none
  have henter : Does (enter env envelope false) _ (.invoke capability) _ :=
    enter_completes hclmd h.matching ((recorded_apply_event _ _).trans (by
      rw [hrecd _ (by decide)]
      simp)) (artifacts_pendingStore (by decide) (by decide))
      (artifacts_pendingStore (by decide) (by decide))
  exact hclm.mem_bind (henter.mem_bind (List.mem_cons_self ..))

/-- A continuation that was failed before it was claimed is claimed and its provider started. -/
theorem failed_continuation_goes_on : ∃ s, Run.exec Invocation.step Store.empty
        [.request sampleEnv (.pending sampleEnvelope samplePayload),
          .request sampleEnv (.receive sampleEnvelope samplePayload),
          .request sampleEnv (.registerCapability sampleCapability),
          .request sampleEnv (.fail sampleEnvelope "lost")] = some s ∧
      s.terminal sampleEnvelope = true ∧
      Write.invoke sampleEnvelope ∈ (Invocation.consume
        ⟨sampleEnv, sampleEnv, sampleEnv, sampleEnv⟩ sampleEnvelope (.returns sampleReceipt)
          none).writes s :=
  exec_failed served_sample (.returns sampleReceipt)

end Valp.Continuation
