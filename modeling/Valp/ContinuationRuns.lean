/-
Processes on one continuation store (`ContinuationStore.consume` and the other methods).

Every method but `consume` is one locked section, so it is one action here.  A `consume` call
is a sequence of sections and of work outside the lock: its claim, the section that leaves the
in-flight marker, the start of the provider, the end of a callback, and its last section.  Any
number of calls may be between two of their parts, and a process may stop inside a section,
behind any of its writes, or between two sections.  The log keeps every write and every start
of a provider.

* `Coherent.step` — **what every action keeps**: a call that is about to start the provider is
  the only one for its wake, and the marker or the receipt of that wake is there;
* `consume_completes` — **an envelope that nobody disturbs is consumed**: the provider is
  started once, its receipt is returned and the ledger holds the whole success chain;
* `continuation_event_order` — the order of the ledger after any run;
* `continuation_at_most_once` — one start, one receipt, and one end for each envelope.
-/
import Valp.ContinuationProgress

namespace Valp.Continuation

open Function (update_self)
open Json (Value)
open Run (exec exec_cons exec_invariant)
open List

/-! ### The machine -/

/-- The methods that take the lock once. -/
inductive Request where
  | pending (envelope payload : Value)
  | receive (envelope payload : Value)
  | claim (envelope : Value)
  | fail (envelope : Value) (reason : String)
  | reject (envelope : Value) (reason : String)
  | supersede (envelope : Value) (generation : Int) (reason : String)
  | registerCapability (capability : Value)

def Request.run (env : Env) : Request → Op Value
  | .pending envelope payload => Continuation.pending env envelope payload
  | .receive envelope payload => do
    let _ ← Continuation.receive env envelope payload
    pure envelope
  | .claim envelope => Continuation.claim env envelope
  | .fail envelope reason => Continuation.fail env envelope reason
  | .reject envelope reason => Continuation.reject env envelope reason
  | .supersede envelope generation reason => Continuation.supersede env envelope generation reason
  | .registerCapability capability => Continuation.registerCapability env capability

def Request.kinds : Request → List EventKind
  | .pending _ _ => [.continuationRejected, .resumePending]
  | .receive _ _ => [.continuationRejected, .resumeReceived, .digestVerified]
  | .claim _ => [.continuationRejected, .resumeAccepted]
  | .fail _ _ => [.continuationFailed]
  | .reject _ _ => [.continuationRejected]
  | .supersede _ _ _ => [.continuationSuperseded]
  | .registerCapability _ => []

def Request.envelope : Request → Value
  | .pending envelope _ => envelope
  | .receive envelope _ => envelope
  | .claim envelope => envelope
  | .fail envelope _ => envelope
  | .reject envelope _ => envelope
  | .supersede envelope _ _ => envelope
  | .registerCapability _ => .null

/-- Where a `consume` call is between two of its parts; `reconcile` says whether it has that
callback, `reconcileOnly` whether that is the one it has called. -/
inductive Phase where
  | claimed (reconcile : Bool)
  | entered (reconcile : Bool) (capability : Value)
  | calling (reconcile reconcileOnly : Bool) (capability : Value)
  | ended (ending : Ending)

structure Call where
  envelope : Value
  phase : Phase

structure World (ι : Type) where
  store : Store
  calls : ι → Option Call
  log : List Write
  /-- The envelopes and the receipts of the `consume` calls that have returned. -/
  returned : List (Value × Value)

def World.init {ι : Type} : World ι where
  store := Store.empty
  calls _ := none
  log := []
  returned := []

inductive Action (ι : Type) where
  | request (env : Env) (request : Request) (stop : Option ℕ)
  | consume (p : ι) (env : Env) (envelope : Value) (reconcile : Bool) (stop : Option ℕ)
  | enter (p : ι) (env : Env) (stop : Option ℕ)
  | invoke (p : ι)
  | answer (p : ι) (env : Env) (outcome : Outcome)
  | settle (p : ι) (env : Env) (stop : Option ℕ)
  | stop (p : ι)

/-- The writes that a section makes; one that stops makes the first `n` of them. -/
def sectionWrites {α : Type} (s : Store) (call : Op α) (stop : Option ℕ) : List (Write × Store) :=
  match stop with
  | none => (call s).2
  | some n => (call s).2.take n

/-- What a section returns, unless it raises or stops. -/
def sectionResult {α : Type} (s : Store) (call : Op α) (stop : Option ℕ) : Option α :=
  match stop with
  | none => (call s).1.toOption
  | some _ => none

/-- A locked section: what it writes is in the store and in the log. -/
def World.write {ι α : Type} (w : World ι) (call : Op α) (stop : Option ℕ) : World ι :=
  { w with
    store := Durable.last w.store (sectionWrites w.store call stop)
    log := w.log ++ (sectionWrites w.store call stop).map Prod.fst }

section Machine

variable {ι : Type} [DecidableEq ι]

def World.setCall (w : World ι) (p : ι) (call : Option Call) : World ι :=
  { w with calls := Function.update w.calls p call }

def World.finish (w : World ι) (p : ι) (envelope receipt : Value) : World ι :=
  { w.setCall p none with returned := w.returned ++ [(envelope, receipt)] }

/-- One action; `none` where the process is not at this part of a call. -/
def World.step (w : World ι) : Action ι → Option (World ι)
  | .request env request stop => some (w.write (request.run env) stop)
  | .consume p env envelope reconcile stop =>
    match w.calls p with
    | some _ => none
    | none =>
      some ((w.write (claim env envelope) stop).setCall p
        ((sectionResult w.store (claim env envelope) stop).map
          fun _ => ⟨envelope, .claimed reconcile⟩))
  | .enter p env stop =>
    match w.calls p with
    | some ⟨envelope, .claimed reconcile⟩ =>
      let after := w.write (enter env envelope reconcile) stop
      match sectionResult w.store (enter env envelope reconcile) stop with
      | none => some (after.setCall p none)
      | some (.committed receipt) => some (after.finish p envelope receipt)
      | some (.invoke capability) =>
        some (after.setCall p (some ⟨envelope, .entered reconcile capability⟩))
      | some (.reconcileOnly capability) =>
        some (after.setCall p (some ⟨envelope, .calling reconcile true capability⟩))
    | _ => none
  | .invoke p =>
    match w.calls p with
    | some ⟨envelope, .entered reconcile capability⟩ =>
      some { w.setCall p (some ⟨envelope, .calling reconcile false capability⟩) with
        log := w.log ++ [.invoke envelope] }
    | _ => none
  | .answer p env outcome =>
    match w.calls p with
    | some ⟨envelope, .calling reconcile reconcileOnly capability⟩ =>
      some (w.setCall p (some ⟨envelope,
        .ended (ending env envelope capability reconcile reconcileOnly outcome)⟩))
    | _ => none
  | .settle p env stop =>
    match w.calls p with
    | some ⟨envelope, .ended ending⟩ =>
      let after := w.write (settle env envelope ending) stop
      match sectionResult w.store (settle env envelope ending) stop with
      | none => some (after.setCall p none)
      | some receipt => some (after.finish p envelope receipt)
    | _ => none
  | .stop p => some (w.setCall p none)

end Machine

/-! ### The store and the log -/

def starts (wake : String) : Write → Bool
  | .invoke envelope => wakeDir envelope == wake
  | _ => false

def commits (wake : String) : Write → Bool
  | .create wake' .receipt _ => wake' == wake
  | _ => false

/-- The marker or the receipt of a wake is there. -/
def Store.Marked (s : Store) (wake : String) : Prop :=
  s.artifacts wake .inflight ≠ none ∨ s.artifacts wake .receipt ≠ none

/-- The ledger is in order, and the receipts of the store are the ones that were committed. -/
structure Logged (s : Store) (log : List Write) : Prop where
  ordered : Ordered s
  receipt : ∀ wake value, .create wake .receipt value ∈ log ↔ s.artifacts wake .receipt = some value
  committed : ∀ wake, log.countP (commits wake) ≤ 1

/-- What a locked section leaves: more events, the same receipts, no start of a provider. -/
structure Advance (s : Store) (log : List Write) (s' : Store) (log' : List Write) : Prop where
  logged : Logged s' log'
  recorded : ∀ kind envelope, s.recorded kind envelope = true → s'.recorded kind envelope = true
  receipt : ∀ wake value, s.artifacts wake .receipt = some value →
    s'.artifacts wake .receipt = some value
  marked : ∀ wake, s.Marked wake → s'.Marked wake
  invoked : ∀ wake, log'.countP (starts wake) = log.countP (starts wake)

section Logs

variable {s s' : Store} {log log' : List Write} {kinds : List EventKind} {envelope : Value}
  {w : Write}

theorem commits_iff {wake : String} :
    commits wake w ↔ ∃ value, w = .create wake .receipt value := by
  cases w with
  | create wake' file value =>
    cases file <;> simp [commits]
  | _ => simp [commits]

theorem Logged.apply (h : Logged s log) (hw : Permitted kinds envelope s w) :
    Logged (s.apply w) (log ++ [w]) := by
  refine ⟨h.ordered.apply hw, fun wake value => ?_, fun wake => ?_⟩
  · rw [mem_append, mem_singleton, h.receipt]
    constructor
    · rintro (hthere | rfl)
      · exact hw.artifacts (by decide) hthere
      · rw [artifacts_apply_create, if_pos ⟨rfl, rfl⟩]
    · intro haft
      cases w with
      | create wake' file value' =>
        rw [artifacts_apply_create] at haft
        split at haft
        · rename_i heq
          obtain ⟨rfl, rfl⟩ := heq
          exact .inr (by rw [Option.some.inj haft])
        · exact .inl haft
      | unlink wake' =>
        rw [artifacts_apply_unlink, if_neg (by simp)] at haft
        exact .inl haft
      | invoke envelope' => exact hw.elim
      | _ => exact .inl haft
  · rw [countP_append, countP_singleton]
    split
    · -- a receipt is created where there is none, so none was created before
      rename_i hcom
      obtain ⟨value, rfl⟩ := commits_iff.mp hcom
      have hnone : log.countP (commits wake) = 0 := by
        rw [countP_eq_zero]
        intro w hw' hcommits
        obtain ⟨value', rfl⟩ := commits_iff.mp hcommits
        have hthere := (h.receipt wake value').mp hw'
        cases hw.2.1.symm.trans hthere
      omega
    · exact h.committed wake

theorem marked_apply (hw : Permitted kinds envelope s w) {wake : String} (h : s.Marked wake) :
    (s.apply w).Marked wake := by
  cases w with
  | create wake' file value =>
    simp only [Store.Marked, artifacts_apply_create]
    rcases h with hinflight | hrcpt
    · exact .inl (by split <;> simp_all)
    · exact .inr (by split <;> simp_all)
  | unlink wake' =>
    simp only [Store.Marked, artifacts_apply_unlink]
    by_cases hwake : wake = wake'
    · exact .inr (by simpa [hwake] using hw.2)
    · simpa [hwake, Store.Marked] using h
  | invoke envelope' => exact hw.elim
  | _ => exact h

theorem Advance.refl (h : Logged s log) : Advance s log s log :=
  ⟨h, fun _ _ h => h, fun _ _ h => h, fun _ h => h, fun _ => rfl⟩

theorem Advance.apply (h : Advance s log s' log') (hw : Permitted kinds envelope s' w) :
    Advance s log (s'.apply w) (log' ++ [w]) where
  logged := h.logged.apply hw
  recorded kind e hrecd := recorded_apply w (h.recorded kind e hrecd)
  receipt wake value hvalue := hw.artifacts (by decide) (h.receipt wake value hvalue)
  marked wake hmarked := marked_apply hw (h.marked wake hmarked)
  invoked wake := by
    have hnone : starts wake w = false := by
      cases w with
      | invoke envelope' => exact hw.elim
      | _ => rfl
    rw [countP_append, h.invoked, countP_singleton, hnone]
    simp

theorem sectionWrites_stop {α : Type} (call : Op α) (stop : Option ℕ) :
    sectionWrites s call stop <+: (call s).2 := by
  cases stop with
  | none => exact prefix_rfl
  | some n => exact take_prefix n _

theorem Advance.section {ι α : Type} {w : World ι} {call : Op α} {Q : α → Store → Prop}
    (hw : Logged w.store w.log) (hcall : Keeps kinds envelope call w.store Q) (stop : Option ℕ) :
    Advance w.store w.log (w.write call stop).store (w.write call stop).log :=
  hcall.writes.keeps (I := fun s log => Advance w.store w.log s log)
    (fun _ _ _ hI hperm => hI.apply hperm) w.log (Advance.refl hw)
    (sectionWrites_stop call stop)

theorem result_of_section {ι α : Type} {w : World ι} {call : Op α} {Q : α → Store → Prop}
    (hcall : Keeps kinds envelope call w.store Q) {stop : Option ℕ} {a : α}
    (h : sectionResult w.store call stop = some a) : Q a (w.write call stop).store := by
  cases stop with
  | none =>
    have hres : (call w.store).1 = .ok a := by
      rw [sectionResult] at h
      cases hcase : (call w.store).1 with
      | error fault =>
        rw [hcase] at h
        cases h
      | ok b =>
        rw [hcase] at h
        exact congrArg Except.ok (Option.some.inj h)
    exact hcall.result a hres
  | some n => cases h

end Logs

/-! ### The calls in flight -/

/-- The process is about to start the provider for an envelope of this wake. -/
def World.About {ι : Type} (w : World ι) (p : ι) (wake : String) : Prop :=
  ∃ envelope reconcile capability,
    w.calls p = some ⟨envelope, .entered reconcile capability⟩ ∧ wakeDir envelope = wake

structure Coherent {ι : Type} (w : World ι) : Prop where
  logged : Logged w.store w.log
  /-- A call goes on only for an envelope that it has claimed. -/
  accepted : ∀ p call, w.calls p = some call → w.store.recorded .resumeAccepted call.envelope = true
  returned : ∀ envelope receipt, (envelope, receipt) ∈ w.returned →
    w.store.artifacts (wakeDir envelope) .receipt = some receipt
  once : ∀ wake, w.log.countP (starts wake) ≤ 1
  /-- Who is about to start the provider is the first and the only one. -/
  first : ∀ p wake, w.About p wake → w.log.countP (starts wake) = 0
  alone : ∀ p q wake, w.About p wake → w.About q wake → p = q
  marked : ∀ wake, (0 < w.log.countP (starts wake) ∨ ∃ p, w.About p wake) → w.store.Marked wake

theorem coherent_init {ι : Type} : Coherent (World.init : World ι) where
  logged :=
    { ordered := ordered_empty
      receipt := fun wake value => by simp [World.init, Store.empty]
      committed := fun wake => by simp [World.init] }
  accepted p call h := by simp [World.init] at h
  returned envelope receipt h := by simp [World.init] at h
  once wake := by simp [World.init]
  first p wake h := rfl
  alone p q wake hp := by
    obtain ⟨_, _, _, h, -⟩ := hp
    simp [World.init] at h
  marked wake h := by
    rcases h with h | ⟨p, _, _, _, h, -⟩
    · simp [World.init] at h
    · simp [World.init] at h

variable {w' : World ι} {receipt : Value}

section Steps

variable {ι : Type} {w : World ι}

/-- A section behind which no call is about to start the provider, but those that were and one
whose wake the section has marked. -/
theorem Coherent.advance (h : Coherent w) {w' : World ι} {p : Option ι}
    (hadv : Advance w.store w.log w'.store w'.log)
    (hcalls : ∀ q call, w'.calls q = some call → w.calls q = some call ∨
      w'.store.recorded .resumeAccepted call.envelope)
    (habout : ∀ q wake, w'.About q wake → w.About q wake ∨
      (p = some q ∧ ¬ w.store.Marked wake ∧ w'.store.Marked wake))
    (hretd : ∀ envelope receipt, (envelope, receipt) ∈ w'.returned →
      (envelope, receipt) ∈ w.returned ∨
        w'.store.artifacts (wakeDir envelope) .receipt = some receipt) :
    Coherent w' where
  logged := hadv.logged
  accepted q call hcall := by
    rcases hcalls q call hcall with hsame | hacc
    · exact hadv.recorded _ _ (h.accepted q call hsame)
    · exact hacc
  returned envelope receipt hmem := by
    rcases hretd envelope receipt hmem with hold | hnew
    · exact hadv.receipt _ _ (h.returned envelope receipt hold)
    · exact hnew
  once wake := by
    rw [hadv.invoked]
    exact h.once wake
  first q wake hq := by
    rw [hadv.invoked]
    rcases habout q wake hq with hold | ⟨-, hunmarked, -⟩
    · exact h.first q wake hold
    · by_contra hne
      exact hunmarked (h.marked _ (.inl (Nat.pos_of_ne_zero hne)))
  alone q q' wake hq hq' := by
    rcases habout q wake hq with hold | ⟨rfl, hunmarked, -⟩
    · rcases habout q' wake hq' with hold' | ⟨-, hunmarked, -⟩
      · exact h.alone q q' wake hold hold'
      · exact absurd (h.marked wake (.inr ⟨q, hold⟩)) hunmarked
    · rcases habout q' wake hq' with hold' | ⟨hsame, -, -⟩
      · exact absurd (h.marked wake (.inr ⟨q', hold'⟩)) hunmarked
      · exact Option.some.inj hsame
  marked wake hopen := by
    rcases hopen with hstd | ⟨q, hq⟩
    · rw [hadv.invoked] at hstd
      exact hadv.marked wake (h.marked wake (.inl hstd))
    · rcases habout q wake hq with hold | ⟨-, -, hmarked⟩
      · exact hadv.marked wake (h.marked wake (.inr ⟨q, hold⟩))
      · exact hmarked

variable [DecidableEq ι] {p : ι}

theorem calls_setCall_apply (call : Option Call) (q : ι) :
    (w.setCall p call).calls q = if q = p then call else w.calls q :=
  Function.update_apply ..

theorem calls_setCall {call : Option Call} {q : ι} {found : Call}
    (h : (w.setCall p call).calls q = some found) :
    w.calls q = some found ∨ q = p ∧ call = some found := by
  rw [calls_setCall_apply] at h
  split_ifs at h with hq
  · exact .inr ⟨hq, h⟩
  · exact .inl h

variable {envelope : Value} {reconcile : Bool}

/-- A section behind which the call of `p` is over or at its next part; it is about to start the
provider only if the section has left the marker. -/
theorem Coherent.goOn (h : Coherent w) {w' : World ι}
    (hadv : Advance w.store w.log w'.store w'.log) (hcalls : w'.calls = w.calls)
    (hretd : ∀ envelope receipt, (envelope, receipt) ∈ w'.returned →
      (envelope, receipt) ∈ w.returned ∨
        w'.store.artifacts (wakeDir envelope) .receipt = some receipt) {next : Option Call}
    (hnext : ∀ found, next = some found → w'.store.recorded .resumeAccepted found.envelope ∧
      ∀ reconcile capability, found.phase = .entered reconcile capability →
        (Entered.invoke capability).Post found.envelope w.store w'.store) :
    Coherent (w'.setCall p next) := by
  refine h.advance (p := some p) hadv (fun q found hq => ?_) ?_ hretd
  · rcases calls_setCall hq with hsame | ⟨-, hnew⟩
    · exact .inl (hcalls ▸ hsame)
    · exact .inr (hnext found hnew).1
  · rintro q wake ⟨envelope, reconcile, capability, hq, rfl⟩
    rcases calls_setCall hq with hsame | ⟨rfl, hnew⟩
    · exact .inl ⟨envelope, reconcile, capability, hcalls ▸ hsame, rfl⟩
    obtain ⟨hinflight, hrcpt, hleft, -⟩ := (hnext _ hnew).2 reconcile capability rfl
    refine .inr ⟨rfl, ?_, .inl hleft⟩
    rintro (hmarker | hthere)
    · exact hmarker hinflight
    · exact hthere hrcpt

/-- The start of the provider by the one call that is about to make it. -/
theorem Coherent.invoke (h : Coherent w) {capability : Value}
    (hcall : w.calls p = some ⟨envelope, .entered reconcile capability⟩) :
    Coherent { w.setCall p (some ⟨envelope, .calling reconcile false capability⟩) with
      log := w.log ++ [.invoke envelope] } := by
  have hp : w.About p (wakeDir envelope) := ⟨envelope, reconcile, capability, hcall, rfl⟩
  have hcount : ∀ wake, (w.log ++ [Write.invoke envelope]).countP (starts wake) =
      w.log.countP (starts wake) + if wakeDir envelope = wake then 1 else 0 := by
    intro wake
    rw [countP_append, countP_singleton]
    simp [starts]
  have habout : ∀ q wake, World.About
      { w.setCall p (some ⟨envelope, .calling reconcile false capability⟩) with
        log := w.log ++ [.invoke envelope] } q wake → w.About q wake ∧ q ≠ p := by
    rintro q wake ⟨e, r, c, hq, hwake⟩
    change (w.setCall p _).calls q = _ at hq
    rw [calls_setCall_apply] at hq
    split at hq
    · cases hq
    · rename_i hne
      exact ⟨⟨e, r, c, hq, hwake⟩, hne⟩
  have hoth : ∀ q wake, w.About q wake → q ≠ p → wakeDir envelope ≠ wake := by
    rintro q _ hq hne rfl
    exact hne (h.alone q p _ hq hp)
  have hlogged : Logged w.store (w.log ++ [.invoke envelope]) :=
    { ordered := h.logged.ordered
      receipt := fun wake value => by
        rw [← h.logged.receipt]
        simp
      committed := fun wake => by
        rw [countP_append]
        exact h.logged.committed wake }
  exact
    { logged := hlogged
      accepted := fun q call hq => by
        rcases calls_setCall hq with hsame | ⟨-, hnew⟩
        · exact h.accepted q call hsame
        · have hclmd := h.accepted p _ hcall
          cases hnew
          exact hclmd
      returned := h.returned
      once := fun wake => by
        show (w.log ++ [Write.invoke envelope]).countP (starts wake) ≤ 1
        rw [hcount]
        split
        · rename_i heq
          rw [← heq, h.first p _ hp]
        · exact h.once wake
      first := fun q wake hq => by
        obtain ⟨hold, hne⟩ := habout q wake hq
        show (w.log ++ [Write.invoke envelope]).countP (starts wake) = 0
        rw [hcount, if_neg (hoth q wake hold hne), h.first q wake hold]
      alone := fun q q' wake hq hq' =>
        h.alone q q' wake (habout q wake hq).1 (habout q' wake hq').1
      marked := fun wake hopen => by
        show w.store.Marked wake
        by_cases hwake : wakeDir envelope = wake
        · exact h.marked wake (.inr ⟨p, hwake ▸ hp⟩)
        rcases hopen with hstd | ⟨q, hq⟩
        · refine h.marked wake (.inl ?_)
          have hpos : 0 < (w.log ++ [Write.invoke envelope]).countP (starts wake) := hstd
          rw [hcount, if_neg hwake] at hpos
          exact hpos
        · exact h.marked wake (.inr ⟨q, (habout q wake hq).1⟩) }

theorem Request.ensures {s : Store} (h : Ordered s) (env : Env) (request : Request) :
    Keeps request.kinds request.envelope (request.run env) s fun _ _ => True := by
  cases request with
  | pending envelope payload => exact pending_ensures h
  | receive envelope payload =>
    exact Durable.Ensures.bind receive_ensures fun _ _ _ => Durable.Ensures.pure trivial
  | claim envelope =>
    exact (claim_ensures (mem_cons_self ..) (by simp)).mono
      fun _ _ _ => trivial
  | fail envelope reason => exact fail_ensures
  | reject envelope reason => exact reject_ensures
  | supersede envelope generation reason => exact supersede_ensures
  | registerCapability capability => exact registerCapability_ensures

theorem Coherent.conclude (h : Coherent w) {w' : World ι}
    (hadv : Advance w.store w.log w'.store w'.log) (hcalls : w'.calls = w.calls)
    (hretd : w'.returned = w.returned)
    (hrcpt : w'.store.artifacts (wakeDir envelope) .receipt = some receipt) :
    Coherent (w'.finish p envelope receipt) := by
  have hpairs : ∀ e r, (e, r) ∈ w'.returned ++ [(envelope, receipt)] → (e, r) ∈ w.returned ∨
      w'.store.artifacts (wakeDir e) .receipt = some r := by
    intro e r hmem
    rcases mem_append.mp hmem with hold | hnew
    · exact .inl (hretd ▸ hold)
    · cases mem_singleton.mp hnew
      exact .inr hrcpt
  show Coherent (World.setCall { w' with returned := w'.returned ++ [(envelope, receipt)] } p none)
  refine h.goOn ?_ ?_ hpairs nofun
  · exact hadv
  · exact hcalls

/-- **Every action keeps the calls coherent.** -/
theorem Coherent.step (h : Coherent w) {a : Action ι} {w' : World ι} (ha : w.step a = some w') :
    Coherent w' := by
  cases a with
  | request env request stop =>
    cases ha
    exact h.advance (p := none)
      (Advance.section h.logged (request.ensures h.logged.ordered env) stop)
      (fun _ _ => .inl) (fun _ _ => .inl) fun _ _ => .inl
  | consume p env envelope reconcile stop =>
    simp only [World.step] at ha
    split at ha
    · cases ha
    cases ha
    have hkp : Keeps consumeKinds envelope (claim env envelope) w.store _ :=
      claim_ensures (by decide) (by decide)
    refine h.goOn (Advance.section h.logged hkp stop) rfl (fun _ _ => .inl) ?_
    intro found hfnd
    obtain ⟨event, hev, rfl⟩ := Option.map_eq_some_iff.mp hfnd
    exact ⟨result_of_section hkp hev, nofun⟩
  | enter p env stop =>
    simp only [World.step] at ha
    split at ha
    · rename_i envelope reconcile hp
      have hkp : Keeps consumeKinds envelope (enter env envelope reconcile) w.store _ :=
        enter_ensures (h.accepted p _ hp)
      have hadv := Advance.section h.logged hkp stop
      split at ha
      · cases ha
        exact h.goOn hadv rfl (fun _ _ => .inl) nofun
      · rename_i receipt hres
        cases ha
        exact h.conclude hadv rfl rfl (result_of_section hkp hres).1
      · rename_i capability hres
        cases ha
        obtain ⟨hpost, haft⟩ := result_of_section hkp hres
        refine h.goOn hadv rfl (fun _ _ => .inl) ?_
        rintro _ ⟨⟩
        refine ⟨haft, ?_⟩
        rintro _ _ ⟨⟩
        exact hpost
      · rename_i capability hres
        cases ha
        obtain ⟨-, haft⟩ := result_of_section hkp hres
        refine h.goOn hadv rfl (fun _ _ => .inl) ?_
        rintro _ ⟨⟩
        exact ⟨haft, nofun⟩
    · cases ha
  | invoke p =>
    simp only [World.step] at ha
    split at ha
    · rename_i envelope reconcile capability hp
      cases ha
      exact h.invoke hp
    · cases ha
  | answer p env outcome =>
    simp only [World.step] at ha
    split at ha
    · rename_i envelope reconcile reconcileOnly capability hp
      have hclmd := h.accepted p _ hp
      cases ha
      refine h.goOn (Advance.refl h.logged) rfl (fun _ _ => .inl) ?_
      rintro _ ⟨⟩
      exact ⟨hclmd, nofun⟩
    · cases ha
  | settle p env stop =>
    simp only [World.step] at ha
    split at ha
    · rename_i envelope ending hp
      have hkp : Keeps consumeKinds envelope (settle env envelope ending) w.store _ :=
        settle_ensures (h.accepted p _ hp)
      have hadv := Advance.section h.logged hkp stop
      split at ha
      · cases ha
        exact h.goOn hadv rfl (fun _ _ => .inl) nofun
      · rename_i receipt hres
        cases ha
        exact h.conclude hadv rfl rfl (result_of_section hkp hres)
    · cases ha
  | stop p =>
    cases ha
    exact h.goOn (Advance.refl h.logged) rfl (fun _ _ => .inl) nofun

theorem coherent_run {actions : List (Action ι)} {w : World ι}
    (h : exec World.step World.init actions = some w) : Coherent w :=
  exec_invariant (fun _ _ _ hu hstep => hu.step hstep) coherent_init h

end Steps

/-! ### A whole run -/

section Whole

variable {ι : Type} {w : World ι} {α : Type} {call : Op α} {a : α} {writes : List Write}

theorem write_of_does (h : Does call w.store a writes) :
    w.write call none = { w with store := w.store.after writes, log := w.log ++ writes } := by
  have hws : sectionWrites w.store call none =
      Durable.trail (fun w s => Store.apply s w) w.store writes :=
    congrArg Prod.snd h
  rw [World.write, hws, Durable.last_trail, Durable.map_fst_trail]
  rfl

theorem result_of_does (h : Does call w.store a writes) :
    sectionResult w.store call none = some a := by
  rw [sectionResult, h]
  rfl

/-- The calls of one process from `pending` to the receipt. -/
def script (p : ι) (env : Env) (envelope payload capability receipt : Value) : List (Action ι) :=
  [.request env (.pending envelope payload) none, .request env (.receive envelope payload) none,
    .request env (.registerCapability capability) none, .consume p env envelope false none,
    .enter p env none, .invoke p, .answer p env (.returns receipt), .settle p env none]

/-! The stores between the parts of the script. -/

section

variable (envelope payload : Value)

def pendingStore : Store :=
  Store.empty.after (pendingWrites Store.empty envelope payload)

def receivedStore : Store :=
  (pendingStore envelope payload).after
    (receiveWrites (pendingStore envelope payload) envelope)

def servedStore (capability : Value) : Store :=
  (receivedStore envelope payload).apply (.register capability)

def claimedStore (capability : Value) : Store :=
  let s := servedStore envelope payload capability
  s.apply (.event (s.next .resumeAccepted envelope .none))

def enteredStore (capability : Value) : Store :=
  (claimedStore envelope payload capability).apply
    (.create (wakeDir envelope) .inflight (intent envelope))

end

section Stores

variable {env : Env} {envelope payload capability : Value}

theorem held_pendingStore (h : Ready env envelope payload) :
    Held env (pendingStore envelope payload) envelope payload :=
  held_pending h fun _ he => by cases he

theorem recorded_pendingStore (kind : EventKind) :
    (pendingStore envelope payload).recorded kind envelope = decide (kind = .resumePending) := by
  show (Store.apply _ (.event _)).recorded kind envelope = _
  rw [recorded_apply_event]
  show (false || decide (kind = .resumePending) && correlates envelope envelope) = _
  rw [correlates_refl, Bool.and_true, Bool.false_or]

theorem recorded_receivedStore (kind : EventKind) :
    (receivedStore envelope payload).recorded kind envelope =
      decide (kind ∈ [.resumePending, .resumeReceived, .digestVerified]) := by
  show (Store.apply (Store.apply _ (.event _)) (.event _)).recorded kind envelope = _
  rw [recorded_apply_event, recorded_apply_event, recorded_pendingStore]
  show (decide (kind = .resumePending) || decide (kind = .resumeReceived) &&
    correlates envelope envelope || decide (kind = .digestVerified) &&
      correlates envelope envelope) = _
  rw [correlates_refl]
  cases kind <;> rfl

theorem recorded_claimedStore (kind : EventKind) :
    (claimedStore envelope payload capability).recorded kind envelope =
      decide (kind ∈ [.resumePending, .resumeReceived, .digestVerified, .resumeAccepted]) := by
  rw [claimedStore, recorded_apply_event]
  show ((receivedStore envelope payload).recorded kind envelope ||
    decide (kind = .resumeAccepted) && correlates envelope envelope) = _
  rw [recorded_receivedStore, correlates_refl]
  cases kind <;> rfl

theorem artifacts_pendingStore {file : ArtifactFile} (henvelope : file ≠ .envelope)
    (hpay : file ≠ .payload) :
    (pendingStore envelope payload).artifacts (wakeDir envelope) file = none := by
  show ((Store.empty.apply (.create _ .envelope _)).apply (.create _ .payload _)).artifacts _ _ = _
  rw [artifacts_apply_create, if_neg fun h => hpay h.2, artifacts_apply_create,
    if_neg fun h => henvelope h.2]
  rfl

theorem kind_servedStore :
    ∀ event ∈ (servedStore envelope payload capability).records, event.kind ≠ .resumeAccepted := by
  intro event hev
  change event ∈ [_, _, _] at hev
  simp only [mem_cons, not_mem_nil, or_false] at hev
  rcases hev with rfl | rfl | rfl <;> simp [Store.next]

theorem does_pending (h : Ready env envelope payload) :
    Does ((Request.pending envelope payload).run env) Store.empty envelope
      (pendingWrites Store.empty envelope payload) :=
  pending_completes h (fun _ he => by cases he) rfl fun _ => rfl

theorem does_receive (h : Ready env envelope payload) :
    Does ((Request.receive envelope payload).run env) (pendingStore envelope payload) envelope
      (receiveWrites (pendingStore envelope payload) envelope) := by
  have hreceive := receive_completes (held_pendingStore h) (recorded_pendingStore _)
    (recorded_pendingStore _)
  rw [← append_nil (receiveWrites _ _)]
  exact hreceive.bind (.pure _ _)

theorem does_register (h : validateCapability env capability = .ok ()) :
    Does ((Request.registerCapability capability).run env) (receivedStore envelope payload)
      capability [.register capability] :=
  registerCapability_completes h rfl

theorem held_servedStore (h : Ready env envelope payload) :
    Held env (servedStore envelope payload capability) envelope payload :=
  (held_pendingStore h).receive.register capability

end Stores

theorem chain_complete {chain : List EventKind} (hch : chain <+: successEvents)
    (hlast : .resumeConsumed ∈ chain) : chain = successEvents := by
  have hfinite : ∀ n ≤ 6, .resumeConsumed ∈ successEvents.take n →
      successEvents.take n = successEvents := by decide
  have htake := prefix_iff_eq_take.mp hch
  rw [htake] at hlast ⊢
  exact hfinite _ hch.length_le hlast

variable [DecidableEq ι] {p : ι} {env : Env} {envelope : Value} {reconcile : Bool}

theorem step_request {request : Request} {a : Value} (h : Does (request.run env) w.store a writes) :
    w.step (.request env request none) =
      some { w with store := w.store.after writes, log := w.log ++ writes } :=
  congrArg some (write_of_does h)

theorem step_consume {a : Value} (hfree : w.calls p = none)
    (h : Does (claim env envelope) w.store a writes) :
    w.step (.consume p env envelope reconcile none) =
      some (World.setCall { w with store := w.store.after writes, log := w.log ++ writes } p
        (some ⟨envelope, .claimed reconcile⟩)) := by
  simp only [World.step, hfree, result_of_does h, write_of_does h, Option.map_some]

theorem step_enter {capability : Value} (hcall : w.calls p = some ⟨envelope, .claimed reconcile⟩)
    (h : Does (enter env envelope reconcile) w.store (.invoke capability) writes) :
    w.step (.enter p env none) =
      some (World.setCall { w with store := w.store.after writes, log := w.log ++ writes } p
        (some ⟨envelope, .entered reconcile capability⟩)) := by
  simp only [World.step, hcall, result_of_does h, write_of_does h]

theorem step_invoke {capability : Value}
    (hcall : w.calls p = some ⟨envelope, .entered reconcile capability⟩) :
    w.step (.invoke p) =
      some { w.setCall p (some ⟨envelope, .calling reconcile false capability⟩) with
        log := w.log ++ [.invoke envelope] } := by
  simp only [World.step, hcall]

theorem step_answer {capability : Value} {reconcileOnly : Bool} {outcome : Outcome}
    (hcall : w.calls p = some ⟨envelope, .calling reconcile reconcileOnly capability⟩) :
    w.step (.answer p env outcome) = some (w.setCall p (some ⟨envelope,
      .ended (ending env envelope capability reconcile reconcileOnly outcome)⟩)) := by
  simp only [World.step, hcall]

theorem step_settle {ending : Ending} (hcall : w.calls p = some ⟨envelope, .ended ending⟩)
    (h : Does (settle env envelope ending) w.store receipt writes) :
    w.step (.settle p env none) =
      some (World.finish { w with store := w.store.after writes, log := w.log ++ writes } p
        envelope receipt) := by
  simp only [World.step, hcall, result_of_does h, write_of_does h]

/-- **An envelope that nobody disturbs is consumed.** -/
theorem consume_completes {payload capability : Value}
    (h : Served env envelope payload capability receipt) (p : ι) :
    ∃ w : World ι,
      exec World.step World.init (script p env envelope payload capability receipt) = some w ∧
        w.returned = [(envelope, receipt)] ∧ w.log.countP (starts (wakeDir envelope)) = 1 ∧
        stages w.store.ledger envelope = successEvents := by
  have hserved : Held env (servedStore envelope payload capability) envelope payload :=
    held_servedStore h.ready
  have hclmd : Held env (claimedStore envelope payload capability) envelope payload :=
    hserved.next .resumeAccepted Extra.clean_none
  have hentered : Held env (enteredStore envelope payload capability) envelope payload :=
    hclmd.create (by decide) (by decide)
  -- the calls, each from the store that the one before has left
  have hclm := claim_completes hserved kind_servedStore (recorded_receivedStore .digestVerified)
  have henter : Does (enter env envelope false) (claimedStore envelope payload capability)
      (.invoke capability) _ :=
    enter_completes hclmd h.matching (recorded_claimedStore _)
      (artifacts_pendingStore (by decide) (by decide))
      (artifacts_pendingStore (by decide) (by decide))
  have hending : ending env envelope capability false false (.returns receipt) =
      .finalized receipt := by
    simp only [ending, h.validated, Bool.false_and, if_neg Bool.false_ne_true]
  have hset : Does (settle env envelope (.finalized receipt))
      (enteredStore envelope payload capability) receipt
      (finalWrites (enteredStore envelope payload capability) envelope receipt) := by
    refine finalizeReceipt_completes hentered h.extra ?_ (recorded_claimedStore _)
      (recorded_claimedStore _)
    rw [enteredStore, artifacts_apply_create, if_neg (by simp)]
    exact artifacts_pendingStore (by decide) (by decide)
  have hrun : ∃ w : World ι,
      exec World.step World.init (script p env envelope payload capability receipt) = some w ∧
        w.returned = [(envelope, receipt)] ∧ w.log.countP (starts (wakeDir envelope)) = 1 ∧
        w.store.recorded .resumeConsumed envelope := by
    refine ⟨_, exec_cons.mpr ⟨_, step_request (does_pending h.ready),
      exec_cons.mpr ⟨_, step_request (does_receive h.ready),
      exec_cons.mpr ⟨_, step_request (does_register h.registered),
      exec_cons.mpr ⟨_, step_consume rfl hclm,
      exec_cons.mpr ⟨_, step_enter (update_self ..) henter,
      exec_cons.mpr ⟨_, step_invoke (update_self ..),
      exec_cons.mpr ⟨_, step_answer (update_self ..),
      exec_cons.mpr ⟨_, step_settle (update_self ..) (hending ▸ hset), rfl⟩⟩⟩⟩⟩⟩⟩⟩,
      rfl, ?_, ?_⟩
    · simp [World.finish, World.setCall, World.init, pendingWrites, receiveWrites, finalWrites,
        starts]
    · -- the last event before the marker goes
      show (Store.apply (Store.apply _ (.event _)) (.unlink _)).recorded _ _ = true
      exact recorded_apply _ (recorded_next _ _)
  obtain ⟨w, hexec, hretd, hstarts, hcons⟩ := hrun
  refine ⟨w, hexec, hretd, hstarts, ?_⟩
  exact chain_complete ((coherent_run hexec).logged.ordered.stages envelope)
    ((mem_stages (by decide)).mpr hcons)

end Whole

/-! ### Results -/

variable {kind : EventKind}

theorem countP_le_count_stages (hkind : kind ∈ successEvents)
    (ledger : List Value) (envelope : Value) :
    ledger.countP (isEvent kind envelope) ≤ (stages ledger envelope).count kind := by
  induction ledger with
  | nil => exact Nat.le_refl 0
  | cons event ledger ih =>
    have hcons : stages (event :: ledger) envelope =
        (successEvents.filter fun kind => isEvent kind envelope event) ++ stages ledger envelope :=
      flatMap_cons
    rw [hcons, count_append, countP_cons]
    split
    · rename_i hev
      have hpos : 0 < (successEvents.filter fun kind => isEvent kind envelope event).count kind :=
        count_pos_iff.mpr (mem_filter.mpr ⟨hkind, hev⟩)
      omega
    · omega

theorem Ordered.once {s : Store} (h : Ordered s) (hkind : kind ∈ successEvents)
    (envelope : Value) : s.ledger.countP (isEvent kind envelope) ≤ 1 := by
  have hnd : successEvents.Nodup := by decide
  have hstages := hnd.sublist (h.stages envelope).sublist
  exact (countP_le_count_stages hkind _ _).trans (nodup_iff_count_le_one.mp hstages kind)

/-- **Continuation event order.**  However the calls of any number of processes interleave, the
ledger is numbered from one without gaps, and the stages of every envelope are an initial part
of the success chain. -/
theorem continuation_event_order {ι : Type} [DecidableEq ι] {actions : List (Action ι)}
    {w : World ι} (h : exec World.step World.init actions = some w) :
    (∀ i (hi : i < w.store.ledger.length), w.store.ledger[i].get "event_sequence" = .int (i + 1)) ∧
      ∀ envelope, stages w.store.ledger envelope <+: successEvents := by
  have hordered := (coherent_run h).logged.ordered
  refine ⟨fun i hi => ?_, hordered.stages⟩
  have hlength : i < w.store.records.length := by simpa [Store.ledger] using hi
  simp only [Store.ledger, getElem_map, Event.value, get_sequence, hordered.sequence i hlength]
  push_cast
  rfl

/-- The run of the sample: six events in order. -/
theorem continuation_event_order_sample : ∃ w : World ℕ,
    exec World.step World.init
        (script 0 sampleEnv sampleEnvelope samplePayload sampleCapability sampleReceipt) = some w ∧
      stages w.store.ledger sampleEnvelope = successEvents ∧
      (∀ i (hi : i < w.store.ledger.length),
        w.store.ledger[i].get "event_sequence" = .int (i + 1)) ∧
      ∀ envelope, stages w.store.ledger envelope <+: successEvents := by
  obtain ⟨w, hrun, -, -, hstages⟩ := consume_completes served_sample 0
  exact ⟨w, hrun, hstages, continuation_event_order hrun⟩

/-- **At-most-once continuation.**  However the `consume` calls of any number of processes
interleave and wherever they stop, for each envelope the provider is started at most once, at
most one receipt is committed, every call that returns gives that receipt, and the two last
events are recorded at most once. -/
theorem continuation_at_most_once {ι : Type} [DecidableEq ι] {actions : List (Action ι)}
    {w : World ι} (h : exec World.step World.init actions = some w) (envelope : Value) :
    w.log.countP (starts (wakeDir envelope)) ≤ 1 ∧
      w.log.countP (commits (wakeDir envelope)) ≤ 1 ∧
      (∀ receipt, (envelope, receipt) ∈ w.returned →
        .create (wakeDir envelope) .receipt receipt ∈ w.log) ∧
      w.store.ledger.countP (isEvent .continuationStarted envelope) ≤ 1 ∧
      w.store.ledger.countP (isEvent .resumeConsumed envelope) ≤ 1 := by
  have hw := coherent_run h
  refine ⟨hw.once _, hw.logged.committed _, fun receipt hmem => ?_,
    hw.logged.ordered.once (by decide) _, hw.logged.ordered.once (by decide) _⟩
  exact (hw.logged.receipt _ _).mpr (hw.returned envelope receipt hmem)

/-- The run of the sample: one start, and the receipt is returned. -/
theorem continuation_at_most_once_sample : ∃ w : World ℕ,
    exec World.step World.init
        (script 0 sampleEnv sampleEnvelope samplePayload sampleCapability sampleReceipt) = some w ∧
      w.log.countP (starts (wakeDir sampleEnvelope)) = 1 ∧
      .create (wakeDir sampleEnvelope) .receipt sampleReceipt ∈ w.log := by
  obtain ⟨w, hrun, hreturned, hstarts, -⟩ := consume_completes served_sample 0
  have hmem : (sampleEnvelope, sampleReceipt) ∈ w.returned := by simp [hreturned]
  exact ⟨w, hrun, hstarts, (continuation_at_most_once hrun sampleEnvelope).2.2.1 _ hmem⟩

end Valp.Continuation
