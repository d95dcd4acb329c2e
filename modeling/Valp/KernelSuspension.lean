/-
Suspensions over whole runs.

The State keeps one Suspension record.  While the record stays, the epochs of the
Suspensions that are started count upwards; when the Task leaves `executing` the
record is cleared, and the reducer asks for epoch 0 again.

* `suspension_pairs_of_kept` — two Suspensions that are started while the record is
  kept have different identities, and an accepted wake names the latest Suspension;
* `suspension_pair_recycled` — a run that clears the record and then starts a
  Suspension under the same identity and epoch again.
-/
import Valp.KernelAttempts

namespace Valp.Kernel

open Run (exec exec_append exec_concat exec_cons exec_history)

variable {s t g : State} {x : Input} {e : Event} {kind : EventKind} {status : TaskStatus}
  {effect : Effect} {xs : List Input}

/-- `(suspension_id, suspension_epoch)` of an Event. -/
def Event.suspensionPair (event : Event) : Option Identity × Option Int :=
  (event.suspensionId, event.suspensionEpoch)

/-- `(suspension_id, suspension_epoch)` of a Suspension. -/
def Suspension.pair (suspension : Suspension) : Option Identity × Option Int :=
  (some suspension.suspensionId, some suspension.suspensionEpoch)

/-! ### One step -/

/-- How a step changes the Suspension record. -/
inductive SuspensionMove (e : Event) :
    EventKind → Option Suspension → Option Suspension → Prop
  | kept {kind : EventKind} {o : Option Suspension} (hstart : kind ≠ .suspensionStarted)
      (hwake : kind ≠ .wakeAccepted) : SuspensionMove e kind o o
  | cleared {kind : EventKind} {o : Option Suspension} (hstart : kind ≠ .suspensionStarted)
      (hwake : kind ≠ .wakeAccepted) : SuspensionMove e kind o none
  | started {o : Option Suspension} {u : Suspension} (hpair : u.pair = e.suspensionPair)
      (hfirst : o = none → u.suspensionEpoch = 0)
      (hnext : ∀ p, o = some p → p.status = .resumed ∧
        u.suspensionEpoch = p.suspensionEpoch + 1 ∧ u.suspensionId ≠ p.suspensionId) :
      SuspensionMove e .suspensionStarted o (some u)
  | woken {u u' : Suspension} (hpair : u.pair = e.suspensionPair) (hwaiting : u.status = .waiting)
      (hsame : u'.pair = u.pair) : SuspensionMove e .wakeAccepted (some u) (some u')

/-- The epoch rule of `SUSPENSION_STARTED`. -/
theorem suspensionStarted_move (h : suspensionStarted s status e = some effect) :
    SuspensionMove e .suspensionStarted s.suspension effect.suspension := by
  rw [suspensionStarted] at h
  split at h
  case h_2 => cases h
  case h_1 hsusp hep _ _ =>
    simp only [Option.ite_none_left_eq_some, Option.some_inj, Bool.or_eq_true, not_or] at h
    obtain ⟨⟨⟨-, hconflict⟩, -⟩, rfl⟩ := h
    refine .started ?_ ?_ ?_
    · rw [Suspension.pair, Event.suspensionPair, hsusp, hep]
    · intro hnone
      simpa [hnone] using hconflict
    · intro p hp
      simpa [hp, and_assoc] using hconflict

theorem wakeAccepted_move (h : wakeAccepted s status e = some effect) :
    SuspensionMove e .wakeAccepted s.suspension effect.suspension := by
  rw [wakeAccepted] at h
  split at h
  case h_1 => cases h
  case h_2 current hcur =>
    simp only [Option.ite_none_left_eq_some, Option.some_inj, Bool.or_eq_true, not_or, bne_iff_ne,
      not_not] at h
    obtain ⟨⟨⟨⟨⟨⟨⟨⟨⟨⟨-, hwait⟩, hid⟩, hep⟩, -⟩, -⟩, -⟩, -⟩, -⟩, -⟩, rfl⟩ := h
    rw [hcur]
    refine .woken ?_ hwait rfl
    rw [Suspension.pair, Event.suspensionPair, hid, hep]

theorem Branch.suspensionMove (hs : StateValid s) (h : Branch s status e kind effect) :
    SuspensionMove e kind s.suspension effect.suspension := by
  cases h with
  | interruptRequested h =>
    rw [(interruptRequested_spec h).2.2.2.2.1]
    exact .kept (by decide) (by decide)
  | interruptResumed h =>
    rw [(interruptResumed_spec h).2.2.1]
    exact .kept (by decide) (by decide)
  | redirectAuthorized h =>
    rw [(redirectAuthorized_spec h).2.2.2.1]
    exact .cleared (by decide) (by decide)
  | taskCancelled h =>
    rw [(taskCancelled_spec h).2.2.1]
    exact .cleared (by decide) (by decide)
  | suspensionStarted h => exact suspensionStarted_move h
  | wakeAccepted h => exact wakeAccepted_move h
  | item hkind h =>
    obtain ⟨w, -, r, -, -, rfl⟩ := onWorkItem_spec hs h
    refine .kept ?_ ?_ <;> rintro rfl <;> cases hkind
  | task hkind h =>
    rw [(taskTransition_spec h).2.2.1]
    refine .kept ?_ ?_ <;> rintro rfl <;> cases hkind

/-- **What one step does to the Suspension record.** -/
theorem step_suspension (h : step s x = some t) (hk : x.1.kind = .known kind) :
    SuspensionMove x.1 kind s.suspension t.suspension := by
  obtain ⟨status, kind', before, effect, hadm, -, hbr, hset, rfl⟩ := step_cases h
  obtain rfl := hadm.kind_unique hk
  have hmove := hbr.suspensionMove hadm.valid
  obtain ⟨-, ⟨-, hsame⟩ | ⟨hmov, hnone, -⟩⟩ := settle_spec hset
  · show SuspensionMove x.1 kind' s.suspension effect.suspension
    rw [hsame]
    exact hmove
  -- the status changes, so the event neither starts a Suspension nor wakes one
  show SuspensionMove x.1 kind' s.suspension effect.suspension
  rw [hnone]
  refine .cleared ?_ ?_
  · rintro rfl
    cases hbr
    case suspensionStarted h => exact hmov (suspensionStarted_spec h).2.1
    case item hkind _ => cases hkind
    case task hkind _ => cases hkind
  · rintro rfl
    cases hbr
    case wakeAccepted h => exact hmov (wakeAccepted_spec h).2.1
    case item hkind _ => cases hkind
    case task hkind _ => cases hkind

/-! ### Runs -/

def Starts (x : Input) : Prop := x.1.kind = .known .suspensionStarted

def Wakes (x : Input) : Prop := x.1.kind = .known .wakeAccepted

instance (x : Input) : Decidable (Starts x) :=
  inferInstanceAs (Decidable (x.1.kind = .known .suspensionStarted))

/-- The identities of the Suspensions that the inputs start. -/
def startedPairs (xs : List Input) : List (Option Identity × Option Int) :=
  (xs.filter fun x => Starts x).map fun x => x.1.suspensionPair

/-- From the State after `ys` on, the record is not cleared while `zs` is read. -/
def Kept (g : State) (ys zs : List Input) : Prop :=
  ∀ ws u, ws <+: zs → exec step g (ys ++ ws) = some u → u.suspension ≠ none

theorem step_starts (h : step s x = some t) (hx : Starts x) :
    ∃ u, t.suspension = some u ∧ u.pair = x.1.suspensionPair ∧
      ∀ p, s.suspension = some p → u.suspensionEpoch = p.suspensionEpoch + 1 := by
  have hmove := step_suspension h hx
  generalize ho : s.suspension = o at hmove
  generalize ho' : t.suspension = o' at hmove
  cases hmove with
  | kept hstart | cleared hstart => exact absurd rfl hstart
  | started hpair _ hnext => exact ⟨_, rfl, hpair, fun p hp => (hnext p hp).2.1⟩

theorem step_epoch_le {a b : Suspension} (h : step s x = some t) (ha : s.suspension = some a)
    (hb : t.suspension = some b) : a.suspensionEpoch ≤ b.suspensionEpoch := by
  obtain ⟨_, kind, -, hk⟩ := step_known h
  have hmove := step_suspension h hk
  rw [ha, hb] at hmove
  cases hmove with
  | kept => exact le_refl _
  | started _ _ hnext =>
    have := (hnext a rfl).2.1
    omega
  | woken _ _ hsame =>
    have hep : some b.suspensionEpoch = some a.suspensionEpoch := congrArg Prod.snd hsame
    exact (Option.some_inj.mp hep).ge

/-- **While the record is kept its epoch does not decrease.** -/
theorem exec_epoch_le {ys zs : List Input} {u v : State} {a : Suspension}
    (hu : exec step g ys = some u) (ha : u.suspension = some a) (hkept : Kept g ys zs)
    (hv : exec step u zs = some v) :
    ∃ b, v.suspension = some b ∧ a.suspensionEpoch ≤ b.suspensionEpoch := by
  refine exec_history (I := fun ws v => ws <+: zs →
    ∃ b, v.suspension = some b ∧ a.suspensionEpoch ≤ b.suspensionEpoch) ?_ ?_ hv List.prefix_rfl
  · intro _
    exact ⟨a, ha, le_refl _⟩
  · intro ws r z r' hr ih hstep hprefix
    obtain ⟨b, hb, hle⟩ := ih ((List.prefix_append ws [z]).trans hprefix)
    have hr' : exec step g (ys ++ (ws ++ [z])) = some r' :=
      exec_append.mpr ⟨u, hu, exec_concat.mpr ⟨r, hr, hstep⟩⟩
    obtain ⟨c, hc⟩ := Option.ne_none_iff_exists'.mp (hkept _ r' hprefix hr')
    exact ⟨c, hc, hle.trans (step_epoch_le hstep hb hc)⟩

theorem exec_last_started (hg : genesisIsValid g) (h : exec step g xs = some t) :
    ∀ a, t.suspension = some a → (startedPairs xs).getLast? = some a.pair := by
  refine exec_history (I := fun ys u =>
    ∀ a, u.suspension = some a → (startedPairs ys).getLast? = some a.pair) ?_ ?_ h
  · -- a genesis is not executing, so it has no Suspension
    intro a ha
    obtain ⟨hval, hst, -, -⟩ := genesisIsValid_iff.mp hg
    have hexec := hst.symm.trans (hval.executing a ha)
    exact absurd hexec (by decide)
  · intro ys u x v _ ih hv a ha
    obtain ⟨_, kind, -, hk⟩ := step_known hv
    rw [startedPairs, List.filter_append, List.map_append, ← startedPairs]
    by_cases hx : Starts x
    · obtain ⟨b, hb, hpair, -⟩ := step_starts hv hx
      cases hb.symm.trans ha
      simp [hx, hpair]
    have hoth : (([x].filter fun x => Starts x).map fun x => x.1.suspensionPair) = [] := by
      simp [hx]
    rw [hoth, List.append_nil]
    have hmove := step_suspension hv hk
    generalize ho : u.suspension = o at hmove
    rw [ha] at hmove
    cases hmove with
    | kept => exact ih a ho
    | started => exact absurd hk hx
    | woken _ _ hsame =>
      rw [hsame]
      exact ih _ ho

/-- **Identities of Suspensions.**  Two Suspensions of a run that are started without
the record being cleared in between have different identities.  An accepted wake
names the latest Suspension that was started. -/
theorem suspension_pairs_of_kept (hg : genesisIsValid g = true)
    (h : exec step g xs = some t) :
    (∀ ys x zs x' ws, xs = ys ++ [x] ++ zs ++ x' :: ws → Starts x → Starts x' →
      Kept g (ys ++ [x]) zs → x.1.suspensionPair ≠ x'.1.suspensionPair) ∧
    ∀ ys x zs, xs = ys ++ x :: zs → Wakes x →
      (startedPairs ys).getLast? = some x.1.suspensionPair := by
  constructor
  · intro ys x zs x' ws hsplit hx hx' hkept hpair
    rw [hsplit] at h
    obtain ⟨r, hr, hrest⟩ := exec_append.mp h
    obtain ⟨r', hr', -⟩ := exec_cons.mp hrest
    obtain ⟨v, hv, hzs⟩ := exec_append.mp hr
    obtain ⟨u, -, hstep⟩ := exec_concat.mp hv
    obtain ⟨a, ha, hapair, -⟩ := step_starts hstep hx
    obtain ⟨b, hb, hle⟩ := exec_epoch_le hv ha hkept hzs
    -- the second Suspension has the epoch after the current one
    obtain ⟨c, -, hcpair, hnext⟩ := step_starts hr' hx'
    have hepoch : some a.suspensionEpoch = some c.suspensionEpoch :=
      congrArg Prod.snd ((hapair.trans hpair).trans hcpair.symm)
    have hlater := hnext b hb
    rw [Option.some_inj] at hepoch
    omega
  · intro ys x zs hsplit hx
    rw [hsplit] at h
    obtain ⟨u, hu, hrest⟩ := exec_append.mp h
    obtain ⟨v, hv, -⟩ := exec_cons.mp hrest
    have hmove := step_suspension hv hx
    generalize ho : u.suspension = o at hmove
    generalize ho' : v.suspension = o' at hmove
    cases hmove with
    | kept _ hwake | cleared _ hwake => exact absurd rfl hwake
    | woken hpair =>
      rw [← hpair]
      exact exec_last_started hg hu _ ho

def suspendEvent (eventId : Identity) (revision : Int) (suspension : Identity) (epoch : Int) :
    Input :=
  ({ sampleEvent eventId revision .suspensionStarted with
      suspensionId := some suspension
      suspensionEpoch := some epoch
      waitPolicyId := some (ident .waitPolicy "policy")
      waitPolicyDigest :=
        some "sha256:0000000000000000000000000000000000000000000000000000000000000000"
      requiredWorkItemIds := [ident .workItem "first"] }, [])

def wakeEvent (eventId : Identity) (revision : Int) (suspension : Identity) (epoch : Int) :
    Input :=
  ({ (suspendEvent eventId revision suspension epoch).1 with
      kind := .known .wakeAccepted
      wakeId := some (ident .wake "wake")
      wakeReason := some (.known .dependencyReady) }, [])

/-- The item is completed and the Task executes, up to revision 8. -/
def readyRun : List Input := completedRun.take 8

theorem suspension_pairs_woken : (∃ t, exec step requiredGenesis (readyRun ++
      [suspendEvent (ident .event "e8") 8 (ident .suspension "s1") 0] ++
      [wakeEvent (ident .event "e9") 9 (ident .suspension "s1") 0] ++
      [suspendEvent (ident .event "e10") 10 (ident .suspension "s2") 1]) = some t) ∧
    (suspendEvent (ident .event "e8") 8 (ident .suspension "s1") 0).1.suspensionPair ≠
      (suspendEvent (ident .event "e10") 10 (ident .suspension "s2") 1).1.suspensionPair := by
  obtain ⟨t, ht, -⟩ := exec_of_trusting requiredGenesis_valid
    (p := fun t => t.suspension.isSome) (by decide +kernel :
      (exec stepTrusting _ (readyRun ++
        [suspendEvent (ident .event "e8") 8 (ident .suspension "s1") 0] ++
        [wakeEvent (ident .event "e9") 9 (ident .suspension "s1") 0] ++
        [suspendEvent (ident .event "e10") 10 (ident .suspension "s2") 1])).any _)
  refine ⟨⟨t, ht⟩, ?_⟩
  refine (suspension_pairs_of_kept requiredGenesis_valid ht).1 readyRun _
    [wakeEvent (ident .event "e9") 9 (ident .suspension "s1") 0] _ [] rfl rfl rfl ?_
  -- the record is there after the first event and after the wake
  intro ws u hws hu
  have hkept : ∀ ws ∈ [[], [wakeEvent (ident .event "e9") 9 (ident .suspension "s1") 0]],
      (exec stepTrusting requiredGenesis (readyRun ++
        [suspendEvent (ident .event "e8") 8 (ident .suspension "s1") 0] ++ ws)).any
          (fun u => u.suspension.isSome) := by decide +kernel
  have hmem : ws ∈ [[], [wakeEvent (ident .event "e9") 9 (ident .suspension "s1") 0]] := by
    rcases ws with _ | ⟨w, ws⟩
    · simp
    · obtain ⟨rfl, hnil⟩ := List.cons_prefix_cons.mp hws
      rw [List.prefix_nil.mp hnil]
      simp
  have hsome := hkept ws hmem
  rw [← exec_eq_trusting requiredGenesis_valid, hu, Option.any_some] at hsome
  exact Option.isSome_iff_ne_none.mp hsome

/-- The Task executes, waits, is blocked, and is dispatched again. -/
def redispatchRun : List Input := dispatchSpine 0 ++ [
  suspendEvent (ident .event "e3") 3 (ident .suspension "s1") 0,
  (sampleEvent (ident .event "e4") 4 .taskBlocked, []),
  (sampleEvent (ident .event "e5") 5 .blockedRecoveryToFixing, []),
  (sampleEvent (ident .event "e6") 6 .fixDispatchRequested, []),
  (sampleEvent (ident .event "e7") 7 .dispatchAccepted, []),
  suspendEvent (ident .event "e8") 8 (ident .suspension "s1") 0]

/-- **The identity of a Suspension can be recycled** once the record was cleared. -/
theorem suspension_pair_recycled : genesisIsValid requiredGenesis = true ∧
      (exec step requiredGenesis redispatchRun).isSome = true ∧
      ¬(startedPairs redispatchRun).Nodup := by
  refine ⟨requiredGenesis_valid, ?_, by decide⟩
  rw [exec_eq_trusting requiredGenesis_valid]
  decide +kernel

end Valp.Kernel
