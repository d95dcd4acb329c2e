/-
Attempts over whole runs.

The State keeps the current Attempt of a Work Item only.  `AttemptLe` says what a
run can do to it: advance its status while it is active, or replace it by an
Attempt of a higher generation.

* `attempts_fenced` — generations increase, and an event of a replaced or terminal
  Attempt is never accepted again;
* `replaced_attempt` — how an Attempt that was executing can be replaced, and
  `replaced_while_running`, a run that replaces one without an obligation;
* `attempt_ids_nodup_iff` — when the identities of the Attempts of an item are all
  different, and `attempt_id_recycled`, a run in which they are not.
-/
import Valp.KernelItems

namespace Valp.Kernel

open Option (ne_none_iff_exists' bind_some some_inj map_eq_some_iff map_some)
open Run (exec exec_append exec_change exec_cons exec_history exec_nil exec_rel)
open List

variable {s t g : State} {x : Input} {e : Event} {kind : EventKind} {id : Identity}
  {w w' : WorkItem} {a b : Attempt} {xs : List Input}

/-- The current Attempt of the Work Item `id`. -/
def State.attempt? (s : State) (id : Identity) : Option Attempt :=
  (s.item? id).bind (·.currentAttempt)

/-- The input creates an Attempt for the Work Item `id`. -/
def Creates (id : Identity) (x : Input) : Prop :=
  x.1.kind = .known .attemptCreated ∧ x.1.workItemId = some id

instance (id : Identity) (x : Input) : Decidable (Creates id x) :=
  inferInstanceAs (Decidable (x.1.kind = .known .attemptCreated ∧ x.1.workItemId = some id))

/-! ### One step -/

theorem tuple_eq_iff : b.tuple = a.tuple ↔ b.attemptId = a.attemptId ∧
    b.dispatchId = a.dispatchId ∧ b.dispatchGeneration = a.dispatchGeneration := by
  simp [Attempt.tuple]

/-- `b` is `a` at a later time, with its status advanced if `a` was active; or it
has replaced `a`, under a higher generation. -/
def AttemptLe (a b : Attempt) : Prop :=
  (b.tuple = a.tuple ∧ (a.status.isActive = false → b.status = a.status) ∧
    (b.status = .created → a.status = .created)) ∨
  a.dispatchGeneration < b.dispatchGeneration

theorem AttemptLe.refl (a : Attempt) : AttemptLe a a :=
  Or.inl ⟨rfl, fun _ => rfl, fun h => h⟩

theorem AttemptLe.generation_le (h : AttemptLe a b) :
    a.dispatchGeneration ≤ b.dispatchGeneration := by
  rcases h with ⟨htup, -⟩ | hlt
  · rw [(tuple_eq_iff.mp htup).2.2]
  · exact hlt.le

theorem AttemptLe.trans {c : Attempt} (hab : AttemptLe a b) (hbc : AttemptLe b c) :
    AttemptLe a c := by
  -- once the Attempt was replaced, the generation stays above that of `a`
  rcases hab with ⟨htup, hkeep, hcrtd⟩ | hlt
  · rcases hbc with ⟨htup', hkeep', hcrtd'⟩ | hlt'
    · refine Or.inl ⟨htup'.trans htup, ?_, fun hc => hcrtd (hcrtd' hc)⟩
      intro ha
      have hb := hkeep ha
      rw [hkeep' (by rwa [hb]), hb]
    · right
      rw [(tuple_eq_iff.mp htup).2.2] at hlt'
      exact hlt'
  · exact Or.inr (lt_of_lt_of_le hlt hbc.generation_le)

theorem attemptLe_cancelAttempt (a : Attempt) : AttemptLe a (cancelAttempt a) := by
  rw [cancelAttempt]
  by_cases ha : a.status.isActive = true
  · rw [if_pos ha]
    exact Or.inl ⟨rfl, by simp [ha], by simp⟩
  · rw [if_neg ha]
    exact AttemptLe.refl a

theorem ItemMove.attemptLe (h : ItemMove s e kind w w') (ha : w.currentAttempt = some a) :
    ∃ b, w'.currentAttempt = some b ∧ AttemptLe a b := by
  cases h with
  | eligible | moved => exact ⟨a, ha, AttemptLe.refl a⟩
  | created _ _ _ _ hrt => exact ⟨_, rfl, Or.inr (hrt a ha).2.1⟩
  | fenced hcur hact =>
    cases hcur.symm.trans ha
    exact ⟨_, rfl, Or.inl ⟨rfl, by simp [hact], by simp⟩⟩
  | advanced htab hcur _ _ hact =>
    cases hcur.symm.trans ha
    refine ⟨_, rfl, Or.inl ⟨rfl, by simp [hact], ?_⟩⟩
    -- no row of the table leads back to `created`
    rintro rfl
    cases kind <;> simp [attemptTransitions] at htab
  | cancelled =>
    refine ⟨cancelAttempt a, ?_, attemptLe_cancelAttempt a⟩
    rw [cancelledWorkItem_fst]
    simp [ha]

theorem ItemMove.tuple_eq (h : ItemMove s e kind w w') (hkind : kind ≠ .attemptCreated) :
    w'.currentAttempt.map Attempt.tuple = w.currentAttempt.map Attempt.tuple := by
  cases h with
  | eligible | moved => rfl
  | created => exact absurd rfl hkind
  | fenced hcur => simp [hcur, Attempt.tuple]
  | advanced _ hcur => simp [hcur, Attempt.tuple]
  | cancelled =>
    rw [cancelledWorkItem_fst, Option.map_map]
    congr 1
    funext a
    rw [Function.comp_apply, cancelAttempt]
    split <;> rfl

/-- An accepted attempt event is about the current Attempt, which is active, or it
creates one of a higher generation. -/
theorem ItemMove.attempt_event (h : ItemMove s e kind w w')
    (hscoped : kind ∈ attemptScopedEvents) (ha : w.currentAttempt = some a) :
    (a.tuple = e.tuple ∧ a.status.isActive) ∨
      ∃ n, e.dispatchGeneration = some n ∧ a.dispatchGeneration < n := by
  cases h with
  | eligible => simp [attemptScopedEvents] at hscoped
  | created _ _ hgen _ hrt => exact Or.inr ⟨_, hgen, (hrt a ha).2.1⟩
  | fenced hcur hact htup =>
    cases hcur.symm.trans ha
    exact Or.inl ⟨htup, hact⟩
  | advanced _ hcur htup _ hact =>
    cases hcur.symm.trans ha
    exact Or.inl ⟨htup, hact⟩
  | moved htab => cases kind <;> simp [attemptScopedEvents, workItemMoves] at hscoped htab
  | cancelled hkind =>
    rcases hkind with rfl | rfl | rfl <;> simp [attemptScopedEvents] at hscoped

theorem isItemEvent_of_scoped (h : kind ∈ attemptScopedEvents) : kind.isItemEvent := by
  cases kind <;> first | rfl | simp [attemptScopedEvents] at h

theorem attempt?_eq_some :
    s.attempt? id = some a ↔ ∃ w, s.item? id = some w ∧ w.currentAttempt = some a := by
  simp [State.attempt?, Option.bind_eq_some_iff]

theorem step_attempt (h : step s x = some t) (ha : s.attempt? id = some a) :
    ∃ b, t.attempt? id = some b ∧ AttemptLe a b := by
  obtain ⟨w, hw, hcur⟩ := attempt?_eq_some.mp ha
  obtain ⟨status, kind, -, hkind⟩ := step_known h
  obtain ⟨w', hw', rfl | hmov⟩ := step_item h hkind hw
  · exact ⟨a, attempt?_eq_some.mpr ⟨w', hw', hcur⟩, AttemptLe.refl a⟩
  · obtain ⟨b, hb, hle⟩ := hmov.move.attemptLe hcur
    exact ⟨b, attempt?_eq_some.mpr ⟨w', hw', hb⟩, hle⟩

theorem step_tuple (h : step s x = some t) (hcrts : ¬Creates id x) :
    (t.attempt? id).map Attempt.tuple = (s.attempt? id).map Attempt.tuple := by
  obtain ⟨status, kind, -, hkind⟩ := step_known h
  cases hw : s.item? id with
  | none =>
    have ht : t.item? id = none := by
      by_contra hne
      obtain ⟨w', hw'⟩ := ne_none_iff_exists'.mp hne
      obtain ⟨w, hw'', -⟩ := step_item_of h hkind hw'
      rw [hw] at hw''
      cases hw''
    rw [State.attempt?, State.attempt?, hw, ht]
  | some w =>
    obtain ⟨w', hw', hmov⟩ := step_item h hkind hw
    rw [State.attempt?, State.attempt?, hw, hw', bind_some, bind_some]
    rcases hmov with rfl | hmov
    · rfl
    refine hmov.move.tuple_eq ?_
    rintro rfl
    refine hcrts ⟨hkind, ?_⟩
    rw [hmov.named rfl, (Table.key_of_get hw : w.workItemId = id)]

/-- A step that creates an Attempt for `id` installs its tuple; an Attempt it
replaces belonged to a blocked item, and had another identity and a lower generation. -/
theorem step_creates (h : step s x = some t) (hcrts : Creates id x) :
    ∃ b, t.attempt? id = some b ∧ b.tuple = x.1.tuple ∧
      ∀ a, s.attempt? id = some a → a.attemptId ≠ b.attemptId ∧
        a.dispatchGeneration < b.dispatchGeneration ∧
        ∃ w, s.item? id = some w ∧ w.status = .blocked := by
  obtain ⟨id', w, w', hid, hw, hw', hmove⟩ := step_named h hcrts.1 rfl
  cases hid.symm.trans hcrts.2
  obtain ⟨-, b, hb, htup, hrt⟩ := hmove.of_created
  refine ⟨b, attempt?_eq_some.mpr ⟨w', hw', hb⟩, htup, ?_⟩
  intro a ha
  obtain ⟨v, hv, hcur⟩ := attempt?_eq_some.mp ha
  cases hw.symm.trans hv
  obtain ⟨hblk, hlt, hne⟩ := hrt a hcur
  exact ⟨hne, hlt, w, hw, hblk⟩

/-! ### Runs -/

/-- **The current Attempt along a run.** -/
theorem exec_attempt (h : exec step s xs = some t) (ha : s.attempt? id = some a) :
    ∃ b, t.attempt? id = some b ∧ AttemptLe a b := by
  have hrel := exec_rel (I := fun _ => True)
    (R := fun u v => ∀ a, u.attempt? id = some a → ∃ b, v.attempt? id = some b ∧ AttemptLe a b)
    (fun _ _ _ _ _ => trivial) (fun u a ha => ⟨a, ha, AttemptLe.refl a⟩) ?_
    (fun u x v _ hv a ha => step_attempt hv ha) trivial h
  · exact hrel a ha
  · intro u v w huv hvw a ha
    obtain ⟨b, hb, hab⟩ := huv a ha
    obtain ⟨c, hc, hbc⟩ := hvw b hb
    exact ⟨c, hc, hab.trans hbc⟩

theorem step_refused (ha : s.attempt? id = some a) (hkind : x.1.kind = .known kind)
    (hscoped : kind ∈ attemptScopedEvents) (hid : x.1.workItemId = some id)
    (hold : (∃ n, x.1.dispatchGeneration = some n ∧ n < a.dispatchGeneration) ∨
      (x.1.tuple = a.tuple ∧ a.status.isActive = false)) : step s x = none := by
  by_contra hne
  obtain ⟨t, h⟩ := ne_none_iff_exists'.mp hne
  obtain ⟨w, hw, hcur⟩ := attempt?_eq_some.mp ha
  obtain ⟨id', v, v', hid', hv, -, hmove⟩ := step_named h hkind (isItemEvent_of_scoped hscoped)
  cases hid'.symm.trans hid
  cases hv.symm.trans hw
  -- the accepted event is about the current Attempt or a newer one, the refused is not
  rcases hmove.attempt_event hscoped hcur with ⟨htup, hact⟩ | ⟨n, hn, hlt⟩
  · rcases hold with ⟨n, hn, hlt⟩ | ⟨-, hinactive⟩
    · have hgen : some a.dispatchGeneration = x.1.dispatchGeneration :=
        congrArg (fun p => p.2.2) htup
      rw [hn, some_inj] at hgen
      omega
    · simp [hact] at hinactive
  · rcases hold with ⟨m, hm, hlt'⟩ | ⟨htup, -⟩
    · cases hn.symm.trans hm
      omega
    have hgen : x.1.dispatchGeneration = some a.dispatchGeneration :=
      congrArg (fun p => p.2.2) htup
    rw [hn, some_inj] at hgen
    omega

/-! ### Generations and fencing -/

/-- The generation of the Attempt that the input creates for `id`. -/
def createdGeneration (id : Identity) (x : Input) : Option Int :=
  if Creates id x then x.1.dispatchGeneration else none

/-- The generations created for an item increase, and none exceeds that of its
current Attempt. -/
theorem exec_generations (id : Identity) (h : exec step g xs = some t) :
    (xs.filterMap (createdGeneration id)).Pairwise (· < ·) ∧
      ∀ n ∈ xs.filterMap (createdGeneration id),
        ∃ a, t.attempt? id = some a ∧ n ≤ a.dispatchGeneration := by
  refine exec_history (I := fun ys u =>
    (ys.filterMap (createdGeneration id)).Pairwise (· < ·) ∧
      ∀ n ∈ ys.filterMap (createdGeneration id),
        ∃ a, u.attempt? id = some a ∧ n ≤ a.dispatchGeneration) ⟨.nil, by simp⟩ ?_ h
  rintro ys u x v - ⟨hpairwise, hbd⟩ hv
  have hkept : ∀ n ∈ ys.filterMap (createdGeneration id),
      ∃ a, v.attempt? id = some a ∧ n ≤ a.dispatchGeneration := by
    intro n hn
    obtain ⟨a, ha, hle⟩ := hbd n hn
    obtain ⟨b, hb, hab⟩ := step_attempt hv ha
    exact ⟨b, hb, hle.trans hab.generation_le⟩
  rw [filterMap_append]
  -- a new generation exceeds that of the current Attempt, which bounds all earlier ones
  by_cases hcrts : Creates id x
  · obtain ⟨b, hb, htup, hnewer⟩ := step_creates hv hcrts
    have hgen : createdGeneration id x = some b.dispatchGeneration := by
      rw [createdGeneration, if_pos hcrts]
      exact (congrArg (fun p => p.2.2) htup).symm
    have hsingle : [x].filterMap (createdGeneration id) = [b.dispatchGeneration] := by
      simp [hgen]
    rw [hsingle]
    constructor
    · refine pairwise_append.mpr ⟨hpairwise, pairwise_singleton _ _, ?_⟩
      intro n hn m hm
      obtain ⟨a, ha, hle⟩ := hbd n hn
      have hlt := (hnewer a ha).2.1
      rw [mem_singleton.mp hm]
      omega
    · exact forall_mem_append.mpr ⟨hkept, forall_mem_singleton.mpr ⟨b, hb, le_rfl⟩⟩
  · have hnone : [x].filterMap (createdGeneration id) = [] := by
      simp [createdGeneration, hcrts]
    rw [hnone, append_nil]
    exact ⟨hpairwise, hkept⟩

theorem isActive_eq_false_iff {status : AttemptStatus} :
    status.isActive = false ↔ status ∈ [.fenced, .completed, .failed, .cancelled] := by
  cases status <;> simp [AttemptStatus.isActive]

variable {ys : List Input}

/-- **Events of a spent Attempt are refused.**  Once the Attempt `a` was replaced, or
is terminal, no attempt event with its tuple is accepted again. -/
theorem exec_spent (ha : s.attempt? id = some a)
    (hys : exec step s ys = some t) (hb : t.attempt? id = some b)
    (hspent : b.tuple ≠ a.tuple ∨ b.status.isActive = false) {zs : List Input} {u : State}
    (hzs : exec step t zs = some u) (hkind : x.1.kind = .known kind)
    (hscoped : kind ∈ attemptScopedEvents) (hid : x.1.workItemId = some id)
    (htup : x.1.tuple = a.tuple) : step u x = none := by
  obtain ⟨b', hb', hab⟩ := exec_attempt hys ha
  obtain rfl : b' = b := some_inj.mp (hb'.symm.trans hb)
  obtain ⟨c, hc, hbc⟩ := exec_attempt hzs hb
  have hgen : x.1.dispatchGeneration = some a.dispatchGeneration :=
    congrArg (fun p => p.2.2) htup
  refine step_refused hc hkind hscoped hid ?_
  -- if the tuple still was that of `a`, then `a` was terminal, and what is terminal stays so
  by_cases hsame : b'.tuple = a.tuple
  · have hinactive := hspent.resolve_left (not_not.mpr hsame)
    rcases hbc with ⟨hctuple, hkeep, -⟩ | hlt
    · right
      refine ⟨htup.trans (hctuple.trans hsame).symm, ?_⟩
      rw [hkeep hinactive]
      exact hinactive
    · left
      rw [(tuple_eq_iff.mp hsame).2.2] at hlt
      exact ⟨_, hgen, hlt⟩
  · have hlt := hab.resolve_left fun h => hsame h.1
    exact Or.inl ⟨_, hgen, lt_of_lt_of_le hlt hbc.generation_le⟩

/-- **Attempt fencing.**  In every run the generations created for an item strictly
increase, and an attempt event with the tuple of an Attempt that was replaced or is
terminal is never accepted again. -/
theorem attempts_fenced (h : exec step g xs = some s) :
    (∀ id, (xs.filterMap (createdGeneration id)).Pairwise (· < ·)) ∧
      ∀ id a ys t b, s.attempt? id = some a → exec step s ys = some t →
        t.attempt? id = some b →
        (b.tuple ≠ a.tuple ∨ b.status ∈ [.fenced, .completed, .failed, .cancelled]) →
        ∀ zs u x kind, exec step t zs = some u → x.1.kind = .known kind →
          kind ∈ attemptScopedEvents → x.1.workItemId = some id → x.1.tuple = a.tuple →
          step u x = none := by
  refine ⟨fun id => (exec_generations id h).1, ?_⟩
  intro id a ys t b ha hys hb hspent zs u x kind hzs hkind hscoped hid htuple
  rw [← isActive_eq_false_iff] at hspent
  exact exec_spent ha hys hb hspent hzs hkind hscoped hid htuple

/-- An event of the Attempt `n` of the item "first", with generation `n`. -/
def retryEvent (eventId : Identity) (revision : Int) (kind : EventKind) (attempt : Identity)
    (generation : Int) : Input :=
  (sampleAttemptEvent eventId revision kind (ident .workItem "first") attempt
    (ident .dispatch "dispatch") generation, [])

def runningRun : List Input := [
  (sampleItemEvent (ident .event "e0") 0 .workItemEligible (ident .workItem "first"), []),
  retryEvent (ident .event "e1") 1 .attemptCreated (ident .attempt "a1") 0,
  retryEvent (ident .event "e2") 2 .attemptSubmitted (ident .attempt "a1") 0,
  retryEvent (ident .event "e3") 3 .attemptRunning (ident .attempt "a1") 0]

def retryRun : List Input := [
  (sampleItemEvent (ident .event "e4") 4 .workItemBlocked (ident .workItem "first"), []),
  retryEvent (ident .event "e5") 5 .attemptCreated (ident .attempt "a2") 1]

def firstTuple : Option Identity × Option Identity × Option Int :=
  (some (ident .attempt "a1"), some (ident .dispatch "dispatch"), some 0)

def secondTuple : Option Identity × Option Identity × Option Int :=
  (some (ident .attempt "a2"), some (ident .dispatch "dispatch"), some 1)

/-- The Attempt of the item runs under the first tuple, then the second replaces it. -/
theorem retry_attempts : ∃ s t a b, exec step requiredGenesis runningRun = some s ∧
      s.attempt? (ident .workItem "first") = some a ∧ a.tuple = firstTuple ∧
      a.status = .running ∧ exec step s retryRun = some t ∧
      t.attempt? (ident .workItem "first") = some b ∧ b.tuple = secondTuple := by
  obtain ⟨s, hs, hrunning⟩ := exec_of_trusting requiredGenesis_valid
    (p := fun s => (s.attempt? (ident .workItem "first")).map (fun a => (a.tuple, a.status)) =
      some (firstTuple, .running)) (by decide +kernel :
      (exec stepTrusting _ runningRun).any _)
  obtain ⟨t, ht, hretried⟩ := exec_of_trusting requiredGenesis_valid
    (p := fun t => (t.attempt? (ident .workItem "first")).map (fun a => a.tuple) =
      some secondTuple) (by decide +kernel :
      (exec stepTrusting _ (runningRun ++ retryRun)).any _)
  obtain ⟨s', hs', hrest⟩ := exec_append.mp ht
  cases hs.symm.trans hs'
  obtain ⟨a, ha, hpair⟩ := map_eq_some_iff.mp hrunning
  obtain ⟨b, hb, htup⟩ := map_eq_some_iff.mp hretried
  exact ⟨s, t, a, b, hs, ha, congrArg Prod.fst hpair, congrArg Prod.snd hpair, hrest, hb, htup⟩

theorem attempts_fenced_retry : ∃ t, exec step requiredGenesis (runningRun ++ retryRun) = some t ∧
      step t (retryEvent (ident .event "e6") 6 .attemptCompleted (ident .attempt "a1") 0) =
        none := by
  obtain ⟨s, t, a, b, hs, ha, hfirst, -, ht, hb, hsecond⟩ := retry_attempts
  refine ⟨t, exec_append.mpr ⟨s, hs, ht⟩, ?_⟩
  refine (attempts_fenced hs).2 _ a retryRun t b ha ht hb (Or.inl ?_) [] t _ .attemptCompleted
    rfl rfl (by decide) rfl hfirst.symm
  rw [hfirst, hsecond]
  decide

/-! ### Replacing an Attempt that was executing -/

def obligationsOf (s : State) (x : Input) : List String :=
  match reduce s x.1 x.2 with
  | .accepted a => a.obligations
  | _ => []

/-- All obligations emitted along a run. -/
def emitted (g : State) (xs : List Input) : List String :=
  (Run.trace step g xs).flatMap fun p => obligationsOf p.1 p.2.1

/-- **Replacement of an executing Attempt.**  An Attempt that was submitted or
running, and is no longer current, was replaced in one step of the run.  At that
step it was terminal, or an `adapter_cancel` obligation for it had been emitted, or
it was still executing and gave way to an accepted retry of its blocked item; in
that case no later attempt event with its tuple is accepted. -/
theorem replaced_attempt (hs : exec step g xs = some s) (ha : s.attempt? id = some a)
    (hexec : a.status = .submitted ∨ a.status = .running) {ys : List Input}
    (h : exec step g (xs ++ ys) = some t)
    (hgone : (t.attempt? id).map Attempt.tuple ≠ some a.tuple) :
    ∃ before y after u v c, ys = before ++ y :: after ∧
      exec step g (xs ++ before) = some u ∧ step u y = some v ∧
      exec step v after = some t ∧ u.attempt? id = some c ∧ c.tuple = a.tuple ∧
      (v.attempt? id).map Attempt.tuple ≠ some a.tuple ∧
      (c.status ∈ [.completed, .failed, .cancelled, .fenced] ∨
        adapterCancelObligation c ∈ emitted g (xs ++ before) ∨
        ((c.status = .submitted ∨ c.status = .running) ∧ Creates id y ∧
          (∃ w, u.item? id = some w ∧ w.status = .blocked) ∧
          ∀ zs r x kind, exec step v zs = some r → x.1.kind = .known kind →
            kind ∈ attemptScopedEvents → x.1.workItemId = some id → x.1.tuple = a.tuple →
            step r x = none)) := by
  obtain ⟨s', hs', hys⟩ := exec_append.mp h
  cases hs.symm.trans hs'
  obtain ⟨before, y, after, u, v, hsplit, hu, hv, hafter, ⟨c, hc, hctuple⟩, hlost⟩ :=
    exec_change (P := fun u => ∃ c, u.attempt? id = some c ∧ c.tuple = a.tuple)
      ⟨a, ha, rfl⟩ hys (by
        rintro ⟨c, hc, hctuple⟩
        rw [hc, map_some, hctuple] at hgone
        exact hgone rfl)
  have hchanged : (v.attempt? id).map Attempt.tuple ≠ some a.tuple := by
    intro heq
    obtain ⟨d, hd, hdtuple⟩ := map_eq_some_iff.mp heq
    exact hlost ⟨d, hd, hdtuple⟩
  refine ⟨before, y, after, u, v, c, hsplit, exec_append.mpr ⟨s, hs, hu⟩, hv, hafter, hc,
    hctuple, hchanged, ?_⟩
  -- only a retry changes the tuple, and it asks for a blocked item
  have hcreates : Creates id y := by
    by_contra hno
    refine hchanged ?_
    rw [step_tuple hv hno, hc, map_some, hctuple]
  obtain ⟨d, hd, -, hnewer⟩ := step_creates hv hcreates
  -- the Attempt was executing once, so it is not `created` any more
  have hle : AttemptLe a c := by
    obtain ⟨c', hc', hle⟩ := exec_attempt hu ha
    cases hc'.symm.trans hc
    exact hle
  have hstarted : c.status ≠ .created := by
    intro hcreated
    rcases hle with ⟨-, -, hback⟩ | hlt
    · rcases hexec with hexec | hexec <;> simp [hback hcreated] at hexec
    · rw [(tuple_eq_iff.mp hctuple).2.2] at hlt
      exact lt_irrefl _ hlt
  by_cases hrunning : c.status = .submitted ∨ c.status = .running
  · refine Or.inr (Or.inr ⟨hrunning, hcreates, (hnewer c hc).2.2, ?_⟩)
    intro zs r x kind hzs hkind hscoped hid htuple
    have hstep : exec step u [y] = some v := exec_cons.mpr ⟨v, hv, exec_nil v⟩
    refine exec_spent hc hstep hd (Or.inl ?_) hzs hkind hscoped hid (htuple.trans hctuple.symm)
    intro heq
    exact hlost ⟨d, hd, heq.trans hctuple⟩
  · left
    revert hstarted hrunning
    cases c.status <;> simp

theorem replaced_attempt_retry : ∃ before y after u v c, retryRun = before ++ y :: after ∧
      exec step requiredGenesis (runningRun ++ before) = some u ∧ step u y = some v ∧
      u.attempt? (ident .workItem "first") = some c ∧ c.tuple = firstTuple ∧
      (v.attempt? (ident .workItem "first")).map Attempt.tuple ≠ some firstTuple := by
  obtain ⟨s, t, a, b, hs, ha, hfirst, hrunning, ht, hb, hsecond⟩ := retry_attempts
  have hgone : (t.attempt? (ident .workItem "first")).map Attempt.tuple ≠ some a.tuple := by
    rw [hb, map_some, hfirst, hsecond]
    decide
  obtain ⟨before, y, after, u, v, c, hsplit, hu, hv, -, hc, hctuple, hchanged, -⟩ :=
    replaced_attempt hs ha (Or.inr hrunning) (exec_append.mpr ⟨s, hs, ht⟩) hgone
  rw [hfirst] at hctuple hchanged
  exact ⟨before, y, after, u, v, c, hsplit, hu, hv, hc, hctuple, hchanged⟩

/-- The obligations of the effect, without the checks before it. -/
def obligationsTrusting (s : State) (x : Input) : List String :=
  match s.status, x.1.kind with
  | .known status, .known kind =>
    ((transition s status x.1 kind).map (·.obligations)).getD []
  | _, _ => []

theorem obligationsOf_eq_trusting (h : step s x = some t) :
    obligationsOf s x = obligationsTrusting s x := by
  obtain ⟨r, hr, -⟩ := step_eq_some.mp h
  obtain ⟨status, kind, effect, hadm, heff, rfl⟩ := reduce_accepted_iff.mp hr
  rw [obligationsOf, hr]
  simp [obligationsTrusting, hadm.status_eq, hadm.kind_eq, heff, acceptedResult]

theorem emitted_eq_trusting (hg : genesisIsValid g) (xs : List Input) :
    emitted g xs =
      (Run.trace stepTrusting g xs).flatMap fun p => obligationsTrusting p.1 p.2.1 := by
  rw [emitted, ← trace_eq_trusting hg]
  refine flatMap_congr fun p hp => ?_
  exact obligationsOf_eq_trusting (Run.step_of_mem_trace hp)

/-- **A running Attempt can be replaced** by a retry, with no obligation emitted. -/
theorem replaced_while_running : genesisIsValid requiredGenesis = true ∧
      (∀ w ∈ requiredGenesis.workItems, w.currentAttempt = none) ∧
      (exec step requiredGenesis (runningRun ++ retryRun)).isSome = true ∧
      emitted requiredGenesis (runningRun ++ retryRun) = [] ∧
      ∃ p ∈ Run.trace step requiredGenesis (runningRun ++ retryRun),
        (p.1.attempt? (ident .workItem "first")).map Attempt.tuple = some firstTuple ∧
        (p.1.attempt? (ident .workItem "first")).map (·.status) = some .running ∧
        (p.2.2.attempt? (ident .workItem "first")).map Attempt.tuple = some secondTuple := by
  refine ⟨requiredGenesis_valid, by decide, ?_, ?_, ?_⟩
  · rw [exec_eq_trusting requiredGenesis_valid]
    decide +kernel
  · rw [emitted_eq_trusting requiredGenesis_valid]
    decide +kernel
  · rw [trace_eq_trusting requiredGenesis_valid]
    decide +kernel

/-! ### Identities of Attempts -/

/-- The identity of the Attempt that the input creates for `id`. -/
def createdAttemptId (id : Identity) (x : Input) : Option Identity :=
  if Creates id x then x.1.attemptId else none

/-- The identities of the Attempts that a run has created for `id`. -/
def createdIds (id : Identity) (xs : List Input) : List Identity :=
  xs.filterMap (createdAttemptId id)

/-- An input that creates an Attempt for `id` does not take the identity of an
Attempt that the run `ys` created for `id` before the current one. -/
def NotRecycled (id : Identity) (ys : List Input) (x : Input) : Prop :=
  ∀ i, createdAttemptId id x = some i → i ∉ (createdIds id ys).dropLast

theorem createdIds_append (id : Identity) (ys zs : List Input) :
    createdIds id (ys ++ zs) = createdIds id ys ++ createdIds id zs :=
  filterMap_append

theorem createdIds_concat_of_creates (hcrts : Creates id x) (htup : b.tuple = x.1.tuple) :
    createdIds id (ys ++ [x]) = createdIds id ys ++ [b.attemptId] := by
  have hid : x.1.attemptId = some b.attemptId := (congrArg Prod.fst htup).symm
  rw [createdIds_append]
  simp [createdIds, createdAttemptId, hcrts, hid]

theorem createdIds_concat_of_not (hcrts : ¬Creates id x) :
    createdIds id (ys ++ [x]) = createdIds id ys := by
  rw [createdIds_append]
  simp [createdIds, createdAttemptId, hcrts]

/-- The last identity created for an item is that of its current Attempt. -/
theorem exec_last_created (hinit : g.attempt? id = none) (h : exec step g xs = some t) :
    (createdIds id xs).getLast? = (t.attempt? id).map (·.attemptId) := by
  refine exec_history (I := fun ys u =>
    (createdIds id ys).getLast? = (u.attempt? id).map (·.attemptId)) ?_ ?_ h
  · simp [createdIds, hinit]
  · intro ys u x v _ ih hv
    by_cases hcrts : Creates id x
    · obtain ⟨b, hb, htup, -⟩ := step_creates hv hcrts
      rw [createdIds_concat_of_creates hcrts htup, getLast?_concat, hb]
      rfl
    rw [createdIds_concat_of_not hcrts, ih]
    have htup := congrArg (Option.map Prod.fst) (step_tuple hv hcrts)
    rw [Option.map_map, Option.map_map] at htup
    have hfst : ∀ o : Option Attempt,
        (o.map (Prod.fst ∘ Attempt.tuple)) = o.map fun a => some a.attemptId := fun _ => rfl
    rw [hfst, hfst] at htup
    cases hu : u.attempt? id <;> cases hv' : v.attempt? id <;> simp_all

theorem attempt?_none_of_items (h : ∀ w ∈ s.workItems, w.currentAttempt = none)
    (id : Identity) : s.attempt? id = none := by
  by_contra hne
  obtain ⟨a, ha⟩ := ne_none_iff_exists'.mp hne
  obtain ⟨w, hw, hcur⟩ := attempt?_eq_some.mp ha
  rw [h w (Table.mem_of_get hw)] at hcur
  cases hcur

/-- **Identities of Attempts.**  The Attempts of every item of a run have different
identities exactly when no input recycles the identity of an Attempt before the
current one. -/
theorem attempt_ids_nodup_iff (hinit : ∀ w ∈ g.workItems, w.currentAttempt = none)
    (h : exec step g xs = some t) :
    (∀ id, (createdIds id xs).Nodup) ↔
      ∀ id ys x zs, xs = ys ++ x :: zs → NotRecycled id ys x := by
  constructor
  · intro hnodup id ys x zs hsplit i hi hmem
    have hall := hnodup id
    have hx : createdIds id (x :: zs) = i :: createdIds id zs := by
      simp [createdIds, hi]
    rw [hsplit, createdIds_append, hx, nodup_append] at hall
    exact hall.2.2 i (mem_of_mem_dropLast hmem) i (by simp) rfl
  · intro hfresh id
    -- the new identity is not the current one, which the reducer checks, and not an
    -- earlier one, which it does not
    revert hfresh
    refine exec_history (I := fun ys _ =>
      (∀ id before x after, ys = before ++ x :: after → NotRecycled id before x) →
        (createdIds id ys).Nodup) ?_ ?_ h
    · intro _
      exact nodup_nil
    · intro ys u x v hu ih hv hfresh
      have hnodup := ih fun id before y after hsplit =>
        hfresh id before y (after ++ [x]) (by rw [hsplit]; simp)
      by_cases hcreates : Creates id x
      · obtain ⟨b, hb, htuple, hnewer⟩ := step_creates hv hcreates
        have hid : createdAttemptId id x = some b.attemptId := by
          rw [createdAttemptId, if_pos hcreates]
          exact (congrArg Prod.fst htuple).symm
        have hearlier : b.attemptId ∉ (createdIds id ys).dropLast :=
          hfresh id ys x [] rfl _ hid
        have hlast := exec_last_created (attempt?_none_of_items hinit id) hu
        rw [createdIds_concat_of_creates hcreates htuple, nodup_append]
        refine ⟨hnodup, nodup_singleton _, ?_⟩
        intro i hi j hj heq
        rw [heq, mem_singleton.mp hj] at hi
        rcases eq_nil_or_concat' (createdIds id ys) with hnil | ⟨init, last, hinit'⟩
        · simp [hnil] at hi
        rw [hinit', dropLast_concat] at hearlier
        rw [hinit', getLast?_concat] at hlast
        rw [hinit', mem_append, mem_singleton] at hi
        obtain ⟨a, ha, hlast'⟩ := map_eq_some_iff.mp hlast.symm
        rcases hi with hi | hi
        · exact hearlier hi
        · exact (hnewer a ha).1 (hlast'.trans hi.symm)
      · rw [createdIds_concat_of_not hcreates]
        exact hnodup

/-- After `retryRun` the item is blocked once more, and attempted under a new
identity. -/
def secondRetryRun (attempt : Identity) : List Input := [
  (sampleItemEvent (ident .event "e6") 6 .workItemBlocked (ident .workItem "first"), []),
  retryEvent (ident .event "e7") 7 .attemptCreated attempt 2]

theorem attempt_ids_nodup_retried : ∃ t, exec step requiredGenesis
        (runningRun ++ retryRun ++ secondRetryRun (ident .attempt "a3")) = some t ∧
      ∀ id ys x zs,
        runningRun ++ retryRun ++ secondRetryRun (ident .attempt "a3") = ys ++ x :: zs →
          NotRecycled id ys x := by
  obtain ⟨t, ht, -⟩ := exec_of_trusting requiredGenesis_valid
    (p := fun t => t.revision = 8) (by decide +kernel :
      (exec stepTrusting _ (runningRun ++ retryRun ++ secondRetryRun (ident .attempt "a3"))).any _)
  refine ⟨t, ht, (attempt_ids_nodup_iff (by decide) ht).mp fun id => ?_⟩
  by_cases hid : id = ident .workItem "first"
  · subst hid
    decide
  have hnone : ∀ x ∈ runningRun ++ retryRun ++ secondRetryRun (ident .attempt "a3"),
      x.1.workItemId = some (ident .workItem "first") := by decide
  have hnil : createdIds id
      (runningRun ++ retryRun ++ secondRetryRun (ident .attempt "a3")) = [] := by
    refine filterMap_eq_nil_iff.mpr fun x hx => if_neg ?_
    rintro ⟨-, hx'⟩
    exact hid (some_inj.mp (hx'.symm.trans (hnone x hx)))
  rw [hnil]
  exact nodup_nil

/-- **The identity of an Attempt can be recycled** by the second retry after it. -/
theorem attempt_id_recycled : genesisIsValid requiredGenesis = true ∧
      (∀ w ∈ requiredGenesis.workItems, w.currentAttempt = none) ∧
      (exec step requiredGenesis
        (runningRun ++ retryRun ++ secondRetryRun (ident .attempt "a1"))).isSome = true ∧
      ¬(createdIds (ident .workItem "first")
        (runningRun ++ retryRun ++ secondRetryRun (ident .attempt "a1"))).Nodup := by
  refine ⟨requiredGenesis_valid, by decide, ?_, by decide⟩
  rw [exec_eq_trusting requiredGenesis_valid]
  decide +kernel

end Valp.Kernel
