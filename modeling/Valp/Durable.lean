/-
Calls that change a durable state by one write after the other.

A call returns or raises, and it leaves the states that its writes have made durable, each
with a label for the write.  The process may stop behind any of them, so a stop is a list
of writes with which the list of all writes begins; what is found afterwards is the last
state of that list.

* `Durable.bind_eq_ok` — a sequence that returns, taken apart;
* `Durable.stop_append` — a stop lies in the first or in the second of two calls;
* `Durable.foldlM_rel` — what every turn of a loop keeps, the loop keeps;
* `Durable.foldlM_stop` — where a loop can stop;
* `Durable.foldlM_skip` — **a loop whose turns skip what is done can be started again**
  between two of its turns;
* `Durable.Ensures` — every write of a call is allowed where it is done, and what the call
  returns meets a condition, with one rule for each way to build a call;
* `Durable.Follows.keeps` — **what every allowed write keeps holds wherever a call stops**;
* `Durable.Completes` — a call that runs to its end, with its result and its writes;
* `Durable.Respects` — a call that does not look at a part of the state.
-/
import Mathlib.Tactic.Common

namespace Valp

open List

/-- A call over the durable state `δ`: its result, and the states behind its writes. -/
def Durable (ω δ ε α : Type) : Type := δ → Except ε α × List (ω × δ)

namespace Durable

variable {ω δ ε α β ι σ : Type}

/-- The state that `writes` leave behind when they begin at `d`. -/
def last (d : δ) (writes : List (ω × δ)) : δ := writes.foldl (fun _ w => w.2) d

@[simp] theorem last_nil (d : δ) : last d ([] : List (ω × δ)) = d := rfl

@[simp] theorem last_cons (d : δ) (w : ω × δ) (writes : List (ω × δ)) :
    last d (w :: writes) = last w.2 writes := rfl

@[simp] theorem last_append (d : δ) (first second : List (ω × δ)) :
    last d (first ++ second) = last (last d first) second :=
  foldl_append

instance : Monad (Durable ω δ ε) where
  pure a := fun _ => (.ok a, [])
  bind m f := fun d =>
    match m d with
    | (.error e, writes) => (.error e, writes)
    | (.ok a, writes) =>
      let (result, more) := f a (last d writes)
      (result, writes ++ more)

/-- A computation that does not look at the state. -/
def lift (x : Except ε α) : Durable ω δ ε α := fun _ => (x, [])

/-- A raised error. -/
def fail (e : ε) : Durable ω δ ε α := lift (.error e)

/-- A computation that reads the state. -/
def observe (f : δ → Except ε α) : Durable ω δ ε α := fun d => (f d, [])

/-- A call with a handler for its errors, which finds what was written before the error. -/
def rescue (m : Durable ω δ ε α) (handler : ε → Durable ω δ ε α) : Durable ω δ ε α := fun d =>
  match m d with
  | (.ok a, writes) => (.ok a, writes)
  | (.error e, writes) =>
    let (result, more) := handler e (last d writes)
    (result, writes ++ more)

/-- `if condition: …`. -/
def onlyIf (condition : Bool) (m : Durable ω δ ε Unit) : Durable ω δ ε Unit :=
  if condition then m else pure ()

/-- One write. -/
def write (label : ω) (f : δ → δ) : Durable ω δ ε Unit := fun d => (.ok (), [(label, f d)])

/-! ### Sequences -/

variable {x : Except ε α} {g : δ → Except ε α}

section Sequence

variable {m : Durable ω δ ε α} {f : α → Durable ω δ ε β} {d : δ} {a : α} {b : β}
  {ws first second done : List (ω × δ)}

@[simp] theorem pure_apply (a : α) (d : δ) : (pure a : Durable ω δ ε α) d = (.ok a, []) := rfl

@[simp] theorem lift_apply (x : Except ε α) (d : δ) : (lift x : Durable ω δ ε α) d = (x, []) := rfl

@[simp] theorem fail_apply (e : ε) (d : δ) : (fail e : Durable ω δ ε α) d = (.error e, []) := rfl

@[simp] theorem observe_apply (g : δ → Except ε α) (d : δ) :
    (observe g : Durable ω δ ε α) d = (g d, []) := rfl

theorem bind_of_ok (h : m d = (.ok a, first)) :
    (m >>= f) d = ((f a (last d first)).1, first ++ (f a (last d first)).2) := by
  show (match m d with | (.error e, writes) => _ | (.ok a, writes) => _) = _
  rw [h]

theorem bind_of_error {e : ε} (h : m d = (.error e, first)) :
    (m >>= f) d = (.error e, first) := by
  show (match m d with | (.error e, writes) => _ | (.ok a, writes) => _) = _
  rw [h]

/-- A first call without writes passes its value on. -/
theorem bind_of_pure (h : m d = (.ok a, [])) : (m >>= f) d = f a d := by
  rw [bind_of_ok h]
  rfl

@[simp] theorem lift_ok_bind (a : α) (f : α → Durable ω δ ε β) : lift (.ok a) >>= f = f a :=
  funext fun _ => bind_of_pure rfl

@[simp] theorem lift_error_bind (e : ε) (f : α → Durable ω δ ε β) :
    lift (.error e) >>= f = fail e := rfl

/-- A sequence returns if both its parts do; its writes are theirs. -/
theorem bind_eq_ok : (m >>= f) d = (.ok b, ws) ↔
    ∃ a first second, m d = (.ok a, first) ∧ f a (last d first) = (.ok b, second) ∧
      ws = first ++ second := by
  constructor
  · intro h
    rcases hm : m d with ⟨e | a, first⟩
    · rw [bind_of_error hm] at h
      cases h
    · rw [bind_of_ok hm, Prod.mk.injEq] at h
      exact ⟨a, first, _, rfl, Prod.ext h.1 rfl, h.2.symm⟩
  · rintro ⟨a, first, second, hm, hf, rfl⟩
    rw [bind_of_ok hm, hf]

theorem lift_bind_eq_ok :
    (lift x >>= f) d = (.ok b, ws) ↔ ∃ a, x = .ok a ∧ f a d = (.ok b, ws) := by
  cases x with
  | error e => simp
  | ok a => simp

theorem observe_bind_eq_ok :
    (observe g >>= f) d = (.ok b, ws) ↔ ∃ a, g d = .ok a ∧ f a d = (.ok b, ws) :=
  lift_bind_eq_ok (x := g d)

/-- A stop of two calls lies in the first of them, or behind a write of the second. -/
theorem stop_append (h : done <+: first ++ second) :
    done <+: first ∨ ∃ inner, inner <+: second ∧ inner ≠ [] ∧ done = first ++ inner := by
  obtain ⟨rest, h⟩ := h
  rcases append_eq_append_iff.mp h with ⟨inner, hfst, -⟩ | ⟨inner, hdone, hsnd⟩
  · exact .inl ⟨inner, hfst.symm⟩
  by_cases hnil : inner = []
  · rw [hdone, hnil, append_nil]
    exact .inl prefix_rfl
  · exact .inr ⟨inner, ⟨rest, hsnd.symm⟩, hnil, hdone⟩

end Sequence

/-! ### Loops -/

section Loop

variable {turn : σ → ι → Durable ω δ ε σ} {s t : σ} {d : δ} {items : List ι}
  {ws done : List (ω × δ)}

/-- **Where a loop stops**: before its first write, or behind a write of one turn. -/
theorem foldlM_stop (h : items.foldlM turn s d = (.ok t, ws)) (hdone : done <+: ws)
    (hne : done ≠ []) : ∃ before i after u v first inner writes rest, items = before ++ i :: after ∧
      before.foldlM turn s d = (.ok u, first) ∧ turn u i (last d first) = (.ok v, writes) ∧
      after.foldlM turn v (last (last d first) writes) = (.ok t, rest) ∧
      inner <+: writes ∧ inner ≠ [] ∧ done = first ++ inner ∧ ws = first ++ (writes ++ rest) := by
  induction items generalizing s d ws done with
  | nil =>
    obtain ⟨-, rfl⟩ : t = s ∧ ws = [] := by simpa [eq_comm] using h
    exact absurd (prefix_nil.mp hdone) hne
  | cons i items ih =>
    rw [foldlM_cons] at h
    obtain ⟨u, first, second, hturn, hrest, rfl⟩ := bind_eq_ok.mp h
    rcases stop_append hdone with hfst | ⟨inner, hinner, hinner', rfl⟩
    · -- in the first turn
      exact ⟨[], i, items, s, u, [], done, first, second, rfl, rfl, hturn, hrest, hfst, hne, rfl,
        rfl⟩
    obtain ⟨before, j, after, v, w, first', inner, writes, rest, rfl, hbef, hj, haft,
      hws, hne', rfl, rfl⟩ := ih hrest hinner hinner'
    refine ⟨i :: before, j, after, v, w, first ++ first', inner, writes, rest, rfl, ?_, ?_, ?_,
      hws, hne', by simp, by simp⟩
    · rw [foldlM_cons]
      exact bind_eq_ok.mpr ⟨u, first, first', hturn, hbef, rfl⟩
    · rwa [last_append]
    · rwa [last_append]

/-- **What every turn keeps, the loop keeps**: an invariant of the two states, and a relation
between the state before and the state behind it. -/
theorem foldlM_rel {I : δ → σ → Prop} {R : σ → σ → Prop} (hrefl : ∀ s, R s s)
    (htrans : ∀ s u t, R s u → R u t → R s t)
    (hturn : ∀ i ∈ items, ∀ s d t ws, I d s → turn s i d = (.ok t, ws) → I (last d ws) t ∧ R s t)
    (hs : I d s) (h : items.foldlM turn s d = (.ok t, ws)) : I (last d ws) t ∧ R s t := by
  induction items generalizing s d ws with
  | nil =>
    obtain ⟨rfl, rfl⟩ : t = s ∧ ws = [] := by simpa [eq_comm] using h
    exact ⟨hs, hrefl t⟩
  | cons i items ih =>
    rw [foldlM_cons] at h
    obtain ⟨u, first, second, hfst, hrest, rfl⟩ := bind_eq_ok.mp h
    obtain ⟨hu, hsu⟩ := hturn i (by simp) s d u first hs hfst
    obtain ⟨ht, hut⟩ := ih (fun j hj => hturn j (by simp [hj])) hu hrest
    rw [last_append]
    exact ⟨ht, htrans s u t hsu hut⟩

/-- A loop that begins with items for which nothing is to be done goes on with the others. -/
theorem foldlM_skip {before after : List ι} (hskip : ∀ i ∈ before, ∀ d, turn s i d = (.ok s, []))
    (d : δ) : (before ++ after).foldlM turn s d = after.foldlM turn s d := by
  induction before with
  | nil => rfl
  | cons i before ih =>
    rw [cons_append, foldlM_cons, bind_of_pure (hskip i (by simp) d)]
    exact ih fun j hj => hskip j (by simp [hj])

end Loop

/-! ### Allowed writes -/

variable {I : δ → Prop} {w : ω}

section Allowed

variable (apply : ω → δ → δ) (allowed : δ → ω → Prop)

/-- The writes behind `d` do what their labels say, and each of them is allowed where it is
done. -/
def Follows : δ → List (ω × δ) → Prop
  | _, [] => True
  | d, w :: writes => allowed d w.1 ∧ w.2 = apply w.1 d ∧ Follows w.2 writes

/-- From `d` every write of the call is allowed, and what the call returns meets `Q`. -/
structure Ensures (m : Durable ω δ ε α) (d : δ) (Q : α → δ → Prop) : Prop where
  writes : Follows apply allowed d (m d).2
  result : ∀ a, (m d).1 = .ok a → Q a (last d (m d).2)

variable {apply allowed} {m : Durable ω δ ε α} {f : α → Durable ω δ ε β} {d : δ}
  {Q : α → δ → Prop} {R : β → δ → Prop} {first second writes done : List (ω × δ)}

theorem Follows.append (hfst : Follows apply allowed d first)
    (hsnd : Follows apply allowed (last d first) second) :
    Follows apply allowed d (first ++ second) := by
  induction first generalizing d with
  | nil => exact hsnd
  | cons w first ih => exact ⟨hfst.1, hfst.2.1, ih hfst.2.2 hsnd⟩

theorem Follows.mono {allowed' : δ → ω → Prop} (h : Follows apply allowed d writes)
    (himp : ∀ d w, allowed d w → allowed' d w) : Follows apply allowed' d writes := by
  induction writes generalizing d with
  | nil => trivial
  | cons w writes ih => exact ⟨himp d w.1 h.1, h.2.1, ih h.2.2⟩

/-- **What every allowed write keeps holds wherever the call stops.**  The condition may look
at the labels of the writes done so far. -/
theorem Follows.keeps {I : δ → List ω → Prop}
    (hstep : ∀ d labels w, I d labels → allowed d w → I (apply w d) (labels ++ [w]))
    (h : Follows apply allowed d writes) (labels : List ω) (hd : I d labels)
    (hdone : done <+: writes) : I (last d done) (labels ++ done.map Prod.fst) := by
  induction done generalizing d labels writes with
  | nil => simpa using hd
  | cons w done ih =>
    obtain ⟨rest, rfl⟩ := hdone
    obtain ⟨hallow, hw, hrest⟩ := h
    have hnext : I w.2 (labels ++ [w.1]) := hw ▸ hstep d labels w.1 hd hallow
    simpa using ih hrest _ hnext (prefix_append done rest)

/-- Each write is allowed in a state that the writes before it have kept. -/
theorem Follows.mem (hstep : ∀ d w, I d → allowed d w → I (apply w d))
    (h : Follows apply allowed d writes) (hd : I d) (hw : w ∈ writes.map Prod.fst) :
    ∃ d', I d' ∧ allowed d' w := by
  induction writes generalizing d with
  | nil => cases hw
  | cons first writes ih =>
    rcases mem_cons.mp hw with rfl | hlat
    · exact ⟨d, hd, h.1⟩
    · exact ih h.2.2 (h.2.1 ▸ hstep d first.1 hd h.1) hlat

theorem Ensures.mono {Q' : α → δ → Prop} (h : Ensures apply allowed m d Q)
    (himp : ∀ a d', Q a d' → Q' a d') : Ensures apply allowed m d Q' :=
  ⟨h.writes, fun a ha => himp a _ (h.result a ha)⟩

theorem Ensures.allow {allowed' : δ → ω → Prop} (h : Ensures apply allowed m d Q)
    (himp : ∀ d w, allowed d w → allowed' d w) : Ensures apply allowed' m d Q :=
  ⟨h.writes.mono himp, h.result⟩

theorem Ensures.pure {a : α} (h : Q a d) :
    Ensures apply allowed (pure a : Durable ω δ ε α) d Q :=
  ⟨trivial, fun _ hb => Except.ok.inj hb ▸ h⟩

theorem Ensures.fail (e : ε) : Ensures apply allowed (fail e : Durable ω δ ε α) d Q :=
  ⟨trivial, fun _ hb => by cases hb⟩

theorem Ensures.observe (h : ∀ a, g d = .ok a → Q a d) :
    Ensures apply allowed (observe g : Durable ω δ ε α) d Q :=
  ⟨trivial, h⟩

theorem Ensures.lift (h : ∀ a, x = .ok a → Q a d) :
    Ensures apply allowed (lift x : Durable ω δ ε α) d Q :=
  ⟨trivial, h⟩

theorem Ensures.write {Q : Unit → δ → Prop} (hw : allowed d w) (h : Q () (apply w d)) :
    Ensures apply allowed (write w (apply w) : Durable ω δ ε Unit) d Q :=
  ⟨⟨hw, rfl, trivial⟩, fun _ _ => h⟩

/-- The second call begins where the first one ends. -/
theorem Ensures.bind (hm : Ensures apply allowed m d Q)
    (hf : ∀ a d', Q a d' → Ensures apply allowed (f a) d' R) :
    Ensures apply allowed (m >>= f) d R := by
  rcases hrun : m d with ⟨e | a, first⟩
  · have hws := hm.writes
    rw [hrun] at hws
    refine ⟨?_, fun b hb => ?_⟩
    · rw [bind_of_error hrun]
      exact hws
    · rw [bind_of_error hrun] at hb
      cases hb
  · have hws := hm.writes
    have hres := hm.result a
    rw [hrun] at hws hres
    have hnext := hf a _ (hres rfl)
    refine ⟨?_, fun b hb => ?_⟩
    · rw [bind_of_ok hrun]
      exact hws.append hnext.writes
    · rw [bind_of_ok hrun] at hb ⊢
      rw [last_append]
      exact hnext.result b hb

theorem Ensures.lift_bind (h : ∀ a, x = .ok a → Ensures apply allowed (f a) d R) :
    Ensures apply allowed (Durable.lift x >>= f) d R := by
  refine .bind (Q := fun a d' => x = .ok a ∧ d = d') (.lift fun a ha => ⟨ha, rfl⟩) ?_
  rintro a _ ⟨ha, rfl⟩
  exact h a ha

theorem Ensures.observe_bind (h : ∀ a, g d = .ok a → Ensures apply allowed (f a) d R) :
    Ensures apply allowed (Durable.observe g >>= f) d R := by
  refine .bind (Q := fun a d' => g d = .ok a ∧ d = d') (.observe fun a ha => ⟨ha, rfl⟩) ?_
  rintro a _ ⟨ha, rfl⟩
  exact h a ha

theorem Ensures.write_bind {f : Unit → Durable ω δ ε β} (hw : allowed d w)
    (h : Ensures apply allowed (f ()) (apply w d) R) :
    Ensures apply allowed (Durable.write w (apply w) >>= f) d R := by
  refine .bind (Q := fun _ d' => apply w d = d') (.write hw rfl) ?_
  rintro - _ rfl
  exact h

theorem Ensures.onlyIf {condition : Bool} {m : Durable ω δ ε Unit} {Q : Unit → δ → Prop}
    (hm : condition → Ensures apply allowed m d Q) (hno : condition = false → Q () d) :
    Ensures apply allowed (onlyIf condition m) d Q := by
  cases condition with
  | true => exact hm rfl
  | false => exact .pure (hno rfl)

/-- A handler begins wherever the call was when it raised, so of that state only what allowed
writes keep is known. -/
theorem Ensures.rescue {handler : ε → Durable ω δ ε α}
    (hkeep : ∀ d w, I d → allowed d w → I (apply w d)) (hd : I d)
    (hm : Ensures apply allowed m d Q)
    (hhandler : ∀ e d', I d' → Ensures apply allowed (handler e) d' Q) :
    Ensures apply allowed (rescue m handler) d Q := by
  have hws := hm.writes
  have hres := hm.result
  rcases hrun : m d with ⟨e | a, first⟩
  · rw [hrun] at hws
    have hI : I (last d first) := by
      simpa using hws.keeps (I := fun d _ => I d)
        (fun d _ w hI hw => hkeep d w hI hw) [] hd prefix_rfl
    have hnext := hhandler e _ hI
    have heq : Durable.rescue m handler d =
        ((handler e (last d first)).1, first ++ (handler e (last d first)).2) := by
      rw [Durable.rescue, hrun]
    refine ⟨?_, fun b hb => ?_⟩
    · rw [heq]
      exact hws.append hnext.writes
    · rw [heq] at hb ⊢
      rw [last_append]
      exact hnext.result b hb
  · have heq : Durable.rescue m handler d = (.ok a, first) := by
      rw [Durable.rescue, hrun]
    rw [hrun] at hws hres
    refine ⟨?_, fun b hb => ?_⟩
    · rw [heq]
      exact hws
    · rw [heq] at hb ⊢
      exact hres b hb

/-- What allowed writes keep holds at the end too. -/
theorem Ensures.keep (h : Ensures apply allowed m d Q)
    (hkeep : ∀ d w, I d → allowed d w → I (apply w d)) (hd : I d) :
    Ensures apply allowed m d fun a d' => Q a d' ∧ I d' := by
  refine ⟨h.writes, fun a ha => ⟨h.result a ha, ?_⟩⟩
  simpa using h.writes.keeps (I := fun d _ => I d)
    (fun d _ w hI hw => hkeep d w hI hw) [] hd prefix_rfl

end Allowed

/-! ### Calls that run to their end -/

section Completes

variable (apply : ω → δ → δ)

/-- Writes one after the other, each with the state behind it. -/
def trail : δ → List ω → List (ω × δ)
  | _, [] => []
  | d, w :: labels => (w, apply w d) :: trail (apply w d) labels

/-- The call returns `a` and writes what the labels say. -/
def Completes (m : Durable ω δ ε α) (d : δ) (a : α) (labels : List ω) : Prop :=
  m d = (.ok a, trail apply d labels)

variable {apply} {m : Durable ω δ ε α} {f : α → Durable ω δ ε β} {d : δ} {a : α} {b : β}
  {first second : List ω}

theorem last_trail (d : δ) (labels : List ω) :
    last d (trail apply d labels) = labels.foldl (fun d w => apply w d) d := by
  induction labels generalizing d with
  | nil => rfl
  | cons w labels ih => rw [trail, last_cons, ih, foldl_cons]

theorem map_fst_trail (d : δ) (labels : List ω) :
    (trail apply d labels).map Prod.fst = labels := by
  induction labels generalizing d with
  | nil => rfl
  | cons w labels ih => rw [trail, map_cons, ih]

theorem trail_append (d : δ) (first second : List ω) :
    trail apply d (first ++ second) =
      trail apply d first ++ trail apply (first.foldl (fun d w => apply w d) d) second := by
  induction first generalizing d with
  | nil => rfl
  | cons w first ih => rw [cons_append, trail, ih, trail, foldl_cons, cons_append]

theorem Completes.pure (a : α) (d : δ) :
    Completes apply (pure a : Durable ω δ ε α) d a [] := rfl

theorem Completes.observe (h : g d = .ok a) :
    Completes apply (observe g : Durable ω δ ε α) d a [] := by
  rw [Completes, observe_apply, h]
  rfl

theorem Completes.lift (h : x = .ok a) : Completes apply (lift x : Durable ω δ ε α) d a [] := by
  rw [Completes, lift_apply, h]
  rfl

theorem Completes.write (w : ω) (d : δ) :
    Completes apply (write w (apply w) : Durable ω δ ε Unit) d () [w] := rfl

theorem Completes.bind (hm : Completes apply m d a first)
    (hf : Completes apply (f a) (first.foldl (fun d w => apply w d) d) b second) :
    Completes apply (m >>= f) d b (first ++ second) := by
  rw [Completes] at hm hf ⊢
  rw [bind_of_ok hm, last_trail, hf, trail_append]

/-- A second call that raises behind a first one that returns. -/
theorem Completes.bind_error {e : ε} {writes : List (ω × δ)} (hm : Completes apply m d a first)
    (hf : f a (first.foldl (fun d w => apply w d) d) = (.error e, writes)) :
    (m >>= f) d = (.error e, trail apply d first ++ writes) := by
  rw [Completes] at hm
  rw [bind_of_ok hm, last_trail, hf]

/-- The writes of the second call come behind those of a first one that returns. -/
theorem Completes.mem_bind (hm : Completes apply m d a first)
    (hw : w ∈ (f a (first.foldl (fun d w => apply w d) d)).2.map Prod.fst) :
    w ∈ ((m >>= f) d).2.map Prod.fst := by
  rw [Completes] at hm
  rw [bind_of_ok hm, last_trail, map_append]
  exact mem_append_right _ hw

/-- A first call without writes. -/
theorem Completes.seq (hm : Completes apply m d a []) (hf : Completes apply (f a) d b second) :
    Completes apply (m >>= f) d b second :=
  hm.bind hf

variable {condition : Bool}

theorem Completes.onlyIf {m : Durable ω δ ε Unit} {labels : List ω}
    (hm : condition → Completes apply m d () labels) :
    Completes apply (onlyIf condition m) d () (if condition then labels else []) := by
  rw [Durable.onlyIf]
  split
  · exact hm ‹_›
  · exact .pure () d

theorem Completes.rescue {handler : ε → Durable ω δ ε α} (hm : Completes apply m d a first) :
    Completes apply (rescue m handler) d a first := by
  rw [Completes] at hm ⊢
  rw [Durable.rescue, hm]

end Completes

/-! ### Calls that do not look at a part of the state -/

section Respects

variable (R : δ → δ → Prop)

/-- From states that `R` relates the call returns or raises the same, and the states that it
leaves are related again. -/
def Respects (m : Durable ω δ ε α) : Prop :=
  ∀ d d', R d d' → (m d).1 = (m d').1 ∧ R (last d (m d).2) (last d' (m d').2)

variable {R} {m : Durable ω δ ε α} {f : α → Durable ω δ ε β}

theorem Respects.lift (x : Except ε α) : Respects R (lift x : Durable ω δ ε α) :=
  fun _ _ h => ⟨rfl, h⟩

theorem Respects.pure (a : α) : Respects R (pure a : Durable ω δ ε α) :=
  Respects.lift (.ok a)

theorem Respects.observe (hg : ∀ d d', R d d' → g d = g d') :
    Respects R (observe g : Durable ω δ ε α) :=
  fun d d' h => ⟨hg d d' h, h⟩

theorem Respects.write {g : δ → δ} (hg : ∀ d d', R d d' → R (g d) (g d')) :
    Respects R (write w g : Durable ω δ ε Unit) :=
  fun d d' h => ⟨rfl, hg d d' h⟩

theorem Respects.onlyIf {m : Durable ω δ ε Unit} (hm : Respects R m) :
    Respects R (onlyIf condition m) := by
  rw [Durable.onlyIf]
  split
  · exact hm
  · exact Respects.pure ()

theorem Respects.bind (hm : Respects R m) (hf : ∀ a, Respects R (f a)) :
    Respects R (m >>= f) := by
  intro d d' h
  obtain ⟨hres, hlast⟩ := hm d d' h
  rcases hd : m d with ⟨e | a, first⟩
  · rcases hd' : m d' with ⟨e' | a', first'⟩
    · rw [bind_of_error hd, bind_of_error hd']
      rw [hd, hd'] at hres hlast
      exact ⟨congrArg Except.error (Except.error.inj hres), hlast⟩
    · rw [hd, hd'] at hres
      cases hres
  · rcases hd' : m d' with ⟨e' | a', first'⟩
    · rw [hd, hd'] at hres
      cases hres
    rw [hd, hd'] at hres hlast
    cases hres
    rw [bind_of_ok hd, bind_of_ok hd', last_append, last_append]
    exact hf a _ _ hlast

end Respects

end Durable

end Valp
