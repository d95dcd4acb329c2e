/-
Runs of a machine whose step may refuse its input.

A machine is a function `step : σ → α → Option σ`: `step s a = some t` says that
the input `a` is accepted in state `s` and leads to `t`, `none` that it is
refused.  `exec step s xs` feeds the inputs `xs` one after the other and is
defined exactly when every one of them is accepted; `trace step s xs` lists the
accepted steps, each with the state before and the state after it.

* `exec_append`, `exec_concat` — runs compose and decompose;
* `exec_invariant` — a property preserved by every step holds along every run;
* `exec_history` — the same for a property of the state *and* the inputs read;
* `exec_rel` — a preorder that every step respects relates the ends of a run;
* `exec_change` — a property lost along a run is lost in one step;
* `exec_congr` — machines that agree on an invariant have the same runs;
* `exec_guarded` — the invariant rule for runs whose steps all meet a condition;
* `mem_trace_iff` — a step of the trace is a point at which the run splits.
-/
import Mathlib.Data.List.Induction
import Mathlib.Tactic.Common

namespace Run

variable {σ α : Type*} {step : σ → α → Option σ}

/-- The state after the inputs `xs`, provided every one of them is accepted. -/
def exec (step : σ → α → Option σ) : σ → List α → Option σ
  | s, [] => some s
  | s, a :: xs => (step s a).bind fun t => exec step t xs

/-- The accepted steps of a run: state before, input, state after. -/
def trace (step : σ → α → Option σ) : σ → List α → List (σ × α × σ)
  | _, [] => []
  | s, a :: xs =>
    match step s a with
    | none => []
    | some t => (s, a, t) :: trace step t xs

@[simp] theorem exec_nil (s : σ) : exec step s [] = some s := rfl

@[simp] theorem trace_nil (s : σ) : trace step s [] = [] := rfl

variable {s t : σ} {a : α} {xs : List α}

theorem exec_cons :
    exec step s (a :: xs) = some t ↔ ∃ u, step s a = some u ∧ exec step u xs = some t := by
  simp [exec, Option.bind_eq_some_iff]

theorem exec_append {ys : List α} : exec step s (xs ++ ys) = some t ↔
      ∃ u, exec step s xs = some u ∧ exec step u ys = some t := by
  induction xs generalizing s with
  | nil => simp
  | cons a xs ih =>
    rw [List.cons_append, exec_cons]
    constructor
    · rintro ⟨u, hu, hrest⟩
      obtain ⟨v, hv, hys⟩ := ih.mp hrest
      exact ⟨v, exec_cons.mpr ⟨u, hu, hv⟩, hys⟩
    · rintro ⟨v, hv, hys⟩
      obtain ⟨u, hu, hxs⟩ := exec_cons.mp hv
      exact ⟨u, hu, ih.mpr ⟨v, hxs, hys⟩⟩

theorem exec_concat :
    exec step s (xs ++ [a]) = some t ↔ ∃ u, exec step s xs = some u ∧ step u a = some t := by
  rw [exec_append]
  refine exists_congr fun u => and_congr_right fun _ => ?_
  rw [exec_cons]
  simp

/-! ### Invariants of runs -/

/-- **History rule.**  A property of the inputs read so far and the state
reached, true at the start and preserved by every step, holds at the end of
every run. -/
theorem exec_history {I : List α → σ → Prop} (h0 : I [] s)
    (hstep : ∀ ys u a v, exec step s ys = some u → I ys u → step u a = some v → I (ys ++ [a]) v)
    (h : exec step s xs = some t) : I xs t := by
  induction xs using List.reverseRecOn generalizing t with
  | nil =>
    rw [exec_nil, Option.some_inj] at h
    exact h ▸ h0
  | append_singleton ys a ih =>
    obtain ⟨u, hu, hv⟩ := exec_concat.mp h
    exact hstep ys u a t hu (ih hu) hv

variable {I : σ → Prop}

/-- **Invariant rule.**  A property preserved by every step holds at the end of
every run that starts in it. -/
theorem exec_invariant
    (hstep : ∀ u a v, I u → step u a = some v → I v) (h0 : I s) (h : exec step s xs = some t) :
    I t :=
  exec_history (I := fun _ u => I u) h0 (fun _ u a v _ hu hv => hstep u a v hu hv) h

/-- **Preorder rule.**  If every step from a state satisfying the invariant `I`
goes up in the preorder `R`, so does every run. -/
theorem exec_rel {R : σ → σ → Prop} (hI : ∀ u a v, I u → step u a = some v → I v)
    (hrefl : ∀ u, R u u) (htrans : ∀ u v w, R u v → R v w → R u w)
    (hstep : ∀ u a v, I u → step u a = some v → R u v) (h0 : I s) (h : exec step s xs = some t) :
    R s t := by
  refine (exec_history (I := fun _ u => I u ∧ R s u) ⟨h0, hrefl s⟩ ?_ h).2
  rintro _ u a v _ ⟨hu, hsu⟩ hv
  exact ⟨hI u a v hu hv, htrans _ _ _ hsu (hstep u a v hu hv)⟩

/-- A property that holds at the start of a run and not at its end is lost in one
of its steps. -/
theorem exec_change {P : σ → Prop} (h0 : P s) (h : exec step s xs = some t) (ht : ¬P t) :
    ∃ ys a zs u v, xs = ys ++ a :: zs ∧ exec step s ys = some u ∧ step u a = some v ∧
      exec step v zs = some t ∧ P u ∧ ¬P v := by
  induction xs generalizing s with
  | nil =>
    obtain rfl : s = t := by simpa using h
    exact absurd h0 ht
  | cons a xs ih =>
    obtain ⟨u, hu, hxs⟩ := exec_cons.mp h
    by_cases hPu : P u
    · obtain ⟨ys, b, zs, v, w, rfl, hys, hw, hzs, hPv, hPw⟩ := ih hPu hxs
      exact ⟨a :: ys, b, zs, v, w, rfl, exec_cons.mpr ⟨u, hu, hys⟩, hw, hzs, hPv, hPw⟩
    · exact ⟨[], a, xs, s, u, rfl, rfl, hu, hxs, h0, hPu⟩

/-- Two machines that agree wherever the invariant `I` holds have the same runs. -/
theorem exec_congr {step' : σ → α → Option σ} (hI : ∀ u a v, I u → step u a = some v → I v)
    (heq : ∀ u a, I u → step u a = step' u a) (h0 : I s) (xs : List α) :
    exec step s xs = exec step' s xs := by
  induction xs generalizing s with
  | nil => rfl
  | cons a xs ih =>
    rw [exec, exec, ← heq s a h0]
    cases hu : step s a with
    | none => rfl
    | some u => exact ih (hI s a u h0 hu)

/-! ### Traces -/

variable {u : σ}

theorem trace_append (ys : List α) (h : exec step s xs = some u) :
    trace step s (xs ++ ys) = trace step s xs ++ trace step u ys := by
  induction xs generalizing s with
  | nil =>
    rw [exec_nil, Option.some_inj] at h
    simp [h]
  | cons a xs ih =>
    obtain ⟨t, ht, hxs⟩ := exec_cons.mp h
    simp only [List.cons_append, trace, ht, ih hxs]

theorem trace_concat {v : σ} (h : exec step s xs = some u) (hv : step u a = some v) :
    trace step s (xs ++ [a]) = trace step s xs ++ [(u, a, v)] := by
  rw [trace_append [a] h]
  simp [trace, hv]

theorem step_of_mem_trace {v : σ} (h : (u, a, v) ∈ trace step s xs) : step u a = some v := by
  induction xs generalizing s with
  | nil => simp at h
  | cons b xs ih =>
    rw [trace] at h
    split at h
    case h_1 => simp at h
    case h_2 w hw =>
      rcases List.mem_cons.mp h with heq | hmem
      · obtain ⟨rfl, rfl, rfl⟩ : u = s ∧ a = b ∧ v = w := by simpa using heq
        exact hw
      · exact ih hmem

/-- The steps of the trace are the points at which the run splits. -/
theorem mem_trace_iff {v : σ} (h : exec step s xs = some t) : (u, a, v) ∈ trace step s xs ↔
      ∃ ys zs, xs = ys ++ a :: zs ∧ exec step s ys = some u ∧ step u a = some v ∧
        exec step v zs = some t := by
  induction xs generalizing s with
  | nil => simp
  | cons b xs ih =>
    obtain ⟨w, hw, hxs⟩ := exec_cons.mp h
    simp only [trace, hw, List.mem_cons]
    constructor
    · rintro (heq | hmem)
      · obtain ⟨rfl, rfl, rfl⟩ : u = s ∧ a = b ∧ v = w := by simpa using heq
        exact ⟨[], xs, rfl, rfl, hw, hxs⟩
      · obtain ⟨ys, zs, rfl, hys, hv, hzs⟩ := (ih hxs).mp hmem
        exact ⟨b :: ys, zs, rfl, exec_cons.mpr ⟨w, hw, hys⟩, hv, hzs⟩
    · rintro ⟨ys, zs, heq, hys, hv, hzs⟩
      rcases ys with _ | ⟨c, ys⟩
      · obtain ⟨rfl, rfl⟩ : b = a ∧ xs = zs := by simpa using heq
        obtain rfl : s = u := by simpa using hys
        cases hv.symm.trans hw
        exact Or.inl rfl
      · obtain ⟨rfl, rfl⟩ : b = c ∧ xs = ys ++ a :: zs := by simpa using heq
        obtain ⟨w', hw', hys'⟩ := exec_cons.mp hys
        cases hw'.symm.trans hw
        exact Or.inr ((ih hxs).mpr ⟨ys, zs, rfl, hys', hv, hzs⟩)

/-- Two machines that agree wherever the invariant `I` holds have the same traces. -/
theorem trace_congr {step' : σ → α → Option σ} (hI : ∀ u a v, I u → step u a = some v → I v)
    (heq : ∀ u a, I u → step u a = step' u a) (h0 : I s) (xs : List α) :
    trace step s xs = trace step' s xs := by
  induction xs generalizing s with
  | nil => rfl
  | cons a xs ih =>
    rw [trace, trace, ← heq s a h0]
    cases hu : step s a with
    | none => rfl
    | some u =>
      show (s, a, u) :: trace step u xs = (s, a, u) :: trace step' u xs
      rw [ih (hI s a u h0 hu)]

/-- **Guarded invariant rule.**  A property preserved by every step that meets the
condition `C` holds before every step, and at the end, of a run whose steps all
meet it. -/
theorem exec_guarded {C : σ → α → Prop}
    (hstep : ∀ u a v, I u → C u a → step u a = some v → I v) (h0 : I s)
    (h : exec step s xs = some t)
    (hC : ∀ p ∈ trace step s xs, C p.1 p.2.1) : I t ∧ ∀ p ∈ trace step s xs, I p.1 := by
  induction xs generalizing s with
  | nil =>
    obtain rfl : s = t := by simpa using h
    exact ⟨h0, by simp⟩
  | cons a xs ih =>
    obtain ⟨u, hu, hxs⟩ := exec_cons.mp h
    simp only [trace, hu, List.mem_cons, forall_eq_or_imp] at hC ⊢
    obtain ⟨hend, hbef⟩ := ih (hstep s a u h0 hC.1 hu) hxs hC.2
    exact ⟨hend, h0, hbef⟩

end Run
