import Mathlib.Logic.Basic

/-!
# Runs of a partial step function

A system given by `step : σ → ε → Option σ`, where `none` means that the event
cannot happen in that state.  `run` applies a list of events in order and
fails as soon as one of them cannot happen; `Reachable init` is the set of
states some run from `init` ends in.

The rules every invariant proof of a system uses are here once:
`run_append` cuts a run in two, `run_induction` carries a property along a
run, and `Reachable.induction_on` proves a property of every reachable state
from the initial state and one step.
-/

namespace Run

variable {σ ε : Type} (step : σ → ε → Option σ)

/-- Apply the events in order; `none` as soon as one cannot happen. -/
def run : σ → List ε → Option σ
  | s, [] => some s
  | s, e :: es =>
    match step s e with
    | some s' => run s' es
    | none => none

@[simp] theorem run_nil (s : σ) : run step s [] = some s := rfl

theorem run_cons (s : σ) (e : ε) (es : List ε) :
    run step s (e :: es) = (step s e).bind fun s' => run step s' es := by
  simp only [run]
  cases step s e <;> rfl

theorem run_cons_of_step {s s' : σ} {e : ε} (h : step s e = some s') (es : List ε) :
    run step s (e :: es) = run step s' es := by
  simp [run, h]

/-- A run of two lists is the run of the second from where the first ends. -/
theorem run_append (s : σ) (es es' : List ε) :
    run step s (es ++ es') = (run step s es).bind fun s' => run step s' es' := by
  induction es generalizing s with
  | nil => rfl
  | cons e es ih =>
    rw [List.cons_append, run_cons, run_cons]
    cases step s e with
    | none => rfl
    | some s' => exact ih s'

/-- Two step functions that agree on the events of a run agree on the run. -/
theorem run_congr {step' : σ → ε → Option σ} (s : σ) (es : List ε)
    (h : ∀ e ∈ es, ∀ s, step s e = step' s e) : run step s es = run step' s es := by
  induction es generalizing s with
  | nil => rfl
  | cons e es ih =>
    rw [run_cons, run_cons, h e List.mem_cons_self s]
    cases step' s e with
    | none => rfl
    | some s' => exact ih s' fun e' he' => h e' (List.mem_cons_of_mem e he')

/-- A property that every step keeps holds at the end of every run. -/
theorem run_induction {P : σ → Prop} (hstep : ∀ s e s', P s → step s e = some s' → P s')
    {s s' : σ} {es : List ε} (h : run step s es = some s') (hs : P s) : P s' := by
  induction es generalizing s with
  | nil =>
    cases h
    exact hs
  | cons e es ih =>
    rw [run_cons] at h
    cases hst : step s e with
    | none => rw [hst] at h; cases h
    | some s₁ =>
      rw [hst] at h
      exact ih h (hstep s e s₁ hs hst)

/-- A property that every step of an allowed event keeps holds at the end of
every run of allowed events. -/
theorem run_induction_of {G : ε → Prop} {P : σ → Prop}
    (hstep : ∀ s e s', G e → P s → step s e = some s' → P s') {s s' : σ} {es : List ε}
    (hes : ∀ e ∈ es, G e) (h : run step s es = some s') (hs : P s) : P s' := by
  induction es generalizing s with
  | nil =>
    cases h
    exact hs
  | cons e es ih =>
    rw [run_cons] at h
    cases hst : step s e with
    | none => rw [hst] at h; cases h
    | some s₁ =>
      rw [hst] at h
      exact ih (fun e' he' => hes e' (List.mem_cons_of_mem e he')) h
        (hstep s e s₁ (hes e List.mem_cons_self) hs hst)

/-- The states some run from `init` ends in. -/
inductive Reachable (init : σ) : σ → Prop
  | init : Reachable init init
  | step {s s' : σ} (e : ε) : Reachable init s → step s e = some s' → Reachable init s'

/-- A property that holds initially and that every step keeps holds of every
reachable state. -/
theorem Reachable.induction_on {init : σ} {P : σ → Prop} (h0 : P init)
    (hstep : ∀ s e s', P s → step s e = some s' → P s') {s : σ}
    (h : Reachable step init s) : P s := by
  induction h with
  | init => exact h0
  | step e _ hs ih => exact hstep _ e _ ih hs

/-- The end of a run from a reachable state is reachable. -/
theorem Reachable.run {init s s' : σ} {es : List ε} (h : Reachable step init s)
    (hr : run step s es = some s') : Reachable step init s' := by
  induction es generalizing s with
  | nil =>
    cases hr
    exact h
  | cons e es ih =>
    rw [run_cons] at hr
    cases hs : step s e with
    | none => rw [hs] at hr; cases hr
    | some s₁ =>
      rw [hs] at hr
      exact ih (Reachable.step e h hs) hr

end Run
