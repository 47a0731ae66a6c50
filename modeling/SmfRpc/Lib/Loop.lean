import Mathlib.Order.Basic

/-!
# `while` loops with fuel

A loop whose body either goes round again with a new state (`step s = some s'`)
or leaves the loop (`step s = none`: the condition failed, or a `break`).
`Loop.run step fuel s` runs at most `fuel` iterations and answers `none` when
the fuel runs out first, so a loop that never ends answers `none` for every
fuel.

The rules: more fuel gives the same answer (`run_mono`); a measure that every
iteration lowers bounds the fuel a run needs (`run_of_measure`); what every
iteration keeps holds where the loop ends (`run_induction`); and a loop whose
every iteration keeps a state from which it can go round again never ends
(`run_eq_none_of_forever`).
-/

namespace Loop

variable {σ : Type*} (step : σ → Option σ)

/-- At most `fuel` iterations of the loop from `s`. -/
def run : Nat → σ → Option σ
  | 0, _ => none
  | n + 1, s =>
    match step s with
    | none => some s
    | some s' => run n s'

variable {step}

@[simp] theorem run_zero (s : σ) : run step 0 s = none := rfl

theorem run_succ_of_none {s : σ} (h : step s = none) (n : Nat) : run step (n + 1) s = some s := by
  simp [run, h]

theorem run_succ_of_some {s s' : σ} (h : step s = some s') (n : Nat) :
    run step (n + 1) s = run step n s' := by
  simp [run, h]

/-- A run that ends within its fuel ends the same way with more. -/
theorem run_mono {n : Nat} {s r : σ} (h : run step n s = some r) {m : Nat} (hnm : n ≤ m) :
    run step m s = some r := by
  induction n generalizing s m with
  | zero => cases h
  | succ n ih =>
    obtain ⟨m, rfl⟩ : ∃ k, m = k + 1 := ⟨m - 1, by omega⟩
    cases hs : step s with
    | none =>
      rw [run_succ_of_none hs] at h ⊢
      exact h
    | some s' =>
      rw [run_succ_of_some hs] at h ⊢
      exact ih h (by omega)

/-- A loop ends in the state it left from, with the body answering `none`
there, and that state keeps every property the iterations keep. -/
theorem run_induction {P : σ → Prop} (hstep : ∀ s s', P s → step s = some s' → P s')
    {n : Nat} {s r : σ} (h : run step n s = some r) (hs : P s) : P r ∧ step r = none := by
  induction n generalizing s with
  | zero => cases h
  | succ n ih =>
    cases hs' : step s with
    | none =>
      rw [run_succ_of_none hs'] at h
      cases h
      exact ⟨hs, hs'⟩
    | some s' =>
      rw [run_succ_of_some hs'] at h
      exact ih h (hstep s s' hs hs')

/-- A loop whose iterations lower a measure, while a property they keep
holds, ends within the measure plus one iterations. -/
theorem run_of_measure (μ : σ → Nat) {P : σ → Prop}
    (hstep : ∀ s s', P s → step s = some s' → P s' ∧ μ s' < μ s) {s : σ} (hs : P s) :
    ∃ r, run step (μ s + 1) s = some r := by
  induction hμ : μ s using Nat.strongRecOn generalizing s with
  | ind k ih =>
    cases hs' : step s with
    | none => exact ⟨s, run_succ_of_none hs' _⟩
    | some s' =>
      obtain ⟨hs'P, hlt⟩ := hstep s s' hs hs'
      obtain ⟨r, hr⟩ := ih (μ s') (hμ ▸ hlt) hs'P rfl
      refine ⟨r, ?_⟩
      rw [run_succ_of_some hs']
      exact run_mono hr (by omega)

/-- A loop that can always go round again, from states that each iteration
keeps, never ends: every fuel runs out. -/
theorem run_eq_none_of_forever {I : σ → Prop} (hstep : ∀ s, I s → ∃ s', step s = some s' ∧ I s')
    {s : σ} (hs : I s) (n : Nat) : run step n s = none := by
  induction n generalizing s with
  | zero => rfl
  | succ n ih =>
    obtain ⟨s', hs', hI⟩ := hstep s hs
    rw [run_succ_of_some hs']
    exact ih hI

end Loop
