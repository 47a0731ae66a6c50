import Mathlib.Data.List.Range

/-!
# Chains of fallible steps, with a log of the steps that ran

A chain of steps `α → Except ε α` run one after the other, in the monad
`ExceptT ε (StateM (List Nat))`: each step, tagged with its position, writes
that position to a log and then answers its own result.  A failed step ends
the chain, so the log says which steps ran, in which order, and how often.

`run_foldlM_tagFrom` gives the result and the log of the whole chain: the
result of the plain chain in `Except`, and the positions of the first
`invoked` steps, where `invoked` counts the steps up to the first that
fails.  `invoked_of_ok` and `exists_first_error` read the two cases.
-/

namespace Trace

variable {α ε : Type}

/-- A step that writes `i` to the log, then answers `g a`. -/
def tag (i : Nat) (g : α → Except ε α) : α → ExceptT ε (StateM (List Nat)) α :=
  fun a => ExceptT.mk (modifyGet fun log => (g a, log ++ [i]))

/-- The steps of a list, tagged with their positions from `k` on. -/
def tagFrom : Nat → List (α → Except ε α) → List (α → ExceptT ε (StateM (List Nat)) α)
  | _, [] => []
  | k, g :: gs => tag k g :: tagFrom (k + 1) gs

/-- How many steps of the chain run from `a`: all of them, or up to and with
the first that fails. -/
def invoked : List (α → Except ε α) → α → Nat
  | [], _ => 0
  | g :: gs, a =>
    match g a with
    | .ok b => invoked gs b + 1
    | .error _ => 1

@[simp] theorem run_tag (i : Nat) (g : α → Except ε α) (a : α) (log : List Nat) :
    (tag i g a).run.run log = (g a, log ++ [i]) := rfl

/-- The tagged chain answers what the plain chain answers, after writing the
positions of the steps that ran, in order. -/
theorem run_foldlM_tagFrom (gs : List (α → Except ε α)) (k : Nat) (x : α) (log : List Nat) :
    ((tagFrom k gs).foldlM (fun a (f : α → ExceptT ε (StateM (List Nat)) α) => f a) x).run.run log =
      (gs.foldlM (fun a g => g a) x, log ++ List.range' k (invoked gs x)) := by
  induction gs generalizing k x log with
  | nil =>
    simp only [invoked, List.range'_zero, List.append_nil]
    rfl
  | cons g gs ih =>
    cases hg : g x with
    | error e =>
      -- the failing step ends the chain
      have h : ((tagFrom k (g :: gs)).foldlM
          (fun a (f : α → ExceptT ε (StateM (List Nat)) α) => f a) x).run.run log =
            (.error e, log ++ [k]) := by
        simp only [tagFrom, List.foldlM_cons, ExceptT.run_bind, StateT.run_bind, run_tag, hg]
        rfl
      rw [h, List.foldlM_cons, hg, invoked, hg]
      rfl
    | ok b =>
      have h : ((tagFrom k (g :: gs)).foldlM
          (fun a (f : α → ExceptT ε (StateM (List Nat)) α) => f a) x).run.run log =
            ((tagFrom (k + 1) gs).foldlM
              (fun a (f : α → ExceptT ε (StateM (List Nat)) α) => f a) b).run.run (log ++ [k]) := by
        simp only [tagFrom, List.foldlM_cons, ExceptT.run_bind, StateT.run_bind, run_tag, hg]
        rfl
      rw [h, ih, List.foldlM_cons, hg, invoked, hg, List.range'_succ, List.append_assoc,
        List.singleton_append]
      rfl

theorem invoked_of_ok {gs : List (α → Except ε α)} {x y : α}
    (h : gs.foldlM (fun a g => g a) x = .ok y) : invoked gs x = gs.length := by
  induction gs generalizing x with
  | nil => rfl
  | cons g gs ih =>
    rw [List.foldlM_cons] at h
    cases hg : g x with
    | error e => rw [hg] at h; cases h
    | ok b =>
      rw [hg] at h
      rw [invoked, hg]
      show invoked gs b + 1 = gs.length + 1
      rw [ih h]

/-- A chain that fails fails at a first step: every step before it answers,
and the chain answers that step's exception, with that step the last that
ran. -/
theorem exists_first_error {gs : List (α → Except ε α)} {x : α} {e : ε}
    (h : gs.foldlM (fun a g => g a) x = .error e) :
    ∃ i g y, gs[i]? = some g ∧ (gs.take i).foldlM (fun a g => g a) x = .ok y ∧
      g y = .error e ∧ invoked gs x = i + 1 := by
  induction gs generalizing x with
  | nil => cases h
  | cons g gs ih =>
    rw [List.foldlM_cons] at h
    cases hg : g x with
    | error e' =>
      rw [hg] at h
      cases h
      exact ⟨0, g, x, rfl, rfl, hg, by rw [invoked, hg]⟩
    | ok b =>
      rw [hg] at h
      obtain ⟨i, g', y, hi, hpre, hy, hinv⟩ := ih h
      refine ⟨i + 1, g', y, hi, ?_, hy, ?_⟩
      · rw [List.take_succ_cons, List.foldlM_cons, hg]
        exact hpre
      · rw [invoked, hg]
        show invoked gs b + 1 = i + 1 + 1
        rw [hinv]

end Trace
