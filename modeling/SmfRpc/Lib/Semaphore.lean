import Mathlib

/-!
# A counting semaphore with a first-in first-out wait list, and a gate

The semaphore of an event-driven runtime: a signed count of free units and a
queue of waiters, each asking for some number of units.

* `wait n` takes `n` units at once when no one is queued and the count allows
  it (`mayProceed`); otherwise the waiter joins the back of the queue.
* `signal n` adds `n` to the count and then grants waiters from the front of
  the queue for as long as the count covers the next one (`wake`).  The units
  of a granted waiter leave the count at that moment; the waiter runs later.

`signal` takes a signed amount: a caller that converts a negative number to an
unsigned size hands the semaphore a huge value that wraps the signed count,
which is the same as adding the negative number.

The lemmas are the bookkeeping a caller needs: `wait` either takes exactly
`n` units or queues (`wait_proceed`, `wait_queue`), and `signal` adds exactly
the signalled units to the count and the queue together, the granted waiters
being the front of the old queue (`signal_count_add`, `signal_waiters`).

A gate counts the tasks inside it: `enter` fails once `close` was called,
`leave` lets one task out, and closing twice is an error.
-/

namespace Semaphore

variable {ι : Type}

/-- A semaphore: the free units, and the queue of `(units, waiter)`. -/
structure Sem (ι : Type) where
  count : Int
  waiters : List (Nat × ι)
  deriving DecidableEq, Repr

/-- A fresh semaphore with `n` units and no waiter. -/
def Sem.init (n : Int) : Sem ι := ⟨n, []⟩

/-- The count covers `n` units. -/
def Sem.hasAvailableUnits (s : Sem ι) (n : Nat) : Bool :=
  decide (0 ≤ s.count) && decide ((n : Int) ≤ s.count)

/-- A `wait n` may take its units at once: they are there and no one is
queued before it. -/
def Sem.mayProceed (s : Sem ι) (n : Nat) : Bool :=
  s.hasAvailableUnits n && s.waiters.isEmpty

/-- `wait n`: take the units now, answering `true`, or queue, answering
`false`. -/
def Sem.wait (s : Sem ι) (n : Nat) (who : ι) : Sem ι × Bool :=
  if s.mayProceed n then ({ s with count := s.count - n }, true)
  else ({ s with waiters := s.waiters ++ [(n, who)] }, false)

/-- Grant waiters from the front while the count covers the next one.  The
answer is the count left, the queue left and the waiters granted, in order. -/
def wake : List (Nat × ι) → Int → Int × List (Nat × ι) × List (Nat × ι)
  | [], c => (c, [], [])
  | (n, w) :: rest, c =>
    if 0 ≤ c ∧ (n : Int) ≤ c then
      let r := wake rest (c - n)
      (r.1, r.2.1, (n, w) :: r.2.2)
    else (c, (n, w) :: rest, [])

/-- `signal n`: add `n` units, then wake the queue.  The answer is the new
semaphore and the waiters granted. -/
def Sem.signal (s : Sem ι) (n : Int) : Sem ι × List (Nat × ι) :=
  let r := wake s.waiters (s.count + n)
  ({ count := r.1, waiters := r.2.1 }, r.2.2)

/-- The units of a list of waiters. -/
def units (ws : List (Nat × ι)) : Int := (ws.map fun w => (w.1 : Int)).sum

@[simp] theorem units_nil : units ([] : List (Nat × ι)) = 0 := rfl

@[simp] theorem units_cons (w : Nat × ι) (ws : List (Nat × ι)) :
    units (w :: ws) = w.1 + units ws := by
  simp [units]

@[simp] theorem units_append (ws ws' : List (Nat × ι)) :
    units (ws ++ ws') = units ws + units ws' := by
  simp [units]

/-! ## `wait` -/

theorem wait_proceed {s : Sem ι} {n : Nat} {who : ι} (h : s.mayProceed n = true) :
    s.wait n who = ({ s with count := s.count - n }, true) := by
  simp [Sem.wait, h]

theorem wait_queue {s : Sem ι} {n : Nat} {who : ι} (h : s.mayProceed n = false) :
    s.wait n who = ({ s with waiters := s.waiters ++ [(n, who)] }, false) := by
  simp [Sem.wait, h]

/-- A semaphore with nobody queued and enough units lets `wait` proceed. -/
theorem mayProceed_of {s : Sem ι} {n : Nat} (hq : s.waiters = []) (hn : (n : Int) ≤ s.count) :
    s.mayProceed n = true := by
  simp only [Sem.mayProceed, Sem.hasAvailableUnits, hq, List.isEmpty_nil, Bool.and_true,
    Bool.and_eq_true, decide_eq_true_eq]
  omega

/-! ## `signal` -/

/-- The wake loop moves units from the count to the granted waiters and
nothing else. -/
theorem wake_count_add (ws : List (Nat × ι)) (c : Int) :
    (wake ws c).1 + units (wake ws c).2.2 = c := by
  induction ws generalizing c with
  | nil => simp [wake]
  | cons w ws ih =>
    obtain ⟨n, who⟩ := w
    unfold wake
    split
    · have := ih (c - n)
      simp only [units_cons]
      omega
    · simp

/-- The granted waiters are the front of the queue and the rest stays
queued. -/
theorem wake_waiters (ws : List (Nat × ι)) (c : Int) :
    (wake ws c).2.2 ++ (wake ws c).2.1 = ws := by
  induction ws generalizing c with
  | nil => rfl
  | cons w ws ih =>
    obtain ⟨n, who⟩ := w
    unfold wake
    split
    · simp [ih]
    · rfl

/-- Each granted waiter asked for no more than the count the wake loop
started from. -/
theorem wake_le (ws : List (Nat × ι)) (c : Int) : ∀ w ∈ (wake ws c).2.2, (w.1 : Int) ≤ c := by
  induction ws generalizing c with
  | nil => simp [wake]
  | cons w ws ih =>
    obtain ⟨n, who⟩ := w
    unfold wake
    split
    · rename_i hc
      intro w' hw'
      rcases List.mem_cons.mp hw' with rfl | hw'
      · exact hc.2
      · -- a later waiter was granted from what the earlier ones left
        have := ih (c - n) w' hw'
        omega
    · simp

/-- From a count that is not negative, the wake loop leaves one that is not
negative: it grants a waiter only when the count covers it. -/
theorem wake_count_nonneg (ws : List (Nat × ι)) {c : Int} (hc : 0 ≤ c) : 0 ≤ (wake ws c).1 := by
  induction ws generalizing c with
  | nil => exact hc
  | cons w ws ih =>
    obtain ⟨n, who⟩ := w
    unfold wake
    split
    · rename_i hcover
      exact ih (by omega)
    · exact hc

/-- An empty queue wakes no one. -/
@[simp] theorem wake_nil (c : Int) : wake ([] : List (Nat × ι)) c = (c, [], []) := rfl

/-- `signal n` adds `n` units to the count and the granted waiters together. -/
theorem signal_count_add (s : Sem ι) (n : Int) :
    (s.signal n).1.count + units (s.signal n).2 = s.count + n :=
  wake_count_add s.waiters (s.count + n)

/-- A signal that leaves the count plus `n` not negative leaves the count not
negative. -/
theorem signal_count_nonneg (s : Sem ι) {n : Int} (h : 0 ≤ s.count + n) :
    0 ≤ (s.signal n).1.count :=
  wake_count_nonneg s.waiters h

/-- The granted waiters of `signal` are the front of the old queue. -/
theorem signal_waiters (s : Sem ι) (n : Int) :
    (s.signal n).2 ++ (s.signal n).1.waiters = s.waiters :=
  wake_waiters s.waiters (s.count + n)

/-- A waiter that `signal n` grants asked for no more than the count plus
`n`. -/
theorem signal_le (s : Sem ι) (n : Int) : ∀ w ∈ (s.signal n).2, (w.1 : Int) ≤ s.count + n :=
  wake_le s.waiters (s.count + n)

/-- A count that does not cover the first waiter wakes no one. -/
theorem wake_of_lt {ws : List (Nat × ι)} {c : Int} (h : ∀ w ∈ ws, c < w.1) :
    wake ws c = (c, ws, []) := by
  cases ws with
  | nil => rfl
  | cons w rest =>
    have hw := h w List.mem_cons_self
    unfold wake
    rw [if_neg (by omega)]

/-- A count that does not cover the first waiter wakes no one, whatever the
others ask for: the queue is first in, first out. -/
theorem wake_cons_of_lt {w : Nat × ι} {ws : List (Nat × ι)} {c : Int} (h : c < w.1) :
    wake (w :: ws) c = (c, w :: ws, []) := by
  unfold wake
  rw [if_neg (by omega)]

theorem signal_of_lt_head {s : Sem ι} {w : Nat × ι} {ws : List (Nat × ι)} (hq : s.waiters = w :: ws)
    {n : Int} (h : s.count + n < w.1) :
    s.signal n = ({ count := s.count + n, waiters := s.waiters }, []) := by
  simp only [Sem.signal, hq, wake_cons_of_lt h]

/-- When every waiter asks for one unit, a count of one wakes exactly the
first waiter, if there is one. -/
theorem wake_one {ws : List (Nat × ι)} (h : ∀ w ∈ ws, w.1 = 1) :
    wake ws 1 = (if ws = [] then 1 else 0, ws.drop 1, ws.take 1) := by
  cases ws with
  | nil => rfl
  | cons w rest =>
    have hrest : wake rest 0 = (0, rest, []) :=
      wake_of_lt fun w' hw' => by rw [h w' (List.mem_cons_of_mem w hw')]; omega
    obtain ⟨n, who⟩ := w
    have hn : n = 1 := h _ List.mem_cons_self
    subst hn
    unfold wake
    rw [if_pos (by omega)]
    simp [hrest]

/-- With no one queued, `signal n` just adds `n`. -/
theorem signal_of_waiters_nil {s : Sem ι} (h : s.waiters = []) (n : Int) :
    s.signal n = ({ count := s.count + n, waiters := [] }, []) := by
  simp [Sem.signal, h]

/-! ## Gates -/

/-- A gate: closed by `close`, and the number of tasks inside. -/
structure Gate where
  closed : Bool := false
  count : Nat := 0
  deriving DecidableEq, Repr

/-- A task enters; `none` on a closed gate, where the runtime throws. -/
def Gate.enter (g : Gate) : Option Gate :=
  if g.closed then none else some { g with count := g.count + 1 }

/-- A task leaves. -/
def Gate.leave (g : Gate) : Gate := { g with count := g.count - 1 }

/-- Close the gate to new tasks; `none` when it was closed already. -/
def Gate.close (g : Gate) : Option Gate :=
  if g.closed then none else some { g with closed := true }

theorem Gate.enter_eq_some {g g' : Gate} (h : g.enter = some g') :
    g.closed = false ∧ g' = { g with count := g.count + 1 } := by
  unfold Gate.enter at h
  split at h
  · cases h
  · rename_i hc
    exact ⟨by simpa using hc, (Option.some.inj h).symm⟩

theorem Gate.close_eq_some {g g' : Gate} (h : g.close = some g') :
    g.closed = false ∧ g' = { g with closed := true } := by
  unfold Gate.close at h
  split at h
  · cases h
  · rename_i hc
    exact ⟨by simpa using hc, (Option.some.inj h).symm⟩

end Semaphore
