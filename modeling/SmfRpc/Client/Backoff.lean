import SmfRpc.Lib.Semaphore
import SmfRpc.Lib.Run
import SmfRpc.Lib.Update
import SmfRpc.Lib.OrderedSet

/-!
# The background reconnect of `reconnect_client`

`reconnect_client<T>` (`reconnect_client.h`) wraps an `rpc_client` and
reconnects it in the background.  `connect()` calls `client_->reconnect()`
inside `reconnect_gate_`.  A success resets `bo_` to `none`.  A failure starts
a background task in the same gate that bumps `bo_` with `++` and sleeps
`rand_.next() % 100` milliseconds plus `bo_` seconds, then calls `connect()`
again.  `stop()` closes the gate.

There are three groups.

* `++` on `reconnect_backoff`.  `increment` adds one to the `uint16_t` and
  clamps it up to the table.  `increment_next` says what that does to every
  value: below 1800 it gives the least table entry above the value, from 1800
  to 65534 it gives 1800, and at 65535 the `uint16_t` wraps and the answer is
  `none`.  `increment_tableAt` walks the table one entry at a time.
* The tasks of `reconnect_gate_`.  `ReconnectState` holds `bo_`, the gate, the
  validity of the client's connection, and one entry per task that entered
  the gate.  `step` is one event: a call of `connect()`, the answer of a
  `client_->reconnect()`, the end of a sleep, a broken connection, `stop()`.
* Runs.  `ReconnectInv` holds in every reachable state
  (`reconnect_invariant`).  The gate counts exactly the tasks that are not
  done, so `stop()` waits for every pending reconnect and sleep.  `bo_` is a
  table entry, so the wrap never happens.  Every sleep lasts from one second
  to 30 minutes and 99 milliseconds.  `backoff_after_failures` counts the
  failures of a run that has no success and no `stop()`.
  `no_reconnect_after_stop` says that once the gate is closed no
  `client_->reconnect()` starts.

`client_->reconnect()` and `client_->is_conn_valid()` belong to the client.
Here the outcome of a reconnect is an event, and a success makes the
connection valid.
-/

namespace Smf

open Semaphore

/-- `reconnect_backoff`: an `enum class` over `uint16_t` whose value is the
number of seconds to wait.  `++` stores any `uint16_t` in it before it clamps,
so the model is the underlying number. -/
structure ReconnectBackoff where
  secs : UInt16
  deriving DecidableEq, Repr

namespace ReconnectBackoff

def none : ReconnectBackoff := ⟨0⟩
def wait1Sec : ReconnectBackoff := ⟨1⟩
def wait3Sec : ReconnectBackoff := ⟨3⟩
def wait5Sec : ReconnectBackoff := ⟨5⟩
def wait10Sec : ReconnectBackoff := ⟨10⟩
def wait20Sec : ReconnectBackoff := ⟨20⟩
def wait30Sec : ReconnectBackoff := ⟨30⟩
def wait60Sec : ReconnectBackoff := ⟨60⟩
def wait300Sec : ReconnectBackoff := ⟨300⟩
def wait600Sec : ReconnectBackoff := ⟨600⟩
def wait1800Sec : ReconnectBackoff := ⟨1800⟩

/-- The clamp table of `++`. -/
def clampTable : List ReconnectBackoff :=
  [none, wait1Sec, wait3Sec, wait5Sec, wait10Sec, wait20Sec, wait30Sec, wait60Sec,
    wait300Sec, wait600Sec, wait1800Sec]

/-- The prefix `operator++`: add one to the underlying `uint16_t`, where the
cast back wraps, then clamp up to the first table entry at or above it, or to
`wait_1800_sec` past the table. -/
def increment (b : ReconnectBackoff) : ReconnectBackoff :=
  let b : ReconnectBackoff := ⟨b.secs + 1⟩
  match clampTable.find? (fun x => decide (b.secs ≤ x.secs)) with
  | some x => x
  | .none => wait1800Sec

/-- The table entry at index `i`, and `wait_1800_sec` past the table. -/
def tableAt (i : Nat) : ReconnectBackoff := clampTable.getD i wait1800Sec

theorem clampTable_pairwise :
    clampTable.Pairwise fun a b => a.secs.toNat < b.secs.toNat := by
  decide

theorem secs_le_of_mem_clampTable : ∀ x ∈ clampTable, x.secs.toNat ≤ 1800 := by
  decide

theorem none_mem_clampTable : none ∈ clampTable := by
  decide

/-- Below 65535 the increment does not wrap, and `++` is a search of the table
for the first entry at or above the next number. -/
theorem increment_eq (b : ReconnectBackoff) (hb : b.secs.toNat < 65535) :
    b.increment =
      (clampTable.find? fun x => decide (b.secs.toNat + 1 ≤ x.secs.toNat)).getD wait1800Sec := by
  have hp : (fun x : ReconnectBackoff => decide (b.secs + 1 ≤ x.secs)) =
      fun x => decide (b.secs.toNat + 1 ≤ x.secs.toNat) := by
    funext x
    rw [decide_eq_decide, UInt16.le_iff_toNat_le, UInt16.toNat_add, UInt16.toNat_one,
      Nat.mod_eq_of_lt (by omega)]
  unfold increment
  simp only [hp]
  cases clampTable.find? _ <;> rfl

/-- What `++` does to every value: below 1800 it gives the least table entry
above it; from 1800 up to 65534 it gives `wait_1800_sec`; and at 65535 the
`uint16_t` wraps to 0, which is `none`. -/
theorem increment_next (b : ReconnectBackoff) :
    (b.secs.toNat < 1800 →
      b.increment ∈ clampTable ∧ b.secs.toNat < b.increment.secs.toNat ∧
        ∀ x ∈ clampTable, b.secs.toNat < x.secs.toNat →
          b.increment.secs.toNat ≤ x.secs.toNat) ∧
    (1800 ≤ b.secs.toNat → b.secs.toNat < 65535 → b.increment = wait1800Sec) ∧
    (b.secs.toNat = 65535 → b.increment = none) := by
  refine ⟨fun hb => ?_, fun hb hb' => ?_, fun hb => ?_⟩
  · rw [increment_eq b (by omega)]
    cases hf : clampTable.find? fun x => decide (b.secs.toNat + 1 ≤ x.secs.toNat) with
    | none =>
      -- `wait_1800_sec` is in the table and above the value
      have h1800 := List.find?_eq_none.mp hf wait1800Sec (by decide)
      simp only [decide_eq_true_eq, not_le] at h1800
      exact absurd h1800 (by simp [wait1800Sec]; omega)
    | some x =>
      obtain ⟨hx, hmin⟩ := OrderedSet.find?_le_eq_some _ clampTable_pairwise hf
      exact ⟨List.mem_of_find?_eq_some hf, hx, fun y hy hlt => hmin y hy hlt⟩
  · -- every entry is at most 1800, below the next number
    rw [increment_eq b hb', List.find?_eq_none.mpr]
    · rfl
    · intro x hx
      have := secs_le_of_mem_clampTable x hx
      simp only [decide_eq_true_eq, not_le]
      omega
  · -- the largest `uint16_t` is the one value the increment wraps
    obtain ⟨secs⟩ := b
    obtain rfl : secs = 65535 := UInt16.toNat_inj.mp hb
    decide

theorem tableAt_of_le {i : Nat} (hi : 10 ≤ i) : tableAt i = wait1800Sec := by
  rcases Nat.eq_or_lt_of_le hi with rfl | hi
  · rfl
  · exact List.getD_eq_default _ _ (by simp [clampTable]; omega)

theorem increment_tableAt_fin : ∀ i : Fin 10, (tableAt i).increment = tableAt (i + 1) := by
  decide

/-- One `++` moves a table entry one place along the table; past the table
both are `wait_1800_sec`. -/
theorem increment_tableAt (i : Nat) : (tableAt i).increment = tableAt (i + 1) := by
  rcases Nat.lt_or_ge i 10 with hi | hi
  · exact increment_tableAt_fin ⟨i, hi⟩
  · rw [tableAt_of_le hi, tableAt_of_le (by omega)]
    decide

theorem tableAt_mem (i : Nat) : tableAt i ∈ clampTable := by
  rcases Nat.lt_or_ge i 10 with hi | hi
  · have hlt : i < clampTable.length := by simp [clampTable]; omega
    rw [tableAt, List.getD_eq_getElem _ _ hlt]
    exact List.getElem_mem hlt
  · rw [tableAt_of_le hi]
    decide

theorem one_le_tableAt {i : Nat} (hi : 1 ≤ i) : 1 ≤ (tableAt i).secs.toNat := by
  rcases Nat.lt_or_ge i 10 with hi' | hi'
  · have hfin : ∀ j : Fin 10, 1 ≤ j.val → 1 ≤ (tableAt j).secs.toNat := by decide
    exact hfin ⟨i, hi'⟩ hi
  · rw [tableAt_of_le hi']
    decide

theorem mem_clampTable {b : ReconnectBackoff} (h : b ∈ clampTable) : ∃ i, b = tableAt i := by
  obtain ⟨i, hi, rfl⟩ := List.getElem_of_mem h
  exact ⟨i, (List.getD_eq_getElem _ _ hi).symm⟩

/-- `++` keeps a value in the table, and moves it off `none`. -/
theorem increment_mem {b : ReconnectBackoff} (h : b ∈ clampTable) :
    b.increment ∈ clampTable ∧ 1 ≤ b.increment.secs.toNat ∧ b.increment.secs.toNat ≤ 1800 := by
  obtain ⟨i, rfl⟩ := mem_clampTable h
  rw [increment_tableAt]
  exact ⟨tableAt_mem _, one_le_tableAt (by omega), secs_le_of_mem_clampTable _ (tableAt_mem _)⟩

end ReconnectBackoff

/-- A task inside `reconnect_gate_`. -/
inductive ReconnectTask where
  /-- The body of the `with_gate` of `connect()`: `client_->reconnect()` is
  pending.  `parent` is the background task whose `connect()` this is; a call
  of the caller has none. -/
  | reconnecting (parent : Option Nat)
  /-- The background `with_gate` of `handle_exception`: its `seastar::sleep`
  of `ms` milliseconds is pending. -/
  | sleeping (ms : Nat)
  /-- The background task after its sleep: the `connect()` it called is
  pending. -/
  | connecting
  /-- The task has left the gate. -/
  | done
  deriving DecidableEq, Repr

/-- What a task adds to the count of the gate: one until it is done. -/
def ReconnectTask.weight : ReconnectTask → Int
  | .done => 0
  | _ => 1

/-- The state of a `reconnect_client`. -/
structure ReconnectState where
  /-- `client_->is_conn_valid()`. -/
  connValid : Bool
  /-- `bo_`. -/
  bo : ReconnectBackoff
  /-- `reconnect_gate_`. -/
  gate : Gate
  /-- The tasks that entered `reconnect_gate_`, in the order they entered. -/
  tasks : List ReconnectTask
  deriving DecidableEq, Repr

/-- An event of a `reconnect_client`. -/
inductive ReconnectEvent where
  /-- The caller calls `connect()`. -/
  | connect
  /-- `client_->reconnect()` of task `i` resolves. -/
  | reconnected (i : Nat)
  /-- `client_->reconnect()` of task `i` fails, and `rand_.next()` gives `r`. -/
  | reconnectFailed (i : Nat) (r : UInt64)
  /-- The sleep of task `i` is over. -/
  | slept (i : Nat)
  /-- The connection breaks: `is_conn_valid()` turns false. -/
  | connLost
  /-- The caller calls `stop()`, which closes the gate. -/
  | stop
  deriving DecidableEq, Repr

namespace ReconnectEvent

/-- A failed reconnect. -/
def isFailure : ReconnectEvent → Bool
  | .reconnectFailed _ _ => true
  | _ => false

/-- The events that end a series of failures: a reconnect that succeeds, and
`stop()`. -/
def endsFailures : ReconnectEvent → Bool
  | .reconnected _ => true
  | .stop => true
  | _ => false

end ReconnectEvent

namespace ReconnectState

/-- A new `reconnect_client`: `bo_{reconnect_backoff::none}`, an open gate,
and a client that is not connected. -/
def init : ReconnectState :=
  { connValid := false, bo := .none, gate := {}, tasks := [] }

/-- `connect()`, from the caller (`parent = none`) or from the background task
`j` after its sleep (`parent = some j`).  It is ready at once on a valid
connection or a closed gate; otherwise `with_gate` enters and the body calls
`client_->reconnect()`.  The flag says whether a reconnect started. -/
def connect (s : ReconnectState) (parent : Option Nat) : ReconnectState × Bool :=
  if s.connValid then (s, false)
  else if s.gate.closed then (s, false)
  else
    match s.gate.enter with
    | some g => ({ s with gate := g, tasks := s.tasks ++ [.reconnecting parent] }, true)
    | none => (s, false)

/-- Task `i` leaves the gate: the `finally` of its `with_gate`. -/
def leave (s : ReconnectState) (i : Nat) : ReconnectState :=
  { s with gate := s.gate.leave, tasks := s.tasks.set i .done }

/-- The body of the `with_gate` of `connect()` is over: task `i` leaves, and
then the background task whose `connect()` it was, which waited on it. -/
def finish (s : ReconnectState) (i : Nat) (parent : Option Nat) : ReconnectState :=
  match parent with
  | some j => (s.leave i).leave j
  | none => s.leave i

/-- `handle_exception`: the background `with_gate` bumps `bo_` with `++` and
sleeps `rand_.next() % 100` milliseconds plus `bo_` seconds.  On a closed gate
`with_gate` throws before its body runs, and the dropped future changes
nothing. -/
def backoffInBackground (s : ReconnectState) (r : UInt64) : ReconnectState :=
  match s.gate.enter with
  | some g =>
    let bo := s.bo.increment
    { s with gate := g, bo := bo,
             tasks := s.tasks ++ [.sleeping ((r % 100).toNat + bo.secs.toNat * 1000)] }
  | none => s

/-- One event; `none` when it cannot happen: an answer for a task that is not
waiting on `client_->reconnect()`, the end of a sleep that is not pending, or
a second `stop()`, which `seastar::gate::close()` does not allow. -/
def step (s : ReconnectState) : ReconnectEvent → Option ReconnectState
  | .connect => some (s.connect none).1
  | .reconnected i =>
    match s.tasks[i]? with
    | some (ReconnectTask.reconnecting parent) =>
      -- `.then([this] { bo_ = reconnect_backoff::none; })`
      some ({ s with connValid := true, bo := .none }.finish i parent)
    | _ => none
  | .reconnectFailed i r =>
    match s.tasks[i]? with
    | some (ReconnectTask.reconnecting parent) => some ((s.backoffInBackground r).finish i parent)
    | _ => none
  | .slept i =>
    match s.tasks[i]? with
    | some (ReconnectTask.sleeping _) =>
      -- `.then([this] { return connect(); })`: the task waits on the reconnect
      -- that its `connect()` started, and leaves at once when none started
      match s.connect (some i) with
      | (s', true) => some { s' with tasks := s'.tasks.set i .connecting }
      | (s', false) => some (s'.leave i)
    | _ => none
  | .connLost => some { s with connValid := false }
  | .stop => s.gate.close.map fun g => { s with gate := g }

/-! ## What each operation does -/

variable {s s' : ReconnectState}

theorem connect_spec (s : ReconnectState) (parent : Option Nat) :
    (s.connValid = true ∨ s.gate.closed = true) ∧ s.connect parent = (s, false) ∨
      s.connValid = false ∧ s.gate.closed = false ∧
        s.connect parent =
          ({ s with
              gate := { s.gate with count := s.gate.count + 1 }
              tasks := s.tasks ++ [.reconnecting parent] }, true) := by
  unfold connect
  by_cases hv : s.connValid = true
  · exact .inl ⟨.inl hv, by rw [if_pos hv]⟩
  · by_cases hc : s.gate.closed = true
    · exact .inl ⟨.inr hc, by rw [if_neg hv, if_pos hc]⟩
    · simp only [Bool.not_eq_true] at hv hc
      refine .inr ⟨hv, hc, ?_⟩
      simp [Gate.enter, hv, hc]

theorem backoffInBackground_spec (s : ReconnectState) (r : UInt64) :
    s.gate.closed = true ∧ s.backoffInBackground r = s ∨
      s.gate.closed = false ∧ s.backoffInBackground r =
        { s with
            gate := { s.gate with count := s.gate.count + 1 }
            bo := s.bo.increment
            tasks :=
              s.tasks ++ [.sleeping ((r % 100).toNat + s.bo.increment.secs.toNat * 1000)] } := by
  unfold backoffInBackground
  cases hc : s.gate.closed
  · exact .inr ⟨rfl, by simp [Gate.enter, hc]⟩
  · exact .inl ⟨rfl, by simp [Gate.enter, hc]⟩

@[simp] theorem leave_bo (i : Nat) : (s.leave i).bo = s.bo := rfl

@[simp] theorem leave_closed (i : Nat) : (s.leave i).gate.closed = s.gate.closed := rfl

@[simp] theorem finish_bo (i : Nat) (p : Option Nat) : (s.finish i p).bo = s.bo := by
  cases p <;> rfl

@[simp] theorem finish_closed (i : Nat) (p : Option Nat) :
    (s.finish i p).gate.closed = s.gate.closed := by
  cases p <;> rfl

@[simp] theorem finish_length (i : Nat) (p : Option Nat) :
    (s.finish i p).tasks.length = s.tasks.length := by
  cases p <;> simp [finish, leave]

/-- A reconnect after `finish` was pending before it. -/
theorem finish_reconnecting {i a : Nat} {p q : Option Nat}
    (h : (s.finish i p).tasks[a]? = some (ReconnectTask.reconnecting q)) :
    s.tasks[a]? = some (ReconnectTask.reconnecting q) := by
  cases p with
  | none => exact (Update.getElem?_of_set_eq_some h (by simp)).2
  | some j =>
    have h₁ := (Update.getElem?_of_set_eq_some h (by simp)).2
    exact (Update.getElem?_of_set_eq_some h₁ (by simp)).2

theorem step_reconnected {i : Nat} (h : step s (.reconnected i) = some s') :
    ∃ p, s.tasks[i]? = some (ReconnectTask.reconnecting p) ∧
      s' = { s with connValid := true, bo := .none }.finish i p := by
  simp only [step] at h
  split at h
  · rename_i p hi
    exact ⟨p, hi, (Option.some.inj h).symm⟩
  · cases h

theorem step_reconnectFailed {i : Nat} {r : UInt64} (h : step s (.reconnectFailed i r) = some s') :
    ∃ p, s.tasks[i]? = some (ReconnectTask.reconnecting p) ∧ s' = (s.backoffInBackground r).finish i p := by
  simp only [step] at h
  split at h
  · rename_i p hi
    exact ⟨p, hi, (Option.some.inj h).symm⟩
  · cases h

theorem step_slept {i : Nat} (h : step s (.slept i) = some s') :
    ∃ ms, s.tasks[i]? = some (ReconnectTask.sleeping ms) ∧
      ((s.connValid = true ∨ s.gate.closed = true) ∧ s' = s.leave i ∨
        s.connValid = false ∧ s.gate.closed = false ∧
          s' = { s with
                  gate := { s.gate with count := s.gate.count + 1 }
                  tasks := (s.tasks ++ [ReconnectTask.reconnecting (some i)]).set i
                    ReconnectTask.connecting }) := by
  simp only [step] at h
  split at h
  · rename_i ms hi
    refine ⟨ms, hi, ?_⟩
    rcases connect_spec s (some i) with ⟨hvc, hc⟩ | ⟨hv, hc, he⟩
    · rw [hc] at h
      exact .inl ⟨hvc, (Option.some.inj h).symm⟩
    · rw [he] at h
      exact .inr ⟨hv, hc, (Option.some.inj h).symm⟩
  · cases h

theorem step_stop (h : step s .stop = some s') :
    s.gate.closed = false ∧ s' = { s with gate := { s.gate with closed := true } } := by
  obtain ⟨g, hg, rfl⟩ := Option.map_eq_some_iff.mp h
  obtain ⟨hc, rfl⟩ := Gate.close_eq_some hg
  exact ⟨hc, rfl⟩

/-! ## The invariant -/

/-- The tasks of the gate are well nested: a reconnect that the background
task `j` started after its sleep has `j` waiting on it, and is the only one
that does. -/
structure Nested (ts : List ReconnectTask) : Prop where
  parent : ∀ i j : Nat, ts[i]? = some (ReconnectTask.reconnecting (some j)) →
    ts[j]? = some ReconnectTask.connecting
  child : ∀ i i' j : Nat, ts[i]? = some (ReconnectTask.reconnecting (some j)) →
    ts[i']? = some (ReconnectTask.reconnecting (some j)) → i = i'

/-- What holds in every reachable state. -/
structure ReconnectInv (s : ReconnectState) : Prop where
  /-- The gate counts the tasks that have not left it. -/
  counted : (s.gate.count : Int) = (s.tasks.map ReconnectTask.weight).sum
  nested : Nested s.tasks
  /-- `bo_` is an entry of the clamp table. -/
  inTable : s.bo ∈ ReconnectBackoff.clampTable
  /-- Every sleep lasts from one second to 30 minutes and 99 milliseconds. -/
  sleeps : ∀ ms, ReconnectTask.sleeping ms ∈ s.tasks → 1000 ≤ ms ∧ ms ≤ 1800099

theorem weight_nonneg (t : ReconnectTask) : 0 ≤ t.weight := by
  cases t <;> simp [ReconnectTask.weight]

theorem weight_eq_one {t : ReconnectTask} (ht : t ≠ .done) : t.weight = 1 := by
  cases t <;> simp_all [ReconnectTask.weight]

theorem sum_map_weight (ts : List ReconnectTask) :
    (ts.map ReconnectTask.weight).sum = ts.countP (· != .done) := by
  induction ts with
  | nil => rfl
  | cons t ts ih =>
    cases t <;> simp [ReconnectTask.weight, ih] <;> omega

namespace Nested

variable {ts : List ReconnectTask}

/-- No task waits on a task that is not waiting on a `connect()`. -/
theorem no_child (h : Nested ts) {k : Nat} {t : ReconnectTask} (hk : ts[k]? = some t)
    (ht : t ≠ .connecting) (i : Nat) : ts[i]? ≠ some (ReconnectTask.reconnecting (some k)) := by
  intro hi
  rw [h.parent i k hi] at hk
  exact ht (Option.some.inj hk).symm

/-- Appending a task that no background task waits on. -/
theorem append (h : Nested ts) {x : ReconnectTask} (hx : ∀ j, x ≠ .reconnecting (some j)) :
    Nested (ts ++ [x]) where
  parent i j hi := by
    rcases Update.getElem?_of_append_eq_some hi with hi | ⟨-, hx'⟩
    · exact Update.getElem?_append_of_eq_some (h.parent i j hi) _
    · exact absurd hx'.symm (hx j)
  child i i' j hi hi' := by
    rcases Update.getElem?_of_append_eq_some hi with hi | ⟨-, hx'⟩
    · rcases Update.getElem?_of_append_eq_some hi' with hi' | ⟨-, hx''⟩
      · exact h.child i i' j hi hi'
      · exact absurd hx''.symm (hx j)
    · exact absurd hx'.symm (hx j)

/-- Task `k` is done, and no task waits on it. -/
theorem set_done (h : Nested ts) {k : Nat}
    (hno : ∀ i : Nat, ts[i]? ≠ some (ReconnectTask.reconnecting (some k))) :
    Nested (ts.set k .done) where
  parent i j hi := by
    obtain ⟨-, hi⟩ := Update.getElem?_of_set_eq_some hi (by simp)
    have hkj : k ≠ j := fun hkj => hno i (hkj ▸ hi)
    rw [List.getElem?_set_ne hkj]
    exact h.parent i j hi
  child i i' j hi hi' :=
    h.child i i' j (Update.getElem?_of_set_eq_some hi (by simp)).2
      (Update.getElem?_of_set_eq_some hi' (by simp)).2

/-- The sleeping task `i` waits on the reconnect that its `connect()` started. -/
theorem wake (h : Nested ts) {i ms : Nat} (hi : ts[i]? = some (ReconnectTask.sleeping ms)) :
    Nested ((ts ++ [ReconnectTask.reconnecting (some i)]).set i .connecting) where
  parent a j ha := by
    obtain ⟨-, ha⟩ := Update.getElem?_of_set_eq_some ha (by simp)
    have hlt : i < (ts ++ [ReconnectTask.reconnecting (some i)]).length := by
      have := (List.getElem?_eq_some_iff.mp hi).1
      simp only [List.length_append, List.length_singleton]
      omega
    rcases Update.getElem?_of_append_eq_some ha with ha | ⟨-, hj⟩
    · -- an older reconnect waits on a task that is not `i`, which sleeps
      have hj := h.parent a j ha
      have hij : i ≠ j := fun hij => by rw [← hij, hi] at hj; cases hj
      rw [List.getElem?_set_ne hij]
      exact Update.getElem?_append_of_eq_some hj _
    · -- the new reconnect waits on `i`
      cases hj
      exact List.getElem?_set_self hlt
  child a a' j ha ha' := by
    obtain ⟨-, ha⟩ := Update.getElem?_of_set_eq_some ha (by simp)
    obtain ⟨-, ha'⟩ := Update.getElem?_of_set_eq_some ha' (by simp)
    rcases Update.getElem?_of_append_eq_some ha with ha | ⟨rfl, hj⟩ <;>
      rcases Update.getElem?_of_append_eq_some ha' with ha' | ⟨rfl, hj'⟩
    · exact h.child a a' j ha ha'
    · -- an older reconnect cannot wait on the sleeping task `i`
      cases hj'
      exact absurd ha (h.no_child hi (by simp) a)
    · cases hj
      exact absurd ha' (h.no_child hi (by simp) a')
    · rfl

end Nested

theorem reconnectInv_init : ReconnectInv init where
  counted := rfl
  nested := ⟨by simp [init], by simp [init]⟩
  inTable := ReconnectBackoff.none_mem_clampTable
  sleeps := by simp [init]

section Invariant

variable {s : ReconnectState}

/-- A task that is not done leaves, and no task waits on it. -/
theorem ReconnectInv.leave (h : ReconnectInv s) {k : Nat} {t : ReconnectTask}
    (hk : s.tasks[k]? = some t) (ht : t ≠ .done)
    (hno : ∀ i : Nat, s.tasks[i]? ≠ some (ReconnectTask.reconnecting (some k))) :
    ReconnectInv (s.leave k) where
  counted := by
    have hsum := Update.sum_map_set ReconnectTask.weight hk .done
    have hone : t.weight ≤ (s.tasks.map ReconnectTask.weight).sum :=
      List.single_le_sum (by simpa using fun t _ => weight_nonneg t) _
        (List.mem_map_of_mem (List.mem_of_getElem? hk))
    have hcount := h.counted
    rw [weight_eq_one ht] at hsum hone
    simp only [ReconnectState.leave, Gate.leave, hsum, ReconnectTask.weight]
    omega
  nested := h.nested.set_done hno
  inTable := h.inTable
  sleeps ms hms := by
    rcases List.mem_or_eq_of_mem_set hms with hms | hms
    · exact h.sleeps ms hms
    · cases hms

theorem ReconnectInv.finish (h : ReconnectInv s) {i : Nat} {p : Option Nat}
    (hi : s.tasks[i]? = some (ReconnectTask.reconnecting p)) : ReconnectInv (s.finish i p) := by
  have h₁ := h.leave hi (by simp) (h.nested.no_child hi (by simp))
  cases p with
  | none => exact h₁
  | some j =>
    -- the background task `j` waits on `i` alone, and leaves after it
    have hj := h.nested.parent i j hi
    have hij : i ≠ j := fun hij => by rw [hij, hj] at hi; cases hi
    refine h₁.leave (t := .connecting) ?_ (by simp) fun a ha => ?_
    · simpa [ReconnectState.leave, List.getElem?_set_ne hij] using hj
    · obtain ⟨hia, ha⟩ := Update.getElem?_of_set_eq_some ha (by simp)
      exact hia (h.nested.child i a j hi ha)

theorem ReconnectInv.backoffInBackground (h : ReconnectInv s) (r : UInt64) :
    ReconnectInv (s.backoffInBackground r) := by
  rcases backoffInBackground_spec s r with ⟨-, he⟩ | ⟨-, he⟩
  · rw [he]
    exact h
  · rw [he]
    obtain ⟨hmem, hlo, hhi⟩ := ReconnectBackoff.increment_mem h.inTable
    have hr : (r % 100).toNat < 100 := by
      rw [UInt64.toNat_mod]
      exact Nat.mod_lt _ (by decide)
    refine ⟨?_, h.nested.append (by simp), hmem, fun ms hms => ?_⟩
    · simp [h.counted, ReconnectTask.weight]
    · rcases List.mem_append.mp hms with hms | hms
      · exact h.sleeps ms hms
      · -- the new sleep: under 100 ms of jitter and 1 to 1800 seconds
        cases List.mem_singleton.mp hms
        omega

theorem reconnectInv_step {e : ReconnectEvent} (h : ReconnectInv s) (hs : step s e = some s') :
    ReconnectInv s' := by
  cases e with
  | connect =>
    cases hs
    rcases connect_spec s none with ⟨-, hc⟩ | ⟨-, -, hc⟩
    · rw [hc]
      exact h
    · rw [hc]
      refine ⟨by simp [h.counted, ReconnectTask.weight], h.nested.append (by simp), h.inTable,
        fun ms hms => ?_⟩
      rcases List.mem_append.mp hms with hms | hms
      · exact h.sleeps ms hms
      · simp at hms
  | reconnected i =>
    obtain ⟨p, hi, rfl⟩ := step_reconnected hs
    exact (show ReconnectInv { s with connValid := true, bo := .none } from
      ⟨h.counted, h.nested, ReconnectBackoff.none_mem_clampTable, h.sleeps⟩).finish hi
  | reconnectFailed i r =>
    obtain ⟨p, hi, rfl⟩ := step_reconnectFailed hs
    refine (h.backoffInBackground r).finish ?_
    rcases backoffInBackground_spec s r with ⟨-, he⟩ | ⟨-, he⟩
    · rw [he]
      exact hi
    · rw [he]
      exact Update.getElem?_append_of_eq_some hi _
  | slept i =>
    obtain ⟨ms, hi, ⟨-, rfl⟩ | ⟨-, -, rfl⟩⟩ := step_slept hs
    · exact h.leave hi (by simp) (h.nested.no_child hi (by simp))
    · have hsum := Update.sum_map_set ReconnectTask.weight
        (Update.getElem?_append_of_eq_some hi [.reconnecting (some i)]) .connecting
      refine ⟨?_, h.nested.wake hi, h.inTable, fun m hm => ?_⟩
      · rw [hsum, List.map_append, List.sum_append, ← h.counted]
        simp [ReconnectTask.weight]
      · rcases List.mem_or_eq_of_mem_set hm with hm | hm
        · rcases List.mem_append.mp hm with hm | hm
          · exact h.sleeps m hm
          · simp at hm
        · cases hm
  | connLost =>
    cases hs
    exact ⟨h.counted, h.nested, h.inTable, h.sleeps⟩
  | stop =>
    obtain ⟨-, rfl⟩ := step_stop hs
    exact ⟨h.counted, h.nested, h.inTable, h.sleeps⟩

end Invariant

/-! ## Runs -/

/-- In every state a run from a new client reaches, the gate counts exactly
the tasks that are not done, `bo_` is an entry of the clamp table, and every
pending sleep lasts from one second to 30 minutes and 99 milliseconds. -/
theorem reconnect_invariant {es : List ReconnectEvent} {s : ReconnectState}
    (h : Run.run step init es = some s) :
    s.gate.count = s.tasks.countP (· != .done) ∧ s.bo ∈ ReconnectBackoff.clampTable ∧
      ∀ ms, ReconnectTask.sleeping ms ∈ s.tasks → 1000 ≤ ms ∧ ms ≤ 1800099 := by
  have hinv := Run.run_induction step (fun _ _ _ => reconnectInv_step) h reconnectInv_init
  refine ⟨?_, hinv.inTable, hinv.sleeps⟩
  have hc := hinv.counted
  rw [sum_map_weight] at hc
  exact_mod_cast hc

/-- Two failed reconnects in a row: the second sleep is of three seconds. -/
def twoFailuresRun : List ReconnectEvent :=
  [.connect, .reconnectFailed 0 1234, .slept 1, .reconnectFailed 2 99]

theorem reconnect_invariant_two_failures :
    let s := (Run.run step init twoFailuresRun).getD init
    s.gate.count = s.tasks.countP (· != .done) ∧ s.bo ∈ ReconnectBackoff.clampTable ∧
      ∀ ms, ReconnectTask.sleeping ms ∈ s.tasks → 1000 ≤ ms ∧ ms ≤ 1800099 :=
  have hrun : Run.run step init twoFailuresRun ≠ none := by decide
  reconnect_invariant (Option.getD_of_ne_none hrun init).symm

/-- One event of a run with no success and no `stop()`: a failure moves `bo_`
by `++`, and any other event leaves it, with the gate open. -/
theorem step_bo {e : ReconnectEvent} (hc : s.gate.closed = false) (he : e.endsFailures = false)
    (hs : step s e = some s') :
    s'.gate.closed = false ∧ s'.bo = if e.isFailure then s.bo.increment else s.bo := by
  cases e with
  | connect =>
    cases hs
    rcases connect_spec s none with ⟨-, he'⟩ | ⟨-, -, he'⟩ <;> rw [he'] <;> exact ⟨hc, rfl⟩
  | reconnected i => cases he
  | reconnectFailed i r =>
    obtain ⟨p, -, rfl⟩ := step_reconnectFailed hs
    rcases backoffInBackground_spec s r with ⟨hc', -⟩ | ⟨-, hb⟩
    · rw [hc] at hc'
      cases hc'
    · simp [hb, hc, ReconnectEvent.isFailure]
  | slept i =>
    obtain ⟨ms, -, ⟨-, rfl⟩ | ⟨-, -, rfl⟩⟩ := step_slept hs <;>
      exact ⟨hc, by simp [ReconnectEvent.isFailure]⟩
  | connLost =>
    cases hs
    exact ⟨hc, rfl⟩
  | stop => cases he

/-- The backoff over a run that has no successful reconnect and no `stop()`:
from the table entry `k`, each failed reconnect moves `bo_` one entry along
the table, and `tableAt` is `wait_1800_sec` past it.  From `none` the sleeps
are 1, 3, 5, 10, 20, 30, 60, 300, 600 seconds and then 1800 seconds for ever,
each with its jitter. -/
theorem backoff_after_failures {s s' : ReconnectState} {es : List ReconnectEvent} {k : Nat}
    (hes : ∀ e ∈ es, e.endsFailures = false) (hc : s.gate.closed = false)
    (hk : s.bo = ReconnectBackoff.tableAt k) (h : Run.run step s es = some s') :
    s'.bo = ReconnectBackoff.tableAt (k + es.countP ReconnectEvent.isFailure) := by
  -- induction on the run, with the table index carried along
  induction es generalizing s k with
  | nil =>
    cases h
    exact hk
  | cons e es ih =>
    cases hs : step s e with
    | none =>
      rw [Run.run_cons, hs] at h
      cases h
    | some s₁ =>
      rw [Run.run_cons_of_step step hs] at h
      obtain ⟨hc₁, hb₁⟩ := step_bo hc (hes e List.mem_cons_self) hs
      have hk₁ : s₁.bo = ReconnectBackoff.tableAt (k + if e.isFailure then 1 else 0) := by
        cases hf : e.isFailure <;> simp [hb₁, hf, hk, ReconnectBackoff.increment_tableAt]
      rw [ih (fun e' he' => hes e' (List.mem_cons_of_mem e he')) hc₁ hk₁ h, List.countP_cons]
      congr 1
      omega

theorem backoff_after_failures_two :
    (∀ e ∈ twoFailuresRun, e.endsFailures = false) ∧ init.gate.closed = false ∧
      init.bo = ReconnectBackoff.tableAt 0 ∧
      ((Run.run step init twoFailuresRun).getD init).bo =
        ReconnectBackoff.tableAt (0 + twoFailuresRun.countP ReconnectEvent.isFailure) :=
  have hrun : Run.run step init twoFailuresRun ≠ none := by decide
  ⟨by decide, rfl, rfl,
    backoff_after_failures (by decide) rfl rfl (Option.getD_of_ne_none hrun init).symm⟩

/-- One event once the gate is closed: the gate stays closed, no task enters
it, and every pending reconnect was pending before. -/
theorem step_of_closed {e : ReconnectEvent} (hc : s.gate.closed = true)
    (hs : step s e = some s') :
    s'.gate.closed = true ∧ s'.tasks.length = s.tasks.length ∧
      ∀ (i : Nat) p, s'.tasks[i]? = some (ReconnectTask.reconnecting p) →
        s.tasks[i]? = some (ReconnectTask.reconnecting p) := by
  cases e with
  | connect =>
    cases hs
    rcases connect_spec s none with ⟨-, he⟩ | ⟨-, hc', -⟩
    · rw [he]
      exact ⟨hc, rfl, fun _ _ h => h⟩
    · rw [hc] at hc'
      cases hc'
  | reconnected i =>
    obtain ⟨p, -, rfl⟩ := step_reconnected hs
    exact ⟨by simpa using hc, by simp,
      fun a q ha => finish_reconnecting (s := { s with connValid := true, bo := .none }) ha⟩
  | reconnectFailed i r =>
    obtain ⟨p, -, rfl⟩ := step_reconnectFailed hs
    rcases backoffInBackground_spec s r with ⟨-, he⟩ | ⟨hc', -⟩
    · -- `with_gate` throws on the closed gate: no sleep, no `++`
      rw [he]
      exact ⟨by simpa using hc, by simp, fun a q ha => finish_reconnecting ha⟩
    · rw [hc] at hc'
      cases hc'
  | slept i =>
    obtain ⟨ms, -, ⟨-, rfl⟩ | ⟨-, hc', -⟩⟩ := step_slept hs
    · -- `connect()` finds the gate closed and the task leaves
      exact ⟨hc, by simp [leave], fun a q ha => (Update.getElem?_of_set_eq_some ha (by simp)).2⟩
    · rw [hc] at hc'
      cases hc'
  | connLost =>
    cases hs
    exact ⟨hc, rfl, fun _ _ h => h⟩
  | stop =>
    obtain ⟨hc', -⟩ := step_stop hs
    rw [hc] at hc'
    cases hc'

/-- Once `stop()` has closed the gate no `client_->reconnect()` starts: along
any run no task enters the gate, and every reconnect pending at the end was
pending when the run began. -/
theorem no_reconnect_after_stop {s s' : ReconnectState} {es : List ReconnectEvent}
    (hc : s.gate.closed = true) (h : Run.run step s es = some s') :
    s'.tasks.length = s.tasks.length ∧
      ∀ (i : Nat) p, s'.tasks[i]? = some (ReconnectTask.reconnecting p) →
        s.tasks[i]? = some (ReconnectTask.reconnecting p) := by
  -- the closed gate is carried along the run with the two facts
  have hrun := Run.run_induction step
    (P := fun t => t.gate.closed = true ∧ t.tasks.length = s.tasks.length ∧
      ∀ (i : Nat) p, t.tasks[i]? = some (ReconnectTask.reconnecting p) →
        s.tasks[i]? = some (ReconnectTask.reconnecting p))
    (fun _ _ _ ⟨htc, hlen, hrec⟩ hs => by
      obtain ⟨htc', hlen', hrec'⟩ := step_of_closed htc hs
      exact ⟨htc', hlen'.trans hlen, fun i p hi => hrec i p (hrec' i p hi)⟩)
    h ⟨hc, rfl, fun _ _ hi => hi⟩
  exact hrun.2

/-- `stop()` while the first reconnect is pending; that reconnect then fails,
and the caller calls `connect()` again. -/
def stopRun : List ReconnectEvent := [.connect, .stop]

def afterStopRun : List ReconnectEvent := [.reconnectFailed 0 5, .connect]

theorem no_reconnect_after_stop_failed :
    let s := (Run.run step init stopRun).getD init
    let s' := (Run.run step s afterStopRun).getD init
    s.gate.closed = true ∧ s'.tasks.length = s.tasks.length ∧
      ∀ (i : Nat) p, s'.tasks[i]? = some (ReconnectTask.reconnecting p) →
        s.tasks[i]? = some (ReconnectTask.reconnecting p) :=
  have hrun : Run.run step ((Run.run step init stopRun).getD init) afterStopRun ≠ none := by
    decide
  ⟨by decide, no_reconnect_after_stop (by decide) (Option.getD_of_ne_none hrun init).symm⟩

end ReconnectState

end Smf
