import SmfRpc.Wire.Envelope
import SmfRpc.Lib.Semaphore
import SmfRpc.Lib.Run

/-!
# Writers of one output stream and `serialize_writes`

Two places write frames to a connection's output stream, both through
`rpc_envelope::send` (header write, body write, flush) under a one-unit
semaphore:

* `rpc_server::do_dispatch_rpc` sends each reply under the connection's
  `serialize_writes`, and after the semaphore is released its last `then`
  flushes the stream again if the connection is still valid;
* `rpc_client::dispatch_write` sends each request under the client's
  `serialize_writes_`, and stops there.

`writeStep trailing` is one connection's writers; `trailing` says whether
the extra flush follows.  The scheduler picks
which pending continuation runs next.  The log records each call on the
stream with the writer that made it; `stream env` turns it into the
operations the stream sees when writer `i` sends `env i`.

`Serialized` is the invariant: the semaphore is a mutex over the three calls
of `send`, and leaving out the trailing flushes, the log is whole sends one
after another followed by the start of at most one more.  The trailing flush
is outside the semaphore, so on the server it can fall between another
reply's header and body writes (`trailing_flush_between_header_and_body`).
-/

namespace Smf

open Semaphore Run

/-- Where one writer of the stream is. -/
inductive WritePhase where
  /-- It has not reached `with_semaphore(serialize_writes, 1, ...)`. -/
  | idle
  /-- It is queued on the semaphore. -/
  | waiting
  /-- It holds the unit; `send` has not written yet. -/
  | granted
  /-- The header is written; the body write is pending. -/
  | writingBody
  /-- Header and body are written; `send`'s flush is pending. -/
  | flushingSend
  /-- It released the unit; the server's trailing flush is pending. -/
  | trailing
  | done
  deriving DecidableEq, Repr

/-- The phases in which a writer holds the unit of the semaphore. -/
def WritePhase.holds : WritePhase → Bool
  | .granted | .writingBody | .flushingSend => true
  | _ => false

/-- A call a writer makes on the stream. -/
inductive WriteOp where
  | header
  | body
  | flush
  /-- The flush of `do_dispatch_rpc`'s last `then`. -/
  | trailingFlush
  deriving DecidableEq, Repr

/-- The writers of one stream, the semaphore, and the calls made so far. -/
structure WriteState where
  phases : List WritePhase
  serializeWrites : Sem Nat
  log : List (Nat × WriteOp)
  deriving DecidableEq, Repr

/-- What can happen next to the writers. -/
inductive WriteEvent where
  /-- Writer `i` calls `with_semaphore`. -/
  | dispatch (i : Nat)
  /-- The pending continuation of writer `i` runs. -/
  | resume (i : Nat)
  /-- The trailing `then` of writer `i`, on a connection that is or is not
  valid any more. -/
  | trailingFlush (i : Nat) (valid : Bool)
  deriving DecidableEq, Repr

namespace WriteState

/-- `n` writers before their first step, and the semaphore's one unit. -/
def init (n : Nat) : WriteState := ⟨List.replicate n .idle, Sem.init 1, []⟩

def phase (s : WriteState) (i : Nat) : WritePhase := s.phases.getD i .done

def setPhase (s : WriteState) (i : Nat) (p : WritePhase) : WriteState :=
  { s with phases := s.phases.set i p }

/-- Writer `i` makes a call on the stream. -/
def emit (s : WriteState) (i : Nat) (op : WriteOp) : WriteState :=
  { s with log := s.log ++ [(i, op)] }

/-- Resume the waiters a signal granted. -/
def grant (s : WriteState) (woken : List (Nat × Nat)) : WriteState :=
  woken.foldl (fun s w => if s.phase w.2 = .waiting then s.setPhase w.2 .granted else s) s

/-- The `finally` of `with_semaphore`: `signal(1)`. -/
def release (s : WriteState) : WriteState :=
  let r := s.serializeWrites.signal 1
  { s with serializeWrites := r.1 }.grant r.2

section Step

variable (trailing : Bool)

/-- One continuation of one writer. -/
def writeStep (s : WriteState) : WriteEvent → Option WriteState
  | .dispatch i =>
    if s.phase i ≠ .idle then none
    else
      let r := s.serializeWrites.wait 1 i
      some ({ s with serializeWrites := r.1 }.setPhase i (if r.2 then .granted else .waiting))
  | .resume i =>
    match s.phase i with
    | .granted => some ((s.emit i .header).setPhase i .writingBody)
    | .writingBody => some ((s.emit i .body).setPhase i .flushingSend)
    | .flushingSend =>
      some (((s.emit i .flush).setPhase i (if trailing then .trailing else .done)).release)
    | _ => none
  | .trailingFlush i valid =>
    if trailing && s.phase i == .trailing then
      some ((if valid then s.emit i .trailingFlush else s).setPhase i .done)
    else none

end Step

end WriteState

/-- The replies of `rpc_server::do_dispatch_rpc` on one connection. -/
def doDispatchRpcReply : WriteState → WriteEvent → Option WriteState :=
  WriteState.writeStep true

/-- The requests of `rpc_client::dispatch_write` on one connection. -/
def dispatchWrite : WriteState → WriteEvent → Option WriteState :=
  WriteState.writeStep false

/-! ## What the stream sees -/

/-- The stream operation of a call. -/
def WriteOp.event (env : Nat → RpcEnvelope) (i : Nat) : WriteOp → OutputEvent
  | .header => .write (env i).letter.header.toBytes
  | .body => .write (env i).letter.body
  | .flush | .trailingFlush => .flush

/-- The operations the stream sees, in order. -/
def stream (env : Nat → RpcEnvelope) (log : List (Nat × WriteOp)) : List OutputEvent :=
  log.map fun x => x.2.event env x.1

/-- The calls of one whole `rpc_envelope::send`. -/
def sendOps (i : Nat) : List (Nat × WriteOp) := [(i, .header), (i, .body), (i, .flush)]

/-- The log without the trailing flushes. -/
def sendLog (log : List (Nat × WriteOp)) : List (Nat × WriteOp) :=
  log.filter fun x => x.2 != .trailingFlush

@[simp] theorem sendLog_append (l l' : List (Nat × WriteOp)) :
    sendLog (l ++ l') = sendLog l ++ sendLog l' := by
  simp [sendLog]

@[simp] theorem sendLog_send_op (i : Nat) (op : WriteOp) (h : op ≠ .trailingFlush) :
    sendLog [(i, op)] = [(i, op)] := by
  simp [sendLog, h]

@[simp] theorem sendLog_trailingFlush (i : Nat) : sendLog [(i, .trailingFlush)] = [] := rfl

/-- The bytes of whole sends are the frames of their envelopes. -/
theorem written_stream_sendOps (env : Nat → RpcEnvelope) (order : List Nat) :
    written (stream env (order.flatMap sendOps)) = order.flatMap fun i => (env i).letter.frame := by
  induction order with
  | nil => rfl
  | cons i order ih =>
    simp only [List.flatMap_cons, stream, List.map_append, written_append] at ih ⊢
    rw [ih]
    simp [sendOps, WriteOp.event, OutputEvent.bytes, RpcLetter.frame]

namespace WriteState

/-! ## Frame lemmas -/

@[simp] theorem phase_emit (s : WriteState) (i : Nat) (op : WriteOp) (j : Nat) :
    (s.emit i op).phase j = s.phase j := rfl

@[simp] theorem serializeWrites_emit (s : WriteState) (i : Nat) (op : WriteOp) :
    (s.emit i op).serializeWrites = s.serializeWrites := rfl

@[simp] theorem log_emit (s : WriteState) (i : Nat) (op : WriteOp) :
    (s.emit i op).log = s.log ++ [(i, op)] := rfl

@[simp] theorem serializeWrites_setPhase (s : WriteState) (i : Nat) (p : WritePhase) :
    (s.setPhase i p).serializeWrites = s.serializeWrites := rfl

@[simp] theorem log_setPhase (s : WriteState) (i : Nat) (p : WritePhase) :
    (s.setPhase i p).log = s.log := rfl

theorem lt_of_phase_ne_done {s : WriteState} {i : Nat} (h : s.phase i ≠ .done) :
    i < s.phases.length := by
  by_contra hge
  apply h
  simp only [phase, List.getD_eq_getElem?_getD, List.getElem?_eq_none (Nat.le_of_not_lt hge),
    Option.getD_none]

theorem phase_setPhase (s : WriteState) (i j : Nat) (p : WritePhase) :
    (s.setPhase i p).phase j = if i = j ∧ i < s.phases.length then p else s.phase j := by
  unfold phase setPhase
  by_cases h : i = j ∧ i < s.phases.length
  · obtain ⟨rfl, hlt⟩ := h
    simp [hlt]
  · rw [if_neg h]
    by_cases hij : i = j
    · subst hij
      have hge : s.phases.length ≤ i := Nat.le_of_not_lt fun h' => h ⟨rfl, h'⟩
      have hge' : (s.phases.set i p).length ≤ i := by rw [List.length_set]; exact hge
      simp [List.getD_eq_getElem?_getD, List.getElem?_eq_none hge, List.getElem?_eq_none hge']
    · simp [hij]

theorem phase_setPhase_self {s : WriteState} {i : Nat} (h : s.phase i ≠ .done) (p : WritePhase) :
    (s.setPhase i p).phase i = p := by
  simp [phase, setPhase, lt_of_phase_ne_done h]

theorem phase_setPhase_of_ne (s : WriteState) {i j : Nat} (h : j ≠ i) (p : WritePhase) :
    (s.setPhase i p).phase j = s.phase j := by
  simp [phase, setPhase, Ne.symm h]

@[simp] theorem grant_nil (s : WriteState) : s.grant [] = s := rfl

theorem grant_singleton (s : WriteState) (w : Nat × Nat) :
    s.grant [w] = if s.phase w.2 = .waiting then s.setPhase w.2 .granted else s := rfl

@[simp] theorem log_grant (s : WriteState) (ws : List (Nat × Nat)) : (s.grant ws).log = s.log := by
  induction ws generalizing s with
  | nil => rfl
  | cons w ws ih =>
    simp only [grant, List.foldl_cons] at ih ⊢
    split <;> exact ih _

/-- The signal of a holder that leaves: the count was zero, so the first
waiter, if any, takes the unit at once. -/
theorem release_of_count_zero {s : WriteState} (hc : s.serializeWrites.count = 0)
    (hw : ∀ w ∈ s.serializeWrites.waiters, w.1 = 1) :
    s.release = { s with serializeWrites :=
      ⟨if s.serializeWrites.waiters = [] then 1 else 0, s.serializeWrites.waiters.drop 1⟩ }.grant
      (s.serializeWrites.waiters.take 1) := by
  simp only [release, Sem.signal, hc, zero_add, wake_one hw]

/-! ## The invariant -/

/-- The calls of the one writer part-way through `send`, if there is one. -/
def InFlight (s : WriteState) (part : List (Nat × WriteOp)) : Prop :=
  (part = [] ∧ ∀ i, s.phase i ≠ .writingBody ∧ s.phase i ≠ .flushingSend) ∨
  (∃ i, s.phase i = .writingBody ∧ part = [(i, .header)]) ∨
  (∃ i, s.phase i = .flushingSend ∧ part = [(i, .header), (i, .body)])

/-- `serialize_writes` is a mutex over `send`: at most one writer holds its
unit, and then the count is zero; every waiter asks for one unit; and without
the trailing flushes the log is whole sends followed by the calls of the one
writer inside `send`. -/
structure Serialized (s : WriteState) : Prop where
  count_nonneg : 0 ≤ s.serializeWrites.count
  count_le : s.serializeWrites.count ≤ 1
  holds_count : ∀ i, (s.phase i).holds → s.serializeWrites.count = 0
  holds_unique : ∀ i j, (s.phase i).holds → (s.phase j).holds → i = j
  waiters_one : ∀ w ∈ s.serializeWrites.waiters, w.1 = 1
  framed : ∃ (order : List Nat) (part : List (Nat × WriteOp)),
    sendLog s.log = order.flatMap sendOps ++ part ∧ InFlight s part

theorem phase_init (n i : Nat) : (init n).phase i = if i < n then .idle else .done := by
  simp only [init, phase, List.getD_eq_getElem?_getD, List.getElem?_replicate]
  split <;> rfl

theorem serialized_init (n : Nat) : Serialized (init n) where
  count_nonneg := by simp [init, Sem.init]
  count_le := by simp [init, Sem.init]
  holds_count i h := by
    rw [phase_init] at h
    split at h <;> cases h
  holds_unique i j h := by
    rw [phase_init] at h
    split at h <;> cases h
  waiters_one w h := by cases h
  framed := ⟨[], [], rfl, .inl ⟨rfl, fun i => by rw [phase_init]; split <;> simp⟩⟩

/-! ### The writer inside `send` -/

namespace Serialized

variable {s : WriteState} (hs : Serialized s)
include hs

/-- Two writers in holding phases are one writer, in one phase. -/
theorem eq_of_phase_holds {i j : Nat} {p q : WritePhase} (hi : s.phase i = p)
    (hj : s.phase j = q) (hp : p.holds) (hq : q.holds) : j = i ∧ q = p := by
  have hji : j = i := hs.holds_unique j i (hj ▸ hq) (hi ▸ hp)
  subst hji
  exact ⟨rfl, hj.symm.trans hi⟩

/-- A holder that has not written yet: nothing is in flight. -/
theorem part_of_granted {i : Nat} (hi : s.phase i = .granted) {part : List (Nat × WriteOp)}
    (hp : InFlight s part) : part = [] := by
  rcases hp with ⟨rfl, -⟩ | ⟨j, hj, -⟩ | ⟨j, hj, -⟩
  · rfl
  · cases (hs.eq_of_phase_holds hi hj rfl rfl).2
  · cases (hs.eq_of_phase_holds hi hj rfl rfl).2

/-- A holder between its two writes: its header is in flight. -/
theorem part_of_writingBody {i : Nat} (hi : s.phase i = .writingBody)
    {part : List (Nat × WriteOp)} (hp : InFlight s part) : part = [(i, .header)] := by
  rcases hp with ⟨-, hall⟩ | ⟨j, hj, rfl⟩ | ⟨j, hj, -⟩
  · exact absurd hi (hall i).1
  · rw [(hs.eq_of_phase_holds hi hj rfl rfl).1]
  · cases (hs.eq_of_phase_holds hi hj rfl rfl).2

/-- A holder before `send`'s flush: its header and body are in flight. -/
theorem part_of_flushingSend {i : Nat} (hi : s.phase i = .flushingSend)
    {part : List (Nat × WriteOp)} (hp : InFlight s part) :
    part = [(i, .header), (i, .body)] := by
  rcases hp with ⟨-, hall⟩ | ⟨j, hj, -⟩ | ⟨j, hj, rfl⟩
  · exact absurd hi (hall i).2
  · cases (hs.eq_of_phase_holds hi hj rfl rfl).2
  · rw [(hs.eq_of_phase_holds hi hj rfl rfl).1]

end Serialized

/-- Moving a writer between two phases outside `send` keeps what is in
flight. -/
theorem inFlight_setPhase {s : WriteState} {part : List (Nat × WriteOp)} (h : InFlight s part)
    {i : Nat} {p : WritePhase} (hold : s.phase i ≠ .writingBody ∧ s.phase i ≠ .flushingSend)
    (hp : p ≠ .writingBody ∧ p ≠ .flushingSend) : InFlight (s.setPhase i p) part := by
  have hphase : ∀ j, (s.setPhase i p).phase j = s.phase j ∨ (j = i ∧ (s.setPhase i p).phase j = p) := by
    intro j
    rw [phase_setPhase]
    split
    · rename_i hij
      exact .inr ⟨hij.1.symm, rfl⟩
    · exact .inl rfl
  rcases h with ⟨rfl, hall⟩ | ⟨j, hj, rfl⟩ | ⟨j, hj, rfl⟩
  · refine .inl ⟨rfl, fun j => ?_⟩
    rcases hphase j with hj | ⟨-, hj⟩ <;> rw [hj]
    · exact hall j
    · exact hp
  · refine .inr (.inl ⟨j, ?_, rfl⟩)
    rcases hphase j with hj' | ⟨rfl, -⟩
    · rw [hj', hj]
    · exact absurd hj hold.1
  · refine .inr (.inr ⟨j, ?_, rfl⟩)
    rcases hphase j with hj' | ⟨rfl, -⟩
    · rw [hj', hj]
    · exact absurd hj hold.2

theorem phase_setPhase_of_lt {s : WriteState} {i : Nat} (h : i < s.phases.length)
    (p : WritePhase) (j : Nat) : (s.setPhase i p).phase j = if j = i then p else s.phase j := by
  rw [phase_setPhase]
  by_cases hj : j = i
  · subst hj
    simp [h]
  · simp [hj, Ne.symm hj]

/-- Granting the unit to a writer while nobody holds it makes that writer
the only holder. -/
theorem eq_of_holds_setPhase_granted {s : WriteState} {i j : Nat}
    (hj : ((s.setPhase i .granted).phase j).holds) (h : i < s.phases.length)
    (hfree : ∀ k, (s.phase k).holds = false) : j = i := by
  rw [phase_setPhase_of_lt h] at hj
  split at hj
  · assumption
  · exact absurd (hj.symm.trans (hfree j)) (by decide)

/-! ### One step of each kind -/

/-- `with_semaphore` called: the writer takes the free unit, or queues for
it. -/
theorem serialized_dispatch {s : WriteState} (hs : Serialized s) {i : Nat}
    (hi : s.phase i = .idle) :
    Serialized ({ s with serializeWrites := (s.serializeWrites.wait 1 i).1 }.setPhase i
      (if (s.serializeWrites.wait 1 i).2 then .granted else .waiting)) := by
  have hlt : i < s.phases.length := lt_of_phase_ne_done (by rw [hi]; decide)
  obtain ⟨order, part, hlog, hpart⟩ := hs.framed
  have hout : s.phase i ≠ .writingBody ∧ s.phase i ≠ .flushingSend := by
    rw [hi]
    decide
  by_cases hm : s.serializeWrites.mayProceed 1 = true
  · -- the unit is free and nobody is queued: the writer takes it
    have hc : s.serializeWrites.count = 1 := by
      have := hs.count_le
      simp only [Sem.mayProceed, Sem.hasAvailableUnits, Bool.and_eq_true,
        decide_eq_true_eq] at hm
      omega
    have hfree : ∀ j, (s.phase j).holds = false := by
      intro j
      by_contra hj
      have := hs.holds_count j (by simpa using hj)
      omega
    simp only [wait_proceed hm, if_true]
    refine ⟨by simp [hc], by simp [hc], fun _ _ => by simp [hc], fun j k hj hk => ?_,
      hs.waiters_one, ?_⟩
    · rw [eq_of_holds_setPhase_granted hj hlt hfree, eq_of_holds_setPhase_granted hk hlt hfree]
    · exact ⟨order, part, hlog, inFlight_setPhase hpart hout (by decide)⟩
  · -- the writer queues behind the others, asking for one unit
    have hm' : s.serializeWrites.mayProceed 1 = false := by simpa using hm
    have hph := phase_setPhase_of_lt (s := { s with serializeWrites := (s.serializeWrites.wait 1 i).1 })
      hlt .waiting
    simp only [wait_queue hm', Bool.false_eq_true, if_false] at hph ⊢
    refine ⟨hs.count_nonneg, hs.count_le, fun j hj => ?_, fun j k hj hk => ?_, ?_, ?_⟩
    · rw [hph] at hj
      split at hj
      · cases hj
      · exact hs.holds_count j hj
    · rw [hph] at hj hk
      split at hj
      · cases hj
      · split at hk
        · cases hk
        · exact hs.holds_unique j k hj hk
    · intro w hw
      have hw' : w ∈ s.serializeWrites.waiters ++ [(1, i)] := hw
      rcases List.mem_append.mp hw' with hw | hw
      · exact hs.waiters_one w hw
      · rw [List.mem_singleton.mp hw]
    · exact ⟨order, part, hlog, inFlight_setPhase hpart hout (by decide)⟩

/-- The holder makes a call of `send` and moves to any phase. -/
theorem serialized_holder_emit {s : WriteState} (hs : Serialized s) {i : Nat}
    (hi : (s.phase i).holds) {op : WriteOp} {p : WritePhase}
    (hframed : ∃ (order : List Nat) (part : List (Nat × WriteOp)),
      sendLog (s.log ++ [(i, op)]) = order.flatMap sendOps ++ part ∧
        InFlight ((s.emit i op).setPhase i p) part) :
    Serialized ((s.emit i op).setPhase i p) := by
  have hlt : i < s.phases.length := lt_of_phase_ne_done fun h => by rw [h] at hi; cases hi
  have hph : ∀ j, ((s.emit i op).setPhase i p).phase j = if j = i then p else s.phase j :=
    phase_setPhase_of_lt (s := s.emit i op) hlt p
  -- a holder of the new state is `i`, the holder of the old one
  have hheld : ∀ j, (((s.emit i op).setPhase i p).phase j).holds → j = i := by
    intro j hj
    rw [hph] at hj
    split at hj
    · assumption
    · exact hs.holds_unique j i hj hi
  refine ⟨hs.count_nonneg, hs.count_le, fun j hj => ?_, fun j k hj hk => ?_, hs.waiters_one,
    hframed⟩
  · exact hs.holds_count i hi
  · rw [hheld j hj, hheld k hk]

/-- A writer outside the semaphore moves between two phases outside it; the
log gains at most a trailing flush. -/
theorem serialized_outside {s : WriteState} (hs : Serialized s) {i : Nat}
    (hi : (s.phase i).holds = false)
    (hout : s.phase i ≠ .writingBody ∧ s.phase i ≠ .flushingSend) {p : WritePhase}
    (hp : p.holds = false) (hpout : p ≠ .writingBody ∧ p ≠ .flushingSend)
    {t : WriteState} (ht : t = s ∨ t = s.emit i .trailingFlush) :
    Serialized (t.setPhase i p) := by
  have hts : ∀ j, t.phase j = s.phase j := by
    rcases ht with rfl | rfl <;> intro j <;> rfl
  have hph : ∀ j, (t.setPhase i p).phase j = s.phase j ∨ (t.setPhase i p).phase j = p := by
    intro j
    rw [phase_setPhase]
    split
    · exact .inr rfl
    · exact .inl (hts j)
  have hheld : ∀ j, ((t.setPhase i p).phase j).holds → (s.phase j).holds := by
    intro j hj
    rcases hph j with h | h <;> rw [h] at hj
    · exact hj
    · rw [hp] at hj
      cases hj
  have hsem : t.serializeWrites = s.serializeWrites := by rcases ht with rfl | rfl <;> rfl
  have hlog : sendLog t.log = sendLog s.log := by rcases ht with rfl | rfl <;> simp
  obtain ⟨order, part, hlogs, hpart⟩ := hs.framed
  have hin : InFlight t part := by
    rcases ht with rfl | rfl
    · exact hpart
    · exact hpart
  refine ⟨?_, ?_, fun j hj => ?_, fun j k hj hk => ?_, ?_, ?_⟩
  · simpa [hsem] using hs.count_nonneg
  · simpa [hsem] using hs.count_le
  · simpa [hsem] using hs.holds_count j (hheld j hj)
  · exact hs.holds_unique j k (hheld j hj) (hheld k hk)
  · simpa [hsem] using hs.waiters_one
  · refine ⟨order, part, by simpa [hlog] using hlogs, inFlight_setPhase hin ?_ hpout⟩
    rw [hts]
    exact hout

/-- The signal of a holder that has left, with nothing in flight: the unit is
free again, or the first waiter, if it still waits, takes it. -/
theorem serialized_release {t : WriteState} (hc : t.serializeWrites.count = 0)
    (hw : ∀ w ∈ t.serializeWrites.waiters, w.1 = 1)
    (hfree : ∀ j, (t.phase j).holds = false ∧ t.phase j ≠ .writingBody ∧
      t.phase j ≠ .flushingSend)
    {order : List Nat} (hlog : sendLog t.log = order.flatMap sendOps) :
    Serialized t.release := by
  rw [release_of_count_zero hc hw]
  rcases hws : t.serializeWrites.waiters with _ | ⟨w, rest⟩
  · -- nobody waits: the unit is free again
    simp only [List.take_nil, grant_nil, List.drop_nil, if_true]
    refine ⟨by simp, by simp, fun j hj => ?_, fun j k hj hk => ?_, ?_, ?_⟩
    · exact absurd (hj.symm.trans (hfree j).1) (by decide)
    · exact absurd (hj.symm.trans (hfree j).1) (by decide)
    · intro w hw
      cases hw
    · exact ⟨order, [], by simpa using hlog, .inl ⟨rfl, fun j => (hfree j).2⟩⟩
  · -- the first waiter takes the unit, if it is still waiting
    have hrest : ∀ w' ∈ rest, w'.1 = 1 := fun w' hw' =>
      hw w' (by rw [hws]; exact List.mem_cons_of_mem w hw')
    simp only [List.take_succ_cons, List.take_zero, List.drop_succ_cons, List.drop_zero,
      reduceCtorEq, if_false, grant_singleton]
    split
    · rename_i hwait
      have hw' : t.phase w.2 = .waiting := hwait
      have hwlt : w.2 < t.phases.length := lt_of_phase_ne_done (by rw [hw']; decide)
      have hph' := phase_setPhase_of_lt
        (s := { t with serializeWrites := ⟨0, rest⟩ }) hwlt .granted
      refine ⟨le_refl _, by simp, fun _ _ => rfl, fun j k hj hk => ?_, hrest, ?_⟩
      · have hfree' : ∀ k, (t.phase k).holds = false := fun k => (hfree k).1
        rw [eq_of_holds_setPhase_granted hj hwlt hfree',
          eq_of_holds_setPhase_granted hk hwlt hfree']
      · refine ⟨order, [], by simpa using hlog, .inl ⟨rfl, fun j => ?_⟩⟩
        rw [hph']
        split
        · decide
        · exact (hfree j).2
    · refine ⟨le_refl _, by simp, fun _ _ => rfl, fun j k hj hk => ?_, hrest, ?_⟩
      · exact absurd (hj.symm.trans (hfree j).1) (by decide)
      · exact ⟨order, [], by simpa using hlog, .inl ⟨rfl, fun j => (hfree j).2⟩⟩

/-- `send`'s flush: the holder completes its frame and signals; the first
waiter, if any, takes the unit. -/
theorem serialized_flush {s : WriteState} (hs : Serialized s) {i : Nat}
    (hi : s.phase i = .flushingSend) {q : WritePhase} (hq : q = .trailing ∨ q = .done) :
    Serialized (((s.emit i .flush).setPhase i q).release) := by
  have hlt : i < s.phases.length := lt_of_phase_ne_done (by rw [hi]; decide)
  have hheld : (s.phase i).holds := by rw [hi]; rfl
  have hq' : q.holds = false ∧ q ≠ .writingBody ∧ q ≠ .flushingSend := by
    rcases hq with rfl | rfl <;> decide
  -- `t` is the state after the holder left, before the signal
  generalize ht : (s.emit i .flush).setPhase i q = t
  have hph : ∀ j, t.phase j = if j = i then q else s.phase j := by
    rw [← ht]
    exact phase_setPhase_of_lt (s := s.emit i .flush) hlt q
  have hsem : t.serializeWrites = s.serializeWrites := by rw [← ht]; rfl
  -- no writer of `t` holds the unit or is inside `send`
  have hfree : ∀ j, (t.phase j).holds = false ∧ t.phase j ≠ .writingBody ∧
      t.phase j ≠ .flushingSend := by
    intro j
    rw [hph]
    split
    · exact hq'
    · rename_i hj
      have hn : (s.phase j).holds = false := by
        by_contra h
        exact hj (hs.holds_unique j i (by simpa using h) hheld)
      refine ⟨hn, fun h => ?_, fun h => ?_⟩ <;> rw [h] at hn <;> cases hn
  -- the log has one more whole send, and nothing in flight
  have hlog : ∃ order : List Nat, sendLog t.log = order.flatMap sendOps := by
    obtain ⟨order, part, hlog, hpart⟩ := hs.framed
    refine ⟨order ++ [i], ?_⟩
    rw [← ht, log_setPhase, log_emit, sendLog_append, hlog, hs.part_of_flushingSend hi hpart,
      sendLog_send_op _ _ (by decide), List.flatMap_append]
    simp [sendOps]
  obtain ⟨order, hlog⟩ := hlog
  exact serialized_release (by rw [hsem]; exact hs.holds_count i hheld)
    (by rw [hsem]; exact hs.waiters_one) hfree hlog

/-! ### Every step, and every run -/

/-- What one step of the writers can do. -/
theorem writeStep_cases {trailing : Bool} {s s' : WriteState} {e : WriteEvent}
    (h : writeStep trailing s e = some s') :
    (∃ i, s.phase i = .idle ∧ s' = { s with serializeWrites := (s.serializeWrites.wait 1 i).1 }.setPhase
        i (if (s.serializeWrites.wait 1 i).2 then .granted else .waiting)) ∨
    (∃ i, s.phase i = .granted ∧ s' = (s.emit i .header).setPhase i .writingBody) ∨
    (∃ i, s.phase i = .writingBody ∧ s' = (s.emit i .body).setPhase i .flushingSend) ∨
    (∃ i, s.phase i = .flushingSend ∧
      s' = ((s.emit i .flush).setPhase i (if trailing then .trailing else .done)).release) ∨
    (∃ (i : Nat) (valid : Bool), trailing = true ∧ s.phase i = .trailing ∧
      s' = (if valid then s.emit i .trailingFlush else s).setPhase i .done) := by
  cases e with
  | dispatch i =>
    simp only [writeStep] at h
    split at h
    · cases h
    · rename_i hi
      exact .inl ⟨i, not_not.mp hi, (Option.some.inj h).symm⟩
  | resume i =>
    simp only [writeStep] at h
    split at h
    · rename_i hi
      exact .inr (.inl ⟨i, hi, (Option.some.inj h).symm⟩)
    · rename_i hi
      exact .inr (.inr (.inl ⟨i, hi, (Option.some.inj h).symm⟩))
    · rename_i hi
      exact .inr (.inr (.inr (.inl ⟨i, hi, (Option.some.inj h).symm⟩)))
    · cases h
  | trailingFlush i valid =>
    simp only [writeStep] at h
    split at h
    · rename_i hi
      simp only [Bool.and_eq_true, beq_iff_eq] at hi
      exact .inr (.inr (.inr (.inr ⟨i, valid, hi.1, hi.2, (Option.some.inj h).symm⟩)))
    · cases h

/-- Every step keeps the writers serialized. -/
theorem serialized_step {trailing : Bool} {s s' : WriteState} {e : WriteEvent}
    (hs : Serialized s) (h : writeStep trailing s e = some s') : Serialized s' := by
  rcases writeStep_cases h with ⟨i, hi, rfl⟩ | ⟨i, hi, rfl⟩ | ⟨i, hi, rfl⟩ | ⟨i, hi, rfl⟩ |
    ⟨i, valid, -, hi, rfl⟩
  · exact serialized_dispatch hs hi
  · -- the header write starts a send
    obtain ⟨order, part, hlog, hpart⟩ := hs.framed
    have hlt : i < s.phases.length := lt_of_phase_ne_done (by rw [hi]; decide)
    refine serialized_holder_emit hs (by rw [hi]; rfl) ⟨order, [(i, .header)], ?_, ?_⟩
    · rw [sendLog_append, hlog, hs.part_of_granted hi hpart, sendLog_send_op _ _ (by decide),
        List.append_nil]
    · exact .inr (.inl ⟨i, phase_setPhase_self (s := s.emit i .header) (by rw [phase_emit, hi]; decide) _, rfl⟩)
  · -- the body write follows the header of the same writer
    obtain ⟨order, part, hlog, hpart⟩ := hs.framed
    refine serialized_holder_emit hs (by rw [hi]; rfl)
      ⟨order, [(i, .header), (i, .body)], ?_, ?_⟩
    · rw [sendLog_append, hlog, hs.part_of_writingBody hi hpart, sendLog_send_op _ _ (by decide)]
      simp
    · exact .inr (.inr ⟨i, phase_setPhase_self (s := s.emit i .body) (by rw [phase_emit, hi]; decide) _, rfl⟩)
  · exact serialized_flush hs hi (by split <;> simp)
  · refine serialized_outside (p := .done) hs (by rw [hi]; rfl) (by rw [hi]; decide) rfl
      (by decide) ?_
    split <;> simp

/-- Every run of the writers from the start keeps them serialized. -/
theorem serialized_run (trailing : Bool) (n : Nat) {es : List WriteEvent} {s : WriteState}
    (h : Run.run (writeStep trailing) (init n) es = some s) : Serialized s :=
  Reachable.induction_on (writeStep trailing) (serialized_init n)
    (fun _ _ _ hs hstep => serialized_step hs hstep) (Reachable.run _ .init h)

@[simp] theorem log_release (s : WriteState) : s.release.log = s.log := by
  simp [release]

/-- `dispatch_write` makes no call after its `send`. -/
theorem no_trailingFlush_dispatchWrite (n : Nat) {es : List WriteEvent} {s : WriteState}
    (h : Run.run dispatchWrite (init n) es = some s) : ∀ x ∈ s.log, x.2 ≠ .trailingFlush := by
  refine Reachable.induction_on (writeStep false) (P := fun s => ∀ x ∈ s.log, x.2 ≠ .trailingFlush)
    (by simp [init]) ?_ (Reachable.run _ .init h)
  intro s e s' hs hstep
  -- a call other than the trailing flush keeps the log free of it
  have hemit : ∀ (i : Nat) (op : WriteOp), op ≠ .trailingFlush →
      ∀ x ∈ (s.emit i op).log, x.2 ≠ .trailingFlush := by
    intro i op hop x hx
    rw [log_emit, List.mem_append, List.mem_singleton] at hx
    rcases hx with hx | rfl
    · exact hs x hx
    · exact hop
  rcases writeStep_cases hstep with ⟨i, -, rfl⟩ | ⟨i, -, rfl⟩ | ⟨i, -, rfl⟩ | ⟨i, -, rfl⟩ |
    ⟨i, valid, hf, -⟩
  · exact hs
  · exact hemit i .header (by decide)
  · exact hemit i .body (by decide)
  · intro x hx
    rw [log_release, log_setPhase] at hx
    exact hemit i .flush (by decide) x hx
  · cases hf

end WriteState

/-! ## Whole frames on the stream -/

/-- Calls that are whole sends, one writer after another, followed by the
start of at most one more. -/
def WholeSends (log : List (Nat × WriteOp)) : Prop :=
  ∃ (order : List Nat) (part : List (Nat × WriteOp)), log = order.flatMap sendOps ++ part ∧
    (part = [] ∨ ∃ i, part = [(i, .header)] ∨ part = [(i, .header), (i, .body)])

/-- The bytes on the stream are whole frames, one writer after another,
followed by the header or the frame of at most one more whose send has not
finished. -/
def FramesWritten (env : Nat → RpcEnvelope) (log : List (Nat × WriteOp)) : Prop :=
  ∃ (order : List Nat) (pre : List UInt8),
    written (stream env log) = order.flatMap (fun i => (env i).letter.frame) ++ pre ∧
      (pre = [] ∨ ∃ i, pre = (env i).letter.header.toBytes ∨ pre = (env i).letter.frame)

theorem WriteState.Serialized.wholeSends {s : WriteState} (hs : s.Serialized) :
    WholeSends (sendLog s.log) := by
  obtain ⟨order, part, hlog, hpart⟩ := hs.framed
  refine ⟨order, part, hlog, ?_⟩
  rcases hpart with ⟨rfl, -⟩ | ⟨i, -, rfl⟩ | ⟨i, -, rfl⟩
  · exact .inl rfl
  · exact .inr ⟨i, .inl rfl⟩
  · exact .inr ⟨i, .inr rfl⟩

/-- A trailing flush puts no byte on the stream. -/
theorem written_stream_sendLog (env : Nat → RpcEnvelope) (log : List (Nat × WriteOp)) :
    written (stream env (sendLog log)) = written (stream env log) := by
  induction log with
  | nil => rfl
  | cons x log ih =>
    obtain ⟨i, op⟩ := x
    rw [show (i, op) :: log = [(i, op)] ++ log from rfl, sendLog_append]
    simp only [stream, List.map_append, written_append] at ih ⊢
    rw [ih]
    cases op <;> rfl

theorem framesWritten_of_wholeSends (env : Nat → RpcEnvelope) {log : List (Nat × WriteOp)}
    (h : WholeSends (sendLog log)) : FramesWritten env log := by
  obtain ⟨order, part, hlog, hpart⟩ := h
  rw [FramesWritten, ← written_stream_sendLog, hlog]
  simp only [stream, List.map_append, written_append] at *
  rw [← stream, written_stream_sendOps]
  rcases hpart with rfl | ⟨i, rfl | rfl⟩
  · exact ⟨order, [], rfl, .inl rfl⟩
  · exact ⟨order, (env i).letter.header.toBytes, by simp [WriteOp.event, OutputEvent.bytes],
      .inr ⟨i, .inl rfl⟩⟩
  · exact ⟨order, (env i).letter.frame, by simp [WriteOp.event, OutputEvent.bytes, RpcLetter.frame],
      .inr ⟨i, .inr rfl⟩⟩

/-- Whatever the order in which the continuations run: on the server,
leaving out the trailing flushes, the calls on the stream are whole sends one
reply after another and the start of at most one more; on the client the calls
themselves are.  Either way the bytes are whole frames, followed by the header
or frame of at most one send in progress. -/
theorem writes_whole_frames (env : Nat → RpcEnvelope) (n : Nat) (es : List WriteEvent)
    (s : WriteState) :
    (Run.run doDispatchRpcReply (WriteState.init n) es = some s →
      WholeSends (sendLog s.log) ∧ FramesWritten env s.log) ∧
    (Run.run dispatchWrite (WriteState.init n) es = some s →
      WholeSends s.log ∧ FramesWritten env s.log) := by
  constructor
  · intro h
    have hs := WriteState.serialized_run true n h
    exact ⟨hs.wholeSends, framesWritten_of_wholeSends env hs.wholeSends⟩
  · intro h
    have hs := WriteState.serialized_run false n h
    have hno : sendLog s.log = s.log := List.filter_eq_self.mpr fun x hx => by
      simpa using WriteState.no_trailingFlush_dispatchWrite n h x hx
    refine ⟨hno ▸ hs.wholeSends, framesWritten_of_wholeSends env hs.wholeSends⟩

/- Two requests on one client connection, the second queued behind the
first, with one-byte bodies. -/
example :
    let es : List WriteEvent :=
      [.dispatch 0, .dispatch 1, .resume 0, .resume 0, .resume 0, .resume 1]
    let env : Nat → RpcEnvelope := fun _ =>
      ⟨⟨{ compression := 0, bitflags := 0, session := 0, size := 1, checksum := 1, «meta» := 1 },
        [1]⟩⟩
    ∃ s, Run.run dispatchWrite (WriteState.init 2) es = some s ∧
      WholeSends s.log ∧ FramesWritten env s.log := by
  intro es env
  obtain ⟨s, hs⟩ : ∃ s, Run.run dispatchWrite (WriteState.init 2) es = some s := ⟨_, rfl⟩
  exact ⟨s, hs, (writes_whole_frames env 2 es s).2 hs⟩

/-- On the server the trailing flush of one reply can fall between the header
and the body of the next: reply 0 releases `serialize_writes`, reply 1 writes
its header, reply 0's last `then` flushes, and reply 1 writes its body.  The
client's `dispatch_write` keeps every call inside the semaphore, and
`no_trailingFlush_dispatchWrite` says no such call is made there. -/
theorem trailing_flush_between_header_and_body :
    (Run.run doDispatchRpcReply (WriteState.init 2)
      [.dispatch 0, .dispatch 1, .resume 0, .resume 0, .resume 0, .resume 1,
        .trailingFlush 0 true, .resume 1]).map (·.log) =
      some [(0, .header), (0, .body), (0, .flush), (1, .header), (0, .trailingFlush), (1, .body)] := by
  decide

end Smf
