import SmfRpc.Lib.Update
import SmfRpc.Server.Memory
import SmfRpc.Server.Reply

/-!
# Memory units over whole runs

`resources_available` starts with `memory_avail_per_core` units.  A loop takes
`hdr.size()` units when its wait is granted, and `dispatch_rpc` hands them
back with `signal(payload_size)`: at once when the payload does not parse, or
in the `finally` of the chain inside `reply_gate_`.  `Memory` lists the paths
on which units are lost.  This module is the other side: on a run that avoids
them, no unit is lost and none is made.

* `held` counts the units taken and not signalled back: those of a loop
  between its grant and `dispatch_rpc`, and those a dispatch chain will signal
  in its `finally`.
* `UnitsInv` is the invariant.  The free and the held units add up to
  `memory_avail_per_core`; each queued waiter is a loop that waits for its
  own units; no loop holds more than the whole memory; no chain carries a
  negative `payload_size`; and `reply_gate_` is open.
* Each continuation keeps it (`UnitsInv.headerRead`, `UnitsInv.payloadRead`
  and the others), from a spec lemma for each of `grant`, `signalResources`,
  `abortDispatch` and `doDispatchRpc`.  `unitsInv_step` gathers them for every
  event but `stop`, which closes the gate, a payload timeout and a read that
  fails.  A failed read drops the units of its loop: the invariant then holds
  of a smaller memory (`UnitsInv.readFailed`, `unitsInv_le_step`).
* `units_conserved` carries the invariant along a run.  With fewer than `2^31`
  units, so that the `int32_t` of `dispatch_rpc` keeps every size that can be
  granted, every unit is free or held at the end of such a run, and every
  unit is free once no request is in flight.  With failed reads, units are
  lost and none is made (`units_never_made`).
* `queue_blocked` is what the invariant says of the queue.  `parse_header`
  bounds no size from above, so a client can ask for more units than the
  server has.  Its waiter is never granted, and as the queue is first in,
  first out, no connection queued behind it is granted either, failed reads
  or not.  The invariant takes a front of the queue `B` that every step keeps,
  for this result.
-/

namespace Smf

open Rpc Semaphore

/-- The units a loop holds: taken from `resources_available` and not yet handed
to `dispatch_rpc`.  A waiting loop has taken none. -/
def SessionPhase.units : SessionPhase → Nat
  | .granted hdr | .readingPayload hdr => hdr.size.toNat
  | _ => 0

/-- The units a dispatch chain will signal in its `finally`. -/
def Dispatch.units (x : Dispatch) : Int := if x.phase = .done then 0 else x.payloadSize.toInt

/-- All events but `stop`, which closes `reply_gate_`, and a payload timeout:
on them the units can only shrink, by those of a loop whose read fails
(`unitsInv_le_step`). -/
def ServerEvent.keepsUnits : ServerEvent → Bool
  | .stop | .payloadTimeout _ => false
  | _ => true

/-- The events on which no unit is lost: all but `stop`, a payload timeout and
a read that fails, which both end a payload read without a signal. -/
def ServerEvent.conservesUnits : ServerEvent → Bool
  | .stop | .payloadTimeout _ | .readFailed _ => false
  | _ => true

/-- A failed read is the one event that may lose units and still keeps the
bound. -/
theorem ServerEvent.conservesUnits_of_keepsUnits {e : ServerEvent} (he : e.keepsUnits = true)
    (hr : ∀ c, e ≠ .readFailed c) : e.conservesUnits = true := by
  cases e with
  | readFailed c => exact absurd rfl (hr c)
  | stop | payloadTimeout _ => cases he
  | _ => rfl

/-- A size below `2^31` keeps its value as the `int32_t` of `dispatch_rpc`. -/
theorem toInt_toInt32 {n : UInt32} (h : n.toNat < 2 ^ 31) : n.toInt32.toInt = n.toNat := by
  have hn : n = UInt32.ofNat n.toNat := (UInt32.ofNat_toNat).symm
  conv_lhs => rw [hn]
  rw [UInt32.toInt32_ofNat', Int32.toInt_ofNat_of_lt (by omega)]

namespace ServerState

/-- The units the loops hold. -/
def loopUnits (loops : List SessionPhase) : Int := (loops.map fun p => (p.units : Int)).sum

/-- The units the dispatch chains will signal. -/
def dispatchUnits (ds : List Dispatch) : Int := (ds.map Dispatch.units).sum

/-- The units taken from `resources_available` and not signalled back. -/
def held (s : ServerState) : Int := loopUnits s.loops + dispatchUnits s.dispatches

/-- Every queued waiter is the loop of its connection, waiting for exactly the
units it asks for, and no connection is queued twice. -/
def QueueOk (loops : List SessionPhase) (q : List (Nat × Nat)) : Prop :=
  (q.map Prod.snd).Nodup ∧
    ∀ w ∈ q, ∃ hdr : Header, loops.getD w.2 .done = .waiting hdr ∧ hdr.size.toNat = w.1

/-- What the units of a state satisfy besides their sum.  `B` is a front of
the queue that stays: empty, or headed by a waiter that asks for more than the
whole memory. -/
structure UnitsShape (M : Nat) (B : List (Nat × Nat)) (s : ServerState) : Prop where
  queue : QueueOk s.loops s.resources.waiters
  bounded : ∀ p ∈ s.loops, p.units ≤ M
  nonneg : ∀ x ∈ s.dispatches, 0 ≤ x.payloadSize.toInt
  gateOpen : s.replyGate.closed = false
  front : B <+: s.resources.waiters
  blocked : ∀ w ∈ B.head?, M < w.1
  countNonneg : 0 ≤ s.resources.count

/-- The units invariant: the free and the held units add up to `M`. -/
structure UnitsInv (M : Nat) (B : List (Nat × Nat)) (s : ServerState) : Prop
    extends UnitsShape M B s where
  conserved : s.resources.count + s.held = M

/-- What the units read of a state. -/
def ledger (s : ServerState) : List SessionPhase × List Dispatch × Sem Nat × Bool :=
  (s.loops, s.dispatches, s.resources, s.replyGate.closed)

/-! ## What leaves the units alone -/

@[simp] theorem setLoop_resources (s : ServerState) (c : Nat) (p : SessionPhase) :
    (s.setLoop c p).resources = s.resources := rfl

@[simp] theorem setLoop_dispatches (s : ServerState) (c : Nat) (p : SessionPhase) :
    (s.setLoop c p).dispatches = s.dispatches := rfl

@[simp] theorem setLoop_replyGate (s : ServerState) (c : Nat) (p : SessionPhase) :
    (s.setLoop c p).replyGate = s.replyGate := rfl

@[simp] theorem ledger_setConn (s : ServerState) (c : Nat) (x : RpcServerConnection) :
    (s.setConn c x).ledger = s.ledger := rfl

@[simp] theorem ledger_cleanupDispatchRpc (s : ServerState) (c : Nat) :
    (s.cleanupDispatchRpc c).ledger = s.ledger := by
  dsimp only [cleanupDispatchRpc]
  split
  · split <;> rfl
  · rfl

theorem ledger_reap (s : ServerState) : (reap s).ledger = s.ledger := by
  -- each destructor only marks its connection and counts it down
  have hone : ∀ (t : ServerState) (c : Nat), (t.reapOne c).ledger = t.ledger := by
    intro t c
    unfold reapOne
    split <;> rfl
  suffices h : ∀ (cs : List Nat) (t : ServerState), (cs.foldl reapOne t).ledger = t.ledger from
    h _ s
  intro cs
  induction cs with
  | nil => intro t; rfl
  | cons c cs ih => intro t; rw [List.foldl_cons, ih, hone]

theorem loops_of_ledger {s t : ServerState} (h : t.ledger = s.ledger) : t.loops = s.loops :=
  congrArg Prod.fst h

theorem dispatches_of_ledger {s t : ServerState} (h : t.ledger = s.ledger) :
    t.dispatches = s.dispatches :=
  congrArg (·.2.1) h

variable {M : Nat} {B : List (Nat × Nat)}

theorem UnitsShape.of_ledger {s t : ServerState} (hs : UnitsShape M B s) (h : t.ledger = s.ledger) :
    UnitsShape M B t := by
  simp only [ledger, Prod.mk.injEq] at h
  obtain ⟨hl, hd, hr, hg⟩ := h
  exact ⟨by rw [hl, hr]; exact hs.queue, by rw [hl]; exact hs.bounded,
    by rw [hd]; exact hs.nonneg, by rw [hg]; exact hs.gateOpen, by rw [hr]; exact hs.front,
    hs.blocked, by rw [hr]; exact hs.countNonneg⟩

theorem held_of_ledger {s t : ServerState} (h : t.ledger = s.ledger) : t.held = s.held := by
  rw [held, held, loops_of_ledger h, dispatches_of_ledger h]

theorem count_of_ledger {s t : ServerState} (h : t.ledger = s.ledger) :
    t.resources.count = s.resources.count :=
  congrArg (·.2.2.1.count) h

theorem UnitsInv.of_ledger {s t : ServerState} (hs : UnitsInv M B s) (h : t.ledger = s.ledger) :
    UnitsInv M B t :=
  { hs.toUnitsShape.of_ledger h with
    conserved := by rw [count_of_ledger h, held_of_ledger h]; exact hs.conserved }

theorem UnitsShape.setConn {s : ServerState} (hs : UnitsShape M B s) (c : Nat) (x : RpcServerConnection) :
    UnitsShape M B (s.setConn c x) :=
  hs.of_ledger rfl

theorem UnitsInv.setConn {s : ServerState} (h : UnitsInv M B s) (c : Nat) (x : RpcServerConnection) :
    UnitsInv M B (s.setConn c x) :=
  h.of_ledger rfl

theorem ledger_setLoop_of_ledger {s t : ServerState} (h : t.ledger = s.ledger) (c : Nat)
    (p : SessionPhase) : (t.setLoop c p).ledger = (s.setLoop c p).ledger := by
  simp only [ledger, Prod.mk.injEq] at h ⊢
  obtain ⟨hl, hd, hr, hg⟩ := h
  exact ⟨congrArg (·.set c p) hl, hd, hr, hg⟩

/-- A failed loop ends with the units as `setLoop c .done` leaves them: the
two `cleanup_dispatch_rpc` and `set_error` do not touch them. -/
theorem ledger_sessionFailed (s : ServerState) (c : Nat) :
    (s.sessionFailed c).ledger = (s.setLoop c .done).ledger := by
  unfold sessionFailed
  exact ledger_setLoop_of_ledger (by simp) c .done

/-! ## Loops -/

theorem getElem?_loops {s : ServerState} {c : Nat} {p : SessionPhase} (h : s.loop c = p)
    (hp : p ≠ .done) : s.loops[c]? = some p := by
  rw [loop, List.getD_eq_getElem?_getD] at h
  cases hc : s.loops[c]? with
  | none => rw [hc] at h; exact absurd h.symm hp
  | some q => rw [hc] at h; rw [← h]; rfl

theorem loop_setLoop_ne (s : ServerState) {c c' : Nat} (h : c ≠ c') (p : SessionPhase) :
    (s.setLoop c p).loop c' = s.loop c' := by
  simp only [loop, setLoop, List.getD_eq_getElem?_getD, List.getElem?_set_ne h]

@[simp] theorem setLoop_loops (s : ServerState) (c : Nat) (p : SessionPhase) :
    (s.setLoop c p).loops = s.loops.set c p := rfl

theorem loopUnits_set {l : List SessionPhase} {c : Nat} {q : SessionPhase} (hc : l[c]? = some q)
    (p : SessionPhase) : loopUnits (l.set c p) = loopUnits l - q.units + p.units :=
  Update.sum_map_set (fun p : SessionPhase => (p.units : Int)) hc p

theorem loopUnits_nonneg (l : List SessionPhase) : 0 ≤ loopUnits l :=
  List.sum_nonneg fun _ hx => by
    obtain ⟨p, -, rfl⟩ := List.mem_map.mp hx
    exact Int.natCast_nonneg _

theorem units_le_loopUnits {l : List SessionPhase} {c : Nat} {p : SessionPhase} (h : l[c]? = some p) :
    (p.units : Int) ≤ loopUnits l :=
  List.single_le_sum (fun _ hx => by
    obtain ⟨q, -, rfl⟩ := List.mem_map.mp hx
    exact Int.natCast_nonneg _) _ (List.mem_map.mpr ⟨p, List.mem_of_getElem? h, rfl⟩)

theorem QueueOk.tail {l : List SessionPhase} {w : Nat × Nat} {q : List (Nat × Nat)}
    (h : QueueOk l (w :: q)) : QueueOk l q :=
  ⟨(List.nodup_cons.mp h.1).2, fun w' hw' => h.2 w' (List.mem_cons_of_mem w hw')⟩

/-- A connection whose loop does not wait is not queued. -/
theorem QueueOk.ne {l : List SessionPhase} {q : List (Nat × Nat)} (h : QueueOk l q) {c : Nat}
    (hc : ∀ hdr, l.getD c .done ≠ .waiting hdr) : ∀ w ∈ q, w.2 ≠ c := by
  intro w hw heq
  obtain ⟨hdr, hl, -⟩ := h.2 w hw
  rw [heq] at hl
  exact hc hdr hl

/-- Moving a loop that is not queued keeps the queue right. -/
theorem QueueOk.set {l : List SessionPhase} {q : List (Nat × Nat)} (h : QueueOk l q) {c : Nat}
    (hc : ∀ w ∈ q, w.2 ≠ c) (p : SessionPhase) : QueueOk (l.set c p) q := by
  refine ⟨h.1, fun w hw => ?_⟩
  obtain ⟨hdr, hl, hs⟩ := h.2 w hw
  refine ⟨hdr, ?_, hs⟩
  rw [List.getD_eq_getElem?_getD, List.getElem?_set_ne (hc w hw).symm, ← List.getD_eq_getElem?_getD]
  exact hl

theorem QueueOk.append {l : List SessionPhase} {q : List (Nat × Nat)} (h : QueueOk l q)
    (p : SessionPhase) : QueueOk (l ++ [p]) q := by
  refine ⟨h.1, fun w hw => ?_⟩
  obtain ⟨hdr, hl, hs⟩ := h.2 w hw
  -- a queued connection has a loop, so the new one comes after it
  have hlt : w.2 < l.length := by
    by_contra hge
    rw [List.getD_eq_default _ _ (by omega)] at hl
    cases hl
  refine ⟨hdr, ?_, hs⟩
  rw [List.getD_eq_getElem?_getD, List.getElem?_append_left hlt, ← List.getD_eq_getElem?_getD]
  exact hl

/-- A loop moves from `q` to `p`: the held units trade `q`'s for `p`'s. -/
theorem setLoop_spec {s : ServerState} (hs : UnitsShape M B s) {c : Nat} {q : SessionPhase}
    (hc : s.loops[c]? = some q) (hq : ∀ hdr, q ≠ .waiting hdr) {p : SessionPhase} (hp : p.units ≤ M) :
    UnitsShape M B (s.setLoop c p) ∧ (s.setLoop c p).held = s.held - q.units + p.units := by
  have hget : s.loops.getD c .done = q := by rw [List.getD_eq_getElem?_getD, hc]; rfl
  refine ⟨⟨hs.queue.set (hs.queue.ne fun hdr => hget ▸ hq hdr) p,
    Update.forall_mem_set hs.bounded hp c, hs.nonneg, hs.gateOpen, hs.front, hs.blocked,
    hs.countNonneg⟩, ?_⟩
  rw [held, held, setLoop_loops, setLoop_dispatches, loopUnits_set hc]
  ring

/-- A loop moves between two phases that are not waits and hold the same
units. -/
theorem UnitsInv.setLoop {s : ServerState} (h : UnitsInv M B s) {c : Nat} {q : SessionPhase}
    (hc : s.loops[c]? = some q) (hq : ∀ hdr, q ≠ .waiting hdr) {p : SessionPhase}
    (hp : p.units = q.units) : UnitsInv M B (s.setLoop c p) := by
  have hqM : q.units ≤ M := h.bounded q (List.mem_of_getElem? hc)
  obtain ⟨hshape, hheld⟩ := setLoop_spec h.toUnitsShape hc hq (p := p) (by omega)
  exact { hshape with conserved := by rw [hheld, hp]; simpa using h.conserved }

/-! ## `grant` and `signal` -/

theorem grant_cons_waiting (s : ServerState) {w : Nat × Nat} {hdr : Header}
    (h : s.loop w.2 = .waiting hdr) (ws : List (Nat × Nat)) :
    s.grant (w :: ws) = (s.setLoop w.2 (.granted hdr)).grant ws := by
  simp only [grant, List.foldl_cons, h]

/-- `grant` moves loops and nothing else. -/
theorem grant_fields (s : ServerState) (ws : List (Nat × Nat)) :
    (s.grant ws).dispatches = s.dispatches ∧ (s.grant ws).resources = s.resources ∧
      (s.grant ws).replyGate = s.replyGate := by
  induction ws generalizing s with
  | nil => exact ⟨rfl, rfl, rfl⟩
  | cons w ws ih =>
    simp only [grant, List.foldl_cons]
    split
    · exact ih _
    · exact ih s

/-- Granting the front `ws` of a right queue: each granted loop now holds the
units it waited for, the rest of the queue stays right, and a loop that did
not wait is left alone. -/
theorem grant_spec (ws : List (Nat × Nat)) : ∀ {rest : List (Nat × Nat)} {s : ServerState},
    QueueOk s.loops (ws ++ rest) → (∀ p ∈ s.loops, p.units ≤ M) → (∀ w ∈ ws, w.1 ≤ M) →
    loopUnits (s.grant ws).loops = loopUnits s.loops + units ws ∧
      QueueOk (s.grant ws).loops rest ∧ (∀ p ∈ (s.grant ws).loops, p.units ≤ M) ∧
      ∀ c, (∀ hdr, s.loop c ≠ .waiting hdr) → (s.grant ws).loop c = s.loop c := by
  induction ws with
  | nil =>
    intro rest s hq hb _
    exact ⟨by rw [units_nil, add_zero]; rfl, hq, hb, fun _ _ => rfl⟩
  | cons w ws ih =>
    intro rest s hq hb hw
    rw [List.cons_append] at hq
    -- the first granted waiter is the loop of its connection, waiting for its units
    obtain ⟨hdr, hloop, hsize⟩ := hq.2 w List.mem_cons_self
    have hget : s.loops[w.2]? = some (.waiting hdr) := getElem?_loops hloop (by simp)
    have hnd := hq.1
    rw [List.map_cons, List.nodup_cons] at hnd
    have hne : ∀ w' ∈ ws ++ rest, w'.2 ≠ w.2 := fun w' hw' heq =>
      hnd.1 (List.mem_map.mpr ⟨w', hw', heq⟩)
    have hwM : (SessionPhase.granted hdr).units ≤ M := by
      show hdr.size.toNat ≤ M
      rw [hsize]
      exact hw w List.mem_cons_self
    obtain ⟨hu, hq', hb', hc'⟩ := ih (s := s.setLoop w.2 (.granted hdr)) (hq.tail.set hne _)
      (Update.forall_mem_set hb hwM w.2) fun w' hw' => hw w' (List.mem_cons_of_mem w hw')
    rw [grant_cons_waiting s hloop]
    refine ⟨?_, hq', hb', fun c hc => ?_⟩
    · rw [hu, units_cons, setLoop_loops, loopUnits_set hget]
      simp only [SessionPhase.units, hsize, Nat.cast_zero]
      ring
    · have hcw : w.2 ≠ c := fun heq => hc hdr (heq ▸ hloop)
      rw [hc' c (by rw [loop_setLoop_ne s hcw]; exact hc), loop_setLoop_ne s hcw]

/-- `signalResources n` with a count that stays within the memory: the units
signalled go to the count and to the loops it grants, and the queue stays
right. -/
theorem signalResources_spec {s : ServerState} (hs : UnitsShape M B s) {n : Int} (hn0 : 0 ≤ n)
    (hn : s.resources.count + n ≤ M) :
    UnitsShape M B (s.signalResources n) ∧
      (s.signalResources n).resources.count + loopUnits (s.signalResources n).loops =
        s.resources.count + n + loopUnits s.loops ∧
      (s.signalResources n).dispatches = s.dispatches ∧
      ∀ c, (∀ hdr, s.loop c ≠ .waiting hdr) → (s.signalResources n).loop c = s.loop c := by
  dsimp only [signalResources]
  obtain ⟨hd, hres, hgate⟩ :=
    grant_fields { s with resources := (s.resources.signal n).1 } (s.resources.signal n).2
  have hq : QueueOk s.loops ((s.resources.signal n).2 ++ (s.resources.signal n).1.waiters) := by
    rw [signal_waiters]
    exact hs.queue
  obtain ⟨hu, hq', hb', hc'⟩ := grant_spec (s := { s with resources := (s.resources.signal n).1 })
    _ hq hs.bounded fun w hw => by
      have := signal_le s.resources n w hw
      omega
  -- a front that stays is headed by a waiter the count cannot cover: no one is woken
  have hfront : B <+: (s.resources.signal n).1.waiters := by
    cases B with
    | nil => exact List.nil_prefix
    | cons b B' =>
      obtain ⟨rest, hw⟩ := hs.front
      have hb : M < b.1 := hs.blocked b rfl
      rw [signal_of_lt_head (w := b) (hw.symm.trans List.cons_append) (by omega)]
      exact ⟨rest, hw⟩
  refine ⟨⟨by rw [hres]; exact hq', hb', by rw [hd]; exact hs.nonneg,
    by rw [hgate]; exact hs.gateOpen, by rw [hres]; exact hfront, hs.blocked,
    by rw [hres]; exact signal_count_nonneg s.resources (by have := hs.countNonneg; omega)⟩,
    ?_, hd, hc'⟩
  rw [hres, hu]
  have := signal_count_add s.resources n
  simp only at this ⊢
  omega

/-! ## Dispatch chains -/

@[simp] theorem setDispatch_loops (s : ServerState) (d : Nat) (p : DispatchPhase) :
    (s.setDispatch d p).loops = s.loops := rfl

@[simp] theorem setDispatch_resources (s : ServerState) (d : Nat) (p : DispatchPhase) :
    (s.setDispatch d p).resources = s.resources := rfl

@[simp] theorem setDispatch_replyGate (s : ServerState) (d : Nat) (p : DispatchPhase) :
    (s.setDispatch d p).replyGate = s.replyGate := rfl

theorem Dispatch.units_nonneg {x : Dispatch} (h : 0 ≤ x.payloadSize.toInt) : 0 ≤ x.units := by
  unfold Dispatch.units
  split <;> omega

theorem dispatchUnits_nonneg {ds : List Dispatch} (h : ∀ x ∈ ds, 0 ≤ x.payloadSize.toInt) :
    0 ≤ dispatchUnits ds :=
  List.sum_nonneg fun _ hu => by
    obtain ⟨x, hx, rfl⟩ := List.mem_map.mp hu
    exact Dispatch.units_nonneg (h x hx)

theorem units_le_dispatchUnits {ds : List Dispatch} (h : ∀ x ∈ ds, 0 ≤ x.payloadSize.toInt)
    {x : Dispatch} (hx : x ∈ ds) : x.units ≤ dispatchUnits ds :=
  List.single_le_sum (fun _ hu => by
    obtain ⟨y, hy, rfl⟩ := List.mem_map.mp hu
    exact Dispatch.units_nonneg (h y hy)) _ (List.mem_map_of_mem hx)

/-- A chain moves from `x`'s phase to `p`: the held units trade its units. -/
theorem setDispatch_spec {s : ServerState} (hs : UnitsShape M B s) {d : Nat} {x : Dispatch}
    (hd : s.dispatch d = some x) (p : DispatchPhase) :
    UnitsShape M B (s.setDispatch d p) ∧
      (s.setDispatch d p).held = s.held - x.units + { x with phase := p }.units := by
  refine ⟨⟨hs.queue, hs.bounded,
    Update.forall_mem_modify (f := fun x : Dispatch => { x with phase := p }) (fun _ h => h)
      hs.nonneg d,
    hs.gateOpen, hs.front, hs.blocked, hs.countNonneg⟩, ?_⟩
  simp only [held, setDispatch, dispatchUnits, Update.sum_map_modify Dispatch.units hd]
  ring

/-- What is held is at most the memory, so no loop holds more. -/
theorem UnitsShape.units_le {s : ServerState} (hs : UnitsShape M B s) {N : Nat}
    (hc : s.resources.count + s.held = N) {p : SessionPhase} (hp : p ∈ s.loops) :
    p.units ≤ N := by
  obtain ⟨c, hget⟩ := List.mem_iff_getElem?.mp hp
  have hl := units_le_loopUnits hget
  have hd := dispatchUnits_nonneg hs.nonneg
  have h0 := hs.countNonneg
  rw [held] at hc
  omega

/-- The `finally` of a chain signals exactly the units it held. -/
theorem abortDispatch_spec {s : ServerState} (hs : UnitsShape M B s) {d : Nat} {x : Dispatch}
    (hd : s.dispatch d = some x) (hx : x.phase ≠ .done) (hle : s.resources.count + x.units ≤ M) :
    UnitsShape M B (s.abortDispatch d) ∧
      (s.abortDispatch d).resources.count + (s.abortDispatch d).held =
        s.resources.count + s.held ∧
      ∀ c, (∀ hdr, s.loop c ≠ .waiting hdr) → (s.abortDispatch d).loop c = s.loop c := by
  have hunits : x.units = x.payloadSize.toInt := if_neg hx
  obtain ⟨hshape, hbal, hdisp, hloop⟩ :=
    signalResources_spec hs (hs.nonneg x (List.mem_of_getElem? hd)) (hunits ▸ hle)
  simp only [abortDispatch, hd]
  generalize s.signalResources x.payloadSize.toInt = t at hshape hbal hdisp hloop ⊢
  -- leaving the gate does not touch the units
  set t' : ServerState := { t with replyGate := { t.replyGate with count := t.replyGate.count - 1 } }
  have hd' : t'.dispatch d = some x := by
    rw [dispatch, show t'.dispatches = t.dispatches from rfl, hdisp]
    exact hd
  obtain ⟨hshape', hheld⟩ := setDispatch_spec (hshape.of_ledger (t := t') rfl) hd' .done
  refine ⟨hshape', ?_, fun c hc => hloop c hc⟩
  rw [setDispatch_resources, hheld, show ({ x with phase := .done } : Dispatch).units = 0 from if_pos rfl,
    show t'.resources = t.resources from rfl, show t'.held = t.held from rfl, held, held, hdisp]
  linarith

/-- `completeDispatch`: `cleanup_dispatch_rpc` does not touch the units, and
the `finally` signals the chain's. -/
theorem completeDispatch_spec {s : ServerState} (hs : UnitsShape M B s) {d : Nat} {x : Dispatch}
    (hd : s.dispatch d = some x) (hx : x.phase ≠ .done) (hle : s.resources.count + x.units ≤ M) :
    UnitsShape M B (s.completeDispatch d) ∧
      (s.completeDispatch d).resources.count + (s.completeDispatch d).held =
        s.resources.count + s.held ∧
      ∀ c, (∀ hdr, s.loop c ≠ .waiting hdr) → (s.completeDispatch d).loop c = s.loop c := by
  have hl := ledger_cleanupDispatchRpc s x.conn
  obtain ⟨h1, h2, h3⟩ := abortDispatch_spec (hs.of_ledger hl)
    (by rw [dispatch, dispatches_of_ledger hl]; exact hd) hx (by rw [count_of_ledger hl]; exact hle)
  simp only [completeDispatch, hd]
  refine ⟨h1, by rw [h2, count_of_ledger hl, held_of_ledger hl], fun c hc => ?_⟩
  have hloop : (s.cleanupDispatchRpc x.conn).loop c = s.loop c := by
    rw [loop, loops_of_ledger hl]
    rfl
  rw [h3 c (by rw [hloop]; exact hc), hloop]

/-- `do_dispatch_rpc` adds a chain that holds the `payload_size` units, and
completes it at once or stages its filters. -/
theorem doDispatchRpc_spec (routes : UInt32 → Bool) {s : ServerState} (hs : UnitsShape M B s)
    (c : Nat) {p : Int32} (hp : 0 ≤ p.toInt) (hle : s.resources.count + p.toInt ≤ M)
    (ctx : RpcRecvContext) :
    UnitsShape M B (s.doDispatchRpc routes c p ctx) ∧
      (s.doDispatchRpc routes c p ctx).resources.count + (s.doDispatchRpc routes c p ctx).held =
        s.resources.count + s.held + p.toInt ∧
      ∀ c', (∀ hdr, s.loop c' ≠ .waiting hdr) → (s.doDispatchRpc routes c p ctx).loop c' = s.loop c' := by
  set u : ServerState :=
    { s with dispatches := s.dispatches ++ [({ conn := c, payloadSize := p, phase := .incoming } : Dispatch)] }
    with hu_def
  have hu : UnitsShape M B u := ⟨hs.queue, hs.bounded, fun y hy =>
    (List.mem_append.mp hy).elim (hs.nonneg y) fun h => by rw [List.mem_singleton.mp h]; exact hp,
    hs.gateOpen, hs.front, hs.blocked, hs.countNonneg⟩
  have hunits : ({ conn := c, payloadSize := p, phase := .incoming } : Dispatch).units = p.toInt :=
    if_neg (by simp)
  have hheld : u.held = s.held + p.toInt := by
    simp only [hu_def, held, dispatchUnits, List.map_append, List.sum_append, List.map_cons,
      List.map_nil, List.sum_cons, List.sum_nil, add_zero]
    rw [hunits]
    ring
  have hdu : u.dispatch s.dispatches.length = some ⟨c, p, .incoming⟩ := by
    simp [hu_def, dispatch]
  -- the chain completes at once on any state with the same units as `u`
  have hdone : ∀ v : ServerState, v.ledger = u.ledger →
      UnitsShape M B (v.completeDispatch s.dispatches.length) ∧
        (v.completeDispatch s.dispatches.length).resources.count +
          (v.completeDispatch s.dispatches.length).held = s.resources.count + s.held + p.toInt ∧
        ∀ c', (∀ hdr, s.loop c' ≠ .waiting hdr) →
          (v.completeDispatch s.dispatches.length).loop c' = s.loop c' := by
    intro v hv
    have hvl : ∀ c', v.loop c' = s.loop c' := fun c' => by
      rw [loop, loops_of_ledger hv]
      rfl
    obtain ⟨h1, h2, h3⟩ := completeDispatch_spec (hu.of_ledger hv)
      (by rw [dispatch, dispatches_of_ledger hv]; exact hdu) (by simp)
      (by rw [count_of_ledger hv, hunits]; exact hle)
    refine ⟨h1, by rw [h2, count_of_ledger hv, held_of_ledger hv, hheld]; ring, fun c' hc' => ?_⟩
    rw [h3 c' (by rw [hvl]; exact hc'), hvl]
  -- or stages the incoming filters, on a state with the same units as `u`
  have hstage : ∀ v : ServerState, v.ledger = u.ledger →
      UnitsShape M B v ∧ v.resources.count + v.held = s.resources.count + s.held + p.toInt ∧
        ∀ c', (∀ hdr, s.loop c' ≠ .waiting hdr) → v.loop c' = s.loop c' := by
    intro v hv
    refine ⟨hu.of_ledger hv, by rw [count_of_ledger hv, held_of_ledger hv, hheld]; ring,
      fun c' _ => ?_⟩
    rw [loop, loops_of_ledger hv]
    rfl
  dsimp only [doDispatchRpc]
  split
  · exact hdone _ rfl
  · split
    · exact hdone _ rfl
    · exact hstage _ rfl

/-! ## The invariant, continuation by continuation -/

/-- A chain can signal its units without the count passing the memory. -/
theorem UnitsInv.count_add_le {s : ServerState} (h : UnitsInv M B s) {d : Nat} {x : Dispatch}
    (hd : s.dispatch d = some x) : s.resources.count + x.units ≤ M := by
  have hx := units_le_dispatchUnits h.nonneg (List.mem_of_getElem? hd)
  have hl := loopUnits_nonneg s.loops
  have hc := h.conserved
  rw [held] at hc
  linarith

theorem UnitsInv.abortDispatch {s : ServerState} (h : UnitsInv M B s) {d : Nat} {x : Dispatch}
    (hd : s.dispatch d = some x) (hx : x.phase ≠ .done) : UnitsInv M B (s.abortDispatch d) :=
  have hspec := abortDispatch_spec h.toUnitsShape hd hx (h.count_add_le hd)
  { hspec.1 with conserved := hspec.2.1.trans h.conserved }

theorem UnitsInv.completeDispatch {s : ServerState} (h : UnitsInv M B s) {d : Nat} {x : Dispatch}
    (hd : s.dispatch d = some x) (hx : x.phase ≠ .done) : UnitsInv M B (s.completeDispatch d) :=
  have hspec := completeDispatch_spec h.toUnitsShape hd hx (h.count_add_le hd)
  { hspec.1 with conserved := hspec.2.1.trans h.conserved }

/-- A chain moves on to a phase that is not the end: it holds the same units. -/
theorem UnitsInv.setDispatch {s : ServerState} (h : UnitsInv M B s) {d : Nat} {x : Dispatch}
    (hd : s.dispatch d = some x) (hx : x.phase ≠ .done) {p : DispatchPhase} (hp : p ≠ .done) :
    UnitsInv M B (s.setDispatch d p) := by
  obtain ⟨hs, hheld⟩ := setDispatch_spec h.toUnitsShape hd p
  refine { hs with conserved := ?_ }
  rw [setDispatch_resources, hheld, show x.units = x.payloadSize.toInt from if_neg hx,
    show ({ x with phase := p } : Dispatch).units = x.payloadSize.toInt from if_neg hp]
  simpa using h.conserved

theorem UnitsInv.accept {s s' : ServerState} (h : UnitsInv M B s) (hs : s.accept = some s') :
    UnitsInv M B s' := by
  dsimp only [ServerState.accept] at hs
  split at hs
  · cases hs
  · cases hs
    -- a new loop at the end, at the check, holds nothing
    refine ⟨⟨h.queue.append .check, ?_, h.nonneg, h.gateOpen, h.front, h.blocked, h.countNonneg⟩, ?_⟩
    · intro p hp
      rcases List.mem_append.mp hp with hp | hp
      · exact h.bounded p hp
      · rw [List.mem_singleton.mp hp]
        exact Nat.zero_le M
    · have hc := h.conserved
      simp only [held, loopUnits, List.map_append, List.sum_append] at hc ⊢
      simpa [SessionPhase.units] using hc

theorem UnitsInv.loopCheck {s s' : ServerState} {c : Nat} (h : UnitsInv M B s)
    (hs : s.loopCheck c = some s') : UnitsInv M B s' := by
  unfold ServerState.loopCheck at hs
  split at hs
  · cases hs
  · rename_i hchk
    have hc : s.loops[c]? = some .check := getElem?_loops (by simpa using hchk) (by simp)
    split at hs <;> cases hs
    · exact h.setLoop hc (by simp) rfl
    · -- the loop ends: `cleanup_dispatch_rpc` leaves the units alone
      have hl := ledger_cleanupDispatchRpc s c
      exact (h.of_ledger hl).setLoop (q := .check) (by rw [loops_of_ledger hl]; exact hc) (by simp) rfl

/-- `wait` takes the units at once: the count pays for the loop's grant. -/
theorem UnitsInv.take {s : ServerState} (h : UnitsInv M B s) {c : Nat}
    (hc : s.loops[c]? = some .readingHeader) {hdr : Header}
    (hn : s.resources.mayProceed hdr.size.toNat = true) :
    UnitsInv M B ({ s with resources := { s.resources with
      count := s.resources.count - hdr.size.toNat } }.setLoop c (.granted hdr)) := by
  simp only [Sem.mayProceed, Sem.hasAvailableUnits, Bool.and_eq_true, decide_eq_true_eq] at hn
  -- the count covers the size, and never passes the memory
  have hheld : 0 ≤ s.held := add_nonneg (loopUnits_nonneg _) (dispatchUnits_nonneg h.nonneg)
  have hsize : hdr.size.toNat ≤ M := by
    have := h.conserved
    omega
  obtain ⟨hs, hh⟩ := setLoop_spec (s := { s with resources := { s.resources with
    count := s.resources.count - hdr.size.toNat } })
    ⟨h.queue, h.bounded, h.nonneg, h.gateOpen, h.front, h.blocked, by simp only; omega⟩ hc (by simp)
    (p := .granted hdr) hsize
  refine { hs with conserved := ?_ }
  rw [setLoop_resources, hh]
  have := h.conserved
  simp only [SessionPhase.units, Nat.cast_zero, held] at this ⊢
  linarith

/-- `wait` queues: the loop waits for its units at the back of the queue. -/
theorem UnitsInv.enqueue {s : ServerState} (h : UnitsInv M B s) {c : Nat}
    (hc : s.loops[c]? = some .readingHeader) (hdr : Header) :
    UnitsInv M B ({ s with resources := { s.resources with
      waiters := s.resources.waiters ++ [(hdr.size.toNat, c)] } }.setLoop c (.waiting hdr)) := by
  have hlt : c < s.loops.length := (List.getElem?_eq_some_iff.mp hc).1
  -- the connection is not queued yet: its loop reads a header
  have hne : ∀ w ∈ s.resources.waiters, w.2 ≠ c := h.queue.ne fun hdr' => by
    rw [List.getD_eq_getElem?_getD, hc]
    simp
  have hq : QueueOk (s.loops.set c (.waiting hdr)) (s.resources.waiters ++ [(hdr.size.toNat, c)]) := by
    refine ⟨?_, fun w hw => ?_⟩
    · rw [List.map_append, List.nodup_append]
      refine ⟨h.queue.1, List.nodup_singleton _, fun a ha b hb => ?_⟩
      obtain ⟨w, hw, rfl⟩ := List.mem_map.mp ha
      rw [List.map_singleton, List.mem_singleton] at hb
      rw [hb]
      exact hne w hw
    · rcases List.mem_append.mp hw with hw | hw
      · exact (h.queue.set hne _).2 w hw
      · rw [List.mem_singleton.mp hw]
        refine ⟨hdr, ?_, rfl⟩
        rw [List.getD_eq_getElem?_getD, List.getElem?_set_self hlt]
        rfl
  refine ⟨⟨hq, Update.forall_mem_set h.bounded (b := .waiting hdr) (Nat.zero_le M) c, h.nonneg,
    h.gateOpen, h.front.trans (List.prefix_append _ _), h.blocked, h.countNonneg⟩, ?_⟩
  have := h.conserved
  rw [held] at this ⊢
  rw [setLoop_resources, setLoop_loops, setLoop_dispatches, loopUnits_set hc]
  simpa [SessionPhase.units] using this

theorem UnitsInv.headerRead {s s' : ServerState} {c : Nat} (h : UnitsInv M B s)
    (hs : s.headerRead c = some s') : UnitsInv M B s' := by
  unfold ServerState.headerRead at hs
  split at hs
  · cases hs
  · rename_i hchk
    have hc : s.loops[c]? = some .readingHeader := getElem?_loops (by simpa using hchk) (by simp)
    split at hs
    · cases hs
    · rename_i conn _
      split at hs
      · -- a bad header: the error is set and the loop goes back to the check
        cases hs
        exact (h.setConn _ _).setLoop hc (by simp) rfl
      · rename_i hdr _
        cases hs
        -- the units are taken from the count at once, or the loop queues for them
        cases hw : s.resources.mayProceed hdr.size.toNat with
        | true =>
          simp only [wait_proceed hw, if_true]
          exact (h.take hc hw).of_ledger rfl
        | false =>
          simp only [wait_queue hw, Bool.false_eq_true, if_false]
          exact (h.enqueue hc hdr).of_ledger rfl

theorem UnitsInv.admitted {s s' : ServerState} {c : Nat} (h : UnitsInv M B s)
    (hs : s.admitted c = some s') : UnitsInv M B s' := by
  unfold ServerState.admitted at hs
  split at hs
  · rename_i hdr hloop
    cases hs
    exact h.setLoop (getElem?_loops hloop (by simp)) (by simp) rfl
  · cases hs

/-- A loop whose future fails drops what it holds: the invariant holds of the
memory less the loop's units. -/
theorem UnitsInv.sessionFailed {s : ServerState} (h : UnitsInv M B s) {c : Nat} {q : SessionPhase}
    (hc : s.loops[c]? = some q) (hq : ∀ hdr, q ≠ .waiting hdr) :
    UnitsInv (M - q.units) B (s.sessionFailed c) := by
  have hqM : q.units ≤ M := h.bounded q (List.mem_of_getElem? hc)
  obtain ⟨hs, hheld⟩ := setLoop_spec h.toUnitsShape hc hq (p := .done) (Nat.zero_le M)
  have hbal : (s.setLoop c .done).resources.count + (s.setLoop c .done).held = (M - q.units : Nat) := by
    rw [setLoop_resources, hheld, Nat.cast_sub hqM, ← h.conserved]
    simp [SessionPhase.units]
    ring
  have hinv : UnitsInv (M - q.units) B (s.setLoop c .done) :=
    { hs with
      bounded := fun p hp => hs.units_le hbal hp
      blocked := fun w hw => by
        have := hs.blocked w hw
        omega
      conserved := hbal }
  exact hinv.of_ledger (ledger_sessionFailed s c)

/-- A read that fails ends its loop: after a header read nothing is lost,
after a payload read the units the loop took. -/
theorem UnitsInv.readFailed {s s' : ServerState} {c : Nat} (h : UnitsInv M B s)
    (hs : s.readFailed c = some s') : ∃ M' ≤ M, UnitsInv M' B s' := by
  obtain ⟨hloop, rfl⟩ := readFailed_eq_some hs
  -- a loop that reads is neither done nor waiting for its units
  have hread : s.loop c ≠ .done ∧ ∀ hdr, s.loop c ≠ .waiting hdr := by
    rcases hloop with hl | ⟨_, hl⟩ <;> simp [hl]
  exact ⟨_, Nat.sub_le _ _, h.sessionFailed (getElem?_loops rfl hread.1) hread.2⟩

/-- Once the units of the loop are counted elsewhere, it goes back to the
check. -/
theorem UnitsShape.handOn {t : ServerState} (ht : UnitsShape M B t) {c : Nat} {hdr : Header}
    (hc : t.loop c = .readingPayload hdr) (hbal : t.resources.count + t.held = M + hdr.size.toNat) :
    UnitsInv M B (t.setLoop c .check) := by
  obtain ⟨hs, hheld⟩ := setLoop_spec ht (getElem?_loops hc (by simp)) (by simp) (p := .check) (Nat.zero_le M)
  refine { hs with conserved := ?_ }
  rw [setLoop_resources, hheld]
  simp only [SessionPhase.units, Nat.cast_zero]
  linarith

/-- The continuation of `handle_one_client_session` after the body is read:
`dispatch_rpc` takes over the units of the loop, signalling them back at once
when the payload does not parse, or in a chain that holds them. -/
theorem UnitsInv.dispatchRpc (routes : UInt32 → Bool) (hM : M < 2 ^ 31) {s s₁ : ServerState}
    (h : UnitsInv M B s) {c : Nat} {hdr : Header} (hc : s.loop c = .readingPayload hdr)
    {ctx : Option RpcRecvContext} (hd : s.dispatchRpc routes hdr.size.toInt32 c ctx = some s₁) :
    UnitsInv M B (s₁.setLoop c .check) := by
  have hget := getElem?_loops hc (by simp)
  have hsize : hdr.size.toNat ≤ M := h.bounded _ (List.mem_of_getElem? hget)
  have hp : hdr.size.toInt32.toInt = hdr.size.toNat := toInt_toInt32 (by omega)
  -- the loop's units are part of what is held
  have hle : s.resources.count + hdr.size.toNat ≤ M := by
    have hl := units_le_loopUnits hget
    have hd := dispatchUnits_nonneg h.nonneg
    have := h.conserved
    simp only [SessionPhase.units, held] at hl this
    linarith
  unfold ServerState.dispatchRpc at hd
  split at hd
  · -- no context: the units go back to the count
    cases hd
    obtain ⟨hs, hbal, hdisp, hloop⟩ := signalResources_spec h.toUnitsShape (n := hdr.size.toInt32.toInt)
      (by rw [hp]; exact Int.natCast_nonneg _) (by rw [hp]; exact hle)
    refine (hs.setConn _ _).handOn (by rw [← hc]; exact hloop c (by rw [hc]; simp)) ?_
    rw [count_of_ledger (ledger_setConn _ _ _), held_of_ledger (ledger_setConn _ _ _), held, hdisp]
    have := h.conserved
    rw [held] at this
    rw [← hp]
    linarith
  · -- a context: the chain takes the units over, inside the open gate
    split at hd
    · cases hd
    · cases hd
      set s₂ : ServerState := { s with replyGate := { s.replyGate with count := s.replyGate.count + 1 } }
      have hc₂ : s₂.loop c = .readingPayload hdr := hc
      obtain ⟨hs, hbal, hloop⟩ := doDispatchRpc_spec routes (h.toUnitsShape.of_ledger (t := s₂) rfl) c
        (p := hdr.size.toInt32) (by rw [hp]; exact Int.natCast_nonneg _) (by rw [hp]; exact hle) _
      refine hs.handOn (by rw [← hc₂]; exact hloop c (by rw [hc₂]; simp)) ?_
      rw [hbal, hp, count_of_ledger (s := s) (t := s₂) rfl, held_of_ledger (s := s) (t := s₂) rfl,
        h.conserved]

theorem UnitsInv.payloadRead (xxh64 : List UInt8 → UInt64) (routes : UInt32 → Bool)
    (hM : M < 2 ^ 31) {s s' : ServerState} {c : Nat} (h : UnitsInv M B s)
    (hs : s.payloadRead xxh64 routes c = some s') : UnitsInv M B s' := by
  unfold ServerState.payloadRead at hs
  split at hs
  · rename_i hdr hloop
    split at hs
    · cases hs
    · rename_i conn _
      dsimp only at hs
      split at hs
      · rename_i s₁ hd
        cases hs
        exact (h.setConn _ _).dispatchRpc routes hM hloop hd
      · -- `dispatch_rpc` cannot throw: the gate is open
        rename_i hd
        unfold ServerState.dispatchRpc at hd
        split at hd
        · cases hd
        · simp [(h.setConn c conn).gateOpen] at hd
  · cases hs

theorem UnitsInv.incomingFiltered {s s' : ServerState} {d : Nat} {r : Option RpcRecvContext}
    (h : UnitsInv M B s) (hs : s.incomingFiltered d r = some s') : UnitsInv M B s' := by
  unfold ServerState.incomingFiltered at hs
  split at hs
  · rename_i hd
    split at hs
    · cases hs
      exact h.abortDispatch hd (by simp)
    · split at hs <;> cases hs
      · exact (h.setConn _ _).completeDispatch hd (by simp)
      · exact h.setDispatch hd (by simp) (by simp)
  · cases hs

theorem UnitsInv.handled {s s' : ServerState} {d : Nat} {r : Option RpcEnvelope}
    (h : UnitsInv M B s) (hs : s.handled d r = some s') : UnitsInv M B s' := by
  unfold ServerState.handled at hs
  split at hs
  · rename_i hd
    split at hs <;> cases hs
    · exact h.abortDispatch hd (by simp)
    · exact h.setDispatch hd (by simp) (by simp)
  · cases hs

theorem UnitsInv.outgoingFiltered {s s' : ServerState} {d : Nat} {r : Option RpcEnvelope}
    (h : UnitsInv M B s) (hs : s.outgoingFiltered d r = some s') : UnitsInv M B s' := by
  unfold ServerState.outgoingFiltered at hs
  split at hs
  · rename_i hd
    split at hs
    · cases hs
      exact h.abortDispatch hd (by simp)
    · split at hs <;> cases hs
      · exact h.completeDispatch hd (by simp)
      · -- the counters of `rpc_server_stats` are not units
        exact (h.setDispatch hd (p := .sending _) (by simp) (by simp)).of_ledger rfl
  · cases hs

theorem UnitsInv.sent {s s' : ServerState} {d : Nat} {ok : Bool} (h : UnitsInv M B s)
    (hs : s.sent d ok = some s') : UnitsInv M B s' := by
  unfold ServerState.sent at hs
  split at hs
  · rename_i hd
    split at hs <;> cases hs
    · exact (h.setConn _ _).setDispatch hd (by simp) (by simp)
    · exact h.abortDispatch hd (by simp)
  · cases hs

theorem UnitsInv.flushed {s s' : ServerState} {d : Nat} {ok : Bool} (h : UnitsInv M B s)
    (hs : s.flushed d ok = some s') : UnitsInv M B s' := by
  unfold ServerState.flushed at hs
  split at hs
  · rename_i hd
    split at hs
    · cases hs
      exact h.completeDispatch hd (by simp)
    · split at hs <;> cases hs
      · exact (h.setConn _ _).completeDispatch hd (by simp)
      · exact h.abortDispatch hd (by simp)
  · cases hs

theorem UnitsInv.clientData {s s' : ServerState} {c : Nat} {bytes : List UInt8} (h : UnitsInv M B s)
    (hs : s.clientData c bytes = some s') : UnitsInv M B s' := by
  unfold ServerState.clientData at hs
  split at hs <;> cases hs
  exact h.setConn _ _

theorem UnitsInv.clientClose {s s' : ServerState} {c : Nat} (h : UnitsInv M B s)
    (hs : s.clientClose c = some s') : UnitsInv M B s' := by
  unfold ServerState.clientClose at hs
  split at hs <;> cases hs
  exact h.setConn _ _

/-! ## Whole runs -/

/-- A continuation that keeps the invariant keeps it with the destructors it
lets run. -/
theorem UnitsInv.map_reap {o : Option ServerState} {s' : ServerState} (hs : o.map reap = some s')
    (ho : ∀ t, o = some t → UnitsInv M B t) : UnitsInv M B s' := by
  obtain ⟨t, ht, rfl⟩ := Option.map_eq_some_iff.mp hs
  exact (ho t ht).of_ledger (ledger_reap t)

theorem unitsInv_init (M : Nat) : UnitsInv M [] (init M) where
  queue := ⟨List.nodup_nil, fun _ h => absurd h List.not_mem_nil⟩
  bounded _ h := absurd h List.not_mem_nil
  nonneg _ h := absurd h List.not_mem_nil
  gateOpen := rfl
  front := List.nil_prefix
  blocked _ h := nomatch h
  countNonneg := by simp [init, Sem.init]
  conserved := by simp [init, held, loopUnits, dispatchUnits, Sem.init]

/-- Every event but `stop`, a payload timeout and a failed read keeps the
invariant. -/
theorem unitsInv_step (xxh64 : List UInt8 → UInt64) (routes : UInt32 → Bool) (hM : M < 2 ^ 31)
    {s s' : ServerState} {e : ServerEvent} (h : UnitsInv M B s) (he : e.conservesUnits = true)
    (hs : s.step xxh64 routes e = some s') : UnitsInv M B s' := by
  cases e with
  | accept => exact UnitsInv.map_reap hs fun _ ht => h.accept ht
  | clientData c bytes => exact UnitsInv.map_reap hs fun _ ht => h.clientData ht
  | clientClose c => exact UnitsInv.map_reap hs fun _ ht => h.clientClose ht
  | loopCheck c => exact UnitsInv.map_reap hs fun _ ht => h.loopCheck ht
  | headerRead c => exact UnitsInv.map_reap hs fun _ ht => h.headerRead ht
  | admitted c => exact UnitsInv.map_reap hs fun _ ht => h.admitted ht
  | payloadRead c => exact UnitsInv.map_reap hs fun _ ht => h.payloadRead xxh64 routes hM ht
  | payloadTimeout c => cases he
  | readFailed c => cases he
  | incomingFiltered d r => exact UnitsInv.map_reap hs fun _ ht => h.incomingFiltered ht
  | handled d r => exact UnitsInv.map_reap hs fun _ ht => h.handled ht
  | outgoingFiltered d r => exact UnitsInv.map_reap hs fun _ ht => h.outgoingFiltered ht
  | sent d ok => exact UnitsInv.map_reap hs fun _ ht => h.sent ht
  | flushed d ok => exact UnitsInv.map_reap hs fun _ ht => h.flushed ht
  | stop => cases he

/-- The invariant holds at the end of every run without `stop`, without a
payload timeout and without a failed read. -/
theorem unitsInv_run (xxh64 : List UInt8 → UInt64) (routes : UInt32 → Bool) (hM : M < 2 ^ 31)
    {s s' : ServerState} {es : List ServerEvent} (h : UnitsInv M B s)
    (hes : ∀ e ∈ es, e.conservesUnits = true) (hr : Run.run (step xxh64 routes) s es = some s') :
    UnitsInv M B s' :=
  Run.run_induction_of _ (G := fun e => e.conservesUnits = true)
    (fun _ _ _ he hi hs => unitsInv_step xxh64 routes hM hi he hs) hes hr h

/-- With failed reads allowed, the invariant holds of a memory that can only
shrink. -/
theorem unitsInv_le_step (xxh64 : List UInt8 → UInt64) (routes : UInt32 → Bool) (hM : M < 2 ^ 31)
    {s s' : ServerState} {e : ServerEvent} (h : ∃ M' ≤ M, UnitsInv M' B s) (he : e.keepsUnits = true)
    (hs : s.step xxh64 routes e = some s') : ∃ M' ≤ M, UnitsInv M' B s' := by
  obtain ⟨M', hM', hinv⟩ := h
  by_cases hr : ∃ c, e = .readFailed c
  · -- the loop ends, and the units it took are lost
    obtain ⟨c, rfl⟩ := hr
    obtain ⟨t, ht, rfl⟩ := Option.map_eq_some_iff.mp hs
    obtain ⟨M'', hM'', hinv'⟩ := hinv.readFailed ht
    exact ⟨M'', hM''.trans hM', hinv'.of_ledger (ledger_reap t)⟩
  · have hc := ServerEvent.conservesUnits_of_keepsUnits he (not_exists.mp hr)
    exact ⟨M', hM', unitsInv_step xxh64 routes (by omega) hinv hc hs⟩

theorem unitsInv_le_run (xxh64 : List UInt8 → UInt64) (routes : UInt32 → Bool) (hM : M < 2 ^ 31)
    {s s' : ServerState} {es : List ServerEvent} (h : ∃ M' ≤ M, UnitsInv M' B s)
    (hes : ∀ e ∈ es, e.keepsUnits = true) (hr : Run.run (step xxh64 routes) s es = some s') :
    ∃ M' ≤ M, UnitsInv M' B s' :=
  Run.run_induction_of _ (G := fun e => e.keepsUnits = true)
    (fun _ _ _ he hi hs => unitsInv_le_step xxh64 routes hM hi he hs) hes hr h

/-- With no request in flight, no unit is held. -/
theorem held_eq_zero_of_quiescent {s : ServerState} (h : s.Quiescent = true) : s.held = 0 := by
  simp only [Quiescent, Bool.and_eq_true, List.all_eq_true] at h
  obtain ⟨hl, hd⟩ := h
  have h1 : loopUnits s.loops = 0 := by
    refine List.sum_eq_zero fun u hu => ?_
    obtain ⟨p, hp, rfl⟩ := List.mem_map.mp hu
    have := hl p hp
    cases p <;> simp_all [SessionPhase.holdsMemory, SessionPhase.units]
  have h2 : dispatchUnits s.dispatches = 0 := by
    refine List.sum_eq_zero fun u hu => ?_
    obtain ⟨x, hx, rfl⟩ := List.mem_map.mp hu
    exact if_pos (by simpa using hd x hx)
  rw [held, h1, h2, add_zero]

/-- On a server with fewer than `2^31` units of memory, a run without `stop`,
without a payload timeout and without a read that fails loses no unit: the
free units and those held by the loops and the dispatch chains add up to
`memory_avail_per_core`, and once no request is in flight every unit is free
again. -/
theorem units_conserved (xxh64 : List UInt8 → UInt64) (routes : UInt32 → Bool) {M : Nat}
    (hM : M < 2 ^ 31) {es : List ServerEvent} (hes : ∀ e ∈ es, e.conservesUnits = true)
    {s : ServerState} (h : Run.run (step xxh64 routes) (init M) es = some s) :
    s.resources.count + s.held = M ∧ (s.Quiescent = true → s.resources.count = M) := by
  have hinv := unitsInv_run xxh64 routes hM (unitsInv_init M) hes h
  refine ⟨hinv.conserved, fun hq => ?_⟩
  have hc := hinv.conserved
  rw [held_eq_zero_of_quiescent hq, add_zero] at hc
  exact hc

/-- A client sends a header announcing ten bytes, and ten bytes whose checksum
does not match: `dispatch_rpc` gets no context and signals the ten units back
at once. -/
def badChecksumRun : List ServerEvent :=
  [.accept, .clientData 0 (tenByteHeader.toBytes ++ List.replicate 10 0), .loopCheck 0,
    .headerRead 0, .admitted 0, .payloadRead 0, .loopCheck 0]

theorem units_conserved_bad_checksum :
    (64 : Nat) < 2 ^ 31 ∧ (∀ e ∈ badChecksumRun, e.conservesUnits = true) ∧
      let s := (Run.run (step (fun _ => 0) (fun _ => true)) (init 64) badChecksumRun).getD (init 64)
      s.resources.count + s.held = 64 ∧ (s.Quiescent = true → s.resources.count = 64) :=
  have hrun : Run.run (step (fun _ => 0) (fun _ => true)) (init 64) badChecksumRun ≠ none := by
    decide +kernel
  ⟨by decide, by decide, units_conserved (fun _ => 0) (fun _ => true) (by decide) (by decide)
    (Option.getD_of_ne_none hrun (init 64)).symm⟩

/-- Reads that fail lose units, and nothing makes any: along a run without
`stop` and without a payload timeout, the free and the held units never pass
`memory_avail_per_core`. -/
theorem units_never_made (xxh64 : List UInt8 → UInt64) (routes : UInt32 → Bool) {M : Nat}
    (hM : M < 2 ^ 31) {es : List ServerEvent} (hes : ∀ e ∈ es, e.keepsUnits = true)
    {s : ServerState} (h : Run.run (step xxh64 routes) (init M) es = some s) :
    s.resources.count + s.held ≤ M := by
  obtain ⟨M', hM', hinv⟩ := unitsInv_le_run xxh64 routes hM ⟨M, le_rfl, unitsInv_init M⟩ hes h
  have := hinv.conserved
  omega

/-! ## Head-of-line blocking

`parse_header` accepts any non-zero size, and `resources_available` grants its
waiters first in, first out.  A waiter that asks for more units than the
server has is never granted, since the count never passes the memory, and no
waiter behind it is granted either. -/

/-- Once the waiter at the front of `resources_available`'s queue asks for
more units than the server has, every connection queued at that moment stays
queued, its loop waiting, for the rest of every run without `stop` and without
a payload timeout; a later wait can only queue behind them. -/
theorem queue_blocked (xxh64 : List UInt8 → UInt64) (routes : UInt32 → Bool) {M : Nat}
    (hM : M < 2 ^ 31) {es es' : List ServerEvent} (hes : ∀ e ∈ es ++ es', e.keepsUnits = true)
    {s s' : ServerState} (h : Run.run (step xxh64 routes) (init M) es = some s)
    (h' : Run.run (step xxh64 routes) s es' = some s') {w : Nat × Nat}
    (hw : s.resources.waiters.head? = some w) (hbig : M < w.1) :
    s.resources.waiters <+: s'.resources.waiters ∧
      ∀ q ∈ s.resources.waiters, ∃ hdr : Header, s'.loop q.2 = .waiting hdr := by
  obtain ⟨M₁, hM₁, hinv⟩ := unitsInv_le_run xxh64 routes hM ⟨M, le_rfl, unitsInv_init M⟩
    (fun e he => hes e (List.mem_append_left _ he)) h
  -- the whole queue of `s` is a front that stays: failed reads only lower the memory
  have hfront : UnitsInv M₁ s.resources.waiters s :=
    { hinv with
      front := List.prefix_refl _
      blocked := fun w' hw' => by
        obtain rfl : w = w' := Option.some_inj.mp (hw.symm.trans (Option.mem_def.mp hw'))
        omega }
  obtain ⟨M₂, -, hinv'⟩ := unitsInv_le_run xxh64 routes (by omega) ⟨M₁, le_rfl, hfront⟩
    (fun e he => hes e (List.mem_append_right _ he)) h'
  refine ⟨hinv'.front, fun q hq => ?_⟩
  obtain ⟨rest, hrest⟩ := hinv'.front
  obtain ⟨hdr, hl, -⟩ := hinv'.queue.2 q (by rw [← hrest]; exact List.mem_append_left _ hq)
  exact ⟨hdr, hl⟩

/-- A header announcing a hundred bytes. -/
def hundredByteHeader : Header := { tenByteHeader with size := 100 }

/-- On a server with 64 units, connection 0 announces a hundred bytes. -/
def oversizedRun : List ServerEvent :=
  [.accept, .clientData 0 hundredByteHeader.toBytes, .loopCheck 0, .headerRead 0]

/-- Connection 1 then announces ten bytes. -/
def behindRun : List ServerEvent :=
  [.accept, .clientData 1 tenByteHeader.toBytes, .loopCheck 1, .headerRead 1]

theorem queue_blocked_oversized :
    (64 : Nat) < 2 ^ 31 ∧ (∀ e ∈ oversizedRun ++ behindRun, e.keepsUnits = true) ∧
      let s := (Run.run (step (fun _ => 0) (fun _ => true)) (init 64) oversizedRun).getD (init 64)
      let s' := (Run.run (step (fun _ => 0) (fun _ => true)) s behindRun).getD s
      s.resources.waiters.head? = some (100, 0) ∧ 64 < (100, 0).1 ∧
        s.resources.waiters <+: s'.resources.waiters ∧
        ∀ q ∈ s.resources.waiters, ∃ hdr : Header, s'.loop q.2 = .waiting hdr :=
  have hrun : Run.run (step (fun _ => 0) (fun _ => true)) (init 64) oversizedRun ≠ none := by
    decide +kernel
  have hrun' : Run.run (step (fun _ => 0) (fun _ => true))
      ((Run.run (step (fun _ => 0) (fun _ => true)) (init 64) oversizedRun).getD (init 64))
      behindRun ≠ none := by
    decide +kernel
  have hhead : ((Run.run (step (fun _ => 0) (fun _ => true)) (init 64) oversizedRun).getD
      (init 64)).resources.waiters.head? = some (100, 0) := by
    decide +kernel
  ⟨by decide, by decide, hhead, by decide,
    queue_blocked (fun _ => 0) (fun _ => true) (by decide) (by decide)
      (Option.getD_of_ne_none hrun (init 64)).symm (Option.getD_of_ne_none hrun' _).symm hhead
      (by decide)⟩

end ServerState

end Smf
