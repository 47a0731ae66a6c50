import SmfRpc.Client.Slots

/-!
# Requests left without a slot

`raw_send` stores the work item of a request in `rpc_slots_` before the
outgoing filters run.  When a filter fails, the future of `raw_send` fails
and the slot stays (`outFiltered_none`).  `session_idx_` is a `uint16_t`:
65536 sends later the session comes round again, `insert` keeps the stale
slot, and the new request's work item is in no slot.

Only a slot leads to a promise: `process_one_request` completes the promise
of the slot of the reply's session, and `fail_outstanding_futures` fails
those of the slots.  A pending work item outside the slots therefore stays
pending whatever runs next, and the `send` waiting on it never resolves
(`stranded_run`); a reply of its session completes the stale work item
instead.  `session_wrap_strands_request` runs a client into that state.

`SendEffect` says how each step changes the `send` futures, as `SlotEffect`
does for the slots.
-/

namespace Smf

open Rpc Semaphore AssocList

namespace ClientState

/-! ## What one step does to the `send` futures -/

/-- A continuation may resume `send` call `r`: it does not wait on a pending
promise. -/
def Resumable (s : ClientState) (r : Nat) : Prop :=
  ∀ w, s.sendAt r = some ⟨some w, .awaiting⟩ → (s.workItem w).pr ≠ .pending

/-- How one step changes the `send` futures. -/
inductive SendEffect (s s' : ClientState) : Prop where
  | frame (h : s'.sends = s.sends)
  | appended (x : RawSend) (h : s'.sends = s.sends ++ [x])
  | resumed (r : Nat) (p : SendPhase) (hr : s.Resumable r) (h : s'.sends = (s.setSendPhase r p).sends)

section Frame

variable (s : ClientState)

@[simp] theorem setPromise_sends (w p) : (s.setPromise w p).sends = s.sends := rfl
@[simp] theorem modifyConn_sends (g f) : (s.modifyConn g f).sends = s.sends := rfl
@[simp] theorem setLoop_sends (l p) : (s.setLoop l p).sends = s.sends := rfl
@[simp] theorem setReadPhase_sends (r p) : (s.setReadPhase r p).sends = s.sends := rfl

@[simp] theorem disableConn_sends : s.disableConn.sends = s.sends := by
  unfold disableConn; split <;> (try split) <;> rfl

@[simp] theorem failOutstandingFutures_sends : s.failOutstandingFutures.sends = s.sends := by
  unfold failOutstandingFutures
  show (List.foldl _ s.disableConn s.disableConn.rpcSlots).sends = _
  rw [foldl_setPromise]
  exact disableConn_sends s

@[simp] theorem endRead_sends (r l : Nat) : (s.endRead r l).sends = s.sends := by
  unfold endRead; dsimp only; split <;> rfl

@[simp] theorem readFailed_sends (r g l : Nat) (msg : String) :
    (s.readFailed r g l msg).sends = s.sends := by
  simp [readFailed]

end Frame

section Effects

variable {s s' : ClientState}

theorem resumable_of_phase {r : Nat} {x : RawSend} (h : s.sendAt r = some x)
    (hx : x.phase ≠ .awaiting) : s.Resumable r := by
  intro w hw
  rw [h] at hw
  cases hw
  exact absurd rfl hx

theorem sendEffect_send (e : RpcEnvelope) : SendEffect s (s.send e) := by
  unfold send
  split
  · exact .appended _ rfl
  · split
    · exact .appended _ rfl
    · rename_i t ht
      unfold rawSend at ht
      split at ht
      · cases ht
      · cases ht
        exact .appended _ rfl

theorem sendEffect_outFiltered {r : Nat} {res : Option RpcEnvelope}
    (h : s.outFiltered r res = some s') : SendEffect s s' := by
  unfold outFiltered at h
  split at h
  · rename_i w e hr
    have hres := resumable_of_phase hr (by simp)
    split at h
    · cases h
      exact .resumed r _ hres rfl
    · split at h
      · cases h
        exact .resumed r _ hres rfl
      · cases h
        exact .resumed r _ hres rfl
  · cases h

theorem sendEffect_replied {r : Nat} (h : s.replied r = some s') : SendEffect s s' := by
  unfold replied at h
  split at h
  · rename_i w hr
    -- the promise is set in every branch that resumes the future
    have hres : (s.workItem w).pr ≠ .pending → s.Resumable r := fun hp w' hw' => by
      rw [hr] at hw'
      cases hw'
      exact hp
    split at h
    · cases h
    · rename_i hp
      cases h
      exact .resumed r _ (hres (by rw [hp]; simp)) rfl
    · rename_i ctx hp
      cases h
      exact .resumed r _ (hres (by rw [hp]; simp)) rfl
    · rename_i err hp
      cases h
      exact .resumed r _ (hres (by rw [hp]; simp)) rfl
  · cases h

theorem sendEffect_inFiltered {r : Nat} {res : Option RpcRecvContext}
    (h : s.inFiltered r res = some s') : SendEffect s s' := by
  unfold inFiltered at h
  split at h
  · rename_i w ctx hr
    have hres := resumable_of_phase hr (by simp)
    split at h
    · cases h
      exact .resumed r _ hres rfl
    · split at h <;> (cases h; exact .resumed r _ hres rfl)
  · cases h

theorem sends_connect (h : s.connect = some s') : s'.sends = s.sends := by
  unfold connect at h
  split at h
  · cases h
  · dsimp only at h
    split at h <;> (cases h; rfl)

theorem sends_written {w : Nat} {ok : Bool} (h : s.written w ok = some s') : s'.sends = s.sends := by
  unfold written at h
  split at h
  · cases h
    dsimp only
    split <;> simp
  · cases h

theorem sends_loopCheck {l : Nat} (h : s.loopCheck l = some s') : s'.sends = s.sends := by
  unfold loopCheck at h
  split at h
  · cases h
  · split at h
    · split at h <;> (cases h; rfl)
    · cases h; rfl

theorem sends_readTimeout {l : Nat} (h : s.readTimeout l = some s') : s'.sends = s.sends := by
  unfold readTimeout at h
  split at h
  · cases h
    simp
  · cases h

theorem sends_headerRead {r : Nat} (h : s.headerRead r = some s') : s'.sends = s.sends := by
  unfold headerRead at h
  split at h
  · split at h
    · cases h
    · dsimp only at h
      split at h <;> (cases h; simp)
  · cases h

theorem sends_payloadRead (xxh64 : List UInt8 → UInt64) {r : Nat}
    (h : s.payloadRead xxh64 r = some s') : s'.sends = s.sends := by
  unfold payloadRead at h
  split at h
  · split at h
    · cases h
    · dsimp only at h
      split at h
      · cases h
        simp
      · split at h <;> (cases h; simp)
  · cases h

theorem sends_serverData {g : Nat} {bytes : List UInt8} (h : s.serverData g bytes = some s') :
    s'.sends = s.sends := by
  unfold serverData at h
  split at h
  · cases h; rfl
  · cases h

theorem sends_serverClose {g : Nat} (h : s.serverClose g = some s') : s'.sends = s.sends := by
  unfold serverClose at h
  split at h
  · cases h; rfl
  · cases h

theorem sends_reconnected (h : s.reconnected = some s') : s'.sends = s.sends := by
  unfold reconnected at h
  split at h
  · cases h
  · have := sends_connect h
    exact this

theorem sendEffect_step (xxh64 : List UInt8 → UInt64) {e : ClientEvent}
    (h : s.step xxh64 e = some s') : SendEffect s s' := by
  cases e with
  | send e => cases h; exact sendEffect_send e
  | outFiltered r res => exact sendEffect_outFiltered h
  | replied r => exact sendEffect_replied h
  | inFiltered r res => exact sendEffect_inFiltered h
  | connect => exact .frame (sends_connect h)
  | written w ok => exact .frame (sends_written h)
  | loopCheck l => exact .frame (sends_loopCheck h)
  | readTimeout l => exact .frame (sends_readTimeout h)
  | headerRead r => exact .frame (sends_headerRead h)
  | payloadRead r => exact .frame (sends_payloadRead xxh64 h)
  | serverData g bytes => exact .frame (sends_serverData h)
  | serverClose g => exact .frame (sends_serverClose h)
  | stop =>
    obtain ⟨g, -, rfl⟩ := Option.map_eq_some_iff.mp h
    exact .frame (failOutstandingFutures_sends s)
  | reconnect =>
    obtain ⟨t, ht, rfl⟩ := Option.map_eq_some_iff.mp h
    obtain ⟨g, -, rfl⟩ := Option.map_eq_some_iff.mp ht
    exact .frame (by simp)
  | reconnected => exact .frame (sends_reconnected h)

end Effects

/-! ## A pending work item outside the slots -/

theorem sendAt_setSendPhase_of_ne (s : ClientState) {r r' : Nat} (h : r' ≠ r) (p : SendPhase) :
    (s.setSendPhase r' p).sendAt r = s.sendAt r := by
  simp [sendAt, setSendPhase, h]

theorem sendAt_of_append {s t : ClientState} {xs : List RawSend} (h : t.sends = s.sends ++ xs)
    {r : Nat} (hr : r < s.sends.length) : t.sendAt r = s.sendAt r := by
  simp [sendAt, h, List.getElem?_append_left hr]

/-- A `send` waiting on a pending promise is not resumed. -/
theorem sendAt_effect_of_awaiting {s s' : ClientState} (h : SendEffect s s') {r w : Nat}
    (hr : s.sendAt r = some ⟨some w, .awaiting⟩) (hp : (s.workItem w).pr = .pending) :
    s'.sendAt r = s.sendAt r := by
  cases h with
  | frame h => exact sendAt_congr _ h r
  | appended x h => exact sendAt_of_append h (List.getElem?_eq_some_iff.mp hr).1
  | resumed r' p hres h =>
    have hne : r' ≠ r := by
      rintro rfl
      exact hres w hr hp
    rw [sendAt_congr _ h, sendAt_setSendPhase_of_ne s hne p]

/-- `send` call `r` waits on work item `w`, which is pending and which no
slot holds. -/
structure Stranded (s : ClientState) (r w : Nat) : Prop where
  awaiting : s.sendAt r = some ⟨some w, .awaiting⟩
  lt : w < s.workItems.length
  unslotted : w ∉ s.rpcSlots.map (·.2)
  pending : (s.workItem w).pr = .pending

theorem Stranded.step (xxh64 : List UInt8 → UInt64) {s s' : ClientState} {r w : Nat}
    (hs : s.Stranded r w) {e : ClientEvent} (h : s.step xxh64 e = some s') : s'.Stranded r w := by
  obtain ⟨hlt, hn, hw⟩ := workItem_effect_of_not_mem (slotEffect_step xxh64 h) hs.lt hs.unslotted
  refine ⟨?_, hlt, hn, by rw [hw]; exact hs.pending⟩
  rw [sendAt_effect_of_awaiting (sendEffect_step xxh64 h) hs.awaiting hs.pending]
  exact hs.awaiting

/-- Whatever runs next, a stranded `send` stays stranded: nothing completes
or fails its promise, and its future never resolves. -/
theorem stranded_run (xxh64 : List UInt8 → UInt64) {s s' : ClientState} {es : List ClientEvent}
    (h : Run.run (step xxh64) s es = some s') {r w : Nat} (hs : s.Stranded r w) :
    s'.Stranded r w :=
  Run.run_induction (step xxh64) (P := fun t => t.Stranded r w)
    (fun _ _ _ ht hst => ht.step xxh64 hst) h hs

/-! ## Sends whose outgoing filters fail -/

/-- A failing outgoing filter fails the future of `send` call `r` and leaves
the slots as they were, the slot of its request included. -/
theorem outFiltered_none {s : ClientState} {r : Nat} {w : Option Nat} {e : RpcEnvelope}
    (hr : s.sendAt r = some ⟨w, .filtering e⟩) :
    s.outFiltered r none = some (s.finishSend r (.error .filter)) := by
  simp [outFiltered, hr]

theorem sendAt_finishSend (s : ClientState) {r : Nat} {x : RawSend} (hr : s.sendAt r = some x)
    (res : Except SendError (Option RpcRecvContext)) :
    (s.finishSend r res).sendAt r = some ⟨x.work, .done res⟩ := by
  simp only [sendAt] at hr
  simp [sendAt, finishSend, setSendPhase, hr]

/-- `send<T>` on a valid connection with the gate open. -/
theorem send_of_valid {s : ClientState} (hv : s.isConnValid = true)
    (hg : s.dispatchGate.closed = false) (e : RpcEnvelope) :
    s.send e = { s with
      dispatchGate := { s.dispatchGate with count := s.dispatchGate.count + 1 }
      sessionIdx := s.sessionIdx + 1
      readCounter := s.readCounter + 1
      workItems := s.workItems ++ [⟨s.sessionIdx + 1, .pending⟩]
      rpcSlots := insertIfAbsent s.rpcSlots (s.sessionIdx + 1) s.workItems.length
      sends := s.sends ++ [⟨some s.workItems.length, .filtering (e.mutateSession (s.sessionIdx + 1))⟩] } := by
  simp [send, Semaphore.Gate.enter, hg, rawSend, hv]

/-- One `send` whose outgoing filters fail, on a valid connection with the
gate open: the next session, a work item in a slot unless the session has
one, and a failed future. -/
def orphanRound (e : RpcEnvelope) (r : Nat) : List ClientEvent := [.send e, .outFiltered r none]

theorem run_orphanRound (xxh64 : List UInt8 → UInt64) (e : RpcEnvelope) {s : ClientState}
    (hv : s.isConnValid = true) (hg : s.dispatchGate.closed = false) :
    ∃ s', Run.run (step xxh64) s (orphanRound e s.sends.length) = some s' ∧
      s'.conn = s.conn ∧ s'.conns = s.conns ∧ s'.dispatchGate = s.dispatchGate ∧
      s'.sessionIdx = s.sessionIdx + 1 ∧ s'.sends.length = s.sends.length + 1 ∧
      s'.workItems.length = s.workItems.length + 1 ∧
      s'.rpcSlots = insertIfAbsent s.rpcSlots (s.sessionIdx + 1) s.workItems.length ∧
      (∀ r < s.sends.length, s'.sendAt r = s.sendAt r) ∧
      s'.sendAt s.sends.length = some ⟨some s.workItems.length, .done (.error .filter)⟩ := by
  set t := s.send e with ht
  rw [send_of_valid hv hg] at ht
  have htr : t.sendAt s.sends.length =
      some ⟨some s.workItems.length, .filtering (e.mutateSession (s.sessionIdx + 1))⟩ := by
    simp [ht, sendAt]
  refine ⟨t.finishSend s.sends.length (.error .filter), ?_, ?_⟩
  · rw [orphanRound, Run.run_cons_of_step (step xxh64) (show step xxh64 s (.send e) = some t from rfl),
      Run.run_cons_of_step (step xxh64) (show step xxh64 t (.outFiltered _ none) = _ from
        outFiltered_none htr), Run.run_nil]
  · have hsend : ∀ r, (t.finishSend s.sends.length (.error .filter)).sendAt r =
        (t.setSendPhase s.sends.length (.done (.error .filter))).sendAt r := fun _ => rfl
    refine ⟨by simp [ht, finishSend, setSendPhase], by simp [ht, finishSend, setSendPhase],
      by simp [ht, finishSend, setSendPhase, Semaphore.Gate.leave],
      by simp [ht, finishSend, setSendPhase], by simp [ht, finishSend, setSendPhase],
      by simp [ht, finishSend, setSendPhase], by simp [ht, finishSend, setSendPhase],
      fun r hr => ?_, sendAt_finishSend t htr _⟩
    rw [hsend, sendAt_setSendPhase_of_ne _ (by omega)]
    exact sendAt_of_append (by rw [ht]) hr

/-- `n` sends whose outgoing filters fail, the first being `send` call `k`. -/
def orphanRounds (e : RpcEnvelope) (k : Nat) : Nat → List ClientEvent
  | 0 => []
  | n + 1 => orphanRounds e k n ++ orphanRound e (k + n)

/-- `n` sends whose outgoing filters fail advance the session by `n` and keep
every slot that was there. -/
theorem run_orphanRounds (xxh64 : List UInt8 → UInt64) (e : RpcEnvelope) (n : Nat)
    {s : ClientState} (hv : s.isConnValid = true) (hg : s.dispatchGate.closed = false) :
    ∃ s', Run.run (step xxh64) s (orphanRounds e s.sends.length n) = some s' ∧
      s'.conn = s.conn ∧ s'.conns = s.conns ∧ s'.dispatchGate = s.dispatchGate ∧
      s'.sessionIdx = s.sessionIdx + UInt16.ofNat n ∧ s'.sends.length = s.sends.length + n ∧
      s'.workItems.length = s.workItems.length + n ∧
      (∀ k ∈ keys s.rpcSlots, k ∈ keys s'.rpcSlots ∧ s'.rpcSlots.lookup k = s.rpcSlots.lookup k) ∧
      (∀ r < s.sends.length, s'.sendAt r = s.sendAt r) := by
  induction n with
  | zero => exact ⟨s, rfl, rfl, rfl, rfl, by simp, rfl, rfl, fun k hk => ⟨hk, rfl⟩, fun _ _ => rfl⟩
  | succ n ih =>
    obtain ⟨t, ht, hc, hcs, hgt, hi, hl, hw, hk, hr⟩ := ih
    have hvt : t.isConnValid = true := by rw [isConnValid_congr s hc hcs]; exact hv
    obtain ⟨u, hu, hc', hcs', hg', hi', hl', hw', hslots, hr', -⟩ :=
      run_orphanRound xxh64 e hvt (by rw [hgt]; exact hg)
    refine ⟨u, ?_, hc'.trans hc, hcs'.trans hcs, hg'.trans hgt, ?_, by omega, by omega,
      fun k hk' => ?_, fun r hr0 => ?_⟩
    · rw [orphanRounds, Run.run_append, ht, Option.bind_some, ← hl]
      exact hu
    · rw [hi', hi, UInt16.ofNat_add, UInt16.add_assoc]
      rfl
    · -- an insertion keeps every key and every lookup that succeeds
      obtain ⟨hkt, hlk⟩ := hk k hk'
      rw [hslots]
      exact ⟨mem_keys_insertIfAbsent hkt _ _, (lookup_insertIfAbsent_of_mem hkt _ _).trans hlk⟩
    · rw [hr' r (by omega), hr r hr0]

/-- The outgoing filters of `send` call `r` pass on an open gate:
`dispatch_write` starts, and the future waits on the promise. -/
theorem outFiltered_some {s : ClientState} {r : Nat} {w : Option Nat} {e : RpcEnvelope}
    (hr : s.sendAt r = some ⟨w, .filtering e⟩) (hg : s.dispatchGate.closed = false)
    (e' : RpcEnvelope) :
    s.outFiltered r (some e') = some (({ s with
      dispatchGate := { s.dispatchGate with count := s.dispatchGate.count + 1 }
      writes := s.writes ++ [⟨e', true⟩] } : ClientState).setSendPhase r .awaiting) := by
  simp [outFiltered, hr, Semaphore.Gate.enter, hg]

/-- A `send` whose session still has a slot, and whose outgoing filters pass,
is stranded: its work item goes into no slot. -/
theorem run_send_stranded (xxh64 : List UInt8 → UInt64) (e e' : RpcEnvelope) {s : ClientState}
    (hs : SlotsWellFormed s) (hv : s.isConnValid = true) (hg : s.dispatchGate.closed = false)
    (hk : s.sessionIdx + 1 ∈ keys s.rpcSlots) :
    ∃ s', Run.run (step xxh64) s [.send e, .outFiltered s.sends.length (some e')] = some s' ∧
      s'.rpcSlots = s.rpcSlots ∧ s'.Stranded s.sends.length s.workItems.length ∧
      (s'.workItem s.workItems.length).session = s.sessionIdx + 1 ∧
      ∀ r < s.sends.length, s'.sendAt r = s.sendAt r := by
  set t := s.send e with ht
  rw [send_of_valid hv hg, insertIfAbsent_of_mem hk] at ht
  have htr : t.sendAt s.sends.length =
      some ⟨some s.workItems.length, .filtering (e.mutateSession (s.sessionIdx + 1))⟩ := by
    simp [ht, sendAt]
  have htw : t.workItem s.workItems.length = ⟨s.sessionIdx + 1, .pending⟩ := by
    exact workItem_of_append_length (by rw [ht])
  have hgt : t.dispatchGate.closed = false := by simp [ht, hg]
  refine ⟨(({ t with
      dispatchGate := { t.dispatchGate with count := t.dispatchGate.count + 1 }
      writes := t.writes ++ [⟨e', true⟩] } : ClientState).setSendPhase s.sends.length .awaiting),
    ?_, ?_, ⟨?_, ?_, ?_, ?_⟩, ?_, fun r hr => ?_⟩
  · rw [Run.run_cons_of_step (step xxh64) (show step xxh64 s (.send e) = some t from rfl),
      Run.run_cons_of_step (step xxh64) (show step xxh64 t (.outFiltered _ (some e')) = _ from
        outFiltered_some htr hgt e'), Run.run_nil]
  · simp [ht, setSendPhase]
  · simp [sendAt, setSendPhase, ht]
  · simp [setSendPhase, ht]
  · -- every slot holds an older work item
    simp only [setSendPhase, ht]
    intro hm
    obtain ⟨⟨k, v⟩, hkv, hv'⟩ := List.mem_map.mp hm
    have := (hs.item k v hkv).1
    simp only at hv'
    omega
  · exact congrArg WorkItem.pr htw
  · exact congrArg WorkItem.session htw
  · rw [sendAt_setSendPhase_of_ne _ (by omega)]
    exact sendAt_of_append (by rw [ht]) hr

/-- Sixty-five thousand five hundred and thirty-six `send` calls whose
outgoing filters fail, and one whose filters pass. -/
def sessionWrapRun (e e' : RpcEnvelope) : List ClientEvent :=
  [ClientEvent.connect] ++ orphanRound e 0 ++ orphanRounds e 1 65535 ++
    [ClientEvent.send e, ClientEvent.outFiltered 65536 (some e')]

/-- After 65536 sends whose outgoing filters fail, `session_idx_` is back at
the session of the first one, whose slot is still there.  The next request
gets that session, `insert` keeps the stale slot, and the request's work item
goes into none: a reply of its session would complete the first work item,
and whatever happens next its own promise stays pending and its future never
resolves. -/
theorem session_wrap_strands_request (xxh64 : List UInt8 → UInt64) (e e' : RpcEnvelope) :
    ∃ s, Run.run (step xxh64) init (sessionWrapRun e e') = some s ∧
      s.sendAt 0 = some ⟨some 0, .done (.error .filter)⟩ ∧
      s.rpcSlots.lookup 1 = some 0 ∧ (s.workItem 0).session = 1 ∧
      (s.workItem 65536).session = 1 ∧
      ∀ es s', Run.run (step xxh64) s es = some s' → s'.Stranded 65536 65536 := by
  -- `connect()`: the first connection and its `do_reads` loop
  set c₀ : ClientState := { init with
    conn := some 0
    conns := [RpcConnection.init]
    dispatchGate := { count := 1 }
    loops := [.check] } with hc₀
  have h₀ : Run.run (step xxh64) init [.connect] = some c₀ := rfl
  have hv₀ : c₀.isConnValid = true := rfl
  -- the first send: session 1, whose slot stays after its filters fail
  obtain ⟨s₁, h₁, hc₁, hcs₁, hg₁, hi₁, hl₁, hw₁, hslots₁, -, hr₁⟩ :=
    run_orphanRound xxh64 e hv₀ rfl
  have hk₁ : s₁.rpcSlots = [(1, 0)] := by rw [hslots₁]; rfl
  -- 65535 more such sends bring `session_idx_` round to 0
  obtain ⟨s₂, h₂, hc₂, hcs₂, hg₂, hi₂, hl₂, hw₂, hk₂, hr₂⟩ :=
    run_orphanRounds xxh64 e 65535 (s := s₁) (by rw [isConnValid_congr c₀ hc₁ hcs₁]; exact hv₀)
      (by rw [hg₁])
  have hmem : (1 : UInt16) ∈ keys s₁.rpcSlots := by rw [hk₁]; decide
  obtain ⟨hmem₂, hlook₂⟩ := hk₂ 1 hmem
  have hrun₂ : Run.run (step xxh64) init ([.connect] ++ orphanRound e 0 ++ orphanRounds e 1 65535) =
      some s₂ := by
    rw [Run.run_append, Run.run_append, h₀, Option.bind_some, show 0 = c₀.sends.length from rfl, h₁,
      Option.bind_some, show 1 = s₁.sends.length by rw [hl₁]; rfl, h₂]
  have hs₂ := slotsWellFormed_reachable xxh64 (Run.Reachable.run (step xxh64) .init hrun₂)
  have hidx₂ : s₂.sessionIdx + 1 = 1 := by rw [hi₂, hi₁]; decide
  -- the next send gets session 1 again and no slot
  obtain ⟨s₃, h₃, hslots₃, hst₃, hsess₃, hr₃⟩ :=
    run_send_stranded xxh64 e e' hs₂ (by rw [isConnValid_congr c₀ (hc₂.trans hc₁) (hcs₂.trans hcs₁)]; exact hv₀)
      (by rw [hg₂, hg₁]) (by rw [hidx₂]; exact hmem₂)
  have hl₀ : c₀.sends.length = 0 := rfl
  have hw₀ : c₀.workItems.length = 0 := rfl
  have hl₂' : s₂.sends.length = 65536 := by rw [hl₂, hl₁, hl₀]
  have hw₂' : s₂.workItems.length = 65536 := by rw [hw₂, hw₁, hw₀]
  have hrun₃ : Run.run (step xxh64) init (sessionWrapRun e e') = some s₃ := by
    rw [sessionWrapRun, Run.run_append, hrun₂, Option.bind_some, ← hl₂']
    exact h₃
  have hlook₃ : s₃.rpcSlots.lookup 1 = some 0 := by rw [hslots₃, hlook₂, hk₁]; rfl
  have hs₃ := slotsWellFormed_reachable xxh64 (Run.Reachable.run (step xxh64) .init hrun₃)
  refine ⟨s₃, hrun₃, ?_, hlook₃, ?_, ?_, fun es s' h => ?_⟩
  · rw [hr₃ 0 (by omega), hr₂ 0 (by omega)]
    exact hr₁
  · rw [(hs₃.item 1 0 (mem_of_lookup_eq_some hlook₃)).2]
  · rw [← hw₂', hsess₃, hidx₂]
  · have := stranded_run xxh64 h hst₃
    rwa [hl₂', hw₂'] at this

end ClientState

end Smf
