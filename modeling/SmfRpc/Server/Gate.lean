import SmfRpc.Server.Units
import SmfRpc.Server.Reply

/-!
# `reply_gate_` counts the dispatch chains in flight

`dispatch_rpc` runs each `do_dispatch_rpc` chain inside `reply_gate_`.  It
enters the gate before the chain starts and leaves it in the chain's
`finally`.  `stop()` closes the gate, and `reply_gate_.close()` resolves once
the count is back to zero.

* `GateStep s t` says what one continuation may do to the gate and the
  chains.  Every continuation is such a step (`gateStep_step`), and so is
  every run (`gateStep_run`).
* `reply_gate_counts_dispatches`: in every reachable state the count of the gate is
  the number of chains that are not done.  A chain leaves the gate exactly
  once on every path: the error paths of the filters and the handle, a write
  that fails, a connection that goes away, a payload that times out or a
  read that fails.
* `no_dispatch_after_stop`: once the gate is closed no chain starts and the
  count never grows.  So `stop()` waits for the chains in flight when it was
  called, and for no other.
-/

namespace Smf

open Rpc Semaphore RpcRecvContext

/-- A chain holds the gate until it is done. -/
def Dispatch.inFlight (x : Dispatch) : Int := if x.phase = .done then 0 else 1

namespace ServerState

/-- The gate counts the chains in flight. -/
def GateCounts (s : ServerState) : Prop :=
  (s.replyGate.count : Int) = (s.dispatches.map Dispatch.inFlight).sum

/-- What the accounting of the gate reads. -/
def gateView (s : ServerState) : List Dispatch × Gate := (s.dispatches, s.replyGate)

/-- What a continuation may do to `reply_gate_` and the chains: a gate that
counted the chains in flight still does, a closed gate stays closed, and
behind a closed gate no chain starts and the count does not grow. -/
structure GateStep (s t : ServerState) : Prop where
  counts : s.GateCounts → t.GateCounts
  closed : s.replyGate.closed = true → t.replyGate.closed = true
  noStart : s.replyGate.closed = true →
    t.dispatches.length = s.dispatches.length ∧ t.replyGate.count ≤ s.replyGate.count

theorem GateStep.refl (s : ServerState) : GateStep s s :=
  ⟨id, id, fun _ => ⟨rfl, le_rfl⟩⟩

theorem GateStep.trans {s t u : ServerState} (h₁ : GateStep s t) (h₂ : GateStep t u) :
    GateStep s u where
  counts h := h₂.counts (h₁.counts h)
  closed h := h₂.closed (h₁.closed h)
  noStart h := by
    obtain ⟨hl₁, hc₁⟩ := h₁.noStart h
    obtain ⟨hl₂, hc₂⟩ := h₂.noStart (h₁.closed h)
    exact ⟨hl₂.trans hl₁, hc₂.trans hc₁⟩

/-- A continuation that leaves the chains and the gate alone. -/
theorem GateStep.of_view {s t : ServerState} (h : t.gateView = s.gateView) : GateStep s t := by
  simp only [gateView, Prod.mk.injEq] at h
  obtain ⟨hd, hg⟩ := h
  refine ⟨fun hs => ?_, fun hc => by rw [hg]; exact hc, fun _ => ⟨by rw [hd], by rw [hg]⟩⟩
  rw [GateCounts, hd, hg]
  exact hs

/-! ## What leaves the gate alone -/

@[simp] theorem gateView_setConn (s : ServerState) (c : Nat) (x : RpcServerConnection) :
    (s.setConn c x).gateView = s.gateView := rfl

@[simp] theorem gateView_setLoop (s : ServerState) (c : Nat) (p : SessionPhase) :
    (s.setLoop c p).gateView = s.gateView := rfl

@[simp] theorem gateView_cleanupDispatchRpc (s : ServerState) (c : Nat) :
    (s.cleanupDispatchRpc c).gateView = s.gateView := by
  dsimp only [cleanupDispatchRpc]
  split
  · split <;> rfl
  · rfl

theorem gateView_grant (ws : List (Nat × Nat)) : ∀ s : ServerState, (s.grant ws).gateView = s.gateView := by
  induction ws with
  | nil => intro s; rfl
  | cons w ws ih =>
    intro s
    -- `grant` resumes one waiter, with `setLoop` or not at all
    have hone : (s.grant [w]).gateView = s.gateView := by
      simp only [grant, List.foldl_cons, List.foldl_nil]
      split <;> rfl
    exact (ih (s.grant [w])).trans hone

@[simp] theorem gateView_signalResources (s : ServerState) (n : Int) :
    (s.signalResources n).gateView = s.gateView := by
  rw [signalResources, gateView_grant]
  rfl

@[simp] theorem gateView_sessionFailed (s : ServerState) (c : Nat) :
    (s.sessionFailed c).gateView = s.gateView := by
  simp [sessionFailed]

@[simp] theorem gateView_sessionEnded (s : ServerState) (c : Nat) :
    (s.sessionEnded c).gateView = s.gateView := by
  simp [sessionEnded]

theorem gateView_reap (s : ServerState) : (reap s).gateView = s.gateView := by
  -- each destructor only marks its connection and counts it down
  have hone : ∀ (t : ServerState) (c : Nat), (t.reapOne c).gateView = t.gateView := by
    intro t c
    unfold reapOne
    split <;> rfl
  suffices h : ∀ (cs : List Nat) (t : ServerState), (cs.foldl reapOne t).gateView = t.gateView from
    h _ s
  intro cs
  induction cs with
  | nil => intro t; rfl
  | cons c cs ih => intro t; rw [List.foldl_cons, ih, hone]

/-! ## The chains -/

theorem inFlight_eq_one {x : Dispatch} (hx : x.phase ≠ .done) : x.inFlight = 1 := if_neg hx

theorem inFlight_nonneg (x : Dispatch) : 0 ≤ x.inFlight := by
  unfold Dispatch.inFlight
  split <;> omega

theorem dispatch_of_view {s t : ServerState} (hv : t.gateView = s.gateView) (d : Nat) :
    t.dispatch d = s.dispatch d := by
  show t.dispatches[d]? = s.dispatches[d]?
  rw [show t.dispatches = s.dispatches from congrArg Prod.fst hv]

/-- The chain at `d` moves from a phase that is not done to `p`, on a state
whose gate and chains are those of `s`. -/
theorem gateStep_setDispatch {s t : ServerState} (hv : t.gateView = s.gateView) {d : Nat}
    {x : Dispatch} (hd : s.dispatch d = some x) (hx : x.phase ≠ .done) {p : DispatchPhase}
    (hp : p ≠ .done) : GateStep s (t.setDispatch d p) := by
  refine (GateStep.of_view hv).trans ⟨fun ht => ?_, id, fun _ => ⟨by simp [setDispatch], le_rfl⟩⟩
  have hdt : t.dispatches[d]? = some x := by rw [← dispatch, dispatch_of_view hv]; exact hd
  have hsum := Update.sum_map_modify Dispatch.inFlight hdt fun x => { x with phase := p }
  rw [GateCounts, setDispatch_replyGate, ht]
  simp only [setDispatch, hsum, inFlight_eq_one hx, inFlight_eq_one (x := { x with phase := p }) hp]
  ring

/-- The `finally` of a chain in flight: it leaves the gate. -/
theorem gateStep_abortDispatch {s t : ServerState} (hv : t.gateView = s.gateView) {d : Nat}
    {x : Dispatch} (hd : s.dispatch d = some x) (hx : x.phase ≠ .done) :
    GateStep s (t.abortDispatch d) := by
  refine (GateStep.of_view hv).trans ?_
  have hdt : t.dispatch d = some x := by rw [dispatch_of_view hv]; exact hd
  simp only [abortDispatch, hdt]
  have hw := gateView_signalResources t x.payloadSize.toInt
  generalize t.signalResources x.payloadSize.toInt = u at hw ⊢
  simp only [gateView, Prod.mk.injEq] at hw
  obtain ⟨hdu, hgu⟩ := hw
  refine ⟨fun ht => ?_, fun hc => by rw [setDispatch_replyGate, hgu]; exact hc,
    fun _ => ⟨by simp [setDispatch, hdu], by simp [hgu]⟩⟩
  -- the chain was counted, so the count is at least one
  have hone : x.inFlight ≤ (t.dispatches.map Dispatch.inFlight).sum :=
    List.single_le_sum (fun _ hu => by
      obtain ⟨y, -, rfl⟩ := List.mem_map.mp hu
      exact inFlight_nonneg y) _ (List.mem_map_of_mem (List.mem_of_getElem? hdt))
  have hsum := Update.sum_map_modify Dispatch.inFlight hdt fun x => { x with phase := .done }
  have hdone : ({ x with phase := .done } : Dispatch).inFlight = 0 := if_pos rfl
  rw [inFlight_eq_one hx, hdone] at hsum
  rw [inFlight_eq_one hx] at hone
  rw [GateCounts] at ht ⊢
  simp only [setDispatch, hdu, hgu]
  rw [hsum]
  omega

/-- `cleanup_dispatch_rpc`, then the `finally`. -/
theorem gateStep_completeDispatch {s t : ServerState} (hv : t.gateView = s.gateView) {d : Nat}
    {x : Dispatch} (hd : s.dispatch d = some x) (hx : x.phase ≠ .done) :
    GateStep s (t.completeDispatch d) := by
  have hdt : t.dispatch d = some x := by rw [dispatch_of_view hv]; exact hd
  simp only [completeDispatch, hdt]
  exact gateStep_abortDispatch ((gateView_cleanupDispatchRpc t x.conn).trans hv) hd hx

/-- `dispatch_rpc` on an open gate: it enters the gate with a new chain, which
completes at once or stages its incoming filters. -/
theorem gateStep_doDispatchRpc (routes : UInt32 → Bool) {s : ServerState}
    (hc : s.replyGate.closed = false) (c : Nat) (p : Int32) (ctx : RpcRecvContext) :
    GateStep s ({ s with replyGate := { s.replyGate with count := s.replyGate.count + 1 } }.doDispatchRpc
      routes c p ctx) := by
  set u : ServerState :=
    { s with
      replyGate := { s.replyGate with count := s.replyGate.count + 1 }
      dispatches := s.dispatches ++ [({ conn := c, payloadSize := p, phase := .incoming } : Dispatch)] }
  -- entering the gate with a new chain keeps the count
  have hu : GateStep s u := by
    refine ⟨fun hs => ?_, fun h => by simp [u, h], fun h => by rw [hc] at h; cases h⟩
    rw [GateCounts] at hs ⊢
    simp only [u, List.map_append, List.sum_append, ← hs]
    simp [Dispatch.inFlight]
  have hdu : u.dispatch s.dispatches.length = some ⟨c, p, .incoming⟩ := by
    simp [u, dispatch]
  have hdone : ∀ v : ServerState, v.gateView = u.gateView →
      GateStep s (v.completeDispatch s.dispatches.length) :=
    fun v hv => hu.trans (gateStep_completeDispatch hv hdu (by simp))
  dsimp only [doDispatchRpc]
  split
  · exact hdone _ rfl
  · split
    · exact hdone _ rfl
    · exact hu.trans (GateStep.of_view rfl)

theorem gateStep_dispatchRpc (routes : UInt32 → Bool) {s t : ServerState} {p : Int32} {c : Nat}
    {ctx : Option RpcRecvContext} (h : s.dispatchRpc routes p c ctx = some t) : GateStep s t := by
  unfold dispatchRpc at h
  split at h
  · -- no context: the units go back and the error is set, outside the gate
    cases h
    exact GateStep.of_view (by simp)
  · split at h
    · cases h
    · rename_i hc
      cases h
      exact gateStep_doDispatchRpc routes (by simpa using hc) c p _

/-! ## Every continuation -/

section Continuations

variable {s t : ServerState}

theorem gateStep_accept (h : s.accept = some t) : GateStep s t := by
  unfold accept at h
  split at h
  · cases h
  · cases h
    exact GateStep.of_view rfl

theorem gateStep_loopCheck {c : Nat} (h : s.loopCheck c = some t) : GateStep s t := by
  unfold ServerState.loopCheck at h
  split at h
  · cases h
  · split at h <;> cases h <;> exact GateStep.of_view (by simp)

theorem gateStep_headerRead {c : Nat} (h : s.headerRead c = some t) : GateStep s t := by
  unfold ServerState.headerRead at h
  split at h
  · cases h
  · split at h
    · cases h
    · split at h <;> cases h <;> exact GateStep.of_view rfl

theorem gateStep_admitted {c : Nat} (h : s.admitted c = some t) : GateStep s t := by
  unfold ServerState.admitted at h
  split at h <;> cases h
  exact GateStep.of_view rfl

theorem gateStep_payloadRead (xxh64 : List UInt8 → UInt64) (routes : UInt32 → Bool) {c : Nat}
    (h : s.payloadRead xxh64 routes c = some t) : GateStep s t := by
  unfold ServerState.payloadRead at h
  split at h
  · split at h
    · cases h
    · dsimp only at h
      split at h
      · rename_i hd
        cases h
        exact (GateStep.of_view (gateView_setConn s c _)).trans
          ((gateStep_dispatchRpc routes hd).trans (GateStep.of_view rfl))
      · -- `dispatch_rpc` threw on the closed gate: the loop fails
        cases h
        exact GateStep.of_view (by simp)
  · cases h

theorem gateStep_payloadTimeout {c : Nat} (h : s.payloadTimeout c = some t) : GateStep s t := by
  unfold ServerState.payloadTimeout at h
  split at h <;> cases h
  exact GateStep.of_view (by simp)

theorem gateStep_readFailed {c : Nat} (h : s.readFailed c = some t) : GateStep s t := by
  obtain ⟨-, rfl⟩ := readFailed_eq_some h
  exact GateStep.of_view (by simp)

theorem gateStep_incomingFiltered {d : Nat} {r : Option RpcRecvContext}
    (h : s.incomingFiltered d r = some t) : GateStep s t := by
  unfold ServerState.incomingFiltered at h
  split at h
  · rename_i hd
    split at h
    · cases h
      exact gateStep_abortDispatch (by rfl) hd (by simp)
    · split at h <;> cases h
      · exact gateStep_completeDispatch (by rfl) hd (by simp)
      · exact gateStep_setDispatch (by rfl) hd (by simp) (by simp)
  · cases h

theorem gateStep_handled {d : Nat} {r : Option RpcEnvelope} (h : s.handled d r = some t) :
    GateStep s t := by
  unfold ServerState.handled at h
  split at h
  · rename_i hd
    split at h <;> cases h
    · exact gateStep_abortDispatch (by rfl) hd (by simp)
    · exact gateStep_setDispatch (by rfl) hd (by simp) (by simp)
  · cases h

theorem gateStep_outgoingFiltered {d : Nat} {r : Option RpcEnvelope}
    (h : s.outgoingFiltered d r = some t) : GateStep s t := by
  unfold ServerState.outgoingFiltered at h
  split at h
  · rename_i hd
    split at h
    · cases h
      exact gateStep_abortDispatch (by rfl) hd (by simp)
    · split at h <;> cases h
      · exact gateStep_completeDispatch (by rfl) hd (by simp)
      · -- the counters of `rpc_server_stats` are outside the gate
        exact gateStep_setDispatch (by rfl) hd (by simp) (by simp)
  · cases h

theorem gateStep_sent {d : Nat} {ok : Bool} (h : s.sent d ok = some t) : GateStep s t := by
  unfold ServerState.sent at h
  split at h
  · rename_i hd
    split at h <;> cases h
    · exact gateStep_setDispatch (by rfl) hd (by simp) (by simp)
    · exact gateStep_abortDispatch (by rfl) hd (by simp)
  · cases h

theorem gateStep_flushed {d : Nat} {ok : Bool} (h : s.flushed d ok = some t) : GateStep s t := by
  unfold ServerState.flushed at h
  split at h
  · rename_i hd
    split at h
    · cases h
      exact gateStep_completeDispatch (by rfl) hd (by simp)
    · split at h <;> cases h
      · exact gateStep_completeDispatch (by rfl) hd (by simp)
      · exact gateStep_abortDispatch (by rfl) hd (by simp)
  · cases h

theorem gateStep_clientData {c : Nat} {bytes : List UInt8} (h : s.clientData c bytes = some t) :
    GateStep s t := by
  unfold ServerState.clientData at h
  split at h <;> cases h
  exact GateStep.of_view rfl

theorem gateStep_clientClose {c : Nat} (h : s.clientClose c = some t) : GateStep s t := by
  unfold ServerState.clientClose at h
  split at h <;> cases h
  exact GateStep.of_view rfl

/-- `stop()` closes the gate and leaves its count and the chains alone. -/
theorem gateStep_stop (h : s.stop = some t) : GateStep s t := by
  -- `shutdown_input` on the open connections only writes connections
  have hv (es : List (UInt64 × Nat)) (t : ServerState) :
      (es.foldl (fun s e => s.setConn e.2 { s.conn e.2 with inputClosed := true }) t).gateView =
        t.gateView := by
    induction es generalizing t with
    | nil => rfl
    | cons e es ih => rw [List.foldl_cons, ih, gateView_setConn]
  unfold ServerState.stop at h
  split at h
  · cases h
  · cases h
    have hview := hv s.openConnections s
    simp only [gateView, Prod.mk.injEq] at hview
    obtain ⟨hd, hg⟩ := hview
    refine ⟨fun hs => ?_, fun _ => rfl, fun _ => ⟨by simp [hd], by simp [hg]⟩⟩
    simp only [GateCounts, hd, hg]
    exact hs

end Continuations

theorem gateStep_of_map_reap {s t : ServerState} {o : Option ServerState} (h : o.map reap = some t)
    (ho : ∀ u, o = some u → GateStep s u) : GateStep s t := by
  obtain ⟨u, hu, rfl⟩ := Option.map_eq_some_iff.mp h
  exact (ho u hu).trans (GateStep.of_view (gateView_reap u))

theorem gateStep_step (xxh64 : List UInt8 → UInt64) (routes : UInt32 → Bool) {s t : ServerState}
    {e : ServerEvent} (h : s.step xxh64 routes e = some t) : GateStep s t := by
  cases e with
  | accept => exact gateStep_of_map_reap h fun _ hu => gateStep_accept hu
  | clientData c bytes => exact gateStep_of_map_reap h fun _ hu => gateStep_clientData hu
  | clientClose c => exact gateStep_of_map_reap h fun _ hu => gateStep_clientClose hu
  | loopCheck c => exact gateStep_of_map_reap h fun _ hu => gateStep_loopCheck hu
  | headerRead c => exact gateStep_of_map_reap h fun _ hu => gateStep_headerRead hu
  | admitted c => exact gateStep_of_map_reap h fun _ hu => gateStep_admitted hu
  | payloadRead c => exact gateStep_of_map_reap h fun _ hu => gateStep_payloadRead xxh64 routes hu
  | payloadTimeout c => exact gateStep_of_map_reap h fun _ hu => gateStep_payloadTimeout hu
  | readFailed c => exact gateStep_of_map_reap h fun _ hu => gateStep_readFailed hu
  | incomingFiltered d r => exact gateStep_of_map_reap h fun _ hu => gateStep_incomingFiltered hu
  | handled d r => exact gateStep_of_map_reap h fun _ hu => gateStep_handled hu
  | outgoingFiltered d r => exact gateStep_of_map_reap h fun _ hu => gateStep_outgoingFiltered hu
  | sent d ok => exact gateStep_of_map_reap h fun _ hu => gateStep_sent hu
  | flushed d ok => exact gateStep_of_map_reap h fun _ hu => gateStep_flushed hu
  | stop => exact gateStep_of_map_reap h fun _ hu => gateStep_stop hu

theorem gateStep_run (xxh64 : List UInt8 → UInt64) (routes : UInt32 → Bool) {s t : ServerState}
    {es : List ServerEvent} (h : Run.run (step xxh64 routes) s es = some t) : GateStep s t :=
  Run.run_induction _ (P := GateStep s)
    (fun _ _ _ hu hs => hu.trans (gateStep_step xxh64 routes hs)) h (GateStep.refl s)

/-! ## Whole runs -/

/-- In every state a run of a new server reaches, whatever the clients send,
the filters and the handles answer and the writes do, and whether `stop()`
came: the count of `reply_gate_` is the number of dispatch chains that are not
done. -/
theorem reply_gate_counts_dispatches (xxh64 : List UInt8 → UInt64) (routes : UInt32 → Bool)
    (M : Nat) {es : List ServerEvent} {s : ServerState}
    (h : Run.run (step xxh64 routes) (init M) es = some s) :
    s.replyGate.count = s.dispatches.countP fun x => x.phase != .done := by
  have hc := (gateStep_run xxh64 routes h).counts (by simp [GateCounts, init])
  have hw : (Dispatch.inFlight) = fun x => if (x.phase != .done) = true then (1 : Int) else 0 := by
    funext x
    by_cases hx : x.phase = .done <;> simp [Dispatch.inFlight, hx]
  rw [GateCounts, hw, Update.sum_map_indicator] at hc
  exact_mod_cast hc

/-- One request whose checksum and route are in order, read and handed to
`dispatch_rpc`: its chain is in flight. -/
def inFlightRun : List ServerEvent :=
  [.accept, .clientData 0 (oneByteRequest.toBytes ++ [0]), .loopCheck 0, .headerRead 0,
    .admitted 0, .payloadRead 0]

theorem reply_gate_counts_dispatches_in_flight :
    let s := (Run.run (step (fun bs => UInt64.ofNat bs.length) (fun _ => true)) (init 1048576)
      inFlightRun).getD (init 1048576)
    s.replyGate.count = s.dispatches.countP fun x => x.phase != .done :=
  have hrun : Run.run (step (fun bs => UInt64.ofNat bs.length) (fun _ => true)) (init 1048576)
      inFlightRun ≠ none := by
    decide +kernel
  reply_gate_counts_dispatches _ _ 1048576 (Option.getD_of_ne_none hrun (init 1048576)).symm

/-- Once `stop()` has closed `reply_gate_`, no dispatch chain starts along any
run, and the count of the gate never grows. -/
theorem no_dispatch_after_stop (xxh64 : List UInt8 → UInt64) (routes : UInt32 → Bool)
    {s s' : ServerState} {es : List ServerEvent} (hc : s.replyGate.closed = true)
    (h : Run.run (step xxh64 routes) s es = some s') :
    s'.dispatches.length = s.dispatches.length ∧ s'.replyGate.count ≤ s.replyGate.count :=
  (gateStep_run xxh64 routes h).noStart hc

/-- `stop()` with the request of `inFlightRun` in flight: the session loop
ends, and the chain passes its incoming filters into a handle that fails. -/
def afterStopRun : List ServerEvent :=
  [.loopCheck 0, .incomingFiltered 0 (some ⟨oneByteRequest, [0]⟩), .handled 0 none]

theorem no_dispatch_after_stop_request :
    let s := (Run.run (step (fun bs => UInt64.ofNat bs.length) (fun _ => true)) (init 1048576)
      (inFlightRun ++ [.stop])).getD (init 1048576)
    let s' := (Run.run (step (fun bs => UInt64.ofNat bs.length) (fun _ => true)) s
      afterStopRun).getD (init 1048576)
    s.replyGate.closed = true ∧
      s'.dispatches.length = s.dispatches.length ∧ s'.replyGate.count ≤ s.replyGate.count :=
  have hrun : Run.run (step (fun bs => UInt64.ofNat bs.length) (fun _ => true))
      ((Run.run (step (fun bs => UInt64.ofNat bs.length) (fun _ => true)) (init 1048576)
        (inFlightRun ++ [.stop])).getD (init 1048576)) afterStopRun ≠ none := by
    decide +kernel
  ⟨by decide +kernel, no_dispatch_after_stop _ _ (by decide +kernel)
    (Option.getD_of_ne_none hrun (init 1048576)).symm⟩

end ServerState

end Smf
