import SmfRpc.Server.Step

/-!
# Reply or fail: what a failed dispatch chain leaves behind

`dispatch_rpc` discards its future with `(void)`.  Inside it, the chain of
`do_dispatch_rpc` is incoming filters, the handle, outgoing filters, the send
under `serialize_writes`, and a trailing flush; its only error handling is
the `finally` that signals the units and leaves `reply_gate_`.  A filter or a
handle that fails with an exception therefore skips every write and every
`set_error`.

The step lemmas below say this for every state: the failure events reach
`abortDispatch`, and `abortDispatch`, `signalResources`, `grant` and the
destructors of `reap` leave every connection as it was, up to `alive`.
`dispatch_failure_conn` puts them together.  `handler_failure_unanswered`
runs a whole request into a throwing handle, for every hash under which the
request's checksum is not zero: the chain is over, nothing was written, and
the connection is still valid, so the client's request stays pending on a
healthy connection.
-/

namespace Smf

open Rpc RpcRecvContext Semaphore

namespace ServerState

/-! ## Continuations that leave the connections alone -/

@[simp] theorem grant_conns (s : ServerState) (ws : List (Nat × Nat)) :
    (s.grant ws).conns = s.conns := by
  induction ws generalizing s with
  | nil => rfl
  | cons w ws ih =>
    simp only [grant, List.foldl_cons] at ih ⊢
    split
    · exact (ih _).trans (setLoop_conns s _ _)
    · exact ih s

@[simp] theorem signalResources_conns (s : ServerState) (n : Int) :
    (s.signalResources n).conns = s.conns := by
  simp [signalResources]

@[simp] theorem abortDispatch_conns (s : ServerState) (d : Nat) :
    (s.abortDispatch d).conns = s.conns := by
  unfold abortDispatch
  split <;> simp

@[simp] theorem grant_dispatches (s : ServerState) (ws : List (Nat × Nat)) :
    (s.grant ws).dispatches = s.dispatches := by
  induction ws generalizing s with
  | nil => rfl
  | cons w ws ih =>
    simp only [grant, List.foldl_cons] at ih ⊢
    split
    · exact ih _
    · exact ih s

@[simp] theorem cleanupDispatchRpc_dispatches (s : ServerState) (c : Nat) :
    (s.cleanupDispatchRpc c).dispatches = s.dispatches := by
  dsimp only [cleanupDispatchRpc]
  split
  · split <;> rfl
  · rfl

@[simp] theorem signalResources_dispatches (s : ServerState) (n : Int) :
    (s.signalResources n).dispatches = s.dispatches := by
  simp [signalResources]

/-- `abortDispatch` ends the chain it is called for. -/
theorem abortDispatch_dispatch (s : ServerState) (d : Nat) (x : Dispatch)
    (hd : s.dispatch d = some x) :
    (s.abortDispatch d).dispatch d = some { x with phase := .done } := by
  simp only [dispatch] at hd
  simp [abortDispatch, dispatch, setDispatch, hd]

/-! ## The destructors -/

/-- One destructor changes a connection's `alive` flag and nothing else of
it. -/
theorem conn_reapOne (s : ServerState) (c c' : Nat) :
    { (s.reapOne c').conn c with alive := false } = { s.conn c with alive := false } := by
  unfold reapOne
  split
  · have ht : ({ s.setConn c' { s.conn c' with alive := false } with
        stats := { s.stats with activeConnections := s.stats.activeConnections - 1 } } :
          ServerState).conn c = (s.setConn c' { s.conn c' with alive := false }).conn c := rfl
    rw [ht, conn_setConn]
    split
    · rename_i hc
      rw [hc.1]
    · rfl
  · rfl

/-- `reap` changes the connections' `alive` flags and nothing else of them. -/
theorem conn_reap (s : ServerState) (c : Nat) :
    { (reap s).conn c with alive := false } = { s.conn c with alive := false } := by
  unfold reap
  generalize List.range s.conns.length = is
  -- each destructor keeps the connection equal to that of `s` up to `alive`
  suffices h : ∀ t : ServerState, { t.conn c with alive := false } = { s.conn c with alive := false } →
      { (is.foldl reapOne t).conn c with alive := false } = { s.conn c with alive := false }
    from h s rfl
  intro t ht
  induction is generalizing t with
  | nil => exact ht
  | cons i is ih => exact ih _ ((conn_reapOne t c i).trans ht)

/-- A connection's output and validity do not depend on `alive`. -/
theorem output_isValid_of_alive {x y : RpcServerConnection}
    (h : { x with alive := false } = { y with alive := false }) :
    x.output = y.output ∧ x.isValid = y.isValid :=
  ⟨congrArg (·.output) h, congrArg (·.isValid) h⟩

/-! ## Failures of the filters and the handle -/

/-- A failure reported for a pending chain. -/
inductive DispatchFailure : ServerEvent → Prop where
  | incoming (d : Nat) : DispatchFailure (.incomingFiltered d none)
  | handle (d : Nat) : DispatchFailure (.handled d none)
  | outgoing (d : Nat) : DispatchFailure (.outgoingFiltered d none)

theorem incomingFiltered_none {s t : ServerState} {d : Nat}
    (h : s.incomingFiltered d none = some t) : t = s.abortDispatch d := by
  unfold incomingFiltered at h
  split at h
  · exact (Option.some.inj h).symm
  · cases h

theorem handled_none {s t : ServerState} {d : Nat}
    (h : s.handled d none = some t) : t = s.abortDispatch d := by
  unfold handled at h
  split at h
  · exact (Option.some.inj h).symm
  · cases h

theorem outgoingFiltered_none {s t : ServerState} {d : Nat}
    (h : s.outgoingFiltered d none = some t) : t = s.abortDispatch d := by
  unfold outgoingFiltered at h
  split at h
  · exact (Option.some.inj h).symm
  · cases h

/-- A failed filter or handle resumes the chain in its `finally`. -/
theorem step_failure (xxh64 : List UInt8 → UInt64) (routes : UInt32 → Bool)
    {s s' : ServerState} {e : ServerEvent} (he : DispatchFailure e)
    (h : s.step xxh64 routes e = some s') :
    ∃ d, s' = reap (s.abortDispatch d) := by
  cases he with
  | incoming d =>
    obtain ⟨t, ht, rfl⟩ := Option.map_eq_some_iff.mp h
    exact ⟨d, by rw [incomingFiltered_none ht]⟩
  | handle d =>
    obtain ⟨t, ht, rfl⟩ := Option.map_eq_some_iff.mp h
    exact ⟨d, by rw [handled_none ht]⟩
  | outgoing d =>
    obtain ⟨t, ht, rfl⟩ := Option.map_eq_some_iff.mp h
    exact ⟨d, by rw [outgoingFiltered_none ht]⟩

/-- A filter or a handle that fails leaves every connection as it was: nothing
is written to it, no error is set on it, and it is as valid as before. -/
theorem dispatch_failure_conn (xxh64 : List UInt8 → UInt64) (routes : UInt32 → Bool)
    {s s' : ServerState} {e : ServerEvent} (he : DispatchFailure e)
    (h : s.step xxh64 routes e = some s') (c : Nat) :
    (s'.conn c).output = (s.conn c).output ∧ (s'.conn c).isValid = (s.conn c).isValid := by
  obtain ⟨d, rfl⟩ := step_failure xxh64 routes he h
  have hab : (s.abortDispatch d).conn c = s.conn c := by
    simp only [conn, abortDispatch_conns]
  rw [← hab]
  exact output_isValid_of_alive (conn_reap _ c)

/-! ## A request into a throwing handle -/

/-- The header of a one-byte request for the handle with request id 1 in
session 7, its checksum being 1: the checksum of the byte `00` under a hash
that answers the length of its input. -/
def oneByteRequest : Header :=
  { compression := 0, bitflags := 0, session := 7, size := 1, checksum := 1, «meta» := 1 }

section Request

variable (xxh64 : List UInt8 → UInt64)

/-- The header of a one-byte request for the handle with request id 1 in
session 7, with the checksum of the byte `00` under `xxh64`. -/
@[simps] def checkedRequest : Header where
  compression := 0
  bitflags := 0
  session := 7
  size := 1
  checksum := rpcChecksumPayload xxh64 [0] 1
  «meta» := 1

end Request

/-- A client sends one request whose checksum and route are in order; the
incoming filters pass it on and the handle fails, as the handle of
`storage_service::Get` in the timeout test always does.  The chain of the
request is over, nothing was written to the connection, and the connection is
still valid: no reply is sent and no error closes the connection. -/
theorem handler_failure_unanswered (xxh64 : List UInt8 → UInt64) (routes : UInt32 → Bool)
    (hc : rpcChecksumPayload xxh64 [0] 1 ≠ 0) (hr : routes 1 = true) :
    (Run.run (step xxh64 routes) (init 1048576)
      [.accept, .clientData 0 ((checkedRequest xxh64).toBytes ++ [0]), .loopCheck 0, .headerRead 0,
        .admitted 0, .payloadRead 0, .loopCheck 0,
        .incomingFiltered 0 (some ⟨checkedRequest xxh64, [0]⟩), .handled 0 none]).map
      (fun s => ((s.dispatch 0).map (·.phase), (s.conn 0).output, (s.conn 0).isValid)) =
      some (some .done, [], true) := by
  set h := checkedRequest xxh64 with hh
  -- `parse_header` reads the header back as it is
  have hkeep : disabledAsNone h = h := by
    unfold disabledAsNone
    rw [if_neg (by simp [hh]; decide)]
  have hvalid : validateHeader h = some h :=
    validateHeader_eq_some.mpr ⟨by simp [hh], by simp [hh]; decide, hc, by simp [hh], hkeep.symm⟩
  have hread := parseHeader_toBytes h [0]
  rw [parseHeader_eq, hvalid, Prod.mk.injEq, kHeaderSize] at hread
  obtain ⟨hbuf, hrest⟩ := hread
  -- `parse_payload` accepts the byte, whose checksum the header carries
  have hbody : parsePayloadBody xxh64 h [0] = some ⟨h, [0]⟩ :=
    (parsePayloadBody_eq_some xxh64).mpr ⟨by simp [hh], by simp [hh]; decide, by simp [hh], rfl, rfl⟩
  have hlen : (h.toBytes ++ [0]).length = 17 := by simp [kHeaderSize]
  have hfields : h.compression = 0 ∧ h.session = 7 ∧ h.size = 1 ∧ h.«meta» = 1 := by simp [hh]
  obtain ⟨hcomp, hsession, hsize, hmeta⟩ := hfields
  -- what is left is the run itself, on bytes the two parses have been read off
  generalize h.toBytes ++ [0] = bytes at hbuf hrest hlen
  simp +decide [Run.run, step, accept, init, reap, reapOne, referenced, clientData, loopCheck,
    headerRead, conn, setConn, loop, setLoop, RpcServerConnection.init, RpcConnection.init,
    RpcConnection.isValid, RpcConnection.hasError, RpcServerConnection.readExactly,
    RpcConnection.readExactly, kHeaderSize, admitted, payloadRead, dispatchRpc, doDispatchRpc, hr,
    hbuf, hrest,
    hlen, hbody, Sem.wait, Sem.init, incomingFiltered, handled, dispatch, setDispatch, abortDispatch,
    signalResources, Sem.signal, grant, RpcRecvContext.requestId, RpcRecvContext.session, hcomp,
    hsession, hsize, hmeta]

/-- The run above with a hash that answers what XXH64 answers on the one byte
`00` it hashes, `0xe934a84adb052768`, and a route for every request id. -/
theorem handler_failure_unanswered_xxh64 :
    rpcChecksumPayload (fun _ => 0xe934a84adb052768) [0] 1 = 3674548072 ∧
      (Run.run (step (fun _ => 0xe934a84adb052768) (fun _ => true)) (init 1048576)
        [.accept, .clientData 0 ((checkedRequest fun _ => 0xe934a84adb052768).toBytes ++ [0]),
          .loopCheck 0, .headerRead 0, .admitted 0, .payloadRead 0, .loopCheck 0,
          .incomingFiltered 0 (some ⟨checkedRequest fun _ => 0xe934a84adb052768, [0]⟩),
          .handled 0 none]).map
        (fun s => ((s.dispatch 0).map (·.phase), (s.conn 0).output, (s.conn 0).isValid)) =
        some (some .done, [], true) :=
  ⟨by decide, handler_failure_unanswered _ _ (by decide) rfl⟩

end ServerState

end Smf
