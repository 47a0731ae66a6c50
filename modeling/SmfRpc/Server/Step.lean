import SmfRpc.Server.State
import SmfRpc.Lib.Run

/-!
# The continuations of `rpc_server`

Each definition below is one continuation of `src/core/rpc_server.cc`, run
when the future it waits on resolves; `ServerState.step` picks the
continuation an event resumes.  The events that the environment controls carry
its choice: the bytes a client sends, whether a filter or a handler fails and
what it answers otherwise, whether a write succeeds, when a body read times
out, and when a read fails.

The chains, as the source builds them:

* `start()` accepts a connection (`accept`), registers it in
  `open_connections_`, and runs `handle_client_connection` in the
  background: `do_until(!is_valid, handle_one_client_session)`, then
  `finally(cleanup_dispatch_rpc)`, then `handle_exception(set_error;
  cleanup_dispatch_rpc)`.
* `handle_one_client_session` parses a header (`headerRead`), waits for
  `hdr.size` units of `resources_available` (`admitted`), parses the payload
  under `with_timeout` (`payloadRead`, `payloadTimeout`), and calls
  `dispatch_rpc` whose future it discards.  Either read can fail with an
  exception (`readFailed`), which fails the loop's future as a timeout does.
* `dispatch_rpc` enters `reply_gate_` and runs `do_dispatch_rpc`: incoming
  filters (`incomingFiltered`), the handler (`handled`), outgoing filters
  (`outgoingFiltered`), the send under `serialize_writes` (`sent`) and the
  trailing flush (`flushed`); then `cleanup_dispatch_rpc`, and in `finally`
  the `signal(payload_size)` of the units.

The send is one step here: `serialize_writes` keeps the header and body writes
of one reply together, which is what `SmfRpc.Write.Serialize` proves of the
finer model of the write path.

After every step, `reap` runs the destructor of each connection that no chain
and no entry of `open_connections_` holds any more, as the last
`lw_shared_ptr` going away does.
-/

namespace Smf

open Rpc Semaphore RpcRecvContext

namespace ServerState

/-! ## Shared pieces -/

/-- `rpc_server::cleanup_dispatch_rpc`: an errored connection still in
`open_connections_` is erased, counted as a bad request and as one active
connection less, disabled and shut down; a connection without error counts a
completed request. -/
def cleanupDispatchRpc (s : ServerState) (c : Nat) : ServerState :=
  let conn := s.conn c
  if conn.hasError then
    if s.openConnections.any (·.1 == conn.id) then
      let s := { s with
        openConnections := s.openConnections.eraseP (·.1 == conn.id)
        stats := { s.stats with
          badRequests := s.stats.badRequests + 1
          activeConnections := s.stats.activeConnections - 1 } }
      s.setConn c { conn with toRpcConnection := conn.shutdown }
    else s
  else { s with stats := { s.stats with completedRequests := s.stats.completedRequests + 1 } }

/-- Resume the waiters a signal granted: each moves from `waiting` to
`granted`. -/
def grant (s : ServerState) (woken : List (Nat × Nat)) : ServerState :=
  woken.foldl (fun s w =>
    match s.loop w.2 with
    | .waiting hdr => s.setLoop w.2 (.granted hdr)
    | _ => s) s

/-- `resources_available.signal(n)`. -/
def signalResources (s : ServerState) (n : Int) : ServerState :=
  let r := s.resources.signal n
  { s with resources := r.1 }.grant r.2

/-- The loop's future failed: `finally` runs `cleanup_dispatch_rpc`, then
`handle_exception` sets the error and runs it again, and the chain ends. -/
def sessionFailed (s : ServerState) (c : Nat) : ServerState :=
  let s := s.cleanupDispatchRpc c
  let s := s.setConn c ((s.conn c).setError "handling client session exception")
  (s.cleanupDispatchRpc c).setLoop c .done

/-- The loop ended because the connection is no longer valid: `finally` runs
`cleanup_dispatch_rpc` and the chain ends. -/
def sessionEnded (s : ServerState) (c : Nat) : ServerState :=
  (s.cleanupDispatchRpc c).setLoop c .done

/-- The `finally` of `dispatch_rpc` on a failed chain: signal the units and
leave the gate.  `cleanup_dispatch_rpc` is skipped, as the exception passes
over its `then`. -/
def abortDispatch (s : ServerState) (d : Nat) : ServerState :=
  match s.dispatch d with
  | none => s
  | some x =>
    let s := s.signalResources x.payloadSize.toInt
    { s with replyGate := { s.replyGate with count := s.replyGate.count - 1 } }.setDispatch d .done

/-- `do_dispatch_rpc` resolved: `cleanup_dispatch_rpc`, then the `finally`. -/
def completeDispatch (s : ServerState) (d : Nat) : ServerState :=
  match s.dispatch d with
  | none => s
  | some x => (s.cleanupDispatchRpc x.conn).abortDispatch d

/-- Run the destructor of connection `c` if it is alive and nothing holds it
any more: `~rpc_server_connection` counts one active connection less. -/
def reapOne (s : ServerState) (c : Nat) : ServerState :=
  if (s.conn c).alive && !s.referenced c then
    { s.setConn c { s.conn c with alive := false } with
      stats := { s.stats with activeConnections := s.stats.activeConnections - 1 } }
  else s

/-- Run the destructor of every connection that nothing holds any more. -/
def reap (s : ServerState) : ServerState :=
  (List.range s.conns.length).foldl reapOne s

/-! ## `start()` and the session loop -/

/-- The accept loop of `start()`: a new `rpc_server_connection` with id
`++connection_idx_` (its constructor counts one active and one total
connection), registered in `open_connections_`, with its loop started. -/
def accept (s : ServerState) : Option ServerState :=
  if !s.accepting then none
  else
    let idx := s.connectionIdx + 1
    let c := s.conns.length
    some { s with
      connectionIdx := idx
      conns := s.conns ++ [RpcServerConnection.init idx]
      loops := s.loops ++ [.check]
      openConnections :=
        if s.openConnections.any (·.1 == idx) then s.openConnections
        else s.openConnections ++ [(idx, c)]
      stats := { s.stats with
        activeConnections := s.stats.activeConnections + 1
        totalConnections := s.stats.totalConnections + 1 } }

/-- The condition of `do_until`: stop once the connection is not valid. -/
def loopCheck (s : ServerState) (c : Nat) : Option ServerState :=
  if s.loop c != .check then none
  else if (s.conn c).isValid then some (s.setLoop c .readingHeader)
  else some (s.sessionEnded c)

/-- `parse_header` resolved, and the first continuation of
`handle_one_client_session`: set the error on a bad header, or queue for
`hdr.size` units of memory. -/
def headerRead (s : ServerState) (c : Nat) : Option ServerState :=
  if s.loop c != .readingHeader then none
  else
    match (s.conn c).readExactly kHeaderSize with
    | none => none
    | some (buf, conn) =>
      match parseHeaderBuffer buf with
      | none => some ((s.setConn c (conn.setError "Error parsing connection header")).setLoop c .check)
      | some hdr =>
        let r := s.resources.wait hdr.size.toNat c
        let s := { s.setConn c conn with resources := r.1 }
        some (s.setLoop c (if r.2 then .granted hdr else .waiting hdr))

/-- The wait for memory resolved: start `parse_payload` under
`with_timeout`. -/
def admitted (s : ServerState) (c : Nat) : Option ServerState :=
  match s.loop c with
  | .granted hdr => some (s.setLoop c (.readingPayload hdr))
  | _ => none

/-! ## `dispatch_rpc` and `do_dispatch_rpc` -/

section Dispatch

variable (routes : UInt32 → Bool)

/-- The synchronous part of `do_dispatch_rpc`, inside the gate: a request id
of zero or a request id no service routes sets the error and resolves at
once; otherwise the incoming bytes are counted and the incoming filters are
staged.  `routes` answers whether `routes_.get_handle_for_request` finds a
handle. -/
def doDispatchRpc (s : ServerState) (c : Nat) (payloadSize : Int32)
    (ctx : RpcRecvContext) : ServerState :=
  let d := s.dispatches.length
  let s := { s with dispatches := s.dispatches ++ [({ conn := c, payloadSize, phase := .incoming } : Dispatch)] }
  if ctx.requestId = 0 then
    (s.setConn c ((s.conn c).setError "Missing request_id. Invalid request")).completeDispatch d
  else if !routes ctx.requestId then
    let s := { s with stats := { s.stats with noRouteRequests := s.stats.noRouteRequests + 1 } }
    (s.setConn c ((s.conn c).setError "Can't find route for request. Invalid")).completeDispatch d
  else
    { s with stats := { s.stats with
      inBytes := s.stats.inBytes + UInt64.ofNat (ctx.header.size.toNat + ctx.payload.length) } }

/-- `rpc_server::dispatch_rpc`.  Without a context it signals the units back
and sets the error.  With one it enters `reply_gate_`; `none` is the
`gate_closed_exception` that `with_gate` throws on a closed gate, before the
`finally` that would signal is attached. -/
def dispatchRpc (s : ServerState) (payloadSize : Int32) (c : Nat)
    (ctx : Option RpcRecvContext) : Option ServerState :=
  match ctx with
  | none => some ((s.signalResources payloadSize.toInt).setConn c
      (((s.signalResources payloadSize.toInt).conn c).setError "Could not parse payload"))
  | some ctx =>
    if s.replyGate.closed then none
    else
      let s := { s with replyGate := { s.replyGate with count := s.replyGate.count + 1 } }
      some (s.doDispatchRpc routes c payloadSize ctx)

end Dispatch

section Session

variable (xxh64 : List UInt8 → UInt64) (routes : UInt32 → Bool)

/-- `parse_payload` resolved within the timeout, and the last continuation of
`handle_one_client_session`: `dispatch_rpc(payload_size, ...)` with the
`uint32_t` size narrowed to `int32_t`.  When `dispatch_rpc` throws, the loop's
future fails. -/
def payloadRead (s : ServerState) (c : Nat) : Option ServerState :=
  match s.loop c with
  | .readingPayload hdr =>
    match (s.conn c).readExactly hdr.size.toNat with
    | none => none
    | some (body, conn) =>
      let s := s.setConn c conn
      match s.dispatchRpc routes hdr.size.toInt32 c (parsePayloadBody xxh64 hdr body) with
      | some s => some (s.setLoop c .check)
      | none => some (s.sessionFailed c)
  | _ => none

/-- `with_timeout` fired before `parse_payload` resolved: the loop's future
fails with `timed_out_error` and the read is left behind. -/
def payloadTimeout (s : ServerState) (c : Nat) : Option ServerState :=
  match s.loop c with
  | .readingPayload _ => some (s.sessionFailed c)
  | _ => none

/-- The `read_exactly` of `parse_header` or of `parse_payload` failed with an
exception, a connection reset by the peer say: the loop's future fails.  A
payload read fails before `dispatch_rpc` is called, so the units its loop took
are not signalled. -/
def readFailed (s : ServerState) (c : Nat) : Option ServerState :=
  match s.loop c with
  | .readingHeader | .readingPayload _ => some (s.sessionFailed c)
  | _ => none

/-- A read fails only in a loop that waits on it, and the loop ends as a
failed session. -/
theorem readFailed_eq_some {s t : ServerState} {c : Nat} (h : s.readFailed c = some t) :
    (s.loop c = .readingHeader ∨ ∃ hdr, s.loop c = .readingPayload hdr) ∧
      t = s.sessionFailed c := by
  unfold readFailed at h
  split at h
  · rename_i hloop
    exact ⟨.inl hloop, (Option.some.inj h).symm⟩
  · rename_i hdr hloop
    exact ⟨.inr ⟨hdr, hloop⟩, (Option.some.inj h).symm⟩
  · cases h

end Session

/-! ## The rest of `do_dispatch_rpc`

The filters and the handle are code the user registers.  What each answers
is the environment's choice, carried by the event: any context or envelope,
or `none` for a future that failed with an exception. -/

/-- The incoming filters resolved.  A failure skips to the `finally`; a
context that still names a compression sets the error, and the chain runs on
to `cleanup_dispatch_rpc`; otherwise the handle is called. -/
def incomingFiltered (s : ServerState) (d : Nat) (r : Option RpcRecvContext) :
    Option ServerState :=
  match s.dispatch d with
  | some ⟨c, _, .incoming⟩ =>
    match r with
    | none => some (s.abortDispatch d)
    | some ctx =>
      if ctx.header.compression ≠ CompressionFlags.none.toInt8 then
        let msg := "There was no decompression filter for compression enum: " ++
          toString ctx.header.compression.toInt
        some ((s.setConn c ((s.conn c).setError msg)).completeDispatch d)
      else some (s.setDispatch d (.handling ctx.session))
  | _ => none

/-- The handle resolved.  The generated wrapper copies the request's session
into the reply (`e.letter.header.mutate_session(session_id)`); then the
outgoing filters are staged. -/
def handled (s : ServerState) (d : Nat) (r : Option RpcEnvelope) : Option ServerState :=
  match s.dispatch d with
  | some ⟨_, _, .handling session⟩ =>
    match r with
    | none => some (s.abortDispatch d)
    | some e =>
      let e := { e with letter := { e.letter with
        header := { e.letter.header with session := session } } }
      some (s.setDispatch d (.outgoing e))
  | _ => none

/-- The outgoing filters resolved.  On a connection that is no longer valid
the reply is skipped; otherwise the outgoing bytes are counted and the send
waits for `serialize_writes`. -/
def outgoingFiltered (s : ServerState) (d : Nat) (r : Option RpcEnvelope) :
    Option ServerState :=
  match s.dispatch d with
  | some ⟨c, _, .outgoing _⟩ =>
    match r with
    | none => some (s.abortDispatch d)
    | some e =>
      if !(s.conn c).isValid then some (s.completeDispatch d)
      else
        let s := { s with stats := { s.stats with
          outBytes := s.stats.outBytes + UInt64.ofNat e.letter.size } }
        some (s.setDispatch d (.sending e))
  | _ => none

/-- `rpc_envelope::send` under `serialize_writes` resolved.  A failed write,
or one on a connection whose output was shut down, fails the chain. -/
def sent (s : ServerState) (d : Nat) (ok : Bool) : Option ServerState :=
  match s.dispatch d with
  | some ⟨c, _, .sending e⟩ =>
    if ok && !(s.conn c).outputClosed then
      let s := s.setConn c { s.conn c with output := (s.conn c).output ++ e.send }
      some (s.setDispatch d .flushing)
    else some (s.abortDispatch d)
  | _ => none

/-- The trailing `then`: flush a connection that is still valid, then
`cleanup_dispatch_rpc` and the `finally`. -/
def flushed (s : ServerState) (d : Nat) (ok : Bool) : Option ServerState :=
  match s.dispatch d with
  | some ⟨c, _, .flushing⟩ =>
    if !(s.conn c).isValid then some (s.completeDispatch d)
    else if ok && !(s.conn c).outputClosed then
      let s := s.setConn c { s.conn c with output := (s.conn c).output ++ [.flush] }
      some (s.completeDispatch d)
    else some (s.abortDispatch d)
  | _ => none

/-! ## `stop()` and the clients -/

/-- `rpc_server::stop`: `abort_accept`, and once the accept loop has stopped,
`shutdown_input` on every open connection and `reply_gate_.close()`.  The
accept loop resolves `stopped_` once, and `stop()` asks the promise for its
future, which a promise gives once: a server that no longer accepts cannot be
stopped again. -/
def stop (s : ServerState) : Option ServerState :=
  if !s.accepting then none
  else
    let s := s.openConnections.foldl (fun s e => s.setConn e.2 { s.conn e.2 with inputClosed := true }) s
    some { s with accepting := false, replyGate := { s.replyGate with closed := true } }

/-- A client sends more bytes on a connection whose input is open. -/
def clientData (s : ServerState) (c : Nat) (bytes : List UInt8) : Option ServerState :=
  if c < s.conns.length && !(s.conn c).inputClosed then
    some (s.setConn c { s.conn c with input := (s.conn c).input ++ bytes })
  else none

/-- A client closes its side of a connection. -/
def clientClose (s : ServerState) (c : Nat) : Option ServerState :=
  if c < s.conns.length then some (s.setConn c { s.conn c with inputClosed := true })
  else none

end ServerState

/-- What can happen next to an `rpc_server`. -/
inductive ServerEvent where
  | accept
  | clientData (c : Nat) (bytes : List UInt8)
  | clientClose (c : Nat)
  | loopCheck (c : Nat)
  | headerRead (c : Nat)
  | admitted (c : Nat)
  | payloadRead (c : Nat)
  | payloadTimeout (c : Nat)
  | readFailed (c : Nat)
  | incomingFiltered (d : Nat) (r : Option RpcRecvContext)
  | handled (d : Nat) (r : Option RpcEnvelope)
  | outgoingFiltered (d : Nat) (r : Option RpcEnvelope)
  | sent (d : Nat) (ok : Bool)
  | flushed (d : Nat) (ok : Bool)
  | stop
  deriving DecidableEq, Repr

namespace ServerState

variable (xxh64 : List UInt8 → UInt64) (routes : UInt32 → Bool)

/-- The continuation an event resumes, then the destructors it lets run. -/
def step (s : ServerState) : ServerEvent → Option ServerState
  | .accept => (s.accept).map reap
  | .clientData c bytes => (s.clientData c bytes).map reap
  | .clientClose c => (s.clientClose c).map reap
  | .loopCheck c => (s.loopCheck c).map reap
  | .headerRead c => (s.headerRead c).map reap
  | .admitted c => (s.admitted c).map reap
  | .payloadRead c => (s.payloadRead xxh64 routes c).map reap
  | .payloadTimeout c => (s.payloadTimeout c).map reap
  | .readFailed c => (s.readFailed c).map reap
  | .incomingFiltered d r => (s.incomingFiltered d r).map reap
  | .handled d r => (s.handled d r).map reap
  | .outgoingFiltered d r => (s.outgoingFiltered d r).map reap
  | .sent d ok => (s.sent d ok).map reap
  | .flushed d ok => (s.flushed d ok).map reap
  | .stop => (s.stop).map reap

/-- Only `payloadRead` reads the checksum function and the routes. -/
theorem step_eq_of_ne_payloadRead (xxh64' : List UInt8 → UInt64) (routes' : UInt32 → Bool)
    (s : ServerState) (e : ServerEvent) (he : ∀ c, e ≠ .payloadRead c) :
    s.step xxh64 routes e = s.step xxh64' routes' e := by
  cases e with
  | payloadRead c => exact absurd rfl (he c)
  | _ => rfl

/-- A run without `payloadRead` is the same for every checksum function and
every route table. -/
theorem run_eq_of_ne_payloadRead (xxh64' : List UInt8 → UInt64) (routes' : UInt32 → Bool)
    (s : ServerState) (es : List ServerEvent) (hes : ∀ e ∈ es, ∀ c, e ≠ .payloadRead c) :
    Run.run (step xxh64 routes) s es = Run.run (step xxh64' routes') s es :=
  Run.run_congr _ s es fun e he s => step_eq_of_ne_payloadRead xxh64 routes xxh64' routes' s e (hes e he)

end ServerState

end Smf
