import SmfRpc.Wire.Connection
import SmfRpc.Lib.Semaphore

/-!
# The state of an `rpc_server`

`src/core/rpc_server.cc` runs one future chain per accepted connection (the
`do_until` loop of `handle_client_connection`) and one background chain per
dispatched request (`dispatch_rpc`, whose future is discarded with `(void)`).
The model keeps, next to the fields of `rpc_server` that these chains read
and write, the place where each chain is suspended:

* `RpcServerConnection` is the `rpc_server_connection` object: its
  `RpcConnection`, its id, and `alive`, false once its destructor has run.
* `SessionPhase` is where the loop of one connection waits: on the loop
  condition, on `parse_header`, on `resources_available.wait`, or on
  `parse_payload` under `with_timeout`.
* `Dispatch` is one background `dispatch_rpc` chain: its connection, the
  `int32_t payload_size` it will signal, and where it waits.

`limits_->resources_available` is a `Semaphore.Sem` whose waiters are the
connection indices, and `reply_gate_` is a `Gate`.

Left out: the HTTP admin server and the metrics registration (no modelled
function reads them), the latency histogram `hist_` (its `auto_measure` has no
effect on any modelled field), TLS credentials, and the socket options set in
the connection constructor.
-/

namespace Smf

open Rpc Semaphore

/-- `rpc_server_stats`: the server's counters, all `uint64_t`. -/
structure RpcServerStats where
  activeConnections : UInt64 := 0
  totalConnections : UInt64 := 0
  inBytes : UInt64 := 0
  outBytes : UInt64 := 0
  badRequests : UInt64 := 0
  noRouteRequests : UInt64 := 0
  completedRequests : UInt64 := 0
  tooLargeRequests : UInt64 := 0
  deriving DecidableEq, Repr

/-- An `rpc_server_connection`: its `rpc_connection`, its id, and whether its
destructor has run. -/
structure RpcServerConnection extends RpcConnection where
  id : UInt64
  alive : Bool
  deriving DecidableEq, Repr, Inhabited

namespace RpcServerConnection

/-- A freshly accepted connection with id `id`. -/
def init (id : UInt64) : RpcServerConnection :=
  { toRpcConnection := RpcConnection.init, id, alive := true }

/-- `rpc_server_connection::set_error`, which forwards to its `rpc_connection`. -/
def setError (c : RpcServerConnection) (e : String) : RpcServerConnection :=
  { c with toRpcConnection := c.toRpcConnection.setError e }

/-- `read_exactly n` on the connection's input stream. -/
def readExactly (c : RpcServerConnection) (n : Nat) :
    Option (List UInt8 × RpcServerConnection) :=
  (c.toRpcConnection.readExactly n).map fun r => (r.1, { c with toRpcConnection := r.2 })

@[simp] theorem toRpcConnection_setError (c : RpcServerConnection) (e : String) :
    (c.setError e).toRpcConnection = c.toRpcConnection.setError e := rfl

@[simp] theorem id_setError (c : RpcServerConnection) (e : String) : (c.setError e).id = c.id := rfl

@[simp] theorem alive_setError (c : RpcServerConnection) (e : String) :
    (c.setError e).alive = c.alive := rfl

end RpcServerConnection

/-- Where the loop of `handle_client_connection` for one connection waits. -/
inductive SessionPhase where
  /-- `do_until` is about to evaluate `!conn->is_valid()`. -/
  | check
  /-- `parse_header`'s `read_exactly` is pending. -/
  | readingHeader
  /-- `resources_available.wait(hdr.size())` is queued. -/
  | waiting (hdr : Header)
  /-- The wait is satisfied and its continuation has not run yet. -/
  | granted (hdr : Header)
  /-- `with_timeout(parse_payload(...))` is pending. -/
  | readingPayload (hdr : Header)
  /-- The chain has completed and dropped its reference. -/
  | done
  deriving DecidableEq, Repr, Inhabited

/-- Where a background `dispatch_rpc` chain waits. -/
inductive DispatchPhase where
  /-- `stage_apply_incoming_filters` is pending. -/
  | incoming
  /-- The generated handle, which will copy `session` into the reply, is
  pending. -/
  | handling (session : UInt16)
  /-- `stage_apply_outgoing_filters` is pending on the handle's reply. -/
  | outgoing (e : RpcEnvelope)
  /-- `with_semaphore(serialize_writes, 1, send)` is pending. -/
  | sending (e : RpcEnvelope)
  /-- The trailing `ostream.flush()` is pending. -/
  | flushing
  /-- The chain has completed: `finally` signalled and the gate was left. -/
  | done
  deriving DecidableEq, Repr

/-- One background `dispatch_rpc` chain. -/
structure Dispatch where
  conn : Nat
  payloadSize : Int32
  phase : DispatchPhase
  deriving DecidableEq, Repr

/-- The `rpc_server` and its running chains.  `conns`, `loops` and the
connection indices in `openConnections`, `dispatches` and the semaphore's
queue all use the position of a connection in `conns`. -/
structure ServerState where
  accepting : Bool
  connectionIdx : UInt64
  conns : List RpcServerConnection
  loops : List SessionPhase
  openConnections : List (UInt64 × Nat)
  stats : RpcServerStats
  maxMemory : Nat
  resources : Sem Nat
  replyGate : Gate
  dispatches : List Dispatch
  deriving DecidableEq, Repr

namespace ServerState

/-- `rpc_server::rpc_server` with `memory_avail_per_core` units of memory,
before `start()`. -/
def init (memoryAvailPerCore : Nat) : ServerState :=
  { accepting := true, connectionIdx := 0, conns := [], loops := [], openConnections := [],
    stats := {}, maxMemory := memoryAvailPerCore, resources := Sem.init memoryAvailPerCore,
    replyGate := {}, dispatches := [] }

/-- The connection at index `c`. -/
def conn (s : ServerState) (c : Nat) : RpcServerConnection := s.conns.getD c default

/-- Replace the connection at index `c`. -/
def setConn (s : ServerState) (c : Nat) (x : RpcServerConnection) : ServerState :=
  { s with conns := s.conns.set c x }

/-- The loop of the connection at index `c`. -/
def loop (s : ServerState) (c : Nat) : SessionPhase := s.loops.getD c .done

/-- Move the loop of the connection at index `c`. -/
def setLoop (s : ServerState) (c : Nat) (p : SessionPhase) : ServerState :=
  { s with loops := s.loops.set c p }

/-- The dispatch chain at index `d`. -/
def dispatch (s : ServerState) (d : Nat) : Option Dispatch := s.dispatches[d]?

/-- Move the dispatch chain at index `d`. -/
def setDispatch (s : ServerState) (d : Nat) (p : DispatchPhase) : ServerState :=
  { s with dispatches := s.dispatches.modify d fun x => { x with phase := p } }

@[simp] theorem setConn_conns (s : ServerState) (c : Nat) (x : RpcServerConnection) :
    (s.setConn c x).conns = s.conns.set c x := rfl

@[simp] theorem setConn_dispatches (s : ServerState) (c : Nat) (x : RpcServerConnection) :
    (s.setConn c x).dispatches = s.dispatches := rfl

@[simp] theorem setLoop_conns (s : ServerState) (c : Nat) (p : SessionPhase) :
    (s.setLoop c p).conns = s.conns := rfl

@[simp] theorem setDispatch_conns (s : ServerState) (d : Nat) (p : DispatchPhase) :
    (s.setDispatch d p).conns = s.conns := rfl

theorem conn_setConn (s : ServerState) (c c' : Nat) (x : RpcServerConnection) :
    (s.setConn c x).conn c' = if c = c' ∧ c < s.conns.length then x else s.conn c' := by
  unfold conn
  by_cases h : c = c' ∧ c < s.conns.length
  · obtain ⟨rfl, hlt⟩ := h
    simp [hlt]
  · rw [if_neg h]
    by_cases hc : c = c'
    · subst hc
      have hge : s.conns.length ≤ c := by omega
      simp [hge]
    · simp [hc]

/-- Some live chain or `open_connections_` still holds the connection. -/
def referenced (s : ServerState) (c : Nat) : Bool :=
  s.openConnections.any (·.2 == c) || s.loop c != .done ||
    s.dispatches.any fun d => d.conn == c && d.phase != .done

end ServerState

end Smf
