import SmfRpc.Wire.Connection
import SmfRpc.Lib.Semaphore
import SmfRpc.Lib.AssocList

/-!
# The state of an `rpc_client`

`src/core/rpc_client.cc` runs, next to the caller's own futures, one
background chain per connection (`do_reads`, a `do_until` loop that calls
`process_one_request` under `with_timeout`) and one per write
(`dispatch_write`, whose future `raw_send` discards with `(void)`).  The model
keeps the fields of `rpc_client` these chains read and write, and where each
chain is suspended:

* `conns` holds every `rpc_connection` the client made, by generation;
  `conn` is `conn_`, the generation it points to, if any.  A chain that
  captured `conn_` keeps the generation it captured.
* `rpcSlots` is `rpc_slots_`, from session to work item, and `workItems` the
  `work_item`s made so far, each with its session and the state of its
  promise.
* `sends` are the futures of the `send` calls, `writes` the
  `dispatch_write` chains, `loops` the `do_reads` loops and `readers` the
  `process_one_request` chains.
* `dispatchGate` is `dispatch_gate_`; `reconnecting` is a `reconnect()` whose
  `stop()` waits for the gate.

Left out: `limits_` and the semaphores of the write path (they order and
delay writes, which `SmfRpc.Write.Serialize` models), the histogram `hist_`,
TLS credentials, the server address, and the log lines.
-/

namespace Smf

open Rpc Semaphore

/-- The exceptions a `send` future fails with. -/
inductive SendError where
  /-- `seastar::gate_closed_exception`, from `with_gate` on `dispatch_gate_`. -/
  | gateClosed
  /-- `invalid_connection_state`: `raw_send` on a connection that is not valid. -/
  | invalidConnectionState
  /-- `remote_connection_error`, set by `fail_outstanding_futures`. -/
  | remoteConnectionError
  /-- An exception of a user filter. -/
  | filter
  /-- The `LOG_THROW_IF` of `raw_send` on a reply that names a compression. -/
  | compression (flag : Int8)
  deriving DecidableEq, Repr

/-- The state of the promise of a `work_item`. -/
inductive Promise where
  | pending
  | value (r : Option RpcRecvContext)
  | failed (e : SendError)
  deriving DecidableEq, Repr, Inhabited

/-- `rpc_client::work_item`: the session it was made for, and its promise. -/
structure WorkItem where
  session : UInt16
  pr : Promise
  deriving DecidableEq, Repr, Inhabited

/-- Where the future of one `send` waits. -/
inductive SendPhase where
  /-- `stage_outgoing_filters` is pending on the stamped envelope. -/
  | filtering (e : RpcEnvelope)
  /-- `work->pr.get_future()` is pending. -/
  | awaiting
  /-- `stage_incoming_filters` is pending on the reply. -/
  | incoming (ctx : RpcRecvContext)
  /-- The future resolved, and `send` left `dispatch_gate_`. -/
  | done (r : Except SendError (Option RpcRecvContext))
  deriving DecidableEq, Repr

/-- One `send<T>` call: the work item its `raw_send` made, if it made one,
and where its future waits. -/
structure RawSend where
  work : Option Nat
  phase : SendPhase
  deriving DecidableEq, Repr

/-- One `dispatch_write` chain: the envelope, and whether the chain is still
inside `dispatch_gate_`. -/
structure DispatchWrite where
  e : RpcEnvelope
  pending : Bool
  deriving DecidableEq, Repr

/-- Where a `do_reads` loop waits. -/
inductive LoopPhase where
  /-- `do_until` is about to evaluate `!is_conn_valid()`. -/
  | check
  /-- `with_timeout(process_one_request())` is pending on reader `r`. -/
  | reading (r : Nat)
  /-- The loop's future resolved and it left `dispatch_gate_`. -/
  | done
  deriving DecidableEq, Repr

/-- Where a `process_one_request` chain waits. -/
inductive ReadPhase where
  /-- `parse_header` is pending. -/
  | header
  /-- `parse_payload` is pending. -/
  | payload (hdr : Header)
  /-- The chain has completed. -/
  | done
  deriving DecidableEq, Repr

/-- One `process_one_request` chain: the generation of `conn_` when it was
called, which its continuations captured, and the loop that called it. -/
structure Reader where
  conn : Nat
  loop : Nat
  phase : ReadPhase
  deriving DecidableEq, Repr

/-- An `rpc_client` and its running chains. -/
structure ClientState where
  readCounter : UInt64
  conn : Option Nat
  conns : List RpcConnection
  rpcSlots : List (UInt16 × Nat)
  workItems : List WorkItem
  sends : List RawSend
  writes : List DispatchWrite
  loops : List LoopPhase
  readers : List Reader
  dispatchGate : Gate
  reconnecting : Bool
  sessionIdx : UInt16
  deriving DecidableEq, Repr

namespace ClientState

/-- `rpc_client::rpc_client`, before `connect()`. -/
def init : ClientState :=
  { readCounter := 0, conn := none, conns := [], rpcSlots := [], workItems := [], sends := [],
    writes := [], loops := [], readers := [], dispatchGate := {}, reconnecting := false,
    sessionIdx := 0 }

/-- The connection of generation `g`. -/
def connAt (s : ClientState) (g : Nat) : RpcConnection := s.conns.getD g default

/-- Change the connection of generation `g`. -/
def modifyConn (s : ClientState) (g : Nat) (f : RpcConnection → RpcConnection) : ClientState :=
  { s with conns := s.conns.modify g f }

/-- `rpc_client::is_conn_valid`: `conn_` is set and valid. -/
def isConnValid (s : ClientState) : Bool :=
  match s.conn with
  | none => false
  | some g => (s.connAt g).isValid

/-- The work item at index `w`. -/
def workItem (s : ClientState) (w : Nat) : WorkItem := s.workItems.getD w default

/-- Set the promise of work item `w`. -/
def setPromise (s : ClientState) (w : Nat) (p : Promise) : ClientState :=
  { s with workItems := s.workItems.modify w fun x => { x with pr := p } }

/-- The `send` call at index `r`. -/
def sendAt (s : ClientState) (r : Nat) : Option RawSend := s.sends[r]?

/-- Move the future of `send` call `r`. -/
def setSendPhase (s : ClientState) (r : Nat) (p : SendPhase) : ClientState :=
  { s with sends := s.sends.modify r fun x => { x with phase := p } }

/-- The future of `send` call `r` resolved: `send<T>` leaves the gate. -/
def finishSend (s : ClientState) (r : Nat) (res : Except SendError (Option RpcRecvContext)) :
    ClientState :=
  { s.setSendPhase r (.done res) with dispatchGate := s.dispatchGate.leave }

/-- The `do_reads` loop at index `l`. -/
def loop (s : ClientState) (l : Nat) : LoopPhase := s.loops.getD l .done

/-- Move the loop at index `l`. -/
def setLoop (s : ClientState) (l : Nat) (p : LoopPhase) : ClientState :=
  { s with loops := s.loops.set l p }

/-- The reader at index `r`. -/
def readerAt (s : ClientState) (r : Nat) : Option Reader := s.readers[r]?

/-- Move the reader at index `r`. -/
def setReadPhase (s : ClientState) (r : Nat) (p : ReadPhase) : ClientState :=
  { s with readers := s.readers.modify r fun x => { x with phase := p } }

/-! ## What each setter leaves alone -/

section Frame

variable (s : ClientState)

@[simp] theorem modifyConn_rpcSlots (g f) : (s.modifyConn g f).rpcSlots = s.rpcSlots := rfl
@[simp] theorem modifyConn_workItems (g f) : (s.modifyConn g f).workItems = s.workItems := rfl
@[simp] theorem setSendPhase_rpcSlots (r p) : (s.setSendPhase r p).rpcSlots = s.rpcSlots := rfl
@[simp] theorem setSendPhase_workItems (r p) : (s.setSendPhase r p).workItems = s.workItems := rfl
@[simp] theorem finishSend_rpcSlots (r res) : (s.finishSend r res).rpcSlots = s.rpcSlots := rfl
@[simp] theorem finishSend_workItems (r res) : (s.finishSend r res).workItems = s.workItems := rfl
@[simp] theorem setLoop_rpcSlots (l p) : (s.setLoop l p).rpcSlots = s.rpcSlots := rfl
@[simp] theorem setLoop_workItems (l p) : (s.setLoop l p).workItems = s.workItems := rfl
@[simp] theorem setReadPhase_rpcSlots (r p) : (s.setReadPhase r p).rpcSlots = s.rpcSlots := rfl
@[simp] theorem setReadPhase_workItems (r p) : (s.setReadPhase r p).workItems = s.workItems := rfl
@[simp] theorem setPromise_rpcSlots (w p) : (s.setPromise w p).rpcSlots = s.rpcSlots := rfl

/-- Two states with the same work items agree on each of them. -/
theorem workItem_congr {t : ClientState} (h : t.workItems = s.workItems) (w : Nat) :
    t.workItem w = s.workItem w := by
  simp only [workItem, h]

theorem sendAt_congr {t : ClientState} (h : t.sends = s.sends) (r : Nat) :
    t.sendAt r = s.sendAt r := by
  simp only [sendAt, h]

/-- `is_conn_valid()` reads `conn_` and nothing else of the client. -/
@[simp] theorem isConnValid_dispatchGate (g : Gate) :
    ({ s with dispatchGate := g } : ClientState).isConnValid = s.isConnValid := rfl

theorem isConnValid_congr {t : ClientState} (hc : t.conn = s.conn) (hcs : t.conns = s.conns) :
    t.isConnValid = s.isConnValid := by
  simp [isConnValid, connAt, hc, hcs]

end Frame

end ClientState

end Smf
