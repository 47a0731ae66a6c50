import SmfRpc.Client.State
import SmfRpc.Wire.RecvContext
import SmfRpc.Lib.Run

/-!
# The continuations of `rpc_client`

Each definition below is a call of `rpc_client` or one continuation of its
chains in `src/core/rpc_client.cc`; `ClientState.step` picks the one an event
resumes.  The events the environment controls carry its choice: what the
filters answer, whether a write succeeds, the bytes the server sends, and
when a read times out.

The chains, as the source builds them:

* `connect()` makes a connection and runs `do_reads` inside
  `dispatch_gate_`: `do_until(!is_conn_valid(), with_timeout(...,
  process_one_request()))`, then `handle_exception(fail_outstanding_futures)`
  (`loopCheck`, `readTimeout`).
* `process_one_request` parses a header and a payload from the connection
  `conn_` points to when it is called (`headerRead`, `payloadRead`), and
  completes the promise of the slot of the reply's session.  On a bad header,
  a bad payload or an unknown session it sets the error on the connection it
  captured and calls `fail_outstanding_futures`, which acts on `conn_` as it
  is then.
* `send<T>` enters `dispatch_gate_` and calls `raw_send`, which stamps the
  next session, stores a work item in `rpc_slots_`, and runs the outgoing
  filters (`outFiltered`); then `dispatch_write` in the background
  (`written`), the promise (`replied`) and the incoming filters
  (`inFiltered`).
* `reconnect()` fails the outstanding futures and calls `stop()`, which
  closes the gate; once every chain has left it (`reconnected`), a new gate,
  `conn_ = nullptr` and `connect()`.

`with_timeout` does not cancel the future it waits on: after `readTimeout`
the reader runs on, outside the gate.
-/

namespace Smf

open Rpc Semaphore RpcRecvContext AssocList

/-- `e.letter.header.mutate_session(session)`. -/
def RpcEnvelope.mutateSession (e : RpcEnvelope) (session : UInt16) : RpcEnvelope :=
  { e with letter := { e.letter with header := { e.letter.header with session } } }

namespace ClientState

/-! ## Shared pieces -/

/-- The first half of `fail_outstanding_futures`: when `is_conn_valid()`,
`conn_` is disabled and its socket shut down both ways. -/
def disableConn (s : ClientState) : ClientState :=
  match s.conn with
  | some g => if (s.connAt g).isValid then s.modifyConn g RpcConnection.shutdown else s
  | none => s

/-- `rpc_client::fail_outstanding_futures`: `disableConn`, then the promise of
every slot fails with `remote_connection_error` and the slot is erased. -/
def failOutstandingFutures (s : ClientState) : ClientState :=
  let s := s.disableConn
  let s := s.rpcSlots.foldl (fun s slot => s.setPromise slot.2 (.failed .remoteConnectionError)) s
  { s with rpcSlots := [] }

/-- A reader's chain completed: the loop waiting for it through
`with_timeout` resumes, unless the timeout fired first. -/
def endRead (s : ClientState) (r : Nat) (l : Nat) : ClientState :=
  let s := s.setReadPhase r .done
  if s.loop l = .reading r then s.setLoop l .check else s

/-- A continuation of `process_one_request` met an error: `conn->set_error`
on the connection it captured, then `fail_outstanding_futures()`. -/
def readFailed (s : ClientState) (r g l : Nat) (msg : String) : ClientState :=
  ((s.modifyConn g (·.setError msg)).failOutstandingFutures).endRead r l

/-! ## The calls -/

/-- `rpc_client::connect`: throws when the client is connected already;
otherwise a new connection becomes `conn_` and `do_reads` starts inside the
gate.  On a closed gate `with_gate` throws inside the thread and no loop
starts. -/
def connect (s : ClientState) : Option ClientState :=
  if s.isConnValid then none
  else
    let s := { s with conn := some s.conns.length, conns := s.conns ++ [RpcConnection.init] }
    match s.dispatchGate.enter with
    | none => some s
    | some gate => some { s with dispatchGate := gate, loops := s.loops ++ [.check] }

/-- The synchronous part of `rpc_client::raw_send`: on a connection that is
not valid, an exceptional future; otherwise the next session and read count,
a work item stored in `rpc_slots_` unless the session has a slot already
(the duplicate check is a `DLOG_THROW_IF`, empty in a release build, and
`unordered_map::insert` keeps the old entry), the session stamped into the
header, and the outgoing filters staged. -/
def rawSend (s : ClientState) (e : RpcEnvelope) : Except SendError ClientState :=
  if !s.isConnValid then .error .invalidConnectionState
  else
    let idx := s.sessionIdx + 1
    let w := s.workItems.length
    let e := e.mutateSession idx
    .ok { s with
      sessionIdx := idx
      readCounter := s.readCounter + 1
      workItems := s.workItems ++ [⟨idx, .pending⟩]
      rpcSlots := insertIfAbsent s.rpcSlots idx w
      sends := s.sends ++ [⟨some w, .filtering e⟩] }

/-- `rpc_client::send<T>`: `raw_send` inside `dispatch_gate_`.  A closed gate
throws; a future that fails at once leaves the gate again. -/
def send (s : ClientState) (e : RpcEnvelope) : ClientState :=
  match s.dispatchGate.enter with
  | none => { s with sends := s.sends ++ [⟨none, .done (.error .gateClosed)⟩] }
  | some gate =>
    match rawSend { s with dispatchGate := gate } e with
    | .error err => { s with sends := s.sends ++ [⟨none, .done (.error err)⟩] }
    | .ok s' => s'

/-- `rpc_client::stop`: fail the outstanding futures and close the gate.
Closing a gate twice is an assertion failure. -/
def stop (s : ClientState) : Option ClientState :=
  let s := s.failOutstandingFutures
  s.dispatchGate.close.map fun gate => { s with dispatchGate := gate }

/-- `rpc_client::reconnect` up to the wait of `stop()`. -/
def reconnect (s : ClientState) : Option ClientState :=
  s.failOutstandingFutures.stop.map fun s => { s with reconnecting := true }

/-- The continuation of `reconnect()` once every chain has left the closed
gate: a new gate, `conn_ = nullptr`, and `connect()`. -/
def reconnected (s : ClientState) : Option ClientState :=
  if !s.reconnecting || s.dispatchGate.count != 0 then none
  else { s with reconnecting := false, dispatchGate := {}, conn := none }.connect

/-! ## The continuations of `raw_send` -/

/-- The outgoing filters resolved.  A failure fails the future; otherwise
`dispatch_write` starts in the background, and the future waits on the
promise.  On a closed gate `dispatch_write`'s `with_gate` throws inside the
continuation, which fails the future. -/
def outFiltered (s : ClientState) (r : Nat) (res : Option RpcEnvelope) : Option ClientState :=
  match s.sendAt r with
  | some ⟨_, .filtering _⟩ =>
    match res with
    | none => some (s.finishSend r (.error .filter))
    | some e =>
      match s.dispatchGate.enter with
      | none => some (s.finishSend r (.error .gateClosed))
      | some gate =>
        let s : ClientState := { s with dispatchGate := gate, writes := s.writes ++ [⟨e, true⟩] }
        some (s.setSendPhase r .awaiting)
  | _ => none

/-- The promise resolved: a value goes on to the incoming filters, an
exception fails the future. -/
def replied (s : ClientState) (r : Nat) : Option ClientState :=
  match s.sendAt r with
  | some ⟨some w, .awaiting⟩ =>
    match (s.workItem w).pr with
    | .pending => none
    | .value none => some (s.finishSend r (.ok none))
    | .value (some ctx) => some (s.setSendPhase r (.incoming ctx))
    | .failed err => some (s.finishSend r (.error err))
  | _ => none

/-- The incoming filters resolved.  A reply that still names a compression
fails the future. -/
def inFiltered (s : ClientState) (r : Nat) (res : Option RpcRecvContext) : Option ClientState :=
  match s.sendAt r with
  | some ⟨_, .incoming _⟩ =>
    match res with
    | none => some (s.finishSend r (.error .filter))
    | some ctx =>
      if ctx.header.compression ≠ CompressionFlags.none.toInt8 then
        some (s.finishSend r (.error (.compression ctx.header.compression)))
      else some (s.finishSend r (.ok (some ctx)))
  | _ => none

/-- `rpc_envelope::send` on `conn_->ostream` resolved.  A failed write, or
one on an output that was shut down, runs `fail_outstanding_futures`; then
the chain leaves the gate. -/
def written (s : ClientState) (w : Nat) (ok : Bool) : Option ClientState :=
  match s.writes[w]?, s.conn with
  | some ⟨e, true⟩, some g =>
    let s := if ok && !(s.connAt g).outputClosed then
        s.modifyConn g fun c => { c with output := c.output ++ e.send }
      else s.failOutstandingFutures
    some { s with writes := s.writes.set w ⟨e, false⟩, dispatchGate := s.dispatchGate.leave }
  | _, _ => none

/-! ## `do_reads` and `process_one_request` -/

/-- The condition of `do_until`: on a `conn_` that is not valid the loop's
future resolves and it leaves the gate; otherwise `process_one_request()`
starts on `conn_`. -/
def loopCheck (s : ClientState) (l : Nat) : Option ClientState :=
  if s.loop l != .check then none
  else
    match s.conn with
    | some g =>
      if (s.connAt g).isValid then
        some { s.setLoop l (.reading s.readers.length) with
          readers := s.readers ++ [⟨g, l, .header⟩] }
      else some { s.setLoop l .done with dispatchGate := s.dispatchGate.leave }
    | none => some { s.setLoop l .done with dispatchGate := s.dispatchGate.leave }

/-- `with_timeout` fired: the loop's future fails, `handle_exception` runs
`fail_outstanding_futures`, and the loop leaves the gate.  The reader is not
cancelled. -/
def readTimeout (s : ClientState) (l : Nat) : Option ClientState :=
  match s.loop l with
  | .reading _ =>
    let s := s.failOutstandingFutures.setLoop l .done
    some { s with dispatchGate := s.dispatchGate.leave }
  | _ => none

/-- `parse_header` resolved on the captured connection. -/
def headerRead (s : ClientState) (r : Nat) : Option ClientState :=
  match s.readerAt r with
  | some ⟨g, l, .header⟩ =>
    match (s.connAt g).readExactly kHeaderSize with
    | none => none
    | some (buf, c) =>
      let s := s.modifyConn g fun _ => c
      match parseHeaderBuffer buf with
      | none => some (s.readFailed r g l "Could not parse header from server")
      | some hdr => some (s.setReadPhase r (.payload hdr))
  | _ => none

section Payload

variable (xxh64 : List UInt8 → UInt64)

/-- `parse_payload` resolved on the captured connection: the promise of the
slot of the reply's session gets the reply, and the slot is erased. -/
def payloadRead (s : ClientState) (r : Nat) : Option ClientState :=
  match s.readerAt r with
  | some ⟨g, l, .payload hdr⟩ =>
    match (s.connAt g).readExactly hdr.size.toNat with
    | none => none
    | some (body, c) =>
      let s := s.modifyConn g fun _ => c
      match parsePayloadBody xxh64 hdr body with
      | none => some (s.readFailed r g l "Could not parse response from server. Bad payload")
      | some ctx =>
        match s.rpcSlots.lookup ctx.session with
        | none => some (s.readFailed r g l "Invalid session")
        | some w =>
          let s := s.setPromise w (.value (some ctx))
          some ({ s with
            readCounter := s.readCounter - 1
            rpcSlots := eraseKey s.rpcSlots ctx.session }.endRead r l)
  | _ => none

end Payload

/-! ## The server's side of a connection -/

/-- Bytes from the server arrive on a connection whose input is open. -/
def serverData (s : ClientState) (g : Nat) (bytes : List UInt8) : Option ClientState :=
  if g < s.conns.length && !(s.connAt g).inputClosed then
    some (s.modifyConn g fun c => { c with input := c.input ++ bytes })
  else none

/-- The server closes a connection. -/
def serverClose (s : ClientState) (g : Nat) : Option ClientState :=
  if g < s.conns.length then some (s.modifyConn g fun c => { c with inputClosed := true })
  else none

end ClientState

/-- What resumes the client next. -/
inductive ClientEvent where
  | connect
  | send (e : RpcEnvelope)
  | outFiltered (r : Nat) (res : Option RpcEnvelope)
  | written (w : Nat) (ok : Bool)
  | replied (r : Nat)
  | inFiltered (r : Nat) (res : Option RpcRecvContext)
  | loopCheck (l : Nat)
  | readTimeout (l : Nat)
  | headerRead (r : Nat)
  | payloadRead (r : Nat)
  | serverData (g : Nat) (bytes : List UInt8)
  | serverClose (g : Nat)
  | stop
  | reconnect
  | reconnected
  deriving DecidableEq, Repr

namespace ClientState

variable (xxh64 : List UInt8 → UInt64)

/-- The call or continuation an event resumes. -/
def step (s : ClientState) : ClientEvent → Option ClientState
  | .connect => s.connect
  | .send e => some (s.send e)
  | .outFiltered r res => s.outFiltered r res
  | .written w ok => s.written w ok
  | .replied r => s.replied r
  | .inFiltered r res => s.inFiltered r res
  | .loopCheck l => s.loopCheck l
  | .readTimeout l => s.readTimeout l
  | .headerRead r => s.headerRead r
  | .payloadRead r => s.payloadRead xxh64 r
  | .serverData g bytes => s.serverData g bytes
  | .serverClose g => s.serverClose g
  | .stop => s.stop
  | .reconnect => s.reconnect
  | .reconnected => s.reconnected

end ClientState

end Smf
