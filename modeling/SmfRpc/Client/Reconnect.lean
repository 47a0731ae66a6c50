import SmfRpc.Client.Slots

/-!
# A reader left behind by a reconnect

`do_reads` runs `process_one_request()` under `with_timeout`.  When the
timeout fires, the loop's future fails, `handle_exception` runs
`fail_outstanding_futures()`, and the loop leaves `dispatch_gate_`; the
`process_one_request` chain goes on reading, outside the gate.  `reconnect()`
waits for the gate only, so the new connection can be up while that chain
still waits on the old one.

The continuations of `process_one_request` captured the old `conn`, but on an
error they call `this->fail_outstanding_futures()`, which reads `conn_` and
`rpc_slots_` as they are when it runs.  `headerRead_fails_current` says what
that does from any state: a stale reader whose header read fails shuts down
whatever connection `conn_` now is and fails every slot, those of the new
connection's requests included.  `stale_reader_fails_new_connection` runs a
client there: a timeout, a reconnect, one request on the new connection, and
the old reader's header read on the old connection, whose input the timeout
shut down.
-/

namespace Smf

open Rpc Semaphore RpcRecvContext AssocList

namespace ClientState

/-! ## The connections -/

theorem connAt_modifyConn (s : ClientState) (g : Nat) (f : RpcConnection → RpcConnection)
    (g' : Nat) :
    (s.modifyConn g f).connAt g' =
      if g = g' ∧ g < s.conns.length then f (s.connAt g) else s.connAt g' := by
  by_cases h : g = g' ∧ g < s.conns.length
  · obtain ⟨rfl, hlt⟩ := h
    simp [connAt, modifyConn, List.getD_eq_getElem?_getD, hlt]
  · rw [if_neg h]
    by_cases hg : g = g'
    · subst hg
      have hge : s.conns.length ≤ g := by omega
      simp [connAt, modifyConn, List.getD_eq_getElem?_getD, List.getElem?_eq_none hge]
    · simp [connAt, modifyConn, List.getD_eq_getElem?_getD, hg]

/-- Only a connection the client made can be valid: the default one is not
enabled. -/
theorem lt_of_isValid {s : ClientState} {g : Nat} (h : (s.connAt g).isValid = true) :
    g < s.conns.length := by
  by_contra hge
  rw [connAt, List.getD_eq_getElem?_getD, List.getElem?_eq_none (by omega)] at h
  cases h

@[simp] theorem disableConn_conn (s : ClientState) : s.disableConn.conn = s.conn := by
  unfold disableConn; split <;> (try split) <;> rfl

@[simp] theorem conn_failOutstandingFutures (s : ClientState) :
    s.failOutstandingFutures.conn = s.conn := by
  unfold failOutstandingFutures
  show (List.foldl _ s.disableConn s.disableConn.rpcSlots).conn = _
  rw [foldl_setPromise]
  exact disableConn_conn s

theorem connAt_failOutstandingFutures (s : ClientState) (g : Nat) :
    s.failOutstandingFutures.connAt g = s.disableConn.connAt g := by
  unfold failOutstandingFutures
  show (List.foldl _ s.disableConn s.disableConn.rpcSlots).connAt g = _
  rw [foldl_setPromise]
  rfl

@[simp] theorem conns_endRead (s : ClientState) (r l : Nat) : (s.endRead r l).conns = s.conns := by
  unfold endRead; dsimp only; split <;> rfl

@[simp] theorem conn_endRead (s : ClientState) (r l : Nat) : (s.endRead r l).conn = s.conn := by
  unfold endRead; dsimp only; split <;> rfl

theorem workItem_endRead (s : ClientState) (r l w : Nat) :
    (s.endRead r l).workItem w = s.workItem w :=
  workItem_congr s (endRead_workItems s r l) w

/-! ## A stale reader -/

/-- A reader whose header read fails, on a connection other than `conn_`,
shuts `conn_` down and fails the promise of every slot. -/
theorem headerRead_fails_current {s : ClientState} (hs : SlotsWellFormed s) {r g l g' : Nat}
    (hr : s.readerAt r = some ⟨g, l, .header⟩) (hin : (s.connAt g).inputClosed = true)
    (hlen : (s.connAt g).input.length < kHeaderSize)
    (hc : s.conn = some g') (hne : g ≠ g') (hv : (s.connAt g').isValid = true) :
    ∃ s', s.headerRead r = some s' ∧ s'.conn = some g' ∧
      s'.connAt g' = (s.connAt g').shutdown ∧ s'.rpcSlots = [] ∧
      ∀ k w, (k, w) ∈ s.rpcSlots → (s'.workItem w).pr = .failed .remoteConnectionError := by
  -- the read answers what is left of the closed input, too short for a header
  have hread : (s.connAt g).readExactly kHeaderSize =
      some ((s.connAt g).input, { s.connAt g with input := [], eof := true }) := by
    simp [RpcConnection.readExactly, hin, Nat.not_le.mpr hlen]
  have hparse : parseHeaderBuffer (s.connAt g).input = none := by
    simp [parseHeaderBuffer, Nat.ne_of_gt hlen]
  set t := s.modifyConn g fun _ => { s.connAt g with input := [], eof := true } with ht
  set u := t.modifyConn g (·.setError "Could not parse header from server") with hu
  have hvu : (u.connAt g').isValid = true := by
    rw [hu, ht, connAt_modifyConn, if_neg (fun h => hne h.1), connAt_modifyConn,
      if_neg (fun h => hne h.1)]
    exact hv
  have hlt : g' < u.conns.length := lt_of_isValid hvu
  refine ⟨u.failOutstandingFutures.endRead r l, ?_, ?_, ?_, ?_, fun k w hkw => ?_⟩
  · simp only [headerRead, hr, hread, hparse, readFailed]
    rfl
  · rw [conn_endRead, conn_failOutstandingFutures]
    exact hc
  · show (u.failOutstandingFutures.endRead r l).connAt g' = _
    simp only [connAt, conns_endRead]
    rw [← connAt, connAt_failOutstandingFutures]
    have hcu : u.conn = some g' := hc
    simp only [disableConn, hcu, hvu, if_true]
    rw [connAt_modifyConn, if_pos ⟨rfl, hlt⟩, hu, ht, connAt_modifyConn,
      if_neg (fun h => hne h.1), connAt_modifyConn, if_neg (fun h => hne h.1)]
    rfl
  · simp
  · rw [workItem_endRead]
    exact pr_failOutstandingFutures_of_mem u (List.mem_map.mpr ⟨_, hkw, rfl⟩) (hs.item k w hkw).1

/-- `connect()`, a `do_reads` loop that starts reading and times out,
`reconnect()` until the new connection is up, and one `send` on it whose
filters pass. -/
def staleReaderRun (e : RpcEnvelope) : List ClientEvent :=
  [.connect, .loopCheck 0, .readTimeout 0, .reconnect, .reconnected, .send e, .outFiltered 0 (some e)]

/-- After a timeout and a reconnect, reader 0 still reads the first
connection, whose input the timeout shut down.  Its header read fails, and
its `fail_outstanding_futures()` shuts down the new connection and fails the
request made on it. -/
theorem stale_reader_fails_new_connection (xxh64 : List UInt8 → UInt64) (e : RpcEnvelope) :
    ∃ s s', Run.run (step xxh64) init (staleReaderRun e) = some s ∧
      s.step xxh64 (.headerRead 0) = some s' ∧
      s.conn = some 1 ∧ (s.readerAt 0).map (·.conn) = some 0 ∧ (s.connAt 1).isValid = true ∧
      s.rpcSlots = [(1, 0)] ∧ (s.workItem 0).pr = .pending ∧
      (s'.connAt 1).isValid = false ∧ s'.rpcSlots = [] ∧
      (s'.workItem 0).pr = .failed .remoteConnectionError := by
  -- the run up to the stale read, evaluated
  have hpre : (Run.run (step xxh64) init (staleReaderRun e)).map (fun s =>
      (s.conn, s.readerAt 0, (s.connAt 0).inputClosed, (s.connAt 0).input, (s.connAt 1).isValid,
        s.rpcSlots, (s.workItem 0).pr)) =
      some (some 1, some ⟨0, 0, .header⟩, true, [], true, [(1, 0)], .pending) := rfl
  obtain ⟨s, hrun, hview⟩ := Option.map_eq_some_iff.mp hpre
  simp only [Prod.mk.injEq] at hview
  obtain ⟨hc, hr, hin, hinput, hv, hslots, hpr⟩ := hview
  have hs := slotsWellFormed_reachable xxh64 (Run.Reachable.run (step xxh64) .init hrun)
  -- the read of reader 0 on the first connection fails
  obtain ⟨s', h, -, hconn, hslots', hfail⟩ :=
    headerRead_fails_current hs hr hin (by rw [hinput]; decide) hc (by decide) hv
  refine ⟨s, s', hrun, h, hc, by rw [hr]; rfl, hv, hslots, hpr, ?_, hslots', ?_⟩
  · rw [hconn, RpcConnection.isValid_shutdown]
  · exact hfail 1 0 (by rw [hslots]; exact List.mem_singleton_self _)

end ClientState

end Smf
