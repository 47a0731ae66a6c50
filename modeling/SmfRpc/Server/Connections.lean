import SmfRpc.Server.Step

/-!
# `active_connections` and `open_connections_`

Three places change `rpc_server_stats::active_connections`: the
`rpc_server_connection` constructor counts up, `cleanup_dispatch_rpc` counts
down when it erases an errored connection from `open_connections_`, and the
destructor counts down when the last `lw_shared_ptr` goes away.  An erased
connection is only held by the chains that are still running on it, so once
they end its destructor runs and the connection is counted down a second
time.

`connection_closed_counted_twice` is the shortest run that shows it: a client
connects and closes without sending a byte.
-/

namespace Smf

namespace ServerState

/-- A client connects and closes its side at once.  `parse_header` meets the
end of the stream, the loop sets the error and ends, `cleanup_dispatch_rpc`
erases the connection and counts it down, and the destructor counts it down
again: the `uint64_t` counter wraps to `2^64 - 1` while `open_connections_` is
empty. -/
theorem connection_closed_counted_twice (xxh64 : List UInt8 → UInt64)
    (routes : UInt32 → Bool) :
    (Run.run (step xxh64 routes) (init 1048576)
      [.accept, .clientClose 0, .loopCheck 0, .headerRead 0, .loopCheck 0]).map
      (fun s => (s.stats.activeConnections, s.openConnections.length)) =
      some (18446744073709551615, 0) := by
  rw [run_eq_of_ne_payloadRead xxh64 routes (fun _ => 0) (fun _ => true) _ _
    (by simp)]
  decide +kernel

end ServerState

end Smf
