import SmfRpc.Server.Step

/-!
# Memory admission: `resources_available.wait` against `signal`

`handle_one_client_session` takes `hdr.size()` units of
`limits_->resources_available` after a header parses, and the units are meant
to come back in `dispatch_rpc`: at once when the payload does not parse, or
in the `finally` of the chain inside `reply_gate_`.  Three paths do not get
there.

* The payload read times out: `with_timeout` fails the loop's future, and
  the continuation that calls `dispatch_rpc` never runs.
* `reply_gate_` is closed: `with_gate` throws before it attaches the
  `finally` that signals.
* The size is `2^31` or more: `dispatch_rpc` takes an `int32_t`, so the
  amount it signals is the size minus `2^32`.

`timeout_leaks_units` is the first path on a concrete run.
-/

namespace Smf

open Rpc

/-- The loop holds or waits for units of memory. -/
def SessionPhase.holdsMemory : SessionPhase → Bool
  | .waiting _ | .granted _ | .readingPayload _ => true
  | _ => false

namespace ServerState

/-- No request lies between its header parse and the end of its dispatch: no
loop holds or waits for memory, and every dispatch chain has ended. -/
def Quiescent (s : ServerState) : Bool :=
  s.loops.all (!·.holdsMemory) && s.dispatches.all (·.phase == .done)

/-- The header `00 00 0000 0a000000 01000000 01000000`: a ten-byte payload
is announced and never sent. -/
def tenByteHeader : Header :=
  { compression := 0, bitflags := 0, session := 0, size := 10, checksum := 1, «meta» := 1 }

/-- A client sends a header announcing ten bytes and nothing more.  The ten
units are taken, the payload read times out, and the loop ends; nothing is
left between a header parse and the end of a dispatch, and ten units are
missing from `resources_available`. -/
theorem timeout_leaks_units (xxh64 : List UInt8 → UInt64) (routes : UInt32 → Bool) :
    (Run.run (step xxh64 routes) (init 1048576)
      [.accept, .clientData 0 tenByteHeader.toBytes, .loopCheck 0, .headerRead 0,
        .admitted 0, .payloadTimeout 0]).map
      (fun s => (s.Quiescent, s.resources.count, s.maxMemory)) =
      some (true, 1048566, 1048576) := by
  rw [run_eq_of_ne_payloadRead xxh64 routes (fun _ => 0) (fun _ => true) _ _
    (by simp)]
  decide +kernel

end ServerState

end Smf
