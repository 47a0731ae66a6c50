import SmfRpc.Lib.Trace
import SmfRpc.Wire.Header

/-!
# `rpc_filter_apply`

`src/include/smf/rpc_filter.h`: the filters of a vector applied one after the
other, each to the value the one before resolved to.  The same template runs
the incoming filters (on an `rpc_recv_context`) and the outgoing ones (on an
`rpc_envelope`), of the client and of the server.

A filter answers a `seastar::future`; the model takes the future as any monad
`m`, with `.then` as its bind, so the chain is the monad's left fold
(`rpcFilterApply_eq_foldlM`).  In the monad of a future that can fail and whose
filters write their position to a log (`Trace`), the chain runs every filter
once, in order, and stops at the first that fails
(`filter_chain_runs_in_order`).
-/

namespace Smf

/-- `rpc_filter_apply(b, end, arg)`, over the filters of `[b, end)`; the
overload on a container runs it over the whole vector. -/
def rpcFilterApply {m : Type → Type} [Monad m] {α : Type} : List (α → m α) → α → m α
  | [], arg => pure arg
  | f :: fs, arg => f arg >>= fun a => rpcFilterApply fs a

theorem rpcFilterApply_eq_foldlM {m : Type → Type} [Monad m] {α : Type} (fs : List (α → m α))
    (x : α) : rpcFilterApply fs x = fs.foldlM (fun a f => f a) x := by
  induction fs generalizing x with
  | nil => rfl
  | cons f fs ih =>
    rw [rpcFilterApply, List.foldlM_cons]
    simp only [ih]

namespace RpcClient

variable {m : Type → Type} [Monad m]

/-- `rpc_client::apply_incoming_filters`. -/
def applyIncomingFilters (inFilters : List (RpcRecvContext → m RpcRecvContext))
    (ctx : RpcRecvContext) : m RpcRecvContext :=
  rpcFilterApply inFilters ctx

/-- `rpc_client::apply_outgoing_filters`. -/
def applyOutgoingFilters (outFilters : List (RpcEnvelope → m RpcEnvelope)) (e : RpcEnvelope) :
    m RpcEnvelope :=
  rpcFilterApply outFilters e

end RpcClient

namespace RpcServer

variable {m : Type → Type} [Monad m]

/-- `rpc_server::apply_incoming_filters`. -/
def applyIncomingFilters (inFilters : List (RpcRecvContext → m RpcRecvContext))
    (ctx : RpcRecvContext) : m RpcRecvContext :=
  rpcFilterApply inFilters ctx

/-- `rpc_server::apply_outgoing_filters`. -/
def applyOutgoingFilters (outFilters : List (RpcEnvelope → m RpcEnvelope)) (e : RpcEnvelope) :
    m RpcEnvelope :=
  rpcFilterApply outFilters e

end RpcServer

/-- In every monad the chain is the left fold of the filters.  With futures
that fail and filters that log their position: when every filter resolves,
each ran once, in order, and the chain resolves to the fold; when one fails,
the filters before it resolved, the chain fails with its exception, and no
filter after it ran. -/
theorem filter_chain_runs_in_order :
    (∀ (m : Type → Type) [Monad m] (α : Type) (fs : List (α → m α)) (x : α),
      rpcFilterApply fs x = fs.foldlM (fun a f => f a) x) ∧
    ∀ (α ε : Type) (gs : List (α → Except ε α)) (x : α),
      (∀ y, gs.foldlM (fun a g => g a) x = .ok y →
        (rpcFilterApply (Trace.tagFrom 0 gs) x).run.run [] = (.ok y, List.range gs.length)) ∧
      (∀ e, gs.foldlM (fun a g => g a) x = .error e →
        ∃ i g y, gs[i]? = some g ∧ (gs.take i).foldlM (fun a g => g a) x = .ok y ∧
          g y = .error e ∧
          (rpcFilterApply (Trace.tagFrom 0 gs) x).run.run [] = (.error e, List.range (i + 1))) := by
  refine ⟨fun m _ α fs x => rpcFilterApply_eq_foldlM fs x, fun α ε gs x => ⟨?_, ?_⟩⟩
  · intro y hy
    rw [rpcFilterApply_eq_foldlM, Trace.run_foldlM_tagFrom, hy, Trace.invoked_of_ok hy,
      List.nil_append, List.range_eq_range']
  · intro e he
    obtain ⟨i, g, y, hi, hpre, hg, hinv⟩ := Trace.exists_first_error he
    refine ⟨i, g, y, hi, hpre, hg, ?_⟩
    rw [rpcFilterApply_eq_foldlM, Trace.run_foldlM_tagFrom, he, hinv, List.nil_append,
      List.range_eq_range']

end Smf
