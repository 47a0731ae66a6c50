import SmfRpc.Lib.Dispatch
import SmfRpc.Codegen.Schema

/-!
# Routing a request to its method

`rpc_handle_router` (`src/core/rpc_handle_router.cc`) asks the services in
`services_`, in the order `register_service` pushed them, for the handle of a
request id, and answers the first handle one of them gives.  `do_dispatch_rpc`
refuses a request whose id is zero, or for which the router finds no handle.

The services are the classes smfc generates (`src/smfc/cpp_generator.cc`).
Their `method_for_request_id` is `final`, so a subclass routes as generated:
a `switch` with one `case (ServiceID ^ MethodId)` per method, in the order of
the methods, answering that method's entry of `handles_`, which the generated
constructor fills in the same order.  The generated client method sets the
same xor as the request id.  `SmfMethod.requestId` is that xor, for both
sides.

* `getHandleForRequest_router`: over generated services, the router answers
  the first registered method whose request id is asked for, in the order of
  the services and then of their methods.  An earlier method with the same id
  hides a later one, and an id no method has finds no handle.
* `getHandleForRequest_router_of_nodup`: where the ids of the registered
  methods differ, every method is reached by its own id.
* `routes_router`: what `do_dispatch_rpc` asks of this router, whether a
  handle is found, holds exactly of the ids of the registered methods.

A `switch` with two equal labels does not compile: `SmfService.caseLabels`
without duplicates is what makes the generated header a program.  The model
answers the first of equal labels, which the theorems above do not need to
exclude.
-/

namespace Smf

/-- What `rpc_handle_router` reads of an `rpc_service`:
`method_for_request_id`, with `none` for `nullptr`.  `H` stands for the
method handles. -/
structure RpcService (H : Type) where
  methodForRequestId : UInt32 → Option H

/-- An `rpc_handle_router`: `services_`, in the order of registration. -/
structure RpcHandleRouter (H : Type) where
  services : List (RpcService H) := []

namespace RpcHandleRouter

variable {H : Type}

/-- `register_service`: `services_.push_back`. -/
def registerService (r : RpcHandleRouter H) (s : RpcService H) : RpcHandleRouter H :=
  { services := r.services ++ [s] }

/-- `get_handle_for_request`: the loop over `services_`, which returns the
first handle a service gives. -/
def getHandleForRequest (r : RpcHandleRouter H) (requestId : UInt32) : Option H :=
  r.services.findSome? fun p => p.methodForRequestId requestId

/-- What `do_dispatch_rpc` asks of `routes_`: whether a handle is found. -/
def routes (r : RpcHandleRouter H) (requestId : UInt32) : Bool :=
  (r.getHandleForRequest requestId).isSome

/-- A service registered later answers only the ids that no earlier service
answers. -/
theorem getHandleForRequest_registerService (r : RpcHandleRouter H) (s : RpcService H)
    (requestId : UInt32) :
    (r.registerService s).getHandleForRequest requestId =
      (r.getHandleForRequest requestId).or (s.methodForRequestId requestId) := by
  rw [getHandleForRequest, getHandleForRequest, registerService, List.findSome?_append,
    List.findSome?_singleton]

end RpcHandleRouter

end Smf

namespace SmfGen

open Smf

variable [StringUtil]

/-- A method's request id, `method->service_id() ^ method->method_id()`: the
label of its `case` in the generated `method_for_request_id`, and what the
generated client method sets with `e.set_request_id($ServiceID$ ^ $MethodID$)`. -/
def SmfMethod.requestId (m : SmfMethod) : UInt32 := m.serviceId ^^^ m.methodId

namespace SmfService

/-- The labels of the generated `switch(idx)`, one per method, in order. -/
def caseLabels (s : SmfService) : List UInt32 := s.methods.map SmfMethod.requestId

/-- `handles_` as the generated constructor fills it: entry `i` calls
`raw<MethodName>` of method `i` and stamps the request's session on the
reply. -/
def handles (s : SmfService) : List SmfMethod := s.methods

/-- The generated `method_for_request_id(idx)`: `case (ServiceID ^ MethodId):
return &handles_[VectorIdx];` for each method, and `default: return
nullptr;`. -/
def methodForRequestId (s : SmfService) (idx : UInt32) : Option SmfMethod :=
  Dispatch.switchCase s.caseLabels s.handles idx

/-- The generated class, as the router sees it. -/
def rpcService (s : SmfService) : RpcService SmfMethod := ⟨s.methodForRequestId⟩

theorem methodForRequestId_eq (s : SmfService) (idx : UInt32) :
    s.methodForRequestId idx = s.methods.find? (·.requestId == idx) :=
  Dispatch.switchCase_map SmfMethod.requestId s.methods idx

end SmfService

/-- The router of a server that registered the generated classes of these
services, in this order: one `register_service<T>()` each. -/
def router (srvs : List SmfService) : RpcHandleRouter SmfMethod :=
  srvs.foldl (fun r s => r.registerService s.rpcService) {}

theorem services_router (srvs : List SmfService) :
    (router srvs).services = srvs.map SmfService.rpcService := by
  -- the fold pushes one service per step onto what is registered already
  suffices h : ∀ r : RpcHandleRouter SmfMethod,
      (srvs.foldl (fun r s => r.registerService s.rpcService) r).services =
        r.services ++ srvs.map SmfService.rpcService from h {}
  induction srvs with
  | nil => intro r; simp
  | cons s srvs ih =>
    intro r
    rw [List.foldl_cons, ih, RpcHandleRouter.registerService, List.map_cons, List.append_assoc,
      List.singleton_append]

/-- Over generated services, the router looks for the request id among the
methods of all of them, in the order of registration. -/
theorem getHandleForRequest_eq_find (srvs : List SmfService) (requestId : UInt32) :
    (router srvs).getHandleForRequest requestId =
      (srvs.flatMap SmfService.methods).find? (·.requestId == requestId) := by
  rw [RpcHandleRouter.getHandleForRequest, services_router, List.findSome?_map,
    List.find?_flatMap]
  congr 1
  funext s
  exact s.methodForRequestId_eq requestId

theorem flatMap_caseLabels (srvs : List SmfService) :
    srvs.flatMap SmfService.caseLabels = (srvs.flatMap SmfService.methods).map SmfMethod.requestId := by
  rw [List.map_flatMap]
  rfl

theorem getHandleForRequest_eq_some_iff (srvs : List SmfService) (requestId : UInt32)
    (m : SmfMethod) :
    (router srvs).getHandleForRequest requestId = some m ↔
      m.requestId = requestId ∧ ∃ pre post, srvs.flatMap SmfService.methods = pre ++ m :: post ∧
        ∀ m' ∈ pre, m'.requestId ≠ requestId := by
  rw [getHandleForRequest_eq_find, List.find?_eq_some_iff_append]
  simp only [beq_iff_eq, Bool.not_eq_eq_eq_not, Bool.not_true, beq_eq_false_iff_ne]

theorem getHandleForRequest_eq_none_iff (srvs : List SmfService) (requestId : UInt32) :
    (router srvs).getHandleForRequest requestId = none ↔
      requestId ∉ srvs.flatMap SmfService.caseLabels := by
  rw [getHandleForRequest_eq_find, List.find?_eq_none, flatMap_caseLabels, List.mem_map]
  simp only [beq_iff_eq, not_exists, not_and]

/-- The router's answer for a request id: the first registered method with
that id, in the order of the services and then of their methods; none when
no registered method has it. -/
theorem getHandleForRequest_router (srvs : List SmfService) (requestId : UInt32) :
    (∀ m, (router srvs).getHandleForRequest requestId = some m ↔
      m.requestId = requestId ∧ ∃ pre post, srvs.flatMap SmfService.methods = pre ++ m :: post ∧
        ∀ m' ∈ pre, m'.requestId ≠ requestId) ∧
    ((router srvs).getHandleForRequest requestId = none ↔
      requestId ∉ srvs.flatMap SmfService.caseLabels) :=
  ⟨getHandleForRequest_eq_some_iff srvs requestId, getHandleForRequest_eq_none_iff srvs requestId⟩

/-- Where the registered methods have ids that differ, each is reached by its
own id. -/
theorem getHandleForRequest_router_of_nodup {srvs : List SmfService}
    (hd : (srvs.flatMap SmfService.caseLabels).Nodup) {s : SmfService} (hs : s ∈ srvs)
    {m : SmfMethod} (hm : m ∈ s.methods) :
    (router srvs).getHandleForRequest m.requestId = some m := by
  rw [flatMap_caseLabels] at hd
  rw [getHandleForRequest_eq_find]
  exact Dispatch.find?_eq_some_of_nodup hd (List.mem_flatMap.mpr ⟨s, hs, hm⟩)

/-- The router finds a handle exactly for the label of a registered method. -/
theorem routes_router (srvs : List SmfService) (requestId : UInt32) :
    (router srvs).routes requestId = true ↔ requestId ∈ srvs.flatMap SmfService.caseLabels := by
  rw [RpcHandleRouter.routes, Option.isSome_iff_ne_none, ne_eq,
    getHandleForRequest_eq_none_iff, not_not]

end SmfGen
