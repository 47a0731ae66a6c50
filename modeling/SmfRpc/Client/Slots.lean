import SmfRpc.Client.Step

/-!
# The session slots of `rpc_client`

`rpc_slots_` maps a session to the work item whose promise the reply of that
session completes.  Every step changes the slots and the work items in one of
four ways (`SlotEffect`): not at all, all at once by
`fail_outstanding_futures`, by the store of `raw_send`, or by the delivery of
one reply in `process_one_request`.

From that, for every reachable state (`slotsWellFormed_reachable`): the
sessions of the slots are distinct, and each slot holds a work item of its
own session whose promise is still pending.  So a promise is set at most once
(`pr_stable_run`), and a reply only completes a promise whose work item has
the reply's session (`delivered_session`).

What the map does not give is that the slots are exactly the requests whose
future is still pending.  The slot is stored before the outgoing filters run,
and nothing erases it when they fail (`outFiltered_none`); once `session_idx_`
comes round to that session again, `insert` keeps the stale entry and the new
request gets no slot, so nothing will ever complete or fail its promise
(`stranded_run`).
-/

namespace Smf

open Rpc Semaphore AssocList

namespace ClientState

/-! ## Promises and work items -/

theorem workItem_setPromise_of_ne (s : ClientState) {v w : Nat} (h : v ≠ w) (p : Promise) :
    (s.setPromise v p).workItem w = s.workItem w := by
  simp [workItem, setPromise, List.getD_eq_getElem?_getD, h]

theorem workItem_setPromise_self (s : ClientState) {w : Nat} (h : w < s.workItems.length)
    (p : Promise) : (s.setPromise w p).workItem w = { s.workItem w with pr := p } := by
  simp [workItem, setPromise, List.getD_eq_getElem?_getD, h]

@[simp] theorem length_setPromise (s : ClientState) (w : Nat) (p : Promise) :
    (s.setPromise w p).workItems.length = s.workItems.length := by
  simp [setPromise]

/-- Failing the promises of a list of slots only changes the work items. -/
theorem foldl_setPromise (slots : List (UInt16 × Nat)) (p : Promise) (s : ClientState) :
    slots.foldl (fun s slot => s.setPromise slot.2 p) s =
      { s with workItems := (slots.foldl (fun s slot => s.setPromise slot.2 p) s).workItems } := by
  induction slots generalizing s with
  | nil => rfl
  | cons slot slots ih => exact ih (s.setPromise slot.2 p)

/-- Setting a promise changes that work item's promise and nothing else. -/
theorem workItem_setPromise_cases (s : ClientState) (v w : Nat) (p : Promise) :
    (s.setPromise v p).workItem w = s.workItem w ∨
      v = w ∧ (s.setPromise v p).workItem w = { s.workItem w with pr := p } := by
  by_cases hvw : v = w
  · subst hvw
    by_cases hlt : v < s.workItems.length
    · exact Or.inr ⟨rfl, workItem_setPromise_self s hlt p⟩
    · left
      simp [workItem, setPromise, List.getD_eq_getElem?_getD, hlt]
  · exact Or.inl (workItem_setPromise_of_ne s hvw p)

/-- Setting the promises of a list of slots changes the promises of their
work items and nothing else. -/
theorem workItem_foldl_setPromise_cases (slots : List (UInt16 × Nat)) (p : Promise)
    (s : ClientState) (w : Nat) :
    (slots.foldl (fun s slot => s.setPromise slot.2 p) s).workItem w = s.workItem w ∨
      w ∈ slots.map (·.2) ∧
        (slots.foldl (fun s slot => s.setPromise slot.2 p) s).workItem w =
          { s.workItem w with pr := p } := by
  induction slots generalizing s with
  | nil => exact Or.inl rfl
  | cons slot slots ih =>
    rw [List.foldl_cons]
    -- the head slot first, then the others
    rcases workItem_setPromise_cases s slot.2 w p with h1 | ⟨hv, h1⟩ <;>
      rcases ih (s.setPromise slot.2 p) with h2 | ⟨hm, h2⟩
    · exact Or.inl (h2.trans h1)
    · exact Or.inr ⟨List.mem_cons_of_mem _ hm, by rw [h2, h1]⟩
    · exact Or.inr ⟨by simp [hv], by rw [h2, h1]⟩
    · exact Or.inr ⟨List.mem_cons_of_mem _ hm, by rw [h2, h1]⟩

theorem workItem_foldl_setPromise_of_mem (slots : List (UInt16 × Nat)) (p : Promise)
    (s : ClientState) {w : Nat} (hw : w ∈ slots.map (·.2)) (hlt : w < s.workItems.length) :
    (slots.foldl (fun s slot => s.setPromise slot.2 p) s).workItem w = { s.workItem w with pr := p } := by
  induction slots generalizing s with
  | nil => simp at hw
  | cons slot slots ih =>
    rw [List.foldl_cons]
    by_cases hrest : w ∈ slots.map (·.2)
    · -- a later slot of the same work item sets the same promise again
      rw [ih _ hrest (by rwa [length_setPromise])]
      rcases workItem_setPromise_cases s slot.2 w p with h1 | ⟨_, h1⟩ <;> rw [h1]
    · have hv : slot.2 = w := by
        simp only [List.map_cons, List.mem_cons] at hw
        exact (hw.resolve_right hrest).symm
      rw [workItem_foldl_setPromise_cases slots p _ w |>.resolve_right fun h => hrest h.1, hv,
        workItem_setPromise_self s hlt]

theorem length_foldl_setPromise (slots : List (UInt16 × Nat)) (p : Promise) (s : ClientState) :
    (slots.foldl (fun s slot => s.setPromise slot.2 p) s).workItems.length = s.workItems.length := by
  induction slots generalizing s with
  | nil => rfl
  | cons slot slots ih => rw [List.foldl_cons, ih, length_setPromise]

/-! ## `fail_outstanding_futures` -/

section Fail

variable (s : ClientState)

@[simp] theorem disableConn_rpcSlots : s.disableConn.rpcSlots = s.rpcSlots := by
  unfold disableConn; split <;> (try split) <;> rfl

@[simp] theorem disableConn_workItems : s.disableConn.workItems = s.workItems := by
  unfold disableConn; split <;> (try split) <;> rfl

@[simp] theorem failOutstandingFutures_rpcSlots : s.failOutstandingFutures.rpcSlots = [] := rfl

@[simp] theorem length_failOutstandingFutures :
    s.failOutstandingFutures.workItems.length = s.workItems.length := by
  unfold failOutstandingFutures
  rw [length_foldl_setPromise, disableConn_workItems]

/-- `fail_outstanding_futures` fails the promises of the work items of the
slots and changes no other work item. -/
theorem workItem_failOutstandingFutures_cases (w : Nat) :
    s.failOutstandingFutures.workItem w = s.workItem w ∨
      w ∈ s.rpcSlots.map (·.2) ∧
        s.failOutstandingFutures.workItem w =
          { s.workItem w with pr := .failed .remoteConnectionError } := by
  have h := workItem_foldl_setPromise_cases s.disableConn.rpcSlots
    (.failed .remoteConnectionError) s.disableConn w
  have hw := workItem_congr s (disableConn_workItems s) w
  have he : s.failOutstandingFutures.workItem w =
      (s.rpcSlots.foldl (fun s slot => s.setPromise slot.2 (.failed .remoteConnectionError))
        s.disableConn).workItem w := by
    show (List.foldl _ s.disableConn s.disableConn.rpcSlots).workItem w = _
    rw [disableConn_rpcSlots]
  rw [hw, disableConn_rpcSlots] at h
  rw [he]
  exact h

/-- `fail_outstanding_futures` fails the promise of every slot. -/
theorem pr_failOutstandingFutures_of_mem {w : Nat} (hw : w ∈ s.rpcSlots.map (·.2))
    (hlt : w < s.workItems.length) :
    (s.failOutstandingFutures.workItem w).pr = .failed .remoteConnectionError := by
  have hlt' : w < s.disableConn.workItems.length := by rwa [disableConn_workItems]
  have hw' : w ∈ s.disableConn.rpcSlots.map (·.2) := by rwa [disableConn_rpcSlots]
  have := workItem_foldl_setPromise_of_mem s.disableConn.rpcSlots
    (.failed .remoteConnectionError) s.disableConn hw' hlt'
  exact congrArg WorkItem.pr this

theorem workItem_failOutstandingFutures {w : Nat} (hw : w ∉ s.rpcSlots.map (·.2)) :
    s.failOutstandingFutures.workItem w = s.workItem w :=
  (workItem_failOutstandingFutures_cases s w).resolve_right fun h => hw h.1

end Fail

/-! ## What one step does to the slots -/

/-- How one step changes the slots and the work items. -/
inductive SlotEffect (s s' : ClientState) : Prop where
  /-- Neither changes. -/
  | frame (hs : s'.rpcSlots = s.rpcSlots) (hw : s'.workItems = s.workItems)
  /-- `fail_outstanding_futures` ran: no slot is left, and only the work items
  of the slots changed. -/
  | cleared (hs : s'.rpcSlots = []) (hl : s'.workItems.length = s.workItems.length)
      (hw : ∀ w, s'.workItem w = s.workItem w ∨ w ∈ s.rpcSlots.map (·.2) ∧
        s'.workItem w = { s.workItem w with pr := .failed .remoteConnectionError })
  /-- `raw_send` made a work item for the next session and stored it unless
  the session has a slot. -/
  | stored (hs : s'.rpcSlots = insertIfAbsent s.rpcSlots (s.sessionIdx + 1) s.workItems.length)
      (hw : s'.workItems = s.workItems ++ [⟨s.sessionIdx + 1, .pending⟩])
  /-- A reply completed the promise of the slot of its session, and the slot
  was erased. -/
  | delivered (w : Nat) (ctx : RpcRecvContext) (hl : s.rpcSlots.lookup ctx.session = some w)
      (hs : s'.rpcSlots = eraseKey s.rpcSlots ctx.session)
      (hw : s'.workItems = (s.setPromise w (.value (some ctx))).workItems)

section Effects

variable {s s' : ClientState}

@[simp] theorem endRead_rpcSlots (s : ClientState) (r l : Nat) :
    (s.endRead r l).rpcSlots = s.rpcSlots := by
  unfold endRead; dsimp only; split <;> rfl

@[simp] theorem endRead_workItems (s : ClientState) (r l : Nat) :
    (s.endRead r l).workItems = s.workItems := by
  unfold endRead; dsimp only; split <;> rfl

/-- A step that ends in `fail_outstanding_futures` on a state with the same
slots and work items as `s`. -/
theorem SlotEffect.of_fail {t : ClientState} (ht : t.rpcSlots = s.rpcSlots ∧ t.workItems = s.workItems)
    (hs : s'.rpcSlots = []) (hw : s'.workItems = t.failOutstandingFutures.workItems) :
    SlotEffect s s' := by
  refine .cleared hs (by rw [hw, length_failOutstandingFutures, ht.2]) fun w => ?_
  rw [workItem_congr _ hw, ← workItem_congr _ ht.2, ← ht.1]
  exact workItem_failOutstandingFutures_cases t w

theorem slotEffect_readFailed (s : ClientState) (r g l : Nat) (msg : String) :
    SlotEffect s (s.readFailed r g l msg) :=
  SlotEffect.of_fail (t := s.modifyConn g (·.setError msg)) ⟨rfl, rfl⟩ (endRead_rpcSlots _ r l)
    (endRead_workItems _ r l)

theorem slotEffect_connect (h : s.connect = some s') : SlotEffect s s' := by
  unfold connect at h
  split at h
  · cases h
  · dsimp only at h
    split at h <;> (cases h; exact .frame rfl rfl)

theorem slotEffect_send (e : RpcEnvelope) : SlotEffect s (s.send e) := by
  unfold send
  split
  · exact .frame rfl rfl
  · split
    · exact .frame rfl rfl
    · rename_i t ht
      unfold rawSend at ht
      split at ht
      · cases ht
      · cases ht
        exact .stored rfl rfl

/-- Only the slots, the work items and the session of the state before a
step matter to its effect. -/
theorem SlotEffect.congr_left {t : ClientState} (h : SlotEffect t s') (hs : t.rpcSlots = s.rpcSlots)
    (hw : t.workItems = s.workItems) (hi : t.sessionIdx = s.sessionIdx) : SlotEffect s s' := by
  have hwi := workItem_congr s hw
  cases h with
  | frame hs' hw' => exact .frame (hs'.trans hs) (hw'.trans hw)
  | cleared hs' hl hw' =>
    exact .cleared hs' (hl.trans (by rw [hw])) fun w => by
      rw [← hwi w, ← hs]
      exact hw' w
  | stored hs' hw' => exact .stored (by rw [hs', hs, hw, hi]) (by rw [hw', hw, hi])
  | delivered w ctx hl hs' hw' => exact .delivered w ctx (hs ▸ hl) (hs ▸ hs') (hw'.trans (by
      simp only [setPromise, hw]))

theorem slotEffect_outFiltered {r : Nat} {res : Option RpcEnvelope}
    (h : s.outFiltered r res = some s') : SlotEffect s s' := by
  unfold outFiltered at h
  repeat' split at h
  all_goals cases h
  all_goals exact .frame rfl rfl

theorem slotEffect_replied {r : Nat} (h : s.replied r = some s') : SlotEffect s s' := by
  unfold replied at h
  repeat' split at h
  all_goals cases h
  all_goals exact .frame rfl rfl

theorem slotEffect_inFiltered {r : Nat} {res : Option RpcRecvContext}
    (h : s.inFiltered r res = some s') : SlotEffect s s' := by
  unfold inFiltered at h
  repeat' split at h
  all_goals cases h
  all_goals exact .frame rfl rfl

theorem slotEffect_written {w : Nat} {ok : Bool} (h : s.written w ok = some s') :
    SlotEffect s s' := by
  unfold written at h
  split at h
  · cases h
    -- a successful write only appends to the output; a failed one fails the futures
    split
    · exact .frame rfl rfl
    · exact SlotEffect.of_fail (t := s) ⟨rfl, rfl⟩ rfl rfl
  · cases h

theorem slotEffect_loopCheck {l : Nat} (h : s.loopCheck l = some s') : SlotEffect s s' := by
  unfold loopCheck at h
  repeat' split at h
  all_goals cases h
  all_goals exact .frame rfl rfl

theorem slotEffect_readTimeout {l : Nat} (h : s.readTimeout l = some s') : SlotEffect s s' := by
  unfold readTimeout at h
  split at h
  · cases h
    exact SlotEffect.of_fail (t := s) ⟨rfl, rfl⟩ rfl rfl
  · cases h

theorem slotEffect_headerRead {r : Nat} (h : s.headerRead r = some s') : SlotEffect s s' := by
  unfold headerRead at h
  split at h
  · split at h
    · cases h
    · dsimp only at h
      split at h
      · cases h
        exact (slotEffect_readFailed _ _ _ _ _).congr_left rfl rfl rfl
      · cases h
        exact .frame rfl rfl
  · cases h

theorem slotEffect_payloadRead (xxh64 : List UInt8 → UInt64) {r : Nat}
    (h : s.payloadRead xxh64 r = some s') : SlotEffect s s' := by
  unfold payloadRead at h
  split at h
  · split at h
    · cases h
    · dsimp only at h
      split at h
      · cases h
        exact (slotEffect_readFailed _ _ _ _ _).congr_left rfl rfl rfl
      · rename_i ctx _
        split at h
        · cases h
          exact (slotEffect_readFailed _ _ _ _ _).congr_left rfl rfl rfl
        · rename_i w hw
          cases h
          exact .delivered w ctx hw (endRead_rpcSlots _ _ _) (endRead_workItems _ _ _)
  · cases h

theorem slotEffect_serverData {g : Nat} {bytes : List UInt8} (h : s.serverData g bytes = some s') :
    SlotEffect s s' := by
  unfold serverData at h
  split at h
  · cases h
    exact .frame rfl rfl
  · cases h

theorem slotEffect_serverClose {g : Nat} (h : s.serverClose g = some s') : SlotEffect s s' := by
  unfold serverClose at h
  split at h
  · cases h
    exact .frame rfl rfl
  · cases h

theorem slotEffect_stop (h : s.stop = some s') : SlotEffect s s' := by
  obtain ⟨g, -, rfl⟩ := Option.map_eq_some_iff.mp h
  exact SlotEffect.of_fail (t := s) ⟨rfl, rfl⟩ rfl rfl

theorem slotEffect_reconnect (h : s.reconnect = some s') : SlotEffect s s' := by
  obtain ⟨t, ht, rfl⟩ := Option.map_eq_some_iff.mp h
  obtain ⟨g, -, rfl⟩ := Option.map_eq_some_iff.mp ht
  -- `stop()` fails the futures a second time, when no slot is left
  refine .cleared rfl ?_ fun w => ?_
  · exact (length_failOutstandingFutures _).trans (length_failOutstandingFutures s)
  · have h := workItem_failOutstandingFutures s.failOutstandingFutures (w := w) (by simp)
    show s.failOutstandingFutures.failOutstandingFutures.workItem w = _ ∨
      _ ∧ s.failOutstandingFutures.failOutstandingFutures.workItem w = _
    rw [h]
    exact workItem_failOutstandingFutures_cases s w

theorem slotEffect_reconnected (h : s.reconnected = some s') : SlotEffect s s' := by
  unfold reconnected at h
  split at h
  · cases h
  · exact (slotEffect_connect h).congr_left rfl rfl rfl

/-- Every step changes the slots in one of the four ways. -/
theorem slotEffect_step (xxh64 : List UInt8 → UInt64) {e : ClientEvent}
    (h : s.step xxh64 e = some s') : SlotEffect s s' := by
  cases e with
  | connect => exact slotEffect_connect h
  | send e => cases h; exact slotEffect_send e
  | outFiltered r res => exact slotEffect_outFiltered h
  | written w ok => exact slotEffect_written h
  | replied r => exact slotEffect_replied h
  | inFiltered r res => exact slotEffect_inFiltered h
  | loopCheck l => exact slotEffect_loopCheck h
  | readTimeout l => exact slotEffect_readTimeout h
  | headerRead r => exact slotEffect_headerRead h
  | payloadRead r => exact slotEffect_payloadRead xxh64 h
  | serverData g bytes => exact slotEffect_serverData h
  | serverClose g => exact slotEffect_serverClose h
  | stop => exact slotEffect_stop h
  | reconnect => exact slotEffect_reconnect h
  | reconnected => exact slotEffect_reconnected h

end Effects

/-! ## The slots invariant -/

/-- `rpc_slots_` is a map from distinct sessions, each to a work item of its
own that was made for that session and whose promise is still pending. -/
structure SlotsWellFormed (s : ClientState) : Prop where
  nodup_keys : (keys s.rpcSlots).Nodup
  nodup_items : (s.rpcSlots.map (·.2)).Nodup
  item : ∀ k w, (k, w) ∈ s.rpcSlots → w < s.workItems.length ∧ s.workItem w = ⟨k, .pending⟩

theorem slotsWellFormed_init : SlotsWellFormed init :=
  ⟨List.nodup_nil, List.nodup_nil, fun _ _ h => absurd h List.not_mem_nil⟩

/-- Appending work items leaves the earlier ones as they were. -/
theorem workItem_of_append {s t : ClientState} {xs : List WorkItem}
    (h : t.workItems = s.workItems ++ xs) {w : Nat} (hw : w < s.workItems.length) :
    t.workItem w = s.workItem w := by
  simp [workItem, h, List.getD_eq_getElem?_getD, List.getElem?_append_left hw]

theorem workItem_of_append_length {s t : ClientState} {x : WorkItem}
    (h : t.workItems = s.workItems ++ [x]) : t.workItem s.workItems.length = x := by
  simp [workItem, h, List.getD_eq_getElem?_getD]

section Preservation

variable {s s' : ClientState}

theorem SlotsWellFormed.stored (hs : SlotsWellFormed s)
    (hsl : s'.rpcSlots = insertIfAbsent s.rpcSlots (s.sessionIdx + 1) s.workItems.length)
    (hw : s'.workItems = s.workItems ++ [⟨s.sessionIdx + 1, .pending⟩]) : SlotsWellFormed s' := by
  -- the new work item is past every work item a slot holds
  have hfresh : s.workItems.length ∉ s.rpcSlots.map (·.2) := by
    intro hm
    obtain ⟨⟨k, w⟩, hkw, hw'⟩ := List.mem_map.mp hm
    have := (hs.item k w hkw).1
    simp only at hw'
    omega
  by_cases hk : s.sessionIdx + 1 ∈ keys s.rpcSlots
  · rw [insertIfAbsent_of_mem hk] at hsl
    refine ⟨hsl ▸ hs.nodup_keys, hsl ▸ hs.nodup_items, fun k w hkw => ?_⟩
    obtain ⟨hlt, hwk⟩ := hs.item k w (hsl ▸ hkw)
    refine ⟨by rw [hw, List.length_append]; omega, ?_⟩
    rw [workItem_of_append hw hlt, hwk]
  · have hnd := nodup_keys_insertIfAbsent hs.nodup_keys (s.sessionIdx + 1) s.workItems.length
    rw [insertIfAbsent_of_not_mem hk] at hsl hnd
    refine ⟨hsl ▸ hnd, ?_, fun k w hkw => ?_⟩
    · rw [hsl, List.map_append, List.nodup_append]
      refine ⟨hs.nodup_items, List.nodup_singleton _, ?_⟩
      intro a ha b hb hab
      simp only [List.map_cons, List.map_nil, List.mem_singleton] at hb
      subst hab hb
      exact hfresh ha
    · rw [hsl, List.mem_append, List.mem_singleton] at hkw
      rcases hkw with hkw | hkw
      · obtain ⟨hlt, hwk⟩ := hs.item k w hkw
        refine ⟨by rw [hw, List.length_append]; omega, ?_⟩
        rw [workItem_of_append hw hlt, hwk]
      · obtain ⟨rfl, rfl⟩ := Prod.mk.inj hkw
        exact ⟨by rw [hw, List.length_append]; simp, workItem_of_append_length hw⟩

theorem SlotsWellFormed.delivered (hs : SlotsWellFormed s) {w : Nat} {ctx : RpcRecvContext}
    (hl : s.rpcSlots.lookup ctx.session = some w)
    (hsl : s'.rpcSlots = eraseKey s.rpcSlots ctx.session)
    (hw : s'.workItems = (s.setPromise w (.value (some ctx))).workItems) : SlotsWellFormed s' := by
  have hmem : (ctx.session, w) ∈ s.rpcSlots := mem_of_lookup_eq_some hl
  refine ⟨hsl ▸ nodup_keys_eraseKey hs.nodup_keys _,
    hsl ▸ ((eraseKey_sublist _ _).map _).nodup hs.nodup_items, fun k v hkv => ?_⟩
  rw [hsl, mem_eraseKey hs.nodup_keys] at hkv
  obtain ⟨hkv, hne⟩ := hkv
  -- the slot left is another one, so its work item is another one
  have hvw : w ≠ v := by
    rintro rfl
    exact hne (Prod.mk.inj (List.inj_on_of_nodup_map hs.nodup_items hkv hmem rfl)).1
  obtain ⟨hlt, hvk⟩ := hs.item k v hkv
  refine ⟨by rw [hw, length_setPromise]; exact hlt, ?_⟩
  rw [workItem_congr _ hw, workItem_setPromise_of_ne s hvw, hvk]

theorem SlotsWellFormed.effect (hs : SlotsWellFormed s) (h : SlotEffect s s') :
    SlotsWellFormed s' := by
  cases h with
  | frame hsl hw =>
    refine ⟨hsl ▸ hs.nodup_keys, hsl ▸ hs.nodup_items, fun k w hkw => ?_⟩
    rw [hw, workItem_congr _ hw]
    exact hs.item k w (hsl ▸ hkw)
  | cleared hsl _ _ =>
    refine ⟨by simp [hsl, keys], by simp [hsl], fun k w hkw => ?_⟩
    simp [hsl] at hkw
  | stored hsl hw => exact hs.stored hsl hw
  | delivered w ctx hl hsl hw => exact hs.delivered hl hsl hw

end Preservation

/-- Every reachable state keeps the slots well formed. -/
theorem slotsWellFormed_reachable (xxh64 : List UInt8 → UInt64) {s : ClientState}
    (h : Run.Reachable (step xxh64) init s) : SlotsWellFormed s :=
  Run.Reachable.induction_on (step xxh64) slotsWellFormed_init
    (fun _ _ _ hs hstep => hs.effect (slotEffect_step xxh64 hstep)) h

/-! ## Promises are set once, by the reply of their own session -/

theorem lt_of_pr_ne_pending {s : ClientState} {w : Nat} (h : (s.workItem w).pr ≠ .pending) :
    w < s.workItems.length := by
  by_contra hge
  apply h
  rw [workItem, List.getD_eq_getElem?_getD, List.getElem?_eq_none (by omega)]
  rfl

theorem SlotsWellFormed.not_mem_of_pr_ne_pending {s : ClientState} (hs : SlotsWellFormed s)
    {w : Nat} (h : (s.workItem w).pr ≠ .pending) : w ∉ s.rpcSlots.map (·.2) := by
  intro hm
  obtain ⟨⟨k, v⟩, hkv, rfl⟩ := List.mem_map.mp hm
  exact h (by rw [(hs.item k v hkv).2])

/-- A step leaves alone a work item that has its own index and that no slot
holds. -/
theorem workItem_effect_of_not_mem {s s' : ClientState} (h : SlotEffect s s') {w : Nat}
    (hlt : w < s.workItems.length) (hn : w ∉ s.rpcSlots.map (·.2)) :
    w < s'.workItems.length ∧ w ∉ s'.rpcSlots.map (·.2) ∧ s'.workItem w = s.workItem w := by
  cases h with
  | frame hs hw => exact ⟨hw ▸ hlt, hs ▸ hn, workItem_congr _ hw w⟩
  | cleared hs hl hw => exact ⟨hl ▸ hlt, by simp [hs], (hw w).resolve_right fun h => hn h.1⟩
  | stored hs hw =>
    refine ⟨by rw [hw, List.length_append]; omega, fun hm => ?_, ?_⟩
    · -- the only new slot holds the new work item, past `w`
      obtain ⟨⟨k, v⟩, hkv, rfl⟩ := List.mem_map.mp hm
      rcases mem_insertIfAbsent (hs ▸ hkv) with hkv | hkv
      · exact hn (List.mem_map.mpr ⟨_, hkv, rfl⟩)
      · simp only [Prod.mk.injEq] at hkv
        simp only [hkv.2] at hlt
        omega
    · exact workItem_of_append hw hlt
  | delivered v ctx hl hs hw =>
    have hv : v ≠ w := by
      rintro rfl
      exact hn (List.mem_map.mpr ⟨_, mem_of_lookup_eq_some hl, rfl⟩)
    refine ⟨by rw [hw, length_setPromise]; exact hlt, fun hm => hn ?_, ?_⟩
    · rw [hs] at hm
      exact ((eraseKey_sublist _ _).map _).subset hm
    · rw [workItem_congr _ hw, workItem_setPromise_of_ne s hv]

/-- A promise that is set stays as it is. -/
theorem workItem_effect_of_pr_ne_pending {s s' : ClientState} (hs : SlotsWellFormed s)
    (h : SlotEffect s s') {w : Nat} (hw : (s.workItem w).pr ≠ .pending) :
    s'.workItem w = s.workItem w :=
  (workItem_effect_of_not_mem h (lt_of_pr_ne_pending hw) (hs.not_mem_of_pr_ne_pending hw)).2.2

/-- Whatever happens next, a promise that was set keeps its value or its
exception: every promise is set at most once. -/
theorem pr_stable_run (xxh64 : List UInt8 → UInt64) {s s' : ClientState}
    (hr : Run.Reachable (step xxh64) init s) {es : List ClientEvent}
    (h : Run.run (step xxh64) s es = some s') {w : Nat} (hw : (s.workItem w).pr ≠ .pending) :
    s'.workItem w = s.workItem w := by
  have := Run.run_induction (step xxh64)
    (P := fun t => Run.Reachable (step xxh64) init t ∧ t.workItem w = s.workItem w)
    (fun t e t' ⟨ht, hw'⟩ hst => ⟨.step e ht hst, by
      rw [← hw']
      exact workItem_effect_of_pr_ne_pending (slotsWellFormed_reachable xxh64 ht)
        (slotEffect_step xxh64 hst) (hw' ▸ hw)⟩) h ⟨hr, rfl⟩
  exact this.2

/-- A promise completed with a value was completed by a reply whose session
is the session of its work item. -/
theorem delivered_session (xxh64 : List UInt8 → UInt64) {s s' : ClientState}
    (hr : Run.Reachable (step xxh64) init s) {e : ClientEvent} (h : s.step xxh64 e = some s')
    {w : Nat} {r : Option RpcRecvContext} (hp : (s.workItem w).pr = .pending)
    (hv : (s'.workItem w).pr = .value r) :
    ∃ ctx, r = some ctx ∧ ctx.session = (s.workItem w).session := by
  have hs := slotsWellFormed_reachable xxh64 hr
  cases slotEffect_step xxh64 h with
  | delivered v ctx hl _ hw =>
    rcases workItem_setPromise_cases s v w (.value (some ctx)) with h1 | ⟨rfl, h1⟩
    · rw [workItem_congr _ hw, h1, hp] at hv
      cases hv
    · rw [workItem_congr _ hw, h1] at hv
      cases hv
      -- the slot of the reply's session holds this work item
      exact ⟨ctx, rfl, by rw [(hs.item _ _ (mem_of_lookup_eq_some hl)).2]⟩
  | frame hsl hw =>
    rw [workItem_congr _ hw, hp] at hv
    cases hv
  | cleared _ _ hw =>
    rcases hw w with h1 | ⟨_, h1⟩ <;> rw [h1] at hv
    · rw [hp] at hv
      cases hv
    · cases hv
  | stored _ hw =>
    -- a promise that is set lies below the new work item, which is pending
    have hlt : w < s.workItems.length + 1 := by
      have := lt_of_pr_ne_pending (s := s') (by rw [hv]; simp)
      rwa [hw, List.length_append] at this
    rcases Nat.lt_succ_iff_lt_or_eq.mp hlt with hlt | rfl
    · rw [workItem_of_append hw hlt, hp] at hv
      cases hv
    · rw [workItem_of_append_length hw] at hv
      cases hv

end ClientState

end Smf
