import WebSocketSH.Ledger
import WebSocketSH.Wire

/-! Calls across endpoints: a provider endpoint connected to any number of caller
endpoints, each connection carrying frames in order. Ghost state follows every call from
the caller's `call_service`, through its frame, the call handle the provider's dispatch
makes of it and the provider host's reply, back to the response a caller hands to a
client. A response reaches the client of the very call it answers, at most once, as long
as no caller's `size_t` counter comes round to an id it has already given out. -/
namespace WebSocketSH

/-- A host's `call_service` on a caller: the id the caller gave the call, and its client. -/
structure CallRecord where
  caller : Nat
  id : String
  client : ServiceClient
  callHandle : ClientCallHandle
deriving DecidableEq, Repr, Inhabited

/-- A reply of the provider's host, and the call whose request it answers. -/
structure ReplyRecord where
  serial : Nat
  callHandle : CallHandle
  response : DynamicData
deriving DecidableEq, Repr, Inhabited

/-- A response a caller handed to a client, and the call whose reply carried it. -/
structure Delivery where
  caller : Nat
  client : ServiceClient
  callHandle : ClientCallHandle
  response : DynamicData
  serial : Nat
deriving DecidableEq, Repr, Inhabited

/-- The caller's handle for its connection to the provider. -/
def providerLink : ConnectionHandle := ⟨0⟩

/-- The provider's handle for its connection to caller `i`. -/
def callerLink (i : Nat) : ConnectionHandle := ⟨i⟩

/-- The payloads `effects` send on `c`. -/
def sentOn (c : ConnectionHandle) (effects : List Effect) : List String :=
  effects.filterMap fun
    | .send d payload => if d = c then some payload else none
    | _ => none

/-- The responses `effects` hand to clients. -/
def responsesOf (effects : List Effect) : List (ServiceClient × ClientCallHandle × DynamicData) :=
  effects.filterMap fun
    | .response client callHandle response => some (client, callHandle, response)
    | _ => none

/-- The provider, its callers and the connections between them, with the ghost record of
every call (its index is its serial), of each caller's waiting threads, of the call behind
each call handle of the provider, of the replies and of the deliveries. -/
structure World where
  provider : Node
  callers : Nat → Node
  /-- frames in flight from each caller to the provider, oldest first, with their call -/
  toProvider : Nat → List (String × Nat)
  /-- frames in flight from the provider to each caller, with the call they answer -/
  toCaller : Nat → List (String × Nat)
  closed : Nat → Bool
  calls : List CallRecord
  pending : Nat → List Nat
  origins : List Nat
  replies : List ReplyRecord
  deliveries : List Delivery

inductive WorldEvent where
  /-- a host thread of caller `caller` enters `call_service` and runs its locked block -/
  | call (caller : Nat) (service : String) (request : DynamicData) (client : ServiceClient)
      (callHandle : ClientCallHandle)
  /-- the `thread`-th waiting thread of `caller` finishes its `call_service` -/
  | send (caller thread : Nat)
  /-- the provider receives the oldest frame from `caller` -/
  | dispatch (caller : Nat)
  /-- the provider's host replies with the `handle`-th call handle it was given -/
  | reply (handle : Nat) (response : DynamicData)
  /-- `caller` receives the oldest frame from the provider -/
  | deliver (caller : Nat)
  /-- the connection between `caller` and the provider closes, on both sides -/
  | close (caller : Nat)
deriving DecidableEq, Repr

/-- The event is a `call_service` of caller `i`. -/
def WorldEvent.isCallBy (i : Nat) : WorldEvent → Bool
  | .call caller .. => caller = i
  | _ => false

namespace World
variable (enc : Encoding)

def step (w : World) : WorldEvent → Option World
  | .call i service request client callHandle =>
    ((w.callers i).step enc (.callService service request client callHandle)).map fun (next, _) =>
      { w with
        callers := Function.update w.callers i next
        calls := w.calls ++
          [⟨i, toString (w.callers i).endpoint.nextServiceCallId, client, callHandle⟩]
        pending := Function.update w.pending i (w.pending i ++ [w.calls.length]) }
  | .send i thread =>
    ((w.callers i).step enc (.callServiceSend thread)).map fun (next, effects) =>
      let serial := ((w.pending i)[thread]?).getD 0
      { w with
        callers := Function.update w.callers i next
        pending := Function.update w.pending i ((w.pending i).eraseIdx thread)
        toProvider := if w.closed i then w.toProvider else
          Function.update w.toProvider i
            (w.toProvider i ++ (sentOn providerLink effects).map (·, serial)) }
  | .dispatch i =>
    match w.toProvider i with
    | [] => some w
    | (payload, serial) :: rest =>
      match enc.interpretWebsocketMsg payload with
      | none => some { w with toProvider := Function.update w.toProvider i rest }
      | some message =>
        (w.provider.step enc (.frame message (callerLink i))).map fun (next, effects) =>
          { w with
            provider := next
            toProvider := Function.update w.toProvider i rest
            origins := w.origins ++ (handlesOf effects).map fun _ => serial }
  | .reply k response =>
    (w.provider.step enc (.receiveResponse k response)).map fun (next, effects) =>
      let serial := (w.origins[k]?).getD 0
      { w with
        provider := next
        replies := w.replies ++
          ((w.provider.handles[k]?).map fun callHandle => ⟨serial, callHandle, response⟩).toList
        toCaller := fun j => if w.closed j then w.toCaller j else
          w.toCaller j ++ (sentOn (callerLink j) effects).map (·, serial) }
  | .deliver i =>
    match w.toCaller i with
    | [] => some w
    | (payload, serial) :: rest =>
      match enc.interpretWebsocketMsg payload with
      | none => some { w with toCaller := Function.update w.toCaller i rest }
      | some message =>
        ((w.callers i).step enc (.frame message providerLink)).map fun (next, effects) =>
          { w with
            callers := Function.update w.callers i next
            toCaller := Function.update w.toCaller i rest
            deliveries := w.deliveries ++
              (responsesOf effects).map fun (client, callHandle, response) =>
                ⟨i, client, callHandle, response, serial⟩ }
  | .close i =>
    (w.provider.step enc (.closed (callerLink i))).bind fun (provider, _) =>
      ((w.callers i).step enc (.closed providerLink)).map fun (caller, _) =>
        { w with
          provider := provider
          callers := Function.update w.callers i caller
          closed := Function.update w.closed i true
          toProvider := Function.update w.toProvider i []
          toCaller := Function.update w.toCaller i [] }

def run (w : World) (events : List WorldEvent) : Option World :=
  execute (step enc) w events

/-- A world with nothing in flight: no waiting threads, no ledger entries, no call
handles handed out, and every connection open and empty. -/
def start (provider : Node) (callers : Nat → Node) : World :=
  ⟨provider, callers, fun _ => [], fun _ => [], fun _ => false, [], fun _ => [], [], [], []⟩

/-- How many calls caller `i` has made. -/
def count (w : World) (i : Nat) : Nat :=
  w.calls.countP (·.caller = i)

end World

/-- What the bridge needs of an encoding: decoding a call frame recovers the service and
the id written into it, and decoding a response frame recovers the service, the response
and the id. -/
structure Encoding.Faithful (enc : Encoding) : Prop where
  call : ∀ service reqType request id configuration, ∃ decoded,
    enc.interpretWebsocketMsg (enc.encodeCallServiceMsg service reqType request id configuration) =
      some (.callService service decoded id)
  response : ∀ service replyType id response ok,
    enc.interpretWebsocketMsg (enc.encodeServiceResponseMsg service replyType id response ok) =
      some (.serviceResponse service response id)

theorem escaped_response_ne_empty (service replyType id : String) (response : DynamicData)
    (ok : Bool) :
    Encoding.escaped.encodeServiceResponseMsg service replyType id response ok ≠ "" :=
  Wire.frame_ne_empty _ _

theorem escaped_convert (data : DynamicData) : Encoding.escaped.convert data = some data.json :=
  rfl

theorem escaped_faithful : Encoding.escaped.Faithful where
  call _ _ request _ _ := ⟨request, Wire.decode_frame rfl⟩
  response _ _ _ _ _ := Wire.decode_frame rfl

@[simp] theorem mem_sentOn {c : ConnectionHandle} {effects : List Effect} {payload : String} :
    payload ∈ sentOn c effects ↔ Effect.send c payload ∈ effects := by
  simp only [sentOn, List.mem_filterMap]
  constructor
  · rintro ⟨(_ | ⟨d, p⟩ | _ | _ | _), member, found⟩ <;> simp at found
    obtain ⟨rfl, rfl⟩ := found
    exact member
  · intro member
    exact ⟨_, member, by simp⟩

theorem Endpoint.callServiceSend_payload {e : Endpoint} {enc : Encoding} {service id : String}
    {request : DynamicData} {c : ConnectionHandle} {payload : String}
    (sent : Effect.send c payload ∈ e.callServiceSend enc service request id) :
    ∃ reqType configuration,
      payload = enc.encodeCallServiceMsg service reqType request id configuration := by
  unfold Endpoint.callServiceSend at sent
  split at sent
  · simp at sent
  · dsimp only at sent
    split_ifs at sent
    · simp at sent
    · split at sent
      · simp at sent
      · simp only [List.mem_singleton, Effect.send.injEq] at sent
        exact ⟨_, _, sent.2⟩

section Frames
variable {callers : Nat → Node} {next : Node} {i : Nat}

/-- Replacing caller `i` by a node that agrees with it on `proj` leaves `proj` of every
caller as it was. -/
theorem proj_update {γ : Type} (proj : Node → γ) (j : Nat)
    (agrees : proj next = proj (callers i)) :
    proj (Function.update callers i next j) = proj (callers j) := by
  by_cases same : j = i
  · subst same; rw [Function.update_same, agrees]
  · rw [Function.update_noteq same]

/-- Cutting one queue down to part of itself adds no frame to any queue. -/
theorem mem_update_of_subset {α : Type} {queues : Nat → List α} {kept : List α} {x : α}
    {j : Nat} (sub : kept ⊆ queues i) (mem : x ∈ Function.update queues i kept j) :
    x ∈ queues j := by
  by_cases same : j = i
  · subst same; exact sub (by rwa [Function.update_same] at mem)
  · rwa [Function.update_noteq same] at mem

end Frames

namespace World
variable {enc : Encoding} {w w' : World} {c0 : Nat → Nat}

/-- What every run from a quiet start keeps true, for callers whose counters started at
`c0`: each caller's ids are the counter values it went through; the waiting threads, the
frames, the provider's call handles and replies, and the ledgers all point at the calls
they belong to; and every delivery answers its call, once. -/
structure Invariant (enc : Encoding) (c0 : Nat → Nat) (w : World) : Prop where
  counter : ∀ i : Nat, (w.callers i).endpoint.nextServiceCallId = (c0 i + w.count i) % sizeModulus
  window : ∀ call ∈ w.calls,
    ∃ k < w.count call.caller, call.id = toString ((c0 call.caller + k) % sizeModulus)
  unique : ∀ (s t : Nat) (call call' : CallRecord), w.calls[s]? = some call →
    w.calls[t]? = some call' → call.caller = call'.caller → call.id = call'.id → s = t
  pending_length : ∀ i : Nat, (w.pending i).length = (w.callers i).calling.length
  pending_issued : ∀ (i k serial : Nat) (waiting : PendingCall),
    (w.pending i)[k]? = some serial → (w.callers i).calling[k]? = some waiting →
    ∃ call : CallRecord, w.calls[serial]? = some call ∧ call.caller = i ∧ call.id = waiting.id
  to_provider : ∀ (i : Nat) (payload : String) (serial : Nat),
    (payload, serial) ∈ w.toProvider i →
    ∃ call : CallRecord, w.calls[serial]? = some call ∧ call.caller = i ∧
      ∃ service reqType request configuration,
        payload = enc.encodeCallServiceMsg service reqType request call.id configuration
  origins_length : w.origins.length = w.provider.handles.length
  origins_issued : ∀ (k serial : Nat) (callHandle : CallHandle), w.origins[k]? = some serial →
    w.provider.handles[k]? = some callHandle →
    ∃ call : CallRecord, w.calls[serial]? = some call ∧
      callHandle.connectionHandle = callerLink call.caller ∧ callHandle.id = call.id
  replies_issued : ∀ reply ∈ w.replies,
    ∃ call : CallRecord, w.calls[reply.serial]? = some call ∧
      reply.callHandle.connectionHandle = callerLink call.caller ∧ reply.callHandle.id = call.id
  to_caller : ∀ (i : Nat) (payload : String) (serial : Nat),
    (payload, serial) ∈ w.toCaller i → ∃ reply ∈ w.replies, reply.serial = serial ∧
      reply.callHandle.connectionHandle = callerLink i ∧
      payload = enc.encodeServiceResponseMsg reply.callHandle.serviceName
        reply.callHandle.replyType reply.callHandle.id reply.response true
  ledger : ∀ (i : Nat) (id : String) (info : ServiceRequestInfo),
    (w.callers i).endpoint.serviceRequestInfo.lookup id = some info →
    ∃ serial, w.calls[serial]? = some ⟨i, id, info.client, info.callHandle⟩ ∧
      serial ∉ w.deliveries.map (·.serial)
  delivered : ∀ d ∈ w.deliveries,
    (∃ id, w.calls[d.serial]? = some ⟨d.caller, id, d.client, d.callHandle⟩) ∧
      ∃ reply ∈ w.replies, reply.serial = d.serial ∧ reply.response = d.response
  once : (w.deliveries.map (·.serial)).Nodup

theorem Invariant.serial_lt (inv : Invariant enc c0 w) {d : Delivery}
    (member : d ∈ w.deliveries) : d.serial < w.calls.length := by
  obtain ⟨⟨_, found⟩, -⟩ := inv.delivered d member
  exact (List.getElem?_eq_some_iff.mp found).1

theorem count_call (i j : Nat) (call : CallRecord) (by_i : call.caller = i) :
    (w.calls ++ [call]).countP (·.caller = j) = w.count j + if i = j then 1 else 0 := by
  subst by_i
  simp [count, List.countP_append, List.countP_cons]

/-- The ids a counter gives out before it comes round are pairwise distinct. -/
theorem counter_ne {start k n : Nat} (before : k < n) (room : n < sizeModulus) :
    toString ((start + k) % sizeModulus) ≠ toString ((start + n) % sizeModulus) := fun same => by
  have equal := toString_injective same
  simp only [sizeModulus] at equal room
  omega

theorem invariant_call {service : String} {request : DynamicData} {client : ServiceClient}
    {callHandle : ClientCallHandle} {i : Nat} (inv : Invariant enc c0 w)
    (room : w.count i < sizeModulus)
    (stepped : w.step enc (.call i service request client callHandle) = some w') :
    Invariant enc c0 w' := by
  simp only [step, Node.step, Option.map_some', Option.some.injEq] at stepped
  subst stepped
  have counted := fun j => count_call (w := w) i j
    ⟨i, toString (w.callers i).endpoint.nextServiceCallId, client, callHandle⟩ rfl
  have fresh : ∀ call ∈ w.calls, call.caller = i →
      call.id ≠ toString (w.callers i).endpoint.nextServiceCallId := by
    rintro call member rfl
    obtain ⟨k, before, named⟩ := inv.window call member
    rw [named, inv.counter]
    exact counter_ne before room
  refine
    { counter := fun j => ?_, window := fun call member => ?_, unique := ?_,
      pending_length := fun j => ?_, pending_issued := ?_,
      to_provider := fun j payload serial mem =>
        exists_getElem?_append (inv.to_provider j payload serial mem),
      origins_length := inv.origins_length,
      origins_issued := fun k serial h found handle =>
        exists_getElem?_append (inv.origins_issued k serial h found handle),
      replies_issued := fun reply mem => exists_getElem?_append (inv.replies_issued reply mem),
      to_caller := inv.to_caller,
      ledger := ?_, delivered := fun d mem => ?_, once := inv.once }
  · simp only [count] at counted ⊢
    rw [counted]
    by_cases same : j = i
    · subst same
      simp only [Function.update_same, Endpoint.callServiceLocked, inv.counter, if_true,
        sizeModulus, count]
      omega
    · simp [Function.update_noteq same, inv.counter, Ne.symm same, count]
  · simp only [count] at counted ⊢
    rw [counted]
    rcases List.mem_append.mp member with old | new
    · obtain ⟨k, before, named⟩ := inv.window call old
      exact ⟨k, by unfold count at before; omega, named⟩
    · simp only [List.mem_singleton] at new
      subst new
      exact ⟨w.count i, by simp [count], by rw [inv.counter]⟩
  · intro s t call call' found found' sameCaller sameId
    rcases getElem?_concat_eq_some found with old | ⟨rfl, rfl⟩ <;>
      rcases getElem?_concat_eq_some found' with old' | ⟨rfl, rfl⟩
    · exact inv.unique s t call call' old old' sameCaller sameId
    · exact absurd sameId (fresh call (List.getElem?_mem old) sameCaller)
    · exact absurd sameId.symm (fresh call' (List.getElem?_mem old') sameCaller.symm)
    · rfl
  · by_cases same : j = i
    · subst same; simp [inv.pending_length]
    · simp [Function.update_noteq same, inv.pending_length j]
  · intro j k serial waiting found found'
    by_cases same : j = i
    · subst same
      simp only [Function.update_same] at found found'
      rcases getElem?_concat_eq_some found with old | ⟨rfl, rfl⟩ <;>
        rcases getElem?_concat_eq_some found' with old' | ⟨same, rfl⟩
      · exact exists_getElem?_append (inv.pending_issued j k serial waiting old old')
      · have := (List.getElem?_eq_some_iff.mp old).1
        rw [inv.pending_length] at this; omega
      · have := (List.getElem?_eq_some_iff.mp old').1
        rw [← inv.pending_length] at this; omega
      · exact ⟨_, List.getElem?_concat_length _ _, rfl, rfl⟩
    · simp only [Function.update_noteq same] at found found'
      exact exists_getElem?_append (inv.pending_issued j k serial waiting found found')
  · intro j id info found
    by_cases same : j = i
    · subst same
      simp only [Function.update_same, Endpoint.callServiceLocked] at found
      by_cases named : id = toString (w.callers j).endpoint.nextServiceCallId
      · subst named
        rw [AList.lookup_insert, Option.some.injEq] at found
        subst found
        refine ⟨w.calls.length, List.getElem?_concat_length _ _, fun delivered => ?_⟩
        obtain ⟨d, member, same⟩ := List.mem_map.mp delivered
        exact absurd same (Nat.ne_of_lt (inv.serial_lt member))
      · rw [AList.lookup_insert_ne named] at found
        obtain ⟨serial, recorded, fresh⟩ := inv.ledger j id info found
        exact ⟨serial, getElem?_append_of_some recorded, fresh⟩
    · simp only [Function.update_noteq same] at found
      obtain ⟨serial, recorded, fresh⟩ := inv.ledger j id info found
      exact ⟨serial, getElem?_append_of_some recorded, fresh⟩
  · obtain ⟨⟨id, recorded⟩, answered⟩ := inv.delivered d mem
    exact ⟨⟨id, getElem?_append_of_some recorded⟩, answered⟩

theorem invariant_send {i thread : Nat} (inv : Invariant enc c0 w)
    (stepped : w.step enc (.send i thread) = some w') : Invariant enc c0 w' := by
  simp only [step, Node.step] at stepped
  cases waiting : (w.callers i).calling[thread]? with
  | none =>
    simp only [waiting, Option.map_some', Option.some.injEq] at stepped
    subst stepped
    have erased : (w.pending i).eraseIdx thread = w.pending i := List.eraseIdx_of_length_le
      (by rw [inv.pending_length]; exact List.getElem?_eq_none_iff.mp waiting)
    convert inv using 1
    cases w
    split <;> simp_all [sentOn]
  | some call =>
    simp only [waiting, Option.map_some', Option.some.injEq] at stepped
    subst stepped
    obtain ⟨serial, pended⟩ : ∃ serial, (w.pending i)[thread]? = some serial :=
      Option.isSome_iff_exists.mp (by
        simp [List.getElem?_eq_some_iff.mp waiting |>.1, inv.pending_length])
    obtain ⟨record, recorded, by_i, named⟩ :=
      inv.pending_issued i thread serial call pended waiting
    simp only [pended, Option.getD_some]
    refine
      { counter := fun j => by rw [proj_update (·.endpoint) j]; exacts [inv.counter j, rfl],
        window := inv.window,
        unique := inv.unique, pending_length := fun j => ?_, pending_issued := ?_,
        to_provider := ?_, origins_length := inv.origins_length,
        origins_issued := inv.origins_issued, replies_issued := inv.replies_issued,
        to_caller := inv.to_caller,
        ledger := fun j => by rw [proj_update (·.endpoint) j]; exacts [inv.ledger j, rfl],
        delivered := inv.delivered, once := inv.once }
    · by_cases same : j = i
      · subst same; simp [List.length_eraseIdx, inv.pending_length]
      · simp [same, inv.pending_length j]
    · intro j k serial' waiting' found found'
      by_cases same : j = i
      · subst same
        simp only [Function.update_same, List.getElem?_eraseIdx] at found found'
        split_ifs at found found'
        · exact inv.pending_issued j k serial' waiting' found found'
        · exact inv.pending_issued j (k + 1) serial' waiting' found found'
      · simp only [Function.update_noteq same] at found found'
        exact inv.pending_issued j k serial' waiting' found found'
    · intro j payload serial' mem
      split at mem
      · exact inv.to_provider j payload serial' mem
      · by_cases same : j = i
        · subst same
          simp only [Function.update_same, List.mem_append, List.mem_map, Prod.mk.injEq,
            mem_sentOn] at mem
          rcases mem with old | ⟨sent, member, rfl, rfl⟩
          · exact inv.to_provider j payload serial' old
          · obtain ⟨reqType, configuration, rfl⟩ := Endpoint.callServiceSend_payload member
            exact ⟨record, recorded, by_i, _, _, _, _, by rw [named]⟩
        · simp only [Function.update_noteq same] at mem
          exact inv.to_provider j payload serial' mem

theorem invariant_dispatch {i : Nat} (faithful : enc.Faithful) (inv : Invariant enc c0 w)
    (stepped : w.step enc (.dispatch i) = some w') : Invariant enc c0 w' := by
  simp only [step] at stepped
  cases queue : w.toProvider i with
  | nil => simp only [queue, Option.some.injEq] at stepped; subst stepped; exact inv
  | cons frame rest =>
    obtain ⟨payload, serial⟩ := frame
    obtain ⟨call, recorded, by_i, service, reqType, request, configuration, rfl⟩ :=
      inv.to_provider i payload serial (by simp [queue])
    obtain ⟨decoded, decodes⟩ := faithful.call service reqType request call.id configuration
    simp only [queue, decodes, Node.step, Endpoint.receive, Option.map_some',
      Option.some.injEq] at stepped
    subst stepped
    refine
      { counter := inv.counter, window := inv.window, unique := inv.unique,
        pending_length := inv.pending_length, pending_issued := inv.pending_issued,
        to_provider := fun j payload' serial' mem => inv.to_provider j payload' serial'
          (mem_update_of_subset (by rw [queue]; exact List.subset_cons_self _ _) mem),
        origins_length := by simp [inv.origins_length],
        origins_issued := fun k serial' h found handle => ?_,
        replies_issued := inv.replies_issued, to_caller := inv.to_caller, ledger := inv.ledger,
        delivered := inv.delivered, once := inv.once }
    rcases Nat.lt_or_ge k w.origins.length with before | after
    · rw [List.getElem?_append_left before] at found
      rw [List.getElem?_append_left (inv.origins_length ▸ before)] at handle
      exact inv.origins_issued k serial' h found handle
    · rw [List.getElem?_append_right after, List.getElem?_map] at found
      rw [List.getElem?_append_right (inv.origins_length ▸ after)] at handle
      obtain ⟨h', -, rfl⟩ := Option.map_eq_some'.mp found
      obtain ⟨named, linked⟩ :=
        Endpoint.handlesOf_receiveServiceRequestWs (List.getElem?_mem handle)
      exact ⟨call, recorded, by rw [linked, by_i], named⟩

theorem invariant_reply {k : Nat} {response : DynamicData} (inv : Invariant enc c0 w)
    (stepped : w.step enc (.reply k response) = some w') : Invariant enc c0 w' := by
  simp only [step, Node.step] at stepped
  cases found : w.provider.handles[k]? with
  | none =>
    simp only [found, Option.map_some', Option.some.injEq] at stepped
    subst stepped
    convert inv using 1
    cases w
    simp only [Option.map_none', Option.toList_none, List.append_nil, World.mk.injEq, true_and]
    refine ⟨funext fun j => ?_, trivial⟩
    split <;> simp [sentOn]
  | some callHandle =>
    simp only [found, Option.map_some', Option.some.injEq] at stepped
    subst stepped
    obtain ⟨serial, origin⟩ : ∃ serial, w.origins[k]? = some serial :=
      Option.isSome_iff_exists.mp (by
        simp [inv.origins_length, (List.getElem?_eq_some_iff.mp found).1])
    obtain ⟨call, recorded, linked, named⟩ :=
      inv.origins_issued k serial callHandle origin found
    simp only [origin, Option.getD_some, Option.toList_some]
    have grown : ∀ reply ∈ w.replies,
        reply ∈ w.replies ++ [⟨serial, callHandle, response⟩] :=
      fun reply mem => List.mem_append_left _ mem
    refine
      { counter := inv.counter, window := inv.window, unique := inv.unique,
        pending_length := inv.pending_length, pending_issued := inv.pending_issued,
        to_provider := inv.to_provider, origins_length := inv.origins_length,
        origins_issued := inv.origins_issued, replies_issued := fun reply mem => ?_,
        to_caller := fun j payload serial' mem => ?_, ledger := inv.ledger,
        delivered := fun d mem => ?_, once := inv.once }
    · rcases List.mem_append.mp mem with old | new
      · exact inv.replies_issued reply old
      · simp only [List.mem_singleton] at new
        subst new
        exact ⟨call, recorded, linked, named⟩
    · dsimp only at mem ⊢
      split at mem
      · obtain ⟨reply, mem, rest⟩ := inv.to_caller j payload serial' mem
        exact ⟨reply, grown reply mem, rest⟩
      · simp only [List.mem_append, List.mem_map, Prod.mk.injEq, mem_sentOn,
          Endpoint.receiveResponse, mem_sendUnlessEmpty] at mem
        rcases mem with before | ⟨_, ⟨link, rfl, -⟩, rfl, rfl⟩
        · obtain ⟨reply, mem, rest⟩ := inv.to_caller j payload serial' before
          exact ⟨reply, grown reply mem, rest⟩
        · exact ⟨_, List.mem_append_right _ (List.mem_singleton_self _), rfl, link.symm, rfl⟩
    · obtain ⟨issued, reply, mem, rest⟩ := inv.delivered d mem
      exact ⟨issued, reply, grown reply mem, rest⟩

/-- Taking the oldest frame off a connection to a caller keeps the invariant. -/
theorem Invariant.pop_toCaller {i : Nat} {frame : String × Nat} {rest : List (String × Nat)}
    (inv : Invariant enc c0 w) (queue : w.toCaller i = frame :: rest) :
    Invariant enc c0 { w with toCaller := Function.update w.toCaller i rest } :=
  { inv with
    to_caller := fun j payload serial mem => inv.to_caller j payload serial
      (mem_update_of_subset (by rw [queue]; exact List.subset_cons_self _ _) mem) }

theorem invariant_deliver {i : Nat} (faithful : enc.Faithful) (inv : Invariant enc c0 w)
    (stepped : w.step enc (.deliver i) = some w') : Invariant enc c0 w' := by
  simp only [step] at stepped
  cases queue : w.toCaller i with
  | nil => simp only [queue, Option.some.injEq] at stepped; subst stepped; exact inv
  | cons frame rest =>
    obtain ⟨payload, serial⟩ := frame
    obtain ⟨reply, replied, rfl, linked, rfl⟩ :=
      inv.to_caller i payload serial (by simp [queue])
    obtain ⟨call, recorded, linkedCall, named⟩ := inv.replies_issued reply replied
    have by_i : call.caller = i := by
      rw [linked] at linkedCall
      simpa [callerLink] using linkedCall.symm
    have popped := inv.pop_toCaller queue
    simp only [queue, faithful.response, Node.step, Endpoint.receive, Option.map_some',
      Option.some.injEq] at stepped
    subst stepped
    unfold Endpoint.receiveServiceResponseWs
    cases entry : (w.callers i).endpoint.serviceRequestInfo.lookup reply.callHandle.id with
    | none =>
      convert popped using 1
      cases w
      simp [handlesOf, responsesOf]
    | some info =>
      cases converted : enc.convert reply.response with
      | none =>
        convert popped using 1
        cases w
        simp [handlesOf, responsesOf]
      | some _ =>
        simp only [handlesOf, responsesOf, List.filterMap_cons, List.filterMap_nil,
          List.append_nil, List.map_cons, List.map_nil]
        obtain ⟨serial', entered, undelivered⟩ := inv.ledger i _ info entry
        obtain rfl : reply.serial = serial' := inv.unique _ _ call _ recorded entered
          by_i (named ▸ rfl)
        obtain rfl : call = _ := Option.some.inj (recorded.symm.trans entered)
        have other : ∀ j id' (info' : ServiceRequestInfo) serial'',
            w.calls[serial'']? = some ⟨j, id', info'.client, info'.callHandle⟩ →
            (j = i → id' ≠ reply.callHandle.id) → serial'' ≠ reply.serial := by
          rintro j id' info' serial'' entered'' differs rfl
          obtain ⟨rfl, rfl, -⟩ : j = i ∧ id' = reply.callHandle.id ∧ _ := by
            simpa using entered''.symm.trans entered
          exact differs rfl rfl
        refine
          { popped with
            counter := fun j => ?_, pending_length := fun j => ?_, pending_issued := fun j => ?_,
            ledger := fun j id' info' found => ?_, delivered := fun d mem => ?_, once := ?_ }
        · rw [proj_update (·.endpoint.nextServiceCallId) j]; exacts [inv.counter j, rfl]
        · rw [proj_update (·.calling) j]; exacts [inv.pending_length j, rfl]
        · rw [proj_update (·.calling) j]; exacts [inv.pending_issued j, rfl]
        · have kept : (w.callers j).endpoint.serviceRequestInfo.lookup id' = some info' ∧
              (j = i → id' ≠ reply.callHandle.id) := by
            by_cases same : j = i
            · subst same
              by_cases fresh : id' = reply.callHandle.id
              · subst fresh; simp [AList.lookup_erase] at found
              · simp only [Function.update_same, AList.lookup_erase_ne fresh] at found
                exact ⟨found, fun _ => fresh⟩
            · simp only [Function.update_noteq same] at found
              exact ⟨found, fun same' => absurd same' same⟩
          obtain ⟨serial'', entered'', undelivered''⟩ := inv.ledger j id' info' kept.1
          refine ⟨serial'', entered'', ?_⟩
          simp only [List.map_append, List.map_singleton, List.mem_append, List.mem_singleton,
            not_or]
          exact ⟨undelivered'', other j id' info' serial'' entered'' kept.2⟩
        · rcases List.mem_append.mp mem with old | new
          · exact inv.delivered d old
          · simp only [List.mem_singleton] at new
            subst new
            exact ⟨⟨_, entered⟩, reply, replied, rfl, rfl⟩
        · simp only [List.map_append, List.map_singleton]
          exact List.nodup_append.mpr
            ⟨inv.once, List.nodup_singleton _, by simpa using undelivered⟩

theorem invariant_close {i : Nat} (inv : Invariant enc c0 w)
    (stepped : w.step enc (.close i) = some w') : Invariant enc c0 w' := by
  simp only [step, Node.step, Option.some_bind, Option.map_some', Option.some.injEq] at stepped
  subst stepped
  refine
    { inv with
      counter := fun j => ?_, pending_length := fun j => ?_, pending_issued := fun j => ?_,
      ledger := fun j => ?_,
      to_provider := fun j payload serial mem =>
        inv.to_provider j payload serial (mem_update_of_subset (List.nil_subset _) mem),
      to_caller := fun j payload serial mem =>
        inv.to_caller j payload serial (mem_update_of_subset (List.nil_subset _) mem) }
  · rw [proj_update (·.endpoint.nextServiceCallId) j]; exacts [inv.counter j, rfl]
  · rw [proj_update (·.calling) j]; exacts [inv.pending_length j, rfl]
  · rw [proj_update (·.calling) j]; exacts [inv.pending_issued j, rfl]
  · rw [proj_update (·.endpoint.serviceRequestInfo) j]; exacts [inv.ledger j, rfl]

/-- Only a `call_service` adds to the ghost record of calls. -/
theorem calls_step {event : WorldEvent} (stepped : w.step enc event = some w') :
    w'.calls = w.calls ++ match event with
      | .call i _ _ client callHandle =>
        [⟨i, toString (w.callers i).endpoint.nextServiceCallId, client, callHandle⟩]
      | _ => [] := by
  cases event with
  | call i service request client callHandle =>
    simp only [step, Node.step, Option.map_some', Option.some.injEq] at stepped
    subst stepped; rfl
  | send i thread =>
    obtain ⟨_, -, rfl⟩ := Option.map_eq_some'.mp stepped
    simp
  | reply k response =>
    obtain ⟨_, -, rfl⟩ := Option.map_eq_some'.mp stepped
    simp
  | close i =>
    simp only [step, Node.step, Option.some_bind, Option.map_some', Option.some.injEq] at stepped
    subst stepped; simp
  | dispatch i =>
    simp only [step] at stepped
    split at stepped
    · cases stepped; simp
    · split at stepped
      · cases stepped; simp
      · obtain ⟨_, -, rfl⟩ := Option.map_eq_some'.mp stepped
        simp
  | deliver i =>
    simp only [step] at stepped
    split at stepped
    · cases stepped; simp
    · split at stepped
      · cases stepped; simp
      · obtain ⟨_, -, rfl⟩ := Option.map_eq_some'.mp stepped
        simp

theorem count_step {event : WorldEvent} (stepped : w.step enc event = some w') (i : Nat) :
    w'.count i = w.count i + if event.isCallBy i then 1 else 0 := by
  rw [count, calls_step stepped]
  cases event <;> simp [count, List.countP_append, List.countP_cons, WorldEvent.isCallBy]

/-- One step keeps the invariant, provided a caller that calls has not yet given out
every counter value. -/
theorem invariant_step {event : WorldEvent} (faithful : enc.Faithful) (inv : Invariant enc c0 w)
    (room : ∀ i, event.isCallBy i → w.count i < sizeModulus)
    (stepped : w.step enc event = some w') : Invariant enc c0 w' := by
  cases event with
  | call i service request client callHandle =>
    exact invariant_call inv (room i (by simp [WorldEvent.isCallBy])) stepped
  | send i thread => exact invariant_send inv stepped
  | dispatch i => exact invariant_dispatch faithful inv stepped
  | reply k response => exact invariant_reply inv stepped
  | deliver i => exact invariant_deliver faithful inv stepped
  | close i => exact invariant_close inv stepped

/-- Nothing in flight at the start: the provider has handed out no call handle, no caller
has a waiting thread or a ledger entry, and every counter holds a `size_t` value. -/
structure Quiet (provider : Node) (callers : Nat → Node) : Prop where
  handles : provider.handles = []
  idle : ∀ i, (callers i).calling = []
  ledgers : ∀ i id, (callers i).endpoint.serviceRequestInfo.lookup id = none
  counters : ∀ i, (callers i).endpoint.nextServiceCallId < sizeModulus

theorem invariant_start {provider : Node} {callers : Nat → Node}
    (quiet : Quiet provider callers) :
    Invariant enc (fun i => (callers i).endpoint.nextServiceCallId) (start provider callers) where
  counter i := by simp [count, start, Nat.mod_eq_of_lt (quiet.counters i)]
  window := by simp [start]
  unique := by simp [start]
  pending_length i := by simp [start, quiet.idle]
  pending_issued := by simp [start]
  to_provider := by simp [start]
  origins_length := by simp [start, quiet.handles]
  origins_issued := by simp [start]
  replies_issued := by simp [start]
  to_caller := by simp [start]
  ledger i id info found := by simp [start, quiet.ledgers] at found
  delivered := by simp [start]
  once := List.nodup_nil

/-- The delivery hands its client the response the provider's host gave for the call
handle of that very call: the call is the client's own, made on the same caller, and the
handle carries the call's id and the caller's connection. -/
def Answers (w : World) (d : Delivery) : Prop :=
  ∃ call, w.calls[d.serial]? = some call ∧ call.caller = d.caller ∧ call.client = d.client ∧
    call.callHandle = d.callHandle ∧ ∃ reply ∈ w.replies, reply.serial = d.serial ∧
      reply.response = d.response ∧ reply.callHandle.id = call.id ∧
      reply.callHandle.connectionHandle = callerLink d.caller

theorem Invariant.answers (inv : Invariant enc c0 w) {d : Delivery} (member : d ∈ w.deliveries) :
    w.Answers d := by
  obtain ⟨⟨id, recorded⟩, reply, replied, serial, response⟩ := inv.delivered d member
  obtain ⟨call, recorded', linked, named⟩ := inv.replies_issued reply replied
  rw [serial, recorded] at recorded'
  cases recorded'
  exact ⟨_, recorded, rfl, rfl, rfl, reply, replied, serial, response, named, linked⟩

/-- Over every run from a quiet start with an encoding that decodes what it encodes, in
which no caller calls more than `2^64` times: every response a caller hands to a client is
the one the provider's host gave for the call handle of that client's own call, and no
call is answered twice, however often the host replies. -/
theorem responses_answer_their_calls {provider : Node} {callers : Nat → Node}
    {events : List WorldEvent} (faithful : enc.Faithful) (quiet : Quiet provider callers)
    (ran : (start provider callers).run enc events = some w)
    (bound : ∀ i, events.countP (·.isCallBy i) ≤ sizeModulus) :
    (∀ d ∈ w.deliveries, w.Answers d) ∧ (w.deliveries.map (·.serial)).Nodup := by
  have tracked : (∀ i, w.count i = events.countP (·.isCallBy i)) ∧
      ((∀ i, events.countP (·.isCallBy i) ≤ sizeModulus) →
        Invariant enc (fun i => (callers i).endpoint.nextServiceCallId) w) := by
    refine execute_induction
      (P := fun events w => (∀ i, w.count i = events.countP (·.isCallBy i)) ∧
        ((∀ i, events.countP (·.isCallBy i) ≤ sizeModulus) →
          Invariant enc (fun i => (callers i).endpoint.nextServiceCallId) w))
      ⟨fun i => rfl, fun _ => invariant_start quiet⟩ ?_ ran
    intro events w event w' _ ⟨counted, holds⟩ stepped
    have counted' : ∀ i, w'.count i = (events ++ [event]).countP (·.isCallBy i) := by
      intro i
      rw [count_step stepped, counted, List.countP_append]
      cases calls : event.isCallBy i <;> simp [calls]
    refine ⟨counted', fun bound' =>
      invariant_step faithful (holds fun i => ?_) (fun i calls => ?_) stepped⟩
    · exact le_trans ((List.sublist_append_left _ [event]).countP_le _) (bound' i)
    · have := bound' i
      rw [← counted', count_step stepped, calls] at this
      simpa using this
  have inv := tracked.2 bound
  exact ⟨fun d member => inv.answers member, inv.once⟩

/-- A caller's host calling `n` times in a row advances the caller's counter by `n`, and the
last call's id names its client in the ledger; nothing else in the world but the ghost
record of calls changes. -/
theorem run_calls (enc : Encoding) (w : World) {i : Nat} (service : String) (request : DynamicData)
    (client : ServiceClient) (callHandle : ClientCallHandle) (n : Nat)
    (valid : (w.callers i).endpoint.nextServiceCallId < sizeModulus) :
    ∃ w', w.run enc (List.replicate n (.call i service request client callHandle)) = some w' ∧
      w'.provider = w.provider ∧ w'.origins = w.origins ∧ w'.toCaller = w.toCaller ∧
      w'.closed = w.closed ∧ w'.deliveries = w.deliveries ∧
      (∃ more, w'.calls = w.calls ++ more) ∧
      (w'.callers i).endpoint.nextServiceCallId =
        ((w.callers i).endpoint.nextServiceCallId + n) % sizeModulus ∧
      (0 < n → (w'.callers i).endpoint.serviceRequestInfo.lookup
        (toString (((w.callers i).endpoint.nextServiceCallId + n - 1) % sizeModulus)) =
          some ⟨client, callHandle⟩) := by
  induction n with
  | zero =>
    exact ⟨w, rfl, rfl, rfl, rfl, rfl, rfl, ⟨[], by simp⟩, (Nat.mod_eq_of_lt valid).symm,
      fun none => absurd none (Nat.lt_irrefl 0)⟩
  | succ n ih =>
    obtain ⟨w', ran, provider, origins, toCaller, closed, deliveries, ⟨more, calls⟩, counter,
      -⟩ := ih
    obtain ⟨w'', stepped⟩ :
        ∃ w'', w'.step enc (.call i service request client callHandle) = some w'' := ⟨_, rfl⟩
    have ran' : w.run enc (List.replicate (n + 1) (.call i service request client callHandle)) =
        some w'' := by
      rw [run, List.replicate_succ', execute_concat, ← run, ran]
      exact stepped
    simp only [step, Node.step, Option.map_some', Option.some.injEq] at stepped
    subst stepped
    refine ⟨_, ran', provider, origins, toCaller, closed, deliveries,
      ⟨more ++ [_], by rw [calls, List.append_assoc]⟩, ?_, ?_⟩
    · simp only [Function.update_same, Endpoint.callServiceLocked, counter, sizeModulus]
      omega
    · intro _
      have last : (w.callers i).endpoint.nextServiceCallId + (n + 1) - 1 =
          (w.callers i).endpoint.nextServiceCallId + n := by omega
      simp only [Function.update_same, Endpoint.callServiceLocked, counter]
      rw [last, AList.lookup_insert]

/-- A reply to a call handle of the provider that came from an open caller with nothing in
flight towards it is delivered through that caller's ledger entry under the handle's id. -/
theorem reply_then_deliver (response : DynamicData) {serial i k : Nat} {callHandle : CallHandle}
    {info : ServiceRequestInfo} (handle : w.provider.handles[k]? = some callHandle)
    (origin : w.origins[k]? = some serial) (linked : callHandle.connectionHandle = callerLink i)
    (empty : w.toCaller i = []) (opened : w.closed i = false)
    (entry : (w.callers i).endpoint.serviceRequestInfo.lookup callHandle.id = some info) :
    ∃ w', w.run .escaped [.reply k response, .deliver i] = some w' ∧ w'.calls = w.calls ∧
      w'.deliveries =
        w.deliveries ++ [⟨i, info.client, info.callHandle, response, serial⟩] := by
  simp [run, execute, step, Node.step, handle, origin, linked, empty, opened,
    Endpoint.receiveResponse, sendUnlessEmpty, escaped_response_ne_empty,
    escaped_faithful.response, sentOn, Endpoint.receive, Endpoint.receiveServiceResponseWs, entry,
    escaped_convert, responsesOf]

/-- A provider that serves `add` to its host, and a caller that has its advertisement. -/
def adder : Node :=
  ⟨Endpoint.init.createClientProxy .escaped "add" "Pair" (some "Int") ⟨1⟩ default, [], []⟩

def adderCaller : Node :=
  ⟨Endpoint.init.receiveServiceAdvertisementWs "add" "Pair" "Int" providerLink, [], []⟩

theorem adder_quiet : Quiet adder fun _ => adderCaller :=
  ⟨rfl, fun _ => rfl, fun _ _ => rfl, fun _ => by decide⟩

theorem responses_answer_their_calls_in_one_round_trip :
    ∃ w, (start adder fun _ => adderCaller).run .escaped
        [.call 0 "add" ⟨"1"⟩ ⟨1⟩ ⟨1⟩, .send 0 0, .dispatch 0, .reply 0 ⟨"2"⟩, .deliver 0] = some w ∧
      w.deliveries = [⟨0, ⟨1⟩, ⟨1⟩, ⟨"2"⟩, 0⟩] ∧ ∀ d ∈ w.deliveries, w.Answers d := by
  refine ⟨_, rfl, by decide, ?_⟩
  exact (responses_answer_their_calls escaped_faithful adder_quiet
    (rfl : (start adder fun _ => adderCaller).run .escaped
      [.call 0 "add" ⟨"1"⟩ ⟨1⟩ ⟨1⟩, .send 0 0, .dispatch 0, .reply 0 ⟨"2"⟩, .deliver 0] = some _)
    fun _ => le_trans (List.countP_le_length _) (by decide)).1

/-- After `2^64` more calls the first call's id comes round again: the caller's ledger entry
under it names the last call's client, and the provider's reply to the first call reaches
that client. -/
theorem wrapped_counter_misdelivers :
    ∃ w, (start adder fun _ => adderCaller).run .escaped
        ([.call 0 "add" ⟨"1"⟩ ⟨1⟩ ⟨1⟩, .send 0 0, .dispatch 0] ++
          List.replicate sizeModulus (.call 0 "add" ⟨"2"⟩ ⟨2⟩ ⟨2⟩) ++
          [.reply 0 ⟨"3"⟩, .deliver 0]) = some w ∧
      ∃ d ∈ w.deliveries, ¬w.Answers d := by
  obtain ⟨w1, ran1⟩ : ∃ w1, (start adder fun _ => adderCaller).run .escaped
      [.call 0 "add" ⟨"1"⟩ ⟨1⟩ ⟨1⟩, .send 0 0, .dispatch 0] = some w1 := ⟨_, rfl⟩
  have facts : ((start adder fun _ => adderCaller).run .escaped
      [.call 0 "add" ⟨"1"⟩ ⟨1⟩ ⟨1⟩, .send 0 0, .dispatch 0]).map (fun w =>
        ((w.callers 0).endpoint.nextServiceCallId, w.provider.handles[0]?, w.origins[0]?,
          w.toCaller 0, w.closed 0, w.calls)) =
      some (2, some ⟨"add", "Pair", "Int", "1", callerLink 0⟩, some 0, [], false,
        [⟨0, "1", ⟨1⟩, ⟨1⟩⟩]) :=
    rfl
  rw [ran1] at facts
  simp only [Option.map_some', Option.some.injEq, Prod.mk.injEq] at facts
  obtain ⟨counter1, handle1, origin1, queue1, open1, calls1⟩ := facts
  obtain ⟨w2, ran2, provider2, origins2, toCaller2, closed2, -, ⟨more, calls2⟩, -,
    entry2⟩ :=
    run_calls .escaped w1 "add" ⟨"2"⟩ ⟨2⟩ ⟨2⟩ sizeModulus (by rw [counter1]; decide)
  have wrapped : toString ((2 + sizeModulus - 1) % sizeModulus) = "1" := by decide
  rw [counter1, wrapped] at entry2
  obtain ⟨w4, ran4, calls4, deliveries4⟩ := reply_then_deliver ⟨"3"⟩ (i := 0) (k := 0)
    (by rw [provider2]; exact handle1) (by rw [origins2]; exact origin1) rfl
    (by rw [toCaller2]; exact queue1) (by rw [closed2]; exact open1) (entry2 (by decide))
  refine ⟨w4, ?_, _,
    by rw [deliveries4]; exact List.mem_append_right _ (List.mem_singleton_self _), ?_⟩
  · simp only [run] at ran1 ran2 ran4 ⊢
    rw [execute_append, execute_append, ran1, Option.some_bind, ran2, Option.some_bind, ran4]
  · rintro ⟨call, recorded, -, client, -⟩
    rw [calls4, calls2, calls1] at recorded
    simp only [List.singleton_append, List.getElem?_cons_zero, Option.some.injEq] at recorded
    subst recorded
    simp at client

end World
end WebSocketSH
