import WebSocketSH.Endpoint.Connections

/-! One endpoint with its host, as a state machine over everything that can happen to it:
the host's registrations, publications and calls, frames arriving on connections, and
connections opening and closing. A host call of `call_service` takes two steps, the locked
block and the rest, so that any number of concurrent callers interleave with one another
and with the transport; the host replies only with call handles the endpoint gave it. -/
namespace WebSocketSH

/-- A host thread inside `call_service`, between the lock and the send. -/
structure PendingCall where
  service : String
  request : DynamicData
  id : String
deriving DecidableEq, Repr, Inhabited

structure Node where
  endpoint : Endpoint
  /-- the host threads between the two halves of `call_service` -/
  calling : List PendingCall
  /-- the call handles handed to the host's request callbacks, in order -/
  handles : List CallHandle
deriving Inhabited

def Node.init : Node := ⟨Endpoint.init, [], []⟩

inductive Event where
  | subscribe (topicName messageType : String) (callback : SubscriptionCallback)
      (configuration : YamlNode)
  | createClientProxy (serviceName requestType : String) (replyType : Option String)
      (callback : RequestCallback) (configuration : YamlNode)
  | createServiceProxy (serviceName requestType : String) (replyType : Option String)
      (configuration : YamlNode)
  | startupAdvertisement (topic messageType id : String) (configuration : YamlNode)
  | publish (topic : String) (message : DynamicData)
  /-- a host thread enters `call_service` and runs its locked block -/
  | callService (service : String) (request : DynamicData) (client : ServiceClient)
      (callHandle : ClientCallHandle)
  /-- the `thread`-th waiting host thread finishes its `call_service` -/
  | callServiceSend (thread : Nat)
  /-- the host replies with the `handle`-th call handle it was given -/
  | receiveResponse (handle : Nat) (response : DynamicData)
  | frame (message : Message) (connectionHandle : ConnectionHandle)
  | opened (connectionHandle : ConnectionHandle)
  | closed (connectionHandle : ConnectionHandle)
deriving DecidableEq, Repr

/-- The call handles a step hands to the host. -/
def handlesOf (effects : List Effect) : List CallHandle :=
  effects.filterMap fun
    | .request _ _ handle => some handle
    | _ => none

/-- The provider's dispatch packs the request's id and source connection into the call
handle it gives its host. -/
theorem Endpoint.handlesOf_receiveServiceRequestWs {e : Endpoint} {enc : Encoding}
    {service id : String} {request : DynamicData} {c : ConnectionHandle} {callHandle : CallHandle}
    (member : callHandle ∈ handlesOf (e.receiveServiceRequestWs enc service request id c)) :
    callHandle.id = id ∧ callHandle.connectionHandle = c := by
  unfold Endpoint.receiveServiceRequestWs at member
  split at member
  · simp [handlesOf] at member
  · split at member
    · simp [handlesOf] at member
    · simp only [handlesOf, List.filterMap_cons, List.filterMap_nil, List.mem_singleton] at member
      subst member
      exact ⟨rfl, rfl⟩

namespace Node
variable (enc : Encoding)

def step (n : Node) : Event → Option (Node × List Effect)
  | .subscribe topicName messageType callback configuration =>
      some ({ n with endpoint :=
        n.endpoint.subscribe enc topicName messageType callback configuration }, [])
  | .createClientProxy serviceName requestType replyType callback configuration =>
      some ({ n with endpoint := (n.endpoint.createClientProxy enc serviceName requestType
        replyType callback configuration) }, [])
  | .createServiceProxy serviceName requestType replyType configuration =>
      some ({ n with endpoint :=
        n.endpoint.createServiceProxy serviceName requestType replyType configuration }, [])
  | .startupAdvertisement topic messageType id configuration =>
      some ({ n with endpoint :=
        n.endpoint.startupAdvertisement enc topic messageType id configuration }, [])
  | .publish topic message => some (n, n.endpoint.publish enc topic message)
  | .callService service request client callHandle =>
      let (endpoint, id) := n.endpoint.callServiceLocked client callHandle
      some ({ n with endpoint := endpoint, calling := n.calling ++ [⟨service, request, id⟩] }, [])
  | .callServiceSend thread =>
      match n.calling[thread]? with
      | none => some (n, [])
      | some call => some ({ n with calling := n.calling.eraseIdx thread },
          n.endpoint.callServiceSend enc call.service call.request call.id)
  | .receiveResponse handle response =>
      match n.handles[handle]? with
      | none => some (n, [])
      | some callHandle => some (n, Endpoint.receiveResponse enc callHandle response)
  | .frame message connectionHandle =>
      (n.endpoint.receive enc message connectionHandle).map fun (endpoint, effects) =>
        ({ n with endpoint := endpoint, handles := n.handles ++ handlesOf effects }, effects)
  | .opened connectionHandle => some (n, n.endpoint.notifyConnectionOpened connectionHandle)
  | .closed connectionHandle =>
      some ({ n with endpoint := n.endpoint.notifyConnectionClosed connectionHandle }, [])

/-- The node after a whole run; `none` once a step has no defined behaviour. -/
def run (n : Node) (events : List Event) : Option Node :=
  execute (fun n event => (n.step enc event).map Prod.fst) n events

variable {enc}

theorem run_cons (n : Node) (event : Event) (events : List Event) :
    n.run enc (event :: events) = (n.step enc event).bind fun (next, _) => next.run enc events := by
  simp only [run, execute]
  cases n.step enc event <;> rfl

theorem run_append (n : Node) (first second : List Event) :
    n.run enc (first ++ second) = (n.run enc first).bind (·.run enc second) :=
  execute_append n first second

theorem step_frame {n n' : Node} {message : Message} {c : ConnectionHandle}
    {effects : List Effect} (stepped : n.step enc (.frame message c) = some (n', effects)) :
    n.endpoint.receive enc message c = some (n'.endpoint, effects) := by
  obtain ⟨⟨e', fx⟩, received, same⟩ := Option.map_eq_some'.mp stepped
  cases same
  exact received

/-- Induction over the prefixes of a run, with the effects of each step at hand. -/
theorem run_induction {start : Node} {P : List Event → Node → Prop} (base : P [] start)
    (preserved : ∀ events m event m' effects, start.run enc events = some m → P events m →
      m.step enc event = some (m', effects) → P (events ++ [event]) m')
    {events : List Event} {n : Node} (ran : start.run enc events = some n) : P events n :=
  execute_induction base (fun events m event m' prior holds stepped => by
    obtain ⟨⟨_, effects⟩, found, rfl⟩ := Option.map_eq_some'.mp stepped
    exact preserved events m event _ effects prior holds found) ran

end Node
end WebSocketSH
