import WebSocketSH.Node
import WebSocketSH.Wire

/-! The provider table (`_service_provider_info`): the connection a service's calls go to.
Whatever the order of advertisements, withdrawals and closes from competing connections,
the recorded provider is the sender of the latest advertisement that has been neither
withdrawn by its sender nor lost when that sender closed, and a waiting `call_service`
sends its request to that connection, unless the encoding refuses it. -/
namespace WebSocketSH

namespace Endpoint
variable {enc : Encoding} {e e' : Endpoint} {service s : String} {c d : ConnectionHandle}

/-- The connection `call_service` addresses for `service`. -/
def providerConnection (e : Endpoint) (service : String) : Option ConnectionHandle :=
  (e.serviceProviderInfo.lookup service).bind (·.connectionHandle)

theorem providerConnection_createServiceProxy (requestType : String) (replyType : Option String)
    (configuration : YamlNode) :
    (e.createServiceProxy s requestType replyType configuration).providerConnection service =
      e.providerConnection service := by
  unfold providerConnection createServiceProxy
  rw [Table.lookup_update]
  split
  · subst service
    cases e.serviceProviderInfo.lookup s <;> cases replyType <;> rfl
  · rfl

theorem providerConnection_receiveServiceAdvertisementWs (reqType replyType : String) :
    (e.receiveServiceAdvertisementWs s reqType replyType c).providerConnection service =
      if service = s then some c else e.providerConnection service := by
  unfold providerConnection receiveServiceAdvertisementWs
  split
  · subst service; simp [AList.lookup_insert]
  · simp [AList.lookup_insert_ne ‹_›]

/-- A withdrawal from anyone but the recorded provider leaves the table as it was. -/
theorem receiveServiceUnadvertisementWs_other (other : e.providerConnection s ≠ some c) :
    (e.receiveServiceUnadvertisementWs s c).serviceProviderInfo = e.serviceProviderInfo := by
  unfold receiveServiceUnadvertisementWs
  split
  · rfl
  · rename_i info found
    simp only [providerConnection, found, Option.some_bind] at other
    simp [other]

theorem providerConnection_receiveServiceUnadvertisementWs :
    (e.receiveServiceUnadvertisementWs s c).providerConnection service =
      if service = s ∧ e.providerConnection s = some c then none
      else e.providerConnection service := by
  by_cases owner : e.providerConnection s = some c
  · obtain ⟨info, found, connected⟩ := Option.bind_eq_some.mp owner
    have erased : (e.receiveServiceUnadvertisementWs s c).serviceProviderInfo =
        e.serviceProviderInfo.erase s := by
      simp [receiveServiceUnadvertisementWs, found, connected]
    unfold providerConnection
    rw [erased]
    by_cases same : service = s
    · subst same; simp [AList.lookup_erase, found, connected]
    · simp [AList.lookup_erase_ne same, same]
  · rw [if_neg fun both => owner both.2]
    unfold providerConnection
    rw [receiveServiceUnadvertisementWs_other owner]

theorem notifyConnectionClosed_other (other : e.providerConnection service ≠ some c) :
    (e.notifyConnectionClosed c).serviceProviderInfo.lookup service =
      e.serviceProviderInfo.lookup service := by
  rw [notifyConnectionClosed_provider]
  cases found : e.serviceProviderInfo.lookup service with
  | none => rfl
  | some info => simp_all [providerConnection, Option.filter]

theorem providerConnection_notifyConnectionClosed :
    (e.notifyConnectionClosed c).providerConnection service =
      if e.providerConnection service = some c then none else e.providerConnection service := by
  unfold providerConnection
  rw [notifyConnectionClosed_provider]
  cases e.serviceProviderInfo.lookup service with
  | none => rfl
  | some info => by_cases same : info.connectionHandle = some c <;> simp [same, Option.filter]

/-- A frame changes the recorded provider only by advertising or withdrawing it. -/
theorem receive_providerConnection {message : Message} {effects : List Effect}
    (received : e.receive enc message d = some (e', effects)) :
    e'.providerConnection s = some c ↔
      (∃ reqType replyType, message = .advertiseService s reqType replyType) ∧ d = c ∨
      e.providerConnection s = some c ∧ (∀ reqType replyType, message ≠ .advertiseService s reqType replyType) ∧
        ∀ type, message = .unadvertiseService s type → d ≠ c := by
  cases message with
  | subscribe topicName messageType id =>
    obtain ⟨e'', handled, same⟩ := Option.map_eq_some'.mp received
    cases same
    rw [receiveSubscribeRequestWs_frame handled]
    simp [providerConnection]
  | serviceResponse serviceName response id =>
    simp only [receive, Option.some.injEq] at received
    have unchanged : e'.serviceProviderInfo = e.serviceProviderInfo := by
      unfold receiveServiceResponseWs at received
      split at received
      · cases received; rfl
      · split at received <;> cases received <;> rfl
    simp [providerConnection, unchanged]
  | advertiseService serviceName reqType replyType =>
    simp only [receive, Option.some.injEq, Prod.mk.injEq] at received
    obtain ⟨rfl, -⟩ := received
    rw [providerConnection_receiveServiceAdvertisementWs]
    by_cases same : s = serviceName <;> simp [same, eq_comm]
  | unadvertiseService serviceName type =>
    simp only [receive, Option.some.injEq, Prod.mk.injEq] at received
    obtain ⟨rfl, -⟩ := received
    rw [providerConnection_receiveServiceUnadvertisementWs]
    by_cases same : s = serviceName
    · subst same; by_cases owner : e.providerConnection s = some d <;> aesop
    · have other : serviceName ≠ s := Ne.symm same
      simp [same, other]
  | _ =>
    simp only [receive, Option.some.injEq, Prod.mk.injEq] at received
    obtain ⟨rfl, -⟩ := received
    simp [providerConnection, receiveTopicAdvertisementWs, receiveUnsubscribeRequestWs]

theorem callServiceSend_target {request : DynamicData} {idStr payload : String}
    (sent : Effect.send c payload ∈ e.callServiceSend enc service request idStr) :
    e.providerConnection service = some c ∧ payload ≠ "" := by
  unfold callServiceSend at sent
  cases found : e.serviceProviderInfo.lookup service with
  | none => simp [found] at sent
  | some info =>
    simp only [found] at sent
    by_cases refused :
        enc.encodeCallServiceMsg service info.reqType request idStr info.configuration = ""
    · simp [refused] at sent
    · cases connected : info.connectionHandle with
      | none => simp [refused, connected] at sent
      | some connection =>
        simp only [refused, connected, if_false, List.mem_singleton, Effect.send.injEq] at sent
        obtain ⟨rfl, rfl⟩ := sent
        exact ⟨by simp [providerConnection, found, connected], refused⟩

/-- With a recorded provider connection and an encoding that does not refuse the request,
the send half of `call_service` sends one frame, to that connection. -/
theorem callServiceSend_of_provider {request : DynamicData} {idStr : String}
    (connected : e.providerConnection service = some c)
    (accepted : ∀ info, e.serviceProviderInfo.lookup service = some info →
      enc.encodeCallServiceMsg service info.reqType request idStr info.configuration ≠ "") :
    ∃ payload, e.callServiceSend enc service request idStr = [.send c payload] := by
  obtain ⟨info, found, linked⟩ := Option.bind_eq_some.mp connected
  exact ⟨enc.encodeCallServiceMsg service info.reqType request idStr info.configuration,
    by simp [callServiceSend, found, linked, accepted info found]⟩

end Endpoint

namespace Node
variable {enc : Encoding} {n n' : Node} {event : Event} {effects : List Effect}
  {events : List Event} {service : String} {c : ConnectionHandle}

/-- `c` advertised `service` with this event. -/
def Advertises (service : String) (c : ConnectionHandle) (event : Event) : Prop :=
  ∃ reqType replyType, event = .frame (.advertiseService service reqType replyType) c

/-- This event leaves an advertisement of `service` by `c` standing: it is no newer
advertisement of the service, no withdrawal of it by `c`, and not the close of `c`. -/
def KeepsProvider (service : String) (c : ConnectionHandle) (event : Event) : Prop :=
  (∀ d reqType replyType, event ≠ .frame (.advertiseService service reqType replyType) d) ∧
    (∀ type, event ≠ .frame (.unadvertiseService service type) c) ∧ event ≠ .closed c

/-- The latest advertisement of `service` came from `c`, which has neither withdrawn it
nor closed since. -/
def LatestProvider (service : String) (c : ConnectionHandle) : List Event → Prop :=
  SinceLast (fun _ => Advertises service c) (KeepsProvider service c)

theorem step_providerConnection (stepped : n.step enc event = some (n', effects)) :
    n'.endpoint.providerConnection service = some c ↔
      Advertises service c event ∨
        n.endpoint.providerConnection service = some c ∧ KeepsProvider service c event := by
  cases event with
  | frame message d =>
    obtain ⟨⟨e', fx⟩, received, same⟩ := Option.map_eq_some'.mp stepped
    cases same
    rw [Endpoint.receive_providerConnection received]
    simp only [Advertises, KeepsProvider, Event.frame.injEq, ne_eq, reduceCtorEq, not_false_eq_true,
      and_true, not_and, exists_and_right]
    constructor
    · rintro (⟨advertised, rfl⟩ | ⟨owner, fresh, kept⟩)
      · exact .inl ⟨advertised, rfl⟩
      · exact .inr ⟨owner, fun _ _ _ same => absurd same (fresh _ _),
          fun type same => kept type same⟩
    · rintro (⟨advertised, rfl⟩ | ⟨owner, fresh, kept⟩)
      · exact .inl ⟨advertised, rfl⟩
      · exact .inr ⟨owner, fun _ _ same => fresh d _ _ same rfl,
          fun type same => kept type same⟩
  | closed d =>
    simp only [step, Option.some.injEq, Prod.mk.injEq] at stepped
    obtain ⟨rfl, -⟩ := stepped
    simp only [Endpoint.providerConnection_notifyConnectionClosed, Advertises, KeepsProvider]
    by_cases owner : n.endpoint.providerConnection service = some d <;> aesop
  | createServiceProxy serviceName requestType replyType configuration =>
    simp only [step, Option.some.injEq, Prod.mk.injEq] at stepped
    obtain ⟨rfl, -⟩ := stepped
    simp [Endpoint.providerConnection_createServiceProxy, Advertises, KeepsProvider]
  | callServiceSend thread =>
    simp only [step] at stepped
    split at stepped <;> simp only [Option.some.injEq, Prod.mk.injEq] at stepped <;>
      obtain ⟨rfl, -⟩ := stepped <;> simp [Advertises, KeepsProvider]
  | receiveResponse handle response =>
    simp only [step] at stepped
    split at stepped <;> simp only [Option.some.injEq, Prod.mk.injEq] at stepped <;>
      obtain ⟨rfl, -⟩ := stepped <;> simp [Advertises, KeepsProvider]
  | _ =>
    simp only [step, Option.some.injEq, Prod.mk.injEq] at stepped
    obtain ⟨rfl, -⟩ := stepped
    simp [Advertises, KeepsProvider, Endpoint.providerConnection, Endpoint.subscribe,
      Endpoint.startupAdvertisement, Endpoint.callServiceLocked]

theorem providerConnection_iff_latest (ran : Node.init.run enc events = some n) :
    n.endpoint.providerConnection service = some c ↔ LatestProvider service c events := by
  refine run_induction (P := fun events n =>
    (n.endpoint.providerConnection service = some c ↔ LatestProvider service c events)) ?_ ?_ ran
  · simp [LatestProvider, not_sinceLast_nil, Endpoint.providerConnection, init, Endpoint.init]
  · intro events m event m' effects _ ih stepped
    rw [step_providerConnection stepped, ih, LatestProvider, sinceLast_concat]

/-- The recorded provider of every service is the sender of its latest still-valid
advertisement; withdrawals and closes from any other connection leave the entry as it is;
and a waiting `call_service` sends its request only to that connection, and does send it
there when the encoding does not refuse it. -/
theorem provider_is_latest_advertiser (ran : Node.init.run enc events = some n) (service : String) :
    (∀ c, n.endpoint.providerConnection service = some c ↔ LatestProvider service c events) ∧
    (∀ c, n.endpoint.providerConnection service ≠ some c →
      (n.endpoint.receiveServiceUnadvertisementWs service c).serviceProviderInfo.lookup service =
          n.endpoint.serviceProviderInfo.lookup service ∧
        (n.endpoint.notifyConnectionClosed c).serviceProviderInfo.lookup service =
          n.endpoint.serviceProviderInfo.lookup service) ∧
    ∀ (thread : Nat) (call : PendingCall) c, n.calling[thread]? = some call →
      call.service = service →
      ((∃ payload,
          Effect.send c payload ∈ n.endpoint.callServiceSend enc call.service call.request call.id) →
        LatestProvider service c events) ∧
      (LatestProvider service c events →
        (∀ info, n.endpoint.serviceProviderInfo.lookup service = some info →
          enc.encodeCallServiceMsg service info.reqType call.request call.id info.configuration ≠
            "") →
        ∃ payload, n.step enc (.callServiceSend thread) =
          some ({ n with calling := n.calling.eraseIdx thread }, [.send c payload])) := by
  refine ⟨fun c => providerConnection_iff_latest ran, fun c other => ?_, ?_⟩
  · rw [Endpoint.receiveServiceUnadvertisementWs_other other,
      Endpoint.notifyConnectionClosed_other other]
    exact ⟨rfl, rfl⟩
  · rintro thread call c waiting rfl
    refine ⟨fun ⟨payload, sent⟩ =>
      (providerConnection_iff_latest ran).mp (Endpoint.callServiceSend_target sent).1,
      fun latest accepted => ?_⟩
    obtain ⟨payload, sends⟩ :=
      Endpoint.callServiceSend_of_provider ((providerConnection_iff_latest ran).mpr latest) accepted
    exact ⟨payload, by simp [step, waiting, sends]⟩

/-- After `add` is advertised on connection 1, a host thread waiting inside `call_service`
sends its request on connection 1. -/
theorem provider_is_latest_advertiser_sends_waiting_call :
    ∃ n, Node.init.run .escaped [.frame (.advertiseService "add" "Pair" "Int") ⟨1⟩,
        .callService "add" ⟨"1"⟩ ⟨1⟩ ⟨1⟩] = some n ∧
      ∃ payload, n.step .escaped (.callServiceSend 0) =
        some ({ n with calling := n.calling.eraseIdx 0 }, [.send ⟨1⟩ payload]) := by
  have ran : Node.init.run .escaped [.frame (.advertiseService "add" "Pair" "Int") ⟨1⟩,
      .callService "add" ⟨"1"⟩ ⟨1⟩ ⟨1⟩] = some _ := rfl
  have law := provider_is_latest_advertiser ran "add"
  exact ⟨_, ran, ((law.2.2 0 _ ⟨1⟩ rfl rfl).2 ((law.1 ⟨1⟩).mp (by decide))
    fun _ _ => Wire.frame_ne_empty _ _)⟩

end Node

namespace Endpoint
variable {enc : Encoding}

/-- `call_service` records the call under the counter's id before it looks the provider
up; without a provider connection nothing is sent, and the new ledger entry stays. -/
theorem callService_records_before_lookup (e : Endpoint) (service : String) (request : DynamicData)
    (client : ServiceClient) (callHandle : ClientCallHandle) :
    (e.callService enc service request client callHandle).1.serviceRequestInfo.lookup
        (toString e.nextServiceCallId) = some ⟨client, callHandle⟩ ∧
    (∀ id, id ≠ toString e.nextServiceCallId →
      (e.callService enc service request client callHandle).1.serviceRequestInfo.lookup id =
        e.serviceRequestInfo.lookup id) ∧
    (e.providerConnection service = none →
      ∀ c payload, Effect.send c payload ∉ (e.callService enc service request client callHandle).2) := by
  refine ⟨AList.lookup_insert _, fun id other => AList.lookup_insert_ne other,
    fun missing c payload sent => ?_⟩
  have target := (callServiceSend_target sent).1
  change e.providerConnection service = some c at target
  rw [missing] at target
  cases target

/-- A proxy whose provider advertised and then closed: `call_service` throws
`std::out_of_range` to the host and leaves the entry for id "1" in the ledger. -/
theorem callService_throws_after_provider_closed :
    ((Node.init.run .refusing [.createServiceProxy "add" "Pair" (some "Int") default,
        .frame (.advertiseService "add" "Pair" "Int") ⟨1⟩, .closed ⟨1⟩]).map fun n =>
      (n.endpoint.serviceRequestInfo.lookup "1",
        (n.endpoint.callService .refusing "add" ⟨"{}"⟩ ⟨1⟩ ⟨1⟩).2,
        (n.endpoint.callService .refusing "add" ⟨"{}"⟩ ⟨1⟩ ⟨1⟩).1.serviceRequestInfo.lookup "1")) =
      some (none, [.raise .outOfRange], some ⟨⟨1⟩, ⟨1⟩⟩) := by
  decide

end Endpoint
end WebSocketSH
