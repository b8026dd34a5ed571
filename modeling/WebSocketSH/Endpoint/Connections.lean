import WebSocketSH.Endpoint.Topics
import WebSocketSH.Endpoint.Services

/-! Connection events and frame dispatch (`Endpoint.cpp`): the startup replay on opening,
the clean-up on closing, and the handler each decoded frame reaches. -/
namespace WebSocketSH
namespace Endpoint
variable (enc : Encoding)

/-- `Endpoint::notify_connection_opened`: the whole startup log, in order, on the new
connection. -/
def notifyConnectionOpened (e : Endpoint) (connectionHandle : ConnectionHandle) : List Effect :=
  e.startupMessages.map (.send connectionHandle)

/-- The services whose recorded provider is `connectionHandle` (`lost_services`). -/
def lostServices (e : Endpoint) (connectionHandle : ConnectionHandle) : List String :=
  e.serviceProviderInfo.entries.filterMap fun entry =>
    if entry.2.connectionHandle = some connectionHandle then some entry.1 else none

/-- `Endpoint::notify_connection_closed`: the connection leaves every blacklist and every
listener map, and the services it provided are forgotten; the call ledger is kept. -/
def notifyConnectionClosed (e : Endpoint) (connectionHandle : ConnectionHandle) : Endpoint :=
  { e with
    topicSubscribeInfo := e.topicSubscribeInfo.mapValues fun info =>
      { info with blacklist := info.blacklist.erase connectionHandle }
    topicPublishInfo := e.topicPublishInfo.mapValues fun info =>
      { info with listeners := info.listeners.erase connectionHandle }
    serviceProviderInfo := e.serviceProviderInfo.eraseAll (e.lostServices connectionHandle) }

/-- The handler `Encoding::interpret_websocket_msg` calls for a decoded frame that arrived
on `connectionHandle`; `none` when the handler has no defined behaviour. -/
def receive (e : Endpoint) : Message → ConnectionHandle → Option (Endpoint × List Effect)
  | .advertise topicName messageType _, c =>
      some (e.receiveTopicAdvertisementWs topicName messageType c, [])
  | .unadvertise .., _ => some (e, [])
  | .publish topicName message, c => some (e, e.receivePublicationWs topicName message c)
  | .subscribe topicName messageType id, c =>
      (e.receiveSubscribeRequestWs topicName messageType id c).map (·, [])
  | .unsubscribe topicName id, c => some (e.receiveUnsubscribeRequestWs topicName id c, [])
  | .advertiseService serviceName reqType replyType, c =>
      some (e.receiveServiceAdvertisementWs serviceName reqType replyType c, [])
  | .unadvertiseService serviceName _, c =>
      some (e.receiveServiceUnadvertisementWs serviceName c, [])
  | .callService serviceName request id, c =>
      some (e, e.receiveServiceRequestWs enc serviceName request id c)
  | .serviceResponse _ response id, _ => some (e.receiveServiceResponseWs enc response id)

theorem mem_lostServices {e : Endpoint} {c : ConnectionHandle} {service : String} :
    service ∈ e.lostServices c ↔
      ∃ info, e.serviceProviderInfo.lookup service = some info ∧ info.connectionHandle = some c := by
  simp only [lostServices, List.mem_filterMap, Option.ite_none_right_eq_some, Option.some.injEq]
  constructor
  · rintro ⟨⟨key, info⟩, member, same, rfl⟩
    exact ⟨info, AList.mem_lookup_iff.mpr member, same⟩
  · rintro ⟨info, found, same⟩
    exact ⟨⟨service, info⟩, AList.mem_lookup_iff.mp found, same, rfl⟩

@[simp] theorem notifyConnectionClosed_provider (e : Endpoint) (c : ConnectionHandle)
    (service : String) : (e.notifyConnectionClosed c).serviceProviderInfo.lookup service =
      (e.serviceProviderInfo.lookup service).filter fun info => info.connectionHandle ≠ some c := by
  simp only [notifyConnectionClosed, Table.lookup_eraseAll, mem_lostServices]
  cases found : e.serviceProviderInfo.lookup service with
  | none => simp
  | some info => by_cases same : info.connectionHandle = some c <;> simp [same, Option.filter]

variable {enc} {e e' : Endpoint} {message : Message} {c : ConnectionHandle}
  {effects : List Effect}

theorem receiveSubscribeRequestWs_frame {topicName : String} {messageType : Option String}
    {id : String} (received : e.receiveSubscribeRequestWs topicName messageType id c = some e') :
    e' = { e with topicPublishInfo := e'.topicPublishInfo } := by
  unfold receiveSubscribeRequestWs at received
  split at received
  · cases received; rfl
  · split at received <;> cases received; rfl

/-- No frame handler touches the startup log, the client proxies or the call counter. -/
theorem receive_frame (received : e.receive enc message c = some (e', effects)) :
    e'.startupMessages = e.startupMessages ∧ e'.clientProxyInfo = e.clientProxyInfo ∧
      e'.nextServiceCallId = e.nextServiceCallId := by
  cases message with
  | subscribe topicName messageType id =>
    obtain ⟨e'', handled, same⟩ := Option.map_eq_some'.mp received
    cases same
    rw [receiveSubscribeRequestWs_frame handled]
    exact ⟨rfl, rfl, rfl⟩
  | serviceResponse serviceName response id =>
    simp only [receive, Option.some.injEq] at received
    unfold receiveServiceResponseWs at received
    split at received
    · cases received; exact ⟨rfl, rfl, rfl⟩
    · split at received <;> cases received <;> exact ⟨rfl, rfl, rfl⟩
  | _ =>
    simp only [receive, Option.some.injEq, Prod.mk.injEq] at received
    obtain ⟨rfl, -⟩ := received
    exact ⟨rfl, rfl, rfl⟩

end Endpoint
end WebSocketSH
