import WebSocketSH.Endpoint.State

/-! Service routing (`Endpoint.cpp`): the services this endpoint serves (client proxies),
the remote providers it calls (service proxies), the in-flight call ledger, and the two
halves of `call_service` that a concurrent host may interleave with everything else. -/
namespace WebSocketSH
namespace Endpoint
variable (enc : Encoding)

/-- `Endpoint::create_client_proxy`, both overloads: with a reply type it also appends the
service advertisement to the startup log; without one the entry's reply type is kept. -/
def createClientProxy (e : Endpoint) (serviceName requestType : String)
    (replyType : Option String) (callback : RequestCallback) (configuration : YamlNode) :
    Endpoint :=
  match replyType with
  | some reply =>
    { e with
      clientProxyInfo := e.clientProxyInfo.update serviceName {} fun info =>
        { info with reqType := requestType, replyType := reply, callback, configuration }
      startupMessages := e.startupMessages ++
        [enc.encodeAdvertiseServiceMsg serviceName requestType reply "" configuration] }
  | none =>
    { e with clientProxyInfo := e.clientProxyInfo.update serviceName {} fun info =>
        { info with reqType := requestType, callback, configuration } }

section
variable {e : Endpoint} {serviceName requestType : String} {replyType : Option String}
  {callback : RequestCallback} {configuration : YamlNode}

@[simp] theorem createClientProxy_topicSubscribeInfo :
    (e.createClientProxy enc serviceName requestType replyType callback configuration).topicSubscribeInfo =
      e.topicSubscribeInfo := by cases replyType <;> rfl

@[simp] theorem createClientProxy_topicPublishInfo :
    (e.createClientProxy enc serviceName requestType replyType callback configuration).topicPublishInfo =
      e.topicPublishInfo := by cases replyType <;> rfl

@[simp] theorem createClientProxy_serviceProviderInfo :
    (e.createClientProxy enc serviceName requestType replyType callback configuration).serviceProviderInfo =
      e.serviceProviderInfo := by cases replyType <;> rfl

@[simp] theorem createClientProxy_serviceRequestInfo :
    (e.createClientProxy enc serviceName requestType replyType callback configuration).serviceRequestInfo =
      e.serviceRequestInfo := by cases replyType <;> rfl

@[simp] theorem createClientProxy_nextServiceCallId :
    (e.createClientProxy enc serviceName requestType replyType callback configuration).nextServiceCallId =
      e.nextServiceCallId := by cases replyType <;> rfl

end

/-- `Endpoint::create_service_proxy`, both overloads. The provider's connection stays as
it was: empty for a new entry. -/
def createServiceProxy (e : Endpoint) (serviceName requestType : String)
    (replyType : Option String) (configuration : YamlNode) : Endpoint :=
  { e with serviceProviderInfo := e.serviceProviderInfo.update serviceName {} fun info =>
      match replyType with
      | some reply => { info with reqType := requestType, replyType := reply, configuration }
      | none => { info with reqType := requestType, configuration } }

/-- The block of `Endpoint::call_service` under `_next_service_call_id_mutex`: take the
next id, advance the `size_t` counter and record the caller under the id's decimal
string, which the call keeps for the rest of its run. -/
def callServiceLocked (e : Endpoint) (client : ServiceClient) (callHandle : ClientCallHandle) :
    Endpoint × String :=
  let id := e.nextServiceCallId
  ({ e with
      nextServiceCallId := (id + 1) % sizeModulus
      serviceRequestInfo := e.serviceRequestInfo.insert (toString id) ⟨client, callHandle⟩ },
    toString id)

/-- The rest of `Endpoint::call_service`, outside the lock: `at` throws for an unknown
provider, a refused encoding returns silently, and `get_con_from_hdl` throws for a
provider entry without a connection. -/
def callServiceSend (e : Endpoint) (service : String) (request : DynamicData) (idStr : String) :
    List Effect :=
  match e.serviceProviderInfo.lookup service with
  | none => [.raise .outOfRange]
  | some providerInfo =>
    let payload := enc.encodeCallServiceMsg service providerInfo.reqType request idStr
      providerInfo.configuration
    if payload = "" then []
    else match providerInfo.connectionHandle with
      | none => [.raise .badConnection]
      | some connection => [.send connection payload]

/-- `Endpoint::call_service` run without interruption. -/
def callService (e : Endpoint) (service : String) (request : DynamicData) (client : ServiceClient)
    (callHandle : ClientCallHandle) : Endpoint × List Effect :=
  let (locked, idStr) := e.callServiceLocked client callHandle
  (locked, callServiceSend enc locked service request idStr)

/-- `Endpoint::receive_response`: the host's reply goes back, under the request's id, on
the connection the request came from. -/
def receiveResponse (callHandle : CallHandle) (response : DynamicData) : List Effect :=
  sendUnlessEmpty callHandle.connectionHandle
    (enc.encodeServiceResponseMsg callHandle.serviceName callHandle.replyType callHandle.id
      response true)

/-- `Endpoint::receive_service_request_ws`. The debug log converts the request to JSON; a
conversion that throws is caught and the request is dropped. -/
def receiveServiceRequestWs (e : Endpoint) (serviceName : String) (request : DynamicData)
    (id : String) (connectionHandle : ConnectionHandle) : List Effect :=
  match e.clientProxyInfo.lookup serviceName with
  | none => []
  | some info =>
    match enc.convert request with
    | none => []
    | some _ => [.request info.callback request
        (makeCallHandle serviceName info.reqType info.replyType id connectionHandle)]

/-- `Endpoint::receive_service_advertisement_ws`: the last advertiser wins. -/
def receiveServiceAdvertisementWs (e : Endpoint) (serviceName reqType replyType : String)
    (connectionHandle : ConnectionHandle) : Endpoint :=
  { e with serviceProviderInfo :=
      e.serviceProviderInfo.insert serviceName ⟨reqType, replyType, some connectionHandle, default⟩ }

/-- `Endpoint::receive_service_unadvertisement_ws`: only the recorded provider can withdraw. -/
def receiveServiceUnadvertisementWs (e : Endpoint) (serviceName : String)
    (connectionHandle : ConnectionHandle) : Endpoint :=
  { e with serviceProviderInfo :=
      match e.serviceProviderInfo.lookup serviceName with
      | none => e.serviceProviderInfo
      | some info =>
        if info.connectionHandle = some connectionHandle then
          e.serviceProviderInfo.erase serviceName
        else e.serviceProviderInfo }

/-- `Endpoint::receive_service_response_ws`: looked up by id alone; the entry is erased
after its client has the response. A throwing debug-log conversion is caught first. -/
def receiveServiceResponseWs (e : Endpoint) (response : DynamicData) (id : String) :
    Endpoint × List Effect :=
  match e.serviceRequestInfo.lookup id with
  | none => (e, [])
  | some info =>
    match enc.convert response with
    | none => (e, [])
    | some _ => ({ e with serviceRequestInfo := e.serviceRequestInfo.erase id },
        [.response info.client info.callHandle response])

end Endpoint
end WebSocketSH
