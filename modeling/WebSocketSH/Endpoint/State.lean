import WebSocketSH.Basic

/-! The endpoint's data model (`Endpoint.cpp`): the routing tables, the startup log and the
call counter, the records the host hands in and gets back, the encoding the endpoint is
configured with, and the effects an operation has outside the endpoint. Dynamic types are
represented by their names, the only part of them the core reads. -/
namespace WebSocketSH

/-- The `std::shared_ptr<void>` the transport hands out for one WebSocket connection. -/
structure ConnectionHandle where
  id : Nat
deriving DecidableEq, Repr, Inhabited

/-- Host objects the endpoint stores and hands back but never inspects. -/
structure SubscriptionCallback where
  id : Nat
deriving DecidableEq, Repr, Inhabited

structure RequestCallback where
  id : Nat
deriving DecidableEq, Repr, Inhabited

structure ServiceClient where
  id : Nat
deriving DecidableEq, Repr, Inhabited

/-- The opaque `std::shared_ptr<void> call_handle` a host passes to `call_service`. -/
structure ClientCallHandle where
  id : Nat
deriving DecidableEq, Repr, Inhabited

/-- An `xtypes::DynamicData` value, passed through between the encoding and the host. -/
structure DynamicData where
  json : String
deriving DecidableEq, Repr, Inhabited

/-- A `YAML::Node` forwarded verbatim; `default` is `YAML::Node{}`. -/
structure YamlNode where
  text : String
deriving DecidableEq, Repr, Inhabited

/-- The record an inbound service request carries to the host and back to `receive_response`. -/
structure CallHandle where
  serviceName : String
  requestType : String
  replyType : String
  id : String
  connectionHandle : ConnectionHandle
deriving DecidableEq, Repr, Inhabited

def makeCallHandle (serviceName requestType replyType id : String)
    (connectionHandle : ConnectionHandle) : CallHandle :=
  ⟨serviceName, requestType, replyType, id, connectionHandle⟩

/-- Field defaults are what default construction through `operator[]` leaves behind. -/
structure TopicSubscribeInfo where
  type : String := ""
  callback : SubscriptionCallback := default
  blacklist : Finset ConnectionHandle := ∅
deriving Inhabited

structure TopicPublishInfo where
  type : String := ""
  listeners : Table ConnectionHandle (Finset String) := ∅
deriving Inhabited

structure ClientProxyInfo where
  reqType : String := ""
  replyType : String := ""
  callback : RequestCallback := default
  configuration : YamlNode := default
deriving Inhabited

structure ServiceProviderInfo where
  reqType : String := ""
  replyType : String := ""
  connectionHandle : Option ConnectionHandle := none
  configuration : YamlNode := default
deriving Inhabited

structure ServiceRequestInfo where
  client : ServiceClient
  callHandle : ClientCallHandle
deriving DecidableEq, Repr, Inhabited

structure Endpoint where
  topicSubscribeInfo : Table String TopicSubscribeInfo := ∅
  topicPublishInfo : Table String TopicPublishInfo := ∅
  clientProxyInfo : Table String ClientProxyInfo := ∅
  serviceProviderInfo : Table String ServiceProviderInfo := ∅
  serviceRequestInfo : Table String ServiceRequestInfo := ∅
  startupMessages : List String := []
  nextServiceCallId : Nat := 1
deriving Inhabited

/-- `Endpoint::Endpoint`: empty tables and `_next_service_call_id(1)`. -/
def Endpoint.init : Endpoint := {}

/-- A frame as `Encoding::interpret_websocket_msg` decodes it: the receive handler it is
dispatched to, with that handler's arguments. -/
inductive Message where
  | advertise (topicName messageType id : String)
  | unadvertise (topicName id : String)
  | publish (topicName : String) (message : DynamicData)
  | subscribe (topicName : String) (messageType : Option String) (id : String)
  | unsubscribe (topicName id : String)
  | advertiseService (serviceName reqType replyType : String)
  | unadvertiseService (serviceName : String) (serviceType : Option String)
  | callService (serviceName : String) (request : DynamicData) (id : String)
  | serviceResponse (serviceName : String) (response : DynamicData) (id : String)
deriving DecidableEq, Repr

/-- The collaborators outside the repository the core consumes: the six encoders, which
return `""` to refuse a value, the frame decoder, and `json_xtypes::convert`, which the
debug logs of two handlers call and which throws (`none`) on an unsupported value. -/
structure Encoding where
  encodeAdvertiseMsg : (topic type id : String) → YamlNode → String
  encodePublicationMsg : (topic type id : String) → DynamicData → String
  encodeSubscribeMsg : (topic type id : String) → YamlNode → String
  encodeAdvertiseServiceMsg : (service reqType replyType id : String) → YamlNode → String
  encodeCallServiceMsg : (service reqType : String) → DynamicData → (id : String) → YamlNode → String
  encodeServiceResponseMsg : (service replyType id : String) → DynamicData → Bool → String
  interpretWebsocketMsg : String → Option Message
  convert : DynamicData → Option String

/-- The encoding that refuses every value: each encoder returns the empty string. -/
def Encoding.refusing : Encoding where
  encodeAdvertiseMsg _ _ _ _ := ""
  encodePublicationMsg _ _ _ _ := ""
  encodeSubscribeMsg _ _ _ _ := ""
  encodeAdvertiseServiceMsg _ _ _ _ _ := ""
  encodeCallServiceMsg _ _ _ _ _ := ""
  encodeServiceResponseMsg _ _ _ _ _ := ""
  interpretWebsocketMsg _ := none
  convert data := some data.json

inductive Exception where
  /-- `std::out_of_range` from `std::unordered_map::at`. -/
  | outOfRange
  /-- What `get_con_from_hdl` throws for an empty connection handle (`bad_connection`). -/
  | badConnection
deriving DecidableEq, Repr

/-- What an operation does outside the endpoint's own state. -/
inductive Effect where
  /-- `connection->send(payload)`. -/
  | send (connection : ConnectionHandle) (payload : String)
  /-- `(*info.callback)(message, nullptr)`: a publication handed to a local subscriber. -/
  | publication (callback : SubscriptionCallback) (message : DynamicData)
  /-- `(*info.callback)(request, *this, call_handle)`: a request handed to the local server. -/
  | request (callback : RequestCallback) (request : DynamicData) (handle : CallHandle)
  /-- `client->receive_response(call_handle, response)`. -/
  | response (client : ServiceClient) (handle : ClientCallHandle) (response : DynamicData)
  /-- An exception that leaves the operation and reaches the host. -/
  | raise (exception : Exception)
deriving DecidableEq, Repr

/-- `if (!payload.empty()) connection->send(payload)`: a refused encoding is dropped. -/
def sendUnlessEmpty (connection : ConnectionHandle) (payload : String) : List Effect :=
  if payload = "" then [] else [.send connection payload]

theorem mem_sendUnlessEmpty {connection target : ConnectionHandle} {payload frame : String} :
    Effect.send target frame ∈ sendUnlessEmpty connection payload ↔
      target = connection ∧ frame = payload ∧ payload ≠ "" := by
  unfold sendUnlessEmpty
  split <;> simp_all [eq_comm]

end WebSocketSH
