import WebSocketSH.Endpoint.State

/-! Topic routing (`Endpoint.cpp`): local subscriptions and their blacklists, the publish
table fed by remote subscription requests, and `publish`. Each operation rewrites only the
fields of the endpoint it writes, so every other field is unchanged by definition. -/
namespace WebSocketSH

/-- `info.listeners[connection_handle].insert(id)`. -/
def TopicPublishInfo.listen (info : TopicPublishInfo) (connectionHandle : ConnectionHandle)
    (id : String) : TopicPublishInfo :=
  { info with listeners := info.listeners.update connectionHandle ∅ (insert id) }

namespace Endpoint
variable (enc : Encoding)

/-- `Endpoint::subscribe`: one startup frame, and the topic's expected type and callback. -/
def subscribe (e : Endpoint) (topicName messageType : String) (callback : SubscriptionCallback)
    (configuration : YamlNode) : Endpoint :=
  { e with
    startupMessages :=
      e.startupMessages ++ [enc.encodeSubscribeMsg topicName messageType "" configuration]
    topicSubscribeInfo := e.topicSubscribeInfo.update topicName {} fun info =>
      { info with type := messageType, callback := callback } }

/-- `Endpoint::startup_advertisement`, reached through the publisher `advertise` returns. -/
def startupAdvertisement (e : Endpoint) (topic messageType id : String)
    (configuration : YamlNode) : Endpoint :=
  { e with
    topicPublishInfo := e.topicPublishInfo.update topic {} fun info =>
      { info with type := messageType }
    startupMessages :=
      e.startupMessages ++ [enc.encodeAdvertiseMsg topic messageType id configuration] }

/-- `Endpoint::publish`: one encoding and one send per listening connection. `at` throws
for a topic that was neither advertised nor requested. -/
def publish (e : Endpoint) (topic : String) (message : DynamicData) : List Effect :=
  match e.topicPublishInfo.lookup topic with
  | none => [.raise .outOfRange]
  | some info => info.listeners.keys.flatMap fun connection =>
      sendUnlessEmpty connection (enc.encodePublicationMsg topic info.type "" message)

/-- `Endpoint::receive_topic_advertisement_ws`: a mismatching type blacklists the
connection for a subscribed topic, a matching one clears it. -/
def receiveTopicAdvertisementWs (e : Endpoint) (topicName messageType : String)
    (connectionHandle : ConnectionHandle) : Endpoint :=
  { e with topicSubscribeInfo :=
      match e.topicSubscribeInfo.lookup topicName with
      | none => e.topicSubscribeInfo
      | some info => e.topicSubscribeInfo.insert topicName
          { info with blacklist :=
              if messageType ≠ info.type then insert connectionHandle info.blacklist
              else info.blacklist.erase connectionHandle } }

/-- `Endpoint::receive_publication_ws`. -/
def receivePublicationWs (e : Endpoint) (topicName : String) (message : DynamicData)
    (connectionHandle : ConnectionHandle) : List Effect :=
  match e.topicSubscribeInfo.lookup topicName with
  | none => []
  | some info =>
      if connectionHandle ∈ info.blacklist then [] else [.publication info.callback message]

/-- `Endpoint::receive_subscribe_request_ws`. A request that creates the topic's entry is
recorded unchecked; on an existing entry a typed request must name the entry's type, and
an untyped one reaches the debug log, which dereferences the null `message_type`: the
model has no successor state for it. -/
def receiveSubscribeRequestWs (e : Endpoint) (topicName : String) (messageType : Option String)
    (id : String) (connectionHandle : ConnectionHandle) : Option Endpoint :=
  match e.topicPublishInfo.lookup topicName with
  | none => some { e with topicPublishInfo :=
      e.topicPublishInfo.insert topicName (({} : TopicPublishInfo).listen connectionHandle id) }
  | some info =>
    match messageType with
    | none => none
    | some type => some { e with topicPublishInfo :=
        if type ≠ info.type then e.topicPublishInfo
        else e.topicPublishInfo.insert topicName (info.listen connectionHandle id) }

/-- `Endpoint::receive_unsubscribe_request_ws`: an empty id, or the last id of a
connection, removes the connection from the topic's listeners. -/
def receiveUnsubscribeRequestWs (e : Endpoint) (topicName id : String)
    (connectionHandle : ConnectionHandle) : Endpoint :=
  { e with topicPublishInfo :=
      match e.topicPublishInfo.lookup topicName with
      | none => e.topicPublishInfo
      | some info =>
        match info.listeners.lookup connectionHandle with
        | none => e.topicPublishInfo
        | some ids => e.topicPublishInfo.insert topicName
            { info with listeners :=
                if id = "" then info.listeners.erase connectionHandle
                else if ids.erase id = ∅ then info.listeners.erase connectionHandle
                else info.listeners.insert connectionHandle (ids.erase id) } }

end Endpoint
end WebSocketSH
