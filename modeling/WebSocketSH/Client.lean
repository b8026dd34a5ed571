import WebSocketSH.Endpoint.State

/-! The WebSocket client (`Client.cpp`): an endpoint with one outgoing connection, of TLS or
TCP kind as configured. Only the fields its send path reads are modelled. -/
namespace WebSocketSH

/-- The connection fields of `Client`: the configured kind and the current connection of
each kind (`nullptr` is `none`). -/
structure Client where
  useSecurity : Bool
  tlsConnection : Option ConnectionHandle := none
  tcpConnection : Option ConnectionHandle := none
deriving DecidableEq, Repr, Inhabited

namespace Client

/-- The connection of the configured kind, the one every method reads: `_tls_connection`
when `_use_security`, `_tcp_connection` otherwise. -/
def connection (client : Client) : Option ConnectionHandle :=
  if client.useSecurity then client.tlsConnection else client.tcpConnection

/-- The assignment `spin_once` makes to the connection of the configured kind. -/
def setConnection (client : Client) (c : Option ConnectionHandle) : Client :=
  if client.useSecurity then { client with tlsConnection := c }
  else { client with tcpConnection := c }

/-- `Client::okay`: a connection object exists, open or not. -/
def okay (client : Client) : Bool :=
  client.connection.isSome

@[simp] theorem connection_setConnection (client : Client) (c : Option ConnectionHandle) :
    (client.setConnection c).connection = c := by
  obtain ⟨_ | _, _, _⟩ := client <;> rfl

@[simp] theorem useSecurity_setConnection (client : Client) (c : Option ConnectionHandle) :
    (client.setConnection c).useSecurity = client.useSecurity := by
  obtain ⟨_ | _, _, _⟩ := client <;> rfl

/-- `Client::runtime_advertisement`: the encoded advertisement goes out on the current
connection of the configured kind, without a check for a refused encoding. -/
def runtimeAdvertisement (enc : Encoding) (client : Client) (topic messageType id : String)
    (configuration : YamlNode) : List Effect :=
  match client.useSecurity, client.tlsConnection, client.tcpConnection with
  | true, some tls, _ => [.send tls (enc.encodeAdvertiseMsg topic messageType id configuration)]
  | false, _, some tcp => [.send tcp (enc.encodeAdvertiseMsg topic messageType id configuration)]
  | _, _, _ => []

/-- The advertisement is sent exactly when a connection of the configured kind exists, on
that connection, whatever the encoder returned. -/
theorem runtimeAdvertisement_sends (enc : Encoding) (client : Client)
    (topic messageType id : String) (configuration : YamlNode) (c : ConnectionHandle)
    (payload : String) :
    Effect.send c payload ∈ client.runtimeAdvertisement enc topic messageType id configuration ↔
      (if client.useSecurity then client.tlsConnection else client.tcpConnection) = some c ∧
        payload = enc.encodeAdvertiseMsg topic messageType id configuration := by
  obtain ⟨_ | _, _ | tls, _ | tcp⟩ := client <;>
    simp [runtimeAdvertisement, eq_comm]

end Client
end WebSocketSH
