import WebSocketSH.Basic
import WebSocketSH.Endpoint.State
import WebSocketSH.Endpoint.Topics
import WebSocketSH.Endpoint.Services
import WebSocketSH.Endpoint.Connections
import WebSocketSH.Wire
import WebSocketSH.Node
import WebSocketSH.Providers
import WebSocketSH.Ledger
import WebSocketSH.Blacklist
import WebSocketSH.Listeners
import WebSocketSH.RequestOrder
import WebSocketSH.Client
import WebSocketSH.Configure
import WebSocketSH.StartupLog
import WebSocketSH.Bridge
import WebSocketSH.Reconnect
import WebSocketSH.PubSub
import WebSocketSH.ClientNode
import WebSocketSH.Registrations
