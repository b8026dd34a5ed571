import WebSocketSH.Reconnect
import WebSocketSH.Wire

/-! What the host alone decides. The startup log every new connection is sent, the services
the endpoint serves (`_client_proxy_info`) and the call counter are written only by host calls
(`subscribe`, `create_client_proxy`, `startup_advertisement`, `call_service`), each from
these fields alone; no frame from a remote connection, no opening and no close touches them.
So over every run, they are what the host's calls of that run give without any traffic. -/
namespace WebSocketSH

/-- The part of an endpoint only its host writes: the startup log, the services it serves
and the call counter. -/
def Endpoint.registrations (e : Endpoint) : List String × Table String ClientProxyInfo × Nat :=
  (e.startupMessages, e.clientProxyInfo, e.nextServiceCallId)

namespace Node
variable {enc : Encoding} {m n n' : Node} {event : Event} {effects : List Effect}

/-- Frames, openings and closes leave the registrations alone. -/
theorem registrations_remote (stepped : n.step enc event = some (n', effects))
    (remote : event.fromHost = false) : n'.endpoint.registrations = n.endpoint.registrations := by
  cases event with
  | frame message c =>
    obtain ⟨log, proxies, counter⟩ := Endpoint.receive_frame (step_frame stepped)
    simp [Endpoint.registrations, log, proxies, counter]
  | opened c =>
    simp only [step, Option.some.injEq, Prod.mk.injEq] at stepped
    rw [← stepped.1]
  | closed c =>
    simp only [step, Option.some.injEq, Prod.mk.injEq] at stepped
    rw [← stepped.1]
    rfl
  | _ => cases remote

/-- A host call is a step from every node, and what it makes of the registrations depends
on the registrations alone. -/
theorem registrations_host (same : m.endpoint.registrations = n.endpoint.registrations)
    (host : event.fromHost = true) (stepped : n.step enc event = some (n', effects)) :
    ∃ m' fx, m.step enc event = some (m', fx) ∧
      m'.endpoint.registrations = n'.endpoint.registrations := by
  simp only [Endpoint.registrations, Prod.mk.injEq] at same ⊢
  obtain ⟨log, proxies, counter⟩ := same
  cases event with
  | frame | opened | closed => cases host
  | callServiceSend thread =>
    simp only [step] at stepped ⊢
    split at stepped <;> cases stepped <;> split <;> exact ⟨_, _, rfl, log, proxies, counter⟩
  | receiveResponse handle response =>
    simp only [step] at stepped ⊢
    split at stepped <;> cases stepped <;> split <;> exact ⟨_, _, rfl, log, proxies, counter⟩
  | createClientProxy serviceName requestType replyType callback configuration =>
    simp only [step, Option.some.injEq, Prod.mk.injEq] at stepped
    obtain ⟨rfl, -⟩ := stepped
    refine ⟨_, _, rfl, ?_⟩
    cases replyType <;> simp [Endpoint.createClientProxy, log, proxies, counter]
  | _ =>
    simp only [step, Option.some.injEq, Prod.mk.injEq] at stepped
    obtain ⟨rfl, -⟩ := stepped
    exact ⟨_, _, rfl, by simp [Endpoint.subscribe, Endpoint.startupAdvertisement,
      Endpoint.createServiceProxy, Endpoint.callServiceLocked, log, proxies, counter]⟩

/-- Over every run of a node: running the host's calls of that run alone, in the same order
and with no frame, opening or close between them, leaves the same startup log, the same
served services and the same call counter. No remote peer can change what the endpoint
replays to new connections, which requests it dispatches to its host, or the ids it gives
its calls. -/
theorem registrations_ignore_remote_events {start : Node} {events : List Event}
    (ran : start.run enc events = some n) :
    ∃ m, start.run enc (events.filter Event.fromHost) = some m ∧
      m.endpoint.registrations = n.endpoint.registrations := by
  refine run_induction (P := fun events n => ∃ m,
      start.run enc (events.filter Event.fromHost) = some m ∧
        m.endpoint.registrations = n.endpoint.registrations) ⟨start, rfl, rfl⟩ ?_ ran
  intro events n event n' effects _ ⟨m, hostRun, same⟩ stepped
  cases host : event.fromHost
  · refine ⟨m, by simpa [host] using hostRun, ?_⟩
    rw [same, registrations_remote stepped host]
  · obtain ⟨m', fx, hostStep, same'⟩ := registrations_host same host stepped
    refine ⟨m', ?_, same'⟩
    rw [List.filter_append, Node.run_append, hostRun, Option.some_bind]
    simp [host, Node.run_cons, hostStep, Node.run, execute]

/-- A subscription request and an advertisement from a remote connection, between two host
calls, change none of what the host registered. -/
theorem registrations_ignore_remote_events_between_calls :
    ∃ n, Node.init.run .escaped
        [.subscribe "chat" "Str" default default, .frame (.subscribe "chat" (some "Str") "1") ⟨1⟩,
          .frame (.advertiseService "add" "Int" "Int") ⟨1⟩, .publish "chat" ⟨"hi"⟩] = some n ∧
      ∃ m, Node.init.run .escaped [.subscribe "chat" "Str" default default, .publish "chat" ⟨"hi"⟩] =
          some m ∧ m.endpoint.registrations = n.endpoint.registrations :=
  ⟨_, rfl, registrations_ignore_remote_events (rfl : Node.init.run .escaped
    [.subscribe "chat" "Str" default default, .frame (.subscribe "chat" (some "Str") "1") ⟨1⟩,
      .frame (.advertiseService "add" "Int" "Int") ⟨1⟩, .publish "chat" ⟨"hi"⟩] = some _)⟩

end Node
end WebSocketSH
