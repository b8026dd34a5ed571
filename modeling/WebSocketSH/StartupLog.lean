import WebSocketSH.Providers
import WebSocketSH.Listeners
import WebSocketSH.Client
import WebSocketSH.Wire

/-! The startup log (`_startup_messages`) and the frames sent on a connection. The log only
grows, by one frame for each `subscribe`, two-type `create_client_proxy` and
`startup_advertisement`, and a connection that opens is sent the whole log as it stands.
Every other frame goes to a connection the endpoint has heard from. The senders outside
the replay drop a refused (empty) encoding; the replay and the client's runtime
advertisement send it. -/
namespace WebSocketSH

/-- The frames an event appends to the startup log. -/
def Event.logged (enc : Encoding) : Event → List String
  | .subscribe topicName messageType _ configuration =>
    [enc.encodeSubscribeMsg topicName messageType "" configuration]
  | .createClientProxy serviceName requestType (some reply) _ configuration =>
    [enc.encodeAdvertiseServiceMsg serviceName requestType reply "" configuration]
  | .startupAdvertisement topic messageType id configuration =>
    [enc.encodeAdvertiseMsg topic messageType id configuration]
  | _ => []

namespace Endpoint
variable {enc : Encoding} {e e' : Endpoint} {message : Message} {c d : ConnectionHandle}
  {effects : List Effect}

/-- Frame handlers send nothing: they only hand publications, requests and responses to
the host. -/
theorem receive_sends_nothing (received : e.receive enc message d = some (e', effects))
    (payload : String) : Effect.send c payload ∉ effects := by
  cases message with
  | subscribe topicName messageType id =>
    obtain ⟨_, -, same⟩ := Option.map_eq_some'.mp received
    cases same
    simp
  | publish topicName data =>
    simp only [receive, Option.some.injEq, Prod.mk.injEq] at received
    obtain ⟨-, rfl⟩ := received
    unfold receivePublicationWs
    split
    · simp
    · split <;> simp
  | callService serviceName request id =>
    simp only [receive, Option.some.injEq, Prod.mk.injEq] at received
    obtain ⟨-, rfl⟩ := received
    unfold receiveServiceRequestWs
    split
    · simp
    · split <;> simp
  | serviceResponse serviceName response id =>
    simp only [receive, Option.some.injEq] at received
    unfold receiveServiceResponseWs at received
    split at received
    · cases received; simp
    · split at received <;> cases received <;> simp
  | _ =>
    simp only [receive, Option.some.injEq, Prod.mk.injEq] at received
    obtain ⟨-, rfl⟩ := received
    simp

/-- The call handles a frame hands to the host name the connection it arrived on. -/
theorem receive_handles (received : e.receive enc message d = some (e', effects)) :
    ∀ handle ∈ handlesOf effects, handle.connectionHandle = d := by
  cases message with
  | callService serviceName request id =>
    simp only [receive, Option.some.injEq, Prod.mk.injEq] at received
    obtain ⟨-, rfl⟩ := received
    exact fun _ member => (handlesOf_receiveServiceRequestWs member).2
  | subscribe topicName messageType id =>
    obtain ⟨_, -, same⟩ := Option.map_eq_some'.mp received
    cases same
    simp [handlesOf]
  | publish topicName data =>
    simp only [receive, Option.some.injEq, Prod.mk.injEq] at received
    obtain ⟨-, rfl⟩ := received
    unfold receivePublicationWs
    split
    · simp [handlesOf]
    · split <;> simp [handlesOf]
  | serviceResponse serviceName response id =>
    simp only [receive, Option.some.injEq] at received
    unfold receiveServiceResponseWs at received
    split at received
    · cases received; simp [handlesOf]
    · split at received <;> cases received <;> simp [handlesOf]
  | _ =>
    simp only [receive, Option.some.injEq, Prod.mk.injEq] at received
    obtain ⟨-, rfl⟩ := received
    simp [handlesOf]

/-- Only a subscription request from `c` can add `c` to a listener map. -/
theorem listenerIdsAfter_eq_some {topic : String} {event : Event} {ids : Finset String}
    (listed : e.listenerIdsAfter topic c event = some ids) :
    (∃ message, event = .frame message c) ∨ (e.listenerIds topic c).isSome := by
  unfold listenerIdsAfter at listed
  split at listed
  · split_ifs at listed with hit
    · exact .inl ⟨_, by rw [hit.2.1]⟩
    · simp [listed]
  · split_ifs at listed
    · obtain ⟨old, found, -⟩ := Option.bind_eq_some.mp listed
      simp [found]
    · simp [listed]
  · split_ifs at listed
    · simp [listed]
  · simp [listed]

end Endpoint

namespace Node
variable {enc : Encoding} {n n' : Node} {event : Event} {effects : List Effect}
  {events : List Event} {c : ConnectionHandle} {payload : String}

/-- The connections the endpoint sends to on its own initiative: the listeners of a topic,
the recorded providers, and the connections of the call handles the host holds. -/
def Reaches (n : Node) (c : ConnectionHandle) : Prop :=
  (∃ topic, (n.endpoint.listenerIds topic c).isSome) ∨
    (∃ service, n.endpoint.providerConnection service = some c) ∨
    ∃ handle ∈ n.handles, handle.connectionHandle = c

theorem step_startupMessages (stepped : n.step enc event = some (n', effects)) :
    n'.endpoint.startupMessages = n.endpoint.startupMessages ++ event.logged enc := by
  cases event with
  | frame message d =>
    simp [Event.logged, (Endpoint.receive_frame (step_frame stepped)).1]
  | createClientProxy serviceName requestType replyType callback configuration =>
    simp only [step, Option.some.injEq, Prod.mk.injEq] at stepped
    obtain ⟨rfl, -⟩ := stepped
    cases replyType <;> simp [Event.logged, Endpoint.createClientProxy]
  | callServiceSend thread =>
    simp only [step] at stepped
    split at stepped <;> cases stepped <;> simp [Event.logged]
  | receiveResponse handle response =>
    simp only [step] at stepped
    split at stepped <;> cases stepped <;> simp [Event.logged]
  | _ =>
    simp only [step, Option.some.injEq, Prod.mk.injEq] at stepped
    obtain ⟨rfl, -⟩ := stepped
    simp [Event.logged, Endpoint.subscribe, Endpoint.startupAdvertisement,
      Endpoint.createServiceProxy, Endpoint.callServiceLocked, Endpoint.notifyConnectionClosed]

theorem startupMessages_run {start : Node} (ran : start.run enc events = some n) :
    n.endpoint.startupMessages =
      start.endpoint.startupMessages ++ events.flatMap (Event.logged enc) :=
  run_induction (P := fun events n => n.endpoint.startupMessages =
      start.endpoint.startupMessages ++ events.flatMap (Event.logged enc)) (by simp)
    (fun _ _ _ _ _ _ logged stepped => by simp [step_startupMessages stepped, logged]) ran

/-- A step sends a frame either as the startup replay of an opening connection, or to a
connection the endpoint reaches, with a non-empty payload. -/
theorem step_send (stepped : n.step enc event = some (n', effects))
    (sent : Effect.send c payload ∈ effects) :
    event = .opened c ∧ payload ∈ n.endpoint.startupMessages ∨ n.Reaches c ∧ payload ≠ "" := by
  cases event with
  | publish topic message =>
    simp only [step, Option.some.injEq, Prod.mk.injEq] at stepped
    obtain ⟨-, rfl⟩ := stepped
    obtain ⟨info, found, member, -, refused⟩ := Endpoint.mem_publish_send.mp sent
    refine .inr ⟨.inl ⟨topic, ?_⟩, refused⟩
    simpa [Endpoint.listenerIds, found] using AList.lookup_isSome.mpr member
  | callServiceSend thread =>
    simp only [step] at stepped
    split at stepped
    · cases stepped; simp at sent
    · simp only [Option.some.injEq, Prod.mk.injEq] at stepped
      obtain ⟨-, rfl⟩ := stepped
      obtain ⟨provider, refused⟩ := Endpoint.callServiceSend_target sent
      exact .inr ⟨.inr (.inl ⟨_, provider⟩), refused⟩
  | receiveResponse handle response =>
    simp only [step] at stepped
    split at stepped
    · cases stepped; simp at sent
    · next callHandle found =>
      simp only [Option.some.injEq, Prod.mk.injEq] at stepped
      obtain ⟨-, rfl⟩ := stepped
      obtain ⟨rfl, rfl, refused⟩ := mem_sendUnlessEmpty.mp sent
      exact .inr ⟨.inr (.inr ⟨callHandle, List.getElem?_mem found, rfl⟩), refused⟩
  | opened d =>
    simp only [step, Option.some.injEq, Prod.mk.injEq] at stepped
    obtain ⟨-, rfl⟩ := stepped
    obtain ⟨logged, member, same⟩ := List.mem_map.mp sent
    cases same
    exact .inl ⟨rfl, member⟩
  | frame message d =>
    exact absurd sent (Endpoint.receive_sends_nothing (step_frame stepped) payload)
  | _ =>
    simp only [step, Option.some.injEq, Prod.mk.injEq] at stepped
    obtain ⟨-, rfl⟩ := stepped
    simp at sent

theorem step_handles (stepped : n.step enc event = some (n', effects)) :
    ∀ handle ∈ n'.handles,
      handle ∈ n.handles ∨ ∃ message, event = .frame message handle.connectionHandle := by
  intro handle member
  cases event with
  | frame message d =>
    have received := step_frame stepped
    obtain ⟨⟨e', fx⟩, -, same⟩ := Option.map_eq_some'.mp stepped
    simp only [Prod.mk.injEq] at same
    obtain ⟨rfl, rfl⟩ := same
    rcases List.mem_append.mp member with old | new
    · exact .inl old
    · exact .inr ⟨message, by rw [Endpoint.receive_handles received handle new]⟩
  | callServiceSend thread =>
    simp only [step] at stepped
    split at stepped <;> cases stepped <;> exact .inl member
  | receiveResponse handle response =>
    simp only [step] at stepped
    split at stepped <;> cases stepped <;> exact .inl member
  | _ =>
    simp only [step, Option.some.injEq, Prod.mk.injEq] at stepped
    obtain ⟨rfl, -⟩ := stepped
    exact .inl member

/-- A step makes the endpoint reach a new connection only by a frame from it. -/
theorem step_reaches (stepped : n.step enc event = some (n', effects)) (reaches : n'.Reaches c) :
    n.Reaches c ∨ ∃ message, event = .frame message c := by
  rcases reaches with ⟨topic, listed⟩ | ⟨service, provider⟩ | ⟨handle, member, rfl⟩
  · obtain ⟨ids, listed⟩ := Option.isSome_iff_exists.mp listed
    rw [step_listenerIds stepped] at listed
    rcases Endpoint.listenerIdsAfter_eq_some listed with fromC | old
    · exact .inr fromC
    · exact .inl (.inl ⟨topic, old⟩)
  · rcases (step_providerConnection stepped).mp provider with ⟨_, _, rfl⟩ | ⟨old, -⟩
    · exact .inr ⟨_, rfl⟩
    · exact .inl (.inr (.inl ⟨service, old⟩))
  · rcases step_handles stepped handle member with old | fromC
    · exact .inl (.inr (.inr ⟨handle, old, rfl⟩))
    · exact .inr fromC

theorem reaches_heard (ran : Node.init.run enc events = some n) (reaches : n.Reaches c) :
    ∃ message, Event.frame message c ∈ events := by
  refine run_induction (P := fun events n =>
    ∀ c, n.Reaches c → ∃ message, Event.frame message c ∈ events) ?_ ?_ ran c reaches
  · simp [Reaches, init, Endpoint.init, Endpoint.listenerIds, Endpoint.providerConnection]
  · intro events m event m' effects _ heard stepped c reaches
    rcases step_reaches stepped reaches with old | ⟨message, rfl⟩
    · obtain ⟨message, member⟩ := heard c old
      exact ⟨message, List.mem_append_left _ member⟩
    · exact ⟨message, by simp⟩

/-- The startup log holds one frame for each `subscribe`, two-type `create_client_proxy`
and `startup_advertisement` of the run, in order, and later events only append to it; an
opening connection is sent the whole log as it stands; every other frame goes to a
connection the endpoint has heard from, so, with a transport that delivers a connection's
frames only after it opens, after that connection's startup replay. -/
theorem startup_log_replayed (ran : Node.init.run enc events = some n) :
    n.endpoint.startupMessages = events.flatMap (Event.logged enc) ∧
      (∀ more n', n.run enc more = some n' →
        n'.endpoint.startupMessages = n.endpoint.startupMessages ++ more.flatMap (Event.logged enc)) ∧
      (∀ c, n.step enc (.opened c) = some (n, n.endpoint.startupMessages.map (.send c))) ∧
      ∀ event n' effects c payload, n.step enc event = some (n', effects) →
        Effect.send c payload ∈ effects → event ≠ .opened c →
        (∀ before message after, events = before ++ .frame message c :: after →
          Event.opened c ∈ before) →
        Event.opened c ∈ events := by
  refine ⟨by simpa [init, Endpoint.init] using startupMessages_run ran,
    fun _ _ later => startupMessages_run later, fun _ => rfl, ?_⟩
  intro event n' effects c payload stepped sent other transport
  rcases step_send stepped sent with ⟨opening, -⟩ | ⟨reaches, -⟩
  · exact absurd opening other
  · obtain ⟨message, heard⟩ := reaches_heard ran reaches
    obtain ⟨before, after, split⟩ := List.append_of_mem heard
    rw [split]
    exact List.mem_append_left _ (transport before message after split)

/-- A subscription and a served service are replayed to an opening connection in the order
the host registered them. -/
theorem startup_log_replayed_in_order_on_open :
    ∃ n, Node.init.run .escaped [.subscribe "chat" "Str" default default,
        .createClientProxy "add" "Pair" (some "Int") ⟨1⟩ default] = some n ∧
      n.step .escaped (.opened ⟨1⟩) = some (n, [.send ⟨1⟩ (Wire.frame 'S' ["chat", "Str", ""]),
        .send ⟨1⟩ (Wire.frame 'V' ["add", "Pair", "Int"])]) := by
  refine ⟨_, rfl, ?_⟩
  have replayed := startup_log_replayed (rfl : Node.init.run .escaped
    [.subscribe "chat" "Str" default default,
      .createClientProxy "add" "Pair" (some "Int") ⟨1⟩ default] = some _)
  rw [replayed.2.2.1, replayed.1]
  rfl

/-- With an encoder that refuses the frames of the startup log, the replay on an opening
connection and the client's runtime advertisement both send the empty frame. -/
theorem refused_frames_sent_by_replay_and_runtime_advertisement :
    ((Node.init.run .refusing [.subscribe "chat" "Str" default default]).bind
        (·.step .refusing (.opened ⟨1⟩))).map Prod.snd = some [.send ⟨1⟩ ""] ∧
      Client.runtimeAdvertisement .refusing { useSecurity := false, tcpConnection := some ⟨1⟩ }
        "chat" "Str" "" default = [.send ⟨1⟩ ""] :=
  ⟨by decide, rfl⟩

end Node
end WebSocketSH
