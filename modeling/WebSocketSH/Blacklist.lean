import WebSocketSH.Node

/-! The subscribe blacklists (`TopicSubscribeInfo::blacklist`). A connection is judged only
when its advertisement of a subscribed topic arrives, against the type expected at that
moment: advertisements of a topic not yet subscribed are ignored, and a later `subscribe`
that changes the expected type does not judge the connections again. -/
namespace WebSocketSH

namespace Endpoint
variable {e : Endpoint} {topic topicName : String} {c d : ConnectionHandle}

/-- Publications on `topic` from `c` are being dropped. -/
def Blacklists (e : Endpoint) (topic : String) (c : ConnectionHandle) : Prop :=
  ∃ info, e.topicSubscribeInfo.lookup topic = some info ∧ c ∈ info.blacklist

theorem blacklists_subscribe (enc : Encoding) (messageType : String) (callback : SubscriptionCallback)
    (configuration : YamlNode) :
    (e.subscribe enc topicName messageType callback configuration).Blacklists topic c ↔
      e.Blacklists topic c := by
  unfold Blacklists subscribe
  rw [Table.lookup_update]
  split
  · subst topic
    cases e.topicSubscribeInfo.lookup topicName <;> simp
  · rfl

theorem blacklists_receiveTopicAdvertisementWs (messageType : String) :
    (e.receiveTopicAdvertisementWs topicName messageType d).Blacklists topic c ↔
      topic = topicName ∧ d = c ∧
        (∃ info, e.topicSubscribeInfo.lookup topicName = some info ∧ messageType ≠ info.type) ∨
      e.Blacklists topic c ∧ ¬(topic = topicName ∧ d = c) := by
  unfold Blacklists receiveTopicAdvertisementWs
  cases found : e.topicSubscribeInfo.lookup topicName with
  | none =>
    by_cases same : topic = topicName
    · subst same; simp [found]
    · simp [same]
  | some info =>
    by_cases same : topic = topicName
    · subst same
      by_cases who : d = c
      · subst who
        by_cases mismatch : messageType = info.type <;> simp [AList.lookup_insert, found, mismatch]
      · have other : c ≠ d := Ne.symm who
        by_cases mismatch : messageType = info.type <;>
          simp [AList.lookup_insert, found, mismatch, who, other]
    · simp [AList.lookup_insert_ne same, same]

theorem blacklists_notifyConnectionClosed :
    (e.notifyConnectionClosed d).Blacklists topic c ↔ e.Blacklists topic c ∧ d ≠ c := by
  unfold Blacklists notifyConnectionClosed
  simp only [Table.lookup_mapValues]
  cases e.topicSubscribeInfo.lookup topic <;> simp [and_comm, eq_comm]

theorem receivePublicationWs_ne_nil {message : DynamicData} :
    e.receivePublicationWs topic message c ≠ [] ↔
      (e.topicSubscribeInfo.lookup topic).isSome ∧ ¬e.Blacklists topic c := by
  unfold receivePublicationWs Blacklists
  cases e.topicSubscribeInfo.lookup topic with
  | none => simp
  | some info => by_cases blocked : c ∈ info.blacklist <;> simp [blocked]

variable {enc : Encoding} {e' : Endpoint} {message : Message} {effects : List Effect}

theorem receive_topicSubscribeInfo_type (received : e.receive enc message d = some (e', effects)) :
    (e'.topicSubscribeInfo.lookup topic).map (·.type) = (e.topicSubscribeInfo.lookup topic).map (·.type) := by
  cases message with
  | advertise topicName messageType id =>
    simp only [receive, Option.some.injEq, Prod.mk.injEq] at received
    obtain ⟨rfl, -⟩ := received
    unfold receiveTopicAdvertisementWs
    cases found : e.topicSubscribeInfo.lookup topicName with
    | none => rfl
    | some info =>
      by_cases same : topic = topicName
      · subst same; simp [AList.lookup_insert, found]
      · simp [AList.lookup_insert_ne same]
  | subscribe topicName messageType id =>
    obtain ⟨e'', handled, same⟩ := Option.map_eq_some'.mp received
    cases same
    rw [receiveSubscribeRequestWs_frame handled]
  | serviceResponse service response id =>
    simp only [receive, Option.some.injEq] at received
    unfold receiveServiceResponseWs at received
    split at received
    · cases received; rfl
    · split at received <;> cases received <;> rfl
  | _ =>
    simp only [receive, Option.some.injEq, Prod.mk.injEq] at received
    obtain ⟨rfl, -⟩ := received
    rfl

/-- A frame changes a blacklist only by an advertisement of the topic from the connection. -/
theorem receive_blacklists (received : e.receive enc message d = some (e', effects)) :
    e'.Blacklists topic c ↔
      (∃ type id, message = .advertise topic type id ∧ d = c ∧
        ∃ info, e.topicSubscribeInfo.lookup topic = some info ∧ type ≠ info.type) ∨
      e.Blacklists topic c ∧ ∀ type id, message = .advertise topic type id → d ≠ c := by
  cases message with
  | advertise topicName messageType id =>
    simp only [receive, Option.some.injEq, Prod.mk.injEq] at received
    obtain ⟨rfl, -⟩ := received
    rw [blacklists_receiveTopicAdvertisementWs]
    by_cases same : topic = topicName
    · subst same; simp
    · have other : topicName ≠ topic := Ne.symm same
      simp [same, other]
  | subscribe topicName messageType id =>
    obtain ⟨e'', handled, same⟩ := Option.map_eq_some'.mp received
    cases same
    rw [receiveSubscribeRequestWs_frame handled]
    simp [Blacklists]
  | serviceResponse service response id =>
    simp only [receive, Option.some.injEq] at received
    have unchanged : e'.topicSubscribeInfo = e.topicSubscribeInfo := by
      unfold receiveServiceResponseWs at received
      split at received
      · cases received; rfl
      · split at received <;> cases received <;> rfl
    simp [Blacklists, unchanged]
  | _ =>
    simp only [receive, Option.some.injEq, Prod.mk.injEq] at received
    obtain ⟨rfl, -⟩ := received
    exact ⟨fun kept => .inr ⟨kept, fun _ _ other => nomatch other⟩,
      fun | .inl ⟨_, _, other, _⟩ => nomatch other | .inr ⟨kept, _⟩ => kept⟩

end Endpoint

/-- The type a local `subscribe` of the event sets for `topic`. -/
def Event.subscribes? (topic : String) : Event → Option String
  | .subscribe topicName messageType _ _ => if topicName = topic then some messageType else none
  | _ => none

/-- The type of the latest local `subscribe` of `topic`. -/
def subscribedType (topic : String) (events : List Event) : Option String :=
  events.foldl (fun type event => (event.subscribes? topic).or type) none

theorem subscribedType_concat (topic : String) (events : List Event) (event : Event) :
    subscribedType topic (events ++ [event]) =
      (event.subscribes? topic).or (subscribedType topic events) := by
  simp [subscribedType]

namespace Node
variable {enc : Encoding} {n n' : Node} {event : Event} {effects : List Effect}
  {events : List Event} {topic : String} {c : ConnectionHandle}

/-- This event leaves the judgement of `c` for `topic` standing: it is no advertisement
of the topic by `c` and not the close of `c`. -/
def KeepsBlacklist (topic : String) (c : ConnectionHandle) (event : Event) : Prop :=
  (∀ type id, event ≠ .frame (.advertise topic type id) c) ∧ event ≠ .closed c

/-- The last advertisement of `topic` by `c` since `c` last closed was judged on arrival
against the type the topic's latest `subscribe` had set, and did not match it. -/
def Blacklisted (topic : String) (c : ConnectionHandle) : List Event → Prop :=
  SinceLast (fun before event => ∃ type id expected, event = .frame (.advertise topic type id) c ∧
    subscribedType topic before = some expected ∧ type ≠ expected) (KeepsBlacklist topic c)

theorem step_subscribedType (stepped : n.step enc event = some (n', effects)) :
    (n'.endpoint.topicSubscribeInfo.lookup topic).map (·.type) =
      (event.subscribes? topic).or ((n.endpoint.topicSubscribeInfo.lookup topic).map (·.type)) := by
  cases event with
  | subscribe topicName messageType callback configuration =>
    simp only [step, Option.some.injEq, Prod.mk.injEq] at stepped
    obtain ⟨rfl, -⟩ := stepped
    simp only [Endpoint.subscribe, Table.lookup_update, Event.subscribes?]
    by_cases same : topic = topicName
    · simp [same]
    · have other : topicName ≠ topic := Ne.symm same
      simp [same, other]
  | frame message d =>
    obtain ⟨⟨e', fx⟩, received, same⟩ := Option.map_eq_some'.mp stepped
    cases same
    simpa [Event.subscribes?] using Endpoint.receive_topicSubscribeInfo_type received
  | closed d =>
    simp only [step, Option.some.injEq, Prod.mk.injEq] at stepped
    obtain ⟨rfl, -⟩ := stepped
    simp [Endpoint.notifyConnectionClosed, Event.subscribes?, Option.map_map, Function.comp_def]
  | callServiceSend thread =>
    simp only [step] at stepped
    split at stepped <;> cases stepped <;> simp [Event.subscribes?]
  | receiveResponse handle response =>
    simp only [step] at stepped
    split at stepped <;> cases stepped <;> simp [Event.subscribes?]
  | _ =>
    simp only [step, Option.some.injEq, Prod.mk.injEq] at stepped
    obtain ⟨rfl, -⟩ := stepped
    simp [Event.subscribes?, Endpoint.startupAdvertisement, Endpoint.createServiceProxy,
      Endpoint.callServiceLocked]

theorem step_blacklists (stepped : n.step enc event = some (n', effects)) :
    n'.endpoint.Blacklists topic c ↔
      (∃ type id info, event = .frame (.advertise topic type id) c ∧
        n.endpoint.topicSubscribeInfo.lookup topic = some info ∧ type ≠ info.type) ∨
      n.endpoint.Blacklists topic c ∧ KeepsBlacklist topic c event := by
  cases event with
  | subscribe topicName messageType callback configuration =>
    simp only [step, Option.some.injEq, Prod.mk.injEq] at stepped
    obtain ⟨rfl, -⟩ := stepped
    simp [Endpoint.blacklists_subscribe, KeepsBlacklist]
  | frame message d =>
    obtain ⟨⟨e', fx⟩, received, same⟩ := Option.map_eq_some'.mp stepped
    cases same
    rw [Endpoint.receive_blacklists received]
    simp only [KeepsBlacklist, Event.frame.injEq, ne_eq, reduceCtorEq, not_false_eq_true, and_true,
      not_and]
    constructor
    · rintro (⟨type, id, rfl, rfl, info, found, mismatch⟩ | ⟨blocked, kept⟩)
      · exact .inl ⟨type, id, info, ⟨rfl, rfl⟩, found, mismatch⟩
      · exact .inr ⟨blocked, fun type id same => kept type id same⟩
    · rintro (⟨type, id, info, ⟨rfl, rfl⟩, found, mismatch⟩ | ⟨blocked, kept⟩)
      · exact .inl ⟨type, id, rfl, rfl, info, found, mismatch⟩
      · exact .inr ⟨blocked, fun type id same => kept type id same⟩
  | closed d =>
    simp only [step, Option.some.injEq, Prod.mk.injEq] at stepped
    obtain ⟨rfl, -⟩ := stepped
    rw [Endpoint.blacklists_notifyConnectionClosed]
    simp [KeepsBlacklist, eq_comm]
  | callServiceSend thread =>
    simp only [step] at stepped
    split at stepped <;> cases stepped <;> simp [KeepsBlacklist]
  | receiveResponse handle response =>
    simp only [step] at stepped
    split at stepped <;> cases stepped <;> simp [KeepsBlacklist]
  | _ =>
    simp only [step, Option.some.injEq, Prod.mk.injEq] at stepped
    obtain ⟨rfl, -⟩ := stepped
    simp [KeepsBlacklist, Endpoint.Blacklists, Endpoint.startupAdvertisement,
      Endpoint.createServiceProxy, Endpoint.callServiceLocked]

theorem blacklists_iff (ran : Node.init.run enc events = some n) (topic : String)
    (c : ConnectionHandle) :
    (n.endpoint.topicSubscribeInfo.lookup topic).map (·.type) = subscribedType topic events ∧
      (n.endpoint.Blacklists topic c ↔ Blacklisted topic c events) := by
  refine run_induction (P := fun events n =>
    (n.endpoint.topicSubscribeInfo.lookup topic).map (·.type) = subscribedType topic events ∧
      (n.endpoint.Blacklists topic c ↔ Blacklisted topic c events)) ?_ ?_ ran
  · simp [Blacklisted, not_sinceLast_nil, Endpoint.Blacklists, subscribedType, init, Endpoint.init]
  · intro events m event m' effects _ ⟨typed, judged⟩ stepped
    refine ⟨by rw [step_subscribedType stepped, typed, subscribedType_concat], ?_⟩
    rw [step_blacklists stepped, judged, Blacklisted, sinceLast_concat, ← typed]
    simp only [Option.map_eq_some']
    constructor
    · rintro (⟨type, id, info, rfl, found, mismatch⟩ | kept)
      · exact .inl ⟨type, id, info.type, rfl, ⟨info, found, rfl⟩, mismatch⟩
      · exact .inr kept
    · rintro (⟨type, id, _, rfl, ⟨info, found, rfl⟩, mismatch⟩ | kept)
      · exact .inl ⟨type, id, info, rfl, found, mismatch⟩
      · exact .inr kept

/-- A connection is blacklisted for a topic exactly when its last advertisement of the
topic since it last closed arrived while the topic was subscribed and named a type other
than the one expected then; a publication from it is delivered exactly when the topic is
subscribed and it is not blacklisted. -/
theorem blacklist_judges_on_arrival (ran : Node.init.run enc events = some n) (topic : String)
    (c : ConnectionHandle) :
    (n.endpoint.Blacklists topic c ↔ Blacklisted topic c events) ∧
      ∀ message, n.endpoint.receivePublicationWs topic message c ≠ [] ↔
        (subscribedType topic events).isSome ∧ ¬Blacklisted topic c events := by
  obtain ⟨typed, judged⟩ := blacklists_iff ran topic c
  refine ⟨judged, fun message => ?_⟩
  rw [Endpoint.receivePublicationWs_ne_nil, ← judged, ← typed]
  simp

theorem blacklist_judges_on_arrival_after_mismatch :
    ∃ n, Node.init.run .refusing [.subscribe "chat" "Str" ⟨1⟩ default,
        .frame (.advertise "chat" "Int" "") ⟨2⟩] = some n ∧
      (n.endpoint.Blacklists "chat" ⟨2⟩ ↔ Blacklisted "chat" ⟨2⟩ [.subscribe "chat" "Str" ⟨1⟩ default,
        .frame (.advertise "chat" "Int" "") ⟨2⟩]) := by
  refine ⟨_, rfl, ?_⟩
  exact (blacklist_judges_on_arrival (rfl : Node.init.run .refusing [.subscribe "chat" "Str" ⟨1⟩ default,
    .frame (.advertise "chat" "Int" "") ⟨2⟩] = some _) "chat" ⟨2⟩).1

/-- An advertisement of "Int" that arrives before the subscription to "Str" is never
judged: the connection stays off the blacklist and its publications are delivered. -/
theorem advertisement_before_subscribe_not_blacklisted :
    ((Node.init.run .refusing [.frame (.advertise "chat" "Int" "") ⟨2⟩,
        .subscribe "chat" "Str" ⟨1⟩ default]).map fun n =>
      ((n.endpoint.topicSubscribeInfo.lookup "chat").map fun info => decide (⟨2⟩ ∈ info.blacklist),
        n.endpoint.receivePublicationWs "chat" ⟨"{}"⟩ ⟨2⟩)) =
      some (some false, [.publication ⟨1⟩ ⟨"{}"⟩]) := by
  decide

end Node
end WebSocketSH
