import WebSocketSH.Node

/-! The listener maps of the publish table (`TopicPublishInfo::listeners`). Over any run, a
topic's listener map sends each connection to the ids of its outstanding subscriptions:
requests accepted on arrival and not cancelled since. A request is checked against the
topic's type only when the topic already has a publish entry, whose type, once the topic is
advertised, is that of the latest advertisement; later advertisements do not check the
recorded listeners again. -/
namespace WebSocketSH

namespace Endpoint
variable {e e' : Endpoint} {topic topicName : String} {c d : ConnectionHandle}
  {requestId : String}

/-- The ids `c` is recorded under for `topic`. -/
def listenerIds (e : Endpoint) (topic : String) (c : ConnectionHandle) : Option (Finset String) :=
  (e.topicPublishInfo.lookup topic).bind (·.listeners.lookup c)

/-- Whether a subscription request naming `type` is recorded on arrival: always when the
topic has no publish entry yet, otherwise when the named type, if any, is the entry's. -/
def acceptsSubscription (e : Endpoint) (topic : String) (type : Option String) : Bool :=
  match e.topicPublishInfo.lookup topic, type with
  | some info, some named => named = info.type
  | _, _ => true

theorem listenerIds_receiveSubscribeRequestWs {type : Option String}
    (handled : e.receiveSubscribeRequestWs topicName type requestId d = some e') :
    e'.listenerIds topic c =
      if topic = topicName ∧ c = d ∧ e.acceptsSubscription topicName type then
        some (insert requestId ((e.listenerIds topic c).getD ∅))
      else e.listenerIds topic c := by
  unfold receiveSubscribeRequestWs at handled
  unfold listenerIds acceptsSubscription
  cases found : e.topicPublishInfo.lookup topicName with
  | none =>
    simp only [found, Option.some.injEq] at handled
    subst handled
    by_cases same : topic = topicName
    · subst same
      by_cases who : c = d <;>
        simp [found, who, TopicPublishInfo.listen, Table.lookup_update, AList.lookup_insert]
    · simp [same, AList.lookup_insert_ne same]
  | some info =>
    simp only [found] at handled
    cases type with
    | none => cases handled
    | some named =>
      simp only [Option.some.injEq] at handled
      subst handled
      by_cases same : topic = topicName
      · subst same
        by_cases who : c = d
        · subst who
          by_cases match? : named = info.type <;>
            simp [found, match?, TopicPublishInfo.listen, Table.lookup_update, AList.lookup_insert]
        · by_cases match? : named = info.type <;>
            simp [found, match?, who, TopicPublishInfo.listen, Table.lookup_update,
              AList.lookup_insert]
      · by_cases match? : named = info.type <;>
          simp [same, match?, AList.lookup_insert_ne same]

theorem listenerIds_receiveUnsubscribeRequestWs :
    (e.receiveUnsubscribeRequestWs topicName requestId d).listenerIds topic c =
      if topic = topicName ∧ c = d then
        (e.listenerIds topic c).bind fun ids =>
          if requestId = "" ∨ ids.erase requestId = ∅ then none else some (ids.erase requestId)
      else e.listenerIds topic c := by
  unfold receiveUnsubscribeRequestWs listenerIds
  cases found : e.topicPublishInfo.lookup topicName with
  | none =>
    by_cases same : topic = topicName
    · subst same; simp [found]
    · simp [same]
  | some info =>
    by_cases same : topic = topicName
    · subst same
      cases listed : info.listeners.lookup d with
      | none =>
        by_cases who : c = d
        · subst who; simp [found, listed]
        · simp [found, listed, who]
      | some ids =>
        by_cases who : c = d
        · subst who
          by_cases blank : requestId = "" <;> by_cases empty : ids.erase requestId = ∅ <;>
            simp [found, listed, blank, empty, AList.lookup_insert, AList.lookup_erase]
        · by_cases blank : requestId = "" <;> by_cases empty : ids.erase requestId = ∅ <;>
            simp [found, listed, blank, empty, who, AList.lookup_insert,
              AList.lookup_insert_ne who, AList.lookup_erase_ne who]
    · cases listed : info.listeners.lookup d <;> simp [listed, same, AList.lookup_insert_ne same]

theorem listenerIds_notifyConnectionClosed :
    (e.notifyConnectionClosed d).listenerIds topic c =
      if c = d then none else e.listenerIds topic c := by
  unfold notifyConnectionClosed listenerIds
  simp only [Table.lookup_mapValues]
  cases e.topicPublishInfo.lookup topic with
  | none => simp
  | some info =>
    by_cases who : c = d
    · subst who; simp [AList.lookup_erase]
    · simp [who, AList.lookup_erase_ne who]

theorem mem_getD_bind_erase {old : Option (Finset String)} {requestId id : String} :
    id ∈ (old.bind fun ids =>
        if requestId = "" ∨ ids.erase requestId = ∅ then none else some (ids.erase requestId)).getD ∅ ↔
      id ∈ old.getD ∅ ∧ requestId ≠ "" ∧ id ≠ requestId := by
  cases old with
  | none => simp
  | some ids =>
    by_cases blank : requestId = ""
    · simp [blank]
    by_cases empty : ids.erase requestId = ∅
    · simp only [blank, empty, or_true, if_true, Option.some_bind, Option.getD_none]
      rw [Finset.erase_eq_empty_iff] at empty
      rcases empty with rfl | rfl <;> simp [blank]
    · simp [blank, empty, and_comm]

theorem listenerIds_startupAdvertisement (enc : Encoding) (messageType id : String)
    (configuration : YamlNode) :
    (e.startupAdvertisement enc topicName messageType id configuration).listenerIds topic c =
      e.listenerIds topic c := by
  unfold startupAdvertisement listenerIds
  rw [Table.lookup_update]
  split
  · subst topic
    cases e.topicPublishInfo.lookup topicName <;> simp
  · rfl


/-- The recorded type of `topic`, if it has a publish entry. -/
def publishedType (e : Endpoint) (topic : String) : Option String :=
  (e.topicPublishInfo.lookup topic).map (·.type)

theorem publishedType_receiveSubscribeRequestWs {type : String} {messageType : Option String}
    (typed : e.publishedType topic = some type)
    (handled : e.receiveSubscribeRequestWs topicName messageType requestId d = some e') :
    e'.publishedType topic = some type := by
  unfold receiveSubscribeRequestWs at handled
  unfold publishedType at typed ⊢
  split at handled
  · next missing =>
    cases handled
    have other : topic ≠ topicName := by rintro rfl; simp [missing] at typed
    simpa [AList.lookup_insert_ne other] using typed
  · next info found =>
    split at handled
    · cases handled
    · cases handled
      split
      · exact typed
      · by_cases same : topic = topicName
        · subst same; simpa [found, TopicPublishInfo.listen] using typed
        · simpa [AList.lookup_insert_ne same] using typed

theorem publishedType_receiveUnsubscribeRequestWs :
    (e.receiveUnsubscribeRequestWs topicName requestId d).publishedType topic =
      e.publishedType topic := by
  unfold receiveUnsubscribeRequestWs publishedType
  split
  · rfl
  · next info found =>
    split
    · rfl
    · by_cases same : topic = topicName
      · subst same; simp [found]
      · simp [AList.lookup_insert_ne same]

theorem publishedType_startupAdvertisement (enc : Encoding) (messageType id : String)
    (configuration : YamlNode) :
    (e.startupAdvertisement enc topicName messageType id configuration).publishedType topic =
      if topic = topicName then some messageType else e.publishedType topic := by
  unfold startupAdvertisement publishedType
  rw [Table.lookup_update]
  split <;> rfl

theorem publishedType_notifyConnectionClosed :
    (e.notifyConnectionClosed d).publishedType topic = e.publishedType topic := by
  simp [notifyConnectionClosed, publishedType, Option.map_map, Function.comp_def]

/-- On a topic whose publish entry records `type`, a typed request is recorded exactly when
it names `type`. -/
theorem acceptsSubscription_of_publishedType {type named : String}
    (typed : e.publishedType topic = some type) :
    e.acceptsSubscription topic (some named) = decide (named = type) := by
  obtain ⟨info, found, rfl⟩ := Option.map_eq_some'.mp typed
  simp [acceptsSubscription, found]

/-- `c` is recorded for `topic` under `id`. -/
def Listening (e : Endpoint) (topic : String) (c : ConnectionHandle) (id : String) : Prop :=
  id ∈ (e.listenerIds topic c).getD ∅

/-- No connection stays in a listener map without an id. -/
def ListenersNonempty (e : Endpoint) : Prop :=
  ∀ topic c ids, e.listenerIds topic c = some ids → ids.Nonempty

/-- What an event does to the ids `c` is recorded under for `topic`, read off the three
handlers that write listener maps. -/
def listenerIdsAfter (e : Endpoint) (topic : String) (c : ConnectionHandle) :
    Event → Option (Finset String)
  | .frame (.subscribe topicName type requestId) d =>
    if topic = topicName ∧ c = d ∧ e.acceptsSubscription topicName type then
      some (insert requestId ((e.listenerIds topic c).getD ∅))
    else e.listenerIds topic c
  | .frame (.unsubscribe topicName requestId) d =>
    if topic = topicName ∧ c = d then
      (e.listenerIds topic c).bind fun ids =>
        if requestId = "" ∨ ids.erase requestId = ∅ then none else some (ids.erase requestId)
    else e.listenerIds topic c
  | .closed d => if c = d then none else e.listenerIds topic c
  | _ => e.listenerIds topic c

variable {enc : Encoding} {message : Message} {effects : List Effect}

/-- Only subscription and unsubscription frames touch the publish table. -/
theorem receive_topicPublishInfo (received : e.receive enc message d = some (e', effects))
    (notRequest : (∀ topic type id, message ≠ .subscribe topic type id) ∧
      ∀ topic id, message ≠ .unsubscribe topic id) :
    e'.topicPublishInfo = e.topicPublishInfo := by
  cases message with
  | subscribe topic type id => exact absurd rfl (notRequest.1 topic type id)
  | unsubscribe topic id => exact absurd rfl (notRequest.2 topic id)
  | serviceResponse service response id =>
    simp only [receive, Option.some.injEq] at received
    unfold receiveServiceResponseWs at received
    split at received
    · cases received; rfl
    · split at received <;> cases received <;> rfl
  | _ =>
    simp only [receive, Option.some.injEq, Prod.mk.injEq] at received
    obtain ⟨rfl, -⟩ := received
    rfl

theorem mem_listeners_iff {info : TopicPublishInfo}
    (nonempty : ∀ c ids, e.listenerIds topic c = some ids → ids.Nonempty)
    (found : e.topicPublishInfo.lookup topic = some info) :
    c ∈ info.listeners ↔ ∃ id, e.Listening topic c id := by
  simp only [Listening, listenerIds, found, Option.some_bind]
  constructor
  · intro member
    obtain ⟨ids, listed⟩ := Option.isSome_iff_exists.mp (AList.lookup_isSome.mpr member)
    obtain ⟨id, mem⟩ := nonempty c ids (by simp [listenerIds, found, listed])
    exact ⟨id, by simpa [listed] using mem⟩
  · rintro ⟨id, mem⟩
    cases listed : info.listeners.lookup c with
    | none => simp [listed] at mem
    | some ids => exact AList.lookup_isSome.mp (by simp [listed])

theorem mem_publish_send {message : DynamicData} {payload : String} :
    Effect.send c payload ∈ e.publish enc topic message ↔
      ∃ info, e.topicPublishInfo.lookup topic = some info ∧ c ∈ info.listeners ∧
        payload = enc.encodePublicationMsg topic info.type "" message ∧ payload ≠ "" := by
  unfold publish
  cases e.topicPublishInfo.lookup topic with
  | none => simp
  | some info =>
    simp only [List.mem_flatMap, mem_sendUnlessEmpty, Option.some.injEq, exists_eq_left',
      AList.mem_keys]
    constructor
    · rintro ⟨a, member, rfl, rfl, refused⟩; exact ⟨member, rfl, refused⟩
    · rintro ⟨member, rfl, refused⟩; exact ⟨c, member, rfl, rfl, refused⟩

/-- A publication sends at most one frame to each connection. -/
theorem publish_nodup (message : DynamicData) : (e.publish enc topic message).Nodup := by
  unfold publish
  split
  · exact List.nodup_singleton _
  · refine List.nodup_flatMap.mpr ⟨fun _ _ => ?_,
      (AList.keys_nodup _).pairwise_of_forall_ne fun a _ b _ other => ?_⟩
    · unfold sendUnlessEmpty; split <;> simp
    · rw [Function.onFun, List.disjoint_left]
      intro effect toA toB
      unfold sendUnlessEmpty at toA toB
      split_ifs at toA toB <;> simp_all

end Endpoint

/-- The type `event` advertises `topic` with, if it is a `startup_advertisement` of it. -/
def Event.advertises? (topic : String) : Event → Option String
  | .startupAdvertisement topicName messageType _ _ =>
    if topic = topicName then some messageType else none
  | _ => none

/-- The type of the latest `startup_advertisement` of `topic` in a run, if there is one. -/
def advertisedType (topic : String) (events : List Event) : Option String :=
  events.foldl (fun type event => (event.advertises? topic).or type) none

theorem advertisedType_concat (topic : String) (events : List Event) (event : Event) :
    advertisedType topic (events ++ [event]) =
      (event.advertises? topic).or (advertisedType topic events) := by
  simp [advertisedType]

namespace Node
variable {enc : Encoding} {n n' : Node} {event : Event} {effects : List Effect}
  {events : List Event} {topic : String} {c : ConnectionHandle} {id : String}

/-- The event withdraws the subscription `id` of `c` on `topic`: an unsubscription of
that id or of all ids (the empty id), or the close of `c`. -/
def Cancels (topic : String) (c : ConnectionHandle) (id : String) (event : Event) : Prop :=
  event = .frame (.unsubscribe topic id) c ∨ event = .frame (.unsubscribe topic "") c ∨
    event = .closed c

/-- Some request of `c` for `id` on `topic` was accepted on arrival and has not been
cancelled since. -/
def Outstanding (enc : Encoding) (topic : String) (c : ConnectionHandle) (id : String) :
    List Event → Prop :=
  SinceLast (fun before event => ∃ type, event = .frame (.subscribe topic type id) c ∧
      ∃ m, Node.init.run enc before = some m ∧ m.endpoint.acceptsSubscription topic type)
    (fun event => ¬Cancels topic c id event)

theorem step_listenerIds (stepped : n.step enc event = some (n', effects)) :
    n'.endpoint.listenerIds topic c = n.endpoint.listenerIdsAfter topic c event := by
  cases event with
  | frame message d =>
    have received := step_frame stepped
    cases message with
    | subscribe topicName type requestId =>
      obtain ⟨e', handled, same⟩ := Option.map_eq_some'.mp received
      simp only [Prod.mk.injEq] at same
      obtain ⟨rfl, -⟩ := same
      exact Endpoint.listenerIds_receiveSubscribeRequestWs handled
    | unsubscribe topicName requestId =>
      simp only [Endpoint.receive, Option.some.injEq, Prod.mk.injEq] at received
      rw [← received.1]
      exact Endpoint.listenerIds_receiveUnsubscribeRequestWs
    | _ =>
      have untouched := Endpoint.receive_topicPublishInfo received ⟨by simp, by simp⟩
      simp [Endpoint.listenerIds, Endpoint.listenerIdsAfter, untouched]
  | closed d =>
    simp only [step, Option.some.injEq, Prod.mk.injEq] at stepped
    obtain ⟨rfl, -⟩ := stepped
    exact Endpoint.listenerIds_notifyConnectionClosed
  | startupAdvertisement topicName messageType requestId configuration =>
    simp only [step, Option.some.injEq, Prod.mk.injEq] at stepped
    obtain ⟨rfl, -⟩ := stepped
    exact Endpoint.listenerIds_startupAdvertisement enc messageType requestId configuration
  | callServiceSend thread =>
    simp only [step] at stepped
    split at stepped <;> cases stepped <;> rfl
  | receiveResponse handle response =>
    simp only [step] at stepped
    split at stepped <;> cases stepped <;> rfl
  | _ =>
    simp only [step, Option.some.injEq, Prod.mk.injEq] at stepped
    obtain ⟨rfl, -⟩ := stepped
    simp [Endpoint.listenerIds, Endpoint.listenerIdsAfter, Endpoint.subscribe,
      Endpoint.createServiceProxy, Endpoint.callServiceLocked]

/-- Only a `startup_advertisement` of the topic sets the type of its publish entry; every
other event keeps a recorded type. -/
theorem step_publishedType {type : String} (stepped : n.step enc event = some (n', effects))
    (typed : (event.advertises? topic).or (n.endpoint.publishedType topic) = some type) :
    n'.endpoint.publishedType topic = some type := by
  cases event with
  | startupAdvertisement topicName messageType requestId configuration =>
    simp only [step, Option.some.injEq, Prod.mk.injEq] at stepped
    obtain ⟨rfl, -⟩ := stepped
    rw [Endpoint.publishedType_startupAdvertisement]
    by_cases same : topic = topicName <;> simpa [Event.advertises?, same] using typed
  | frame message d =>
    have received := step_frame stepped
    simp only [Event.advertises?, Option.none_or] at typed
    cases message with
    | subscribe topicName type' requestId =>
      obtain ⟨e', handled, same⟩ := Option.map_eq_some'.mp received
      simp only [Prod.mk.injEq] at same
      obtain ⟨rfl, -⟩ := same
      exact Endpoint.publishedType_receiveSubscribeRequestWs typed handled
    | unsubscribe topicName requestId =>
      simp only [Endpoint.receive, Option.some.injEq, Prod.mk.injEq] at received
      rw [← received.1, Endpoint.publishedType_receiveUnsubscribeRequestWs]
      exact typed
    | _ =>
      unfold Endpoint.publishedType at typed ⊢
      rwa [Endpoint.receive_topicPublishInfo received ⟨nofun, nofun⟩]
  | closed d =>
    simp only [step, Option.some.injEq, Prod.mk.injEq] at stepped
    obtain ⟨rfl, -⟩ := stepped
    simpa [Event.advertises?, Endpoint.publishedType_notifyConnectionClosed] using typed
  | callServiceSend thread =>
    simp only [step] at stepped
    split at stepped <;> cases stepped <;> simpa [Event.advertises?] using typed
  | receiveResponse handle response =>
    simp only [step] at stepped
    split at stepped <;> cases stepped <;> simpa [Event.advertises?] using typed
  | _ =>
    simp only [step, Option.some.injEq, Prod.mk.injEq] at stepped
    obtain ⟨rfl, -⟩ := stepped
    simpa [Event.advertises?, Endpoint.publishedType, Endpoint.subscribe,
      Endpoint.createServiceProxy, Endpoint.callServiceLocked] using typed

/-- Once a run has advertised a topic, its publish entry records the type of the latest
advertisement, whatever requests arrived before or since. -/
theorem publishedType_of_advertised {type : String} (ran : Node.init.run enc events = some n)
    (advertised : advertisedType topic events = some type) :
    n.endpoint.publishedType topic = some type := by
  refine run_induction (P := fun events n => ∀ type, advertisedType topic events = some type →
    n.endpoint.publishedType topic = some type) (by simp [advertisedType]) ?_ ran type advertised
  intro events m event m' effects _ ih stepped type advertised
  rw [advertisedType_concat] at advertised
  refine step_publishedType stepped ?_
  cases found : event.advertises? topic with
  | some advertisedNow => simpa [found] using advertised
  | none =>
    simp only [found, Option.none_or] at advertised ⊢
    exact ih type advertised

theorem listenersNonempty_step (nonempty : n.endpoint.ListenersNonempty)
    (stepped : n.step enc event = some (n', effects)) : n'.endpoint.ListenersNonempty := by
  intro topic c ids found
  rw [step_listenerIds stepped] at found
  unfold Endpoint.listenerIdsAfter at found
  split at found
  · split at found
    · cases found; exact Finset.insert_nonempty _ _
    · exact nonempty _ _ _ found
  · split at found
    · obtain ⟨old, -, kept⟩ := Option.bind_eq_some.mp found
      split at kept
      · cases kept
      · cases kept; exact Finset.nonempty_iff_ne_empty.mpr (by tauto)
    · exact nonempty _ _ _ found
  · split at found
    · cases found
    · exact nonempty _ _ _ found
  · exact nonempty _ _ _ found

theorem listenersNonempty (ran : Node.init.run enc events = some n) :
    n.endpoint.ListenersNonempty :=
  run_induction (P := fun _ m => m.endpoint.ListenersNonempty)
    (by simp [Endpoint.ListenersNonempty, Endpoint.listenerIds, init, Endpoint.init])
    (fun _ _ _ _ _ _ nonempty stepped => listenersNonempty_step nonempty stepped) ran

theorem step_listening (stepped : n.step enc event = some (n', effects)) :
    n'.endpoint.Listening topic c id ↔
      (∃ type, event = .frame (.subscribe topic type id) c ∧
        n.endpoint.acceptsSubscription topic type) ∨
      n.endpoint.Listening topic c id ∧ ¬Cancels topic c id event := by
  rw [Endpoint.Listening, step_listenerIds stepped]
  unfold Endpoint.listenerIdsAfter
  split
  · split_ifs with hit
    · obtain ⟨rfl, rfl, accepted⟩ := hit
      simp [Endpoint.Listening, Cancels, accepted, and_assoc, @eq_comm _ id]
    · simp [Endpoint.Listening, Cancels]
      rintro rfl rfl rfl accepted
      exact absurd ⟨rfl, rfl, accepted⟩ hit
  · split_ifs with hit
    · obtain ⟨rfl, rfl⟩ := hit
      simp [Endpoint.Listening, Cancels, Endpoint.mem_getD_bind_erase, @eq_comm _ id, and_comm]
    · simp [Endpoint.Listening, Cancels]
      exact fun _ => ⟨fun same _ who => hit ⟨same.symm, who.symm⟩,
        fun same _ who => hit ⟨same.symm, who.symm⟩⟩
  · split_ifs with hit
    · subst hit
      simp [Endpoint.Listening, Cancels]
    · simp [Endpoint.Listening, Cancels, Ne.symm hit]
  · next noSubscribe noUnsubscribe noClose =>
    simp only [Endpoint.Listening]
    constructor
    · intro listed
      exact .inr ⟨listed, by
        rintro (same | same | same)
        exacts [noUnsubscribe _ _ _ same, noUnsubscribe _ _ _ same, noClose _ same]⟩
    · rintro (⟨type, same, -⟩ | ⟨listed, -⟩)
      exacts [absurd same (noSubscribe _ _ _ _), listed]

theorem listening_iff_outstanding (ran : Node.init.run enc events = some n) :
    n.endpoint.Listening topic c id ↔ Outstanding enc topic c id events := by
  refine run_induction (P := fun events n =>
    (n.endpoint.Listening topic c id ↔ Outstanding enc topic c id events)) ?_ ?_ ran
  · simp [Outstanding, not_sinceLast_nil, Endpoint.Listening, Endpoint.listenerIds, init,
      Endpoint.init]
  · intro events m event m' effects prior listening stepped
    rw [step_listening stepped, listening, Outstanding, sinceLast_concat]
    simp only [prior, Option.some.injEq, exists_eq_left']

/-- Over every run without a fault, the listener map of each topic sends each connection
to the ids of its outstanding subscriptions, and holds no connection without one. -/
theorem listener_map_law (ran : Node.init.run enc events = some n) (topic : String) :
    (∀ c id, n.endpoint.Listening topic c id ↔ Outstanding enc topic c id events) ∧
      ∀ c ids, n.endpoint.listenerIds topic c = some ids → ids.Nonempty :=
  ⟨fun _ _ => listening_iff_outstanding ran, listenersNonempty ran topic⟩

/-- An untyped subscription request for a topic already in the publish table reaches the
debug log that dereferences its null type. -/
theorem untyped_request_on_advertised_topic_faults (enc : Encoding) :
    Node.init.run enc [.startupAdvertisement "chat" "Str" "" default,
      .frame (.subscribe "chat" none "1") ⟨2⟩] = none := rfl

/-- A publication sends a frame to `c` exactly when `c` has an outstanding subscription on
the topic and the encoder does not refuse the message, and sends at most one frame to each
connection. Once the topic has been advertised, a typed request is recorded exactly when it
names the type of the latest advertisement; a request that arrives while the topic has no
publish entry is recorded whatever type it names, and stays outstanding through any later
advertisement until it is cancelled. -/
theorem publish_reaches_outstanding_subscribers (ran : Node.init.run enc events = some n)
    (topic : String) (message : DynamicData) :
    (∀ c payload, Effect.send c payload ∈ n.endpoint.publish enc topic message ↔
      (∃ id, Outstanding enc topic c id events) ∧
        ∃ info, n.endpoint.topicPublishInfo.lookup topic = some info ∧
          payload = enc.encodePublicationMsg topic info.type "" message ∧ payload ≠ "") ∧
      (n.endpoint.publish enc topic message).Nodup ∧
      (∀ before named id c after type,
        events = before ++ .frame (.subscribe topic (some named) id) c :: after →
        advertisedType topic before = some type →
        ((∃ m, Node.init.run enc before = some m ∧
          m.endpoint.acceptsSubscription topic (some named)) ↔ named = type)) ∧
      ∀ before type id c after m,
        events = before ++ .frame (.subscribe topic type id) c :: after →
        Node.init.run enc before = some m → m.endpoint.topicPublishInfo.lookup topic = none →
        (∀ event ∈ after, ¬Cancels topic c id event) → Outstanding enc topic c id events := by
  obtain ⟨listening, nonempty⟩ := listener_map_law ran topic
  refine ⟨fun c payload => ?_, Endpoint.publish_nodup message,
    fun before named id c after type split advertised => ?_,
    fun before type id c after m split reached missing kept =>
      ⟨before, _, after, split, ⟨type, rfl, m, reached, by
        simp [Endpoint.acceptsSubscription, missing]⟩, kept⟩⟩
  · rw [Endpoint.mem_publish_send]
    constructor
    · rintro ⟨info, found, member, encoded⟩
      obtain ⟨id, listed⟩ := (Endpoint.mem_listeners_iff nonempty found).mp member
      exact ⟨⟨id, (listening c id).mp listed⟩, info, found, encoded⟩
    · rintro ⟨⟨id, outstanding⟩, info, found, encoded⟩
      exact ⟨info, found, (Endpoint.mem_listeners_iff nonempty found).mpr
        ⟨id, (listening c id).mpr outstanding⟩, encoded⟩
  · rw [split, run_append] at ran
    obtain ⟨m, reached, -⟩ := Option.bind_eq_some.mp ran
    have accepts : m.endpoint.acceptsSubscription topic (some named) = decide (named = type) :=
      Endpoint.acceptsSubscription_of_publishedType (publishedType_of_advertised reached advertised)
    constructor
    · rintro ⟨m', again, accepted⟩
      rw [reached, Option.some.injEq] at again
      subst again
      simpa [accepts] using accepted
    · exact fun same => ⟨m, reached, accepts.trans (decide_eq_true same)⟩

end Node

/-- An encoding that writes a publication as the name of its topic and refuses every other
value. -/
def Encoding.topicOnly : Encoding :=
  { Encoding.refusing with encodePublicationMsg := fun topic _ _ _ => topic }

namespace Node

theorem publish_reaches_subscriber_after_advertisement :
    ∃ n, Node.init.run .topicOnly [.startupAdvertisement "chat" "Str" "" default,
        .frame (.subscribe "chat" (some "Str") "1") ⟨2⟩] = some n ∧
      Effect.send ⟨2⟩ "chat" ∈ n.endpoint.publish .topicOnly "chat" ⟨"{}"⟩ ∧
      ∃ id, Outstanding .topicOnly "chat" ⟨2⟩ id [.startupAdvertisement "chat" "Str" "" default,
        .frame (.subscribe "chat" (some "Str") "1") ⟨2⟩] := by
  refine ⟨_, rfl, by decide, ?_⟩
  exact (((publish_reaches_outstanding_subscribers (rfl : Node.init.run .topicOnly
    [.startupAdvertisement "chat" "Str" "" default, .frame (.subscribe "chat" (some "Str") "1") ⟨2⟩] =
      some _) "chat" ⟨"{}"⟩).1 ⟨2⟩ "chat").mp (by decide)).1

/-- A request naming `Str` that arrives before the topic is advertised as `Int` is recorded
unchecked, and the publication of `Int` then reaches its connection. -/
theorem subscription_before_advertisement_bypasses_type :
    (Node.init.run .topicOnly [.frame (.subscribe "chat" (some "Str") "1") ⟨2⟩,
        .startupAdvertisement "chat" "Int" "" default]).map (fun n =>
      (n.endpoint.publish .topicOnly "chat" ⟨"{}"⟩,
        (n.endpoint.topicPublishInfo.lookup "chat").map (·.type))) =
      some ([.send ⟨2⟩ "chat"], some "Int") := by
  decide

end Node
end WebSocketSH
