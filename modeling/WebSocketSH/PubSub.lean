import WebSocketSH.Bridge
import WebSocketSH.StartupLog

/-! Publications across endpoints: a publisher endpoint connected to any number of subscriber
endpoints, each connection carrying frames in order both ways. A subscriber's subscription
reaches the publisher as a frame of the startup replay when their connection opens, and the
publisher's `publish` sends one frame to each connection in the topic's listener map. Ghost
state numbers every `publish` of the publisher's host and tags each frame in flight with the
publication it carries. Every publication a subscriber's host is handed is one the publisher's
host published, carried by a frame of the topic it was published on, and each subscriber is
handed publications in the order they were published, each at most once. -/
namespace WebSocketSH

/-- The state of the connection between the publisher and one subscriber. -/
inductive LinkState where
  | idle
  | «open»
  | closed
deriving DecidableEq, Repr, Inhabited

/-- The publisher's handle for its connection to subscriber `i`. -/
def subscriberLink (i : Nat) : ConnectionHandle := ⟨i⟩

/-- A subscriber's handle for its connection to the publisher. -/
def publisherLink : ConnectionHandle := ⟨0⟩

/-- The publications `effects` hand to the host's subscription callbacks. -/
def publicationsOf (effects : List Effect) : List (SubscriptionCallback × DynamicData) :=
  effects.filterMap fun
    | .publication callback message => some (callback, message)
    | _ => none

/-- A publication a subscriber's host was handed: the decoded frame that carried it, and the
`publish` of the publisher's host whose frame it was, if it was one. -/
structure Receipt where
  subscriber : Nat
  frame : Message
  callback : SubscriptionCallback
  message : DynamicData
  serial : Option Nat
deriving DecidableEq, Repr

/-- The publisher, its subscribers and the connections between them, with the ghost record of
every publication of the publisher's host (its index is its serial) and of every publication
the subscribers' hosts were handed. -/
structure Relay where
  publisher : Node
  subscribers : Nat → Node
  links : Nat → LinkState
  /-- frames in flight from each subscriber to the publisher, oldest first -/
  toPublisher : Nat → List String
  /-- frames in flight from the publisher to each subscriber, oldest first, with the serial of
  the publication each one carries -/
  toSubscriber : Nat → List (String × Option Nat)
  published : List (String × DynamicData)
  received : List Receipt

inductive RelayEvent where
  /-- the publisher's host advertises a topic (`advertise`, then `startup_advertisement`) -/
  | advertise (topic type id : String) (configuration : YamlNode)
  /-- the publisher's host publishes through the publisher `advertise` returned -/
  | publish (topic : String) (message : DynamicData)
  /-- the host of subscriber `i` subscribes -/
  | subscribe (i : Nat) (topic type : String) (callback : SubscriptionCallback)
      (configuration : YamlNode)
  /-- the connection between the publisher and subscriber `i` opens on both sides -/
  | connect (i : Nat)
  /-- the publisher receives the oldest frame from subscriber `i` -/
  | atPublisher (i : Nat)
  /-- subscriber `i` receives the oldest frame from the publisher -/
  | atSubscriber (i : Nat)
  /-- the connection between the publisher and subscriber `i` closes on both sides -/
  | close (i : Nat)
deriving DecidableEq, Repr

/-- The decoder does not read the frame as a publication. -/
def NotPublication (enc : Encoding) (payload : String) : Prop :=
  ∀ topic message, enc.interpretWebsocketMsg payload ≠ some (.publish topic message)

/-- What the relay needs of an encoding: a publication frame decodes to the topic and message
written into it, and an advertisement frame does not decode to a publication. -/
structure Encoding.PublicationFaithful (enc : Encoding) : Prop where
  publication : ∀ topic type id message,
    enc.interpretWebsocketMsg (enc.encodePublicationMsg topic type id message) =
      some (.publish topic message)
  advertisement : ∀ topic type id configuration,
    NotPublication enc (enc.encodeAdvertiseMsg topic type id configuration)

namespace Relay
variable (enc : Encoding)

/-- The frames a step of the publisher sends, appended with `tag` to the connections that are
open. -/
def fanOut (r : Relay) (effects : List Effect) (tag : Option Nat) :
    Nat → List (String × Option Nat) := fun j =>
  if r.links j = .open then r.toSubscriber j ++ (sentOn (subscriberLink j) effects).map (·, tag)
  else r.toSubscriber j

/-- The frames a step of subscriber `i` sends, appended to its connection if it is open. -/
def forward (r : Relay) (i : Nat) (effects : List Effect) : Nat → List String :=
  Function.update r.toPublisher i
    (if r.links i = .open then r.toPublisher i ++ sentOn publisherLink effects
     else r.toPublisher i)

def step (r : Relay) : RelayEvent → Option Relay
  | .advertise topic type id configuration =>
    (r.publisher.step enc (.startupAdvertisement topic type id configuration)).map
      fun (next, effects) => { r with publisher := next, toSubscriber := r.fanOut effects none }
  | .publish topic message =>
    (r.publisher.step enc (.publish topic message)).map fun (next, effects) =>
      { r with
        publisher := next
        toSubscriber := r.fanOut effects (some r.published.length)
        published := r.published ++ [(topic, message)] }
  | .subscribe i topic type callback configuration =>
    ((r.subscribers i).step enc (.subscribe topic type callback configuration)).map
      fun (next, effects) =>
        { r with
          subscribers := Function.update r.subscribers i next
          toPublisher := r.forward i effects }
  | .connect i =>
    if r.links i = .idle then
      (r.publisher.step enc (.opened (subscriberLink i))).bind fun (publisher, sent) =>
        ((r.subscribers i).step enc (.opened publisherLink)).map fun (subscriber, answered) =>
          let opened := { r with links := Function.update r.links i .open }
          { opened with
            publisher := publisher
            subscribers := Function.update r.subscribers i subscriber
            toSubscriber := opened.fanOut sent none
            toPublisher := opened.forward i answered }
    else none
  | .atPublisher i =>
    match r.toPublisher i with
    | [] => none
    | payload :: rest =>
      let popped := { r with toPublisher := Function.update r.toPublisher i rest }
      match enc.interpretWebsocketMsg payload with
      | none => some popped
      | some message =>
        (r.publisher.step enc (.frame message (subscriberLink i))).map fun (next, effects) =>
          { popped with publisher := next, toSubscriber := popped.fanOut effects none }
  | .atSubscriber i =>
    match r.toSubscriber i with
    | [] => none
    | (payload, tag) :: rest =>
      let popped := { r with toSubscriber := Function.update r.toSubscriber i rest }
      match enc.interpretWebsocketMsg payload with
      | none => some popped
      | some message =>
        ((r.subscribers i).step enc (.frame message publisherLink)).map fun (next, effects) =>
          { popped with
            subscribers := Function.update r.subscribers i next
            toPublisher := popped.forward i effects
            received := r.received ++ (publicationsOf effects).map fun (callback, delivered) =>
              ⟨i, message, callback, delivered, tag⟩ }
  | .close i =>
    if r.links i = .open then
      (r.publisher.step enc (.closed (subscriberLink i))).bind fun (publisher, _) =>
        ((r.subscribers i).step enc (.closed publisherLink)).map fun (subscriber, _) =>
          { r with
            publisher := publisher
            subscribers := Function.update r.subscribers i subscriber
            links := Function.update r.links i .closed
            toPublisher := Function.update r.toPublisher i []
            toSubscriber := Function.update r.toSubscriber i [] }
    else none

def run (r : Relay) (events : List RelayEvent) : Option Relay :=
  execute (step enc) r events

/-- Fresh endpoints, no connection opened yet, nothing published. -/
def start : Relay :=
  ⟨Node.init, fun _ => Node.init, fun _ => .idle, fun _ => [], fun _ => [], [], []⟩

/-- The serials of the publications subscriber `i` was handed, then of those in flight to it. -/
def serials (r : Relay) (i : Nat) : List Nat :=
  (r.received.filter (·.subscriber = i)).filterMap (·.serial) ++
    (r.toSubscriber i).filterMap (·.2)

end Relay

section Effects
variable {enc : Encoding} {e e' : Endpoint} {message : Message} {c d : ConnectionHandle}
  {effects : List Effect}

theorem sentOn_eq_nil (silent : ∀ payload, Effect.send c payload ∉ effects) :
    sentOn c effects = [] :=
  List.eq_nil_iff_forall_not_mem.mpr fun payload member => silent payload (mem_sentOn.mp member)

theorem nodup_sentOn (nodup : effects.Nodup) : (sentOn c effects).Nodup :=
  nodup.filterMap fun a a' _ found found' => by cases a <;> cases a' <;> simp_all

/-- `publish` sends at most one frame on each connection. -/
theorem length_sentOn_publish (topic : String) (data : DynamicData) :
    (sentOn c (e.publish enc topic data)).length ≤ 1 := by
  cases found : e.topicPublishInfo.lookup topic with
  | none => simp [Endpoint.publish, found, sentOn]
  | some info =>
    have single : sentOn c (e.publish enc topic data) ⊆
        [enc.encodePublicationMsg topic info.type "" data] := fun payload member => by
      obtain ⟨info', found', -, rfl, -⟩ := Endpoint.mem_publish_send.mp (mem_sentOn.mp member)
      rw [found, Option.some.injEq] at found'
      simp [found']
    exact ((nodup_sentOn (Endpoint.publish_nodup data)).subperm single).length_le

/-- A frame hands the host at most one publication, and only a publication frame does, with
its own message. -/
theorem Endpoint.receive_publicationsOf (received : e.receive enc message d = some (e', effects)) :
    publicationsOf effects = [] ∨
      ∃ topic callback delivered, message = .publish topic delivered ∧
        publicationsOf effects = [(callback, delivered)] := by
  cases message with
  | publish topic delivered =>
    simp only [Endpoint.receive, Option.some.injEq, Prod.mk.injEq] at received
    obtain ⟨-, rfl⟩ := received
    unfold Endpoint.receivePublicationWs
    split
    · exact .inl rfl
    · split
      · exact .inl rfl
      · exact .inr ⟨topic, _, delivered, rfl, rfl⟩
  | subscribe topicName messageType id =>
    obtain ⟨_, -, same⟩ := Option.map_eq_some'.mp received
    cases same
    exact .inl rfl
  | callService serviceName request id =>
    simp only [Endpoint.receive, Option.some.injEq, Prod.mk.injEq] at received
    obtain ⟨-, rfl⟩ := received
    unfold Endpoint.receiveServiceRequestWs
    left
    split
    · rfl
    · split <;> rfl
  | serviceResponse serviceName response id =>
    simp only [Endpoint.receive, Option.some.injEq] at received
    unfold Endpoint.receiveServiceResponseWs at received
    left
    split at received
    · cases received; rfl
    · split at received <;> cases received <;> rfl
  | _ =>
    simp only [Endpoint.receive, Option.some.injEq, Prod.mk.injEq] at received
    obtain ⟨-, rfl⟩ := received
    exact .inl rfl

end Effects

namespace Relay
variable {enc : Encoding} {r r' : Relay} {effects : List Effect} {tag : Option Nat}

/-- What every run from a fresh start keeps true: the publisher's startup log holds no
publication frame, a frame in flight without a serial is no publication frame, a frame with a
serial is the encoding of that publication, every publication handed to a subscriber's host is
a numbered one carried by a frame of its topic, and each subscriber's serials, handed and in
flight, increase and are below the number of publications. -/
structure Invariant (enc : Encoding) (r : Relay) : Prop where
  log : ∀ payload ∈ r.publisher.endpoint.startupMessages, NotPublication enc payload
  plain : ∀ i payload, (payload, none) ∈ r.toSubscriber i → NotPublication enc payload
  stamped : ∀ i payload s, (payload, some s) ∈ r.toSubscriber i →
    ∃ topic type message, payload = enc.encodePublicationMsg topic type "" message ∧
      r.published[s]? = some (topic, message)
  sound : ∀ receipt ∈ r.received, ∃ s topic, receipt.serial = some s ∧
    receipt.frame = .publish topic receipt.message ∧
      r.published[s]? = some (topic, receipt.message)
  ordered : ∀ i, (r.serials i).Pairwise (· < ·)
  bounded : ∀ i, ∀ s ∈ r.serials i, s < r.published.length

theorem mem_fanOut {j : Nat} {entry : String × Option Nat} :
    entry ∈ r.fanOut effects tag j ↔ entry ∈ r.toSubscriber j ∨
      r.links j = .open ∧ ∃ payload, Effect.send (subscriberLink j) payload ∈ effects ∧
        entry = (payload, tag) := by
  unfold fanOut
  split
  · simp [*, eq_comm]
  · simp [*]

/-- Frames without a serial leave every subscriber's serials as they were. -/
@[simp] theorem filterMap_fanOut_none (j : Nat) :
    (r.fanOut effects none j).filterMap (·.2) = (r.toSubscriber j).filterMap (·.2) := by
  unfold fanOut
  split <;> simp [List.filterMap_map, Function.comp_def]

theorem fanOut_of_silent (silent : ∀ j payload, Effect.send (subscriberLink j) payload ∉ effects) :
    r.fanOut effects tag = r.toSubscriber := by
  funext j
  simp [fanOut, sentOn_eq_nil (silent j)]

theorem serials_fanOut (published : List (String × DynamicData)) (j : Nat) :
    serials { r with toSubscriber := r.fanOut effects tag, published := published } j =
      r.serials j ++
        if r.links j = .open then (sentOn (subscriberLink j) effects).filterMap fun _ => tag
        else [] := by
  simp only [serials, fanOut]
  split <;> simp [List.filterMap_map, Function.comp_def]

/-- A serial above all others keeps a subscriber's serials increasing. -/
theorem pairwise_append_above {l : List Nat} {n : Nat} (sorted : l.Pairwise (· < ·))
    (below : ∀ s ∈ l, s < n) : (l ++ [n]).Pairwise (· < ·) :=
  List.pairwise_append.mpr ⟨sorted, List.pairwise_singleton _ _, fun a member b found => by
    rw [List.mem_singleton.mp found]; exact below a member⟩

theorem invariant_advertise {topic type id : String} {configuration : YamlNode}
    (faithful : enc.PublicationFaithful) (inv : Invariant enc r)
    (stepped : r.step enc (.advertise topic type id configuration) = some r') :
    Invariant enc r' := by
  simp only [step, Node.step, Option.map_some', Option.some.injEq] at stepped
  subst stepped
  rw [fanOut_of_silent (by simp)]
  refine { inv with log := fun payload member => ?_ }
  simp only [Endpoint.startupAdvertisement, List.mem_append, List.mem_singleton] at member
  rcases member with old | rfl
  · exact inv.log payload old
  · exact faithful.advertisement topic type id configuration

theorem invariant_publish {topic : String} {message : DynamicData} (inv : Invariant enc r)
    (stepped : r.step enc (.publish topic message) = some r') : Invariant enc r' := by
  simp only [step, Node.step, Option.map_some', Option.some.injEq] at stepped
  subst stepped
  have older {s : Nat} {entry : String × DynamicData} (found : r.published[s]? = some entry) :
      (r.published ++ [(topic, message)])[s]? = some entry := getElem?_append_of_some found
  refine ⟨inv.log, fun i payload member => ?_, fun i payload s member => ?_,
    fun receipt member => ?_, fun i => ?_, fun i s member => ?_⟩
  · rcases mem_fanOut.mp member with old | ⟨-, _, -, same⟩
    · exact inv.plain i payload old
    · cases same
  · rcases mem_fanOut.mp member with old | ⟨-, _, sent, same⟩
    · obtain ⟨topic', type, message', payload_eq, found⟩ := inv.stamped i payload s old
      exact ⟨topic', type, message', payload_eq, older found⟩
    · simp only [Prod.mk.injEq, Option.some.injEq] at same
      obtain ⟨rfl, rfl⟩ := same
      obtain ⟨info, -, -, rfl, -⟩ := Endpoint.mem_publish_send.mp sent
      exact ⟨topic, info.type, message, rfl, List.getElem?_concat_length ..⟩
  · obtain ⟨s, topic', numbered, frame, found⟩ := inv.sound receipt member
    exact ⟨s, topic', numbered, frame, older found⟩
  · show (serials _ i).Pairwise _
    rw [serials_fanOut]
    split
    · have atMostOne : (sentOn (subscriberLink i)
          (r.publisher.endpoint.publish enc topic message)).length ≤ 1 :=
        length_sentOn_publish topic message
      rcases Nat.le_one_iff_eq_zero_or_eq_one.mp atMostOne with none | one
      · simpa [List.length_eq_zero.mp none] using inv.ordered i
      · obtain ⟨payload, single⟩ := List.length_eq_one.mp one
        simpa [single] using pairwise_append_above (inv.ordered i) (inv.bounded i)
    · simpa using inv.ordered i
  · change s ∈ serials _ i at member
    rw [serials_fanOut] at member
    split at member
    · rcases List.mem_append.mp member with old | new
      · exact (inv.bounded i s old).trans (by simp)
      · obtain ⟨_, -, same⟩ := List.mem_filterMap.mp new
        cases same
        simp
    · exact (inv.bounded i s (by simpa using member)).trans (by simp)

theorem invariant_subscribe {i : Nat} {topic type : String} {callback : SubscriptionCallback}
    {configuration : YamlNode} (inv : Invariant enc r)
    (stepped : r.step enc (.subscribe i topic type callback configuration) = some r') :
    Invariant enc r' := by
  simp only [step, Node.step, Option.map_some', Option.some.injEq] at stepped
  subst stepped
  exact { inv with }

theorem invariant_connect {i : Nat} (inv : Invariant enc r)
    (stepped : r.step enc (.connect i) = some r') : Invariant enc r' := by
  simp only [step, Node.step] at stepped
  split_ifs at stepped
  simp only [Option.some_bind, Option.map_some', Option.some.injEq] at stepped
  subst stepped
  refine ⟨inv.log, fun j payload member => ?_, fun j payload s member => ?_, inv.sound,
    fun j => by simpa only [serials, filterMap_fanOut_none] using inv.ordered j,
    fun j => by simpa only [serials, filterMap_fanOut_none] using inv.bounded j⟩
  · rcases mem_fanOut.mp member with old | ⟨-, sent, found, same⟩
    · exact inv.plain j payload old
    · cases same
      obtain ⟨_, logged, same⟩ := List.mem_map.mp found
      obtain ⟨-, rfl⟩ := Effect.send.inj same
      exact inv.log _ logged
  · rcases mem_fanOut.mp member with old | ⟨-, _, -, same⟩
    · exact inv.stamped j payload s old
    · cases same

theorem invariant_atPublisher {i : Nat} (inv : Invariant enc r)
    (stepped : r.step enc (.atPublisher i) = some r') : Invariant enc r' := by
  simp only [step] at stepped
  split at stepped
  · cases stepped
  · split at stepped
    · cases stepped
      exact { inv with }
    · obtain ⟨⟨next, effects⟩, nodeStep, rfl⟩ := Option.map_eq_some'.mp stepped
      have received := Node.step_frame nodeStep
      rw [fanOut_of_silent fun j payload => Endpoint.receive_sends_nothing received payload]
      refine { inv with log := ?_ }
      rw [show next.endpoint.startupMessages = r.publisher.endpoint.startupMessages from
        (Endpoint.receive_frame received).1]
      exact inv.log

/-- Taking frames off the front of subscriber `i`'s connection and handing its host sound
receipts that carry at most the serials of those frames keeps the invariant. -/
theorem invariant_take {i : Nat} {rest : List (String × Option Nat)}
    (front : List (String × Option Nat)) (new : List Receipt) (inv : Invariant enc r)
    (queued : r.toSubscriber i = front ++ rest)
    (mine : ∀ x ∈ new, x.subscriber = i)
    (tagged : List.Sublist (new.filterMap (·.serial)) (front.filterMap (·.2)))
    (sound : ∀ x ∈ new, ∃ s topic, x.serial = some s ∧ x.frame = .publish topic x.message ∧
      r.published[s]? = some (topic, x.message))
    (same : r'.publisher.endpoint.startupMessages = r.publisher.endpoint.startupMessages ∧
      r'.published = r.published ∧ r'.toSubscriber = Function.update r.toSubscriber i rest ∧
      r'.received = r.received ++ new) :
    Invariant enc r' := by
  obtain ⟨logged, published, queues, received⟩ := same
  have kept {j : Nat} {entry : String × Option Nat} (member : entry ∈ r'.toSubscriber j) :
      entry ∈ r.toSubscriber j := by
    rw [queues] at member
    by_cases here : j = i
    · subst here
      rw [Function.update_same] at member
      exact queued ▸ List.mem_append_right _ member
    · rwa [Function.update_noteq here] at member
  have shorter (j : Nat) : List.Sublist (r'.serials j) (r.serials j) := by
    simp only [serials, received, queues, List.filter_append, List.filterMap_append]
    by_cases here : j = i
    · subst here
      have all : new.filter (·.subscriber = j) = new := List.filter_eq_self.mpr (by simpa using mine)
      rw [all, Function.update_same, queued, List.filterMap_append, List.append_assoc]
      exact (tagged.append (List.Sublist.refl _)).append_left _
    · have none : new.filter (·.subscriber = j) = [] := List.filter_eq_nil_iff.mpr
        fun x member same => here (by simpa [mine x member, eq_comm] using same)
      simp [none, Function.update_noteq here]
  refine ⟨logged ▸ inv.log, fun j payload member => inv.plain j payload (kept member),
    fun j payload s member => published ▸ inv.stamped j payload s (kept member),
    fun receipt member => ?_, fun j => (inv.ordered j).sublist (shorter j),
    fun j s member => published ▸ inv.bounded j s ((shorter j).subset member)⟩
  rw [received] at member
  rcases List.mem_append.mp member with old | fresh
  · exact published ▸ inv.sound receipt old
  · exact published ▸ sound receipt fresh

theorem invariant_atSubscriber {i : Nat} (faithful : enc.PublicationFaithful)
    (inv : Invariant enc r) (stepped : r.step enc (.atSubscriber i) = some r') :
    Invariant enc r' := by
  simp only [step] at stepped
  split at stepped
  · cases stepped
  · rename_i payload tag rest queued
    split at stepped
    · cases stepped
      exact invariant_take [_] [] inv queued (by simp) (by simp) (by simp) ⟨rfl, rfl, rfl, by simp⟩
    · rename_i message decoded
      obtain ⟨⟨next, effects⟩, nodeStep, rfl⟩ := Option.map_eq_some'.mp stepped
      rcases Endpoint.receive_publicationsOf (Node.step_frame nodeStep) with
        silent | ⟨topic, callback, delivered, rfl, single⟩
      · exact invariant_take [_] _ inv queued (by simp [silent]) (by simp [silent])
          (by simp [silent]) ⟨rfl, rfl, rfl, rfl⟩
      · have head : (payload, tag) ∈ r.toSubscriber i := queued ▸ List.mem_cons_self _ _
        cases tag with
        | none => exact absurd decoded (inv.plain i payload head topic delivered)
        | some s =>
          obtain ⟨topic', type, message, rfl, found⟩ := inv.stamped i payload s head
          rw [faithful.publication, Option.some.injEq, Message.publish.injEq] at decoded
          obtain ⟨rfl, rfl⟩ := decoded
          exact invariant_take [_] _ inv queued (by simp [single]) (by simp [single])
            (by simp [single, found]) ⟨rfl, rfl, rfl, rfl⟩

theorem invariant_close {i : Nat} (inv : Invariant enc r)
    (stepped : r.step enc (.close i) = some r') : Invariant enc r' := by
  simp only [step, Node.step] at stepped
  split_ifs at stepped
  simp only [Option.some_bind, Option.map_some', Option.some.injEq] at stepped
  subst stepped
  exact invariant_take (r.toSubscriber i) [] inv (by simp) (by simp) (by simp) (by simp)
    ⟨rfl, rfl, rfl, by simp⟩

theorem invariant_step {event : RelayEvent} (faithful : enc.PublicationFaithful)
    (inv : Invariant enc r) (stepped : r.step enc event = some r') : Invariant enc r' := by
  cases event with
  | advertise => exact invariant_advertise faithful inv stepped
  | publish => exact invariant_publish inv stepped
  | subscribe => exact invariant_subscribe inv stepped
  | connect => exact invariant_connect inv stepped
  | atPublisher => exact invariant_atPublisher inv stepped
  | atSubscriber => exact invariant_atSubscriber faithful inv stepped
  | close => exact invariant_close inv stepped

theorem invariant_run {events : List RelayEvent} (faithful : enc.PublicationFaithful)
    (ran : start.run enc events = some r) : Invariant enc r :=
  execute_induction (P := fun _ => Invariant enc)
    ⟨by simp [start, Node.init, Endpoint.init], by simp [start], by simp [start], by simp [start],
      by simp [start, serials], by simp [start, serials]⟩
    (fun _ _ _ _ _ inv stepped => invariant_step faithful inv stepped) ran

/-- Over every run from fresh endpoints, with an encoding that decodes a publication frame to
what was written into it and reads no advertisement as a publication: every publication a
subscriber's host is handed is one the publisher's host published, carried by a frame of the
topic it was published on; and each subscriber is handed publications in the order they were
published, each at most once. -/
theorem publications_arrive_once_in_order {events : List RelayEvent}
    (faithful : enc.PublicationFaithful) (ran : start.run enc events = some r) :
    (∀ receipt ∈ r.received, ∃ s topic, receipt.serial = some s ∧
      receipt.frame = .publish topic receipt.message ∧
        r.published[s]? = some (topic, receipt.message)) ∧
    ∀ i, ((r.received.filter (·.subscriber = i)).filterMap (·.serial)).Pairwise (· < ·) := by
  have inv := invariant_run faithful ran
  exact ⟨inv.sound, fun i => (inv.ordered i).sublist (List.sublist_append_left _ _)⟩

end Relay

theorem escaped_publicationFaithful : Encoding.escaped.PublicationFaithful where
  publication _ _ _ _ := Wire.decode_frame rfl
  advertisement topic type id _ _ _ published := by
    have decoded : Wire.decode (Wire.frame 'A' [topic, type, id]) =
        some (.advertise topic type id) := Wire.decode_frame rfl
    cases decoded.symm.trans published

/-- A subscriber that subscribed before the connection opened is handed both publications of
its topic, in order. -/
theorem publications_arrive_once_in_order_after_subscribe :
    ∃ r, Relay.start.run .escaped
        [.advertise "chat" "Str" "" default, .subscribe 0 "chat" "Str" ⟨7⟩ default, .connect 0,
          .atPublisher 0, .atSubscriber 0, .publish "chat" ⟨"hi"⟩, .publish "chat" ⟨"ho"⟩,
          .atSubscriber 0, .atSubscriber 0] = some r ∧
      r.received.map (·.message) = [⟨"hi"⟩, ⟨"ho"⟩] ∧
      ((r.received.filter (·.subscriber = 0)).filterMap (·.serial)).Pairwise (· < ·) :=
  ⟨_, rfl, rfl, (Relay.publications_arrive_once_in_order escaped_publicationFaithful
    (rfl : Relay.start.run .escaped
      [.advertise "chat" "Str" "" default, .subscribe 0 "chat" "Str" ⟨7⟩ default, .connect 0,
        .atPublisher 0, .atSubscriber 0, .publish "chat" ⟨"hi"⟩, .publish "chat" ⟨"ho"⟩,
        .atSubscriber 0, .atSubscriber 0] = some _)).2 0⟩

end WebSocketSH
