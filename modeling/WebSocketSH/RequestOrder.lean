import WebSocketSH.Listeners

/-! The order of subscription requests from different connections. On a topic that already
has a publish entry, a connection's recorded ids depend only on its own requests and on the
entry's type, which requests never change; so every interleaving of two request sequences
from disjoint connections leaves the same listener map. While the entry is missing, the
first request creates it as `TopicPublishInfo{}`, with an empty type, and every later typed
request is then refused as a mismatch, so the order of arrival decides who listens. -/
namespace WebSocketSH

/-- `zs` is an interleaving of `xs` and `ys`. -/
inductive Interleaving {α : Type} : List α → List α → List α → Prop
  | nil : Interleaving [] [] []
  | left {x : α} {xs ys zs : List α} : Interleaving xs ys zs → Interleaving (x :: xs) ys (x :: zs)
  | right {y : α} {xs ys zs : List α} : Interleaving xs ys zs → Interleaving xs (y :: ys) (y :: zs)

namespace Interleaving
variable {α : Type} {xs ys zs : List α}

theorem symm (mixed : Interleaving xs ys zs) : Interleaving ys xs zs := by
  induction mixed with
  | nil => exact .nil
  | left _ ih => exact .right ih
  | right _ ih => exact .left ih

theorem any_eq (mixed : Interleaving xs ys zs) (p : α → Bool) :
    zs.any p = (xs.any p || ys.any p) := by
  induction mixed with
  | nil => rfl
  | left _ ih => simp [ih, Bool.or_assoc]
  | right _ ih => simp [ih, Bool.or_left_comm]

/-- Filtering out every element of the second sequence leaves the first. -/
theorem filter_eq_left (mixed : Interleaving xs ys zs) {p : α → Bool}
    (none : ∀ y ∈ ys, p y = false) : zs.filter p = xs.filter p := by
  induction mixed with
  | nil => rfl
  | left _ ih => simp [List.filter_cons, ih none]
  | right _ ih =>
    simp only [List.mem_cons, forall_eq_or_imp] at none
    simp [List.filter_cons, none.1, ih none.2]

end Interleaving

/-- A subscription or unsubscription request on one topic, with the connection it came on. -/
inductive Request where
  | subscribe (messageType : Option String) (id : String) (connectionHandle : ConnectionHandle)
  | unsubscribe (id : String) (connectionHandle : ConnectionHandle)
deriving DecidableEq, Repr

namespace Request

def connectionHandle : Request → ConnectionHandle
  | subscribe _ _ c | unsubscribe _ c => c

/-- The frame that carries the request for `topic`. -/
def event (topic : String) : Request → Event
  | subscribe messageType id c => .frame (.subscribe topic messageType id) c
  | unsubscribe id c => .frame (.unsubscribe topic id) c

/-- The request carries no type (`message_type` is null). -/
def untyped : Request → Bool
  | subscribe none _ _ => true
  | _ => false

/-- What the request does to the ids of its own connection on a topic whose publish entry
records `type`. -/
def apply (type : String) (ids : Option (Finset String)) : Request → Option (Finset String)
  | subscribe messageType id _ =>
    if messageType.all (· = type) then some (insert id (ids.getD ∅)) else ids
  | unsubscribe id _ => ids.bind fun current =>
    if id = "" ∨ current.erase id = ∅ then none else some (current.erase id)

end Request

namespace Node
variable {enc : Encoding} {n : Node} {topic type : String}

theorem step_untyped {id : String} {d : ConnectionHandle}
    (typed : n.endpoint.publishedType topic = some type) :
    n.step enc ((Request.subscribe none id d).event topic) = none := by
  obtain ⟨info, found, -⟩ := Option.map_eq_some'.mp typed
  simp [Request.event, step, Endpoint.receive, Endpoint.receiveSubscribeRequestWs, found]

/-- One typed request on a topic with a publish entry: it succeeds, keeps the entry's type,
and changes only the ids of its own connection, as `Request.apply` says. -/
theorem step_request (enc : Encoding) {r : Request} (typed : n.endpoint.publishedType topic = some type)
    (hasType : r.untyped = false) :
    ∃ n', n.step enc (r.event topic) = some (n', []) ∧
      n'.endpoint.publishedType topic = some type ∧
      ∀ c, n'.endpoint.listenerIds topic c =
        if r.connectionHandle = c then r.apply type (n.endpoint.listenerIds topic c)
        else n.endpoint.listenerIds topic c := by
  obtain ⟨info, found, rfl⟩ := Option.map_eq_some'.mp typed
  cases r with
  | subscribe messageType id d =>
    obtain ⟨named, rfl⟩ : ∃ named, messageType = some named := by
      cases messageType with
      | none => simp [Request.untyped] at hasType
      | some named => exact ⟨named, rfl⟩
    obtain ⟨e', handled⟩ := Option.isSome_iff_exists.mp
      (by simp [Endpoint.receiveSubscribeRequestWs, found] :
        (n.endpoint.receiveSubscribeRequestWs topic (some named) id d).isSome)
    refine ⟨_, by simp [Request.event, step, Endpoint.receive, handled]; rfl,
      Endpoint.publishedType_receiveSubscribeRequestWs typed handled, fun c => ?_⟩
    rw [Endpoint.listenerIds_receiveSubscribeRequestWs handled]
    by_cases who : d = c
    · subst who
      simp [Request.connectionHandle, Request.apply, Endpoint.acceptsSubscription, found]
    · simp [Request.connectionHandle, who, Ne.symm who]
  | unsubscribe id d =>
    refine ⟨_, rfl, Endpoint.publishedType_receiveUnsubscribeRequestWs.trans typed, fun c => ?_⟩
    rw [Endpoint.listenerIds_receiveUnsubscribeRequestWs]
    by_cases who : d = c
    · subst who; simp [Request.connectionHandle, Request.apply]
    · simp [Request.connectionHandle, who, Ne.symm who]

/-- A run of requests on a topic with a publish entry faults exactly when one request is
untyped, and otherwise leaves each connection the ids its own requests give it. -/
theorem run_requests (rs : List Request) (typed : n.endpoint.publishedType topic = some type)
    (c : ConnectionHandle) :
    (n.run enc (rs.map (·.event topic))).map (·.endpoint.listenerIds topic c) =
      if rs.any Request.untyped then none
      else some ((rs.filter (·.connectionHandle = c)).foldl (Request.apply type)
        (n.endpoint.listenerIds topic c)) := by
  induction rs generalizing n with
  | nil => rfl
  | cons r rest ih =>
    cases hasType : r.untyped
    · obtain ⟨n', stepped, typed', ids⟩ := step_request enc typed hasType
      simp only [List.map_cons, run_cons, stepped, Option.some_bind, ih typed', ids, List.any_cons,
        hasType, Bool.false_or, List.filter_cons]
      by_cases who : r.connectionHandle = c <;> simp [who]
    · cases r with
      | unsubscribe id d => simp [Request.untyped] at hasType
      | subscribe messageType id d =>
        cases messageType with
        | some named => simp [Request.untyped] at hasType
        | none => simp [run_cons, step_untyped typed, hasType]

variable {xs ys zs zs' : List Request}

/-- On a topic that already has a publish entry, every interleaving of two request sequences
from disjoint sets of connections leaves the same listener map, or faults in both. -/
theorem interleavings_agree_on_advertised_topic
    (entry : (n.endpoint.topicPublishInfo.lookup topic).isSome)
    (disjoint : ∀ x ∈ xs, ∀ y ∈ ys, x.connectionHandle ≠ y.connectionHandle)
    (first : Interleaving xs ys zs) (second : Interleaving xs ys zs') (c : ConnectionHandle) :
    (n.run enc (zs.map (·.event topic))).map (·.endpoint.listenerIds topic c) =
      (n.run enc (zs'.map (·.event topic))).map (·.endpoint.listenerIds topic c) := by
  obtain ⟨info, found⟩ := Option.isSome_iff_exists.mp entry
  have typed : n.endpoint.publishedType topic = some info.type := by
    simp [Endpoint.publishedType, found]
  rw [run_requests zs typed, run_requests zs' typed, first.any_eq, second.any_eq]
  have sameFilter : zs.filter (·.connectionHandle = c) = zs'.filter (·.connectionHandle = c) := by
    by_cases fromYs : ∃ y ∈ ys, y.connectionHandle = c
    · obtain ⟨y, member, rfl⟩ := fromYs
      have none : ∀ x ∈ xs, decide (x.connectionHandle = y.connectionHandle) = false :=
        fun x mem => by simpa using disjoint x mem y member
      rw [first.symm.filter_eq_left none, second.symm.filter_eq_left none]
    · have none : ∀ y ∈ ys, decide (y.connectionHandle = c) = false :=
        fun y mem => by simpa using fun same => fromYs ⟨y, mem, same⟩
      rw [first.filter_eq_left none, second.filter_eq_left none]
  rw [sameFilter]

/-- Two requests naming `Str` for `chat`, from connections 1 and 2. Once `chat` is advertised
as `Str`, both orders of arrival leave the same listener map. While it is not, the first
request creates the entry with an empty type and the second is refused as a mismatch, so
connection 1 listens only if its request came first. -/
theorem first_request_wins_on_unadvertised_topic :
    Interleaving [Request.subscribe (some "Str") "1" ⟨1⟩] [.subscribe (some "Str") "2" ⟨2⟩]
        [.subscribe (some "Str") "1" ⟨1⟩, .subscribe (some "Str") "2" ⟨2⟩] ∧
      Interleaving [Request.subscribe (some "Str") "1" ⟨1⟩] [.subscribe (some "Str") "2" ⟨2⟩]
        [.subscribe (some "Str") "2" ⟨2⟩, .subscribe (some "Str") "1" ⟨1⟩] ∧
      (∃ n, Node.init.run .refusing [.startupAdvertisement "chat" "Str" "" default] = some n ∧
        ∀ c, (n.run .refusing ([Request.subscribe (some "Str") "1" ⟨1⟩,
            .subscribe (some "Str") "2" ⟨2⟩].map (·.event "chat"))).map
            (·.endpoint.listenerIds "chat" c) =
          (n.run .refusing ([Request.subscribe (some "Str") "2" ⟨2⟩,
            .subscribe (some "Str") "1" ⟨1⟩].map (·.event "chat"))).map
            (·.endpoint.listenerIds "chat" c)) ∧
      (Node.init.run .refusing ([Request.subscribe (some "Str") "1" ⟨1⟩,
          .subscribe (some "Str") "2" ⟨2⟩].map (·.event "chat"))).map
          (·.endpoint.listenerIds "chat" ⟨1⟩) = some (some {"1"}) ∧
      (Node.init.run .refusing ([Request.subscribe (some "Str") "2" ⟨2⟩,
          .subscribe (some "Str") "1" ⟨1⟩].map (·.event "chat"))).map
          (·.endpoint.listenerIds "chat" ⟨1⟩) = some none :=
  ⟨.left (.right .nil), .right (.left .nil),
    ⟨_, rfl, interleavings_agree_on_advertised_topic (by decide) (by decide) (.left (.right .nil))
      (.right (.left .nil))⟩, by decide, by decide⟩

end Node
end WebSocketSH
