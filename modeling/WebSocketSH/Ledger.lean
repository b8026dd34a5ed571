import WebSocketSH.Node
import WebSocketSH.Wire

/-! The in-flight call ledger (`_service_request_info`) and the call counter. Over any
interleaving of concurrent callers, responses with arbitrary ids and closes, as long as
the `size_t` counter does not wrap, the `i`-th call is given id `i + 1`, its entry never
overwrites another call's, and a response reaches a client only through the entry of the
call its id names, which it then removes for good. -/
namespace WebSocketSH

/-- The record a host thread leaves in the ledger when it enters `call_service`. -/
def Event.call? : Event → Option ServiceRequestInfo
  | .callService _ _ client callHandle => some ⟨client, callHandle⟩
  | _ => none

/-- The callers of a run's `call_service` invocations, in order. -/
def callsOf (events : List Event) : List ServiceRequestInfo :=
  events.filterMap Event.call?

@[simp] theorem callsOf_append (first second : List Event) :
    callsOf (first ++ second) = callsOf first ++ callsOf second :=
  List.filterMap_append _ _ _

@[simp] theorem callsOf_singleton (event : Event) : callsOf [event] = event.call?.toList := by
  simp only [callsOf, List.filterMap_cons, List.filterMap_nil]
  cases event.call? <;> rfl

namespace Node
variable {enc : Encoding} {n n' : Node} {event : Event} {effects : List Effect}
  {events : List Event}

/-- Apart from entering `call_service`, a step keeps the counter and at most erases one
ledger entry: the one whose response it delivers. -/
theorem step_ledger (stepped : n.step enc event = some (n', effects)) (notCall : event.call? = none) :
    n'.endpoint.nextServiceCallId = n.endpoint.nextServiceCallId ∧
      ∀ id, n'.endpoint.serviceRequestInfo.lookup id = none ∨
        n'.endpoint.serviceRequestInfo.lookup id = n.endpoint.serviceRequestInfo.lookup id := by
  cases event with
  | callService => simp [Event.call?] at notCall
  | frame message c =>
    obtain ⟨⟨e', fx⟩, received, same⟩ := Option.map_eq_some'.mp stepped
    cases same
    refine ⟨(Endpoint.receive_frame received).2.2, fun id => ?_⟩
    cases message with
    | subscribe topicName messageType requestId =>
      obtain ⟨e'', handled, same⟩ := Option.map_eq_some'.mp received
      cases same
      rw [Endpoint.receiveSubscribeRequestWs_frame handled]
      exact .inr rfl
    | serviceResponse service response responseId =>
      simp only [Endpoint.receive, Option.some.injEq] at received
      unfold Endpoint.receiveServiceResponseWs at received
      split at received
      · cases received; exact .inr rfl
      · split at received <;> cases received
        · exact .inr rfl
        · by_cases same : id = responseId
          · subst same; exact .inl (AList.lookup_erase _ _)
          · exact .inr (AList.lookup_erase_ne same)
    | _ =>
      simp only [Endpoint.receive, Option.some.injEq, Prod.mk.injEq] at received
      obtain ⟨rfl, -⟩ := received
      exact .inr rfl
  | callServiceSend thread =>
    simp only [step] at stepped
    split at stepped <;> cases stepped <;> exact ⟨rfl, fun _ => .inr rfl⟩
  | receiveResponse handle response =>
    simp only [step] at stepped
    split at stepped <;> cases stepped <;> exact ⟨rfl, fun _ => .inr rfl⟩
  | _ =>
    simp only [step, Option.some.injEq, Prod.mk.injEq] at stepped
    obtain ⟨rfl, -⟩ := stepped
    simp [Endpoint.subscribe, Endpoint.startupAdvertisement, Endpoint.createServiceProxy,
      Endpoint.notifyConnectionClosed]

/-- Only a response frame delivers to a client, and only through the entry under its id,
which the step erases. -/
theorem step_response {client : ServiceClient} {callHandle : ClientCallHandle} {response : DynamicData}
    (stepped : n.step enc event = some (n', effects))
    (delivered : Effect.response client callHandle response ∈ effects) :
    ∃ service id c, event = .frame (.serviceResponse service response id) c ∧
      n.endpoint.serviceRequestInfo.lookup id = some ⟨client, callHandle⟩ ∧
      n'.endpoint.serviceRequestInfo.lookup id = none := by
  cases event with
  | frame message c =>
    obtain ⟨⟨e', fx⟩, received, same⟩ := Option.map_eq_some'.mp stepped
    cases same
    cases message with
    | serviceResponse service answer id =>
      simp only [Endpoint.receive, Option.some.injEq] at received
      unfold Endpoint.receiveServiceResponseWs at received
      split at received
      · cases received; simp at delivered
      · rename_i info found
        split at received <;> cases received
        · simp at delivered
        · simp only [List.mem_singleton, Effect.response.injEq] at delivered
          obtain ⟨rfl, rfl, rfl⟩ := delivered
          exact ⟨service, id, c, rfl, found, AList.lookup_erase _ _⟩
    | subscribe topicName messageType id =>
      obtain ⟨e'', -, same⟩ := Option.map_eq_some'.mp received
      cases same; simp at delivered
    | publish topicName message =>
      simp only [Endpoint.receive, Option.some.injEq, Prod.mk.injEq] at received
      obtain ⟨rfl, rfl⟩ := received
      unfold Endpoint.receivePublicationWs at delivered
      split at delivered <;> simp_all
    | callService service request id =>
      simp only [Endpoint.receive, Option.some.injEq, Prod.mk.injEq] at received
      obtain ⟨rfl, rfl⟩ := received
      unfold Endpoint.receiveServiceRequestWs at delivered
      repeat' split at delivered
      all_goals simp_all
    | _ =>
      simp only [Endpoint.receive, Option.some.injEq, Prod.mk.injEq] at received
      obtain ⟨rfl, rfl⟩ := received
      simp at delivered
  | publish topic message =>
    simp only [step, Option.some.injEq, Prod.mk.injEq] at stepped
    obtain ⟨rfl, rfl⟩ := stepped
    unfold Endpoint.publish at delivered
    split at delivered
    · simp at delivered
    · simp [sendUnlessEmpty] at delivered
  | callServiceSend thread =>
    simp only [step] at stepped
    split at stepped <;> cases stepped
    · simp at delivered
    · unfold Endpoint.callServiceSend at delivered
      repeat' split at delivered
      all_goals simp_all
  | receiveResponse handle response =>
    simp only [step] at stepped
    split at stepped <;> cases stepped
    · simp at delivered
    · simp [Endpoint.receiveResponse, sendUnlessEmpty] at delivered
  | opened c =>
    simp only [step, Option.some.injEq, Prod.mk.injEq] at stepped
    obtain ⟨rfl, rfl⟩ := stepped
    simp [Endpoint.notifyConnectionOpened] at delivered
  | _ =>
    simp only [step, Option.some.injEq, Prod.mk.injEq] at stepped
    obtain ⟨rfl, rfl⟩ := stepped
    simp at delivered

/-- The counter is one past the number of calls made, and every ledger entry is the
record of the call whose position its id names. -/
def LedgerSound (events : List Event) (n : Node) : Prop :=
  n.endpoint.nextServiceCallId = (callsOf events).length + 1 ∧
    ∀ id info, n.endpoint.serviceRequestInfo.lookup id = some info →
      ∃ i, id = toString (i + 1) ∧ (callsOf events)[i]? = some info

theorem ledgerSound_step (sound : LedgerSound events n)
    (stepped : n.step enc event = some (n', effects))
    (bound : (callsOf (events ++ [event])).length < sizeModulus - 1) :
    LedgerSound (events ++ [event]) n' := by
  obtain ⟨counter, entries⟩ := sound
  cases call : event.call? with
  | none =>
    obtain ⟨same, erased⟩ := step_ledger stepped call
    have calls : callsOf (events ++ [event]) = callsOf events := by simp [call]
    refine ⟨by rw [same, counter, calls], fun id info found => ?_⟩
    rw [calls]
    rcases erased id with gone | kept
    · rw [gone] at found; cases found
    · exact entries id info (kept ▸ found)
  | some record =>
    cases event with
    | callService service request client callHandle =>
      simp only [Event.call?, Option.some.injEq] at call
      subst call
      simp only [step, Option.some.injEq, Prod.mk.injEq] at stepped
      obtain ⟨rfl, rfl⟩ := stepped
      have calls : callsOf (events ++ [.callService service request client callHandle]) =
          callsOf events ++ [⟨client, callHandle⟩] := by simp [Event.call?]
      unfold LedgerSound
      rw [calls] at bound ⊢
      simp only [List.length_append, List.length_singleton, sizeModulus] at bound
      refine ⟨?_, fun id info found => ?_⟩
      · simp only [Endpoint.callServiceLocked, counter, sizeModulus, List.length_append,
          List.length_singleton]
        exact Nat.mod_eq_of_lt (by omega)
      · simp only [Endpoint.callServiceLocked, counter] at found
        by_cases fresh : id = toString ((callsOf events).length + 1)
        · subst fresh
          rw [AList.lookup_insert, Option.some.injEq] at found
          exact ⟨(callsOf events).length, rfl, by simp [found]⟩
        · rw [AList.lookup_insert_ne fresh] at found
          obtain ⟨i, rfl, recorded⟩ := entries _ _ found
          exact ⟨i, rfl, getElem?_append_of_some recorded⟩
    | _ => simp [Event.call?] at call

theorem ledgerSound (ran : Node.init.run enc events = some n)
    (bound : (callsOf events).length < sizeModulus - 1) : LedgerSound events n := by
  refine run_induction (P := fun events n =>
    (callsOf events).length < sizeModulus - 1 → LedgerSound events n) ?_ ?_ ran bound
  · intro _
    exact ⟨rfl, by simp [init, Endpoint.init]⟩
  · intro events m event m' effects _ ih stepped bound'
    refine ledgerSound_step (ih (lt_of_le_of_lt ?_ bound')) stepped bound'
    simp

theorem issued_lt (sound : LedgerSound events n) {id : String} {info : ServiceRequestInfo}
    (found : n.endpoint.serviceRequestInfo.lookup id = some info) :
    ∃ i < (callsOf events).length, id = toString (i + 1) := by
  obtain ⟨i, rfl, recorded⟩ := sound.2 id info found
  exact ⟨i, (List.getElem?_eq_some_iff.mp recorded).1, rfl⟩

/-- Once the entry of an issued id is gone, no later state of the run holds it again. -/
theorem issued_stays_absent {i : Nat} {more : List Event} {n'' : Node}
    (ran : Node.init.run enc events = some n) (issued : i < (callsOf events).length)
    (absent : n.endpoint.serviceRequestInfo.lookup (toString (i + 1)) = none)
    (later : n.run enc more = some n'') (bound : (callsOf (events ++ more)).length < sizeModulus - 1) :
    n''.endpoint.serviceRequestInfo.lookup (toString (i + 1)) = none := by
  refine run_induction (P := fun more m => (callsOf (events ++ more)).length < sizeModulus - 1 →
    m.endpoint.serviceRequestInfo.lookup (toString (i + 1)) = none) (fun _ => by simpa using absent)
    ?_ later bound
  intro more m event m' effects prior ih stepped bound'
  have shorter : (callsOf (events ++ more)).length < sizeModulus - 1 :=
    lt_of_le_of_lt (by simp) (List.append_assoc events more [event] ▸ bound')
  have reached : Node.init.run enc (events ++ more) = some m := by rw [run_append, ran]; exact prior
  cases call : event.call? with
  | none =>
    rcases (step_ledger stepped call).2 (toString (i + 1)) with gone | kept
    · exact gone
    · rw [kept]; exact ih shorter
  | some record =>
    cases event with
    | callService service request client callHandle =>
      simp only [step, Option.some.injEq, Prod.mk.injEq] at stepped
      obtain ⟨rfl, rfl⟩ := stepped
      have counter := (ledgerSound reached shorter).1
      have later : i + 1 ≠ m.endpoint.nextServiceCallId := by
        rw [counter, callsOf_append, List.length_append]; omega
      simp only [Endpoint.callServiceLocked]
      rw [AList.lookup_insert_ne fun same => later (toString_injective same)]
      exact ih shorter
    | _ => simp [Event.call?] at call

theorem step_unknown_response {service id : String} {response : DynamicData} {c : ConnectionHandle}
    (unknown : n.endpoint.serviceRequestInfo.lookup id = none) :
    n.step enc (.frame (.serviceResponse service response id) c) = some (n, []) := by
  simp [step, Endpoint.receive, Endpoint.receiveServiceResponseWs, unknown, handlesOf]

/-- A response under an id the ledger holds, whose value converts for the debug log, hands
the client of that entry the response, once, and erases the entry. -/
theorem step_known_response {service id : String} {response : DynamicData} {c : ConnectionHandle}
    {info : ServiceRequestInfo} (found : n.endpoint.serviceRequestInfo.lookup id = some info)
    (converts : (enc.convert response).isSome) :
    ∃ n', n.step enc (.frame (.serviceResponse service response id) c) =
        some (n', [.response info.client info.callHandle response]) ∧
      n'.endpoint.serviceRequestInfo.lookup id = none := by
  obtain ⟨json, converted⟩ := Option.isSome_iff_exists.mp converts
  refine ⟨{ n with endpoint := { n.endpoint with
    serviceRequestInfo := n.endpoint.serviceRequestInfo.erase id } }, ?_, AList.lookup_erase _ _⟩
  simp [step, Endpoint.receive, Endpoint.receiveServiceResponseWs, found, converted, handlesOf]

/-- Over any interleaving of calls, responses and closes with fewer than `2^64 - 1` calls:
the next call is given id `calls + 1`, greater than every earlier id and with a decimal
string no earlier id has and no entry holds; a response reaches a client only through the
entry of the call its id names, which it removes, and that entry never comes back; a
response under an id whose entry is present, with a value that converts, is handed to that
entry's client once and removes the entry; a response under an unknown id, and any close,
leave the ledger as it is. -/
theorem service_call_ledger_sound (ran : Node.init.run enc events = some n)
    (bound : (callsOf events).length < sizeModulus - 1) :
    n.endpoint.nextServiceCallId = (callsOf events).length + 1 ∧
    (∀ i < (callsOf events).length, toString (i + 1) ≠ toString n.endpoint.nextServiceCallId) ∧
    n.endpoint.serviceRequestInfo.lookup (toString n.endpoint.nextServiceCallId) = none ∧
    (∀ event n' effects client callHandle response, n.step enc event = some (n', effects) →
      Effect.response client callHandle response ∈ effects →
      ∃ service id c i, event = .frame (.serviceResponse service response id) c ∧
        id = toString (i + 1) ∧ (callsOf events)[i]? = some ⟨client, callHandle⟩ ∧
        n.endpoint.serviceRequestInfo.lookup id = some ⟨client, callHandle⟩ ∧
        n'.endpoint.serviceRequestInfo.lookup id = none) ∧
    (∀ service response id c info, n.endpoint.serviceRequestInfo.lookup id = some info →
      (enc.convert response).isSome →
      ∃ n', n.step enc (.frame (.serviceResponse service response id) c) =
          some (n', [.response info.client info.callHandle response]) ∧
        n'.endpoint.serviceRequestInfo.lookup id = none) ∧
    (∀ i more n', i < (callsOf events).length →
      n.endpoint.serviceRequestInfo.lookup (toString (i + 1)) = none → n.run enc more = some n' →
      (callsOf (events ++ more)).length < sizeModulus - 1 →
      n'.endpoint.serviceRequestInfo.lookup (toString (i + 1)) = none) ∧
    (∀ service response id c, n.endpoint.serviceRequestInfo.lookup id = none →
      n.step enc (.frame (.serviceResponse service response id) c) = some (n, [])) ∧
    ∀ c, (n.endpoint.notifyConnectionClosed c).serviceRequestInfo = n.endpoint.serviceRequestInfo := by
  have sound := ledgerSound ran bound
  have distinct : ∀ i < (callsOf events).length,
      toString (i + 1) ≠ toString n.endpoint.nextServiceCallId := fun i issued same => by
    have := toString_injective same
    rw [sound.1] at this
    omega
  refine ⟨sound.1, distinct, ?_, ?_, fun _ _ _ _ _ found converts =>
    step_known_response found converts, fun i more n' issued absent later bound' =>
    issued_stays_absent ran issued absent later bound', fun _ _ _ _ unknown =>
    step_unknown_response unknown, fun _ => rfl⟩
  · cases found : n.endpoint.serviceRequestInfo.lookup (toString n.endpoint.nextServiceCallId) with
    | none => rfl
    | some info =>
      obtain ⟨i, issued, same⟩ := issued_lt sound found
      exact absurd same.symm (distinct i issued)
  · intro event n' effects client callHandle response stepped delivered
    obtain ⟨service, id, c, rfl, found, erased⟩ := step_response stepped delivered
    obtain ⟨i, rfl, recorded⟩ := sound.2 _ _ found
    exact ⟨service, _, c, i, rfl, rfl, recorded, found, erased⟩

/-- Two calls get ids "1" and "2"; a response under "1" removes its entry, and a response
under "2" is then handed to the second call's client. -/
theorem service_call_ledger_sound_after_two_calls :
    ∃ n, Node.init.run .escaped [.callService "add" ⟨"1"⟩ ⟨1⟩ ⟨1⟩,
        .callService "add" ⟨"2"⟩ ⟨2⟩ ⟨2⟩, .frame (.serviceResponse "add" ⟨"3"⟩ "1") ⟨5⟩] = some n ∧
      n.endpoint.nextServiceCallId = 3 ∧ n.endpoint.serviceRequestInfo.lookup "1" = none ∧
      ∃ n', n.step .escaped (.frame (.serviceResponse "add" ⟨"4"⟩ "2") ⟨5⟩) =
          some (n', [.response ⟨2⟩ ⟨2⟩ ⟨"4"⟩]) ∧ n'.endpoint.serviceRequestInfo.lookup "2" = none := by
  have ran : Node.init.run .escaped [.callService "add" ⟨"1"⟩ ⟨1⟩ ⟨1⟩,
      .callService "add" ⟨"2"⟩ ⟨2⟩ ⟨2⟩, .frame (.serviceResponse "add" ⟨"3"⟩ "1") ⟨5⟩] = some _ := rfl
  have law := service_call_ledger_sound ran (by decide)
  exact ⟨_, ran, law.1, rfl, law.2.2.2.2.1 "add" ⟨"4"⟩ "2" ⟨5⟩ ⟨⟨2⟩, ⟨2⟩⟩ rfl rfl⟩

end Node
end WebSocketSH
