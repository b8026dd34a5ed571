import WebSocketSH.Client
import WebSocketSH.Node

/-! The client at run time (`Client.cpp`): the endpoint it is, the reconnect loop of
`spin_once`, and the transport callbacks that share its fields (`_handle_opening`,
`_handle_failed_connection`, `_handle_close`, the message handlers). The transport is
modelled by the state of every connection `get_connection` created; it never takes a closed
connection out of the closed state, and the steady clock never goes back. Over every run,
`spin_once` creates a connection only on its first call or once the current connection is
absent or closed and more than 2 s have passed since the previous attempt, so at most one
connection the client created is not closed, and attempts are more than 2 s apart. -/
namespace WebSocketSH

/-- `websocketpp::session::state`. -/
inductive SessionState where
  | connecting
  | «open»
  | closing
  | closed
deriving DecidableEq, Repr, Inhabited

/-- `2s` in `steady_clock` ticks (nanoseconds). -/
def twoSeconds : Nat := 2000000000

/-- A pass through the body of `spin_once`'s `if`: the clock at the check and when the
attempt is recorded, and the connection `get_connection` created, if it did. -/
structure Attempt where
  checkedAt : Nat
  recordedAt : Nat
  connection : Option ConnectionHandle
deriving DecidableEq, Repr, Inhabited

/-- A `Client` object with its transport. -/
structure ClientWorld where
  node : Node
  client : Client
  hasSpunOnce : Bool
  lastConnectionAttempt : Nat
  connectionFailed : Bool
  /-- the state of every connection the transport created; connection `k` is `⟨k⟩` -/
  sessions : List SessionState
  /-- the last reading of the steady clock -/
  clock : Nat
  /-- what the client sent and handed to its host, in order -/
  effects : List Effect
  /-- ghost: every pass through the body of `spin_once`'s `if`, in order -/
  attempts : List Attempt
deriving Inhabited

/-- What can happen to a client: the host's calls and the transport's callbacks. -/
inductive ClientEvent where
  /-- `spin_once`; the steady clock reads `now` at the check and `later` when the attempt is
  recorded, and `created` says whether `get_connection` returns a connection or sets `ec` -/
  | spinOnce (now later : Nat) (created : Bool)
  /-- a host call into the endpoint the client is -/
  | host (event : Event)
  | runtimeAdvertisement (topic messageType id : String) (configuration : YamlNode)
  | opened (c : ConnectionHandle)
  | failed (c : ConnectionHandle)
  | closing (c : ConnectionHandle)
  | closed (c : ConnectionHandle)
  /-- a text frame arrives on `c` -/
  | message (c : ConnectionHandle) (payload : String)
deriving DecidableEq, Repr

def ClientEvent.isSpin : ClientEvent → Bool
  | .spinOnce .. => true
  | _ => false

/-- Whether an endpoint event is a host call, not a transport callback. -/
def Event.fromHost : Event → Bool
  | .frame .. | .opened _ | .closed _ => false
  | _ => true

namespace ClientWorld
variable (enc : Encoding)

/-- A client before its first `spin_once`: no connection, and `_last_connection_attempt`
at the clock's epoch. -/
def init (node : Node) (useSecurity : Bool) : ClientWorld :=
  ⟨node, { useSecurity }, false, 0, false, [], 0, [], []⟩

/-- The state of the current connection, if there is one. -/
def currentState (w : ClientWorld) : Option SessionState :=
  w.client.connection.bind fun c => w.sessions[c.id]?

/-- `attempt_reconnect`: the current connection is absent or closed, and more than 2 s
have passed since the last attempt. -/
def attemptReconnect (w : ClientWorld) (now : Nat) : Bool :=
  (w.client.connection.isNone || w.currentState == some .closed) &&
    decide (twoSeconds < now - w.lastConnectionAttempt)

/-- Whether `spin_once` enters its `if`: `!_has_spun_once || attempt_reconnect`. -/
def dials (w : ClientWorld) (now : Nat) : Bool :=
  !w.hasSpunOnce || w.attemptReconnect now

/-- `Client::spin_once`: a new connection is requested, and dialled when `get_connection`
gives one; the result says whether a connection object exists. -/
def spinOnce (w : ClientWorld) (now later : Nat) (created : Bool) : ClientWorld × Bool :=
  if w.dials now then
    let connection : Option ConnectionHandle := if created then some ⟨w.sessions.length⟩ else none
    let next := { w with
      hasSpunOnce := true
      client := w.client.setConnection connection
      sessions := if created then w.sessions ++ [.connecting] else w.sessions
      lastConnectionAttempt := later }
    (next, next.client.okay)
  else (w, w.client.okay)

/-- `spin_once` in the world: the clock advances to `later`, and the ghost record notes the
attempt. -/
def spin (w : ClientWorld) (now later : Nat) (created : Bool) : ClientWorld :=
  let next := (w.spinOnce now later created).1
  { next with
    clock := later
    attempts := if w.dials now then w.attempts ++ [⟨now, later, next.client.connection⟩]
      else w.attempts }

/-- The transport moves connection `c` to `state`. It knows no connection it did not
create, and never takes a closed connection out of the closed state. -/
def transition (w : ClientWorld) (c : ConnectionHandle) (state : SessionState) :
    Option ClientWorld :=
  match w.sessions[c.id]? with
  | none => none
  | some current =>
    if current = .closed ∧ state ≠ .closed then none
    else some { w with sessions := w.sessions.set c.id state }

/-- `_handle_opening`: a connection other than the current one is ignored; the current one
clears the failure flag and the endpoint replays its startup log on it. -/
def handleOpening (w : ClientWorld) (c : ConnectionHandle) : ClientWorld :=
  if w.client.connection = some c then
    { w with
      connectionFailed := false
      effects := w.effects ++ w.node.endpoint.notifyConnectionOpened c }
  else w

/-- `_handle_failed_connection`: the failure flag, which logs once per run of failures. -/
def handleFailedConnection (w : ClientWorld) : ClientWorld :=
  { w with connectionFailed := true }

/-- `_handle_close`: whichever connection closed, the endpoint forgets it. -/
def handleClose (w : ClientWorld) (c : ConnectionHandle) : ClientWorld :=
  { w with node := { w.node with endpoint := w.node.endpoint.notifyConnectionClosed c } }

/-- `_handle_tls_message` / `_handle_tcp_message`: a frame from a connection other than the
current one is dropped; otherwise the encoding interprets it for the endpoint. -/
def handleMessage (w : ClientWorld) (c : ConnectionHandle) (payload : String) :
    Option ClientWorld :=
  if w.client.connection = some c then
    match enc.interpretWebsocketMsg payload with
    | none => some w
    | some message => (w.node.step enc (.frame message c)).map fun (node, effects) =>
        { w with node := node, effects := w.effects ++ effects }
  else some w

/-- One event; `none` when the event cannot happen (a steady clock that goes back, a
transport callback the transport cannot make) or the endpoint has no defined behaviour. -/
def step (w : ClientWorld) : ClientEvent → Option ClientWorld
  | .spinOnce now later created =>
    if w.clock ≤ now ∧ now ≤ later then some (w.spin now later created) else none
  | .host event =>
    if event.fromHost then
      (w.node.step enc event).map fun (node, effects) =>
        { w with node := node, effects := w.effects ++ effects }
    else none
  | .runtimeAdvertisement topic messageType id configuration =>
    some { w with
      effects := w.effects ++ w.client.runtimeAdvertisement enc topic messageType id configuration }
  | .opened c => (w.transition c .open).map (·.handleOpening c)
  | .failed c => (w.transition c .closed).map handleFailedConnection
  | .closing c => w.transition c .closing
  | .closed c => (w.transition c .closed).map (·.handleClose c)
  | .message c payload =>
    if w.sessions[c.id]? = some .open then w.handleMessage enc c payload else none

def run (w : ClientWorld) (events : List ClientEvent) : Option ClientWorld :=
  execute (step enc) w events

/-- What the transport does to its sessions in one event: the state of one created
connection changes, and a closed one stays closed. -/
def Moves (before after : List SessionState) : Prop :=
  after = before ∨ ∃ k current state, before[k]? = some current ∧
    (current = .closed → state = .closed) ∧ after = before.set k state

variable {enc} {w w' : ClientWorld} {event : ClientEvent}

theorem transition_eq_some {c : ConnectionHandle} {state : SessionState}
    (moved : w.transition c state = some w') :
    ∃ current, w.sessions[c.id]? = some current ∧ (current = .closed → state = .closed) ∧
      w' = { w with sessions := w.sessions.set c.id state } := by
  unfold transition at moved
  split at moved
  · cases moved
  · rename_i current found
    by_cases stuck : current = .closed ∧ state ≠ .closed
    · rw [if_pos stuck] at moved; cases moved
    · rw [if_neg stuck] at moved
      exact ⟨current, found, fun closed => not_not.mp fun other => stuck ⟨closed, other⟩,
        (Option.some.inj moved).symm⟩

/-- A `spin_once` is a step exactly when the clock readings do not go back. -/
theorem step_spinOnce {now later : Nat} {created : Bool} :
    w.step enc (.spinOnce now later created) = some w' ↔
      (w.clock ≤ now ∧ now ≤ later) ∧ w' = w.spin now later created := by
  simp [step, eq_comm]

/-- `spin_once` adds a connection exactly when it dials and `get_connection` creates one. -/
theorem sessions_spin {now later : Nat} {created : Bool} :
    (w.spin now later created).sessions =
      if w.dials now && created then w.sessions ++ [.connecting] else w.sessions := by
  unfold spin spinOnce
  cases w.dials now <;> rfl

/-- Every event but `spin_once` keeps the client's connection fields, its loop fields and
the ghost record of attempts, and moves the sessions as the transport may. -/
theorem step_frame (stepped : w.step enc event = some w') (notSpin : event.isSpin = false) :
    w'.client = w.client ∧ w'.hasSpunOnce = w.hasSpunOnce ∧
      w'.lastConnectionAttempt = w.lastConnectionAttempt ∧ w'.attempts = w.attempts ∧
      Moves w.sessions w'.sessions := by
  have moves {c : ConnectionHandle} {state : SessionState} {next : ClientWorld}
      (moved : w.transition c state = some next) :
      next.client = w.client ∧ next.hasSpunOnce = w.hasSpunOnce ∧
        next.lastConnectionAttempt = w.lastConnectionAttempt ∧ next.attempts = w.attempts ∧
        Moves w.sessions next.sessions := by
    obtain ⟨current, found, stays, rfl⟩ := transition_eq_some moved
    exact ⟨rfl, rfl, rfl, rfl, .inr ⟨_, _, _, found, stays, rfl⟩⟩
  cases event with
  | spinOnce => cases notSpin
  | host e =>
    simp only [step] at stepped
    split_ifs at stepped
    obtain ⟨_, -, rfl⟩ := Option.map_eq_some'.mp stepped
    exact ⟨rfl, rfl, rfl, rfl, .inl rfl⟩
  | runtimeAdvertisement => cases stepped; exact ⟨rfl, rfl, rfl, rfl, .inl rfl⟩
  | opened c =>
    obtain ⟨next, moved, rfl⟩ := Option.map_eq_some'.mp stepped
    unfold handleOpening; split <;> exact (moves moved :)
  | failed c =>
    obtain ⟨next, moved, rfl⟩ := Option.map_eq_some'.mp stepped
    exact (moves moved :)
  | closing c => exact moves stepped
  | closed c =>
    obtain ⟨next, moved, rfl⟩ := Option.map_eq_some'.mp stepped
    exact (moves moved :)
  | message c payload =>
    simp only [step] at stepped
    split_ifs at stepped
    unfold handleMessage at stepped
    split_ifs at stepped
    · split at stepped
      · cases stepped; exact ⟨rfl, rfl, rfl, rfl, .inl rfl⟩
      · obtain ⟨_, -, rfl⟩ := Option.map_eq_some'.mp stepped
        exact ⟨rfl, rfl, rfl, rfl, .inl rfl⟩
    · cases stepped; exact ⟨rfl, rfl, rfl, rfl, .inl rfl⟩

/-- What every run of a client keeps true: the flag says whether `spin_once` was called,
nothing exists before it was, `_last_connection_attempt` is the time of the last attempt,
a connection that is not closed is the current one, and attempts are more than 2 s apart. -/
structure Invariant (events : List ClientEvent) (w : ClientWorld) : Prop where
  spun : w.hasSpunOnce = events.any ClientEvent.isSpin
  fresh : w.hasSpunOnce = false → w.sessions = [] ∧ w.attempts = []
  recorded : w.hasSpunOnce = true →
    ∃ last, w.attempts.getLast? = some last ∧ last.recordedAt = w.lastConnectionAttempt
  single : ∀ k s, w.sessions[k]? = some s → s ≠ .closed → w.client.connection = some ⟨k⟩
  spaced : w.attempts.Chain' fun earlier next => earlier.recordedAt + twoSeconds < next.checkedAt

variable {events : List ClientEvent}

/-- When `spin_once` dials, every connection the client created is closed. -/
theorem Invariant.closed_of_dials {now : Nat} (inv : Invariant events w)
    (dialing : w.dials now = true) {k : Nat} {s : SessionState} (found : w.sessions[k]? = some s) :
    s = .closed := by
  by_contra live
  have current := inv.single k s found live
  cases spun : w.hasSpunOnce
  · rw [(inv.fresh spun).1] at found
    cases found
  · simp only [dials, attemptReconnect, currentState, spun, current, found, Bool.not_true,
      Bool.false_or, Option.isNone_some, Option.some_bind, beq_iff_eq, Option.some.injEq,
      Bool.and_eq_true, decide_eq_true_eq] at dialing
    exact live dialing.1

theorem invariant_spin {now later : Nat} {created : Bool} (inv : Invariant events w)
    (stepped : w.step enc (.spinOnce now later created) = some w') :
    Invariant (events ++ [.spinOnce now later created]) w' := by
  obtain ⟨-, rfl⟩ := step_spinOnce.mp stepped
  by_cases dialing : w.dials now
  · simp only [spin, spinOnce, dialing, if_true]
    refine ⟨by simp [ClientEvent.isSpin], fun never => (nomatch never), fun _ => by simp,
      fun k s found live => ?_, ?_⟩
    · cases created
      · exact absurd (inv.closed_of_dials dialing found) live
      · rcases getElem?_concat_eq_some found with old | ⟨rfl, rfl⟩
        · exact absurd (inv.closed_of_dials dialing old) live
        · simp
    · refine inv.spaced.append (List.chain'_singleton _) fun last isLast next isNext => ?_
      simp only [List.head?_cons, Option.mem_def, Option.some.injEq] at isNext
      subst isNext
      cases spun : w.hasSpunOnce
      · rw [(inv.fresh spun).2] at isLast
        cases isLast
      · obtain ⟨last', found, at'⟩ := inv.recorded spun
        rw [Option.mem_def, found, Option.some.injEq] at isLast
        subst isLast
        simp only [dials, attemptReconnect, spun, Bool.not_true, Bool.false_or, Bool.and_eq_true,
          decide_eq_true_eq] at dialing
        show last'.recordedAt + twoSeconds < now
        have := dialing.2
        omega
  · have spun : w.hasSpunOnce = true := by
      by_contra never
      simp [dials, never] at dialing
    simp only [spin, spinOnce, dialing, if_false]
    exact { inv with spun := by simp [← inv.spun, spun] }

theorem invariant_frame (inv : Invariant events w) (stepped : w.step enc event = some w')
    (notSpin : event.isSpin = false) : Invariant (events ++ [event]) w' := by
  obtain ⟨client, spun, last, attempts, moved⟩ := step_frame stepped notSpin
  have sessions : w.hasSpunOnce = false → w'.sessions = [] := fun never => by
    rcases moved with same | ⟨k, current, state, found, -, -⟩
    · rw [same, (inv.fresh never).1]
    · rw [(inv.fresh never).1] at found
      cases found
  refine ⟨by simp [spun, inv.spun, notSpin], fun never => ⟨sessions (spun ▸ never),
    attempts ▸ (inv.fresh (spun ▸ never)).2⟩, fun spun' => ?_, fun k s found live => ?_,
    attempts ▸ inv.spaced⟩
  · rw [attempts, last]; exact inv.recorded (spun ▸ spun')
  · rw [client]
    rcases moved with same | ⟨j, current, state, old, stays, moved⟩
    · exact inv.single k s (same ▸ found) live
    · rw [moved] at found
      by_cases here : j = k
      · subst here
        rw [List.getElem?_set_self (List.getElem?_eq_some_iff.mp old).1, Option.some.injEq] at found
        subst found
        exact inv.single j current old fun closed => live (stays closed)
      · rw [List.getElem?_set_ne here] at found
        exact inv.single k s found live

theorem invariant_step (inv : Invariant events w) (stepped : w.step enc event = some w') :
    Invariant (events ++ [event]) w' := by
  cases spins : event.isSpin
  · exact invariant_frame inv stepped spins
  · cases event with
    | spinOnce now later created => exact invariant_spin inv stepped
    | _ => cases spins

theorem invariant_run {node : Node} {useSecurity : Bool}
    (ran : (init node useSecurity).run enc events = some w) : Invariant events w :=
  execute_induction (P := Invariant)
    ⟨rfl, fun _ => ⟨rfl, rfl⟩, fun never => absurd never Bool.false_ne_true,
      fun _ _ found => (by simp [init] at found),
      List.chain'_nil⟩
    (fun _ _ _ _ _ inv stepped => invariant_step inv stepped) ran

/-- Over every run of a client: `spin_once` creates a connection only on its first call, or
when the current connection is absent or closed and more than 2 s have passed since the
previous attempt; at most one connection the client created is not closed; and consecutive
attempts are more than 2 s apart. -/
theorem reconnects_one_at_a_time {node : Node} {useSecurity : Bool}
    (ran : (init node useSecurity).run enc events = some w) :
    (∀ now later created w', w.step enc (.spinOnce now later created) = some w' →
        w.sessions.length < w'.sessions.length →
        (∀ event ∈ events, ¬event.isSpin) ∨
          (w.client.connection = none ∨ w.currentState = some .closed) ∧
            ∃ last, w.attempts.getLast? = some last ∧ last.recordedAt + twoSeconds < now) ∧
      w.sessions.countP (· ≠ .closed) ≤ 1 ∧
      w.attempts.Chain' fun earlier next => earlier.recordedAt + twoSeconds < next.checkedAt := by
  have inv := invariant_run ran
  refine ⟨fun now later created w' stepped longer => ?_,
    countP_le_one_of_index (i := (w.client.connection.map (·.id)).getD 0)
      fun k s found live => by simp [inv.single k s found (by simpa using live)],
    inv.spaced⟩
  rw [(step_spinOnce.mp stepped).2, sessions_spin] at longer
  have dialing : w.dials now = true := by
    by_contra idle
    simp [idle] at longer
  cases spun : w.hasSpunOnce
  · exact .inl (List.any_eq_false.mp (inv.spun ▸ spun))
  · simp only [dials, attemptReconnect, spun, Bool.not_true, Bool.false_or, Bool.and_eq_true,
      Bool.or_eq_true, Option.isNone_iff_eq_none, beq_iff_eq, decide_eq_true_eq] at dialing
    obtain ⟨last, found, recorded⟩ := inv.recorded spun
    exact .inr ⟨dialing.1, last, found, by omega⟩

theorem reconnects_one_at_a_time_after_drop :
    ∃ w, (init Node.init false).run .refusing
        [.spinOnce 0 0 true, .opened ⟨0⟩, .closed ⟨0⟩, .spinOnce 3000000000 3000000000 true] =
          some w ∧
      w.sessions = [.closed, .connecting] ∧ w.sessions.countP (· ≠ .closed) ≤ 1 ∧
      w.attempts.Chain' fun earlier next => earlier.recordedAt + twoSeconds < next.checkedAt :=
  ⟨_, rfl, by decide, (reconnects_one_at_a_time (rfl : (init Node.init false).run .refusing
    [.spinOnce 0 0 true, .opened ⟨0⟩, .closed ⟨0⟩, .spinOnce 3000000000 3000000000 true] =
      some _)).2⟩

end ClientWorld
end WebSocketSH
