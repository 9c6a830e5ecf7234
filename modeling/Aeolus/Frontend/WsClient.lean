/-
# Aeolus.Frontend.WsClient — the one WebSocket of the browser

`frontend/src/lib/ws-client.ts`.  The module has one variable for the current socket and one
for the timer, and the handlers of every socket it ever made read both.  A call of
`connectWebSocket` returns early only when the current socket is open, and the `close` event of
a socket that was closed on purpose arms the timer like any other.

So there is one live socket, which gets its own `auth`, and none after a disconnect, in exactly
the runs in which nothing connects while the current socket is still connecting and the timer
expires only while a connection is wanted (`one_live_socket_iff`).

Messages are left out; they do nothing to the sockets.
-/
import Aeolus.Theory.Run

namespace Aeolus.Frontend

open Aeolus.Theory

/-- `WebSocket.readyState` -/
inductive ReadyState where
  | connecting
  | open
  | closing
  | closed
  deriving DecidableEq, Repr

/-- A socket, and the access token that its `onopen` has closed over. -/
structure Socket where
  accessToken : String
  readyState : ReadyState := .connecting
  /-- has its `close` event come? -/
  gone : Bool := false
  deriving DecidableEq, Repr

/-- Connecting, or open. -/
def Socket.live (socket : Socket) : Prop :=
  socket.readyState = .connecting ∨ socket.readyState = .open

instance (socket : Socket) : Decidable socket.live := inferInstanceAs (Decidable (_ ∨ _))

/-- `close()` of a socket -/
def Socket.close (socket : Socket) : Socket :=
  if socket.live then { socket with readyState := .closing } else socket

/-- What came of the `auth` message of an `open` event. -/
structure Auth where
  opened : Nat
  sentOn : Option Nat
  accessToken : String
  deriving DecidableEq, Repr

/-- `sockets` are all that were ever made, a socket is named by its place there. -/
structure WsClient where
  sockets : List Socket := []
  ws : Option Nat := none
  reconnectTimer : Bool := false
  wsConnected : Bool := false
  auths : List Auth := []
  /-- records no code reads: has `connectWebSocket` been called since the last disconnect, and
  was a socket made when it had not? -/
  wanted : Bool := false
  unwanted : Bool := false
  deriving DecidableEq, Repr

namespace WsClient

variable (s : WsClient)

/-- `ws?.readyState` -/
def readyState : Option ReadyState := s.ws.bind fun i => s.sockets[i]?.map (·.readyState)

def updateSocket (i : Nat) (change : Socket → Socket) : WsClient :=
  { s with sockets := s.sockets.modify i change }

/-- `accessToken` is what the auth store holds. -/
def connectWebSocket (accessToken : Option String) : WsClient :=
  if s.readyState = some .open then s
  else
    match accessToken with
    | none => s
    | some accessToken =>
        if accessToken = "" then s
        else
          { s with
            sockets := s.sockets ++ [{ accessToken }]
            ws := some s.sockets.length
            unwanted := s.unwanted || !s.wanted }

/-- `ws!.send(…)`: it throws without a socket and while that is connecting, and the message is
discarded when that is not open any more. -/
def send : Except Unit (Option Nat) :=
  match s.readyState with
  | none => .error ()
  | some .connecting => .error ()
  | some .open => .ok s.ws
  | some .closing => .ok none
  | some .closed => .ok none

/-- `i` is the socket whose handler runs. -/
def onopen (i : Nat) (accessToken : String) : WsClient :=
  match s.send with
  | .error _ => { s with auths := s.auths ++ [⟨i, none, accessToken⟩] }
  | .ok sentOn => { s with auths := s.auths ++ [⟨i, sentOn, accessToken⟩], wsConnected := true }

def scheduleReconnect : WsClient :=
  if s.reconnectTimer then s else { s with reconnectTimer := true }

def onclose : WsClient := scheduleReconnect { s with wsConnected := false }

/-- `ws?.close()` -/
def closeCurrent : WsClient :=
  match s.ws with
  | none => s
  | some i => s.updateSocket i Socket.close

def onerror : WsClient := s.closeCurrent

def disconnectWebSocket : WsClient :=
  { closeCurrent { s with reconnectTimer := false } with ws := none }

/-- The callback of the timer. -/
def onTimer (accessToken : Option String) : WsClient :=
  connectWebSocket { s with reconnectTimer := false } accessToken

/-! ## The system -/

/-- There is an access token throughout. -/
abbrev AccessToken := { token : String // token ≠ "" }

inductive Event where
  | connect (accessToken : AccessToken)
  | disconnect
  /-- events of a socket; before the `error` event browsers make it `closed` -/
  | open (socket : Nat)
  | error (socket : Nat) (closed : Bool)
  | close (socket : Nat)
  | expires (accessToken : AccessToken)

/-- A socket opens while it is connecting, and its `close` event is its last.  An event that
cannot come changes nothing. -/
def step (s : WsClient) : Event → WsClient
  | .connect accessToken => connectWebSocket { s with wanted := true } (some accessToken)
  | .disconnect => { s.disconnectWebSocket with wanted := false }
  | .open i =>
      match s.sockets[i]? with
      | some socket =>
          if socket.readyState = .connecting then
            onopen (s.updateSocket i fun socket => { socket with readyState := .open }) i
              socket.accessToken
          else s
      | none => s
  | .error i closed =>
      match s.sockets[i]? with
      | some socket =>
          if socket.gone then s
          else if closed then
            onerror (s.updateSocket i fun socket => { socket with readyState := .closed })
          else s.onerror
      | none => s
  | .close i =>
      match s.sockets[i]? with
      | some socket =>
          if socket.gone then s
          else
            onclose (s.updateSocket i fun socket =>
              { socket with readyState := .closed, gone := true })
      | none => s
  | .expires accessToken => if s.reconnectTimer then s.onTimer (some accessToken) else s

/-- At most one socket is connecting or open. -/
def OneLive : Prop :=
  ∀ (i j : Nat) (a b : Socket), s.sockets[i]? = some a → s.sockets[j]? = some b →
    a.live → b.live → i = j

/-- Every socket that opened got its own `auth` message. -/
def OwnAuth : Prop := ∀ auth ∈ s.auths, auth.sentOn = some auth.opened

structure Sound : Prop where
  oneLive : s.OneLive
  ownAuth : s.OwnAuth
  wanted : s.unwanted = false

/-- Nothing connects while the current socket is connecting, and the timer expires only while
a connection is wanted. -/
def Careful (s : WsClient) : Event → Prop
  | .connect _ => s.readyState ≠ some .connecting
  | .expires _ =>
      s.reconnectTimer = true → s.wanted = true ∧ s.readyState ≠ some .connecting
  | _ => True

/-- Only the current socket is live, and there is none when none is wanted. -/
structure Inv : Prop where
  current : ∀ i (socket : Socket), s.sockets[i]? = some socket → socket.live → s.ws = some i
  made : ∀ i, s.ws = some i → i < s.sockets.length
  idle : s.wanted = false → s.ws = none
  ownAuth : s.OwnAuth
  wanted : s.unwanted = false

/-! ## What a step keeps -/

section Step

variable {s : WsClient}

theorem readyState_eq {i : Nat} {socket : Socket} (current : s.ws = some i)
    (there : s.sockets[i]? = some socket) : s.readyState = some socket.readyState := by
  rw [readyState, current, Option.bind_some, there, Option.map_some]

theorem Inv.oneLive (inv : s.Inv) : s.OneLive := by
  intro i j a b first second live live'
  have here := inv.current i a first live
  rw [inv.current j b second live'] at here
  exact (Option.some.inj here).symm

theorem Inv.sound (inv : s.Inv) : s.Sound := ⟨inv.oneLive, inv.ownAuth, inv.wanted⟩

theorem inv_start : ({} : WsClient).Inv where
  current _ _ there := by simp at there
  made _ current := by cases current
  idle _ := rfl
  ownAuth _ member := absurd member List.not_mem_nil
  wanted := rfl

/-- A change that makes no socket live. -/
theorem Inv.updateSocket (inv : s.Inv) {i : Nat} {change : Socket → Socket}
    (kept : ∀ socket, s.sockets[i]? = some socket → (change socket).live → socket.live) :
    (s.updateSocket i change).Inv where
  current j socket there live := by
    rw [WsClient.updateSocket, List.getElem?_modify] at there
    obtain ⟨old, known, changed⟩ := Option.map_eq_some_iff.mp there
    refine inv.current j old known ?_
    split at changed
    · rename_i here
      subst here changed
      exact kept old known live
    · subst changed
      exact live
  made j current := by
    rw [WsClient.updateSocket, List.length_modify]
    exact inv.made j current
  idle := inv.idle
  ownAuth := inv.ownAuth
  wanted := inv.wanted

theorem close_live {socket : Socket} (live : socket.close.live) : socket.live := by
  unfold Socket.close at live
  split at live
  · assumption
  · exact live

theorem close_not_live (socket : Socket) : ¬socket.close.live := by
  unfold Socket.close
  split
  · simp [Socket.live]
  · assumption

theorem Inv.closeCurrent (inv : s.Inv) : s.closeCurrent.Inv := by
  unfold WsClient.closeCurrent
  split
  · exact inv
  · exact inv.updateSocket fun _ _ => close_live

/-- What neither `ws` nor a socket has a part in. -/
theorem Inv.aside (inv : s.Inv) (reconnectTimer wsConnected : Bool) :
    ({ s with reconnectTimer, wsConnected } : WsClient).Inv :=
  ⟨inv.current, inv.made, inv.idle, inv.ownAuth, inv.wanted⟩

theorem Inv.onclose (inv : s.Inv) : s.onclose.Inv := by
  unfold WsClient.onclose scheduleReconnect
  split
  · exact inv.aside s.reconnectTimer false
  · exact inv.aside true false

/-- The current socket is the one that is open. -/
theorem Inv.onopen (inv : s.Inv) {i : Nat} {socket : Socket} (there : s.sockets[i]? = some socket)
    (opened : socket.readyState = .open) (accessToken : String) : (s.onopen i accessToken).Inv := by
  have current := inv.current i socket there (.inr opened)
  have sent : s.send = .ok (some i) := by
    rw [send, readyState_eq current there, opened, current]
  have own : ∀ auth ∈ s.auths ++ [⟨i, some i, accessToken⟩], auth.sentOn = some auth.opened := by
    intro auth member
    rcases List.mem_append.mp member with old | new
    · exact inv.ownAuth auth old
    · rw [List.mem_singleton.mp new]
  rw [WsClient.onopen, sent]
  exact ⟨inv.current, inv.made, inv.idle, own, inv.wanted⟩

theorem Inv.disconnectWebSocket (inv : s.Inv) :
    ({ s.disconnectWebSocket with wanted := false } : WsClient).Inv := by
  have closed : (WsClient.closeCurrent { s with reconnectTimer := false }).Inv :=
    (inv.aside false s.wsConnected).closeCurrent
  refine ⟨fun i socket there live => ?_, fun _ none => (by cases none), fun _ => rfl,
    closed.ownAuth, closed.wanted⟩
  -- the live one was the current, and has been closed
  have current := closed.current i socket there live
  exfalso
  unfold WsClient.closeCurrent at current
  change (WsClient.closeCurrent { s with reconnectTimer := false }).sockets[i]? =
    some socket at there
  unfold WsClient.closeCurrent at there
  cases known : s.ws with
  | none => simp [known] at current
  | some j =>
      simp only [known] at there current
      obtain rfl : j = i := Option.some.inj current
      simp only [WsClient.updateSocket, List.getElem?_modify, if_pos] at there
      obtain ⟨old, -, rfl⟩ := Option.map_eq_some_iff.mp there
      exact close_not_live old live

theorem not_live_of_readyState (inv : s.Inv) (unopened : s.readyState ≠ some .open)
    (settled : s.readyState ≠ some .connecting) {i : Nat} {socket : Socket}
    (there : s.sockets[i]? = some socket) : ¬socket.live := by
  intro live
  have state := readyState_eq (inv.current i socket there live) there
  rcases live with connecting | opened
  · exact settled (connecting ▸ state)
  · exact unopened (opened ▸ state)

theorem Inv.connectWebSocket (inv : s.Inv) (wanted : s.wanted = true)
    (settled : s.readyState ≠ some .connecting) (accessToken : Option String) :
    (s.connectWebSocket accessToken).Inv := by
  unfold WsClient.connectWebSocket
  split
  · exact inv
  rename_i unopened
  split
  · exact inv
  split
  · exact inv
  refine ⟨fun i socket there live => ?_, fun i current => ?_, fun idle => ?_, inv.ownAuth, ?_⟩
  · rcases Nat.lt_trichotomy i s.sockets.length with old | rfl | beyond
    · rw [List.getElem?_append_left old] at there
      exact absurd live (not_live_of_readyState inv unopened settled there)
    · rfl
    · rw [List.getElem?_eq_none (by simp; omega)] at there
      cases there
  · obtain rfl := Option.some.inj current
    simp
  · exact absurd wanted (by simp [show s.wanted = false from idle])
  · simp [inv.wanted, wanted]

end Step

/-- A careful step. -/
theorem Inv.step {s : WsClient} {event : Event} (inv : s.Inv) (careful : s.Careful event) :
    (s.step event).Inv := by
  cases event with
  | connect accessToken =>
      have wanting : ({ s with wanted := true } : WsClient).Inv :=
        ⟨inv.current, inv.made, fun idle => (by cases idle), inv.ownAuth, inv.wanted⟩
      exact wanting.connectWebSocket rfl careful (some accessToken.1)
  | disconnect => exact inv.disconnectWebSocket
  | «open» i =>
      simp only [WsClient.step]
      cases there : s.sockets[i]? with
      | none => exact inv
      | some socket =>
          dsimp only
          split
          · rename_i connecting
            have opening : (s.updateSocket i fun socket =>
                { socket with readyState := .open }).Inv := by
              refine inv.updateSocket fun socket' there' _ => ?_
              obtain rfl : socket = socket' := Option.some.inj (there.symm.trans there')
              exact .inl connecting
            have opened : (s.updateSocket i fun socket =>
                { socket with readyState := .open }).sockets[i]? =
                  some { socket with readyState := .open } := by
              simp [WsClient.updateSocket, there]
            exact opening.onopen opened rfl _
          · exact inv
  | error i closed =>
      simp only [WsClient.step]
      split
      · split
        · exact inv
        · split
          · refine (inv.updateSocket fun socket _ live => ?_).closeCurrent
            simp [Socket.live] at live
          · exact inv.closeCurrent
      · exact inv
  | close i =>
      simp only [WsClient.step]
      split
      · split
        · exact inv
        · refine (inv.updateSocket fun socket _ live => ?_).onclose
          simp [Socket.live] at live
      · exact inv
  | expires accessToken =>
      simp only [WsClient.step]
      split
      · rename_i pending
        obtain ⟨wanted, settled⟩ := careful pending
        exact (inv.aside false s.wsConnected).connectWebSocket wanted settled _
      · exact inv

/-- A socket is made beside one that is connecting. -/
theorem connectWebSocket_connecting {s : WsClient} (connecting : s.readyState = some .connecting)
    (accessToken : AccessToken) : ¬(s.connectWebSocket (some accessToken)).OneLive := by
  intro oneLive
  unfold connectWebSocket at oneLive
  rw [if_neg (by simp [connecting])] at oneLive
  dsimp only at oneLive
  rw [if_neg accessToken.2] at oneLive
  obtain ⟨i, current, socket, there, state⟩ : ∃ i, s.ws = some i ∧ ∃ socket,
      s.sockets[i]? = some socket ∧ socket.readyState = .connecting := by
    simp only [readyState, Option.bind_eq_some_iff, Option.map_eq_some_iff] at connecting
    exact connecting
  have before : i < s.sockets.length := (List.getElem?_eq_some_iff.mp there).1
  have same := oneLive i s.sockets.length socket { accessToken := accessToken }
    (by rw [List.getElem?_append_left before, there]) (by simp) (.inl state) (.inl rfl)
  omega

/-- A step that is not. -/
theorem Inv.careless {s : WsClient} {event : Event} (inv : s.Inv) (careless : ¬s.Careful event) :
    ¬(s.step event).Sound := by
  intro sound
  cases event with
  | connect accessToken =>
      have connecting : s.readyState = some .connecting := not_not.mp careless
      have still : ({ s with wanted := true } : WsClient).readyState = some .connecting :=
        connecting
      exact connectWebSocket_connecting still accessToken sound.oneLive
  | expires accessToken =>
      simp only [Careful, not_forall, not_and_or, not_not] at careless
      obtain ⟨pending, uncalled | connecting⟩ := careless
      · -- there is no current socket, and one is made
        have idle : s.wanted = false := Bool.not_eq_true _ ▸ uncalled
        have opened := sound.wanted
        have none : ({ s with reconnectTimer := false } : WsClient).readyState = none := by
          simp [readyState, inv.idle idle]
        simp only [WsClient.step, if_pos pending, onTimer, WsClient.connectWebSocket] at opened
        rw [if_neg (by simp [none]), if_neg accessToken.2] at opened
        simp [idle] at opened
      · have oneLive := sound.oneLive
        simp only [WsClient.step, if_pos pending, onTimer] at oneLive
        have still : ({ s with reconnectTimer := false } : WsClient).readyState =
            some .connecting := connecting
        exact connectWebSocket_connecting still accessToken oneLive
  | disconnect => exact careless trivial
  | «open» => exact careless trivial
  | error => exact careless trivial
  | close => exact careless trivial

theorem one_live_socket_iff (events : List Event) :
    (∀ p, p <+: events → (run step {} p).Sound) ↔ Along step Careful {} events := by
  have exactly := @never_iff_along WsClient Event step Inv (fun s => ¬s.Sound) Careful
    (fun _ _ => Inv.step) (fun _ _ => Inv.careless) (fun _ inv unsound => unsound inv.sound)
    {} inv_start events
  simpa only [not_not] using exactly

def someToken : AccessToken := ⟨"t", by decide⟩

/-- A second call before the first socket has opened; and a disconnect whose `close` event
connects again. -/
theorem second_socket :
    ¬(run step {} [.connect someToken, .connect someToken]).Sound ∧
      ¬(run step {} [.connect someToken, .open 0, .disconnect, .close 0,
        .expires someToken]).Sound := by
  constructor
  · intro sound
    exact absurd (sound.oneLive 0 1 _ _ rfl rfl (.inl rfl) (.inl rfl)) (by decide)
  · intro sound
    exact absurd sound.wanted (by decide)

end WsClient

end Aeolus.Frontend
