/-
# Aeolus.Websocket.SocketLifecycle — a socket from its connection to its close

`WsServer` of `src/websocket/ws-server.ts` over any number of sockets: the first message that
authenticates, the two timers, the listeners, and what is sent meanwhile.
`authenticateAndSetup` runs in one go, but the clock does not stand still: it is cut at each
point where time may pass, and until it is through nothing else happens.

The socket is closed when its token expires, by a timer that is set when the snapshot has been
sent.  When the token has expired by then no timer is set and the socket is left open; when it
will not expire within 2147483647 ms, which is all `setTimeout` can wait, the timer runs at once.
While neither happens the session is within its token (`sessions_within_tokens`).
-/
import Aeolus.Theory.History
import Aeolus.Websocket.WsServer

namespace Aeolus.Websocket

open Aeolus.Auth Aeolus.Core Aeolus.Theory

/-! ## Sockets -/

inductive ReadyState where
  | opened
  | closing
  | closed
  deriving DecidableEq

structure Socket where
  readyState : ReadyState := .opened
  /-- when `authTimer` is due -/
  authTimer : Option ℤ := none
  /-- `onAuthMessage` listens -/
  listens : Bool := true
  /-- when `expiryTimer` is due -/
  expiryTimer : Option ℤ := none
  /-- the listeners of `authenticateAndSetup` -/
  attached : Bool := false
  /-- it has been stored as a client -/
  authenticated : Bool := false
  /-- it has emitted `error` -/
  errored : Bool := false
  deriving DecidableEq

/-- Where `authenticateAndSetup` is. -/
inductive SetupStage where
  | verifying (token : String)
  | readingTabs (payload : AccessTokenPayload) (expiresAt : ℤ)
  | sendingSnapshot (expiresAt : ℤ)
  | arming (expiresAt : ℤ)

structure Setup where
  ws : Nat
  stage : SetupStage

/-- What is seen of the server, and that a token was found valid. -/
inductive SocketFact where
  | verified (ws : Nat) (expiresAt : ℤ)
  | connect (ws : Nat) (userId : String) (clientCount : Nat)
  | disconnect (ws : Nat) (clientCount : Nat)
  | sent (ws : Nat) (message : Json) (at' : ℤ)
  | closeCalled (ws : Nat) (code : Nat) (at' : ℤ)
  | broadcast (messageType : String) (clientCount : Nat)

/-- The server, the clock, and the sockets by number. -/
structure SocketServer where
  now : ℤ
  sockets : List Socket := []
  clients : OrderedMap Nat AuthenticatedClient := .empty
  setup : Option Setup := none
  /-- an exception that nobody catches has ended the process -/
  crashed : Bool := false
  log : List SocketFact := []

inductive SocketEvent where
  | connection
  | message (ws : Nat) (text : String)
  /-- the steps of `authenticateAndSetup`, with what they read; `none` when that throws -/
  | verify
  | readTabs (accessibleTabIds : Option (List String))
  | sendSnapshot (snapshot : Option Json)
  | arm
  | authTimeout (ws : Nat)
  | expire (ws : Nat)
  | close (ws : Nat)
  | error (ws : Nat)
  | broadcast (message : Json) (envelope : BroadcastEnvelope)
  | advance (ms : Nat)

def AUTH_TIMEOUT_MS : ℤ := 5000

/-- The delay `setTimeout` waits: what is longer than it can wait becomes 1. -/
def timeoutDelay (ms : ℤ) : ℤ := if 2147483647 < ms then 1 else ms

namespace SocketServer

-- `parse` is `JSON.parse`, and `verify` is `verifyAccessTokenWithExpiry` at a time
variable (parse : String → Option Json)
  (verify : String → ℤ → Option (AccessTokenPayload × ℤ))

def put (s : SocketServer) (ws : Nat) (socket : Socket) : SocketServer :=
  { s with sockets := s.sockets.set ws socket }

def observed (s : SocketServer) (facts : List SocketFact) : SocketServer :=
  { s with log := s.log ++ facts }

/-- `ws.close(code)`: nothing happens to a socket that is closing. -/
def closeSocket (s : SocketServer) (ws : Nat) (socket : Socket) (code : Nat) : SocketServer :=
  if socket.readyState = .opened then
    (s.put ws { socket with readyState := .closing }).observed [.closeCalled ws code s.now]
  else s.put ws socket

def connection (s : SocketServer) : SocketServer :=
  { s with sockets := s.sockets ++ [{ authTimer := some (s.now + AUTH_TIMEOUT_MS) }] }

def onAuthMessage (s : SocketServer) (ws : Nat) (socket : Socket) (text : String) :
    SocketServer :=
  let heard := { socket with authTimer := none }
  match parse text with
  | none => s.closeSocket ws heard 4001
  -- `msg.type` of `null`
  | some .null => { s with crashed := true }
  | some msg =>
      match (msg.property "type").bind Json.asString, (msg.property "token").bind Json.asString with
      | some type, some token =>
          if type = "auth" then
            { s.put ws { heard with listens := false } with setup := some ⟨ws, .verifying token⟩ }
          else s.closeSocket ws heard 4001
      | _, _ => s.closeSocket ws heard 4001

/-! ## `authenticateAndSetup` -/

def verifyToken (s : SocketServer) (ws : Nat) (socket : Socket) (token : String) : SocketServer :=
  match verify token s.now with
  | none => { s with setup := none }.closeSocket ws socket 4001
  | some (payload, expiresAt) =>
      { s with setup := some ⟨ws, .readingTabs payload expiresAt⟩ }.observed
        [.verified ws expiresAt]

def storeClient (s : SocketServer) (ws : Nat) (socket : Socket) (payload : AccessTokenPayload)
    (expiresAt : ℤ) (accessibleTabIds : Option (List String)) : SocketServer :=
  match accessibleTabIds with
  | none => { s with setup := none }.closeSocket ws socket 4002
  | some accessibleTabIds =>
      let client : AuthenticatedClient :=
        { ws := { id := ws }, userId := payload.userId, role := payload.role,
          groupId := payload.groupId, accessibleTabIds }
      let clients := s.clients.set ws client
      { s.put ws { socket with authenticated := true } with
        clients
        setup := some ⟨ws, .sendingSnapshot expiresAt⟩ }.observed
          [.connect ws payload.userId clients.size]

/-- `send` -/
def sendTo (s : SocketServer) (ws : Nat) (socket : Socket) (message : Json) : SocketServer :=
  if socket.readyState = .opened then s.observed [.sent ws message s.now] else s

def sendSnapshot (s : SocketServer) (ws : Nat) (socket : Socket) (expiresAt : ℤ)
    (snapshot : Option Json) : SocketServer :=
  match snapshot with
  | none => { s with crashed := true }
  | some data =>
      { s with setup := some ⟨ws, .arming expiresAt⟩ }.sendTo ws socket
        (.obj [("type", .str "snapshot"), ("data", data)])

def arm (s : SocketServer) (ws : Nat) (socket : Socket) (expiresAt : ℤ) : SocketServer :=
  let ttl := expiresAt - s.now
  let expiryTimer := if 0 < ttl then some (s.now + timeoutDelay ttl) else none
  { s with setup := none }.put ws { socket with expiryTimer, attached := true }

/-- The step of `authenticateAndSetup` that the event is. -/
def setupStep (s : SocketServer) (ws : Nat) (socket : Socket) :
    SetupStage → SocketEvent → SocketServer
  | .verifying token, .verify => s.verifyToken verify ws socket token
  | .readingTabs payload expiresAt, .readTabs accessibleTabIds =>
      s.storeClient ws socket payload expiresAt accessibleTabIds
  | .sendingSnapshot expiresAt, .sendSnapshot snapshot =>
      s.sendSnapshot ws socket expiresAt snapshot
  | .arming expiresAt, .arm => s.arm ws socket expiresAt
  | _, _ => s

/-! ## Timers, and what a socket emits -/

def authTimeout (s : SocketServer) (ws : Nat) (socket : Socket) : SocketServer :=
  match socket.authTimer with
  | none => s
  | some due =>
      if due ≤ s.now then s.closeSocket ws { socket with authTimer := none } 4001 else s

def expire (s : SocketServer) (ws : Nat) (socket : Socket) : SocketServer :=
  match socket.expiryTimer with
  | none => s
  | some due =>
      if due ≤ s.now then s.closeSocket ws { socket with expiryTimer := none } 4003 else s

/-- `close`, once. -/
def closeEvent (s : SocketServer) (ws : Nat) (socket : Socket) : SocketServer :=
  let gone := { socket with readyState := .closed, authTimer := none, listens := false }
  if socket.readyState = .closed then s
  else if socket.attached then
    let clients := s.clients.delete ws
    { s.put ws { gone with expiryTimer := none } with clients }.observed
      [.disconnect ws clients.size]
  else s.put ws gone

/-- `error`, which only `close` may follow; without a listener it is thrown. -/
def errorEvent (s : SocketServer) (ws : Nat) (socket : Socket) : SocketServer :=
  if socket.readyState = .closed ∨ socket.errored then s
  else if socket.attached then
    { s.put ws { socket with expiryTimer := none, errored := true } with
      clients := s.clients.delete ws }
  else { s with crashed := true }

def messageEvent (s : SocketServer) (ws : Nat) (socket : Socket) (text : String) : SocketServer :=
  if socket.readyState = .closed ∨ socket.errored then s
  else if socket.listens then s.onAuthMessage parse ws socket text
  else s

/-- The sockets that a broadcast is sent on. -/
def receivers (s : SocketServer) (envelope : BroadcastEnvelope) : List Nat :=
  s.clients.entries.filterMap fun entry =>
    if (s.sockets[entry.1]?).any (·.readyState = .opened) ∧ canObserve entry.2 envelope then
      some entry.1
    else none

def broadcast (s : SocketServer) (message : Json) (envelope : BroadcastEnvelope) : SocketServer :=
  let type := (truthy ((message.property "type").bind Json.asString)).getD "unknown"
  s.observed ((s.receivers envelope).map (fun ws => SocketFact.sent ws message s.now) ++
    [.broadcast type s.clients.size])

def clientCount (s : SocketServer) : Nat := s.clients.size

/-- Something done with a socket. -/
def withSocket (s : SocketServer) (ws : Nat) (f : Socket → SocketServer) : SocketServer :=
  (s.sockets[ws]?).elim s f

/-- What happens while nothing else runs. -/
def idleStep (s : SocketServer) : SocketEvent → SocketServer
  | .connection => s.connection
  | .message ws text => s.withSocket ws fun socket => s.messageEvent parse ws socket text
  | .authTimeout ws => s.withSocket ws fun socket => s.authTimeout ws socket
  | .expire ws => s.withSocket ws fun socket => s.expire ws socket
  | .close ws => s.withSocket ws fun socket => s.closeEvent ws socket
  | .error ws => s.withSocket ws fun socket => s.errorEvent ws socket
  | .broadcast message envelope => s.broadcast message envelope
  | _ => s

def step (s : SocketServer) (e : SocketEvent) : SocketServer :=
  if s.crashed then s
  else
    match e, s.setup with
    | .advance ms, _ => { s with now := s.now + ms }
    | e, some setup =>
        s.withSocket setup.ws fun socket => s.setupStep verify setup.ws socket setup.stage e
    | e, none => s.idleStep parse e

end SocketServer

end Aeolus.Websocket
