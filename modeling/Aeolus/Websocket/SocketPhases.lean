/-
# Aeolus.Websocket.SocketPhases — what becomes of a socket

Each socket goes through the phases of `SocketPhase`, whatever happens to the others and however
late the timers run: it presents one valid token at most, connects once when it is stored as a
client and disconnects once when it closes.  The server's clients are those in the middle
(`Orderly`).
-/
import Aeolus.Websocket.SocketLifecycle

namespace Aeolus.Websocket

open Aeolus.Auth Aeolus.Core Aeolus.Theory

/-! ## What is told of a socket -/

def SocketFact.isConnect (ws : Nat) : SocketFact → Bool
  | .connect other _ _ => other = ws
  | _ => false

def SocketFact.isDisconnect (ws : Nat) : SocketFact → Bool
  | .disconnect other _ => other = ws
  | _ => false

/-- The expiry of a token that was found valid on the socket. -/
def SocketFact.token (ws : Nat) : SocketFact → Option ℤ
  | .verified other expiresAt => if other = ws then some expiresAt else none
  | _ => none

/-- It has authenticated, and has neither closed nor failed. -/
def Socket.counted (socket : Socket) : Bool :=
  socket.authenticated && socket.readyState != .closed && !socket.errored

namespace SocketServer

/-! ## The phases of a socket -/

/-- How far `authenticateAndSetup` has come for the socket. -/
def Engaged (socket : Socket) (tokens : List ℤ) : Option SetupStage → Prop
  | none => socket.authenticated = true → socket.attached = true
  | some (.verifying _) => tokens = [] ∧ socket.authenticated = false
  | some (.readingTabs _ _) => socket.authenticated = false
  | some (.sendingSnapshot _) | some (.arming _) => socket.authenticated = true

/-- The phase, by the socket, the stage `authenticateAndSetup` is in for it, whether it is a
client, the tokens it has presented, and the events about it. -/
structure SocketPhase (socket : Socket) (stage : Option SetupStage) (client : Bool)
    (tokens : List ℤ) (connects disconnects : Nat) : Prop where
  one : tokens.length ≤ 1
  connects : connects = if socket.authenticated then 1 else 0
  disconnects : disconnects = if socket.attached ∧ socket.readyState = .closed then 1 else 0
  counted : client = socket.counted
  errored : socket.errored = true → socket.attached = true
  attached : socket.attached = true → socket.authenticated = true
  timer : socket.expiryTimer ≠ none → socket.attached = true ∧ socket.errored = false
  listens : socket.listens = true → tokens = [] ∧ socket.authenticated = false
  busy : stage ≠ none →
    socket.listens = false ∧ socket.attached = false ∧ socket.readyState ≠ .closed
  engaged : Engaged socket tokens stage

/-- The socket, or one that is yet to connect. -/
def socketAt (s : SocketServer) (ws : Nat) : Socket := (s.sockets[ws]?).getD {}

def stageOf (s : SocketServer) (ws : Nat) : Option SetupStage :=
  s.setup.bind fun setup => if setup.ws = ws then some setup.stage else none

def Phase (s : SocketServer) (ws : Nat) : Prop :=
  SocketPhase (s.socketAt ws) (s.stageOf ws) (s.clients.has ws)
    (s.log.filterMap (SocketFact.token ws)) (s.log.filter (SocketFact.isConnect ws)).length
    (s.log.filter (SocketFact.isDisconnect ws)).length

structure Orderly (s : SocketServer) : Prop where
  phases : ∀ ws, s.Phase ws
  size : s.clients.size = s.sockets.countP Socket.counted

variable {s s' : SocketServer} {ws : Nat} {socket : Socket} {stage : Option SetupStage}
  {client : Bool} {tokens : List ℤ} {connects disconnects : Nat}

theorem socketAt_of_found (found : s.sockets[ws]? = some socket) : s.socketAt ws = socket := by
  unfold socketAt
  rw [found]
  rfl

/-- A socket that differs in its authentication timer, has lost its expiry timer, or has started
to close. -/
structure Alike (next socket : Socket) : Prop where
  listens : next.listens = socket.listens
  attached : next.attached = socket.attached
  authenticated : next.authenticated = socket.authenticated
  errored : next.errored = socket.errored
  expiryTimer : next.expiryTimer = none ∨ next.expiryTimer = socket.expiryTimer
  closed : next.readyState = .closed ↔ socket.readyState = .closed

theorem Alike.refl (socket : Socket) : Alike socket socket :=
  ⟨rfl, rfl, rfl, rfl, .inr rfl, Iff.rfl⟩

theorem SocketPhase.alike {next : Socket}
    (phase : SocketPhase socket stage client tokens connects disconnects)
    (alike : Alike next socket) :
    SocketPhase next stage client tokens connects disconnects := by
  obtain ⟨listens, attached, authenticated, errored, expiryTimer, closed⟩ := alike
  refine ⟨phase.one, ?_, ?_, ?_, ?_, ?_, fun due => ?_, ?_, ?_, ?_⟩
  · rw [authenticated]
    exact phase.connects
  · simp only [attached, closed]
    exact phase.disconnects
  · rw [phase.counted]
    simp only [Socket.counted, authenticated, errored, bne, beq_eq_decide, closed]
  · rw [errored, attached]
    exact phase.errored
  · rw [attached, authenticated]
    exact phase.attached
  · rw [attached, errored]
    exact phase.timer fun none' => due (expiryTimer.elim id fun same => same.trans none')
  · rw [listens, authenticated]
    exact phase.listens
  · rw [listens, attached, ne_eq, ne_eq, closed]
    exact phase.busy
  · have engaged := phase.engaged
    unfold Engaged at engaged ⊢
    rw [authenticated, attached]
    exact engaged

theorem SocketPhase.presenting
    (phase : SocketPhase socket none client tokens connects disconnects)
    (listens : socket.listens = true) (state : socket.readyState ≠ .closed) (token : String) :
    SocketPhase { socket with authTimer := none, listens := false } (some (.verifying token))
      client tokens connects disconnects :=
  { phase with
    listens := nofun
    busy := fun _ => ⟨rfl, Bool.eq_false_iff.mpr fun attached => absurd
      ((phase.attached attached).symm.trans (phase.listens listens).2) nofun, state⟩
    engaged := phase.listens listens }

theorem SocketPhase.dismissed
    (phase : SocketPhase socket stage client tokens connects disconnects)
    (stranger : socket.authenticated = false) :
    SocketPhase socket none client tokens connects disconnects :=
  { phase with
    busy := fun some => absurd rfl some
    engaged := fun known => absurd (known.symm.trans stranger) nofun }

theorem SocketPhase.verified {token : String}
    (phase : SocketPhase socket (some (.verifying token)) client tokens connects disconnects)
    (payload : AccessTokenPayload) (expiresAt : ℤ) :
    SocketPhase socket (some (.readingTabs payload expiresAt)) client (tokens ++ [expiresAt])
      connects disconnects :=
  { phase with
    one := by simp [phase.engaged.1]
    listens := fun listens => absurd (listens.symm.trans (phase.busy nofun).1) nofun
    busy := fun _ => phase.busy nofun
    engaged := phase.engaged.2 }

/-- It becomes a client. -/
theorem SocketPhase.stored {payload : AccessTokenPayload} {expiresAt : ℤ}
    (phase : SocketPhase socket (some (.readingTabs payload expiresAt)) client tokens connects
      disconnects) :
    SocketPhase { socket with authenticated := true } (some (.sendingSnapshot expiresAt)) true
      tokens (connects + 1) disconnects := by
  have stranger : socket.authenticated = false := phase.engaged
  obtain ⟨deaf, unattached, state⟩ := phase.busy nofun
  exact
    { phase with
      connects := by simp [phase.connects, stranger]
      counted := by
        have sound : socket.errored = false := Bool.eq_false_iff.mpr fun errored =>
          absurd ((phase.errored errored).symm.trans unattached) nofun
        simp [Socket.counted, state, sound]
      attached := fun _ => rfl
      listens := fun listens => absurd (listens.symm.trans deaf) nofun
      busy := fun _ => ⟨deaf, unattached, state⟩
      engaged := rfl }

/-- It becomes a session, with its timer and its listeners. -/
theorem SocketPhase.armed {expiresAt : ℤ}
    (phase : SocketPhase socket (some (.arming expiresAt)) client tokens connects disconnects)
    (expiryTimer : Option ℤ) :
    SocketPhase { socket with expiryTimer, attached := true } none client tokens connects
      disconnects := by
  obtain ⟨-, unattached, state⟩ := phase.busy nofun
  exact
    { phase with
      disconnects := by simp [phase.disconnects, state]
      errored := fun _ => rfl
      attached := fun _ => phase.engaged
      timer := fun _ => ⟨rfl, Bool.eq_false_iff.mpr fun errored =>
        absurd ((phase.errored errored).symm.trans unattached) nofun⟩
      busy := fun some => absurd rfl some
      engaged := fun _ => rfl }

theorem SocketPhase.over (phase : SocketPhase socket none client tokens connects disconnects) :
    SocketPhase { socket with
        readyState := .closed, authTimer := none, listens := false, expiryTimer := none }
      none false tokens connects (if socket.attached then 1 else 0) :=
  { phase with
    disconnects := by simp
    counted := by simp [Socket.counted]
    timer := fun due => absurd rfl due
    listens := nofun
    busy := fun some => absurd rfl some }

/-- It closes before it has become one. -/
theorem SocketPhase.left (phase : SocketPhase socket none client tokens connects disconnects)
    (unattached : socket.attached = false) :
    SocketPhase { socket with readyState := .closed, authTimer := none, listens := false }
      none client tokens connects disconnects := by
  have stranger : socket.authenticated = false := Bool.eq_false_iff.mpr fun known =>
    absurd ((phase.engaged known).symm.trans unattached) nofun
  exact
    { phase with
      disconnects := by simp [phase.disconnects, unattached]
      counted := by simp [phase.counted, Socket.counted, stranger]
      listens := nofun
      busy := fun some => absurd rfl some }

theorem SocketPhase.failed (phase : SocketPhase socket none client tokens connects disconnects)
    (attached : socket.attached = true) :
    SocketPhase { socket with expiryTimer := none, errored := true } none false tokens connects
      disconnects :=
  { phase with
    counted := by simp [Socket.counted]
    errored := fun _ => attached
    timer := fun due => absurd rfl due }

/-- While nothing is set up, a client is a session. -/
theorem SocketPhase.of_client (phase : SocketPhase socket none true tokens connects disconnects) :
    socket.attached = true ∧ socket.errored = false := by
  have counted := phase.counted.symm
  simp only [Socket.counted, Bool.and_eq_true, Bool.not_eq_true'] at counted
  exact ⟨phase.engaged counted.1.1, counted.2⟩

/-- A fact that is not about the socket. -/
def Aside (ws : Nat) (fact : SocketFact) : Prop :=
  fact.token ws = none ∧ fact.isConnect ws = false ∧ fact.isDisconnect ws = false

theorem filter_aside {facts : List SocketFact} (aside : ∀ fact ∈ facts, Aside ws fact) :
    facts.filterMap (SocketFact.token ws) = [] ∧ facts.filter (SocketFact.isConnect ws) = [] ∧
      facts.filter (SocketFact.isDisconnect ws) = [] := by
  refine ⟨List.filterMap_eq_nil_iff.mpr fun fact member => (aside fact member).1,
    List.filter_eq_nil_iff.mpr fun fact member => ?_,
    List.filter_eq_nil_iff.mpr fun fact member => ?_⟩
  · rw [(aside fact member).2.1]
    exact nofun
  · rw [(aside fact member).2.2]
    exact nofun

/-- Something happens to one socket. -/
theorem Orderly.update (orderly : s.Orderly) (found : s.sockets[ws]? = some socket)
    (clients : OrderedMap Nat AuthenticatedClient) {next : Socket} {facts : List SocketFact}
    (sockets : s'.sockets = s.sockets.set ws next) (log : s'.log = s.log ++ facts)
    (aside : ∀ other, other ≠ ws → ∀ fact ∈ facts, Aside other fact) (after : s'.clients = clients)
    (others : ∀ other, other ≠ ws → clients.has other = s.clients.has other)
    (stages : ∀ other, other ≠ ws → s'.stageOf other = s.stageOf other)
    (now : s'.stageOf ws = stage)
    (presented : s.log.filterMap (SocketFact.token ws) ++ facts.filterMap (SocketFact.token ws) =
      tokens)
    (connected : (s.log.filter (SocketFact.isConnect ws)).length +
      (facts.filter (SocketFact.isConnect ws)).length = connects)
    (disconnected : (s.log.filter (SocketFact.isDisconnect ws)).length +
      (facts.filter (SocketFact.isDisconnect ws)).length = disconnects)
    (phase : SocketPhase next stage (clients.has ws) tokens connects disconnects)
    (size : clients.size + (if socket.counted then 1 else 0) =
      s.clients.size + if next.counted then 1 else 0) : s'.Orderly := by
  subst after
  refine ⟨fun other => ?_, ?_⟩
  · by_cases here : other = ws
    · rw [here]
      unfold Phase
      have there : s'.socketAt ws = next :=
        socketAt_of_found (by rw [sockets, getElem?_set_of_found found, if_pos rfl])
      rw [there, log, List.filterMap_append, List.filter_append, List.filter_append,
        List.length_append, List.length_append, now, presented, connected, disconnected]
      exact phase
    · have there : s'.socketAt other = s.socketAt other := by
        unfold socketAt
        rw [sockets, getElem?_set_of_found found, if_neg here]
      obtain ⟨noToken, noConnect, noDisconnect⟩ := filter_aside (aside other here)
      unfold Phase
      rw [there, log, List.filterMap_append, List.filter_append, List.filter_append, noToken,
        noConnect, noDisconnect, List.append_nil, List.append_nil, List.append_nil, others _ here,
        stages _ here]
      exact orderly.phases other
  · have count := countP_set found Socket.counted next
    rw [sockets]
    have before := orderly.size
    omega

/-- Nothing of it is about one socket. -/
theorem Orderly.same (orderly : s.Orderly) {facts : List SocketFact}
    (sockets : s'.sockets = s.sockets) (log : s'.log = s.log ++ facts)
    (aside : ∀ other, ∀ fact ∈ facts, Aside other fact) (clients : s'.clients = s.clients)
    (stages : s'.stageOf = s.stageOf) : s'.Orderly := by
  refine ⟨fun other => ?_, by rw [clients, sockets]; exact orderly.size⟩
  have there : s'.socketAt other = s.socketAt other := by
    unfold socketAt
    rw [sockets]
  obtain ⟨noToken, noConnect, noDisconnect⟩ := filter_aside (aside other)
  unfold Phase
  rw [there, log, List.filterMap_append, List.filter_append, List.filter_append, noToken,
    noConnect, noDisconnect, List.append_nil, List.append_nil, List.append_nil, clients, stages]
  exact orderly.phases other

/-! ## What a step does -/

theorem stageOf_some {here other : Nat} {now : SetupStage} (setup : s.setup = some ⟨here, now⟩) :
    s.stageOf other = if here = other then some now else none := by
  unfold stageOf
  rw [setup]
  rfl

theorem stageOf_none (idle : s.setup = none) (other : Nat) : s.stageOf other = none := by
  unfold stageOf
  rw [idle]
  rfl

/-- While one socket is set up, no other is, nor when that is through. -/
theorem stageOf_other {setup : Setup} (here : s.setup = some setup)
    (next : s'.setup = none ∨ ∃ later, s'.setup = some ⟨setup.ws, later⟩) (other : Nat)
    (elsewhere : other ≠ setup.ws) : s'.stageOf other = s.stageOf other := by
  rw [stageOf_some here, if_neg (Ne.symm elsewhere)]
  rcases next with idle | ⟨later, there⟩
  · exact stageOf_none idle other
  · rw [stageOf_some there, if_neg (Ne.symm elsewhere)]

theorem Orderly.phase (orderly : s.Orderly) (found : s.sockets[ws]? = some socket) :
    SocketPhase socket (s.stageOf ws) (s.clients.has ws) (s.log.filterMap (SocketFact.token ws))
      (s.log.filter (SocketFact.isConnect ws)).length
      (s.log.filter (SocketFact.isDisconnect ws)).length := by
  have phase := orderly.phases ws
  unfold Phase at phase
  rwa [socketAt_of_found found] at phase

/-- The socket changes and nothing is told of any. -/
theorem Orderly.moved (orderly : s.Orderly) (found : s.sockets[ws]? = some socket)
    {next : Socket} {facts : List SocketFact} (sockets : s'.sockets = s.sockets.set ws next)
    (log : s'.log = s.log ++ facts) (aside : ∀ other, ∀ fact ∈ facts, Aside other fact)
    (clients : s'.clients = s.clients)
    (stages : ∀ other, other ≠ ws → s'.stageOf other = s.stageOf other)
    (phase : SocketPhase next (s'.stageOf ws) (s.clients.has ws)
      (s.log.filterMap (SocketFact.token ws)) (s.log.filter (SocketFact.isConnect ws)).length
      (s.log.filter (SocketFact.isDisconnect ws)).length) : s'.Orderly := by
  obtain ⟨noToken, noConnect, noDisconnect⟩ := filter_aside (aside ws)
  refine orderly.update found s.clients sockets log (fun other _ => aside other) clients
    (fun _ _ => rfl) stages rfl ?_ ?_ ?_ phase ?_
  · rw [noToken, List.append_nil]
  · rw [noConnect]
    rfl
  · rw [noDisconnect]
    rfl
  · rw [← phase.counted, ← (orderly.phase found).counted]

/-- What `closeSocket` does to a server that differs in its setup. -/
theorem closeSocket_cases (s : SocketServer) (ws : Nat) (socket : Socket) (code : Nat) :
    ∃ next facts, s.closeSocket ws socket code = (s.put ws next).observed facts ∧
      Alike next socket ∧
      next.readyState ≠ .opened ∧
      (facts = [] ∨ facts = [.closeCalled ws code s.now] ∧ socket.readyState = .opened) := by
  unfold closeSocket
  by_cases opened : socket.readyState = .opened
  · rw [if_pos opened]
    exact ⟨_, _, rfl, ⟨rfl, rfl, rfl, rfl, .inr rfl, by simp [opened]⟩, nofun, .inr ⟨rfl, opened⟩⟩
  · rw [if_neg opened]
    exact ⟨socket, [], by simp [observed, put], .refl socket, opened, .inl rfl⟩

theorem Orderly.closeSocket (orderly : s.Orderly) (found : s.sockets[ws]? = some socket)
    {base : SocketServer} (stages : ∀ other, other ≠ ws → base.stageOf other = s.stageOf other)
    (sockets : base.sockets = s.sockets) (log : base.log = s.log)
    (clients : base.clients = s.clients) {next : Socket}
    (phase : SocketPhase next (base.stageOf ws) (s.clients.has ws)
      (s.log.filterMap (SocketFact.token ws)) (s.log.filter (SocketFact.isConnect ws)).length
      (s.log.filter (SocketFact.isDisconnect ws)).length) (code : Nat) :
    (base.closeSocket ws next code).Orderly := by
  obtain ⟨closing, facts, done, alike, -, told⟩ := closeSocket_cases base ws next code
  rw [done]
  refine orderly.moved found (by rw [← sockets]; rfl) (by rw [← log]; rfl)
    (fun other fact member => ?_) clients stages (phase.alike alike)
  rcases told with rfl | ⟨rfl, -⟩
  · cases member
  · obtain rfl := List.mem_singleton.mp member
    exact ⟨rfl, rfl, rfl⟩

theorem Orderly.connection (orderly : s.Orderly) : s.connection.Orderly := by
  have there (other : Nat) : Alike (s.connection.socketAt other) (s.socketAt other) := by
    unfold socketAt SocketServer.connection
    rw [getElem?_concat]
    by_cases last : other = s.sockets.length
    · rw [if_pos last, List.getElem?_eq_none (by omega)]
      exact ⟨rfl, rfl, rfl, rfl, .inl rfl, Iff.rfl⟩
    · rw [if_neg last]
      exact .refl _
  refine ⟨fun other => (orderly.phases other).alike (there other), ?_⟩
  unfold SocketServer.connection
  rw [List.countP_append]
  exact orderly.size

theorem Orderly.messageEvent (orderly : s.Orderly) (parse : String → Option Json)
    (idle : s.setup = none) (found : s.sockets[ws]? = some socket) (text : String) :
    (s.messageEvent parse ws socket text).Orderly := by
  unfold SocketServer.messageEvent
  split
  · exact orderly
  next running =>
  split
  case isFalse => exact orderly
  case isTrue listens =>
    have phase := orderly.phase found
    have none' := stageOf_none idle
    rw [none'] at phase
    have heard : Alike { socket with authTimer := none } socket :=
      ⟨rfl, rfl, rfl, rfl, .inr rfl, Iff.rfl⟩
    have refused : (s.closeSocket ws { socket with authTimer := none } 4001).Orderly :=
      orderly.closeSocket found (fun _ _ => rfl) rfl rfl rfl
        (by rw [none']; exact phase.alike heard) 4001
    unfold onAuthMessage
    dsimp only
    split
    · exact refused
    · exact orderly.same rfl (List.append_nil _).symm nofun rfl rfl
    · split
      · split
        · next token _ _ _ =>
            refine orderly.moved found rfl (List.append_nil _).symm nofun rfl
              (fun other elsewhere => ?_) ?_
            · rw [none', stageOf_some rfl, if_neg (Ne.symm elsewhere)]
            · rw [stageOf_some rfl, if_pos rfl]
              exact phase.presenting listens (not_or.mp running).1 token
        · exact refused
      · exact refused

theorem Orderly.verifyToken (orderly : s.Orderly)
    (verify : String → ℤ → Option (AccessTokenPayload × ℤ)) {token : String}
    (here : s.setup = some ⟨ws, .verifying token⟩) (found : s.sockets[ws]? = some socket) :
    (s.verifyToken verify ws socket token).Orderly := by
  have phase := orderly.phase found
  rw [stageOf_some here, if_pos rfl] at phase
  unfold SocketServer.verifyToken
  split
  · have elsewhere : ∀ other, other ≠ ws →
        { s with setup := none }.stageOf other = s.stageOf other := stageOf_other here (.inl rfl)
    refine orderly.closeSocket found elsewhere rfl rfl rfl ?_ 4001
    rw [stageOf_none rfl]
    exact phase.dismissed phase.engaged.2
  · next payload expiresAt _ =>
      refine orderly.update found s.clients
        (set_of_found found).symm rfl (fun other elsewhere fact member => ?_)
        rfl (fun _ _ => rfl) (stageOf_other here (.inr ⟨_, rfl⟩))
        ((stageOf_some rfl).trans (if_pos rfl)) ?_ rfl rfl (phase.verified payload expiresAt) rfl
      · obtain rfl := List.mem_singleton.mp member
        exact ⟨if_neg (Ne.symm elsewhere), rfl, rfl⟩
      · simp [SocketFact.token]

theorem Orderly.storeClient (orderly : s.Orderly) {payload : AccessTokenPayload} {expiresAt : ℤ}
    (here : s.setup = some ⟨ws, .readingTabs payload expiresAt⟩)
    (found : s.sockets[ws]? = some socket) (accessibleTabIds : Option (List String)) :
    (s.storeClient ws socket payload expiresAt accessibleTabIds).Orderly := by
  have phase := orderly.phase found
  rw [stageOf_some here, if_pos rfl] at phase
  unfold SocketServer.storeClient
  cases accessibleTabIds with
  | none =>
      have elsewhere : ∀ other, other ≠ ws →
          { s with setup := none }.stageOf other = s.stageOf other := stageOf_other here (.inl rfl)
      refine orderly.closeSocket found elsewhere rfl rfl rfl ?_ 4002
      rw [stageOf_none rfl]
      exact phase.dismissed phase.engaged
  | some accessibleTabIds =>
      have stored := phase.stored
      let client : AuthenticatedClient :=
        { ws := { id := ws }, userId := payload.userId, role := payload.role,
          groupId := payload.groupId, accessibleTabIds }
      refine orderly.update found (s.clients.set ws client) rfl rfl
        (fun other elsewhere fact member => ?_) rfl
        (fun other elsewhere => OrderedMap.has_set_of_ne _ _ elsewhere)
        (stageOf_other here (.inr ⟨_, rfl⟩)) ((stageOf_some rfl).trans (if_pos rfl))
        (List.append_nil _) ?_ rfl (by rw [OrderedMap.has_set_self]; exact stored) ?_
      · obtain rfl := List.mem_singleton.mp member
        exact ⟨rfl, decide_eq_false (Ne.symm elsewhere), rfl⟩
      · simp [SocketFact.isConnect]
      · have size := OrderedMap.size_add_of_set s.clients ws client
        rw [phase.counted] at size
        rw [size, ← stored.counted, if_pos rfl]

theorem Orderly.sendSnapshot (orderly : s.Orderly) {expiresAt : ℤ}
    (here : s.setup = some ⟨ws, .sendingSnapshot expiresAt⟩)
    (found : s.sockets[ws]? = some socket) (snapshot : Option Json) :
    (s.sendSnapshot ws socket expiresAt snapshot).Orderly := by
  unfold SocketServer.sendSnapshot
  cases snapshot with
  | none => exact orderly.same rfl (List.append_nil _).symm nofun rfl rfl
  | some data =>
      have phase := orderly.phase found
      rw [stageOf_some here, if_pos rfl] at phase
      have next : SocketPhase socket (some (.arming expiresAt)) (s.clients.has ws)
          (s.log.filterMap (SocketFact.token ws)) (s.log.filter (SocketFact.isConnect ws)).length
          (s.log.filter (SocketFact.isDisconnect ws)).length :=
        { phase with busy := fun _ => phase.busy nofun }
      have same : s.sockets = s.sockets.set ws socket := (set_of_found found).symm
      unfold sendTo
      dsimp only
      split
      · refine orderly.moved found same rfl (fun other fact member => ?_) rfl
          (stageOf_other here (.inr ⟨_, rfl⟩)) (by rw [stageOf_some rfl, if_pos rfl]; exact next)
        obtain rfl := List.mem_singleton.mp member
        exact ⟨rfl, rfl, rfl⟩
      · exact orderly.moved found same (List.append_nil _).symm nofun rfl
          (stageOf_other here (.inr ⟨_, rfl⟩)) (by rw [stageOf_some rfl, if_pos rfl]; exact next)

theorem Orderly.arm (orderly : s.Orderly) {expiresAt : ℤ}
    (here : s.setup = some ⟨ws, .arming expiresAt⟩) (found : s.sockets[ws]? = some socket) :
    (s.arm ws socket expiresAt).Orderly := by
  have phase := orderly.phase found
  rw [stageOf_some here, if_pos rfl] at phase
  have idle : (s.arm ws socket expiresAt).setup = none := rfl
  refine orderly.moved found rfl (List.append_nil _).symm nofun rfl
    (stageOf_other here (.inl idle)) ?_
  rw [stageOf_none idle]
  exact phase.armed _

theorem Orderly.setupStep (orderly : s.Orderly)
    (verify : String → ℤ → Option (AccessTokenPayload × ℤ)) {now : SetupStage}
    (here : s.setup = some ⟨ws, now⟩) (found : s.sockets[ws]? = some socket)
    (e : SocketEvent) : (s.setupStep verify ws socket now e).Orderly := by
  unfold SocketServer.setupStep
  split
  · exact orderly.verifyToken verify here found
  · exact orderly.storeClient here found _
  · exact orderly.sendSnapshot here found _
  · exact orderly.arm here found
  · exact orderly

/-- A timer runs out, and may close its socket. -/
theorem Orderly.timedOut (orderly : s.Orderly) (found : s.sockets[ws]? = some socket)
    {next : Socket} (alike : Alike next socket) (code : Nat) :
    (s.closeSocket ws next code).Orderly :=
  orderly.closeSocket found (fun _ _ => rfl) rfl rfl rfl ((orderly.phase found).alike alike) code

theorem Orderly.authTimeout (orderly : s.Orderly) (found : s.sockets[ws]? = some socket) :
    (s.authTimeout ws socket).Orderly := by
  unfold SocketServer.authTimeout
  split
  · exact orderly
  split
  · refine orderly.timedOut found ?_ 4001
    exact ⟨rfl, rfl, rfl, rfl, .inr rfl, Iff.rfl⟩
  · exact orderly

theorem Orderly.expire (orderly : s.Orderly) (found : s.sockets[ws]? = some socket) :
    (s.expire ws socket).Orderly := by
  unfold SocketServer.expire
  split
  · exact orderly
  split
  · refine orderly.timedOut found ?_ 4003
    exact ⟨rfl, rfl, rfl, rfl, .inl rfl, Iff.rfl⟩
  · exact orderly

theorem Orderly.closeEvent (orderly : s.Orderly) (idle : s.setup = none)
    (found : s.sockets[ws]? = some socket) : (s.closeEvent ws socket).Orderly := by
  have phase := orderly.phase found
  have none' := stageOf_none idle
  rw [none'] at phase
  unfold SocketServer.closeEvent
  dsimp only
  split
  · exact orderly
  next state =>
  split
  · next attached =>
      refine orderly.update found (s.clients.delete ws) rfl rfl
        (fun other elsewhere fact member => ?_)
        rfl (fun other elsewhere => OrderedMap.has_delete_of_ne _ elsewhere) (fun _ _ => rfl)
        (none' ws) (List.append_nil _) rfl ?_ (by rw [OrderedMap.has_delete_self]; exact phase.over)
        ?_
      · obtain rfl := List.mem_singleton.mp member
        exact ⟨rfl, rfl, decide_eq_false (Ne.symm elsewhere)⟩
      · simp [SocketFact.isDisconnect, phase.disconnects, attached, state]
      · rw [← phase.counted]
        simpa [Socket.counted] using OrderedMap.size_add_of_delete s.clients ws
  · next unattached =>
      refine orderly.moved found rfl (List.append_nil _).symm (fun _ => List.forall_mem_nil _) rfl
        (fun _ _ => rfl) ?_
      have left := phase.left (Bool.eq_false_iff.mpr unattached)
      rwa [← none' ws] at left

theorem Orderly.errorEvent (orderly : s.Orderly) (idle : s.setup = none)
    (found : s.sockets[ws]? = some socket) : (s.errorEvent ws socket).Orderly := by
  have phase := orderly.phase found
  have none' := stageOf_none idle
  rw [none'] at phase
  unfold SocketServer.errorEvent
  split
  · exact orderly
  next running =>
  obtain ⟨state, errored⟩ := not_or.mp running
  split
  · next attached =>
      refine orderly.update found (s.clients.delete ws) rfl (List.append_nil _).symm
        (fun _ _ => List.forall_mem_nil _) rfl
        (fun other elsewhere => OrderedMap.has_delete_of_ne _ elsewhere) (fun _ _ => rfl) (none' ws)
        (List.append_nil _) rfl rfl
        (by rw [OrderedMap.has_delete_self]; exact phase.failed attached) ?_
      · rw [← phase.counted]
        simpa [Socket.counted] using OrderedMap.size_add_of_delete s.clients ws
  · exact orderly.same rfl (List.append_nil _).symm (fun _ => List.forall_mem_nil _) rfl rfl

theorem Orderly.broadcast (orderly : s.Orderly) (message : Json) (envelope : BroadcastEnvelope) :
    (s.broadcast message envelope).Orderly := by
  refine orderly.same rfl rfl (fun other fact member => ?_) rfl rfl
  rcases List.mem_append.mp member with sent | told
  · obtain ⟨receiver, -, rfl⟩ := List.mem_map.mp sent
    exact ⟨rfl, rfl, rfl⟩
  · obtain rfl := List.mem_singleton.mp told
    exact ⟨rfl, rfl, rfl⟩

/-- What is done with a socket is done with one that is there. -/
theorem withSocket_keeps {P : SocketServer → Prop} (kept : P s) {f : Socket → SocketServer}
    (each : ∀ socket, s.sockets[ws]? = some socket → P (f socket)) : P (s.withSocket ws f) := by
  unfold withSocket
  cases found : s.sockets[ws]? with
  | none => exact kept
  | some socket => exact each socket found

theorem Orderly.idleStep (orderly : s.Orderly) (parse : String → Option Json)
    (idle : s.setup = none) (e : SocketEvent) : (s.idleStep parse e).Orderly := by
  cases e with
  | connection => exact orderly.connection
  | message ws text =>
      exact withSocket_keeps orderly fun _ found => orderly.messageEvent parse idle found text
  | authTimeout ws => exact withSocket_keeps orderly fun _ found => orderly.authTimeout found
  | expire ws => exact withSocket_keeps orderly fun _ found => orderly.expire found
  | close ws => exact withSocket_keeps orderly fun _ found => orderly.closeEvent idle found
  | error ws => exact withSocket_keeps orderly fun _ found => orderly.errorEvent idle found
  | broadcast message envelope => exact orderly.broadcast message envelope
  | verify => exact orderly
  | readTabs _ => exact orderly
  | sendSnapshot _ => exact orderly
  | arm => exact orderly
  | advance _ => exact orderly

/-- What a step does: nothing, the clock moves, the setup goes on, or something happens outside
of it. -/
theorem step_cases (parse : String → Option Json)
    (verify : String → ℤ → Option (AccessTokenPayload × ℤ)) (s : SocketServer) (e : SocketEvent) :
    s.step parse verify e = s ∨ (∃ ms : Nat, s.step parse verify e = { s with now := s.now + ms }) ∨
      (∃ setup, s.setup = some setup ∧ s.step parse verify e =
        s.withSocket setup.ws fun socket =>
          s.setupStep verify setup.ws socket setup.stage e) ∨
      s.setup = none ∧ s.step parse verify e = s.idleStep parse e := by
  unfold SocketServer.step
  split
  · exact .inl rfl
  split
  · next ms => exact .inr (.inl ⟨ms, rfl⟩)
  · next setup _ here => exact .inr (.inr (.inl ⟨setup, here, rfl⟩))
  · next idle => exact .inr (.inr (.inr ⟨idle, rfl⟩))

theorem Orderly.step (orderly : s.Orderly) (parse : String → Option Json)
    (verify : String → ℤ → Option (AccessTokenPayload × ℤ)) (e : SocketEvent) :
    (s.step parse verify e).Orderly := by
  rcases step_cases parse verify s e with same | ⟨ms, same⟩ | ⟨setup, here, same⟩ | ⟨idle, same⟩
  · rw [same]
    exact orderly
  · rw [same]
    exact orderly.same rfl (List.append_nil _).symm nofun rfl rfl
  · rw [same]
    exact withSocket_keeps orderly fun _ found => orderly.setupStep verify here found e
  · rw [same]
    exact orderly.idleStep parse idle e

theorem orderly_start (now : ℤ) : Orderly { now } := by
  refine ⟨fun ws => ⟨Nat.zero_le 1, rfl, rfl, rfl, nofun, nofun, fun due => absurd rfl due,
    fun _ => ⟨rfl, rfl⟩, fun some => absurd rfl some, nofun⟩, rfl⟩

/-- **A socket is one session**, however late the timers run: it presents one valid token at most,
connects once at most, and disconnects once at most, after it has connected; the clients are the
sockets that have authenticated and have neither closed nor failed. -/
theorem one_session (parse : String → Option Json)
    (verify : String → ℤ → Option (AccessTokenPayload × ℤ)) (now : ℤ) (events : List SocketEvent)
    (ws : Nat) :
    let s := run (step parse verify) { now } events
    (s.log.filterMap (SocketFact.token ws)).length ≤ 1 ∧
      (s.log.filter (SocketFact.isConnect ws)).length ≤ 1 ∧
      (s.log.filter (SocketFact.isDisconnect ws)).length ≤
        (s.log.filter (SocketFact.isConnect ws)).length ∧
      s.clientCount = s.sockets.countP Socket.counted := by
  intro s
  have orderly : s.Orderly :=
    run_invariant (fun _ e orderly => orderly.step parse verify e) (orderly_start now) events
  have phase := orderly.phases ws
  refine ⟨phase.one, ?_, ?_, orderly.size⟩
  · rw [phase.connects]
    split <;> decide
  · rw [phase.connects, phase.disconnects]
    split
    · next closed => rw [if_pos (phase.attached closed.1)]
    · exact Nat.zero_le _

end SocketServer

end Aeolus.Websocket
