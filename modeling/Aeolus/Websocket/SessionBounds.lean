/-
# Aeolus.Websocket.SessionBounds — a session lies within its token

That a socket has presented a token before anything is sent on it holds in every run.  That
nothing comes behind the expiry of the token is another matter: it hangs on the timer, and the
timer on when it is set (`SetUpInTime`).
-/
import Aeolus.Websocket.SocketPhases

namespace Aeolus.Websocket

open Aeolus.Auth Aeolus.Core Aeolus.Theory

/-! ## What is to hold -/

/-- A message is sent behind a valid token and before it expires. -/
def SentInTime : List SocketFact → Prop :=
  Justified fun before fact => ∀ ws message at', fact = .sent ws message at' →
    ∃ expiresAt, .verified ws expiresAt ∈ before ∧ at' < expiresAt

/-- A socket is closed for an expired token when the token has expired. -/
def ClosedInTime : List SocketFact → Prop :=
  Justified fun before fact => ∀ ws at', fact = .closeCalled ws 4003 at' →
    ∃ expiresAt, .verified ws expiresAt ∈ before ∧ expiresAt ≤ at'

namespace SocketServer

structure Lifecycle (s : SocketServer) : Prop where
  sent : SentInTime s.log
  expired : ClosedInTime s.log
  oneToken : ∀ ws, (s.log.filterMap (SocketFact.token ws)).length ≤ 1
  connects : ∀ ws socket, s.sockets[ws]? = some socket →
    (s.log.filter (SocketFact.isConnect ws)).length = if socket.authenticated then 1 else 0
  disconnects : ∀ ws, (s.log.filter (SocketFact.isDisconnect ws)).length ≤ 1
  clientCount : s.clientCount = s.sockets.countP Socket.counted

/-- No timer is due. -/
def Quiet (s : SocketServer) : Prop :=
  ∀ socket ∈ s.sockets,
    (∀ due ∈ socket.authTimer, s.now < due) ∧ ∀ due ∈ socket.expiryTimer, s.now < due

/-- A timer that is due runs before anything else happens. -/
def Prompt (s : SocketServer) : SocketEvent → Prop
  | .connection | .message _ _ | .close _ | .error _ | .broadcast _ _ => s.setup = none → s.Quiet
  | _ => True

def opened (s : SocketServer) (ws : Nat) : Bool := (s.sockets[ws]?).any (·.readyState = .opened)

/-- On an open socket the snapshot is sent, and the timer set, while the token is valid, and the
timer can wait as long as the token is. -/
def SetUpInTime (s : SocketServer) (e : SocketEvent) : Prop :=
  match s.setup, e with
  | some ⟨ws, .sendingSnapshot expiresAt⟩, .sendSnapshot (some _) =>
      s.opened ws = true → s.now < expiresAt
  | some ⟨ws, .arming expiresAt⟩, .arm =>
      s.opened ws = true → s.now < expiresAt ∧ expiresAt - s.now ≤ 2147483647
  | _, _ => True

/-! ## What keeps it so -/

/-- What is sent or closed in time. -/
def Told (before : List SocketFact) : SocketFact → Prop
  | .sent ws _ at' => ∃ expiresAt, .verified ws expiresAt ∈ before ∧ at' < expiresAt
  | .closeCalled ws code at' =>
      code = 4003 → ∃ expiresAt, .verified ws expiresAt ∈ before ∧ expiresAt ≤ at'
  | _ => True

/-- The timer of an open session is due when its token expires. -/
def Armed (log : List SocketFact) (ws : Nat) (socket : Socket) : Prop :=
  socket.attached = true → socket.readyState = .opened → socket.errored = false →
    ∃ expiresAt, socket.expiryTimer = some expiresAt ∧ .verified ws expiresAt ∈ log

end SocketServer

/-- The expiry that `authenticateAndSetup` has read. -/
def SetupStage.expiresAt : SetupStage → Option ℤ
  | .verifying _ => none
  | .readingTabs _ expiresAt | .sendingSnapshot expiresAt | .arming expiresAt => some expiresAt

namespace SocketServer

structure Timely (s : SocketServer) : Prop where
  told : Justified Told s.log
  armed : ∀ ws socket, s.sockets[ws]? = some socket → Armed s.log ws socket
  setup : ∀ setup ∈ s.setup, ∀ expiresAt ∈ setup.stage.expiresAt,
    .verified setup.ws expiresAt ∈ s.log

variable {s s' : SocketServer} {ws : Nat} {socket : Socket} {log : List SocketFact}

theorem Armed.grown (armed : Armed log ws socket) (facts : List SocketFact) :
    Armed (log ++ facts) ws socket := fun attached opened running =>
  let ⟨expiresAt, timer, verified⟩ := armed attached opened running
  ⟨expiresAt, timer, List.mem_append_left facts verified⟩

/-- Something happens to one socket, or to none. -/
theorem Timely.update (timely : s.Timely) {facts : List SocketFact} (log : s'.log = s.log ++ facts)
    (sockets : s'.sockets = s.sockets ∨ ∃ ws socket next, s.sockets[ws]? = some socket ∧
      s'.sockets = s.sockets.set ws next ∧ Armed s'.log ws next)
    (right : ∀ fact ∈ facts, ∀ before, s.log <+: before → Told before fact)
    (setup : s'.setup = s.setup ∨ ∀ setup ∈ s'.setup, ∀ expiresAt ∈ setup.stage.expiresAt,
      .verified setup.ws expiresAt ∈ s'.log) : s'.Timely := by
  have armed (other : Nat) (socket : Socket) (found : s.sockets[other]? = some socket) :
      Armed s'.log other socket := by
    rw [log]
    exact (timely.armed other socket found).grown facts
  refine ⟨log ▸ timely.told.append right, fun other next found => ?_, ?_⟩
  · rcases sockets with same | ⟨ws, socket, changed, there, moved, now⟩
    · rw [same] at found
      exact armed other next found
    · rw [moved, getElem?_set_of_found there] at found
      by_cases here : other = ws
      · rw [if_pos here, Option.some.injEq] at found
        rw [here, ← found]
        exact now
      · rw [if_neg here] at found
        exact armed other next found
  · rcases setup with same | setup
    · rw [same, log]
      exact fun setup member expiresAt reads =>
        List.mem_append_left facts (timely.setup setup member expiresAt reads)
    · exact setup

/-- A socket that is closed has nothing to answer for. -/
theorem Timely.closeSocket (timely : s.Timely) (found : s.sockets[ws]? = some socket)
    (base : SocketServer) (setup : base.setup = s.setup ∨ base.setup = none)
    (sockets : base.sockets = s.sockets) (log : base.log = s.log) {next : Socket} {code : Nat}
    (right : ∀ before, s.log <+: before → next.readyState = .opened →
      Told before (.closeCalled ws code base.now)) : (base.closeSocket ws next code).Timely := by
  obtain ⟨closing, facts, done, -, shut, told⟩ := closeSocket_cases base ws next code
  rw [done]
  refine timely.update (by rw [← log]; rfl) (.inr ⟨ws, socket, closing, found, ?_, ?_⟩) ?_ ?_
  · rw [← sockets]
    rfl
  · exact fun _ opened => absurd opened shut
  · rcases told with rfl | ⟨rfl, opened⟩
    · exact nofun
    · intro fact member before grown
      obtain rfl := List.mem_singleton.mp member
      exact right before grown opened
  · refine setup.imp id fun idle setup member => ?_
    rw [show ((base.put ws closing).observed facts).setup = none from idle] at member
    exact nomatch member

theorem Timely.connection (timely : s.Timely) : s.connection.Timely := by
  refine ⟨timely.told, fun ws socket found => ?_, timely.setup⟩
  unfold SocketServer.connection at found
  rw [getElem?_concat] at found
  by_cases last : ws = s.sockets.length
  · rw [if_pos last, Option.some.injEq] at found
    rw [← found]
    exact nofun
  · rw [if_neg last] at found
    exact timely.armed ws socket found

theorem Timely.crash (timely : s.Timely) : { s with crashed := true }.Timely :=
  ⟨timely.told, timely.armed, timely.setup⟩

theorem Timely.messageEvent (timely : s.Timely) (parse : String → Option Json)
    (found : s.sockets[ws]? = some socket) (text : String) :
    (s.messageEvent parse ws socket text).Timely := by
  have refused : (s.closeSocket ws { socket with authTimer := none } 4001).Timely :=
    timely.closeSocket found s (.inl rfl) rfl rfl fun _ _ _ => nofun
  unfold SocketServer.messageEvent onAuthMessage
  dsimp only
  split
  · exact timely
  split
  case isFalse => exact timely
  split
  · exact refused
  · exact timely.crash
  · split
    · split
      · refine timely.update (List.append_nil _).symm
          (.inr ⟨ws, socket, _, found, rfl, timely.armed ws socket found⟩) nofun (.inr ?_)
        rintro _ ⟨⟩ _ ⟨⟩
      · exact refused
    · exact refused

theorem mem_receivers {envelope : BroadcastEnvelope} (receives : ws ∈ s.receivers envelope) :
    s.clients.has ws = true ∧
      ∃ socket, s.sockets[ws]? = some socket ∧ socket.readyState = .opened := by
  obtain ⟨⟨there, client⟩, member, chosen⟩ := List.mem_filterMap.mp receives
  dsimp only at chosen
  split at chosen
  case isFalse => exact nomatch chosen
  case isTrue both =>
    obtain rfl := Option.some.inj chosen
    refine ⟨OrderedMap.has_iff_mem_keys.mpr (List.mem_map_of_mem member), ?_⟩
    cases found : s.sockets[there]? with
    | none =>
        rw [found] at both
        exact nomatch both.1
    | some socket =>
        rw [found] at both
        exact ⟨socket, rfl, of_decide_eq_true both.1⟩

theorem opened_iff (found : s.sockets[ws]? = some socket) :
    s.opened ws = true ↔ socket.readyState = .opened := by
  unfold opened
  rw [found]
  exact decide_eq_true_iff

theorem timeoutDelay_of_le {ms : ℤ} (short : ms ≤ 2147483647) : timeoutDelay ms = ms :=
  if_neg (by omega)

theorem Timely.setupStep (timely : s.Timely)
    (verify : String → ℤ → Option (AccessTokenPayload × ℤ)) {stage : SetupStage}
    (here : s.setup = some ⟨ws, stage⟩)
    (found : s.sockets[ws]? = some socket) {e : SocketEvent} (inTime : s.SetUpInTime e) :
    (s.setupStep verify ws socket stage e).Timely := by
  have read (expiresAt : ℤ) (reads : stage.expiresAt = some expiresAt) :
      .verified ws expiresAt ∈ s.log := timely.setup ⟨ws, stage⟩ here expiresAt reads
  unfold SetUpInTime at inTime
  rw [here] at inTime
  cases stage with
  | verifying token =>
      cases e with
      | verify =>
          unfold SocketServer.setupStep SocketServer.verifyToken
          dsimp only
          split
          · exact timely.closeSocket found { s with setup := none } (.inr rfl) rfl rfl
              fun _ _ _ => nofun
          · next payload expiresAt _ =>
              have verified : .verified ws expiresAt ∈ s.log ++ [.verified ws expiresAt] :=
                List.mem_append_right _ List.mem_cons_self
              refine timely.update rfl (.inl rfl) ?_ (.inr ?_)
              · intro fact member before _
                obtain rfl := List.mem_singleton.mp member
                trivial
              · rintro _ ⟨⟩ _ ⟨⟩
                exact verified
      | _ => exact timely
  | readingTabs payload expiresAt =>
      cases e with
      | readTabs accessibleTabIds =>
          unfold SocketServer.setupStep SocketServer.storeClient
          dsimp only
          split
          · exact timely.closeSocket found { s with setup := none } (.inr rfl) rfl rfl
              fun _ _ _ => nofun
          · refine timely.update rfl (.inr ⟨ws, socket, _, found, rfl,
              (timely.armed ws socket found).grown _⟩) ?_ (.inr ?_)
            · intro fact member before _
              obtain rfl := List.mem_singleton.mp member
              trivial
            · rintro _ ⟨⟩ _ ⟨⟩
              exact List.mem_append_left _ (read expiresAt rfl)
      | _ => exact timely
  | sendingSnapshot expiresAt =>
      cases e with
      | sendSnapshot snapshot =>
          cases snapshot with
          | none => exact timely.crash
          | some data =>
              unfold SocketServer.setupStep SocketServer.sendSnapshot sendTo
              dsimp only
              split
              · next opened =>
                  refine timely.update rfl (.inl rfl) ?_ (.inr ?_)
                  · intro fact member before grown
                    obtain rfl := List.mem_singleton.mp member
                    exact ⟨expiresAt, grown.subset (read expiresAt rfl),
                      inTime ((opened_iff found).mpr opened)⟩
                  · rintro _ ⟨⟩ _ ⟨⟩
                    exact List.mem_append_left _ (read expiresAt rfl)
              · refine timely.update (List.append_nil _).symm (.inl rfl) nofun (.inr ?_)
                rintro _ ⟨⟩ _ ⟨⟩
                exact read expiresAt rfl
      | _ => exact timely
  | arming expiresAt =>
      cases e with
      | arm =>
          unfold SocketServer.setupStep SocketServer.arm
          dsimp only
          refine timely.update (List.append_nil _).symm (.inr ⟨ws, socket, _, found, rfl, ?_⟩) nofun
            (.inr nofun)
          intro _ opened _
          obtain ⟨valid, short⟩ := inTime ((opened_iff found).mpr opened)
          refine ⟨expiresAt, ?_, read expiresAt rfl⟩
          -- the timer waits as long as the token is valid
          rw [if_pos (by omega), timeoutDelay_of_le short]
          exact congrArg some (by omega)
      | _ => exact timely

theorem Timely.authTimeout (timely : s.Timely) (found : s.sockets[ws]? = some socket) :
    (s.authTimeout ws socket).Timely := by
  unfold SocketServer.authTimeout
  split
  · exact timely
  split
  · exact timely.closeSocket found s (.inl rfl) rfl rfl fun _ _ _ => nofun
  · exact timely

/-- A timer that closes a socket is the timer of a session. -/
theorem Timely.expire (timely : s.Timely) (orderly : s.Orderly)
    (found : s.sockets[ws]? = some socket) : (s.expire ws socket).Timely := by
  unfold SocketServer.expire
  split
  · exact timely
  next due timer =>
  split
  case isFalse => exact timely
  case isTrue left =>
    refine timely.closeSocket found s (.inl rfl) rfl rfl fun before grown opened _ => ?_
    obtain ⟨attached, running⟩ := (orderly.phase found).timer (by rw [timer]; nofun)
    obtain ⟨expiresAt, armed, verified⟩ := timely.armed ws socket found attached opened running
    obtain rfl : due = expiresAt := Option.some.inj (timer.symm.trans armed)
    exact ⟨due, grown.subset verified, left⟩

theorem Timely.closeEvent (timely : s.Timely) (found : s.sockets[ws]? = some socket) :
    (s.closeEvent ws socket).Timely := by
  unfold SocketServer.closeEvent
  dsimp only
  split
  · exact timely
  split
  · refine timely.update rfl (.inr ⟨ws, socket, _, found, rfl, fun _ => nofun⟩) ?_ (.inl rfl)
    intro fact member before _
    obtain rfl := List.mem_singleton.mp member
    trivial
  · exact timely.update (List.append_nil _).symm
      (.inr ⟨ws, socket, _, found, rfl, fun _ => nofun⟩) nofun (.inl rfl)

theorem Timely.errorEvent (timely : s.Timely) (found : s.sockets[ws]? = some socket) :
    (s.errorEvent ws socket).Timely := by
  unfold SocketServer.errorEvent
  split
  · exact timely
  split
  · exact timely.update (List.append_nil _).symm
      (.inr ⟨ws, socket, _, found, rfl, fun _ _ => nofun⟩) nofun (.inl rfl)
  · exact timely.crash

/-- A client is an open session, and its timer has not run. -/
theorem Timely.broadcast (timely : s.Timely) (orderly : s.Orderly) (idle : s.setup = none)
    (quiet : s.Quiet) (message : Json) (envelope : BroadcastEnvelope) :
    (s.broadcast message envelope).Timely := by
  refine timely.update rfl (.inl rfl) (fun fact member before grown => ?_) (.inl rfl)
  rcases List.mem_append.mp member with sent | told
  · obtain ⟨ws, receives, rfl⟩ := List.mem_map.mp sent
    obtain ⟨present, socket, found, opened⟩ := mem_receivers receives
    have phase := orderly.phase found
    rw [stageOf_none idle, present] at phase
    obtain ⟨attached, running⟩ := phase.of_client
    obtain ⟨expiresAt, armed, verified⟩ := timely.armed ws socket found attached opened running
    refine ⟨expiresAt, grown.subset verified, ?_⟩
    exact (quiet socket (List.mem_of_getElem? found)).2 expiresAt armed
  · obtain rfl := List.mem_singleton.mp told
    trivial

theorem Timely.idleStep (timely : s.Timely) (orderly : s.Orderly) (parse : String → Option Json)
    (idle : s.setup = none) {e : SocketEvent} (prompt : s.Prompt e) :
    (s.idleStep parse e).Timely := by
  cases e with
  | connection => exact timely.connection
  | message ws text =>
      exact withSocket_keeps timely fun _ found => timely.messageEvent parse found text
  | authTimeout ws => exact withSocket_keeps timely fun _ found => timely.authTimeout found
  | expire ws => exact withSocket_keeps timely fun _ found => timely.expire orderly found
  | close ws => exact withSocket_keeps timely fun _ found => timely.closeEvent found
  | error ws => exact withSocket_keeps timely fun _ found => timely.errorEvent found
  | broadcast message envelope =>
      exact timely.broadcast orderly idle (prompt idle) message envelope
  | verify => exact timely
  | readTabs _ => exact timely
  | sendSnapshot _ => exact timely
  | arm => exact timely
  | advance _ => exact timely

theorem Timely.step (timely : s.Timely) (orderly : s.Orderly) (parse : String → Option Json)
    (verify : String → ℤ → Option (AccessTokenPayload × ℤ)) {e : SocketEvent} (prompt : s.Prompt e)
    (inTime : s.SetUpInTime e) : (s.step parse verify e).Timely := by
  rcases step_cases parse verify s e with same | ⟨ms, same⟩ | ⟨setup, here, same⟩ | ⟨idle, same⟩
  · rw [same]
    exact timely
  · rw [same]
    exact ⟨timely.told, timely.armed, timely.setup⟩
  · rw [same]
    exact withSocket_keeps timely fun _ found => timely.setupStep verify here found inTime
  · rw [same]
    exact timely.idleStep orderly parse idle prompt

theorem timely_start (now : ℤ) : Timely { now } :=
  ⟨justified_nil, (fun _ _ found => nomatch found), fun _ member => nomatch member⟩

/-- Tokens, connections and the count are in order anyway; the rest is when it is timely. -/
theorem Orderly.lifecycle (orderly : s.Orderly) (timely : s.Timely) : s.Lifecycle where
  sent := timely.told.imp fun before fact told ws message at' same => by
    rw [same] at told
    exact told
  expired := timely.told.imp fun before fact told ws at' same => by
    rw [same] at told
    exact told rfl
  oneToken ws := (orderly.phases ws).one
  connects ws socket found := (orderly.phase found).connects
  disconnects ws := by
    rw [(orderly.phases ws).disconnects]
    split
    · exact le_rfl
    · exact Nat.zero_le 1
  clientCount := orderly.size

/-- **A session lies within its token while it is set up in time**: in every run in which timers
run when they are due, the snapshot is sent and the timer set while the token is valid, and the
timer can wait as long as the token is. -/
theorem sessions_within_tokens (parse : String → Option Json)
    (verify : String → ℤ → Option (AccessTokenPayload × ℤ)) (now : ℤ) {events : List SocketEvent}
    (prompt : Along (step parse verify) Prompt { now } events)
    (inTime : Along (step parse verify) SetUpInTime { now } events) :
    ∀ before, before <+: events → (run (step parse verify) { now } before).Lifecycle := by
  have kept (s : SocketServer) (e : SocketEvent) (inv : s.Orderly ∧ s.Timely)
      (ok : s.Prompt e ∧ s.SetUpInTime e) :
      (s.step parse verify e).Orderly ∧ (s.step parse verify e).Timely :=
    ⟨inv.1.step parse verify e, inv.2.step inv.1 parse verify ok.1 ok.2⟩
  intro before grown
  have inv := invariant_throughout kept ⟨orderly_start now, timely_start now⟩ (prompt.and inTime)
    before grown
  exact inv.1.lifecycle inv.2

instance (s : SocketServer) : Decidable s.Quiet :=
  inferInstanceAs (Decidable (∀ socket ∈ s.sockets, (∀ due ∈ socket.authTimer, s.now < due) ∧
    ∀ due ∈ socket.expiryTimer, s.now < due))

instance (s : SocketServer) : (e : SocketEvent) → Decidable (s.Prompt e)
  | .connection | .message _ _ | .close _ | .error _ | .broadcast _ _ =>
      inferInstanceAs (Decidable (s.setup = none → s.Quiet))
  | .verify | .readTabs _ | .sendSnapshot _ | .arm | .authTimeout _ | .expire _ | .advance _ =>
      .isTrue trivial

instance (s : SocketServer) (e : SocketEvent) : Decidable (s.SetUpInTime e) := by
  unfold SetUpInTime
  split <;> infer_instance

/-- A token that is valid for a second. -/
def shortToken (_ : String) (now : ℤ) : Option (AccessTokenPayload × ℤ) :=
  if now < 1000 then some (⟨"u", "user", .user, none⟩, 1000) else none

def authMessage (_ : String) : Option Json :=
  some (.obj [("type", .str "auth"), ("token", .str "t")])

/-- A client that authenticates; its timer is set after some time. -/
def signOn (ms : Nat) : List SocketEvent :=
  [.connection, .message 0 "", .verify, .readTabs (some []), .sendSnapshot (some .null),
    .advance ms, .arm]

theorem sessions_within_tokens_expiring :
    (run (step authMessage shortToken) { now := 0 } (signOn 10 ++ [.broadcast .null .everyone,
      .advance 990, .expire 0])).Lifecycle :=
  sessions_within_tokens authMessage shortToken 0 (by decide +kernel) (by decide +kernel) _
    (List.prefix_refl _)

/-- The token expires before the timer is set; the broadcast is sent all the same. -/
theorem sent_behind_expiry :
    Along (step authMessage shortToken) Prompt { now := 0 }
        (signOn 2000 ++ [.broadcast .null .everyone]) ∧
      ¬(run (step authMessage shortToken) { now := 0 }
        (signOn 2000 ++ [.broadcast .null .everyone])).Lifecycle := by
  refine ⟨by decide +kernel, fun lifecycle => ?_⟩
  obtain ⟨expiresAt, verified, early⟩ := lifecycle.sent
    [.verified 0 1000, .connect 0 "u" 1, .sent 0 (.obj [("type", .str "snapshot"),
      ("data", .null)]) 0] (.sent 0 .null 2000) [.broadcast "unknown" 1] rfl 0 .null 2000 rfl
  simp only [List.mem_cons, SocketFact.verified.injEq, reduceCtorEq, List.not_mem_nil, or_false,
    true_and] at verified
  omega

end SocketServer

end Aeolus.Websocket
