/-
# Aeolus.Mqtt.MqttConnection — who holds the connection to the broker

The part of `mqtt-service.ts` that connects: attempts, the retry timer, the close handler,
and the three calls that other code makes.  Every attempt makes a client of its own, and
what runs when one connects, fails, closes or ends goes by `this.client`, which may be a
later client, or none.

An attempt ends once, with `connect` or `error`, so a listener that `cleanup` takes from
another client than its own does not run again either.  Two close handlers on a client are
as one: after the first the state is no longer `connected`.
-/
import Mathlib.Algebra.Group.Nat.Defs
import Aeolus.Mqtt.MqttProvisioning

namespace Aeolus.Mqtt

open Aeolus.Theory

/-! ## State -/

inductive ConnectionState where
  | disconnected
  | connecting
  | connected
  | waiting_retry
  deriving DecidableEq, Repr

/-- What awaits an attempt: `connectWithRetry`, `reconnectWithCredentials`, or the timer. -/
inductive Waiter where
  | startup
  | reconnect
  | timer
  deriving DecidableEq, Repr

structure MqttClient where
  credentials : Option Credentials
  /-- while the attempt is in progress -/
  waiter : Option Waiter
  /-- the connection is there -/
  up : Bool := false
  closeHandler : Bool := false
  deriving DecidableEq, Repr

/-- Its attempt has ended, in a connection. -/
def MqttClient.opened (client : MqttClient) : MqttClient :=
  { client with waiter := none, up := true }

/-- An armed timer of the event loop. -/
structure RetryTimer where
  id : Nat
  delay : Nat
  deriving DecidableEq, Repr

/-- A `disconnect` that waits for `end`, and the credentials to reconnect with after it. -/
structure Ending where
  reconnect : Option (Option Credentials)
  deriving DecidableEq, Repr

inductive Request where
  | connectWithRetry
  | disconnect
  | reconnectWithCredentials (credentials : Option Credentials)
  deriving DecidableEq, Repr

/-- `clients` are all that were ever made, a client is named by its place there;
`client` is `this.client`, `armed` the timers of the event loop and `reconnectTimer` the one
that the service can clear. -/
structure MqttConnection where
  clients : List MqttClient := []
  client : Option Nat := none
  connectionState : ConnectionState := .disconnected
  reconnectAttempt : Nat := 0
  armed : List RetryTimer := []
  timersMade : Nat := 0
  reconnectTimer : Option Nat := none
  intentionalDisconnect : Bool := false
  credentials : Option Credentials := none
  endings : List Ending := []
  lastRequest : Option Request := none
  deriving DecidableEq, Repr

structure RetryConfig where
  baseRetryDelayMs : Nat := 1000
  maxBackoffMs : Nat := 30000

inductive ConnectionEvent where
  | requested (request : Request)
  /-- the attempt of this client ends -/
  | connect (client : Nat)
  | error (client : Nat)
  /-- the connection of this client is lost or closed -/
  | close (client : Nat)
  /-- the callback of `end` -/
  | ended (index : Nat)
  | timer (id : Nat)
  deriving DecidableEq, Repr

/-! ## Handlers -/

def computeRetryDelay (attempt baseDelayMs maxDelayMs : Nat) : Nat :=
  min (baseDelayMs * 2 ^ (attempt - 1)) maxDelayMs

namespace MqttConnection

def attemptConnection (waiter : Waiter) (s : MqttConnection) : MqttConnection :=
  { s with
    connectionState := .connecting
    clients := s.clients ++ [{ credentials := s.credentials, waiter := some waiter }]
    client := some s.clients.length }

def connect (waiter : Waiter) (s : MqttConnection) : MqttConnection :=
  attemptConnection waiter { s with intentionalDisconnect := false, reconnectAttempt := 0 }

def startReconnectionLoop (cfg : RetryConfig) (s : MqttConnection) : MqttConnection :=
  if s.intentionalDisconnect then s
  else
    let attempt := s.reconnectAttempt + 1
    let delay := computeRetryDelay attempt cfg.baseRetryDelayMs cfg.maxBackoffMs
    { s with
      reconnectAttempt := attempt
      connectionState := .waiting_retry
      armed := s.armed ++ [⟨s.timersMade, delay⟩]
      timersMade := s.timersMade + 1
      reconnectTimer := some s.timersMade }

def updateClient (s : MqttConnection) (id : Nat) (change : MqttClient → MqttClient) :
    MqttConnection :=
  { s with clients := s.clients.modify id change }

/-- The close handler goes to `this.client`. -/
def setupDisconnectHandler (s : MqttConnection) : MqttConnection :=
  match s.client with
  | none => s
  | some id => s.updateClient id fun client => { client with closeHandler := true }

/-- `id` is the client of the attempt. -/
def onConnect (id : Nat) (s : MqttConnection) : MqttConnection :=
  let s := s.updateClient id MqttClient.opened
  setupDisconnectHandler { s with reconnectAttempt := 0, connectionState := .connected }

/-- `this.client` is told to end and is forgotten, and what awaits the attempt goes on: the
rejection leaves `reconnectWithCredentials`, the others try again later. -/
def onError (cfg : RetryConfig) (id : Nat) (waiter : Waiter) (s : MqttConnection) :
    MqttConnection :=
  let s := s.updateClient id fun client => { client with waiter := none }
  let s := { s with client := none, connectionState := .disconnected }
  match waiter with
  | .reconnect => s
  | .startup => startReconnectionLoop cfg s
  | .timer => startReconnectionLoop cfg s

def onClose (cfg : RetryConfig) (id : Nat) (handled : Bool) (s : MqttConnection) :
    MqttConnection :=
  let s := s.updateClient id fun client => { client with up := false }
  if handled ∧ s.connectionState = .connected ∧ ¬s.intentionalDisconnect then
    startReconnectionLoop cfg { s with connectionState := .disconnected }
  else s

/-- The callback of the timer. -/
def onTimer (id : Nat) (s : MqttConnection) : MqttConnection :=
  let s := { s with armed := s.armed.filter (·.id ≠ id), reconnectTimer := none }
  if s.intentionalDisconnect then s else attemptConnection .timer s

/-- The callback of `end`, and what awaits `disconnect`. -/
def onEnd (ending : Ending) (s : MqttConnection) : MqttConnection :=
  let s := { s with client := none, connectionState := .disconnected }
  match ending.reconnect with
  | none => s
  | some credentials => connect .reconnect { s with credentials }

/-- `disconnect`, and what awaits it when there is no client to end. -/
def disconnect (ending : Ending) (s : MqttConnection) : MqttConnection :=
  let s := { s with
    intentionalDisconnect := true
    armed := s.armed.filter fun timer => s.reconnectTimer ≠ some timer.id
    reconnectTimer := none }
  match s.client with
  | none => onEnd ending s
  | some _ => { s with endings := s.endings ++ [ending] }

def request (s : MqttConnection) : Request → MqttConnection
  | .connectWithRetry => connect .startup { s with lastRequest := some .connectWithRetry }
  | .disconnect => disconnect ⟨none⟩ { s with lastRequest := some .disconnect }
  | .reconnectWithCredentials credentials =>
      disconnect ⟨some credentials⟩
        { s with lastRequest := some (.reconnectWithCredentials credentials) }

/-- What awaits this client. -/
def waiterOf (s : MqttConnection) (id : Nat) : Option Waiter :=
  s.clients[id]?.bind (·.waiter)

/-- An event that nothing waits for changes nothing. -/
def step (cfg : RetryConfig) (s : MqttConnection) : ConnectionEvent → MqttConnection
  | .requested request => s.request request
  | .connect id => if (s.waiterOf id).isSome then s.onConnect id else s
  | .error id =>
      match s.waiterOf id with
      | some waiter => s.onError cfg id waiter
      | none => s
  | .close id =>
      match s.clients[id]? with
      | some client => s.onClose cfg id client.closeHandler
      | none => s
  | .ended index =>
      match s.endings[index]? with
      | some ending => onEnd ending { s with endings := s.endings.eraseIdx index }
      | none => s
  | .timer id => if s.armed.any (·.id = id) then s.onTimer id else s

/-! ## What holds the connection -/

/-- The service says so and its own client has a connection. -/
def IsConnected (s : MqttConnection) : Prop :=
  s.connectionState = .connected ∧ ∃ id client, s.client = some id ∧
    s.clients[id]? = some client ∧ client.up = true

def Attempting (s : MqttConnection) : Prop := ∃ id, (s.waiterOf id).isSome = true

/-- A call has not returned: it awaits `end`, or an attempt of its own. -/
def InCall (s : MqttConnection) : Prop :=
  s.endings ≠ [] ∨ ∃ id, s.waiterOf id = some .startup ∨ s.waiterOf id = some .reconnect

/-- No call is in progress and the last was not `disconnect`, yet nothing holds the connection
and nothing will bring it back. -/
def Stranded (s : MqttConnection) : Prop :=
  ¬s.InCall ∧ s.lastRequest ≠ none ∧ s.lastRequest ≠ some .disconnect ∧
    ¬(s.IsConnected ∨ s.Attempting ∨ s.armed ≠ [])

/-! ## When the connection is kept -/

/-- A `reconnectWithCredentials` waits for its `disconnect`; it connects after that. -/
def Reconnecting (s : MqttConnection) : Prop := ∃ ending ∈ s.endings, ending.reconnect.isSome = true

/-- The connection is sought by other means: a timer is armed, an attempt of another client goes
on, or another `disconnect` is awaited. -/
def Backed (s : MqttConnection) (but : Option Nat) (endings : List Ending) : Prop :=
  s.armed ≠ [] ∨ endings ≠ [] ∨ ∃ id, some id ≠ but ∧ (s.waiterOf id).isSome = true

/-- The steps that lose the connection unless it is sought by other means, or unwanted.

* The attempt of a `reconnectWithCredentials` fails: it is not tried again;
* an attempt connects when the service has dropped its client: nobody listens to it;
* a `disconnect` comes to its end after a later request: it drops the client of that one. -/
def Safe (s : MqttConnection) (event : ConnectionEvent) : Prop :=
  s.lastRequest ≠ some .disconnect →
    match event with
    | .error id => s.waiterOf id = some .reconnect → s.Backed (some id) s.endings
    | .connect id =>
        s.client = none → (s.waiterOf id).isSome = true → s.Backed (some id) s.endings
    | .ended index =>
        s.endings[index]? = some ⟨none⟩ → s.Backed none (s.endings.eraseIdx index)
    | _ => True

/-- `this.client` is connecting, or connected and listened to; there is none while an attempt
of another client goes on. -/
def Holds (s : MqttConnection) : Prop :=
  match s.client with
  | some id => (s.waiterOf id).isSome = true ∨ s.connectionState = .connected ∧
      ∃ client, s.clients[id]? = some client ∧ client.up = true ∧ client.closeHandler = true
  | none => s.Attempting

structure Inv (s : MqttConnection) : Prop where
  fresh : s.lastRequest = none → s.clients = [] ∧ s.endings = [] ∧ s.armed = []
  intended : s.intentionalDisconnect = true →
    s.lastRequest = some .disconnect ∨ s.Reconnecting
  kept : s.lastRequest ≠ none → s.lastRequest ≠ some .disconnect →
    s.armed ≠ [] ∨ s.endings ≠ [] ∨ s.Holds

/-! ## What one step keeps -/

section Step

variable {s : MqttConnection} {cfg : RetryConfig}

theorem waiterOf_attemptConnection (waiter : Waiter) (id : Nat) :
    (s.attemptConnection waiter).waiterOf id =
      if id = s.clients.length then some waiter else s.waiterOf id := by
  unfold waiterOf attemptConnection
  by_cases last : id = s.clients.length
  · simp [last]
  · rw [if_neg last]
    rcases Nat.lt_or_ge id s.clients.length with before | after
    · rw [List.getElem?_append_left before]
    · have beyond : s.clients.length < id := by omega
      simp [List.getElem?_append_right after, Nat.sub_ne_zero_of_lt beyond, after]

theorem holds_none (current : s.client = none) : s.Holds ↔ s.Attempting := by
  unfold Holds
  rw [current]

theorem holds_some {id : Nat} (current : s.client = some id) :
    s.Holds ↔ (s.waiterOf id).isSome = true ∨ s.connectionState = .connected ∧
      ∃ client, s.clients[id]? = some client ∧ client.up = true ∧ client.closeHandler = true := by
  unfold Holds
  rw [current]

/-- A new client is connecting. -/
theorem holds_attemptConnection (waiter : Waiter) : (s.attemptConnection waiter).Holds := by
  refine Or.inl ?_
  rw [waiterOf_attemptConnection, if_pos rfl]
  rfl

theorem waiterOf_updateClient (id other : Nat) (change : MqttClient → MqttClient) :
    (s.updateClient id change).waiterOf other =
      if other = id then s.clients[id]?.bind fun client => (change client).waiter
      else s.waiterOf other := by
  unfold waiterOf updateClient
  rw [List.getElem?_modify]
  by_cases same : id = other
  · subst same
    cases s.clients[id]? <;> simp
  · simp [same, Ne.symm same]

/-- A change that leaves the attempt alone. -/
theorem waiterOf_updateClient_same (id other : Nat) {change : MqttClient → MqttClient}
    (same : ∀ client, (change client).waiter = client.waiter) :
    (s.updateClient id change).waiterOf other = s.waiterOf other := by
  rw [waiterOf_updateClient]
  split
  · rename_i here
    simp [waiterOf, here, same]
  · rfl

theorem Reconnecting.endings (reconnecting : s.Reconnecting) : s.endings ≠ [] :=
  List.ne_nil_of_mem reconnecting.choose_spec.1

theorem Inv.asked (inv : s.Inv) (there : s.clients ≠ [] ∨ s.endings ≠ [] ∨ s.armed ≠ []) :
    s.lastRequest ≠ none := by
  intro unasked
  obtain ⟨clients, endings, armed⟩ := inv.fresh unasked
  exact there.elim (· clients) fun rest => rest.elim (· endings) (· armed)

theorem clients_of_waits {id : Nat} (waits : (s.waiterOf id).isSome = true) : s.clients ≠ [] := by
  intro none
  rw [waiterOf, none] at waits
  cases waits

/-- What the loop leaves is kept: it is armed, or another call is on its way. -/
theorem inv_startReconnectionLoop (asked : s.lastRequest ≠ none)
    (intended : s.intentionalDisconnect = true →
      s.lastRequest = some .disconnect ∨ s.Reconnecting) :
    (startReconnectionLoop cfg s).Inv := by
  unfold startReconnectionLoop
  split
  · rename_i intentional
    refine ⟨fun unasked => absurd unasked asked, intended, fun _ wanted => ?_⟩
    exact Or.inr (Or.inl ((intended intentional).resolve_left wanted).endings)
  · exact ⟨fun unasked => absurd unasked asked, intended, fun _ _ => Or.inl (by simp)⟩

theorem inv_requested (request : Request) : (s.request request).Inv := by
  have connected {s : MqttConnection} (waiter : Waiter) (asked : s.lastRequest ≠ none) :
      (connect waiter s).Inv :=
    ⟨fun unasked => absurd unasked asked, nofun,
      fun _ _ => Or.inr (Or.inr (holds_attemptConnection waiter))⟩
  cases request with
  | connectWithRetry => exact connected .startup nofun
  | disconnect =>
      simp only [MqttConnection.request, disconnect, onEnd]
      split <;> exact ⟨nofun, fun _ => Or.inl rfl, fun _ wanted => absurd rfl wanted⟩
  | reconnectWithCredentials credentials =>
      simp only [MqttConnection.request, disconnect, onEnd]
      split
      · exact connected .reconnect nofun
      · have waits : Reconnecting { s with endings := s.endings ++ [⟨some credentials⟩] } :=
          ⟨_, List.mem_append_right _ (List.mem_singleton_self _), rfl⟩
        exact ⟨nofun, fun _ => Or.inr waits, fun _ _ => Or.inr (Or.inl waits.endings)⟩

/-- The other attempts go on. -/
theorem Backed.without {s' : MqttConnection} {id : Nat} (backed : s.Backed (some id) s.endings)
    (others : ∀ other, other ≠ id → s'.waiterOf other = s.waiterOf other) :
    s.armed ≠ [] ∨ s.endings ≠ [] ∨ s'.Attempting := by
  refine backed.imp_right (Or.imp_right ?_)
  rintro ⟨other, apart, waits⟩
  refine ⟨other, ?_⟩
  rw [others other fun same => apart (congrArg some same)]
  exact waits

theorem clients_updateClient (id other : Nat) (change : MqttClient → MqttClient) :
    (s.updateClient id change).clients[other]? =
      if other = id then s.clients[id]?.map change else s.clients[other]? := by
  unfold updateClient
  rw [List.getElem?_modify]
  by_cases same : id = other
  · subst same
    simp
  · simp [same, Ne.symm same]

theorem holds_setup_none (current : s.client = none) :
    (setupDisconnectHandler s).Holds ↔ s.Attempting := by
  unfold setupDisconnectHandler
  rw [current]
  exact holds_none current

/-- Once it is listened to, a connected client holds. -/
theorem holds_setupDisconnectHandler {held : Nat} (current : s.client = some held)
    (connected : s.connectionState = .connected)
    (there : (s.waiterOf held).isSome = true ∨
      ∃ client, s.clients[held]? = some client ∧ client.up = true) :
    (setupDisconnectHandler s).Holds := by
  have listened : setupDisconnectHandler s =
      s.updateClient held fun client => { client with closeHandler := true } := by
    simp only [setupDisconnectHandler, current]
  rw [listened, holds_some (by exact current)]
  rcases there with waits | ⟨client, found, up⟩
  · refine Or.inl ?_
    refine (congrArg Option.isSome (waiterOf_updateClient_same held held ?_)).trans waits
    exact fun _ => rfl
  · refine Or.inr ⟨connected, { client with closeHandler := true }, ?_, up, rfl⟩
    rw [clients_updateClient, if_pos rfl, found]
    rfl

theorem inv_setupDisconnectHandler (asked : s.lastRequest ≠ none)
    (intended : s.intentionalDisconnect = true →
      s.lastRequest = some .disconnect ∨ s.Reconnecting)
    (kept : s.lastRequest ≠ some .disconnect →
      s.armed ≠ [] ∨ s.endings ≠ [] ∨ (setupDisconnectHandler s).Holds) :
    (setupDisconnectHandler s).Inv := by
  unfold setupDisconnectHandler at kept ⊢
  split <;> rename_i current <;> simp only [current] at kept <;>
    exact ⟨fun unasked => absurd unasked asked, intended, fun _ => kept⟩

theorem inv_connect {id : Nat} (inv : s.Inv) (safe : s.Safe (.connect id))
    (waits : (s.waiterOf id).isSome = true) : (s.onConnect id).Inv := by
  have others : ∀ other, other ≠ id →
      (s.updateClient id MqttClient.opened).waiterOf other =
        s.waiterOf other := fun other apart => by
    rw [waiterOf_updateClient, if_neg apart]
  have asked := inv.asked (Or.inl (clients_of_waits waits))
  refine inv_setupDisconnectHandler asked inv.intended fun wanted => ?_
  cases current : s.client with
  | none =>
      have kept := (safe wanted current waits).without others
      refine kept.imp_right (Or.imp_right fun attempting => ?_)
      exact (holds_setup_none (by exact current)).mpr attempting
  | some held =>
      rcases inv.kept asked wanted with timers | waiting | holds
      · exact Or.inl timers
      · exact Or.inr (Or.inl waiting)
      refine Or.inr (Or.inr (holds_setupDisconnectHandler (by exact current) rfl ?_))
      by_cases own : held = id
      · subst own
        obtain ⟨waiter, waiting⟩ := Option.isSome_iff_exists.mp waits
        obtain ⟨client, found, -⟩ := Option.bind_eq_some_iff.mp waiting
        refine Or.inr ⟨client.opened, ?_, rfl⟩
        refine (clients_updateClient held held _).trans ?_
        rw [if_pos rfl, found]
        rfl
      · rcases (holds_some current).mp holds with waiting | ⟨-, client, found, up, -⟩
        · exact Or.inl ((others held own).symm ▸ waiting)
        · refine Or.inr ⟨client, ?_, up⟩
          exact (clients_updateClient id held _).trans ((if_neg own).trans found)

theorem inv_error {id : Nat} {waiter : Waiter} (inv : s.Inv) (safe : s.Safe (.error id))
    (waits : s.waiterOf id = some waiter) : (s.onError cfg id waiter).Inv := by
  have asked := inv.asked (Or.inl (clients_of_waits (Option.isSome_of_eq_some waits)))
  cases waiter with
  | startup => exact inv_startReconnectionLoop asked inv.intended
  | timer => exact inv_startReconnectionLoop asked inv.intended
  | reconnect =>
      refine ⟨fun unasked => absurd unasked asked, inv.intended, fun _ wanted => ?_⟩
      refine (safe wanted waits).without fun other apart => ?_
      exact (waiterOf_updateClient id other _).trans (if_neg apart)

theorem inv_close {id : Nat} {client : MqttClient} (inv : s.Inv)
    (found : s.clients[id]? = some client) : (s.onClose cfg id client.closeHandler).Inv := by
  have asked := inv.asked (Or.inl fun none => by rw [none] at found; cases found)
  simp only [onClose]
  split
  · exact inv_startReconnectionLoop asked inv.intended
  · rename_i quiet
    refine ⟨fun unasked => absurd unasked asked, inv.intended, fun _ wanted => ?_⟩
    rcases inv.kept asked wanted with timers | waiting | holds
    · exact Or.inl timers
    · exact Or.inr (Or.inl waiting)
    have waits (other : Nat) :
        (s.updateClient id fun client => { client with up := false }).waiterOf other =
          s.waiterOf other :=
      waiterOf_updateClient_same id other fun _ => rfl
    cases current : s.client with
    | none =>
        obtain ⟨other, waiting⟩ := (holds_none current).mp holds
        refine Or.inr (Or.inr ((holds_none (by exact current)).mpr ⟨other, ?_⟩))
        exact (waits other).symm ▸ waiting
    | some held =>
        refine Or.inr ?_
        rcases (holds_some current).mp holds with waiting | ⟨connected, live, there, up, listened⟩
        · exact Or.inr ((holds_some (by exact current)).mpr (Or.inl ((waits held).symm ▸ waiting)))
        by_cases own : held = id
        · -- the handler was there and did nothing, so it is not wanted, or a call is on its way
          subst own
          cases found.symm.trans there
          have intentional : s.intentionalDisconnect = true := by
            by_contra unintended
            exact quiet ⟨listened, connected, unintended⟩
          exact Or.inl ((inv.intended intentional).resolve_left wanted).endings
        · refine Or.inr ((holds_some (by exact current)).mpr (Or.inr ⟨connected, live, ?_, up, listened⟩))
          exact (clients_updateClient id held _).trans ((if_neg own).trans there)

theorem inv_ended {index : Nat} {ending : Ending} (inv : s.Inv) (safe : s.Safe (.ended index))
    (found : s.endings[index]? = some ending) :
    (onEnd ending { s with endings := s.endings.eraseIdx index }).Inv := by
  have asked := inv.asked (Or.inr (Or.inl fun none => by rw [none] at found; cases found))
  obtain ⟨reconnect⟩ := ending
  cases reconnect with
  | some credentials =>
      exact ⟨fun unasked => absurd unasked asked, nofun,
        fun _ _ => Or.inr (Or.inr (holds_attemptConnection .reconnect))⟩
  | none =>
      have others (reconnecting : s.Reconnecting) :
          Reconnecting { s with endings := s.endings.eraseIdx index } := by
        obtain ⟨other, member, reconnects⟩ := reconnecting
        refine ⟨other, List.mem_eraseIdx_iff_getElem?.mpr ?_, reconnects⟩
        obtain ⟨place, there⟩ := List.mem_iff_getElem?.mp member
        refine ⟨place, ?_, there⟩
        rintro rfl
        cases found.symm.trans there
        cases reconnects
      refine ⟨fun unasked => absurd unasked asked,
        fun intentional => (inv.intended intentional).imp_right others, fun _ wanted => ?_⟩
      refine (safe wanted found).imp_right (Or.imp_right ?_)
      rintro ⟨id, -, waits⟩
      exact ⟨id, waits⟩

theorem inv_timer {id : Nat} (inv : s.Inv) (armed : s.armed.any (·.id = id) = true) :
    (s.onTimer id).Inv := by
  have asked := inv.asked (Or.inr (Or.inr fun none => by rw [none] at armed; cases armed))
  simp only [onTimer]
  split
  · rename_i intentional
    refine ⟨fun unasked => absurd unasked asked, inv.intended, fun _ wanted => ?_⟩
    exact Or.inr (Or.inl ((inv.intended intentional).resolve_left wanted).endings)
  · rename_i unintended
    refine ⟨fun unasked => absurd unasked asked, fun intentional => absurd intentional unintended,
      fun _ _ => ?_⟩
    exact Or.inr (Or.inr (holds_attemptConnection .timer))

theorem step_inv (event : ConnectionEvent) (inv : s.Inv) (safe : s.Safe event) :
    (s.step cfg event).Inv := by
  cases event with
  | requested request => exact inv_requested request
  | connect id =>
      simp only [step]
      split
      · rename_i waits
        exact inv_connect inv safe waits
      · exact inv
  | error id =>
      simp only [step]
      split
      · rename_i waiter waits
        exact inv_error inv safe waits
      · exact inv
  | close id =>
      simp only [step]
      split
      · rename_i client found
        exact inv_close inv found
      · exact inv
  | ended index =>
      simp only [step]
      split
      · rename_i ending found
        exact inv_ended inv safe found
      · exact inv
  | timer id =>
      simp only [step]
      split
      · rename_i armed
        exact inv_timer inv armed
      · exact inv

/-- With no call in progress, what is kept is a connection, an attempt or a timer. -/
theorem Inv.not_stranded (inv : s.Inv) : ¬s.Stranded := by
  rintro ⟨idle, asked, wanted, lost⟩
  rcases inv.kept asked wanted with timers | waiting | holds
  · exact lost (Or.inr (Or.inr timers))
  · exact idle (Or.inl waiting)
  · cases current : s.client with
    | none => exact lost (Or.inr (Or.inl ((holds_none current).mp holds)))
    | some held =>
        rcases (holds_some current).mp holds with waits | ⟨connected, client, found, up, -⟩
        · exact lost (Or.inr (Or.inl ⟨held, waits⟩))
        · exact lost (Or.inl ⟨connected, held, client, current, found, up⟩)

/-- With nothing left, the service is stranded. -/
theorem stranded_of {s' : MqttConnection} (asked : s'.lastRequest ≠ none)
    (wanted : s'.lastRequest ≠ some .disconnect) (current : s'.client = none)
    (armed : s'.armed = []) (endings : s'.endings = [])
    (alone : ∀ id, (s'.waiterOf id).isSome ≠ true) : s'.Stranded := by
  refine ⟨?_, asked, wanted, ?_⟩
  · rintro (waiting | ⟨id, waits | waits⟩)
    · exact waiting endings
    · exact alone id (Option.isSome_of_eq_some waits)
    · exact alone id (Option.isSome_of_eq_some waits)
  · rintro (⟨-, id, client, there, -⟩ | ⟨id, waits⟩ | timers)
    · cases current.symm.trans there
    · exact alone id waits
    · exact timers armed

theorem not_backed {but : Option Nat} {endings : List Ending} (lost : ¬s.Backed but endings) :
    s.armed = [] ∧ endings = [] ∧ ∀ id, some id ≠ but → (s.waiterOf id).isSome ≠ true := by
  unfold Backed at lost
  push Not at lost
  exact lost

/-- A step that is not safe loses the connection. -/
theorem unsafe_stranded (event : ConnectionEvent) (inv : s.Inv) (lost : ¬s.Safe event) :
    (s.step cfg event).Stranded := by
  unfold Safe at lost
  push Not at lost
  obtain ⟨wanted, lost⟩ := lost
  have alone {id : Nat} (change : MqttClient → MqttClient)
      (settled : ∀ client, (change client).waiter = none)
      (others : ∀ other, some other ≠ some id → (s.waiterOf other).isSome ≠ true) (other : Nat) :
      ((s.updateClient id change).waiterOf other).isSome ≠ true := by
    rw [waiterOf_updateClient]
    split
    · cases s.clients[id]? <;> simp [settled]
    · rename_i apart
      exact others other fun same => apart (Option.some.inj same)
  cases event with
  | requested request => exact absurd trivial lost
  | close id => exact absurd trivial lost
  | timer id => exact absurd trivial lost
  | error id =>
      obtain ⟨waits, left⟩ := Classical.not_imp.mp lost
      obtain ⟨armed, endings, others⟩ := not_backed left
      have asked := inv.asked (Or.inl (clients_of_waits (Option.isSome_of_eq_some waits)))
      simp only [step, waits]
      exact stranded_of asked wanted rfl armed endings (alone _ (fun _ => rfl) others)
  | connect id =>
      obtain ⟨current, rest⟩ := Classical.not_imp.mp lost
      obtain ⟨waits, left⟩ := Classical.not_imp.mp rest
      obtain ⟨armed, endings, others⟩ := not_backed left
      have asked := inv.asked (Or.inl (clients_of_waits waits))
      simp only [step, waits, if_true, onConnect, setupDisconnectHandler, updateClient, current]
      exact stranded_of asked wanted rfl armed endings
        (alone MqttClient.opened (fun _ => rfl) others)
  | ended index =>
      obtain ⟨found, left⟩ := Classical.not_imp.mp lost
      obtain ⟨armed, endings, others⟩ := not_backed left
      have asked := inv.asked (Or.inr (Or.inl fun none => by rw [none] at found; cases found))
      simp only [step, found]
      exact stranded_of asked wanted rfl armed endings fun id => others id nofun

end Step

/-! ## Every run -/

theorem inv_initial : Inv {} := ⟨fun _ => ⟨rfl, rfl, rfl⟩, nofun, fun asked => absurd rfl asked⟩

/-- **Whenever its calls have returned and the last was not `disconnect`, the service is
connected, connecting or about to connect: in every run none of whose steps loses the
connection, and in no other.** -/
theorem never_stranded_iff (cfg : RetryConfig) (events : List ConnectionEvent) :
    (∀ before, before <+: events → ¬(run (step cfg) {} before).Stranded) ↔
      Along (step cfg) Safe {} events :=
  never_iff_along (fun _ event inv safe => step_inv event inv safe)
    (fun _ event inv lost => unsafe_stranded event inv lost) (fun _ inv => inv.not_stranded)
    inv_initial events

/-- New credentials that the broker refuses: nothing tries again. -/
theorem refused_reconnect_strands :
    ¬∀ (cfg : RetryConfig) (events : List ConnectionEvent),
      ¬(run (step cfg) {} events).Stranded := by
  intro never
  refine never {} [.requested (.reconnectWithCredentials none), .error 0]
    (stranded_of nofun nofun rfl rfl rfl fun id => ?_)
  cases id with
  | zero => exact nofun
  | succ id => simp [waiterOf, run, step, request, disconnect, onEnd, connect, attemptConnection,
      onError, updateClient]

/-- A `disconnect` that ends late drops the client of the call after it. -/
example : (run (step {}) {}
    [.requested .connectWithRetry, .connect 0, .requested .disconnect,
      .requested .connectWithRetry, .connect 1, .ended 0]).Stranded := by
  refine stranded_of nofun nofun rfl rfl rfl fun id => ?_
  match id with
  | 0 => exact nofun
  | 1 => exact nofun
  | id + 2 => simp [waiterOf, run, step, request, disconnect, onEnd, connect, attemptConnection,
      onConnect, setupDisconnectHandler, updateClient]

end MqttConnection

end Aeolus.Mqtt
