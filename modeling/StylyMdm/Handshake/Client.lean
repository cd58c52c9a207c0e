import StylyMdm.Handshake.Frames
import StylyMdm.Client.AttemptChain

/-!
# The client's side of a registration

What `WebSocketManager` does beside its connection window: it registers a socket when it has been
opened and whenever the identity of the device changes, notes what the server has acknowledged, and
lets the commands through that the registration allows. `executePowerControl` is the one command
that answers for the registration it came under.

Three kinds of threads share `ConnectionRegistration`. The main looper does one message at a time;
the reader of a socket takes one look at the registration at a time, so everything else may happen
between two of them (`Reader`); so does a thread that reboots the device or powers it off
(`PowerThread`). Where the looper lets go of a socket it gives up `webSocket` first, and whoever
looks at both looks at `webSocket` first, so the two are given up in one step here.

The connection window is the one of `Client.ConnectionScheduler`, executed as in
`Client.WebSocketManager`; here the executor also has the registration to clear when it lets go of a
socket. The resolver of the identity is the one of `Client.DeviceIdentity`. What it publishes is
posted to the looper like everything else.
-/

namespace StylyMdm.Handshake

open Text Py Client.Identity Client.Connection

/-! ### The registration of a socket -/

/-- How the server has acknowledged the registration. -/
inductive Acknowledgement
  | none
  | provisional
  | canonical
deriving DecidableEq, Repr

/-- The fields of `ConnectionRegistration`. -/
structure ConnectionRegistration (Token : Type*) where
  socket : Option Token := .none
  sent : Bool := false
  acknowledgement : Acknowledgement := .none
  provisionalConnectionId : Option Str := .none
deriving DecidableEq, Repr

namespace ConnectionRegistration

variable {Token : Type*} [DecidableEq Token] (r : ConnectionRegistration Token) (token : Token)

/-- `open`. -/
def opened (token : Token) : ConnectionRegistration Token := { socket := some token }

/-- `clear`. -/
def cleared : ConnectionRegistration Token := {}

/-- `markSent`; a token of another socket changes nothing. -/
def markSent : ConnectionRegistration Token :=
  if r.socket = some token then { r with sent := true } else r

/-- `clearSent`. -/
def clearSent : ConnectionRegistration Token :=
  if r.socket = some token then
    { r with sent := false, acknowledgement := .none, provisionalConnectionId := none }
  else r

/-- `isSent`. -/
def isSent : Bool := r.socket = some token && r.sent

/-- `acknowledge`, which does nothing to another socket or before the registration was sent. -/
def acknowledge : ConnectionRegistration Token :=
  if r.socket ≠ some token ∨ r.sent = false then r
  else { r with acknowledgement := .canonical, provisionalConnectionId := none }

/-- `String.isBlank`. -/
def isBlank (s : Str) : Bool := s.all isWhitespace

/-- `acknowledgeProvisional`: never back from a canonical acknowledgement. -/
def acknowledgeProvisional (connectionId : Str) : ConnectionRegistration Token :=
  if r.socket ≠ some token ∨ isBlank connectionId ∨ r.acknowledgement = .canonical then r
  else
    { r with acknowledgement := .provisional, provisionalConnectionId := some connectionId }

/-- `isAcknowledged`. -/
def isAcknowledged : Bool := r.socket = some token && r.acknowledgement ≠ .none

/-- `isProvisional`. -/
def isProvisional : Bool := r.socket = some token && r.acknowledgement = .provisional

/-- `provisionalConnectionId`. -/
def provisionalConnectionIdOf : Option Str :=
  if r.isProvisional token then r.provisionalConnectionId else none

end ConnectionRegistration

/-! ### Threads -/

/-- The socket a command came on, and the provisional connection it was for. -/
structure CommandContext where
  socket : Nat
  provisionalConnectionId : Option Str
deriving DecidableEq, Repr

/-- What a thread of `executePowerControl` does next. -/
inductive PowerStage
  /-- The first `sendPowerResult` looks at the context. -/
  | begun
  /-- It sends that the command was accepted. -/
  | accepting
  /-- `awaitOutboundFlush`. -/
  | flushing
  /-- The device has been told to do it. -/
  | invoked
  /-- The last `sendPowerResult` sends that the command has failed. -/
  | failing
deriving DecidableEq, Repr

/-- A thread that carries out a power command. -/
structure PowerThread where
  command : Command
  context : CommandContext
  stage : PowerStage
deriving DecidableEq, Repr

/-- What a reader does next with a frame: the tests of `onMessage` one by one. -/
inductive Reader
  | idle
  /-- The socket was the current one. -/
  | admitted (frame : Down)
  /-- `isAcknowledged` was true. -/
  | acknowledged (command : Command)
  /-- If the socket was provisional, the command was one it may have. -/
  | restricted (command : Command)
  /-- The socket was provisional again. -/
  | matching (command : Command)
  /-- All tests are over. -/
  | routing (command : Command)
  /-- `commandContext`, whose socket was acknowledged. -/
  | contexting (command : Command)
deriving DecidableEq, Repr

/-- A socket of some device. The client has those of its own. -/
inductive Socket
  | own (n : Nat)
  | other (n : Nat)
deriving DecidableEq, Repr

/-- What is recorded. An ignored command has the note whether its socket was the current one and
registered, with the connection intact. -/
inductive Record
  | ignored (socket : Nat) (command : Command) (current : Bool)
  | handled (socket : Nat) (command : Command)
  | invoked (socket : Nat) (command : Command)
  | forwarded (socket : Socket) (sender : Target) (result : Result)

/-! ### The client -/

/-- `posted` are the runnables of `identityListener`, in their order. -/
structure Client (Network : Type*) where
  resolver : DeviceIdentityResolver
  posted : List DeviceIdentityState
  manager : WebSocketManager Network
  socketOpen : Bool := false
  registration : ConnectionRegistration Nat := {}
  threads : List PowerThread := []

/-- A frame for one of the client's sockets. -/
abbrev Sent := Option (Nat × Up)

namespace Client

variable {Network : Type*}

/-- The client after `connect()`, which adds the listener. -/
def connect (resolver : DeviceIdentityResolver) (preferences : Preferences) : Client Network where
  resolver := resolver
  posted := [resolver.visibleState]
  manager := .connect preferences

variable (c : Client Network)

/-- A step of the resolver. The listener posts what it is told. -/
def resolve (event : DeviceIdentityResolver.Event) : Client Network :=
  { c with
    resolver := (c.resolver.step event).1
    posted := c.posted ++ (c.resolver.step event).2.toList }

/-- `sendRegistration`. The socket takes the frame or refuses it. -/
def sendRegistration (facts : Facts) (socket : Nat) (identity : DeviceIdentityState)
    (accepted : Bool) : Client Network × Sent :=
  if c.registration.isSent socket then (c, none)
  else
    let sent := if accepted then some (socket, Handshake.registration facts identity) else none
    -- a provisional registration is not marked, so another one may follow it
    match identity with
    | .ready _ =>
      let marked := c.registration.markSent socket
      ({ c with registration := if accepted then marked else marked.clearSent socket }, sent)
    | _ => (c, sent)

/-- What the listener has posted first. -/
def runPosted (facts : Facts) (accepted : Bool) : Client Network × Sent :=
  match c.posted with
  | [] => (c, none)
  | identity :: posted =>
    let c := { c with posted := posted }
    -- a socket that is not open yet is told when it is opened
    match c.manager.webSocket with
    | some current =>
      if c.manager.isRunning && c.socketOpen then
        c.sendRegistration facts current identity accepted
      else (c, none)
    | none => (c, none)

/-! ### The connection window -/

/-- `resetConnectionState`. -/
def resetConnectionState : Client Network :=
  { c with socketOpen := false, registration := .cleared }

/-- One round of the loop of `dispatch`. -/
def perform (later : Int) (c : Client Network) (action : Action) : Client Network :=
  let c := { c with manager := c.manager.perform later action }
  match action with
  | .cancelAttempt => c.resetConnectionState
  | _ => c

/-- The actions of a decision of the scheduler, in order. -/
def dispatch (later : Int) (decision : ConnectionScheduler × List Action) : Client Network :=
  decision.2.foldl (perform later) { c with manager := { c.manager with scheduler := decision.1 } }

variable [DecidableEq Network] (build : Build)

/-- A message of the looper: `WebSocketManager.handle`, with what becomes of the registration. -/
def handle (c : Client Network) (t : Turn Network) (facts : Facts) (accepted : Bool) :
    Client Network × Sent :=
  match t.message with
  | .networkAvailable network =>
    if !c.manager.isRunning then (c, none)
    else
      ({ c with manager := { c.manager with activeNetwork := some network } }.dispatch t.later
        (c.manager.scheduler.onNetworkAvailable t.values t.now), none)
  | .networkLost network =>
    if !c.manager.isRunning ∨ some network ≠ c.manager.activeNetwork then (c, none)
    else
      ({ c with manager := { c.manager with activeNetwork := none } }.dispatch t.later
        c.manager.scheduler.onNetworkLost, none)
  | .socketOpened socket =>
    if c.manager.webSocket ≠ some socket then (c, none)
    else
      let c := c.dispatch t.later c.manager.scheduler.onConnected
      let c := { c with socketOpen := true, registration := .opened socket }
      c.sendRegistration facts socket c.resolver.visibleState accepted
  | .socketGone socket =>
    if c.manager.webSocket ≠ some socket then (c, none)
    else
      ({ c with manager := { c.manager with webSocket := none } }.resetConnectionState.dispatch
        t.later (c.manager.scheduler.onSocketDisconnected t.values t.now), none)
  | .retryElapsed =>
    match c.manager.timers.next t.now with
    | some (.retryElapsed, timers) =>
      ({ c with manager := { c.manager with timers := timers } }.dispatch t.later
        c.manager.scheduler.onRetryElapsed, none)
    | _ => (c, none)
  | .windowExpired =>
    match c.manager.timers.next t.now with
    | some (.windowExpired window, timers) =>
      ({ c with
          manager :=
            { c.manager.mark (.expired window) with timers := timers } }.dispatch t.later
        c.manager.scheduler.onWindowExpired, none)
    | _ => (c, none)
  | .discoveryFinished _ _ => ({ c with manager := c.manager.handle build t }, none)
  | .preferencesChanged _ => ({ c with manager := c.manager.handle build t }, none)

/-- A turn of the looper. The clock does not go back. -/
def turn (t : Turn Network) (facts : Facts) (accepted : Bool) : Client Network × Sent :=
  if c.manager.uptime ≤ t.now ∧ t.now ≤ t.later then
    let handled := c.handle build t facts accepted
    ({ handled.1 with manager := { handled.1.manager with uptime := t.later } }, handled.2)
  else (c, none)

/-! ### The readers -/

omit [DecidableEq Network] in
/-- Is the socket the current one, and registered, with an intact connection? -/
def current (socket : Nat) (intact : Bool) : Bool :=
  c.manager.webSocket = some socket && c.registration.socket = some socket && intact

/-- A command goes to `onCommand`, which starts a thread for one to reboot or to power off. -/
def onCommand (command : Command) (context : Option CommandContext) : Client Network :=
  match context with
  | some context =>
    if command.type.isPower then { c with threads := c.threads ++ [⟨command, context, .begun⟩] }
    else c
  | none => c

/-- A step of `onMessage` after its first test. -/
def onMessage (socket : Nat) (intact : Bool) :
    Reader → Client Network × Reader × Option Record
  | .idle => (c, .idle, none)
  | .admitted .registered =>
    ({ c with registration := c.registration.acknowledge socket }, .idle, none)
  | .admitted (.registeredProvisional connectionId) =>
    ({ c with registration := c.registration.acknowledgeProvisional socket connectionId },
      .idle, none)
  | .admitted .error => (c, .idle, none)
  | .admitted (.command command) =>
    if c.registration.isAcknowledged socket then (c, .acknowledged command, none)
    else (c, .idle, some (.ignored socket command (c.current socket intact)))
  | .acknowledged command =>
    if c.registration.isProvisional socket ∧ command.type.isPower = false then
      (c, .idle, some (.ignored socket command (c.current socket intact)))
    else (c, .restricted command, none)
  | .restricted command =>
    if c.registration.isProvisional socket then (c, .matching command, none)
    else (c, .routing command, none)
  | .matching command =>
    if some (command.connectionId.getD []) ≠ c.registration.provisionalConnectionIdOf socket then
      (c, .idle, some (.ignored socket command (c.current socket intact)))
    else (c, .routing command, none)
  | .routing command =>
    -- a frame without a type is for nobody
    if command.type = .other [] then (c, .idle, none)
    else if command.type.isPush then (c, .idle, some (.handled socket command))
    else if c.registration.isAcknowledged socket then (c, .contexting command, none)
    else (c.onCommand command none, .idle, some (.handled socket command))
  | .contexting command =>
    (c.onCommand command (some ⟨socket, c.registration.provisionalConnectionIdOf socket⟩), .idle,
      some (.handled socket command))

/-! ### The threads of `executePowerControl` -/

/-- `CommandContext.isActive`. -/
def isActive (context : CommandContext) : Bool :=
  c.manager.webSocket = some context.socket && c.registration.isAcknowledged context.socket &&
    context.provisionalConnectionId = c.registration.provisionalConnectionIdOf context.socket

/-- `sendPowerResult`, when the context is active. -/
def powerResult (thread : PowerThread) : Nat × Up :=
  (thread.context.socket, .result
    { type := if thread.command.type = .reboot then .reboot else .powerOff
      connectionId := thread.context.provisionalConnectionId.map Value.str
      answers := some thread.command.target })

/-- A step of a thread: what becomes of it, what it sends and what it does. `fails` says that
something has failed, and `accepted` whether the socket takes a frame. -/
def powerStep (thread : PowerThread) (fails accepted : Bool) :
    Option PowerThread × Sent × Option Record :=
  match thread.stage with
  | .begun =>
    if c.isActive thread.context then
      (some { thread with stage := if fails then .failing else .accepting }, none, none)
    else (none, none, none)
  | .accepting =>
    if accepted then (some { thread with stage := .flushing }, some (powerResult thread), none)
    else (none, none, none)
  | .flushing =>
    -- the context is looked at again, as the socket may have been replaced while it was flushed
    if c.isActive thread.context then
      if fails then (some { thread with stage := .failing }, none, none)
      else
        (some { thread with stage := .invoked }, none,
          some (.invoked thread.context.socket thread.command))
    else (none, none, none)
  | .invoked =>
    if fails && c.isActive thread.context then
      (some { thread with stage := .failing }, none, none)
    else (none, none, none)
  | .failing => (none, if accepted then some (powerResult thread) else none, none)

/-- What becomes of a thread. -/
def setThread (i : Nat) : Option PowerThread → Client Network
  | some thread => { c with threads := c.threads.set i thread }
  | none => { c with threads := c.threads.eraseIdx i }

end Client

end StylyMdm.Handshake
