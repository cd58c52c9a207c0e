import StylyMdm.Library.Looper
import StylyMdm.Client.ConnectionScheduler

/-!
# The executor of the connection window

The part of `WebSocketManager` that carries out what `ConnectionScheduler` decides. All of it runs
on the main looper, so a run is a sequence of turns, in each of which the looper handles one
message: a callback of the connectivity manager, what a socket or a discovery thread has posted, or
a timer. A socket can post at any time after it was made, a discovery thread once.

`attemptGeneration` is an `Int`, so it comes back to the same number after `2 ^ 32` increments.

What an attempt does depends on the target of its window: a manual address is connected to at once,
without one a discovery thread is started, and what it finds is connected to. Sockets are recognised
by their identity, threads by the generation they were started in. A turn also carries two readings
of the clock and the values of the configuration, which may be others each time.

The `History` beside the manager is not read by the program. It numbers what was made and requested,
so that statements about runs can tell one socket or thread from another.
-/

namespace StylyMdm.Client.Connection

/-- The preferences with the URL of the last server that was found and with that of the manual
mode, as `getManualServerUrl` returns it. -/
structure Preferences where
  serverUrl : Option String
  manualServerUrl : Option String

/-- What OkHttp takes as the URL of a WebSocket, and the URL the build falls back to. -/
structure Build where
  isValidWsUrl : String → Bool
  defaultServerUrl : String

/-- `getCachedServerUrl`: the saved address when it is valid, else the default one. -/
def Build.getCachedServerUrl (build : Build) (preferences : Preferences) : String :=
  (preferences.serverUrl.filter build.isValidWsUrl).getD build.defaultServerUrl

/-- The delayed messages with `reconnectToken`. No function reads the number of the window. -/
inductive Timer
  | retryElapsed
  | windowExpired (window : Nat)
deriving DecidableEq

/-- A thread of `startAutoDiscoveryAttempt` that has not posted its result. No function reads
`cancelled`, and `serial` only says which thread it is. -/
structure Discovery where
  generation : BitVec 32
  serial : Nat
  cancelled : Bool

/-- What the windows are about, with the number of the window that was opened last, or of that
whose timer has fired. -/
inductive Mark
  | attempt (window : Nat)
  | socket (window : Nat)
  | expired (window : Nat)

/-- What has happened so far, the last mark first. No function reads it, except for the numbers it
gives to windows and threads. -/
structure History where
  increments : Nat := 0
  windows : Nat := 0
  cancelled : List Nat := []
  marks : List Mark := []

/-- The socket with the number `n` is the one that was made for the `n`-th of the `requests`. -/
structure WebSocketManager (Network : Type*) where
  isRunning : Bool := false
  scheduler : ConnectionScheduler := {}
  target : Target := .autoDiscovery
  webSocket : Option Nat := none
  attemptGeneration : BitVec 32 := 0
  activeNetwork : Option Network := none
  timers : Looper.Queue Timer := .empty
  discoveries : List Discovery := []
  requests : List String := []
  preferences : Preferences
  uptime : Int := 0
  history : History := {}

/-- The messages of the main looper, and a change of the preferences. -/
inductive Message (Network : Type*)
  | networkAvailable (network : Network)
  | networkLost (network : Network)
  | socketOpened (socket : Nat)
  | socketGone (socket : Nat)
  | retryElapsed
  | windowExpired
  | discoveryFinished (serial : Nat) (discovered : Option String)
  | preferencesChanged (preferences : Preferences)

/-- One turn of the looper: `now` is the time that the scheduler gets, `later` that of the posting
of a timer, and `values` what the configuration file says. -/
structure Turn (Network : Type*) where
  message : Message Network
  now : Int
  later : Int
  values : Values := {}

namespace WebSocketManager

variable {Network : Type*}

/-- The manager after `connect()`. -/
def connect (preferences : Preferences) : WebSocketManager Network where
  isRunning := true
  preferences := preferences

section Operations

variable (build : Build) (m : WebSocketManager Network)

/-- A mark of the history. -/
def mark (mark : Mark) : WebSocketManager Network :=
  { m with history := { m.history with marks := mark :: m.history.marks } }

/-- `doConnect`: a new socket, unless the manager has stopped. -/
def doConnect (url : String) : WebSocketManager Network :=
  if !m.isRunning then m
  else
    { m.mark (.socket m.history.windows) with
      webSocket := some m.requests.length
      requests := m.requests ++ [url] }

/-- `startAutoDiscoveryAttempt`: a discovery of a new generation. -/
def startAutoDiscoveryAttempt : WebSocketManager Network :=
  { m with
    attemptGeneration := m.attemptGeneration + 1
    discoveries := m.discoveries ++
      [⟨m.attemptGeneration + 1, m.history.increments + 1, false⟩]
    history := { m.history with increments := m.history.increments + 1 } }

/-- What the thread posts. -/
def onDiscovered (generation : BitVec 32) (discovered : Option String) :
    WebSocketManager Network :=
  if !m.isRunning ∨ generation ≠ m.attemptGeneration ∨ m.scheduler.state ≠ .windowOpen then m
  else
    match discovered.filter build.isValidWsUrl with
    | some url =>
      { m with preferences := { m.preferences with serverUrl := some url } }.doConnect url
    | none => m.doConnect (build.getCachedServerUrl m.preferences)

/-- `startAttempt`: by the address, or by discovery. -/
def startAttempt : WebSocketManager Network :=
  match m.target with
  | .manual url => (m.mark (.attempt m.history.windows)).doConnect url
  | .autoDiscovery => (m.mark (.attempt m.history.windows)).startAutoDiscoveryAttempt

/-- `cancelAttempt`: the generation moves on, so what is in progress no longer counts. -/
def cancelAttempt : WebSocketManager Network :=
  { m with
    attemptGeneration := m.attemptGeneration + 1
    webSocket := none
    discoveries := m.discoveries.map fun d => { d with cancelled := true }
    history :=
      { m.history with
        increments := m.history.increments + 1
        cancelled := m.history.cancelled ++ m.webSocket.toList } }

/-- One round of the loop of `dispatch`. -/
def perform (later : Int) (m : WebSocketManager Network) : Action → WebSocketManager Network
  | .windowOpened => { m with target := .onWindowOpened m.preferences.manualServerUrl }
  | .startAttempt => m.startAttempt
  | .scheduleRetry delayMs =>
    { m with timers := m.timers.post (long (later + delayMs)) .retryElapsed }
  | .scheduleWindowExpiry delayMs =>
    { m with
      timers := m.timers.post (long (later + delayMs)) (.windowExpired (m.history.windows + 1))
      history := { m.history with windows := m.history.windows + 1 } }
  | .cancelTimers => { m with timers := .empty }
  | .cancelAttempt => m.cancelAttempt
  | .enterSilence => m

/-- The call of the scheduler has changed it before its actions are carried out. -/
def dispatch (later : Int) (decision : ConnectionScheduler × List Action) :
    WebSocketManager Network :=
  decision.2.foldl (perform later) { m with scheduler := decision.1 }

end Operations

variable [DecidableEq Network] (build : Build)

/-- A message that is not in the queue, or not its first one, or not due, is not handled. -/
def handle (m : WebSocketManager Network) (t : Turn Network) : WebSocketManager Network :=
  match t.message with
  | .networkAvailable network =>
    if !m.isRunning then m
    else
      { m with activeNetwork := some network }.dispatch t.later
        (m.scheduler.onNetworkAvailable t.values t.now)
  | .networkLost network =>
    if !m.isRunning ∨ some network ≠ m.activeNetwork then m
    else { m with activeNetwork := none }.dispatch t.later m.scheduler.onNetworkLost
  | .socketOpened socket =>
    if m.webSocket ≠ some socket then m else m.dispatch t.later m.scheduler.onConnected
  | .socketGone socket =>
    if m.webSocket ≠ some socket then m
    else
      { m with webSocket := none }.dispatch t.later
        (m.scheduler.onSocketDisconnected t.values t.now)
  | .retryElapsed =>
    match m.timers.next t.now with
    | some (.retryElapsed, timers) =>
      { m with timers := timers }.dispatch t.later m.scheduler.onRetryElapsed
    | _ => m
  | .windowExpired =>
    match m.timers.next t.now with
    | some (.windowExpired window, timers) =>
      { m.mark (.expired window) with timers := timers }.dispatch t.later
        m.scheduler.onWindowExpired
    | _ => m
  | .discoveryFinished serial discovered =>
    match m.discoveries.find? fun d => d.serial = serial with
    | some d =>
      { m with discoveries := m.discoveries.filter fun d => d.serial ≠ serial }.onDiscovered
        build d.generation discovered
    | none => m
  | .preferencesChanged preferences => { m with preferences := preferences }

/-- A turn of the looper. The clock does not go back. -/
def turn (m : WebSocketManager Network) (t : Turn Network) : WebSocketManager Network :=
  if m.uptime ≤ t.now ∧ t.now ≤ t.later then { m.handle build t with uptime := t.later } else m

end WebSocketManager

end StylyMdm.Client.Connection
