import Mathlib

/-!
# The connection window

`ConnectionScheduler`, which decides when the client may use the network, and
`ConnectionAttemptPolicy`, which keeps the target of the attempts for the time of a window. Both
are pure: what is to be done is returned as a list of actions.

A network that comes up opens a window. In the window the client tries to connect, once at first and
again whenever a retry has elapsed, until it is connected, the network is gone, or the window has
expired; then it is silent until a network comes up again. A connection that is lost opens a window
of its own. Nothing else makes the client use the network.

Timers are cancelled when the state changes that they were made for. Whether that is enough is not
the scheduler's concern: a retry that elapses outside of a window does nothing. Times are of type
`Long`, which wraps around (`long`).
-/

namespace StylyMdm.Client.Connection

/-- A sum of two `Long`s. -/
def long (n : Int) : Int := n.bmod (2 ^ 64)

/-- `ClientConfig.Values`. -/
structure Values where
  connectWindowMs : Int := 10000
  retryIntervalMs : Int := 2000

/-- `ConnectionScheduler.State`. -/
inductive State
  | idle
  | windowOpen
  | connected
  | silent
deriving DecidableEq, Repr

/-- The calls of `ConnectionScheduler.Listener`. -/
inductive Action
  | windowOpened
  | startAttempt
  | scheduleRetry (delayMs : Int)
  | scheduleWindowExpiry (delayMs : Int)
  | cancelTimers
  | cancelAttempt
  | enterSilence
deriving DecidableEq, Repr

/-- The fields of `ConnectionScheduler`, on a clock in milliseconds. -/
structure ConnectionScheduler where
  state : State := .idle
  windowDeadline : Int := 0
  retryIntervalMs : Int := 2000

namespace ConnectionScheduler

/-- `values` is what `config()` returns. All fields are set. -/
def openWindow (values : Values) (now : Int) (cancelAttempt : Bool) :
    ConnectionScheduler × List Action :=
  ({ state := .windowOpen
     windowDeadline := long (now + values.connectWindowMs)
     retryIntervalMs := values.retryIntervalMs },
    .cancelTimers :: (if cancelAttempt then [.cancelAttempt] else []) ++
      [.scheduleWindowExpiry values.connectWindowMs, .windowOpened, .startAttempt])

variable (s : ConnectionScheduler)

/-- `goSilent`: the timers and the attempt are cancelled, and the radio is silent. -/
def goSilent : ConnectionScheduler × List Action :=
  ({ s with state := .silent }, [.cancelTimers, .cancelAttempt, .enterSilence])

/-- `onNetworkAvailable`: a network opens a window, or opens it anew. -/
def onNetworkAvailable (values : Values) (now : Int) : ConnectionScheduler × List Action :=
  match s.state with
  | .idle | .silent => openWindow values now false
  | .windowOpen => openWindow values now true
  | .connected => (s, [])

/-- `onNetworkLost`. -/
def onNetworkLost : ConnectionScheduler × List Action :=
  match s.state with
  | .idle => (s, [])
  | _ => ({ s with state := .idle }, [.cancelTimers, .cancelAttempt])

/-- `onConnected`. -/
def onConnected : ConnectionScheduler × List Action :=
  ({ s with state := .connected }, [.cancelTimers])

/-- `onSocketDisconnected`: a lost connection opens a window; inside a window it asks for a retry,
or ends the window that is over. -/
def onSocketDisconnected (values : Values) (now : Int) : ConnectionScheduler × List Action :=
  match s.state with
  | .connected => openWindow values now false
  | .windowOpen =>
    if s.windowDeadline ≤ now then s.goSilent else (s, [.scheduleRetry s.retryIntervalMs])
  | .idle | .silent => (s, [])

/-- `onRetryElapsed`. -/
def onRetryElapsed : ConnectionScheduler × List Action :=
  match s.state with
  | .windowOpen => (s, [.startAttempt])
  | _ => (s, [])

/-- `onWindowExpired`. -/
def onWindowExpired : ConnectionScheduler × List Action :=
  match s.state with
  | .windowOpen => s.goSilent
  | _ => (s, [])

end ConnectionScheduler

/-- `ConnectionAttemptPolicy.Target`. -/
inductive Target
  | manual (url : String)
  | autoDiscovery
deriving DecidableEq, Repr

/-- `ConnectionAttemptPolicy.onWindowOpened`, with the target that it stores. -/
def Target.onWindowOpened (manualUrl : Option String) : Target :=
  match manualUrl with
  | some url => .manual url
  | none => .autoDiscovery

end StylyMdm.Client.Connection
