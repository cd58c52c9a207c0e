import StylyMdm.Handshake.System
import StylyMdm.Client.RadioSilence

/-!
# The registration and the connection window

The registration belongs to the current socket: when the manager lets go of a socket it clears the
registration, and it makes a new one only when it has none (`Aligned`). The second half is what the
connection window guarantees, so `turn_manager` says first that the manager of this model is the one
the window was proved of.

So the results on the window are used as they are: at most one attempt is under way, and what was
cancelled is recognised. `Follows` says what a turn does to the current socket and the registration
together, `Cleared` what the operations do that give a socket up, and `Aligned` is then kept by
every turn, and by everything that happens beside the looper.
-/

namespace StylyMdm.Handshake

open Client.Identity Client.Connection

namespace Client

variable {Network : Type*} {c c₀ : Client Network} {later : Int} {facts : Facts} {accepted : Bool}

/-! ### The manager -/

/-- A registration leaves the manager alone. -/
theorem sendRegistration_manager {socket : Nat} {identity : DeviceIdentityState} :
    (c.sendRegistration facts socket identity accepted).1.manager = c.manager := by
  rw [sendRegistration]
  split
  · rfl
  · cases identity <;> rfl

/-- An action of the client is one of its manager. -/
theorem perform_manager {action : Action} :
    (perform later c action).manager = c.manager.perform later action := by
  cases action <;> rfl

/-- So are several. -/
theorem foldl_manager (actions : List Action) :
    (actions.foldl (perform later) c).manager =
      actions.foldl (WebSocketManager.perform later) c.manager := by
  induction actions generalizing c with
  | nil => rfl
  | cons action actions ih => rw [List.foldl_cons, ih, perform_manager, List.foldl_cons]

/-- And a decision of the scheduler. -/
theorem dispatch_manager (decision : ConnectionScheduler × List Action) :
    (c.dispatch later decision).manager = c.manager.dispatch later decision :=
  foldl_manager decision.2

section Turn

variable [DecidableEq Network] {build : Build} {t : Turn Network}

/-- A message of the looper is one of the manager. -/
theorem handle_manager :
    (c.handle build t facts accepted).1.manager = c.manager.handle build t := by
  rw [handle]
  cases ht : t.message with
  | networkAvailable network =>
    rw [WebSocketManager.handle, ht]
    dsimp only
    split_ifs
    · rfl
    · exact dispatch_manager _
  | networkLost network =>
    rw [WebSocketManager.handle, ht]
    dsimp only
    split_ifs
    · rfl
    · exact dispatch_manager _
  | socketOpened socket =>
    rw [WebSocketManager.handle, ht]
    dsimp only
    split_ifs
    · rfl
    · exact sendRegistration_manager.trans (dispatch_manager _)
  | socketGone socket =>
    rw [WebSocketManager.handle, ht]
    dsimp only
    split_ifs
    · rfl
    · exact dispatch_manager _
  | retryElapsed =>
    rw [WebSocketManager.handle, ht]
    dsimp only
    rcases c.manager.timers.next t.now with _ | ⟨_ | _, timers⟩
    · rfl
    · exact dispatch_manager _
    · rfl
  | windowExpired =>
    rw [WebSocketManager.handle, ht]
    dsimp only
    rcases c.manager.timers.next t.now with _ | ⟨_ | _, timers⟩
    · rfl
    · rfl
    · exact dispatch_manager _
  | discoveryFinished serial discovered => rfl
  | preferencesChanged preferences => rfl

/-- The client has the manager whose connection window was verified. -/
theorem turn_manager : (c.turn build t facts accepted).1.manager = c.manager.turn build t := by
  rw [turn, WebSocketManager.turn]
  split_ifs
  · exact congrArg (fun m : WebSocketManager Network => { m with uptime := t.later }) handle_manager
  · rfl

end Turn

/-! ### The registration -/

/-- The registration was cleared, and there is no socket but a new one. -/
structure Cleared (c₀ c : Client Network) : Prop where
  registration : c.registration = .cleared
  socketOpen : c.socketOpen = false
  webSocket : ∀ n, c.manager.webSocket = some n → c₀.manager.requests.length ≤ n

/-- What the connection window does to the client: it keeps the registration together with its
socket, or clears it. -/
structure Follows (c₀ c : Client Network) : Prop where
  resolver : c.resolver = c₀.resolver
  posted : c.posted = c₀.posted
  threads : c.threads = c₀.threads
  requests : c₀.manager.requests.length ≤ c.manager.requests.length
  registration : (c.registration = c₀.registration ∧ c.socketOpen = c₀.socketOpen ∧
      (c.manager.webSocket = c₀.manager.webSocket ∨ c₀.manager.webSocket = none ∧
        ∀ n, c.manager.webSocket = some n → c₀.manager.requests.length ≤ n)) ∨
    Cleared c₀ c

/-- No attempt starts before the old one is cancelled. -/
def orderly : List Action → Bool
  | [] => true
  | .cancelAttempt :: _ => true
  | .startAttempt :: _ => false
  | _ :: actions => orderly actions

/-- A client follows itself. -/
theorem Follows.refl (c : Client Network) : Follows c c :=
  ⟨rfl, rfl, rfl, le_rfl, .inl ⟨rfl, rfl, .inl rfl⟩⟩

/-- An attempt makes a new socket, or none yet. -/
theorem webSocket_startAttempt (m : WebSocketManager Network) :
    (m.startAttempt.webSocket = m.webSocket ∨ m.startAttempt.webSocket = some m.requests.length) ∧
      m.requests.length ≤ m.startAttempt.requests.length := by
  rw [WebSocketManager.startAttempt]
  cases m.target with
  | manual url =>
    dsimp only
    rw [WebSocketManager.doConnect]
    split_ifs
    · exact ⟨.inl rfl, le_rfl⟩
    · refine ⟨.inr rfl, ?_⟩
      rw [List.length_append]
      exact Nat.le_add_right _ _
  | autoDiscovery => exact ⟨.inl rfl, le_rfl⟩

/-- No action takes a request back. -/
theorem requests_perform {action : Action} :
    c.manager.requests.length ≤ (c.perform later action).manager.requests.length := by
  rw [perform_manager]
  cases action with
  | startAttempt => exact (webSocket_startAttempt c.manager).2
  | windowOpened => exact le_rfl
  | scheduleRetry delayMs => exact le_rfl
  | scheduleWindowExpiry delayMs => exact le_rfl
  | cancelTimers => exact le_rfl
  | cancelAttempt => exact le_rfl
  | enterSilence => exact le_rfl

/-- What was cleared stays so. -/
theorem Cleared.perform {action : Action} (h : Cleared c₀ c)
    (hrequests : c₀.manager.requests.length ≤ c.manager.requests.length) :
    Cleared c₀ (c.perform later action) := by
  cases action with
  | startAttempt =>
    refine ⟨h.registration, h.socketOpen, fun n hn => ?_⟩
    rcases (webSocket_startAttempt c.manager).1 with hsame | hnew
    · exact h.webSocket n (hsame.symm.trans hn)
    · rw [← Option.some.inj (hnew.symm.trans hn)]
      exact hrequests
  | cancelAttempt => exact ⟨rfl, rfl, fun _ hn => by cases hn⟩
  | windowOpened => exact ⟨h.registration, h.socketOpen, h.webSocket⟩
  | scheduleRetry delayMs => exact ⟨h.registration, h.socketOpen, h.webSocket⟩
  | scheduleWindowExpiry delayMs => exact ⟨h.registration, h.socketOpen, h.webSocket⟩
  | cancelTimers => exact ⟨h.registration, h.socketOpen, h.webSocket⟩
  | enterSilence => exact ⟨h.registration, h.socketOpen, h.webSocket⟩

/-- An action of the client follows its manager, if a new attempt starts without a socket or with
the registration cleared. -/
theorem Follows.perform {action : Action} (h : Follows c₀ c)
    (hstart : action = .startAttempt → c₀.manager.webSocket = none ∨ Cleared c₀ c) :
    Follows c₀ (c.perform later action) := by
  have hframe : (c.perform later action).resolver = c₀.resolver ∧
      (c.perform later action).posted = c₀.posted ∧
      (c.perform later action).threads = c₀.threads := by
    cases action <;> exact ⟨h.resolver, h.posted, h.threads⟩
  refine ⟨hframe.1, hframe.2.1, hframe.2.2, h.requests.trans requests_perform, ?_⟩
  rcases h.registration with ⟨hregistration, hopen, hwebSocket⟩ | hcleared
  · cases action with
    | startAttempt =>
      rcases hstart rfl with hnone | hcleared
      · refine .inl ⟨hregistration, hopen, .inr ⟨hnone, fun n hn => ?_⟩⟩
        rcases (webSocket_startAttempt c.manager).1 with hsame | hnew
        · have hold := hsame.symm.trans hn
          rcases hwebSocket with hkept | ⟨-, hfresh⟩
          · exact absurd (hold.symm.trans (hkept.trans hnone)) (by simp)
          · exact hfresh n hold
        · rw [← Option.some.inj (hnew.symm.trans hn)]
          exact h.requests
      · exact .inr (hcleared.perform h.requests)
    | cancelAttempt => exact .inr ⟨rfl, rfl, fun _ hn => by cases hn⟩
    | windowOpened => exact .inl ⟨hregistration, hopen, hwebSocket⟩
    | scheduleRetry delayMs => exact .inl ⟨hregistration, hopen, hwebSocket⟩
    | scheduleWindowExpiry delayMs => exact .inl ⟨hregistration, hopen, hwebSocket⟩
    | cancelTimers => exact .inl ⟨hregistration, hopen, hwebSocket⟩
    | enterSilence => exact .inl ⟨hregistration, hopen, hwebSocket⟩
  · exact .inr (hcleared.perform h.requests)

/-- A list of actions, if there is no socket or no attempt starts before the old one is
cancelled. -/
theorem Follows.foldl (actions : List Action) (h : Follows c₀ c)
    (hactions : c₀.manager.webSocket = none ∨ Cleared c₀ c ∨ orderly actions = true) :
    Follows c₀ (actions.foldl (Client.perform later) c) := by
  induction actions generalizing c with
  | nil => exact h
  | cons action actions ih =>
    rw [List.foldl_cons]
    refine ih (h.perform fun haction => ?_) ?_
    · rcases hactions with hnone | hcleared | horderly
      · exact .inl hnone
      · exact .inr hcleared
      · rw [haction] at horderly
        cases horderly
    · rcases hactions with hnone | hcleared | horderly
      · exact .inl hnone
      · exact .inr (.inl (hcleared.perform h.requests))
      · cases action with
        | startAttempt => cases horderly
        | cancelAttempt => exact .inr (.inl ⟨rfl, rfl, fun _ hn => by cases hn⟩)
        | windowOpened => exact .inr (.inr horderly)
        | scheduleRetry delayMs => exact .inr (.inr horderly)
        | scheduleWindowExpiry delayMs => exact .inr (.inr horderly)
        | cancelTimers => exact .inr (.inr horderly)
        | enterSilence => exact .inr (.inr horderly)

/-- A decision of the scheduler, after the manager has taken notice of something. -/
theorem follows_dispatch (later : Int) {m : WebSocketManager Network}
    (decision : ConnectionScheduler × List Action) (hsocket : m.webSocket = c.manager.webSocket)
    (hrequests : m.requests = c.manager.requests)
    (hactions : c.manager.webSocket = none ∨ orderly decision.2 = true) :
    Follows c ({ c with manager := m }.dispatch later decision) := by
  refine Follows.foldl decision.2 ⟨rfl, rfl, rfl, ?_, .inl ⟨rfl, rfl, .inl hsocket⟩⟩
    (hactions.imp_right .inr)
  exact (congrArg List.length hrequests).ge

section Handle

variable [DecidableEq Network] {build : Build} {t : Turn Network} {φ : Phase}

variable (build) in
/-- A live thread reports when there is no socket. -/
theorem webSocket_discoveryFinished {serial : Nat} {discovered : Option String}
    (hgood : c.manager.Good φ) (hyoung : c.manager.Young)
    (ht : t.message = .discoveryFinished serial discovered) :
    c.manager.requests.length ≤ (c.manager.handle build t).requests.length ∧
      ((c.manager.handle build t).webSocket = c.manager.webSocket ∨ c.manager.webSocket = none ∧
        ∀ n, (c.manager.handle build t).webSocket = some n → c.manager.requests.length ≤ n) := by
  rw [WebSocketManager.handle, ht]
  dsimp only
  split
  · rename_i d hfind
    have hd := List.mem_of_find?_eq_some hfind
    rw [WebSocketManager.onDiscovered]
    split
    · exact ⟨le_rfl, .inl rfl⟩
    · rename_i hcurrent
      push Not at hcurrent
      -- the window waits for this thread, so it has no socket
      have hlive := (hgood.numbered.generation_eq_iff hyoung hd).mp hcurrent.2.1
      have hnone : c.manager.webSocket = none := by
        have hcount : φ.discoveries ≠ 0 := by
          rw [← hgood.inPhase.live, Ne, WebSocketManager.live_eq_zero_iff]
          exact fun hall => Bool.false_ne_true (hlive.symm.trans (hall d hd))
        refine hgood.webSocket_eq_none ?_
        cases φ with
        | quiet => rfl
        | connected => exact absurd rfl hcount
        | window stage =>
          cases stage with
          | connecting => exact absurd rfl hcount
          | discovering => rfl
          | waiting => rfl
      have hlength : ∀ (m : WebSocketManager Network) (url : String),
          m.requests = c.manager.requests →
            c.manager.requests.length ≤ (m.doConnect url).requests.length := by
        intro m url hrequests
        rw [WebSocketManager.doConnect]
        split_ifs
        · exact (congrArg List.length hrequests).ge
        · dsimp only
          rw [hrequests, List.length_append]
          exact Nat.le_add_right _ _
      have hfresh : ∀ (m : WebSocketManager Network) (url : String) (n : Nat),
          m.requests = c.manager.requests → m.webSocket = c.manager.webSocket →
            (m.doConnect url).webSocket = some n → c.manager.requests.length ≤ n := by
        intro m url n hrequests hsame
        rw [WebSocketManager.doConnect]
        split_ifs
        · intro hn
          exact absurd (hn.symm.trans (hsame.trans hnone)) (by simp)
        · intro hn
          rw [← Option.some.inj hn, hrequests]
      split
      · refine ⟨hlength _ _ rfl, .inr ⟨hnone, ?_⟩⟩
        intro n
        exact hfresh _ _ n rfl rfl
      · refine ⟨hlength _ _ rfl, .inr ⟨hnone, ?_⟩⟩
        intro n
        exact hfresh _ _ n rfl rfl
  · exact ⟨le_rfl, .inl rfl⟩

variable (build facts accepted) in
/-- **The connection window keeps the registration and its socket together.** -/
theorem follows_handle (hgood : c.manager.Good φ) (hyoung : c.manager.Young)
    (ht : ∀ socket, t.message = .socketOpened socket → c.manager.webSocket ≠ some socket) :
    Follows c (c.handle build t facts accepted).1 ∧ (c.handle build t facts accepted).2 = none := by
  have hstate := hgood.inPhase.state
  rw [handle]
  cases hmessage : t.message with
  | networkAvailable network =>
    dsimp only
    split_ifs
    · exact ⟨.refl c, rfl⟩
    · refine ⟨follows_dispatch _ _ rfl rfl ?_, rfl⟩
      rw [ConnectionScheduler.onNetworkAvailable]
      cases hcase : c.manager.scheduler.state with
      | idle =>
        refine .inl (hgood.webSocket_eq_none ?_)
        rw [hcase] at hstate
        cases φ with
        | quiet => rfl
        | connected => cases hstate
        | window stage => cases hstate
      | silent =>
        refine .inl (hgood.webSocket_eq_none ?_)
        rw [hcase] at hstate
        cases φ with
        | quiet => rfl
        | connected => cases hstate
        | window stage => cases hstate
      | windowOpen => exact .inr rfl
      | connected => exact .inr rfl
  | networkLost network =>
    dsimp only
    split_ifs
    · exact ⟨.refl c, rfl⟩
    · refine ⟨follows_dispatch _ _ rfl rfl (.inr ?_), rfl⟩
      rw [ConnectionScheduler.onNetworkLost]
      split <;> rfl
  | socketOpened socket =>
    dsimp only
    rw [if_pos (ht socket hmessage)]
    exact ⟨.refl c, rfl⟩
  | socketGone socket =>
    dsimp only
    split_ifs
    · exact ⟨.refl c, rfl⟩
    · -- the registration is cleared before the scheduler is asked
      have hfollows := follows_dispatch t.later
        (c := { c with manager := { c.manager with webSocket := none } }.resetConnectionState)
        (c.manager.scheduler.onSocketDisconnected t.values t.now) rfl rfl (.inl rfl)
      refine ⟨⟨hfollows.resolver, hfollows.posted, hfollows.threads, hfollows.requests, .inr ?_⟩,
        rfl⟩
      rcases hfollows.registration with ⟨hregistration, hopen, hwebSocket⟩ | hcleared
      · refine ⟨hregistration, hopen, fun n hn => ?_⟩
        rcases hwebSocket with hsame | ⟨-, hfresh⟩
        · exact absurd (hn.symm.trans hsame) (by simp [resetConnectionState])
        · exact hfresh n hn
      · exact ⟨hcleared.registration, hcleared.socketOpen, hcleared.webSocket⟩
  | retryElapsed =>
    dsimp only
    rcases hnext : c.manager.timers.next t.now with _ | ⟨_ | _, timers⟩
    · exact ⟨.refl c, rfl⟩
    · obtain ⟨rfl, -⟩ := hgood.of_retryElapsed hnext
      exact ⟨follows_dispatch _ _ rfl rfl (.inl (hgood.webSocket_eq_none rfl)), rfl⟩
    · exact ⟨.refl c, rfl⟩
  | windowExpired =>
    dsimp only
    rcases hnext : c.manager.timers.next t.now with _ | ⟨_ | _, timers⟩
    · exact ⟨.refl c, rfl⟩
    · exact ⟨.refl c, rfl⟩
    · refine ⟨follows_dispatch _ _ rfl rfl (.inr ?_), rfl⟩
      rw [ConnectionScheduler.onWindowExpired]
      split <;> rfl
  | discoveryFinished serial discovered =>
    obtain ⟨hrequests, hwebSocket⟩ :=
      webSocket_discoveryFinished build hgood hyoung hmessage
    exact ⟨⟨rfl, rfl, rfl, hrequests, .inl ⟨rfl, rfl, hwebSocket⟩⟩, rfl⟩
  | preferencesChanged preferences =>
    refine ⟨⟨rfl, rfl, rfl, ?_, .inl ⟨rfl, rfl, .inl ?_⟩⟩, rfl⟩
    · rw [WebSocketManager.handle, hmessage]
    · rw [WebSocketManager.handle, hmessage]

variable (build facts accepted) in

/-- A message of the looper follows the manager, but for a socket that opens. -/
theorem follows_turn (hgood : c.manager.Good φ) (hyoung : c.manager.Young)
    (ht : ∀ socket, t.message = .socketOpened socket → c.manager.webSocket ≠ some socket) :
    Follows c (c.turn build t facts accepted).1 ∧ (c.turn build t facts accepted).2 = none := by
  rw [turn]
  split_ifs
  · obtain ⟨hfollows, hnone⟩ := follows_handle facts accepted build hgood hyoung ht
    exact ⟨⟨hfollows.resolver, hfollows.posted, hfollows.threads, hfollows.requests,
      hfollows.registration.imp_right fun hcleared =>
        ⟨hcleared.registration, hcleared.socketOpen, hcleared.webSocket⟩⟩, hnone⟩
  · exact ⟨.refl c, rfl⟩

end Handle

/-! ### A registration is sent -/

variable {socket : Nat} {identity : DeviceIdentityState}

/-- A socket that takes the frame is told of the identity, unless it already knows the final one. -/
theorem sendRegistration_accepted (hsocket : c.registration.socket = some socket)
    (hsent : c.registration.sent = false) :
    c.sendRegistration facts socket identity true =
      ({ c with
          registration :=
            { c.registration with sent := (Handshake.registration facts identity).isFinal } },
        some (socket, Handshake.registration facts identity)) := by
  have hself : { c.registration with sent := false } = c.registration := by rw [← hsent]
  rw [sendRegistration, ConnectionRegistration.isSent, hsent, Bool.and_false,
    if_neg Bool.false_ne_true]
  cases identity with
  | ready deviceId =>
    dsimp only
    rw [ConnectionRegistration.markSent, if_pos hsocket]
    rfl
  | resolving => exact congrArg (fun r => ({ c with registration := r }, _)) hself.symm
  | unavailable status diagnostic mintAttempted =>
    exact congrArg (fun r => ({ c with registration := r }, _)) hself.symm

/-- Whether or not it does, the socket stays registered. -/
theorem sendRegistration_eq (c : Client Network) (facts : Facts) (socket : Nat)
    (identity : DeviceIdentityState) (accepted : Bool) :
    ∃ r : ConnectionRegistration Nat, r.socket = c.registration.socket ∧
      (c.sendRegistration facts socket identity accepted).1 = { c with registration := r } ∧
      ((c.sendRegistration facts socket identity accepted).2 = none ∨
        (c.sendRegistration facts socket identity accepted).2 =
          some (socket, Handshake.registration facts identity)) := by
  have hmark : (c.registration.markSent socket).socket = c.registration.socket := by
    rw [ConnectionRegistration.markSent]
    split_ifs <;> rfl
  have hclear : ((c.registration.markSent socket).clearSent socket).socket =
      c.registration.socket := by
    rw [ConnectionRegistration.clearSent]
    split_ifs
    · exact hmark
    · exact hmark
  rw [sendRegistration]
  split_ifs
  · exact ⟨c.registration, rfl, rfl, .inl rfl⟩
  · cases identity with
    | ready deviceId => exact ⟨_, hmark, rfl, .inr rfl⟩
    | resolving => exact ⟨c.registration, rfl, rfl, .inr rfl⟩
    | unavailable status diagnostic mintAttempted => exact ⟨c.registration, rfl, rfl, .inr rfl⟩
  · cases identity with
    | ready deviceId => exact ⟨_, hclear, rfl, .inl rfl⟩
    | resolving => exact ⟨c.registration, rfl, rfl, .inl rfl⟩
    | unavailable status diagnostic mintAttempted => exact ⟨c.registration, rfl, rfl, .inl rfl⟩

/-- The registration does not read the manager. -/
theorem sendRegistration_withManager (c : Client Network) (facts : Facts) (socket : Nat)
    (identity : DeviceIdentityState) (accepted : Bool) (m : WebSocketManager Network) :
    { c with manager := m }.sendRegistration facts socket identity accepted =
      ({ (c.sendRegistration facts socket identity accepted).1 with manager := m },
        (c.sendRegistration facts socket identity accepted).2) := by
  rw [sendRegistration, sendRegistration]
  split_ifs
  · rfl
  · cases identity <;> rfl
  · cases identity <;> rfl

/-- The current socket is opened. -/
theorem turn_socketOpened [DecidableEq Network] (build : Build) (facts : Facts) (accepted : Bool)
    {t : Turn Network} (ht : t.message = .socketOpened socket)
    (htime : c.manager.uptime ≤ t.now ∧ t.now ≤ t.later)
    (hcurrent : c.manager.webSocket = some socket) :
    ∃ m : WebSocketManager Network, m.webSocket = some socket ∧
      m.requests = c.manager.requests ∧
      c.turn build t facts accepted =
        { c with manager := m, socketOpen := true, registration := .opened socket }.sendRegistration
          facts socket c.resolver.visibleState accepted := by
  refine ⟨{ (c.manager.dispatch t.later c.manager.scheduler.onConnected) with uptime := t.later },
    hcurrent, rfl, ?_⟩
  rw [turn, if_pos htime, handle, ht]
  dsimp only
  rw [if_neg (not_not.mpr hcurrent), sendRegistration_manager]
  exact (sendRegistration_withManager { c.dispatch t.later c.manager.scheduler.onConnected with
    socketOpen := true, registration := .opened socket } facts socket c.resolver.visibleState
    accepted
    { (c.manager.dispatch t.later c.manager.scheduler.onConnected) with uptime := t.later }).symm

/-! ### The current socket -/

/-- What holds of a client whatever the server does. -/
structure Aligned (c : Client Network) : Prop where
  good : ∃ φ, c.manager.Good φ
  singleFlight : SingleFlight c.resolver
  /-- The last that is posted is the latest. -/
  latest : ∀ state, c.posted.getLast? = some state → state = c.resolver.visibleState
  found : ∀ deviceId, .ready deviceId ∈ c.posted → c.resolver.visibleState = .ready deviceId
  registered : ∀ n, c.registration.socket = some n →
    c.manager.webSocket = some n ∧ c.socketOpen = true
  socketOpen : c.socketOpen = true → c.registration.socket ≠ none

namespace Aligned

/-- The client is aligned when it connects first. -/
theorem connect (resolved : List DeviceIdentityResolver.Event) (preferences : Preferences) :
    (connect (.after resolved) preferences : Client Network).Aligned where
  good := ⟨.quiet, WebSocketManager.good_connect preferences⟩
  singleFlight := singleFlight_after resolved
  latest _ h := (Option.some.inj h).symm
  found _ h := (List.mem_singleton.mp h).symm
  registered _ h := by cases h
  socketOpen h := by cases h

/-- The current socket is registered, once it is open. -/
theorem current (h : c.Aligned) {n : Nat} (hcurrent : c.manager.webSocket = some n)
    (hopen : c.socketOpen = true) : c.registration.socket = some n := by
  obtain ⟨m, hm⟩ := Option.ne_none_iff_exists'.mp (h.socketOpen hopen)
  rw [hm, ← hcurrent, (h.registered m hm).1]

/-- It stays so when the registration of the same socket changes. -/
theorem withRegistration (h : c.Aligned) {r : ConnectionRegistration Nat}
    (hr : r.socket = c.registration.socket) : { c with registration := r }.Aligned where
  good := h.good
  singleFlight := h.singleFlight
  latest := h.latest
  found := h.found
  registered n hn := h.registered n (hr.symm.trans hn)
  socketOpen hopen := by
    rw [hr]
    exact h.socketOpen hopen

/-- When the resolver moves. -/
theorem resolve (h : c.Aligned) (event : DeviceIdentityResolver.Event) :
    (c.resolve event).Aligned where
  good := h.good
  singleFlight := h.singleFlight.step event
  latest state hlast := by
    rw [Client.resolve, told_step]
    rw [Client.resolve] at hlast
    dsimp only at hlast ⊢
    cases htold : (c.resolver.step event).2 with
    | none =>
      rw [htold, Option.toList_none, List.append_nil] at hlast
      exact h.latest state hlast
    | some told =>
      rw [htold, Option.toList_some, List.getLast?_append_of_ne_nil _ (by simp)] at hlast
      exact (Option.some.inj hlast).symm
  found deviceId hready := by
    rcases List.mem_append.mp hready with hbefore | htold
    · exact (ready_step h.singleFlight (h.found deviceId hbefore) event).1
    · rw [Client.resolve, told_step, Option.mem_toList.mp htold]
      rfl
  registered := h.registered
  socketOpen := h.socketOpen

/-- When a power thread moves. -/
theorem withThreads (h : c.Aligned) (threads : List PowerThread) :
    { c with threads := threads }.Aligned :=
  ⟨h.good, h.singleFlight, h.latest, h.found, h.registered, h.socketOpen⟩

/-- When a posted message has been run. -/
theorem withPosted (h : c.Aligned) {identity : DeviceIdentityState}
    {posted : List DeviceIdentityState} (hposted : c.posted = identity :: posted) :
    { c with posted := posted }.Aligned where
  good := h.good
  singleFlight := h.singleFlight
  latest state hlast := by
    refine h.latest state ?_
    rw [hposted, List.getLast?_cons, show posted.getLast? = some state from hlast]
    rfl
  found deviceId hready := h.found deviceId (hposted ▸ List.mem_cons_of_mem identity hready)
  registered := h.registered
  socketOpen := h.socketOpen

/-- And when it follows its manager. -/
theorem follows (h : c₀.Aligned) (hfollows : Follows c₀ c) (hgood : ∃ φ, c.manager.Good φ) :
    c.Aligned where
  good := hgood
  singleFlight := hfollows.resolver ▸ h.singleFlight
  latest := by
    rw [hfollows.posted, hfollows.resolver]
    exact h.latest
  found := by
    rw [hfollows.posted, hfollows.resolver]
    exact h.found
  registered n hn := by
    rcases hfollows.registration with ⟨hregistration, hopen, hwebSocket⟩ | hcleared
    · obtain ⟨hcurrent, hold⟩ := h.registered n (hregistration ▸ hn)
      rcases hwebSocket with hsame | ⟨hnone, -⟩
      · exact ⟨hsame.trans hcurrent, hopen.trans hold⟩
      · exact absurd (hnone.symm.trans hcurrent) (by simp)
    · rw [hcleared.registration] at hn
      cases hn
  socketOpen hsome := by
    rcases hfollows.registration with ⟨hregistration, hopen, -⟩ | hcleared
    · rw [hregistration]
      exact h.socketOpen (hopen ▸ hsome)
    · rw [hcleared.socketOpen] at hsome
      cases hsome

end Aligned

end Client

end StylyMdm.Handshake
