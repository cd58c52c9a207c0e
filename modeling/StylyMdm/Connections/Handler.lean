import StylyMdm.Registry.Handlers

/-!
# The device handler

`device_ws_handler` and the timers it starts, as far as they decide which socket a device belongs
to and how a self-update or a retire of the device ends. A handler runs from one await to the next
in one piece; `Point` says where it is suspended, with the local variables it still needs. What it
does in between concerns one device, so it is a function of that device and the handler (`Turn`).

The dictionaries keyed by `device_id` are seen device by device (`Device`). A pending entry is known
by the number of its announcement: an assignment to the entry is seen in the dictionary exactly as
long as the dictionary still holds this very entry. Of the broadcasts the log has those that settle
a self-update or a retire; the others are the awaits they are.

**Awaits.** An await can end well, fail, or be cancelled (`Answer`); which of these happens comes
with the label. A broadcast to the admins is an await like any other, so anything can happen to the
same device while the admins are told. An exception that the handler does not catch takes it to its
`finally` block, which may await once more before it deletes the registration.

**Timers.** A timer has the correlation of the entry it was started for. When it fires, in one
piece, it settles the entry that is there if that one has the same correlation and is in the phase
the timer is for; otherwise it does nothing.

**What is left out** is what no decision here depends on: battery, progress and group messages. The
half of the handler that runs in the push runtime is in `PushRuntime`.
-/

namespace StylyMdm.Connections

open Text Py
open Registry (IdentityKind RegisterData Registration parseRegistration)

/-- The identity of a device. -/
abbrev DeviceId := Str

/-- A device WebSocket, which is also the task that serves it. -/
abbrev Socket := Nat

/-! ### Data -/

/-- An entry of `devices`. -/
structure Connection where
  ws : Socket
  identityKind : IdentityKind
  registrationReady : Bool
deriving DecidableEq

/-- The phases of a self-update. -/
inductive Phase
  | updating
  | verifying
deriving DecidableEq

/-- An entry of `pending_self_updates`. -/
structure SelfUpdate where
  announcement : Nat
  phase : Phase
  correlationId : Str
  targetVersionCode : Int
  packageName : Value
  expectedFullSha256 : Option Str
  identityKind : IdentityKind
  timeoutTask : Option Nat

/-- An entry of `pending_retires`. -/
structure PendingRetire where
  announcement : Nat
  correlationId : Str
  timeoutTask : Nat
deriving DecidableEq

/-- An entry of `last_install_dispatch`. -/
structure Dispatch where
  fullSha256 : Option Str
deriving DecidableEq

/-- What the server holds of one device: its entries of `devices`, `pending_self_updates`,
`pending_retires` and `last_install_dispatch`, the tasks it holds a live transfer slot for, and the
`retired` flag of its record of `device_registry`. -/
structure Device where
  connection : Option Connection := none
  selfUpdate : Option SelfUpdate := none
  pendingRetire : Option PendingRetire := none
  lastInstallDispatch : Option Dispatch := none
  transfers : Str → Bool := fun _ => false
  retired : Option Bool := none

/-- A `SELF_UPDATE_STARTING` whose reference hashes are still being computed. -/
structure Draft where
  announcement : Nat
  correlationId : Str
  targetVersionCode : Int
  packageName : Value

/-- Where a handler is suspended. -/
inductive Point
  /-- The next message. -/
  | receive
  /-- An await after which only the next message follows. -/
  | answering
  /-- `_close_protocol_error`, after which the loop ends. -/
  | rejecting
  /-- `_complete_device_registration` of a socket that has just claimed the device. -/
  | completing (versionCode : Option Int)
  /-- The `RETIRE_RESULT` of `_resolve_pending_retire`. -/
  | retireResolved (versionCode : Option Int)
  /-- The `SELF_UPDATE_RESULT` of `_resolve_pending_self_update`. -/
  | resultSent (entry : SelfUpdate) (success : Bool)
  /-- The install state after it. -/
  | installStateSent (entry : SelfUpdate) (success : Bool)
  /-- The `EXECUTE_VERIFY_APK` after that. -/
  | verifySending (entry : SelfUpdate)
  /-- `apk_hashes_for` of a `SELF_UPDATE_STARTING`. -/
  | hashing (draft : Draft)
  /-- The `SELF_UPDATE_VERIFIED` of the `finally` block. -/
  | closing
  /-- The handler has nothing left to do but to tell the admins. -/
  | closed

/-- A handler with its local variables. `claim` is the step in which it has claimed its device. -/
structure Handler where
  remote : Option Str
  deviceId : Option DeviceId := none
  identityKind : Option IdentityKind := none
  provisional : Bool := false
  claim : Nat := 0
  point : Point := .receive

/-- The timers of the server. -/
inductive TimerKind
  | selfUpdate
  | verify
  | retire
deriving DecidableEq

/-- A sleeping timeout task, with the announcement it was started for. -/
structure Timer where
  kind : TimerKind
  deviceId : DeviceId
  correlationId : Str
  announcement : Nat
deriving DecidableEq

/-- The `status` of a `SELF_UPDATE_RESULT`. -/
inductive UpdateStatus
  | success
  | fail
  | timeout
  | untracked
deriving DecidableEq

/-- What the log records: broadcasts, with the announcement they settle, and what has to be known
to say whether they are right. -/
inductive Event
  | registerReceived (deviceId : DeviceId)
  | selfUpdateResult (announcement : Nat) (status : UpdateStatus)
  | selfUpdateVerified (announcement : Nat)
  | keyError
  | retireAnnounced (announcement : Nat) (deviceId : DeviceId)
  | retireResult (announcement : Nat) (deviceId : DeviceId) (success : Bool)
  | retireFlagged (announcement : Nat) (deviceId : DeviceId)
  | uninstallFailed (deviceId : DeviceId)
deriving DecidableEq

/-- What a handler does between two awaits. -/
structure Turn where
  device : Device
  handler : Handler
  cancelled : List Nat := []
  started : Option Timer := none
  events : List Event := []

/-- `_owns_device`. -/
def Device.ownedBy (dev : Device) (ws : Socket) : Bool :=
  dev.connection.any fun connection => connection.ws = ws

/-- `command_allowed(entry)`. -/
def commandAllowed (connection : Option Connection) : Bool :=
  connection.any fun connection =>
    connection.registrationReady && connection.identityKind = .canonical

/-- The timer of an entry, if it has one. -/
def Device.selfUpdateTimer (dev : Device) : List Nat :=
  (dev.selfUpdate.bind fun entry => entry.timeoutTask).toList

/-- The timer of the pending retirement. -/
def Device.retireTimer (dev : Device) : List Nat :=
  (dev.pendingRetire.map fun entry => entry.timeoutTask).toList

/-- An assignment to an entry of `pending_self_updates`, seen if the entry is still there. -/
def Device.assign (dev : Device) (entry : SelfUpdate) (f : SelfUpdate → SelfUpdate) : Device :=
  { dev with selfUpdate := dev.selfUpdate.map fun current =>
      if current.announcement = entry.announcement then f current else current }

/-- The task `install`. -/
def taskInstall : Str := ofString "install"

/-- The task `push`. -/
def taskPush : Str := ofString "push"

/-- `_release_transfer_slot`, which the push runtime installs as `release_transfer_slot`: the slot
of an install or of a push, and for any other task all slots of the device. -/
def Device.release (dev : Device) (task : Str) : Device :=
  { dev with
    transfers :=
      if task = taskInstall ∨ task = taskPush then Function.update dev.transfers task false
      else fun _ => false }

/-- `_release_transfer_slot` for a task that is no string. -/
def Device.releaseAll (dev : Device) : Device :=
  { dev with transfers := fun _ => false }

section Handler

variable (ws : Socket) (dev : Device) (h : Handler)

/-- Go on with the next message, or with an await before it. -/
def Handler.at (point : Point) : Handler := { h with point := point }

/-- The end of the `finally` block: the socket's registration is deleted. -/
def teardown : Turn where
  device := { dev with connection := none }
  handler := h.at .closed

/-- The `finally` block. -/
def leave : Turn :=
  let h := { h with provisional := false }
  if !dev.ownedBy ws then { device := dev, handler := h.at .closed }
  else
    let dev := { dev.releaseAll with lastInstallDispatch := none }
    match dev.selfUpdate with
    | none => teardown dev h
    | some entry =>
      if entry.phase ≠ .verifying then teardown dev h
      else
        { device := { dev with selfUpdate := none }
          handler := h.at .closing
          cancelled := dev.selfUpdateTimer
          events := [.selfUpdateVerified entry.announcement] }

/-- `del pending_self_updates[device_id]`, which raises when there is no entry. -/
def deleteSelfUpdate (events : List Event) : Turn :=
  match dev.selfUpdate with
  | none => { leave ws dev h with events := .keyError :: (leave ws dev h).events }
  | some _ =>
    { device := { dev with selfUpdate := none }, handler := h.at .answering, events := events }

/-- `_resolve_pending_self_update`, up to its first await. -/
def resolvePendingSelfUpdate (versionCode : Option Int) : Turn :=
  match dev.selfUpdate with
  | none => { device := dev, handler := h.at .answering }
  | some entry =>
    if entry.phase ≠ .updating then { device := dev, handler := h.at .answering }
    else
      let success := versionCode.any fun version => entry.targetVersionCode ≤ version
      { device := dev
        handler := h.at (.resultSent entry success)
        cancelled := dev.selfUpdateTimer
        events := [.selfUpdateResult entry.announcement (if success then .success else .fail)] }

/-- `_resolve_pending_self_update` after its broadcasts. -/
def settleSelfUpdate (entry : SelfUpdate) (success : Bool) : Turn :=
  if !success then deleteSelfUpdate ws dev h []
  else if (entry.expectedFullSha256.any fun hash => hash ≠ []) && entry.packageName.truthy &&
      commandAllowed dev.connection then
    { device := dev.assign entry fun current =>
        { current with phase := .verifying, timeoutTask := none }
      handler := h.at (.verifySending entry) }
  else deleteSelfUpdate ws dev h [.selfUpdateVerified entry.announcement]

/-- `_resolve_pending_retire`, and what follows it when there is nothing to broadcast. -/
def resolvePendingRetire (deviceId : DeviceId) (versionCode : Option Int) : Turn :=
  match dev.pendingRetire with
  | none => resolvePendingSelfUpdate dev h versionCode
  | some entry =>
    { device := { dev with pendingRetire := none }
      handler := h.at (.retireResolved versionCode)
      cancelled := dev.retireTimer
      events := [.retireResult entry.announcement deviceId false] }

variable (now : Nat) (deviceId : DeviceId)

/-- The new entry of `pending_self_updates`. -/
def createSelfUpdate (draft : Draft) (expected : Option Str) : Turn where
  device :=
    { dev with
      selfUpdate := some
        { announcement := draft.announcement
          phase := .updating
          correlationId := draft.correlationId
          targetVersionCode := draft.targetVersionCode
          packageName := draft.packageName
          expectedFullSha256 := expected
          identityKind := h.identityKind.getD .canonical
          timeoutTask := some now } }
  handler := h.at .answering
  started := some
    { kind := .selfUpdate
      deviceId := deviceId
      correlationId := draft.correlationId
      announcement := draft.announcement }

end Handler

/-! ### Messages -/

/-- The messages of a device. What the handler does not test is any value. The frames of the push
jobs come to the handler as `other`, if the push runtime does not take them (`Frame`). -/
inductive Message
  | register (data : RegisterData)
  | downloadComplete (task : Value)
  | selfUpdateStarting (correlationId targetVersionCode packageName : Value)
  | selfUninstallStarting (correlationId : Value)
  | selfUninstallResult
  | installResult
  | pushFilesResult
  | verifyApkResult (packageName : Value)
  | other

/-- A message other than `REGISTER`, on the socket that owns the device. -/
def handleOwn (ws : Socket) (dev : Device) (h : Handler) (now : Nat) (deviceId : DeviceId) :
    Message → Turn
  | .downloadComplete task =>
    match if task.truthy then task else .str taskInstall with
    | .str task => { device := dev.release task, handler := h.at .answering }
    | task =>
      if task.hashable then { device := dev.releaseAll, handler := h.at .answering }
      else leave ws dev h
  | .selfUpdateStarting (.str correlationId) (.int targetVersionCode) packageName =>
    if correlationId = [] then { device := dev, handler := h }
    else
      let draft : Draft :=
        { announcement := now, correlationId := correlationId,
          targetVersionCode := targetVersionCode, packageName := packageName }
      match dev.lastInstallDispatch with
      | some dispatched =>
        { createSelfUpdate dev h now deviceId draft dispatched.fullSha256 with
          cancelled := dev.selfUpdateTimer }
      | none =>
        { device := dev, handler := h.at (.hashing draft), cancelled := dev.selfUpdateTimer }
  | .selfUninstallStarting (.str correlationId) =>
    if correlationId = [] then { device := dev, handler := h }
    else
      { device :=
          { dev with
            selfUpdate := none
            pendingRetire := some
              { announcement := now, correlationId := correlationId, timeoutTask := now } }
        handler := h
        cancelled := dev.retireTimer ++ dev.selfUpdateTimer
        started := some
          { kind := .retire, deviceId := deviceId, correlationId := correlationId,
            announcement := now }
        events := [.retireAnnounced now deviceId] }
  | .selfUninstallResult =>
    { device := { dev with pendingRetire := none }
      handler := h.at .answering
      cancelled := dev.retireTimer
      events := [.uninstallFailed deviceId] }
  | .installResult =>
    let dev := dev.release taskInstall
    match dev.selfUpdate with
    | none => { device := dev, handler := h.at .answering }
    | some entry =>
      if entry.phase ≠ .updating then { device := dev, handler := h.at .answering }
      else
        { device := { dev with selfUpdate := none }
          handler := h.at .answering
          cancelled := dev.selfUpdateTimer }
  | .pushFilesResult => { device := dev.release taskPush, handler := h.at .answering }
  | .verifyApkResult packageName =>
    match dev.selfUpdate with
    | none => { device := dev, handler := h.at .answering }
    | some entry =>
      if entry.phase ≠ .verifying || packageName.differs entry.packageName then
        { device := dev, handler := h.at .answering }
      else
        { device := { dev with selfUpdate := none }
          handler := h.at .answering
          cancelled := dev.selfUpdateTimer
          events := [.selfUpdateVerified entry.announcement] }
  | .other => { device := dev, handler := h.at .answering }
  | _ => { device := dev, handler := h }

/-- What a `REGISTER` asks for. -/
inductive Request
  | raise
  | reject
  | provisional
  | again
  | claim (kind : IdentityKind) (deviceId : DeviceId) (versionCode : Option Int)

/-- The tests of the `REGISTER` branch. -/
def Handler.request (h : Handler) (data : RegisterData) : Request :=
  match parseRegistration data h.remote with
  | .raised => .raise
  | .refused _ => .reject
  | .provisional => if h.deviceId.isSome then .reject else .provisional
  | .device kind requested _ _ _ versionCode _ =>
    match h.deviceId with
    | some deviceId =>
      if h.identityKind ≠ some kind ∨ requested ≠ deviceId then .reject else .again
    | none =>
      if h.provisional ∧ kind ≠ .canonical then .reject else .claim kind requested versionCode

/-- The device that a `REGISTER` names is noted. -/
def received (data : RegisterData) : List Event :=
  match data.deviceId with
  | .str deviceId => [.registerReceived deviceId]
  | _ => []

/-- A turn after what has been noted before. -/
def Turn.after (turn : Turn) (events : List Event) : Turn :=
  { turn with events := events ++ turn.events }

/-- The registration of a socket. `saved` says whether `save_registry` has raised. -/
def claimDevice (ws : Socket) (dev : Device) (h : Handler) (now : Nat) (kind : IdentityKind)
    (deviceId : DeviceId) (versionCode : Option Int) (saved : Bool) : Turn :=
  let dev :=
    { dev with
      connection := some { ws := ws, identityKind := kind, registrationReady := false }
      retired := some false }
  let h :=
    { h with
      provisional := false, deviceId := some deviceId, identityKind := some kind, claim := now }
  if saved then { device := dev, handler := h.at (.completing versionCode) } else leave ws dev h

/-! ### Resumptions -/

/-- How an await ends: with what the code takes from it, with an exception, or cancelled. -/
inductive Answer
  | done (ready : Bool) (hashes : Option Str)
  | failed
  | cancelled

/-- The registration is acknowledged. -/
def Device.acknowledge (dev : Device) (ready : Bool) : Device :=
  { dev with connection := dev.connection.map fun connection =>
      { connection with registrationReady := ready } }

/-- The `EXECUTE_VERIFY_APK` is on the wire: its answer is waited for. -/
def awaitVerification (dev : Device) (h : Handler) (now : Nat) (deviceId : DeviceId)
    (entry : SelfUpdate) : Turn where
  device := dev.assign entry fun current => { current with timeoutTask := some now }
  handler := h.at .answering
  started := some
    { kind := .verify, deviceId := deviceId, correlationId := entry.correlationId,
      announcement := entry.announcement }

/-- A handler that is resumed. -/
def resume (ws : Socket) (dev : Device) (h : Handler) (now : Nat) (deviceId : DeviceId) :
    Point → Answer → Turn
  | .answering, .done _ _ => { device := dev, handler := h.at .receive }
  | .completing versionCode, .done ready _ =>
    if dev.ownedBy ws then resolvePendingRetire (dev.acknowledge ready) h deviceId versionCode
    else { device := dev, handler := h.at .receive }
  | .retireResolved versionCode, .done _ _ => resolvePendingSelfUpdate dev h versionCode
  | .resultSent entry success, .done _ _ =>
    { device := dev, handler := h.at (.installStateSent entry success) }
  | .installStateSent entry success, .done _ _ => settleSelfUpdate ws dev h entry success
  | .verifySending entry, .done _ _ => awaitVerification dev h now deviceId entry
  | .verifySending entry, .failed =>
    deleteSelfUpdate ws dev h [.selfUpdateVerified entry.announcement]
  | .hashing draft, .done _ hashes => createSelfUpdate dev h now deviceId draft hashes
  | .closing, .done _ _ =>
    if dev.connection.isSome then teardown dev h else { device := dev, handler := h.at .closed }
  | .closing, _ => { device := dev, handler := h.at .closed }
  | .receive, _ => { device := dev, handler := h }
  | .closed, _ => { device := dev, handler := h }
  | _, _ => leave ws dev h

/-! ### Timers -/

/-- What a timer does when it has slept. `saved` says whether `save_registry` has raised. -/
def fire (dev : Device) (timer : Timer) (saved : Bool) : Device × List Event :=
  match timer.kind with
  | .selfUpdate =>
    match dev.selfUpdate with
    | none => (dev, [])
    | some entry =>
      if entry.correlationId = timer.correlationId ∧ entry.phase = .updating then
        ({ dev with selfUpdate := none },
          [.selfUpdateResult entry.announcement
            (if entry.identityKind = .legacy then .untracked else .timeout)])
      else (dev, [])
  | .verify =>
    match dev.selfUpdate with
    | none => (dev, [])
    | some entry =>
      if entry.correlationId = timer.correlationId ∧ entry.phase = .verifying then
        ({ dev with selfUpdate := none }, [.selfUpdateVerified entry.announcement])
      else (dev, [])
  | .retire =>
    match dev.pendingRetire with
    | none => (dev, [])
    | some entry =>
      if entry.correlationId ≠ timer.correlationId then (dev, [])
      else if dev.connection.isSome then
        ({ dev with pendingRetire := none },
          [.retireResult entry.announcement timer.deviceId false])
      else
        match dev.retired with
        | none =>
          ({ dev with pendingRetire := none },
            [.retireResult entry.announcement timer.deviceId true])
        | some _ =>
          ({ dev with pendingRetire := none, retired := some true },
            .retireFlagged entry.announcement timer.deviceId ::
              if saved then [.retireResult entry.announcement timer.deviceId true] else [])

/-! ### The server -/

/-- The state of the server. `time` numbers the steps. -/
structure State where
  devices : DeviceId → Device := fun _ => {}
  handlers : Socket → Option Handler := fun _ => none
  timers : Nat → Option Timer := fun _ => none
  log : List Event := []
  time : Nat := 0

/-- What can happen next. -/
inductive Label
  | connect (ws : Socket) (remote : Option Str)
  | message (ws : Socket) (message : Message) (saved : Bool)
  | close (ws : Socket)
  | resume (ws : Socket) (answer : Answer)
  | fire (timer : Nat) (saved : Bool)
  | forgetDevice (deviceId : DeviceId)
  | dispatched (deviceId : DeviceId) (dispatch : Dispatch)
  | transfer (deviceId : DeviceId) (task : Str) (live : Bool)
  | restart (registry : DeviceId → Option Bool)

namespace State

variable (s : State)

/-- The state after a turn of a handler. -/
def apply (ws : Socket) (deviceId : DeviceId) (turn : Turn) : State where
  devices := Function.update s.devices deviceId turn.device
  handlers := Function.update s.handlers ws (some turn.handler)
  timers := fun t =>
    if t = s.time ∧ turn.started.isSome then turn.started
    else if t ∈ turn.cancelled then none else s.timers t
  log := s.log ++ turn.events
  time := s.time + 1

/-- The state after a handler has moved without regard to a device. -/
def park (ws : Socket) (h : Handler) (events : List Event) : State :=
  { s with
    handlers := Function.update s.handlers ws (some h)
    log := s.log ++ events
    time := s.time + 1 }

/-- The `REGISTER` branch. -/
def handleRegister (ws : Socket) (h : Handler) (data : RegisterData) (saved : Bool) : State :=
  match h.request data with
  | .reject => s.park ws (h.at .rejecting) (received data)
  | .provisional => s.park ws { h.at .answering with provisional := true } (received data)
  | .again => s.park ws (h.at .answering) (received data)
  | .claim kind deviceId versionCode =>
    s.apply ws deviceId
      ((claimDevice ws (s.devices deviceId) h s.time kind deviceId versionCode saved).after
        (received data))
  | .raise =>
    match h.deviceId with
    | none => s.park ws (h.at .closed) (received data)
    | some deviceId =>
      s.apply ws deviceId ((leave ws (s.devices deviceId) h).after (received data))

/-- A message for a handler that waits for one. -/
def handleMessage (ws : Socket) (h : Handler) (message : Message) (saved : Bool) : State :=
  match message with
  | .register data => s.handleRegister ws h data saved
  | message =>
    match h.deviceId with
    | none => s.park ws h []
    | some deviceId =>
      if !(s.devices deviceId).ownedBy ws then s.park ws h []
      else s.apply ws deviceId (handleOwn ws (s.devices deviceId) h s.time deviceId message)

/-- One step. -/
def step (label : Label) : State :=
  match label with
  | .connect ws remote =>
    match s.handlers ws with
    | none => s.park ws { remote := remote } []
    | some _ => s
  | .message ws message saved =>
    match s.handlers ws with
    | none => s
    | some h =>
      match h.point with
      | .receive => s.handleMessage ws h message saved
      | _ => s
  | .close ws =>
    match s.handlers ws with
    | none => s
    | some h =>
      match h.point with
      | .receive =>
        match h.deviceId with
        | none => s.park ws (h.at .closed) []
        | some deviceId => s.apply ws deviceId (leave ws (s.devices deviceId) h)
      | _ => s
  | .resume ws answer =>
    match s.handlers ws with
    | none => s
    | some h =>
      match h.deviceId with
      | some deviceId =>
        s.apply ws deviceId
          (Connections.resume ws (s.devices deviceId) h s.time deviceId h.point answer)
      | none =>
        match h.point, answer with
        | .answering, .done _ _ => s.park ws (h.at .receive) []
        | .receive, _ => s
        | .closed, _ => s
        | _, _ => s.park ws (h.at .closed) []
  | .fire t saved =>
    match s.timers t with
    | none => s
    | some timer =>
      { s with
        devices := Function.update s.devices timer.deviceId
          (Connections.fire (s.devices timer.deviceId) timer saved).1
        timers := Function.update s.timers t none
        log := s.log ++ (Connections.fire (s.devices timer.deviceId) timer saved).2
        time := s.time + 1 }
  | .forgetDevice deviceId =>
    if (s.devices deviceId).connection.isSome then s
    else
      { s with
        devices := Function.update s.devices deviceId
          { s.devices deviceId with retired := none, pendingRetire := none }
        timers := fun t => if t ∈ (s.devices deviceId).retireTimer then none else s.timers t
        time := s.time + 1 }
  | .dispatched deviceId dispatch =>
    { s with
      devices := Function.update s.devices deviceId
        { s.devices deviceId with
          lastInstallDispatch := some dispatch
          transfers := Function.update (s.devices deviceId).transfers taskInstall true }
      time := s.time + 1 }
  | .transfer deviceId task live =>
    { s with
      devices := Function.update s.devices deviceId
        { s.devices deviceId with
          transfers := Function.update (s.devices deviceId).transfers task live }
      time := s.time + 1 }
  | .restart registry =>
    { devices := fun deviceId => { retired := registry deviceId }
      log := s.log
      time := s.time + 1 }

end State

end StylyMdm.Connections
