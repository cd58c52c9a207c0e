import StylyMdm.Handshake.Client

/-!
# The server's side of a registration

`device_ws_handler` and the runtime behind it, as far as they decide which socket a device belongs
to, what is written to a socket and what is forwarded to the admins. A handler runs from one await
to the next in one piece; `Point` says where it is suspended. The lock of the device and the store
only delay a handler, so an await may take any time, and may fail.

Every frame of the server goes through `RuntimeWebSocketResponse.send_str`, which looks at the
registration of the socket again when it has the socket for itself (`permits`). A command waits for
that in `sending`.

**The books** are four dictionaries: `devices` and `provisional_connections` of `server.py`, and
`sessions` and `registration_candidates` of the push runtime. An entry is ready once the client has
been told of it; only then may commands be sent to it (`Entry.allows`, `Provisional.allows`).

**Leaving.** A handler that ends goes through its `finally` block, which removes the entries that
are its own, and `disconnect_device` of the runtime removes its session. When the peer closes the
socket, `disconnect_device` runs first; after a lost connection it runs when the handler has
returned (`Point.afterwards`).
-/

namespace StylyMdm.Handshake

open Text Py Registry

/-! ### Data -/

/-- An entry of `devices`. -/
structure Entry where
  ws : Socket
  identityKind : IdentityKind
  registrationReady : Bool
deriving DecidableEq

/-- An entry of `provisional_connections`. -/
structure Provisional where
  registrationReady : Bool
  connectionId : Str
  identity : ProvisionalIdentity
  capabilities : List Str
deriving DecidableEq

/-- Where a handler is suspended. -/
inductive Point
  /-- The next message. -/
  | receive
  /-- An await after which only the next message follows. -/
  | answering
  /-- The `REGISTERED_PROVISIONAL`, before it is written and after. -/
  | issuing (connectionId : Str)
  | issued (connectionId : Str)
  /-- `register_device`, before it has the lock. -/
  | registering
  /-- The store, under the lock. -/
  | reconciling
  /-- The `REGISTERED`, before it is written and after. -/
  | acknowledging
  | acknowledged
  /-- What follows `register_device`. -/
  | completed
  /-- The `REGISTERED` of `acknowledge_registration`. -/
  | reacknowledging
  /-- `_close_protocol_error`. -/
  | rejecting
  /-- `disconnect_device`, before it has the lock and after. -/
  | disconnecting
  | leaving
  /-- The `SELF_UPDATE_VERIFIED` of the `finally` block, of the socket that owned the device. `lost`
  says that the connection was lost. -/
  | closing (lost : Bool)
  /-- The handler has returned from a lost connection: `close` calls `disconnect_device`. -/
  | departing
  /-- The handler is over. -/
  | closed
deriving DecidableEq

/-- What follows the `finally` block. -/
def Point.afterwards (lost : Bool) : Point := if lost then .departing else .closed

/-- A handler with its local variables. `pushDeviceId` is an attribute of its socket. `issued` is
the connection id it has given to its socket, which no function reads. -/
structure Handler where
  remote : Option Str := none
  deviceId : Option DeviceId := none
  identityKind : Option IdentityKind := none
  provisional : Bool := false
  pushDeviceId : Option DeviceId := none
  issued : Option Str := none
  point : Point := .receive
deriving DecidableEq

/-- A command that waits to be written. -/
structure Sending where
  socket : Socket
  command : Command
deriving DecidableEq

/-- `sessions` and `registration_candidates` belong to the runtime. -/
structure Server where
  devices : DeviceId → Option Entry := fun _ => none
  provisional : Socket → Option Provisional := fun _ => none
  sessions : DeviceId → Option Socket := fun _ => none
  candidates : DeviceId → Option Socket := fun _ => none
  handlers : Socket → Option Handler := fun _ => none
  sending : List Sending := []

/-! ### The policy -/

/-- `command_allowed` for an entry of `devices`. -/
def Entry.allows (entry : Entry) (command : CommandType) : Bool :=
  entry.registrationReady &&
    match entry.identityKind with
    | .canonical => true
    | .legacy => command = .install

/-- `command_allowed` for a provisional entry. -/
def Provisional.allows (entry : Provisional) (command : CommandType) : Bool :=
  entry.registrationReady && command.isPower &&
    decide (provisionalPowerCapability ∈ entry.capabilities)

namespace Server

variable (s : Server) (ws : Socket)

/-- `_owns_device`. -/
def owns (deviceId : DeviceId) (ws : Socket) : Bool :=
  (s.devices deviceId).any fun entry => entry.ws = ws

/-- The tests of `send_str` for a command. -/
def permits (command : Command) : Bool :=
  match s.provisional ws with
  | some entry =>
    command.type.isPower && command.connectionId = some entry.connectionId &&
      entry.allows command.type
  | none =>
    match (s.handlers ws).bind Handler.pushDeviceId with
    | none => false
    | some deviceId =>
      (s.devices deviceId).any fun entry =>
        entry.ws = ws && s.sessions deviceId = some ws && command.connectionId.isNone &&
          entry.allows command.type

/-! ### Changes -/

/-- The handler of the socket becomes `h`. -/
def setHandler (h : Handler) : Server :=
  { s with handlers := Function.update s.handlers ws (some h) }

/-- The entry of `devices` under `deviceId`. -/
def setDevice (deviceId : DeviceId) (entry : Option Entry) : Server :=
  { s with devices := Function.update s.devices deviceId entry }

/-- The entry of `provisional_connections` of the socket. -/
def setProvisional (entry : Option Provisional) : Server :=
  { s with provisional := Function.update s.provisional ws entry }

/-- The session of the push runtime under `deviceId`. -/
def setSession (deviceId : DeviceId) (session : Option Socket) : Server :=
  { s with sessions := Function.update s.sessions deviceId session }

/-- The registration candidate under `deviceId`. -/
def setCandidate (deviceId : DeviceId) (candidate : Option Socket) : Server :=
  { s with candidates := Function.update s.candidates deviceId candidate }

/-- The handler of one socket changes. -/
theorem setHandler_handlers (h : Handler) (ws' : Socket) :
    (s.setHandler ws h).handlers ws' = if ws' = ws then some h else s.handlers ws' :=
  Function.update_apply ..

/-- The entry of one device changes. -/
theorem setDevice_devices (deviceId deviceId' : DeviceId) (entry : Option Entry) :
    (s.setDevice deviceId entry).devices deviceId' =
      if deviceId' = deviceId then entry else s.devices deviceId' :=
  Function.update_apply ..

/-- The provisional entry of one socket changes. -/
theorem setProvisional_provisional (entry : Option Provisional) (ws' : Socket) :
    (s.setProvisional ws entry).provisional ws' = if ws' = ws then entry else s.provisional ws' :=
  Function.update_apply ..

/-- The session of one device changes. -/
theorem setSession_sessions (deviceId deviceId' : DeviceId) (session : Option Socket) :
    (s.setSession deviceId session).sessions deviceId' =
      if deviceId' = deviceId then session else s.sessions deviceId' :=
  Function.update_apply ..

/-- The candidate of one device changes. -/
theorem setCandidate_candidates (deviceId deviceId' : DeviceId) (candidate : Option Socket) :
    (s.setCandidate deviceId candidate).candidates deviceId' =
      if deviceId' = deviceId then candidate else s.candidates deviceId' :=
  Function.update_apply ..

/-- `registration_ready` of the entry, if there is one. -/
def setReady (deviceId : DeviceId) (ready : Bool) : Server :=
  s.setDevice deviceId ((s.devices deviceId).map fun entry =>
    { entry with registrationReady := ready })

variable (h : Handler)

/-- The handler goes on at `point`. -/
def park (point : Point) : Server := s.setHandler ws { h with point := point }

/-- The `finally` block. `verifying` says that it has an await before the entry of the device is
deleted, and `lost` that the connection was lost. -/
def leave (verifying : Bool) (lost : Bool := false) : Server :=
  let s := s.setProvisional ws none
  match h.deviceId with
  | none => s.park ws h (.afterwards lost)
  | some deviceId =>
    if !s.owns deviceId ws then s.park ws h (.afterwards lost)
    else if verifying then s.park ws h (.closing lost)
    else (s.setDevice deviceId none).park ws h (.afterwards lost)

/-! ### Messages -/

/-- The first `REGISTER` of a socket with an identity: it is promoted to the device. `saved` says
whether `save_registry` has raised. -/
def promote (kind : IdentityKind) (deviceId : DeviceId) (saved verifying : Bool) : Server :=
  let s := (s.setProvisional ws none).setDevice deviceId (some ⟨ws, kind, false⟩)
  let h :=
    { h with deviceId := some deviceId, identityKind := some kind, provisional := false }
  if saved then
    (s.setCandidate deviceId (some ws)).park ws { h with pushDeviceId := some deviceId }
      .registering
  -- the exception ends the handler, which already owns the device
  else s.leave ws h verifying

/-- The provisional `REGISTER` branch. `connectionId` is a new one. -/
def registerProvisional (identity : ProvisionalIdentity) (capabilities : List Str)
    (connectionId : Str) : Server :=
  let previous := s.provisional ws
  -- a socket that registers again keeps its connection id
  let connectionId := (previous.map Provisional.connectionId).getD connectionId
  let ready := previous.any Provisional.registrationReady
  (s.setProvisional ws (some ⟨ready, connectionId, identity, capabilities⟩)).park ws
    { h with provisional := true, issued := some connectionId } (.issuing connectionId)

/-- The `REGISTER` branch. -/
def register (data : RegisterData) (capabilities : Value) (connectionId : Str)
    (saved verifying : Bool) : Server :=
  match claim data h.remote with
  | .raised => s.leave ws h verifying
  | .refused => s.park ws h .rejecting
  | .provisional =>
    match h.deviceId with
    | some _ => s.park ws h .rejecting
    | none =>
      s.registerProvisional ws h (readProvisional data.identity) (parseCapabilities capabilities)
        connectionId
  | .device kind requested =>
    match h.deviceId with
    | some deviceId =>
      if h.identityKind ≠ some kind ∨ requested ≠ deviceId then s.park ws h .rejecting
      else
        -- a registration that is repeated is acknowledged again if it was completed
        match s.devices deviceId with
        | none => s.park ws h .answering
        | some entry =>
          if s.sessions deviceId = some ws ∧ entry.ws = ws ∧ entry.registrationReady then
            s.park ws h .reacknowledging
          else s.park ws h .answering
    | none =>
      if (s.provisional ws).isSome ∧ kind ≠ .canonical then s.park ws h .rejecting
      else s.promote ws h kind requested saved verifying

/-- May a provisional socket give this result? -/
def provisionalResult (result : Result) : Option Str :=
  (s.provisional ws).bind fun entry =>
    if result.type.command.any entry.allows &&
        !(result.connectionId.getD .null).differs (.str entry.connectionId) then
      some entry.connectionId
    else none

/-- The result branch, with the tests before it: whose result is forwarded. -/
def sender (result : Result) : Option Target :=
  match h.deviceId with
  | some deviceId =>
    if !s.owns deviceId ws then none
    -- a power result of the time when the socket was provisional
    else if result.type.command.isSome && result.connectionId.isSome then none
    else some (.device deviceId)
  | none =>
    if h.provisional then (s.provisionalResult ws result).map Target.connection else none

/-! ### Resumptions -/

/-- A session of another socket is given up. -/
def replaceSession (deviceId : DeviceId) : Server :=
  if s.sessions deviceId = some ws then s else s.setSession deviceId none

/-- A session of this socket is given up. -/
def endSession (deviceId : DeviceId) : Server :=
  if s.sessions deviceId = some ws then s.setSession deviceId none else s

/-- The candidate goes, if it is this socket. -/
def dropCandidate (deviceId : DeviceId) : Server :=
  if s.candidates deviceId = some ws then s.setCandidate deviceId none else s

/-- Is this the newest registration of the device? -/
def isCandidate (deviceId : DeviceId) : Bool :=
  s.candidates deviceId = some ws && s.owns deviceId ws

/-- `disconnect_device`, when it has the lock. -/
def disconnectDevice (deviceId : DeviceId) : Server :=
  let s := s.dropCandidate ws deviceId
  if s.sessions deviceId ≠ some ws then s
  else
    let s := s.setSession deviceId none
    if s.owns deviceId ws then s.setReady deviceId false else s

/-- A handler is resumed; `failed` says that what it has waited for has raised. The frame is written
to its socket. -/
def resume (failed verifying : Bool) : Server × Option Down :=
  match h.point with
  | .receive | .closed => (s, none)
  | .answering =>
    if failed then (s.leave ws h verifying, none) else (s.park ws h .receive, none)
  | .issuing connectionId =>
    if failed then (s.leave ws h verifying, none)
    else (s.park ws h (.issued connectionId), some (.registeredProvisional connectionId))
  | .issued connectionId =>
    if failed then (s.leave ws h verifying, none)
    else
      (((s.setProvisional ws ((s.provisional ws).map fun entry =>
        if entry.connectionId = connectionId then { entry with registrationReady := true }
        else entry)).park ws h .answering), none)
  | .rejecting => (s.park ws h .disconnecting, if failed then none else some .error)
  | .closing lost =>
    match h.deviceId with
    | some deviceId =>
      (if failed then s.park ws h .closed
      else (s.setDevice deviceId none).park ws h (.afterwards lost), none)
    | none => (s.park ws h (.afterwards lost), none)
  | .departing =>
    match h.pushDeviceId with
    | some deviceId =>
      (if failed then s.park ws h .closed
      else (s.disconnectDevice ws deviceId).park ws h .closed, none)
    | none => (s.park ws h .closed, none)
  | .disconnecting =>
    match h.pushDeviceId with
    | some deviceId =>
      if failed then (s.leave ws h verifying, none)
      else ((s.disconnectDevice ws deviceId).park ws h .leaving, none)
    | none => (s.park ws h .leaving, none)
  | .leaving => (s.leave ws h verifying, none)
  | point =>
    match h.deviceId with
    | none => (s.leave ws h verifying, none)
    | some deviceId =>
      match point with
      | .registering =>
        if failed then (s.leave ws h verifying, none)
        else if s.isCandidate ws deviceId then
          ((s.replaceSession ws deviceId).park ws h .reconciling, none)
        else (s.park ws h .completed, none)
      | .reconciling =>
        if failed then (s.leave ws h verifying, none)
        else if s.isCandidate ws deviceId then
          ((s.setSession deviceId (some ws)).park ws h .acknowledging, none)
        else (s.park ws h .completed, none)
      | .acknowledging =>
        if failed then ((s.endSession ws deviceId).leave ws h verifying, none)
        else (s.park ws h .acknowledged, some .registered)
      | .acknowledged =>
        if failed then ((s.endSession ws deviceId).leave ws h verifying, none)
        else if s.owns deviceId ws then
          (((s.setReady deviceId true).dropCandidate ws deviceId).park ws h .completed, none)
        else (s.park ws h .completed, none)
      | .reacknowledging =>
        if failed then (s.leave ws h verifying, none)
        else (s.park ws h .answering, some .registered)
      | _ =>
        if failed then (s.leave ws h verifying, none) else (s.park ws h .receive, none)

/-- The process after a restart: the books are empty, and no handler is left. -/
def restarted : Server where
  handlers ws := (s.handlers ws).map fun h => { h with point := .closed }

end Server

end StylyMdm.Handshake
