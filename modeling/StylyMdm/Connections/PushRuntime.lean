import StylyMdm.Connections.Ownership

/-!
# The push runtime's half of the device handler

The server's WebSocket is a `RuntimeWebSocketResponse`. It hands a claim to `register_device`, every
other frame to `handle_device_message` before the handler sees it, and its closing to
`disconnect_device`. All of this runs in the task of the socket itself, under a lock of the device,
and waits for the store and for the wire in between. A `REGISTER` of another socket takes no lock:
it is noted as the registration candidate in whatever await the others are.

`PushTask` says where the task of a socket is suspended in the push runtime; while it is there, the
handler does not go on. The lock appears as the moment at which a task gets it. That only one task
holds it is not used, so the runs are those of the code and more. What the store answers is not
known either: the slot that the code releases after it comes with the label, out of those that it
can release there.

**Three tests.** `register_device` tests twice, before and after its awaits, that the socket is the
candidate and owns the device; `handle_device_message` tests once that no other socket is the
candidate and that the session is the socket's; `disconnect_device` tests that the session is. What
a task does after an await that follows its test, it does without another one: it releases the slot
of a job whose transfer has ended, whoever the device belongs to by then.

**Slots** are seen device by device as a set of jobs. The scheduler and the housekeeping take and
release slots too; since they are no sockets, a label of their own does so at any time.
-/

namespace StylyMdm.Connections

open Text Py

/-! ### Data -/

/-- What the push runtime holds of one device: its entries of `registration_candidates` and of
`sessions`, by their sockets, and the jobs it holds a live transfer slot for. -/
structure PushDevice where
  candidate : Option Socket := none
  session : Option Socket := none
  slots : Str → Bool := fun _ => false

/-- The frames that `handle_device_message` takes under the lock, with the `job_id` of those of the
job protocol. -/
inductive Frame
  | accepted (jobId : Str)
  | rejected (jobId : Str)
  | transferComplete (jobId : Str)
  | validationComplete (jobId : Str)
  | phase (jobId : Str)
  | result (jobId : Str)
  | reconcileReport (jobId : Str)
  | legacyDownloadComplete
  | legacyResult
deriving DecidableEq

/-- May the code release the slot of this job while it handles the frame? A frame of the job
protocol names its job; for one of the legacy protocol the store names it. -/
def Frame.mayRelease : Frame → Str → Bool
  | .accepted jobId, released => jobId = released
  | .rejected jobId, released => jobId = released
  | .transferComplete jobId, released => jobId = released
  | .validationComplete _, _ => false
  | .phase _, _ => false
  | .result jobId, released => jobId = released
  | .reconcileReport jobId, released => jobId = released
  | .legacyDownloadComplete, _ => true
  | .legacyResult, _ => true

/-- Frames after which a slot may be released. -/
def Frame.releases : Frame → Bool
  | .validationComplete _ => false
  | .phase _ => false
  | _ => true

/-- Where the task of a socket is suspended in the push runtime. -/
inductive PushTask
  /-- It is not in the push runtime. -/
  | idle
  /-- `register_device`, before the lock. -/
  | registering
  /-- `active_assignment_for_device`, after the session of another socket has been removed. -/
  | replacing
  /-- The awaits of `register_device` up to its second test. -/
  | preparing
  /-- The send of `REGISTERED`. -/
  | acknowledging
  /-- `handle_device_message`, before the lock. -/
  | waiting (frame : Frame)
  /-- The awaits of a frame's handling. -/
  | handling (frame : Frame)
  /-- `disconnect_device`, before the lock. -/
  | disconnecting
  /-- `active_assignment_for_device`, after the socket's own session has been removed. -/
  | reading
deriving DecidableEq

/-- Is the task in `register_device`? -/
def PushTask.registers : PushTask → Bool
  | .registering => true
  | .replacing => true
  | .preparing => true
  | .acknowledging => true
  | _ => false

/-- Is the task in an await after which it may release a slot without another test? -/
def PushTask.releases : PushTask → Bool
  | .replacing => true
  | .handling frame => frame.releases
  | .reading => true
  | _ => false

/-- The awaits that can end with an exception, of the store or of the send. Nothing cancels a task
that waits for the lock. -/
def PushTask.raises : PushTask → Bool
  | .replacing => true
  | .preparing => true
  | .acknowledging => true
  | .handling _ => true
  | .reading => true
  | _ => false

/-- What a task does between two awaits in the push runtime. -/
structure PushTurn where
  device : Device
  push : PushDevice
  task : PushTask

/-! ### Between two awaits -/

/-- `release_exact` for the slot of a job. -/
def PushDevice.release (push : PushDevice) (jobId : Str) : PushDevice :=
  { push with slots := Function.update push.slots jobId false }

/-- `release_exact`, where the store may not have named a job. -/
def PushDevice.releaseAny (push : PushDevice) : Option Str → PushDevice
  | none => push
  | some jobId => push.release jobId

section Turns

variable (ws : Socket) (dev : Device) (push : PushDevice)

/-- The test that `register_device` makes twice. -/
def PushDevice.registrable : Bool :=
  push.candidate = some ws && dev.ownedBy ws

/-- `register_device`, from the lock to its first await. -/
def registerDevice : PushTurn :=
  if !push.registrable ws dev then { device := dev, push := push, task := .idle }
  else if push.session.any fun previous => previous ≠ ws then
    { device := dev, push := { push with session := none }, task := .replacing }
  else { device := dev, push := push, task := .preparing }

/-- `handle_device_message`, from the lock to its first await. -/
def handleDeviceMessage (frame : Frame) : PushTurn :=
  if (push.candidate.any fun candidate => candidate ≠ ws) || push.session ≠ some ws then
    { device := dev, push := push, task := .idle }
  else { device := dev, push := push, task := .handling frame }

/-- `registration_candidates.pop`, if the candidate is the socket. -/
def PushDevice.dropCandidate : PushDevice :=
  if push.candidate = some ws then { push with candidate := none } else push

/-- `sessions.pop`, if the session is the socket's. -/
def PushDevice.dropSession : PushDevice :=
  if push.session = some ws then { push with session := none } else push

/-- `disconnect_device`, from the lock to its first await. -/
def disconnectDevice : PushTurn :=
  if push.session ≠ some ws then
    { device := dev, push := push.dropCandidate ws, task := .idle }
  else
    { device := if dev.ownedBy ws then dev.acknowledge false else dev
      push := (push.dropCandidate ws).dropSession ws
      task := .reading }

/-- A task gets the lock. -/
def locked : PushTask → PushTurn
  | .registering => registerDevice ws dev push
  | .waiting frame => handleDeviceMessage ws dev push frame
  | .disconnecting => disconnectDevice ws dev push
  | task => { device := dev, push := push, task := task }

/-- An await ends. `released` is the job whose slot is released then, if one is. That the
registration is ready is noted when the handler goes on. -/
def answered (released : Option Str) : PushTask → PushTurn
  | .replacing => { device := dev, push := push.releaseAny released, task := .preparing }
  | .preparing =>
    if !push.registrable ws dev then { device := dev, push := push, task := .idle }
    else { device := dev, push := { push with session := some ws }, task := .acknowledging }
  | .acknowledging =>
    if !dev.ownedBy ws then { device := dev, push := push, task := .idle }
    else { device := dev, push := push.dropCandidate ws, task := .idle }
  | .handling frame =>
    { device := dev
      push := push.releaseAny (released.filter frame.mayRelease)
      task := .handling frame }
  | .reading => { device := dev, push := push.releaseAny released, task := .idle }
  | task => { device := dev, push := push, task := task }

/-- An await ends with an exception. -/
def raised : PushTask → PushDevice
  | .acknowledging => push.dropSession ws
  | _ => push

end Turns

/-! ### The server with the push runtime -/

/-- The state of the server with that of the push runtime. -/
structure Server where
  core : State := {}
  push : DeviceId → PushDevice := fun _ => {}
  tasks : Socket → PushTask := fun _ => .idle

/-- What can happen next: a step of the handlers and timers, a step of a task in the push runtime,
or a slot that the scheduler or the housekeeping takes or releases. -/
inductive ServerLabel
  | core (label : Label)
  | frame (ws : Socket) (frame : Frame)
  | disconnect (ws : Socket)
  | locked (ws : Socket)
  | answered (ws : Socket) (released : Option Str)
  | finished (ws : Socket)
  | raised (ws : Socket)
  | slot (deviceId : DeviceId) (jobId : Str) (live : Bool)

/-- The socket whose task takes the step. -/
def ServerLabel.socket? : ServerLabel → Option Socket
  | .core label => label.socket?
  | .frame ws _ => some ws
  | .disconnect ws => some ws
  | .locked ws => some ws
  | .answered ws _ => some ws
  | .finished ws => some ws
  | .raised ws => some ws
  | .slot _ _ _ => none

/-- Does the handler wait for a message? -/
def Handler.receives (h : Handler) : Bool :=
  match h.point with
  | .receive => true
  | _ => false

/-- Where the socket is closed: by the peer, after a protocol error, or when the handler has
ended. -/
def Handler.closes (h : Handler) : Bool :=
  match h.point with
  | .receive => true
  | .rejecting => true
  | .closed => true
  | _ => false

namespace Server

variable (s : Server)

/-- The device that the handler of a socket has claimed. -/
def deviceOf (ws : Socket) : Option DeviceId :=
  (s.core.handlers ws).bind fun h => h.deviceId

/-- The state after the task of a socket has moved on. -/
def apply (ws : Socket) (deviceId : DeviceId) (turn : PushTurn) : Server where
  core := { s.core with devices := Function.update s.core.devices deviceId turn.device }
  push := Function.update s.push deviceId turn.push
  tasks := Function.update s.tasks ws turn.task

/-- The task of a socket enters the push runtime, or leaves it. -/
def goto (ws : Socket) (task : PushTask) : Server :=
  { s with tasks := Function.update s.tasks ws task }

/-- A step of the handlers and timers. A claim whose record has been saved goes on to
`note_registration_candidate` and to the lock of `register_device` with no await between. -/
def stepCore (label : Label) : Server :=
  match label with
  | .restart registry => { core := s.core.step (.restart registry) }
  | label =>
    match s.core.claims label with
    | some (ws, deviceId, true) =>
      { core := s.core.step label
        push := Function.update s.push deviceId { s.push deviceId with candidate := some ws }
        tasks := Function.update s.tasks ws .registering }
    | _ => { s with core := s.core.step label }

/-- The handler of a socket goes on only when its task is not in the push runtime. -/
def blocked (label : Label) : Bool :=
  label.socket?.any fun ws => s.tasks ws ≠ .idle

/-- How the handler sees an exception of the push runtime: while it waits for a message, or in the
await that the push runtime is a part of. -/
def exception (ws : Socket) : Label :=
  if (s.core.handlers ws).any Handler.receives then .close ws else .resume ws .failed

/-- One step. -/
def step : ServerLabel → Server
  | .core label => if s.blocked label then s else s.stepCore label
  | .frame ws frame =>
    match s.core.handlers ws with
    | none => s
    | some h =>
      if s.tasks ws = .idle ∧ h.receives ∧ h.deviceId.isSome then s.goto ws (.waiting frame)
      else s
  | .disconnect ws =>
    match s.core.handlers ws with
    | none => s
    | some h =>
      if s.tasks ws = .idle ∧ h.closes ∧ h.deviceId.isSome then s.goto ws .disconnecting else s
  | .locked ws =>
    match s.deviceOf ws with
    | none => s
    | some deviceId =>
      s.apply ws deviceId
        (Connections.locked ws (s.core.devices deviceId) (s.push deviceId) (s.tasks ws))
  | .answered ws released =>
    match s.deviceOf ws with
    | none => s
    | some deviceId =>
      s.apply ws deviceId
        (Connections.answered ws (s.core.devices deviceId) (s.push deviceId) released (s.tasks ws))
  | .finished ws =>
    match s.tasks ws with
    | .handling _ => s.goto ws .idle
    | _ => s
  | .raised ws =>
    match s.deviceOf ws with
    | none => s
    | some deviceId =>
      if (s.tasks ws).raises then
        { core := s.core.step (s.exception ws)
          push := Function.update s.push deviceId
            (Connections.raised ws (s.push deviceId) (s.tasks ws))
          tasks := Function.update s.tasks ws .idle }
      else s
  | .slot deviceId jobId live =>
    { s with
      push := Function.update s.push deviceId
        { s.push deviceId with slots := Function.update (s.push deviceId).slots jobId live } }

end Server

end StylyMdm.Connections
