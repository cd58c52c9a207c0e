import StylyMdm.Library.Coop
import StylyMdm.PushJobs.Queries

/-!
# The process around the store

The state of `PushRuntime` and `PushScheduler`: live sessions, device locks, futures and the store
itself, and the steps their coroutines are made of. The coroutines are programs of
`StylyMdm.Library.Coop`: they run on one event loop and give up control only where they await.

A store call is queued for the database thread when it is issued, and the queue is worked off in
order. So the call takes effect where it is issued, and its answer arrives at some later resumption.
When the process dies with calls in the queue, those calls have never happened: `stopped` is set
from the first of them on. `publish` only records a snapshot for the publication loop and never
suspends; it is left out.

`log` is a history: every store call with the state it found, every frame that was written, and
every registration that ended without a session, with the store it left. No program reads it.

**Awaits** (`Wait`) are the answer of the store, the device lock, a frame from the wire or its
delivery, a future, a sleep, and the wake event of the scheduler. What may be answered is
`Wait.Answer`, and when it may arrive is `Server.enabled`: the lock only when it is free or the task
is next in line, a store call when it was issued, a timeout at any time.

**Primitive steps** are the reads and writes of the memory between awaits. Each is one `sync` of the
program, so a coroutine can be compared with its source line by line.
-/

namespace StylyMdm.Runtime

open PushJobs Coop

/-! ### Data -/

/-- The time-outs of `PushRuntime`, in milliseconds, and `MDM_ALLOW_LEGACY_PUSH`. -/
structure Config where
  acceptTimeoutMs : Nat
  acceptReconciliationTimeoutMs : Nat
  reconciliationTimeoutMs : Nat
  allowLegacy : Bool
deriving DecidableEq, Repr

/-- `LiveSession`. A WebSocket is named by the number of the task that serves it. -/
structure LiveSession where
  sessionId : Nat
  ws : Nat
  capabilities : List String
  processInstanceId : Option String
  httpBase : String
deriving DecidableEq, Repr

/-- The entry of the established server for a device, `legacy.devices[device_id]`. -/
structure DeviceEntry where
  ws : Nat
  canonical : Bool
  registrationReady : Bool := false
deriving DecidableEq, Repr

/-- `EXECUTE_PUSH_FILES`. The last five entries are sent to job-v1 clients only. -/
structure ExecuteCommand where
  bundleUrl : String
  bundleFilename : Option String
  destPath : String
  deleteExtras : Bool
  jobV1 : Bool
  jobId : JobId
  attempt : Nat := 1
  revision : Nat
  artifactId : String
  artifactSize : Option Nat
  artifactSha256 : Option String
deriving DecidableEq, Repr

/-- The frames the runtime writes to a device. -/
inductive Frame
  | registered (sessionId : Nat)
  | executePushFiles (command : ExecuteCommand)
  | reconcileRequest (jobId : JobId) (attempt : Nat) (artifactId : Option String)
  | resultAck (jobId : JobId) (accepted : Bool) (revision : Option Nat) (reason : Option String)
deriving DecidableEq, Repr

/-- The `type` of a device message. -/
inductive MessageType
  | pushJobAccepted
  | pushJobRejected
  | pushTransferComplete
  | pushPhase
  | pushReconcileReport
  | downloadComplete
  | pushFilesResult
  | other
deriving DecidableEq, Repr

instance optionalTextLawfulBEq : LawfulBEq (Option String) := inferInstance

/-- The entries of a device message that the handlers read. An entry that is missing or not of the
type a handler asks for is `none`; the counts of a result are Booleans of Python neither. -/
structure Payload where
  type : MessageType
  task : Option String := none
  jobId : Option String := none
  attempt : AttemptValue := .other
  status : Option String := none
  phase : Option String := none
  reason : Option String := none
  detail : Option String := none
  error : Option String := none
  failureCode : Option String := none
  artifactId : Option String := none
  receivedSize : Option Int := none
  added : Option Int := none
  updated : Option Int := none
  deleted : Option Int := none
  activeJob : Option ActiveReport := none
deriving DecidableEq, Repr

/-- The `push_runtime` entry of a `REGISTER`: no usable entry, `active` null, or `active` an
object. -/
inductive RuntimeReport
  | missing
  | idle
  | active (report : ActiveReport)
deriving DecidableEq, Repr

/-- What a `REGISTER` tells the runtime, after `parse_capabilities` and `_uuid_v4_or_none`. -/
structure Registration where
  deviceId : DeviceId
  canonical : Bool
  capabilities : List String
  processInstanceId : Option String
  httpBase : String
  pushRuntime : RuntimeReport
deriving DecidableEq, Repr

/-- `attempt == 1` of Python, which also holds of `True`. -/
def isOne (attempt : AttemptValue) : Bool := attempt ≠ .other

/-- The outcomes `command_response` hands to a waiting dispatch. -/
inductive CommandOutcome
  | accepted
  | busy
  | rejected
deriving DecidableEq, Repr

/-- An `asyncio.Future`. -/
inductive Future (β : Type)
  | pending
  | cancelled
  | result (value : β)
deriving DecidableEq, Repr

/-- `Future.done`. -/
def Future.done {β : Type} : Future β → Bool
  | .pending => false
  | _ => true

/-- `future.cancel()`. -/
def Future.cancel {β : Type} : Future β → Future β
  | .pending => .cancelled
  | future => future

/-- An entry of `_dispatch_waiters`, with the task it belongs to. -/
structure DispatchWaiter where
  task : Nat
  key : JobId × DeviceId
  transferFuture : Nat
  acceptFuture : Option Nat
deriving DecidableEq, Repr

/-! ### State -/

/-- The variables of the process. A device lock is the queue of the tasks that want it; the first
one has it. -/
structure Memory where
  sessions : DeviceId → Option LiveSession := fun _ => none
  registrationCandidates : DeviceId → Option Nat := fun _ => none
  devices : DeviceId → Option DeviceEntry := fun _ => none
  deviceLocks : DeviceId → List Nat := fun _ => []
  acceptWaiters : JobId × DeviceId → Option Nat := fun _ => none
  transfers : JobId × DeviceId → Option Nat := fun _ => none
  dispatchWaiters : List DispatchWaiter := []
  acceptFutures : Nat → Future (CommandOutcome × Payload) := fun _ => .pending
  transferFutures : Nat → Future String := fun _ => .pending
  nextFuture : Nat := 0
  nextSession : Nat := 0
  wake : Bool := false

namespace Memory

/-- `_legacy_owns_device`. -/
def ownsDevice (m : Memory) (deviceId : DeviceId) (ws : Nat) : Bool :=
  (m.devices deviceId).any fun entry => entry.ws = ws

/-- `command_allowed` for the push frames: only a canonical device that is ready. -/
def commandAllowed (m : Memory) (deviceId : DeviceId) : Bool :=
  (m.devices deviceId).any fun entry => entry.registrationReady && entry.canonical

/-- `_dispatch_sessions().get(device_id)`. -/
def dispatchSession (m : Memory) (deviceId : DeviceId) : Option LiveSession :=
  (m.sessions deviceId).filter fun session =>
    (m.registrationCandidates deviceId = none ||
      m.registrationCandidates deviceId = some session.ws) &&
    m.ownsDevice deviceId session.ws && m.commandAllowed deviceId

/-- The check `RuntimeWebSocketResponse.send_str` makes before it writes. -/
def sendAllowed (m : Memory) (deviceId : DeviceId) (ws : Nat) : Bool :=
  m.ownsDevice deviceId ws && (m.sessions deviceId).any (fun session => session.ws = ws) &&
    m.commandAllowed deviceId

/-- `has_live_acceptance_waiter`. A task removes its entry of `_dispatch_waiters` before it ends. -/
def hasLiveAcceptanceWaiter (m : Memory) (jobId : JobId) (deviceId : DeviceId) : Bool :=
  match m.acceptWaiters (jobId, deviceId) with
  | none => false
  | some future =>
    !(m.acceptFutures future).done && m.dispatchWaiters.any fun waiter =>
      waiter.key = (jobId, deviceId) && waiter.acceptFuture = some future

end Memory

/-- What the process did. -/
inductive Entry
  | called (store : Store) (memory : Memory) (call : RuntimeCall)
  | wrote (ws : Nat) (deviceId : DeviceId) (frame : Frame)
  | dropped (store : Store) (deviceId : DeviceId)

/-- The shared state. -/
structure Server where
  store : Store := .initial
  memory : Memory := {}
  clock : Millis := 0
  stopped : Bool := false
  log : List Entry := []

namespace Server

/-- Issue a store call. -/
def called (s : Server) (call : RuntimeCall) : Server :=
  if s.stopped then s
  else
    { s with
      store := s.store.runtimeStep true (s.clock, call)
      log := s.log ++ [.called s.store s.memory call] }

/-- Change the variables. -/
def withMemory (s : Server) (f : Memory → Memory) : Server := { s with memory := f s.memory }

/-- Add to the history. -/
def record (s : Server) (entry : Entry) : Server := { s with log := s.log ++ [entry] }

end Server

/-! ### Awaiting -/

/-- An exception of `send_str`. `CommandNotAllowedError` and `ConnectionOwnerChanged` are connection
errors. -/
inductive SendError
  | connection (message : String)
  | timeout
  | other (message : String)
deriving DecidableEq, Repr

/-- `except (ConnectionError, asyncio.TimeoutError)`. -/
def SendError.isExpected : SendError → Bool
  | .other _ => false
  | _ => true

/-- What comes from a device WebSocket: a message, another `REGISTER`, the frame that closes it, or
nothing more because the connection is lost. -/
inductive Received
  | message (payload : Payload)
  | register
  | close
  | lost
deriving DecidableEq, Repr

/-- What the coroutines await. A send waits for its turn at the socket, then for the write to be
flushed. -/
inductive Wait
  | transferSlot
  | deviceLock (deviceId : DeviceId)
  | sendTurn (ws : Nat)
  | sending (ws : Nat)
  | acceptFuture (future : Nat)
  | transferFuture (future : Nat)
  | store (answered : Bool)
  | sleep
  | wake
  | receive
deriving DecidableEq, Repr

/-- What is awaited comes back with this. `none` is the time-out of a future and the success of a
send. -/
def Wait.Answer : Wait → Type
  | .sendTurn _ | .sending _ => Option SendError
  | .acceptFuture _ => Option (CommandOutcome × Payload)
  | .transferFuture _ => Option String
  | .receive => Received
  | _ => Unit

/-- Can this answer arrive? -/
def Server.enabled (task : Nat) (s : Server) : (what : Wait) → what.Answer → Bool
  | .deviceLock deviceId, _ => (s.memory.deviceLocks deviceId).head? = some task
  | .acceptFuture future, none => s.memory.acceptFutures future = .pending
  | .acceptFuture future, some value => s.memory.acceptFutures future = .result value
  | .transferFuture future, none => s.memory.transferFutures future = .pending
  | .transferFuture future, some value => s.memory.transferFutures future = .result value
  | .store answered, _ => answered
  | .wake, _ => s.memory.wake
  | _, _ => true

/-- The tasks: the loop of the scheduler and its inner loop, a dispatch, the retry of its recovery,
a WebSocket from its `REGISTER` on, its receive loop, an administrator's `RECONCILE_PUSH_DEVICE`,
and the sweeps. -/
inductive Task
  | run
  | claims
  | dispatch (jobId : JobId) (deviceId : DeviceId)
  | recover (jobId : JobId) (deviceId : DeviceId) (error : String)
  | socket (registration : Registration)
  | serve (deviceId : DeviceId)
  | reconcile (deviceId : DeviceId)
  | housekeeping
deriving DecidableEq, Repr

/-- A coroutine. -/
abbrev Program (β : Type) : Type := Prog Server Wait Wait.Answer Task β

/-! ### Primitive steps -/

/-- Read the variables. -/
def memory : Program Memory := .sync id fun s => .done s.memory

/-- `now_ms()`. -/
def nowMs : Program Millis := .sync id fun s => .done s.clock

/-- Change the variables. -/
def setMemory (f : Memory → Memory) : Program Unit := .modify fun s => s.withMemory f

/-- Await a store call, and go on with what it makes of the state it finds. -/
def issue {β : Type} (c : RuntimeCall) (answer : Server → β) : Program β :=
  .sync (fun s => s.called c) fun s => .await (.store !s.stopped) fun _ => .done (answer s)

/-- Await a store call: its answer, with the store it committed. -/
def call (c : RuntimeCall) : Program (Except StoreError (Reply × Store)) :=
  issue c fun s => (c.op.run true s.clock s.store).map fun r => (r.2, r.1)

/-- Await a query. -/
def query {β : Type} (f : Store → β) : Program β :=
  .sync id fun s => .await (.store !s.stopped) fun _ => .done (f s.store)

/-- Await the answer to a command; `none` is the time-out. -/
def waitAccept (future : Nat) : Program (Option (CommandOutcome × Payload)) :=
  .await (.acceptFuture future) .done

/-- Await the end of a transfer; `none` is the time-out. -/
def waitTransfer (future : Nat) : Program (Option String) :=
  .await (.transferFuture future) .done

/-- `async with self.transfer_slots()`; the slots are shared with other transfers. -/
def waitSlot : Program Unit := .await .transferSlot .done

/-- `self._wake.wait()`. -/
def waitWake : Program Unit := .await .wake .done

/-- Await the next frame of the WebSocket. -/
def receive : Program Received := .await .receive .done

/-- `asyncio.sleep`. -/
def sleep : Program Unit := .await .sleep .done

/-- `await lock.acquire()`: no suspension when nobody has or wants the lock. The last step changes
nothing: from there on the task has the lock. -/
def acquire (self : Nat) (deviceId : DeviceId) : Program Unit :=
  .sync (fun s => s.withMemory fun m =>
      { m with
        deviceLocks := Function.update m.deviceLocks deviceId (m.deviceLocks deviceId ++ [self]) })
    fun s =>
      if s.memory.deviceLocks deviceId = [] then .done ()
      else .await (.deviceLock deviceId) fun _ => .sync id fun _ => .done ()

/-- `lock.release()`: the next one in the queue has the lock. -/
def release (deviceId : DeviceId) : Program Unit :=
  setMemory fun m =>
    { m with
      deviceLocks := Function.update m.deviceLocks deviceId (m.deviceLocks deviceId).tail }

/-- `ws.send_str(frame)`. -/
def sendStr (ws : Nat) (deviceId : DeviceId) (frame : Frame) : Program (Option SendError) :=
  .await (.sendTurn ws) fun
    | some error => .done (some error)
    | none =>
      let allowed (s : Server) : Bool :=
        match frame with
        | .registered _ => true
        | _ => s.memory.sendAllowed deviceId ws
      .sync (fun s => if allowed s then s.record (.wrote ws deviceId frame) else s) fun s =>
        if allowed s then .await (.sending ws) fun error => .done error
        else .done (some (.connection "Device is not ready or command is not allowed"))

/-- `PushScheduler.wake`. -/
def wake : Program Unit := setMemory fun m => { m with wake := true }

/-- `TransferRegistry.release_exact`. -/
def Memory.releaseExact (m : Memory) (jobId : JobId) (deviceId : DeviceId) (reason : String) :
    Memory :=
  match m.transfers (jobId, deviceId) with
  | none => m
  | some future =>
    if (m.transferFutures future).done then m
    else { m with transferFutures := Function.update m.transferFutures future (.result reason) }

/-- `TransferRegistry.release_exact`, as a step. -/
def releaseExact (jobId : JobId) (deviceId : DeviceId) (reason : String) : Program Unit :=
  setMemory fun m => m.releaseExact jobId deviceId reason

end StylyMdm.Runtime
