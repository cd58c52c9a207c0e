import StylyMdm.Client.Codec

/-!
# `PushJobCoordinator`

The actor that owns every Push/Sync execution on the device. All its work runs on one thread, so an
event is handled to its end before the next one; a handler is a function of the coordinator into
the new coordinator and the list of what it does to the outside, in order: saving the state,
sending a message, starting the worker, cleaning up.

The order matters because the process can be killed at any point. A kill inside a handler performs
a first part of the list and loses the memory; `Device.step` has both cases. The worker runs on its
own thread and talks back through callbacks, which are events of the actor like all others.

**Saving.** A save fails or replaces the file at once. `persist` takes the new state into memory
only when its save went well, so a handler that goes on after a failed save has the old state. The
saved state is trimmed with the time of the save.

**Starting.** `Coordinator.start` reads the file, records an execution that was active as
interrupted, and saves the result. It reads the clock three times (`StartClock`): when the file is
trimmed, for the result, and for the save. If this save fails, the coordinator keeps the empty state
it was constructed with and refuses every command until the process ends.
-/

namespace StylyMdm.Client

/-- The `reason` of a `PUSH_JOB_REJECTED`. -/
inductive RejectReason
  | deviceBusy
  | artifactIdentityMismatch
  | persistenceUnavailable
  | malformed (message : String)
deriving DecidableEq, Repr

/-- The text of a reason; a malformed command is named by the part of its message before the colon.
-/
def RejectReason.text : RejectReason → String
  | .deviceBusy => "device_busy"
  | .artifactIdentityMismatch => "artifact_identity_mismatch"
  | .persistenceUnavailable => "client_persistence_unavailable"
  | .malformed message => ((message.splitOn ":").head?).getD ""

/-- The messages the coordinator sends. -/
inductive Message
  | accepted (jobId : Option String) (attempt : Int) (phase : Phase)
  | rejected (jobId : Option String) (attempt : Int) (reason : RejectReason) (retryable : Bool)
      (detail : Option String) (activeJob : Option (Option String × Int))
  | transferComplete (jobId : Option String) (attempt : Int) (artifactId : Option String)
      (receivedSize : Int)
  | downloadComplete (job : Option (Option String × Int × Option String)) (destPath : String)
      (deleteExtras : Bool)
  | phase (jobId : Option String) (attempt : Int) (phase : Phase)
  | result (result : Result)
  | reportActive (jobId : String) (attempt : Int) (phase : Phase)
  | reportAbsent (jobId : String) (attempt : Int)
deriving DecidableEq, Repr

/-- What a handler does to the outside. A save carries the state it writes, the value of the clock
and the receipt it records, if it records one. -/
inductive Action
  | save (now : Int) (state : State) (recorded : Option Receipt)
  | send (message : Message)
  | startWorker (command : Command)
  | cleanup (command : Command)
deriving DecidableEq, Repr

/-- The fields of the coordinator. `transportSend` is set exactly when `transportToken` is. -/
structure Coordinator where
  state : State := {}
  gate : Option Command := none
  durabilityAvailable : Bool := false
  transportToken : Option Nat := none
deriving DecidableEq, Repr

namespace Coordinator

/-- `send`: nothing without a transport. -/
def send (c : Coordinator) (message : Message) : List Action :=
  if c.transportToken.isSome then [.send message] else []

/-- `persist`: the saved state is published only after the save. -/
def persist (c : Coordinator) (now : Int) (saveOk : Bool) (nextState : State) : Coordinator :=
  if saveOk then { c with state := trim now nextState, durabilityAvailable := true }
  else { c with durabilityAvailable := false }

/-- The save of `persist`. -/
def saved (now : Int) (nextState : State) (recorded : Option Receipt) : Action :=
  .save now (trim now nextState) recorded

/-! ### Commands -/

/-- `rejectBusy`: a job is told which execution is active, a legacy command gets a failed result. -/
def rejectBusy (c : Coordinator) (command active : Command) : List Action :=
  if command.isJobV1 then
    c.send (.rejected command.jobId command.attempt .deviceBusy true none
      (some (active.jobId, active.attempt)))
  else
    c.send (.result
      { jobId := none, attempt := 1, success := false, destPath := command.destPath,
        failureCode := some "device_busy", detail := some "Push/Sync already in progress",
        completedAt := 0 })

/-- `rejectConflict`; a legacy command is not answered. -/
def rejectConflict (c : Coordinator) (command : Command) (detail : String) : List Action :=
  if command.isJobV1 then
    c.send (.rejected command.jobId command.attempt .artifactIdentityMismatch false (some detail)
      none)
  else []

/-- `rejectMalformed`: without a job id there is nothing to answer. -/
def rejectMalformed (c : Coordinator) (payload : Malformed) : List Action :=
  if Codec.isBlank payload.jobId then []
  else
    c.send (.rejected (some payload.jobId) payload.attempt (.malformed payload.message) false
      (some payload.message) none)

/-- `rejectPersistenceUnavailable`. -/
def rejectPersistenceUnavailable (c : Coordinator) (command : Command) : List Action :=
  if command.isJobV1 then
    c.send (.rejected command.jobId command.attempt .persistenceUnavailable false
      (some "Device could not save durable Push/Sync state") none)
  else
    c.send (.result
      { jobId := none, attempt := 1, success := false, destPath := command.destPath,
        failureCode := some "client_persistence_unavailable",
        detail := some "Device could not save durable Push/Sync state", completedAt := 0 })

/-- `accept`, after the gate has taken the command: durability before acceptance and before the
worker starts. -/
def accept (c : Coordinator) (now : Int) (saveOk : Bool) (command : Command) :
    Coordinator × List Action :=
  let nextState := { c.state with active := some ⟨command, .downloading⟩ }
  let c := c.persist now saveOk nextState
  if saveOk then
    (c, saved now nextState none ::
      ((if command.isJobV1 then c.send (.accepted command.jobId command.attempt .downloading)
        else []) ++ [.startWorker command]))
  else
    let c := { c with gate := release c.gate command }
    (c, c.rejectPersistenceUnavailable command)

/-- `handleDuplicate`. -/
def handleDuplicate (c : Coordinator) (command : Command) : List Action :=
  match c.state.active with
  | none => []
  | some active =>
    if active.command.identity = command.identity ∧ command.isJobV1 then
      c.send (.accepted command.jobId command.attempt active.phase)
    else []

/-- `handleCommand` of a well-formed command. -/
def handleCommand (c : Coordinator) (now : Int) (saveOk : Bool) (command : Command) :
    Coordinator × List Action :=
  match terminalReceipt c.state command with
  | some terminal =>
    if terminal.command.sameExecution command then (c, c.send (.result terminal.result))
    else (c, c.rejectConflict command conflictDetail)
  | none =>
    if !c.durabilityAvailable then (c, c.rejectPersistenceUnavailable command)
    else
      match offer c.gate command with
      | .accepted => { c with gate := some command }.accept now saveOk command
      | .duplicate _ => (c, c.handleDuplicate command)
      | .busy active => (c, c.rejectBusy command active)
      | .conflict detail => (c, c.rejectConflict command detail)

/-! ### Worker callbacks -/

/-- `setPhase`: the new coordinator and the save, or `none` when it returns `false`. -/
def setPhase (c : Coordinator) (now : Int) (saveOk : Bool) (command : Command) (phase : Phase) :
    Coordinator × Option Action :=
  match c.state.active with
  | none => (c, none)
  | some active =>
    if active.command.identity ≠ command.identity then (c, none)
    else
      let nextState := { c.state with active := some { active with phase } }
      (c.persist now saveOk nextState,
        if saveOk then some (saved now nextState none) else none)

/-- `onTransferComplete`. -/
def onTransferComplete (c : Coordinator) (now : Int) (saveOk : Bool) (command : Command)
    (received : Int) : Coordinator × List Action :=
  match c.setPhase now saveOk command .validating with
  | (c, none) => (c, [])
  | (c, some save) =>
    (c, save :: c.send (if command.isJobV1 then
        .transferComplete command.jobId command.attempt command.artifactId received
      else .downloadComplete none command.destPath command.deleteExtras))

/-- `onValidated`. -/
def onValidated (c : Coordinator) (command : Command) : List Action :=
  match c.state.active with
  | none => []
  | some active =>
    if active.command.identity = command.identity ∧ active.phase = .validating ∧
        command.isJobV1 then
      c.send (.downloadComplete (some (command.jobId, command.attempt, command.artifactId))
        command.destPath command.deleteExtras)
    else []

/-- `onApplying`. -/
def onApplying (c : Coordinator) (now : Int) (saveOk : Bool) (command : Command) :
    Coordinator × List Action :=
  match c.setPhase now saveOk command .applying with
  | (c, none) => (c, [])
  | (c, some save) =>
    (c, save :: (if command.isJobV1 then c.send (.phase command.jobId command.attempt .applying)
      else []))

/-- `isCurrent`. -/
def isCurrent (c : Coordinator) (command : Command) : Bool :=
  c.state.active.any fun active => active.command.identity = command.identity

/-- `onTerminal`: the outbox is saved before the lease is released, the work is cleaned up or the
result is sent. -/
def onTerminal (c : Coordinator) (now : Int) (saveOk : Bool) (command : Command)
    (result : Result) : Coordinator × List Action :=
  if !c.isCurrent command then (c, [.cleanup command])
  else
    let receipt : Receipt := ⟨command, result⟩
    let nextState : State :=
      { active := none
        pendingResults :=
          if command.isJobV1 then c.state.pendingResults ++ [receipt] else c.state.pendingResults
        completedReceipts := takeLast maxReceipts (c.state.completedReceipts ++ [receipt]) }
    let c' := c.persist now saveOk nextState
    if saveOk then
      ({ c' with gate := release c'.gate command },
        saved now nextState (some receipt) :: .cleanup command :: c'.send (.result result))
    else (c', [])

/-! ### Acknowledgements, reconciliation, transport -/

/-- `handleResultAck`. -/
def handleResultAck (c : Coordinator) (now : Int) (saveOk : Bool) (ack : ResultAck) :
    Coordinator × List Action :=
  match applyPushResultAckToState c.state ack maxReceipts with
  | none => (c, [])
  | some (settled, next) =>
    (c.persist now saveOk next, if saveOk then [saved now next (some settled)] else [])

/-- `replayPendingResults`. -/
def replayPendingResults (c : Coordinator) : List Action :=
  c.state.pendingResults.flatMap fun receipt => c.send (.result receipt.result)

/-- The answer to one entry of a `PUSH_RECONCILE_REQUEST`. -/
def reconcileAnswer (state : State) (identity : ReconcileIdentity) : Message :=
  match state.active.filter fun active => identity.matches active.command with
  | some active => .reportActive identity.jobId identity.attempt active.phase
  | none =>
    match findPushReconcileReceipt state identity.matches with
    | some settled => .result settled.result
    | none => .reportAbsent identity.jobId identity.attempt

/-- `handleReconcileRequest`; entries that do not parse are skipped. -/
def handleReconcileRequest (c : Coordinator) (jobs : List ReconcileIdentity) : List Action :=
  jobs.flatMap fun identity => c.send (reconcileAnswer c.state identity)

end Coordinator

/-- The events of the actor. -/
inductive Event
  | command (command : Command)
  | malformedCommand (payload : Malformed)
  | resultAck (ack : ResultAck)
  | reconcileRequest (jobs : List ReconcileIdentity)
  | attachTransport (token : Nat)
  | detachTransport (token : Nat)
  | registered (token : Nat)
  | transferComplete (command : Command) (received : Int)
  | validated (command : Command)
  | applying (command : Command)
  | terminal (command : Command) (outcome : Outcome) (completedAt : Int)
deriving DecidableEq, Repr

/-- The worker execution an event is a callback of. -/
def Event.callbackOf : Event → Option Command
  | .transferComplete execution _ | .validated execution | .applying execution
  | .terminal execution _ _ => some execution
  | _ => none

/-- One event of the actor, when the clock reads `now` and a save would succeed or not. -/
def Coordinator.handle (c : Coordinator) (now : Int) (saveOk : Bool) :
    Event → Coordinator × List Action
  | .command command => c.handleCommand now saveOk command
  | .malformedCommand payload => (c, c.rejectMalformed payload)
  | .resultAck ack => c.handleResultAck now saveOk ack
  | .reconcileRequest jobs => (c, c.handleReconcileRequest jobs)
  | .attachTransport token => ({ c with transportToken := some token }, [])
  | .detachTransport token =>
    if c.transportToken = some token then ({ c with transportToken := none }, []) else (c, [])
  | .registered token =>
    if c.transportToken = some token then (c, c.replayPendingResults) else (c, [])
  | .transferComplete command received => c.onTransferComplete now saveOk command received
  | .validated command => (c, c.onValidated command)
  | .applying command => c.onApplying now saveOk command
  | .terminal command outcome completedAt =>
    c.onTerminal now saveOk command (outcome.result command completedAt)

/-- What the clock reads in the `init` block: where the file is loaded and trimmed, where the
interrupted execution is completed, and where the state is trimmed again and saved. -/
structure StartClock where
  load : Int
  completedAt : Int
  save : Int
deriving DecidableEq, Repr

/-- The `init` block: load, recover, save, and only then restore the gate. When the save fails the
coordinator stays as it was constructed. -/
def Coordinator.start (clock : StartClock) (saveOk : Bool) (file : State) :
    Coordinator × List Action :=
  let recovery := recover clock.completedAt (trim clock.load file)
  let c : Coordinator := ({} : Coordinator).persist clock.save saveOk recovery.1
  if saveOk then
    ({ c with gate := c.state.active.map Active.command },
      Coordinator.saved clock.save recovery.1 recovery.2 ::
        (recovery.2.toList.map fun receipt => .cleanup receipt.command))
  else (c, [])

/-! ### The device -/

/-- A running process: the coordinator, and the worker executions whose end it has not been told.
`startSaved` records how the save of the `init` block went. -/
structure Process where
  coordinator : Coordinator
  executions : List Command := []
  startSaved : Bool
deriving DecidableEq, Repr

/-- The device: the saved file, and the process unless it was killed. -/
structure Device where
  file : State := {}
  process : Option Process := none
deriving DecidableEq, Repr

/-- The file after some actions. -/
def fileAfter (file : State) : List Action → State
  | [] => file
  | .save _ state _ :: actions => fileAfter state actions
  | _ :: actions => fileAfter file actions

/-- The actions, each with the file as it is when the action is performed. -/
def performed (file : State) : List Action → List (State × Action)
  | [] => []
  | action :: actions => (file, action) :: performed (fileAfter file [action]) actions

/-- The commands whose worker is started. -/
def started (actions : List Action) : List Command :=
  actions.filterMap fun action =>
    match action with
    | .startWorker command => some command
    | _ => none

/-- What can happen to a device. A count says how many actions of a handler are performed before
the kill. -/
inductive Step
  | start (clock : StartClock) (saveOk : Bool)
  | event (now : Int) (saveOk : Bool) (event : Event)
  | kill
  | killInStart (count : Nat) (clock : StartClock) (saveOk : Bool)
  | killInEvent (count : Nat) (now : Int) (saveOk : Bool) (event : Event)
deriving DecidableEq, Repr

namespace Device

/-- May the actor of this process handle the event? A callback comes from an execution that is in
progress. -/
def enabled (process : Process) (event : Event) : Bool :=
  event.callbackOf.all (· ∈ process.executions)

/-- The executions whose end the event does not tell. -/
def remaining (executions : List Command) : Event → List Command
  | .terminal command _ _ => executions.erase command
  | _ => executions

/-- The executions after an event. -/
def executionsAfter (executions : List Command) (event : Event) (actions : List Action) :
    List Command :=
  remaining executions event ++ started actions

/-- The actions of a step. -/
def actions (d : Device) : Step → List Action
  | .kill => []
  | .start clock saveOk =>
    if d.process.isSome then [] else (Coordinator.start clock saveOk d.file).2
  | .killInStart count clock saveOk =>
    if d.process.isSome then [] else (Coordinator.start clock saveOk d.file).2.take count
  | .event now saveOk event =>
    match d.process with
    | none => []
    | some process =>
      if enabled process event then (process.coordinator.handle now saveOk event).2 else []
  | .killInEvent count now saveOk event =>
    match d.process with
    | none => []
    | some process =>
      if enabled process event then (process.coordinator.handle now saveOk event).2.take count
      else []

/-- The process after a step. -/
def processAfter (d : Device) : Step → Option Process
  | .kill | .killInStart _ _ _ | .killInEvent _ _ _ _ => none
  | .start clock saveOk =>
    match d.process with
    | some process => some process
    | none =>
      some { coordinator := (Coordinator.start clock saveOk d.file).1, startSaved := saveOk }
  | .event now saveOk event =>
    d.process.map fun process =>
      if enabled process event then
        { process with
          coordinator := (process.coordinator.handle now saveOk event).1
          executions := executionsAfter process.executions event
            (process.coordinator.handle now saveOk event).2 }
      else process

/-- One step of the device. -/
def step (d : Device) (s : Step) : Device where
  file := fileAfter d.file (d.actions s)
  process := d.processAfter s

/-- What a step performs, with the file at the time. -/
def trace (d : Device) (s : Step) : List (State × Action) := performed d.file (d.actions s)

end Device

end StylyMdm.Client
