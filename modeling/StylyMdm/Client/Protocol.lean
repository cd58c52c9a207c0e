import Mathlib

/-!
# The client's protocol types

The data of `PushProtocol.kt`: commands, results, receipts and the durable state, with the pure
functions on them that the coordinator uses. The gate of `PushExecutionGate.kt` and the trimming of
`PushJobStore.kt` are here too, since they are functions of these types alone.

Incoming JSON is parsed before it gets here: an `EXECUTE_PUSH_FILES` payload is a `Command`, or a
`Malformed` one with what `rejectMalformed` reads of it. `Client.Codec` has the parser, and what the
durable state looks like as a text.

**Identities.** A command of the new protocol is known by its job and its attempt; one of the old
protocol has no job and cannot be told from another. While a command is executed, a second one of
its identity is a duplicate if the two agree in everything else, and a conflict otherwise; any other
command finds the gate busy.

**The durable state** has the active command with its phase, the results that the server has not
acknowledged, and the receipts of those that it has. Both lists are cut to their last 256 entries,
and receipts also by their age, at every load and at every save (`trim`).
-/

namespace StylyMdm.Client

/-- `PushProtocol.Command`. -/
structure Command where
  jobId : Option String
  attempt : Int
  artifactId : Option String
  artifactUrl : String
  artifactSize : Option Int
  artifactSha256 : Option String
  bundleFilename : String
  destPath : String
  deleteExtras : Bool
deriving DecidableEq, Repr

/-- `Command.isJobV1`. -/
def Command.isJobV1 (command : Command) : Bool := command.jobId.isSome

/-- `Command.identity`. The source has the text `jobId:attempt`, or `legacy` without a job id; a
job id is a UUID, so the text determines the pair. -/
def Command.identity (command : Command) : Option (String × Int) :=
  command.jobId.map fun jobId => (jobId, command.attempt)

/-- `Command.sameExecution`. -/
def Command.sameExecution (command other : Command) : Bool :=
  command.jobId = other.jobId && command.attempt = other.attempt &&
    command.artifactId = other.artifactId && command.artifactUrl = other.artifactUrl &&
    command.artifactSize = other.artifactSize &&
    command.artifactSha256.map String.toLower = other.artifactSha256.map String.toLower &&
    command.bundleFilename = other.bundleFilename && command.destPath = other.destPath &&
    command.deleteExtras = other.deleteExtras

/-- `sameIdentity` of the coordinator. -/
def sameIdentity (first second : Command) : Bool :=
  first.jobId.isSome && first.jobId = second.jobId && first.attempt = second.attempt

/-- A payload `parseCommand` rejects: the `job_id` and `attempt` that `rejectMalformed` reads of
it, and the message of the exception. -/
structure Malformed where
  jobId : String
  attempt : Int
  message : String
deriving DecidableEq, Repr

/-- The `PHASE_` constants. -/
inductive Phase
  | downloading
  | validating
  | applying
deriving DecidableEq, Repr

/-- `PushProtocol.Active`. -/
structure Active where
  command : Command
  phase : Phase
deriving DecidableEq, Repr

/-- `PushProtocol.Result`; its constructor requires a status of `success` or `fail`. -/
structure Result where
  jobId : Option String
  attempt : Int
  success : Bool
  destPath : String
  added : Int := 0
  updated : Int := 0
  deleted : Int := 0
  failureCode : Option String := none
  detail : Option String := none
  completedAt : Int
deriving DecidableEq, Repr

/-- `PushProtocol.Receipt`. -/
structure Receipt where
  command : Command
  result : Result
deriving DecidableEq, Repr

/-- `PushProtocol.State`: what is saved. -/
structure State where
  active : Option Active := none
  pendingResults : List Receipt := []
  completedReceipts : List Receipt := []
deriving DecidableEq, Repr

/-- `PushProtocol.ResultAck`; its `reason` is not read. -/
structure ResultAck where
  jobId : String
  attempt : Int
  accepted : Bool
  retryable : Bool
deriving DecidableEq, Repr

/-- `PushProtocol.ReconcileIdentity`. -/
structure ReconcileIdentity where
  jobId : String
  attempt : Int
  artifactId : Option String
deriving DecidableEq, Repr

/-! ### Trimming -/

/-- `MAX_RECEIPTS`. -/
def maxReceipts : Nat := 256

/-- `RECEIPT_RETENTION_MS`. -/
def receiptRetentionMs : Int := 7 * 24 * 60 * 60 * 1000

/-- Kotlin's `takeLast`. -/
@[irreducible] def takeLast {α : Type*} (n : Nat) (l : List α) : List α := l.drop (l.length - n)

/-- The receipts `normalizePushState` does not drop for their age. -/
def keptAt (cutoff : Int) (receipt : Receipt) : Bool :=
  receipt.result.completedAt ≤ 0 || cutoff ≤ receipt.result.completedAt

/-- `normalizePushState`. -/
def normalizePushState (state : State) (cutoff : Int) (maxReceipts : Nat) : State :=
  { state with
    pendingResults := takeLast maxReceipts state.pendingResults
    completedReceipts := takeLast maxReceipts (state.completedReceipts.filter (keptAt cutoff)) }

/-- `PushJobStore.trim` when the clock reads `now`. -/
def trim (now : Int) (state : State) : State :=
  normalizePushState state (now - receiptRetentionMs) maxReceipts

/-! ### The gate -/

/-- `PushExecutionGate.Decision`. -/
inductive Decision
  | accepted
  | duplicate (command : Command)
  | busy (active : Command)
  | conflict (detail : String)
deriving DecidableEq, Repr

/-- The text of a conflict. -/
def conflictDetail : String := "same identity carried different artifact, destination, or mode"

/-- `PushExecutionGate.offer`. An accepted command becomes the active one. -/
def offer (active : Option Command) (command : Command) : Decision :=
  match active with
  | none => .accepted
  | some current =>
    if current.jobId = none ∨ command.jobId = none then .busy current
    else if current.jobId = command.jobId ∧ current.attempt = command.attempt then
      if current.sameExecution command then .duplicate current else .conflict conflictDetail
    else .busy current

/-- `PushExecutionGate.release`: the new value of `active`. -/
def release (active : Option Command) (command : Command) : Option Command :=
  if active.any fun current => current.identity = command.identity then none else active

/-! ### Acknowledgements and receipts -/

/-- Does the acknowledgement name the result of this receipt? -/
def ResultAck.matches (ack : ResultAck) (receipt : Receipt) : Bool :=
  receipt.result.jobId = some ack.jobId && receipt.result.attempt = ack.attempt

/-- `applyPushResultAckToState`: the settled receipt and the new state, or `none` where the source
returns the very state it was given. -/
def applyPushResultAckToState (current : State) (ack : ResultAck) (maxReceipts : Nat) :
    Option (Receipt × State) :=
  if !ack.accepted && ack.retryable then none
  else
    match (current.pendingResults.filter ack.matches).getLast? with
    | none => none
    | some settled => some (settled, { current with
        pendingResults := current.pendingResults.filter fun receipt => !ack.matches receipt
        completedReceipts := takeLast maxReceipts
          ((current.completedReceipts.filter fun receipt => !ack.matches receipt) ++ [settled]) })

/-- The `matches` of `handleReconcileRequest`. -/
def ReconcileIdentity.matches (identity : ReconcileIdentity) (command : Command) : Bool :=
  command.jobId = some identity.jobId && command.attempt = identity.attempt &&
    (identity.artifactId.isNone || command.artifactId = identity.artifactId)

/-- `findPushReconcileReceipt`. -/
def findPushReconcileReceipt (state : State) (p : Command → Bool) : Option Receipt :=
  (state.pendingResults.find? fun receipt => p receipt.command).or
    (state.completedReceipts.find? fun receipt => p receipt.command)

/-- The receipt of the terminal result of a command, pending results first. -/
def terminalReceipt (state : State) (command : Command) : Option Receipt :=
  (state.pendingResults.find? fun receipt => sameIdentity receipt.command command).or
    (state.completedReceipts.find? fun receipt => sameIdentity receipt.command command)

/-- What a worker execution ends with. -/
inductive Outcome
  | applied (added updated deleted : Int)
  | failed (failureCode : Option String) (detail : Option String)
deriving DecidableEq, Repr

/-- The `Result` of `PushFilesWorker.execute`. -/
def Outcome.result (outcome : Outcome) (command : Command) (completedAt : Int) : Result :=
  match outcome with
  | .applied added updated deleted =>
    { jobId := command.jobId, attempt := command.attempt, success := true,
      destPath := command.destPath, added, updated, deleted, completedAt }
  | .failed failureCode detail =>
    { jobId := command.jobId, attempt := command.attempt, success := false,
      destPath := command.destPath, failureCode, detail, completedAt }

/-- The result `recover` gives an execution that a restart cut short. -/
def interruptedResult (command : Command) (completedAt : Int) : Result where
  jobId := command.jobId
  attempt := command.attempt
  success := false
  destPath := command.destPath
  failureCode := some "client_restarted"
  detail := some ("client process restarted; the previous worker did not survive and " ++
    "the destination may be partially applied")
  completedAt := completedAt

/-- `recover`: the state to save at start-up, and the receipt of the interrupted execution. -/
def recover (now : Int) (loaded : State) : State × Option Receipt :=
  match loaded.active with
  | none => (loaded, none)
  | some active =>
    let receipt : Receipt := ⟨active.command, interruptedResult active.command now⟩
    ({ active := none
       pendingResults :=
         if active.command.isJobV1 then loaded.pendingResults ++ [receipt]
         else loaded.pendingResults
       completedReceipts := takeLast maxReceipts (loaded.completedReceipts ++ [receipt]) },
      some receipt)

end StylyMdm.Client
