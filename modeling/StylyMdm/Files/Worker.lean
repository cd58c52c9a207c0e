import StylyMdm.Client.Protocol
import StylyMdm.Files.Mirror
import StylyMdm.Files.RoundTrip
import StylyMdm.Library.Sha2

/-!
# The worker of the client

`PushFilesWorker.execute`: it resets the work directory, downloads the artifact of a command while
it counts and hashes the bytes, extracts it, and applies it to the destination.

The device is a parameter: its file system, the reader of ZIP archives, and whatever the server and
the network answer. The extracted tree goes to the file system with exact names of
`StylyMdm.Library.Disk`; without directories of their own, as the server writes none.

**The order of things.** The destination is validated last before it is touched, after the download
has been checked and the archive extracted; the callbacks tell the coordinator how far the worker
has got. A failure has a code and a detail, which `classifyFailure` makes of the exception: those
that the worker throws itself have a code, any other one is told apart by its class.

**The download** ends early with more bytes than declared, and is compared with the declared size
and digest when it has ended. Where the command declares neither, as the legacy protocol may, there
is nothing to compare. I/O failures of the device itself, such as a full disk, are left out.
-/

namespace StylyMdm.Files

open Text Sha2

/-! ### Exceptions -/

/-- A `PushWorkerException` with its code, or another exception with its message and its class. -/
inductive Thrown
  | worker (code message : String)
  | other (message : Option String) (simpleName : String)
deriving DecidableEq, Repr

/-- `classifyFailure`: the message up to its first colon, if it is a code. -/
def classifyFailure (message : Option String) : String :=
  let code := message.map fun message => String.ofList (message.toList.takeWhile (· ≠ ':'))
  if code ∈ [some "invalid_destination", some "artifact_identity_mismatch",
      some "download_failed", some "validation_failed", some "apply_failed"] then
    code.getD ""
  else "apply_failed"

/-- The `failureCode` of the result. -/
def Thrown.failureCode : Thrown → String
  | .worker code _ => code
  | .other message _ => classifyFailure message

/-- The `detail` of the result. -/
def Thrown.detail : Thrown → String
  | .worker _ message => message
  | .other message simpleName => message.getD simpleName

/-- The message of an exception of `validateAndExtract`. -/
def ExtractError.message : ExtractError → String
  | .tooManyEntries => "ZIP contains too many entries"
  | .invalidEntryPath => "ZIP contains an invalid entry path"
  | .unsafeEntryPath => "ZIP contains an unsafe entry path"
  | .duplicatePath relative => "ZIP contains duplicate path " ++ asString relative
  | .conflict path => "ZIP has a file/directory conflict at " ++ asString path
  | .escapedStaging => "ZIP entry escaped staging"
  | .stagingDirectory => "could not create staging directory"
  | .tooLarge => "ZIP expands beyond the allowed size"
  | .sizeOverflow => "artifact size overflow"
  | .invalidZip => "artifact is not a valid ZIP"
  | .noEntries => "ZIP contains no entries"

/-- The exception of an extraction that failed. -/
def ExtractError.thrown (error : ExtractError) : Thrown :=
  .worker "validation_failed" error.message

/-- An artifact that is not the announced one. -/
def mismatch (message : String) : Thrown := .worker "artifact_identity_mismatch" message

/-- A download that failed. -/
def downloadFailed (message : Option String) : Thrown :=
  .worker "download_failed" (message.getD "artifact download failed")

/-! ### The device -/

/-- What `recreateDirectory` meets. -/
inductive Recreation
  | done
  | notReset
  | notCreated
deriving DecidableEq, Repr

/-- `recreateDirectory`. -/
def Recreation.run : Recreation → Except Thrown Unit
  | .done => .ok ()
  | .notReset => .error (.worker "validation_failed" "could not reset work directory")
  | .notCreated => .error (.worker "validation_failed" "could not create work directory")

/-- The body of a response, in the reads it comes in. After them an exception of reading, writing or
syncing may follow, with its message. -/
structure Body where
  reads : List Bytes
  failure : Option (Option String) := none

/-- What comes of a request: the URL cannot be opened, the connection fails, or there is a
response. -/
inductive Response
  | unopened (thrown : Thrown)
  | failed (message : Option String)
  | status (code : Int) (body : Body)

/-- What stands at a path of the shared storage. -/
inductive Place
  | absent (creatable : Bool)
  | file
  | directory (tree : Disk (id : Str → Str) Bytes)

/-- What the worker finds on the device, with the messages the platform gives its exceptions. -/
structure Device where
  hasExternalStorageAccess : Bool
  work : List Str
  workRecreated : Recreation
  stagingRecreated : Recreation
  response : String → Response
  moveFailure : Option (Option String)
  openZip : Bytes → Option (List Entry)
  streams : Streams
  fs : FileSystem
  externalStorageDirectory : List Str
  storage : List Str → Place
  order : Listing Str
  invalidPath : Option String
  copyFailure : ApplyError → Option String

namespace Device

variable (device : Device)

/-- The exception for a destination that is refused. -/
def refused : Refusal → Thrown
  | .malformed message => .other (some message) "IllegalArgumentException"
  | .invalidDestination message => .worker "invalid_destination" message
  | .protectedDirectory first =>
    .worker "invalid_destination"
      ("destination must not be inside the protected '" ++ asString first ++ "' directory")
  | .invalidPath => .other device.invalidPath "InvalidPathException"

/-- The exception that ends `BundleSync.apply`. -/
def notApplied : ApplyError → Thrown
  | .createDirectory =>
    .other (some "apply_failed: failed to create destination directory") "IllegalStateException"
  | .fileAlreadyExists =>
    .other (device.copyFailure .fileAlreadyExists) "FileAlreadyExistsException"
  | .fileNotFound => .other (device.copyFailure .fileNotFound) "FileNotFoundException"

end Device

private theorem made_nodup :
    (([] : List (List Str × Node Bytes)).map fun entry => entry.1.map id).Nodup :=
  List.nodup_nil

private theorem made_parent : ∀ entry ∈ ([] : List (List Str × Node Bytes)), entry.1 ≠ [] ∧
    (entry.1.dropLast = [] ∨ (entry.1.dropLast, Node.dir) ∈ ([] : List (List Str × Node Bytes))) :=
  fun _ hentry => absurd hentry List.not_mem_nil

/-- The head of `BundleSync.apply`: the destination is made if it is not there. -/
def Place.opened : Place → Except Thrown (Disk (id : Str → Str) Bytes)
  | .absent true => .ok ⟨[], made_nodup, made_parent⟩
  | .absent false =>
    .error (.other (some "apply_failed: failed to create destination directory")
      "IllegalStateException")
  | .file =>
    .error (.other (some "validation_failed: destination is not an ordinary directory")
      "IllegalStateException")
  | .directory tree => .ok tree

/-! ### The download -/

/-- The loop of `download`, with the number of bytes received so far and the bytes written. -/
def readBody (expectedSize : Option Int) (received : Nat) (written : Bytes) :
    List Bytes → Except Thrown Bytes
  | [] => .ok written
  | read :: reads =>
    -- `safeAdd`
    if 0 < read.length ∧ maxLong - read.length < received then
      .error (.worker "validation_failed" "artifact size overflow")
    else if expectedSize.any fun size => size < ((received + read.length : Nat) : Int) then
      .error (mismatch "artifact exceeded its declared size")
    else readBody expectedSize (received + read.length) (written ++ read) reads

/-- The checks of `download` after the last read. -/
def checkIdentity (command : Client.Command) (bytes : Bytes) : Except Thrown Unit :=
  if command.artifactSize.any fun size => (bytes.length : Int) ≠ size then
    .error (mismatch ("received " ++ toString bytes.length ++ " bytes but expected " ++
      toString (command.artifactSize.getD 0)))
  else if command.artifactSha256.any fun sha256 =>
      (hexDigest bytes).toLower ≠ sha256.toLower then
    .error (mismatch "artifact SHA-256 did not match its declared identity")
  else .ok ()

/-- `download`: the bytes of `artifact.zip`. -/
def Device.download (device : Device) (command : Client.Command) : Except Thrown Bytes :=
  match device.response command.artifactUrl with
  | .unopened thrown => .error thrown
  | .failed message => .error (downloadFailed message)
  | .status code body =>
    if code < 200 ∨ 299 < code then
      .error (.worker "download_failed" ("artifact download returned HTTP " ++ toString code))
    else do
      let bytes ← readBody command.artifactSize 0 [] body.reads
      -- an exception after the last read comes before the checks
      match body.failure with
      | some message => .error (downloadFailed message)
      | none =>
        checkIdentity command bytes
        match device.moveFailure with
        | some message => .error (downloadFailed message)
        | none => .ok bytes

/-! ### The execution -/

/-- `onTransferComplete`, `onValidated` and `onApplying`. -/
inductive Callback
  | transferComplete (size : Nat)
  | validated
  | applying
deriving DecidableEq, Repr

/-- What becomes of the destination: nothing, all that `BundleSync.apply` does, or a part of it. -/
inductive Effect
  | untouched
  | applied (target : List Str) (tree : Disk (id : Str → Str) Bytes)
  | interrupted (target : List Str)

/-- `Execution`, with the callbacks in their order. -/
structure Execution where
  result : Except Thrown SyncResult
  callbacks : List Callback := []
  effect : Effect := .untouched

/-- The result of the execution, as the coordinator gets it. -/
def Execution.outcome (execution : Execution) : Client.Outcome :=
  match execution.result with
  | .ok result => .applied result.added result.updated result.deleted
  | .error thrown => .failed (some thrown.failureCode) (some thrown.detail)

/-- The download into the new work directory. -/
def Device.fetch (device : Device) (command : Client.Command) : Except Thrown Bytes := do
  device.workRecreated.run
  device.download command

namespace PushFilesWorker

variable (worker : PushFilesWorker) (device : Device) (command : Client.Command)

/-- `validateAndExtract` of the downloaded file. -/
def extract (bundle : Bytes) : Except Thrown Tree := do
  device.stagingRecreated.run
  match device.openZip bundle with
  | none => .error (ExtractError.thrown .invalidZip)
  | some entries =>
    (worker.validateAndExtract device.streams device.work entries).mapError ExtractError.thrown

/-- `BundleSync.apply` of the staging directory to the destination. -/
def applyTo (staging : Tree) (target : List Str) : Except Thrown SyncResult × Effect :=
  match (device.storage target).opened with
  | .error thrown => (.error thrown, .untouched)
  | .ok dest =>
    match apply device.order staging.toDisk dest command.deleteExtras with
    -- what was copied or deleted before the exception stays so
    | .error error => (.error (device.notApplied error), .interrupted target)
    | .ok (tree, result) => (.ok result, .applied target tree)

/-- `execute`. -/
def execute : Execution :=
  if !device.hasExternalStorageAccess then
    { result := .error (.worker "external_storage_permission_denied"
        "All files access (MANAGE_EXTERNAL_STORAGE) is not granted on this device") }
  else
    match device.fetch command with
    | .error thrown => { result := .error thrown }
    | .ok bundle =>
      match worker.extract device bundle with
      | .error thrown =>
        { result := .error thrown, callbacks := [.transferComplete bundle.length] }
      | .ok staging =>
        match validateDestinationAgainstRoot device.fs device.externalStorageDirectory
          (ofString command.destPath) with
        | .error refusal =>
          { result := .error (device.refused refusal)
            callbacks := [.transferComplete bundle.length, .validated] }
        | .ok target =>
          let applied := applyTo device command staging target
          { result := applied.1
            callbacks := [.transferComplete bundle.length, .validated, .applying]
            effect := applied.2 }

end PushFilesWorker

end StylyMdm.Files
