import StylyMdm.Library.Directory
import StylyMdm.PushJobs.RuntimeCalls
import StylyMdm.PushJobs.Uuid

/-!
# The artifacts of the server

`ArtifactStore` of `push_artifacts.py` with its callers in `push_runtime.py`: the upload request,
the thread that packages and publishes its files, the removal of work directories, and the start of
the server. The operations on files are steps of their own, so that threads, requests, the store and
crashes of the server interleave between any two of them. A request that is cancelled leaves its
thread running, and a call that it has handed to the store may still be executed.

**Publication.** The thread of `_package_and_publish` writes the archive to `artifact.part` in the
work directory of the job, draws a name with `uuid4()`, reads the size and the digest of the part,
fsyncs it, renames it into the artifact root and fsyncs the root. Only then is the row of the
artifact handed to the store. Every one of these operations can raise, and `publish` refuses a name
that is taken.

**Start-up.** A server that starts removes the publications in the artifact root that no row names
(`orphan_artifacts_sync`), one after the other. A removal that fails is logged, and the file is left
for the next start.

**What is outside.** The digest, and whether directories can be fsynced, are the `Platform`: on
Windows they cannot. `Admits` says what is promised of the surroundings: `uuid4()` returns no value
twice, and a crash of the machine loses only what was not fsynced. The server and its requests do
the rest, in any order that a label list gives.
-/

namespace StylyMdm.Artifacts

open PushJobs Store

/-! ### Names -/

/-- `Path(name).stem` and `Path(name).suffix`. -/
def splitSuffix (name : List Char) : List Char × List Char :=
  let extension := (name.reverse.takeWhile (· ≠ '.')).reverse
  let stem := name.take (name.length - extension.length - 1)
  if extension.length = name.length ∨ extension = [] ∨ stem = [] then (name, [])
  else (stem, '.' :: extension)

/-- Is it the name of a publication: a UUID of version 4 with the suffix `.zip`? -/
def isPublicationName (name : String) : Bool :=
  let (stem, suffix) := splitSuffix name.toList
  suffix.map Char.toLower = ".zip".toList && (uuidInt (String.ofList stem)).any isVersion4

example : isPublicationName "6f9619ff-8b86-4011-b42d-00c04fc964ff.zip" := by decide

/-- `f"{artifact_id}.zip"`. -/
def storageName (artifactId : String) : String := artifactId ++ ".zip"

/-! ### `ArtifactStore` -/

/-- The digest, and whether directories can be fsynced. -/
structure Platform where
  sha256 : List UInt8 → String
  posix : Bool
  indexed : Bool

/-- What `_package_and_publish` knows before it has packaged anything. -/
structure Package where
  displayFilename : String
  entryCount : Nat
deriving DecidableEq

/-- Where the thread of `_package_and_publish` is, and after it the call that is handed to the
store: before the next operation on a file. -/
inductive Publication
  | zipTree (package : Package)
  | begin (package : Package)
  | identity (package : Package) (artifactId : String)
  | fsync (artifact : PublishedArtifact)
  | replace (artifact : PublishedArtifact)
  | fsyncDir (artifact : PublishedArtifact)
  | returned (artifact : PublishedArtifact)
  | submitted (artifact : PublishedArtifact)
deriving DecidableEq

/-- What decides how an operation of the thread ends: the archive that `zip_tree` writes, the value
of `uuid4()`, or an exception. -/
inductive Outcome
  | written (content : List UInt8)
  | uuid4 (artifactId : String)
  | done
  | raised
deriving DecidableEq

/-- The artifact root, `artifact.part` in the work directory, and the thread. -/
structure Publishing where
  root : Directory String (List UInt8)
  part : Option (File (List UInt8))
  publication : Option Publication

/-- The mapping that `publish` returns. -/
def Package.artifact (package : Package) (platform : Platform) (artifactId : String)
    (content : List UInt8) : PublishedArtifact where
  artifactId := artifactId
  storageName := storageName artifactId
  displayFilename := package.displayFilename
  byteSize := content.length
  sha256 := platform.sha256 content
  entryCount := package.entryCount

/-- The next operation of `_package_and_publish` and `publish`. The thread ends with an exception
when the part is gone or the name is taken. -/
def Publication.next (platform : Platform) (root : Directory String (List UInt8))
    (part : Option (File (List UInt8))) (publication : Publication) (outcome : Outcome) :
    Publishing :=
  match publication, outcome with
  | .returned artifact, _ => ⟨root, part, some (.returned artifact)⟩
  | .submitted artifact, _ => ⟨root, part, some (.submitted artifact)⟩
  | _, .raised => ⟨root, part, none⟩
  | .zipTree package, .written content => ⟨root, some ⟨content, false⟩, some (.begin package)⟩
  | .begin package, .uuid4 artifactId =>
    if part = none ∨ root.entries.get (storageName artifactId) ≠ none then ⟨root, part, none⟩
    else ⟨root, part, some (.identity package artifactId)⟩
  | .identity package artifactId, .done =>
    ⟨root, part, part.map fun file => .fsync (package.artifact platform artifactId file.content)⟩
  | .fsync artifact, .done =>
    ⟨root, part.map fun file => { file with synced := true }, part.map fun _ => .replace artifact⟩
  | .replace artifact, .done =>
    match part with
    | none => ⟨root, none, none⟩
    | some file => ⟨root.put artifact.storageName file, none, some (.fsyncDir artifact)⟩
  | .fsyncDir artifact, .done =>
    -- `_fsync_dir` returns at once on Windows
    ⟨if platform.posix then root.sync else root, part, some (.returned artifact)⟩
  | publication, _ => ⟨root, part, some publication⟩

/-- `orphan_artifacts_sync`. -/
def orphanArtifactsSync (s : Store) (root : Directory String (List UInt8)) : List String :=
  let referenced := s.artifacts.rows.map ArtifactRow.storageName
  ((root.entries.rows.map Prod.fst).filter fun name =>
    isPublicationName name ∧ name ∉ referenced).insertionSort (· ≤ ·)

/-! ### The server -/

/-- What an upload request waits for. -/
inductive Upload
  | parts
  | thread
deriving DecidableEq

/-- The process of the server. `removing` has the orphans that are still to be removed, and those
whose removal failed. -/
inductive Process
  | recovered
  | checked
  | removing (orphans failed : List String)
  | serving (uploads : JobId → Option Upload) (publications : JobId → Option Publication)

/-- The store and the data directory, which survive the process, and the process if there is one.
`drawn` are the values that `uuid4()` has returned for artifacts. -/
structure Server where
  store : Store
  root : Directory String (List UInt8)
  parts : JobId → Option (File (List UInt8))
  drawn : List String
  process : Option Process

/-- The calls of the store that are made at the places below only. -/
def hasOwnPlace : RuntimeCall → Bool
  | .publishArtifact _ _ => true
  | .restart _ _ => true
  | .missingArtifacts _ => true
  | _ => false

/-- What the server and the host can do, one step at a time. -/
inductive Label
  /-- Any other call of the store, or a call of an upload request that was cancelled. -/
  | call (now : Millis) (call : RuntimeCall)
  /-- `upload_handler`, up to the awaits. -/
  | startUpload (now : Millis) (jobId : JobId)
  | markPackaging (now : Millis) (jobId : JobId) (files bytes : Nat) (package : Package)
  | publishArtifact (jobId : JobId)
  /-- The request ends: by an exception, by its cancellation, or regularly. -/
  | endRequest (jobId : JobId)
  /-- The thread of `_package_and_publish`. -/
  | thread (jobId : JobId) (outcome : Outcome)
  /-- The store executes the call, or it was cancelled before that. -/
  | execute (now : Millis) (jobId : JobId)
  | cancelled (jobId : JobId)
  /-- `cleanup_work` removes the part. -/
  | cleanupWork (jobId : JobId)
  /-- The server is killed, and `found` is what is left of the artifact root. -/
  | crash (found : Dict String (File (List UInt8))) (parts : JobId → Option (File (List UInt8)))
  /-- The constructor of `PushRuntime`. -/
  | recoverStartup (now : Millis) (acceptTimeout timeout : Nat)
  | reconcileMissing (now : Millis)
  | orphanArtifacts
  /-- `on_startup`. -/
  | removeOrphan (removed : Bool)
  | serve

namespace Server

/-- The data directory is new. -/
def initial : Server where
  store := .initial
  root := ⟨∅, ∅⟩
  parts _ := none
  drawn := []
  process := none

/-- A step while the server serves requests. -/
def serve (platform : Platform) (server : Server) (uploads : JobId → Option Upload)
    (publications : JobId → Option Publication) : Label → Server
  | .call now call =>
    if hasOwnPlace call then server
    else { server with store := server.store.runtimeStep platform.indexed (now, call) }
  | .startUpload now jobId =>
    match server.store.startUpload now jobId with
    | .ok (store, .started _) =>
      { server with
        store := store
        process := some (.serving (Function.update uploads jobId (some .parts)) publications) }
    | .ok (store, .deadlineExpired _) => { server with store := store }
    | .error _ => server
  | .markPackaging now jobId files bytes package =>
    if uploads jobId = some .parts then
      match server.store.markPackaging now jobId files bytes with
      | .ok (store, _) =>
        { server with
          store := store
          process := some (.serving (Function.update uploads jobId (some .thread))
            (Function.update publications jobId (some (.zipTree package)))) }
      | .error _ => server
    else server
  | .publishArtifact jobId =>
    match uploads jobId, publications jobId with
    | some .thread, some (.returned artifact) =>
      { server with
        process := some (.serving uploads
          (Function.update publications jobId (some (.submitted artifact)))) }
    | _, _ => server
  | .endRequest jobId =>
    { server with process := some (.serving (Function.update uploads jobId none) publications) }
  | .thread jobId outcome =>
    match publications jobId with
    | none => server
    | some publication =>
      let next := publication.next platform server.root (server.parts jobId) outcome
      { server with
        root := next.root
        parts := Function.update server.parts jobId next.part
        drawn :=
          match outcome with
          | .uuid4 artifactId => artifactId :: server.drawn
          | _ => server.drawn
        process := some (.serving uploads
          (Function.update publications jobId next.publication)) }
  | .execute now jobId =>
    match publications jobId with
    | some (.submitted artifact) =>
      { server with
        store := server.store.runtimeStep platform.indexed (now, .publishArtifact jobId artifact)
        process := some (.serving uploads (Function.update publications jobId none)) }
    | _ => server
  | .cancelled jobId =>
    match publications jobId with
    | some (.submitted _) =>
      { server with
        process := some (.serving uploads (Function.update publications jobId none)) }
    | _ => server
  | .cleanupWork jobId => { server with parts := Function.update server.parts jobId none }
  | _ => server

/-- A step of the server. -/
def step (platform : Platform) (server : Server) (label : Label) : Server :=
  match label, server.process with
  | .crash found parts, _ =>
    { server with root := ⟨found, found⟩, parts := parts, process := none }
  | .recoverStartup now acceptTimeout timeout, none =>
    { server with
      store := server.store.runtimeStep platform.indexed (now, .restart acceptTimeout timeout)
      process := some .recovered }
  | .reconcileMissing now, some .recovered =>
    let isFile := fun name => (server.root.entries.get name).isSome
    { server with
      store := server.store.runtimeStep platform.indexed (now, .missingArtifacts isFile)
      process := some .checked }
  | .orphanArtifacts, some .checked =>
    { server with
      process := some (.removing (orphanArtifactsSync server.store server.root) []) }
  | .cleanupWork jobId, some (.removing _ _) =>
    { server with parts := Function.update server.parts jobId none }
  | .removeOrphan removed, some (.removing (name :: orphans) failed) =>
    if removed then
      { server with
        root := server.root.unlink name
        process := some (.removing orphans failed) }
    else { server with process := some (.removing orphans (name :: failed)) }
  | .serve, some (.removing [] _) =>
    { server with process := some (.serving (fun _ => none) fun _ => none) }
  | label, some (.serving uploads publications) =>
    server.serve platform uploads publications label
  | _, _ => server

/-- What is promised from outside: `uuid4()` returns no value twice, and a crash of the machine
loses only what was not fsynced. -/
def Admits (server : Server) : Label → Prop
  | .thread _ (.uuid4 artifactId) => artifactId ∉ server.drawn
  | .crash found _ => server.root.AfterCrash found
  | _ => True

instance (server : Server) (label : Label) : Decidable (server.Admits label) := by
  cases label with
  | thread jobId outcome =>
    cases outcome with
    | uuid4 artifactId => exact inferInstanceAs (Decidable (artifactId ∉ server.drawn))
    | _ => exact isTrue trivial
  | crash found parts => exact inferInstanceAs (Decidable (server.root.AfterCrash found))
  | _ => exact isTrue trivial

end Server

/-- A crash of the machine loses no rename. It cannot, where directories are fsynced. -/
def KeepsRenames (platform : Platform) (server : Server) : Label → Prop
  | .crash found _ => platform.posix = true ∨ server.root.NothingLost found
  | _ => True

instance (platform : Platform) (server : Server) (label : Label) :
    Decidable (KeepsRenames platform server label) := by
  cases label with
  | crash found parts =>
    exact inferInstanceAs (Decidable (platform.posix = true ∨ server.root.NothingLost found))
  | _ => exact isTrue trivial

end StylyMdm.Artifacts
