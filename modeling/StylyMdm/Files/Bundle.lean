import StylyMdm.Library.FileTree
import StylyMdm.Files.Destination

/-!
# Bundles

The way of uploaded files to the staging directory of a device: `upload_handler` receives the parts
of a multipart request into the upload directory of the job, `_package_and_publish` zips what is
there, without the directory all files share, and the client's `validateAndExtract` unpacks it.

An archive is the list of its entries. The upload directory is new, as a job is uploaded once, and
the staging directory is made anew before each extraction.

**The upload.** A part with another name than `files` is passed over, and so is metadata of an
operating system. A file name that `sanitize_relpath` refuses, or that it makes the same of as of an
earlier one, ends the request, as do too many files and too many bytes. A part is read in chunks of
any size.

**The extraction.** Every entry name is checked on its own, then its path is compared with those of
the entries before it: nothing may lie below a file, and no path may be taken twice. Sizes are
counted while the entries are read, since the header of an entry may lie. How the stream of an entry
is cut into reads is a parameter.
-/

namespace StylyMdm.Files

open Text

/-- A byte string. -/
abbrev Bytes := List UInt8

/-- The files below a directory. -/
abbrev Tree := FileTree Str Bytes

/-! ### Names of uploaded files -/

/-- One segment of the loop of `sanitize_relpath`. -/
def sanitizeSegment (parts : List Str) (segment : Str) : Option (List Str) :=
  let seg := strip isSpace segment
  if seg = [] ∨ seg = dot then some parts
  else if seg = dotdot then none
  else some (parts ++ [seg])

/-- `sanitize_relpath`. -/
def sanitizeRelpath (raw : Option Str) : Option Str :=
  match raw with
  | none => none
  | some raw =>
    if raw = [] then none
    else if 0 ∈ slashes raw then none
    else
      match (components (slashes raw)).foldlM sanitizeSegment [] with
      | none => none
      | some parts => if parts = [] then none else some (join parts)

/-- Names of files that the operating systems make. -/
def excludedNames : List Str :=
  [ofString ".ds_store", ofString "thumbs.db", ofString "ehthumbs.db", ofString "desktop.ini",
    ofString ".directory", ofString ".apdisk", ofString ".volumeicon.icns"]

/-- Directories that the operating systems own. -/
def excludedDirs : List Str :=
  [ofString ".spotlight-v100", ofString ".trashes", ofString ".fseventsd",
    ofString ".temporaryitems", ofString ".documentrevisions-v100", ofString "__macosx",
    ofString "$recycle.bin"]

/-- `is_os_metadata`. -/
def isOsMetadata (relpath : Str) : Bool :=
  (components relpath).any fun seg =>
    let low := seg.map lower
    low ∈ excludedNames || low ∈ excludedDirs || (ofString "._").isPrefixOf low ||
      (ofString ".trash-").isPrefixOf low

/-! ### The upload -/

/-- A part of the multipart request, with its content as it is read. `read_chunk` returns nothing
only at the end. -/
structure Part where
  name : Option Str
  filename : Option Str
  chunks : List Bytes
  chunks_ne : ∀ chunk ∈ chunks, chunk ≠ []

/-- The content of a part. -/
def Part.content (part : Part) : Bytes := part.chunks.flatten

/-- Why an upload is not published. -/
inductive UploadError
  | unsafePath (filename : Option Str)
  | duplicatePath (relative : Str)
  | entryLimit
  | byteLimit
  | noContentFiles
  | osError (path : List Str)
  | unicodeEncodeError (name : Str)
deriving DecidableEq

/-- `MAX_BUNDLE_ENTRIES`. -/
def maxBundleEntries : Nat := 5000

/-- `MAX_BUNDLE_SIZE`. -/
def maxBundleSize : Nat := 2 * 1024 * 1024 * 1024

/-- The local variables of `upload_handler`, with what is in the upload directory. -/
structure Upload where
  seen : List Str
  actualCount : Nat
  actualBytes : Nat
  uploadRoot : Tree

/-- `_open_owned_upload`: the directories are made, and the file must not be there. -/
def openOwnedUpload (uploadRoot : Tree) (path : List Str) : Except UploadError Tree :=
  if uploadRoot.isFile path then .error (.osError path)
  else
    match uploadRoot.put path [] with
    | none => .error (.osError path)
    | some uploadRoot => .ok uploadRoot

/-- The loop that reads the chunks of a file, with the bytes counted so far and those written. -/
def readChunks (actualBytes : Nat) (written : Bytes) : List Bytes → Except UploadError (Nat × Bytes)
  | [] => .ok (actualBytes, written)
  | chunk :: chunks =>
    if maxBundleSize < actualBytes + chunk.length then .error .byteLimit
    else readChunks (actualBytes + chunk.length) (written ++ chunk) chunks

/-- One part of the request. -/
def receivePart (upload : Upload) (part : Part) : Except UploadError Upload :=
  if part.name ≠ some (ofString "files") then .ok upload
  else
    match sanitizeRelpath part.filename with
    | none => .error (.unsafePath part.filename)
    | some relative =>
      if isOsMetadata relative then .ok upload
      else if relative ∈ upload.seen then .error (.duplicatePath relative)
      else if maxBundleEntries < upload.actualCount + 1 then .error .entryLimit
      else do
        let destination := components relative
        let opened ← openOwnedUpload upload.uploadRoot destination
        let (actualBytes, written) ← readChunks upload.actualBytes [] part.chunks
        match opened.put destination written with
        | none => .error (.osError destination)
        | some uploadRoot =>
          .ok
            { seen := upload.seen ++ [relative]
              actualCount := upload.actualCount + 1
              actualBytes := actualBytes
              uploadRoot := uploadRoot }

/-- The loop of `upload_handler`. -/
def receiveParts (parts : List Part) : Except UploadError Upload :=
  parts.foldlM receivePart
    { seen := [], actualCount := 0, actualBytes := 0, uploadRoot := .empty }

/-! ### The archive -/

/-- An entry of an archive. -/
structure Entry where
  name : Str
  content : Bytes
deriving DecidableEq

/-- `p.split("/", 1)[0]`. -/
def firstSegment (path : Str) : Str := path.takeWhile fun c => c ≠ slash

/-- `p.split("/", 1)[1]`. -/
def laterSegments (path : Str) : Str := (path.dropWhile fun c => c ≠ slash).drop 1

/-- `strip_common_root`. -/
def stripCommonRoot (relpaths : List Str) : Option Str × List Str :=
  if relpaths = [] ∨ ∃ path ∈ relpaths, slash ∉ path then (none, relpaths)
  else
    match (relpaths.map firstSegment).eraseDups with
    | [root] => (some root, relpaths.map laterSegments)
    | _ => (none, relpaths)

/-- The files below a root, in the order of `sorted(root.rglob("*"))`. -/
def filesBelow (tree : Tree) (root : List Str) : List (List Str × Bytes) :=
  (tree.files.filter fun file => root <+: file.1 ∧ root ≠ file.1).insertionSort
    fun file file' => file.1 ≤ file'.1

/-- `zip_tree`. A name that is not Unicode text cannot be written. -/
def zipTree (tree : Tree) (root : List Str) : Except UploadError (List Entry) :=
  (filesBelow tree root).mapM fun file =>
    let name := join (file.1.drop root.length)
    if encodable name then .ok { name := name, content := file.2 }
    else .error (.unicodeEncodeError name)

/-- `_package_and_publish`, as far as the entries of the archive. -/
def packageAndPublish (uploadRoot : Tree) (relativePaths : List Str) :
    Except UploadError (List Entry) :=
  let stripped := (stripCommonRoot relativePaths).2
  if stripped ≠ relativePaths then
    zipTree uploadRoot [firstSegment (relativePaths.headD [])]
  else zipTree uploadRoot []

/-- `upload_handler`, from the request to the archive. -/
def uploadHandler (parts : List Part) : Except UploadError (List Entry) := do
  let upload ← receiveParts parts
  if upload.actualCount = 0 then .error .noContentFiles
  else packageAndPublish upload.uploadRoot (upload.seen.insertionSort (· ≤ ·))

/-! ### The extraction -/

/-- The `PushWorkerException`s of `validateAndExtract`. -/
inductive ExtractError
  | tooManyEntries
  | invalidEntryPath
  | unsafeEntryPath
  | duplicatePath (relative : Str)
  | conflict (path : Str)
  | escapedStaging
  | stagingDirectory
  | tooLarge
  | sizeOverflow
  | invalidZip
  | noEntries
deriving DecidableEq

/-- `MAX_ARCHIVE_ENTRIES`. -/
def maxArchiveEntries : Nat := 5000

/-- `MAX_EXTRACTED_BYTES`. -/
def maxExtractedBytes : Nat := 2 * 1024 * 1024 * 1024

/-- `Long.MAX_VALUE`. -/
def maxLong : Nat := 2 ^ 63 - 1

/-- A `PushFilesWorker`, as far as the limit that its constructor takes. The application makes it
with the default. -/
structure PushFilesWorker where
  maxExtractedBytes : Nat := Files.maxExtractedBytes
  le_maxLong : maxExtractedBytes ≤ maxLong := by decide

/-- `validateEntryName`. -/
def validateEntryName (raw : Str) : Except ExtractError Str :=
  if isBlank raw || 0 ∈ raw || raw.head? = some slash || raw.head? = some backslash then
    .error .invalidEntryPath
  else
    let normalized := (slashes raw).rdropWhile fun c => c = slash
    if isBlank normalized ||
        (components normalized).any fun part => isBlank part || part = dot || part = dotdot then
      .error .unsafeEntryPath
    else .ok normalized

/-- The local variables of `validateAndExtract`, with what is in the staging directory. `kinds`
tells directories from files. -/
structure Extraction where
  seen : List Str
  kinds : Str → Option Bool
  entryCount : Nat
  extractedBytes : Nat
  staging : Tree

/-- The loop over the ancestors of an entry. -/
def markAncestors (kinds : Str → Option Bool) : List Str → Except ExtractError (Str → Option Bool)
  | [] => .ok kinds
  | ancestor :: later =>
    if kinds ancestor = some false then .error (.conflict ancestor)
    else markAncestors (Function.update kinds ancestor (some true)) later

/-- `File(staging, relative).canonicalFile`, where no link is on the way. -/
def canonicalTarget (staging : List Str) (relative : Str) : List Str :=
  (components relative).foldl
    (fun path part =>
      if part = [] ∨ part = dot then path
      else if part = dotdot then path.dropLast
      else path ++ [part])
    staging

/-- The loop that copies an entry, with the bytes extracted so far and those written. -/
def copyEntry (worker : PushFilesWorker) (extractedBytes : Nat) (written : Bytes) :
    List Bytes → Except ExtractError (Nat × Bytes)
  | [] => .ok (extractedBytes, written)
  | read :: reads =>
    if 0 < read.length ∧ maxLong - read.length < extractedBytes then .error .sizeOverflow
    else if worker.maxExtractedBytes < extractedBytes + read.length then .error .tooLarge
    else copyEntry worker (extractedBytes + read.length) (written ++ read) reads

/-- How the stream of an entry comes in reads. -/
structure Streams where
  reads : Entry → List Bytes
  complete : ∀ entry, (reads entry).flatten = entry.content

/-- The file of an entry: its directories are made, and one that was there is truncated. -/
def openTarget (staging : Tree) (target : List Str) : Except ExtractError Tree :=
  match staging.put target [] with
  | some opened => .ok opened
  | none =>
    if staging.isDir target.dropLast || staging.isFile target.dropLast then .error .invalidZip
    else .error .stagingDirectory

/-- `entry.isDirectory`. -/
def Entry.isDirectory (entry : Entry) : Bool := entry.name.getLast? = some slash

/-- One entry of the archive, below the canonical staging directory `root`. -/
def extractEntry (worker : PushFilesWorker) (streams : Streams) (root : List Str)
    (state : Extraction) (entry : Entry) : Except ExtractError Extraction := do
  if maxArchiveEntries < state.entryCount + 1 then .error .tooManyEntries
  else
    let relative ← validateEntryName entry.name
    if relative ∈ state.seen then .error (.duplicatePath relative)
    else
      let parts := components relative
      let kinds ← markAncestors state.kinds ((ancestors parts).map join)
      if kinds relative = some !entry.isDirectory then .error (.conflict relative)
      else
        let target := canonicalTarget root relative
        let below := target.drop root.length
        if target ≠ root ∧ !(filePath root ++ [slash]).isPrefixOf (filePath target) then
          .error .escapedStaging
        else if entry.isDirectory then
          match if state.staging.isDir below || state.staging.isFile below then some state.staging
            else state.staging.mkdirs below with
          | none => .error .stagingDirectory
          | some staging =>
            .ok
              { seen := state.seen ++ [relative]
                kinds := Function.update kinds relative (some true)
                entryCount := state.entryCount + 1
                extractedBytes := state.extractedBytes
                staging := staging }
        else do
          let opened ← openTarget state.staging below
          let (extractedBytes, written) ←
            copyEntry worker state.extractedBytes [] (streams.reads entry)
          match opened.put below written with
          | none => .error .invalidZip
          | some staging =>
            .ok
              { seen := state.seen ++ [relative]
                kinds := Function.update kinds relative (some false)
                entryCount := state.entryCount + 1
                extractedBytes := extractedBytes
                staging := staging }

/-- `validateAndExtract` into the directory `staging` of the work directory. -/
def PushFilesWorker.validateAndExtract (worker : PushFilesWorker) (streams : Streams)
    (work : List Str) (entries : List Entry) : Except ExtractError Tree := do
  let root := work ++ [ofString "staging"]
  let state ← entries.foldlM (extractEntry worker streams root)
    { seen := [], kinds := fun _ => none, entryCount := 0, extractedBytes := 0, staging := .empty }
  if state.entryCount = 0 then .error .noEntries else .ok state.staging

/-- `validateAndExtract` of the worker that the application makes. -/
def validateAndExtract (streams : Streams) (work : List Str) (entries : List Entry) :
    Except ExtractError Tree :=
  PushFilesWorker.validateAndExtract {} streams work entries

end StylyMdm.Files
