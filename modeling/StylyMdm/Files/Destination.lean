import StylyMdm.Library.Path

/-!
# Destination paths

The server's `canonical_destination`, which gives a destination its one spelling below `/sdcard`,
and what the client does with it: `parseCommand` trims it and `validateDestinationAgainstRoot`
resolves it below the shared-storage root of the device.

A directory of the device is the list of its components; the file system is a parameter. Both sides
compare the first component in lower case with the protected directories.

**The server** strips the text, takes backslashes for slashes, wants one of the two prefixes
`/sdcard` and `/storage/emulated/0`, drops empty components and dots, and refuses what goes up, what
names the root itself, and what is protected. **The client** trims the text it is sent, finds the
prefix among its own aliases of the root, and walks down component by component: each has to be a
name that the file system allows, and no symbolic link. What the whole path resolves to has to be
below the root. Which components are links, and what resolves to what, is for the file system to
say.
-/

namespace StylyMdm.Files

open Text

/-- The top-level directories nothing may be written below, on both sides. -/
def protectedDirs : List Str :=
  [ofString "android", ofString "download", ofString "downloads", ofString "dcim",
    ofString "pictures", ofString "movies", ofString "music", ofString "documents",
    ofString "alarms", ofString "notifications", ofString "podcasts", ofString "ringtones"]

/-- Is the component, in lower case, one of the protected directories? -/
def isProtected (part : Str) : Bool := part.map lower ∈ protectedDirs

/-- The backslash. -/
def backslash : Point := 92

/-- `text.replace("\\", "/")`. -/
def slashes (text : Str) : Str := text.map fun c => if c = backslash then slash else c

/-- The root `/sdcard` of a destination. -/
def sdcard : Str := ofString "/sdcard"

/-- The root of the shared storage. -/
def storageEmulated : Str := ofString "/storage/emulated/0"

/-- Is the text the path of this directory, or of something below it? -/
def isBelow (base text : Str) : Bool := text = base || (base ++ [slash]).isPrefixOf text

/-! ### The server -/

/-- `canonical_destination` of a string. -/
def canonicalDestination (value : Str) : Except String Str :=
  let text := slashes (strip isSpace value)
  if strip isSpace value = [] then .error "dest_path is required"
  else if 0 ∈ text then .error "dest_path contains an invalid character"
  else if text.head? ≠ some slash then .error "dest_path must be absolute"
  else if dotdot ∈ components text then .error "dest_path must not contain '..'"
  else
    match [sdcard, storageEmulated].find? fun base => isBelow base (normpath text) with
    | none => .error "dest_path must be under shared storage"
    | some root =>
      let remainder := strip (· = slash) ((normpath text).drop root.length)
      if remainder = [] then .error "dest_path must be a shared-storage subdirectory"
      else if isProtected ((components remainder).headD []) then
        .error "dest_path points inside a protected top-level directory"
      else .ok (sdcard ++ slash :: remainder)

/-! ### The client -/

/-- What the client asks the file system. `canonicalFile` is `none` when it throws. -/
structure FileSystem where
  canonicalFile : List Str → Option (List Str)
  isSymbolicLink : List Str → Bool

/-- `File.path` of an absolute path. -/
def filePath (file : List Str) : Str :=
  match file with
  | [] => [slash]
  | parts => slash :: join parts

/-- Does `File.toPath` take the name? It throws on a NUL and on what cannot be encoded. -/
def validName (part : Str) : Bool := 0 ∉ part && encodable part

/-- `CharSequence.isBlank`. -/
def isBlank (text : Str) : Bool := text.all isWhitespace

/-- Why a destination is refused: an `IllegalArgumentException` of `parseCommand`, a
`PushWorkerException` with its message, or an `InvalidPathException` of `toPath`. -/
inductive Refusal
  | malformed (message : String)
  | invalidDestination (message : String)
  | protectedDirectory (first : Str)
  | invalidPath
deriving DecidableEq

/-- The `dest_path` of `parseCommand`. -/
def parseDestPath (destPath : Str) : Except Refusal Str :=
  let trimmed := strip isWhitespace destPath
  if isBlank trimmed then .error (.malformed "invalid_destination: destination is required")
  else .ok trimmed

/-- The aliases of the shared storage, longest first. -/
def aliases (root : List Str) : List Str :=
  ([sdcard, storageEmulated, filePath root].eraseDups).mergeSort fun a b =>
    decide (b.length ≤ a.length)

/-- The components of the destination below the root, as far as the text alone decides. -/
def relativeParts (root : List Str) (normalized : Str) : Except Refusal (List Str) :=
  match (aliases root).find? fun base => isBelow base normalized with
  | none => .error (.invalidDestination "destination must be under shared storage")
  | some base =>
    let relative := strip (· = slash) (normalized.drop base.length)
    let parts := components relative
    if isBlank relative then
      .error (.invalidDestination "destination must be a subdirectory of shared storage")
    else if parts.any fun part => isBlank part || part = dot || part = dotdot then
      .error (.invalidDestination "destination contains an unsafe path component")
    else if isProtected (parts.headD []) then
      .error (.protectedDirectory ((parts.headD []).map lower))
    else .ok parts

/-- The loop over the components: no step of the way may be a symbolic link. -/
def walk (fs : FileSystem) (lexicalTarget : List Str) : List Str → Except Refusal (List Str)
  | [] => .ok lexicalTarget
  | part :: parts =>
    if !(lexicalTarget ++ [part]).all validName then .error .invalidPath
    else if fs.isSymbolicLink (lexicalTarget ++ [part]) then
      .error (.invalidDestination "destination path contains a symbolic link")
    else walk fs (lexicalTarget ++ [part]) parts

/-- `validateDestinationAgainstRoot`. -/
def validateDestinationAgainstRoot (fs : FileSystem) (rootDirectory : List Str) (destPath : Str) :
    Except Refusal (List Str) :=
  let normalized := slashes (strip isWhitespace destPath)
  if isBlank normalized || normalized.head? ≠ some slash then
    .error (.invalidDestination "destination must be an absolute path")
  else
    match fs.canonicalFile rootDirectory with
    | none => .error (.invalidDestination "shared storage root is invalid")
    | some root => do
      let parts ← relativeParts root normalized
      let lexicalTarget ← walk fs root parts
      match fs.canonicalFile lexicalTarget with
      | none => .error (.invalidDestination "destination path is invalid")
      | some target =>
        if filePath target = filePath root ||
            !(filePath root ++ [slash]).isPrefixOf (filePath target) then
          .error (.invalidDestination "destination must be a subdirectory of shared storage")
        else .ok target

/-- The directory the client resolves a `dest_path` to. -/
def clientDestination (fs : FileSystem) (rootDirectory : List Str) (destPath : Str) :
    Except Refusal (List Str) := do
  let destPath ← parseDestPath destPath
  validateDestinationAgainstRoot fs rootDirectory destPath

end StylyMdm.Files
