import StylyMdm.Files.Destination
import StylyMdm.Library.Json
import StylyMdm.Library.JsonText
import StylyMdm.PushJobs.Domain
import StylyMdm.PushJobs.Uuid

/-!
# Create requests

`canonicalize_create_request`: the checks and clean-ups of the body of a create request, in the
order of the source, and the fingerprint of what they leave. Texts of the body may hold lone
surrogates; `encode("utf-8")` refuses them at the end, so a canonical request has strings.

The body is any JSON value. Every check is a definition of its own, with the message that the source
raises; a field that is missing is `null`, as `dict.get` has it. Targets are stripped and sorted,
and refused when two of them are equal. The two declared numbers have to be integers, which a
Boolean is not here: at least one file, and any number of bytes.

The fingerprint is SHA-256, a parameter, of the JSON text that `json.dumps` writes of the payload
with its keys in order.
-/

namespace StylyMdm.PushJobs

open Text Py Files

/-- Why a body is refused: a `PushJobError` with its message, or the `UnicodeEncodeError`. -/
inductive Refused
  | invalid (message : String)
  | unencodable
deriving DecidableEq

/-- The stored text of a push mode. -/
def PushMode.value : PushMode → String
  | .push => "push"
  | .sync => "sync"

/-! ### The checks -/

section Uuid

-- `unicodedata.decimal` of the characters beyond ASCII
variable (decimal : Point → Option (Fin 10))

/-- The text as `int(text, 16)` reads it: digits and blanks beyond ASCII count as ASCII ones. -/
def asciiText (text : Str) : String :=
  String.ofList (text.map fun c =>
    if c.val < 128 then Char.ofNat c.val
    else if isSpace c then ' '
    else
      match decimal c with
      | some d => Nat.digitChar d
      | none => '?')

/-- `require_uuid`. -/
def requireUuid (value : Value) (field : String) : Except Refused String :=
  match value with
  | .str text =>
    match uuidInt (asciiText decimal text) with
    | none => .error (.invalid (field ++ " must be a valid UUIDv4"))
    | some parsed =>
      if isVersion4 parsed then .ok (uuidText parsed)
      else .error (.invalid (field ++ " must be a UUIDv4"))
  | _ => .error (.invalid (field ++ " must be a UUIDv4 string"))

end Uuid

/-- Is the item no string, or only blanks? -/
def isBlankItem (item : Value) : Bool := item.asStr.all fun text => strip isSpace text = []

/-- The strings of a list, stripped. -/
def strippedItems (items : List Value) : List Str :=
  items.filterMap fun item => item.asStr.map (strip isSpace)

theorem strippedItems_ne_nil {items : List Value} (hempty : ¬ items.isEmpty)
    (hblank : ¬ items.any isBlankItem) : strippedItems items ≠ [] := by
  rcases items with _ | ⟨item, items⟩
  · exact absurd rfl hempty
  · rw [List.any_cons, Bool.or_eq_true, not_or] at hblank
    cases item with
    | str text => simp [strippedItems, Value.asStr]
    | _ => exact absurd rfl hblank.1

/-- The distinct device ids of `target_devices`, stripped. The source sorts them here. -/
def cleanedTargets (value : Value) :
    Except Refused { targets : List Str // targets ≠ [] ∧ targets.Nodup } :=
  match value with
  | .arr items =>
    if hempty : items.isEmpty then
      .error (.invalid "target_devices must be a non-empty array")
    else if hblank : items.any isBlankItem then
      .error (.invalid "target_devices must contain non-empty device IDs")
    else if hdup : (strippedItems items).Nodup then
      .ok ⟨strippedItems items, strippedItems_ne_nil hempty hblank, hdup⟩
    else .error (.invalid "target_devices must not contain duplicates")
  | _ => .error (.invalid "target_devices must be a non-empty array")

/-- `PushMode(str(value).lower())`; the text of a value that is no string is no mode. -/
def parseMode (value : Option Value) : Except Refused PushMode :=
  match value with
  | some (.str text) =>
    if text.map lower = ofString "push" then .ok .push
    else if text.map lower = ofString "sync" then .ok .sync
    else .error (.invalid "mode must be 'push' or 'sync'")
  | _ => .error (.invalid "mode must be 'push' or 'sync'")

/-- `canonical_destination`. -/
def parseDestination (value : Value) : Except Refused Str :=
  match value with
  | .str text =>
    match canonicalDestination text with
    | .ok destination => .ok destination
    | .error message => .error (.invalid message)
  | _ => .error (.invalid "dest_path is required")

/-- `isinstance(value, Mapping)`. -/
def requireObject (value : Value) : Except Refused Unit :=
  if value.isObj then .ok () else .error (.invalid "source must be an object")

/-- The display name: stripped, and then cut. -/
def parseDisplayName (value : Value) : Except Refused Str :=
  match value with
  | .str name =>
    if strip isSpace name = [] then .error (.invalid "source.display_name is required")
    else .ok ((strip isSpace name).take 255)
  | _ => .error (.invalid "source.display_name is required")

/-- A declared number, which is an `int` and no `bool`. -/
def parseDeclared (least : Int) (message : String) (value : Value) : Except Refused Nat :=
  match value with
  | .int n => if n < least then .error (.invalid message) else .ok n.toNat
  | _ => .error (.invalid message)

/-- The check of `declared_file_count`. -/
def parseFileCount : Value → Except Refused Nat :=
  parseDeclared 1 "source.declared_file_count must be a positive integer"

/-- The check of `declared_total_bytes`. -/
def parseTotalBytes : Value → Except Refused Nat :=
  parseDeclared 0 "source.declared_total_bytes must be a non-negative integer"

/-! ### The fingerprint -/

/-- `CanonicalSource.as_dict`. -/
def CanonicalSource.asDict (source : CanonicalSource) : Value :=
  .obj [(ofString "display_name", .str (ofString source.displayName)),
    (ofString "declared_file_count", .int source.declaredFileCount),
    (ofString "declared_total_bytes", .int source.declaredTotalBytes)]

/-- The fields of `fingerprint_payload`. -/
def CanonicalCreateRequest.payloadFields (request : CanonicalCreateRequest) : List (Str × Value) :=
  [(ofString "target_devices", .arr (request.targetDevices.map fun id => .str (ofString id))),
    (ofString "mode", .str (ofString request.mode.value)),
    (ofString "dest_path", .str (ofString request.destPath)),
    (ofString "source", request.source.asDict)]

/-- `fingerprint_payload`. -/
def CanonicalCreateRequest.fingerprintPayload (request : CanonicalCreateRequest) : Value :=
  .obj request.payloadFields

/-- The body made of the request id and the fingerprint payload. -/
def CanonicalCreateRequest.body (request : CanonicalCreateRequest) : Value :=
  .obj ((ofString "client_request_id", .str (ofString request.clientRequestId)) ::
    request.payloadFields)

/-- `json.dumps(payload, ensure_ascii=False, sort_keys=True, separators=(",", ":"))`. -/
def payloadText (targetDevices : List String) (mode : PushMode) (destPath : String)
    (source : CanonicalSource) : List Char :=
  object
    [("dest_path", quote destPath),
      ("mode", quote mode.value),
      ("source", object
        [("declared_file_count", digits source.declaredFileCount),
          ("declared_total_bytes", digits source.declaredTotalBytes),
          ("display_name", quote source.displayName)]),
      ("target_devices", stringList targetDevices)]

/-- `sorted` of strings. -/
def sortedTargets (targets : List Str) : List String :=
  (targets.map asString).mergeSort fun s t => decide (s ≤ t)

theorem sortedTargets_perm (targets : List Str) :
    (sortedTargets targets).Perm (targets.map asString) := List.mergeSort_perm _ _

theorem pairwise_sortedTargets {targets : List Str} (hdup : targets.Nodup)
    (hencodable : ∀ target ∈ targets, encodable target) :
    (sortedTargets targets).Pairwise (· < ·) := by
  have hle : (sortedTargets targets).Pairwise (· ≤ ·) := by
    refine (List.pairwise_mergeSort ?_ ?_ _).imp of_decide_eq_true
    · intro a b c hab hbc
      exact decide_eq_true ((of_decide_eq_true hab).trans (of_decide_eq_true hbc))
    · intro a b
      rw [Bool.or_eq_true, decide_eq_true_iff, decide_eq_true_iff]
      exact le_total a b
  have hnodup : (sortedTargets targets).Nodup := by
    rw [(sortedTargets_perm targets).nodup_iff, List.nodup_map_iff_inj_on hdup]
    intro s hs t ht heq
    rw [← ofString_asString (hencodable s hs), heq, ofString_asString (hencodable t ht)]
  exact (hle.and hnodup).imp fun h => lt_of_le_of_ne h.1 h.2

section Canonicalize

variable (decimal : Point → Option (Fin 10))

-- `hashlib.sha256(encoded).hexdigest()`
variable (sha256 : ByteArray → String)

/-- The request with its fingerprint, if `encode` takes all of its texts. -/
def sealRequest (clientRequestId : String)
    (targets : { targets : List Str // targets ≠ [] ∧ targets.Nodup }) (mode : PushMode)
    (destPath : Str) (displayName : Str) (declaredFileCount declaredTotalBytes : Nat) :
    Except Refused CanonicalCreateRequest :=
  if h : (∀ target ∈ targets.1, encodable target) ∧ encodable destPath ∧ encodable displayName then
    let source : CanonicalSource :=
      { displayName := asString displayName, declaredFileCount, declaredTotalBytes }
    .ok
      { clientRequestId
        targetDevices := sortedTargets targets.1
        mode
        destPath := asString destPath
        source
        fingerprint := sha256 (String.ofList
          (payloadText (sortedTargets targets.1) mode (asString destPath) source)).toUTF8
        targets_ne_nil := by
          rw [ne_eq, ← List.length_eq_zero_iff, (sortedTargets_perm _).length_eq]
          simpa using targets.2.1
        targets_sorted := pairwise_sortedTargets targets.2.2 h.1 }
  else .error .unencodable

/-- `canonicalize_create_request`. -/
def canonicalizeCreateRequest (data : Value) : Except Refused CanonicalCreateRequest := do
  let clientRequestId ←
    requireUuid decimal (data.get (ofString "client_request_id")) "client_request_id"
  let targets ← cleanedTargets (data.get (ofString "target_devices"))
  let mode ← parseMode (data.get? (ofString "mode"))
  let destPath ← parseDestination (data.get (ofString "dest_path"))
  let source := data.get (ofString "source")
  requireObject source
  let displayName ← parseDisplayName (source.get (ofString "display_name"))
  let declaredFileCount ← parseFileCount (source.get (ofString "declared_file_count"))
  let declaredTotalBytes ← parseTotalBytes (source.get (ofString "declared_total_bytes"))
  sealRequest sha256 clientRequestId targets mode destPath displayName declaredFileCount
    declaredTotalBytes

end Canonicalize

end StylyMdm.PushJobs
