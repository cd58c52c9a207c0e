import StylyMdm.Library.Json

/-!
# The device registry on disk

The records of `device_registry` and the groups of `device_groups`, and what `save_registry` writes
and `load_registry` reads of them. A record is a dictionary in the source; a key that a record may
lack is an optional field here. The file is the JSON value that is written: `json.dumps` and
`json.loads` lose nothing but the types of keys.

**Writing.** `dumped` is the object handed to `json.dumps`, in which two keys may have the same
text; `payload` is what a reader finds of it, the last of two equal keys. `save_registry` catches
`OSError` only, so a value that is nested too deep for the recursive encoder and a text that UTF-8
cannot encode make it raise (`writable`). How deep is too deep is a parameter.

**Reading.** Every field is coerced on its own: a text that is none becomes empty or a default, a
label is stripped and cut again, members and groups lose their repetitions. A battery level that is
no finite number makes `int` raise, which ends the load with the dictionaries cleared. After a load
no device is online.
-/

namespace StylyMdm.Registry

open Text Py

/-! ### Limits -/

/-- `MAX_LABEL_LEN`. -/
def maxLabelLen : Nat := 64

/-- `MAX_GROUP_NAME_LEN`. -/
def maxGroupNameLen : Nat := 64

/-- `MAX_DEVICE_MODEL_LEN`. -/
def maxDeviceModelLen : Nat := 128

/-- `MAX_DEVICE_IP_LEN`. -/
def maxDeviceIpLen : Nat := 64

/-- `MAX_VERSION_NAME_LEN`. -/
def maxVersionNameLen : Nat := 64

/-! ### Records -/

/-- `identity_kind`. -/
inductive IdentityKind
  | canonical
  | legacy
deriving DecidableEq

/-- The text of the kind in the registry file. -/
def IdentityKind.text : IdentityKind → Str
  | .canonical => ofString "canonical"
  | .legacy => ofString "legacy"

/-- The battery of a record; `last_seen` is a number. -/
structure Battery where
  level : Int
  charging : Bool
  lastSeen : Value

/-- A record of `device_registry`. -/
structure Record where
  label : Str := []
  model : Str := []
  ip : Str := []
  lastSeen : Value := .null
  startupApp : Value := .null
  battery : Option (Option Battery) := none
  versionCode : Option (Option Int) := none
  versionName : Option Str := none
  retired : Option Bool := none
  identityKind : Option IdentityKind := none

/-- The memory of the registry: `device_registry`, `device_groups`, and of `devices` the startup
app of each entry. -/
structure Memory where
  registry : List (Value × Record) := []
  groups : List (Str × List Value) := []
  online : List (Str × Value) := []

/-! ### Saving -/

/-- The battery in the registry file. -/
def Battery.toValue (battery : Battery) : Value :=
  .obj [(ofString "level", .int battery.level), (ofString "charging", .bool battery.charging),
    (ofString "last_seen", battery.lastSeen)]

/-- The value of a key that may be missing. -/
def field (key : String) (value : Option Value) : List (Str × Value) :=
  value.toList.map fun v => (ofString key, v)

/-- A record as a JSON object. -/
def Record.toValue (record : Record) : Value :=
  .obj ([(ofString "label", .str record.label), (ofString "model", .str record.model),
      (ofString "ip", .str record.ip), (ofString "last_seen", record.lastSeen),
      (ofString "startup_app", record.startupApp)] ++
    field "battery" (record.battery.map fun battery => battery.elim .null Battery.toValue) ++
    field "version_code" (record.versionCode.map fun code => code.elim .null .int) ++
    field "version_name" (record.versionName.map .str) ++
    field "retired" (record.retired.map .bool) ++
    field "identity_kind" (record.identityKind.map fun kind => .str kind.text))

section Save

-- `float.__repr__` of a finite number, and how deep a value may be nested for `json.dumps`
variable (floatRepr : ℚ → Str) (depthLimit : Nat)

/-- The object a JSON text with these pairs is read as: the last of two equal keys counts. -/
def readPairs {β : Type*} (pairs : List (Str × β)) : List (Str × β) :=
  pairs.foldl (fun d pair => setItem (fun k k' => k = k') pair.1 pair.2 d) []

/-- The `payload` of `save_registry`, as the file holds it. -/
def payload (m : Memory) : Value :=
  .obj [(ofString "devices", .obj (readPairs (m.registry.map fun entry =>
      (entry.1.keyText floatRepr, entry.2.toValue)))),
    (ofString "groups", .obj (m.groups.map fun entry => (entry.1, .arr entry.2)))]

/-- The object that `json.dumps` writes, in which two keys may have the same text. -/
def dumped (m : Memory) : Value :=
  .obj [(ofString "devices", .obj (m.registry.map fun entry =>
      (entry.1.keyText floatRepr, entry.2.toValue))),
    (ofString "groups", .obj (m.groups.map fun entry => (entry.1, .arr entry.2)))]

/-- Are there no exceptions but those of the file system? `json.dumps` raises `RecursionError` on a
value that is nested too deep, `write_text` raises `UnicodeEncodeError` on a surrogate. -/
def writable (m : Memory) : Bool :=
  (dumped floatRepr m).depth ≤ depthLimit && (dumped floatRepr m).encodable

/-- `save_registry`: the new content of the file, or `none` when it raises. -/
def saveRegistry (m : Memory) : Option Value :=
  if writable floatRepr depthLimit m then some (payload floatRepr m) else none

end Save

/-! ### Loading -/

/-- `int(x)` of a finite number. -/
def truncate (q : ℚ) : Int := if q < 0 then ⌈q⌉ else ⌊q⌋

/-- Is it an `int` or a `float`, and not a `bool`? -/
def isNumber : Value → Bool
  | .int _ | .float _ => true
  | _ => false

/-- `_coerce_battery`, when `time.time()` is `now`. `none` is a raised exception: `int(level)` of
a float that is not finite. -/
def coerceBattery (now : ℚ) (value : Value) : Option (Option Battery) :=
  match value with
  | .obj _ =>
    let level := match value.get (ofString "level") with
      | .int n => some (some n)
      | .float (.finite q) => some (some (truncate q))
      | .float _ => none
      | _ => some none
    match level with
    | none => none
    | some none => some none
    | some (some level) =>
      if level < 0 ∨ 100 < level then some none
      else
        match value.get (ofString "charging") with
        | .bool charging =>
          let lastSeen := (value.get? (ofString "last_seen")).getD
            (value.get (ofString "timestamp"))
          some (some ⟨level, charging,
            if isNumber lastSeen then lastSeen else .float (.finite now)⟩)
        | _ => some none
  | _ => some none

/-- The text of a value that should be one. -/
def textOr (value : Value) : Str := value.asStr.getD []

/-- `_coerce_record`. `none` is a raised exception, `some none` a value that is no record. -/
def coerceRecord (now : ℚ) (value : Value) : Option (Option Record) :=
  match value with
  | .str label =>
    some (some
      { label := strip isSpace label
        battery := some none
        versionCode := some none
        versionName := some []
        retired := some false
        identityKind := some .legacy })
  | .obj _ =>
    -- membership in a set of strings hashes the value
    if !(value.get (ofString "identity_kind")).hashable then none
    else (coerceBattery now (value.get (ofString "battery"))).map fun battery =>
      some
        { label := strip isSpace (textOr (value.get (ofString "label")))
          model := textOr (value.get (ofString "model"))
          ip := textOr (value.get (ofString "ip"))
          lastSeen := match value.get (ofString "last_seen") with
            | .bool b => .bool b
            | .int n => .int n
            | .float x => .float x
            | _ => .null
          startupApp := match value.get (ofString "startup_app") with
            | .obj fields => .obj fields
            | _ => .null
          battery := some battery
          versionCode := some (match value.get (ofString "version_code") with
            | .int n => some n
            | _ => none)
          versionName := some (textOr (value.get (ofString "version_name")))
          retired := some (match value.get (ofString "retired") with
            | .bool b => b
            | _ => false)
          identityKind := some (match value.get (ofString "identity_kind") with
            | .str kind => if kind = IdentityKind.canonical.text then .canonical else .legacy
            | _ => .legacy) }
  | _ => some none

/-- Adds a serial that is a non-empty string and is not there yet. -/
def addMember (serials : List Value) (s : Value) : List Value :=
  match s with
  | .str text => if text ≠ [] ∧ !serials.any (Value.same s) then serials ++ [s] else serials
  | _ => serials

/-- The members of a group, without repetitions. -/
def cleanMembers (members : List Value) : List Value := members.foldl addMember []

/-- The name of a group, stripped and cut. -/
def cleanName (name : Str) : Str := (strip isSpace name).take maxGroupNameLen

/-- Adds a group under its clean name, unless that is empty. -/
def addGroup (result : List (Str × List Value)) (entry : Str × Value) : List (Str × List Value) :=
  if cleanName entry.1 = [] then result
  else
    setItem (fun k k' => k = k') (cleanName entry.1)
      (match entry.2 with
        | .arr members => cleanMembers members
        | _ => []) result

/-- `_coerce_groups`. -/
def coerceGroups (value : Value) : List (Str × List Value) :=
  match value with
  | .obj fields => fields.foldl addGroup []
  | _ => []

/-- The records of an object, in order; `none` when one of them raises. -/
def coerceRecords (now : ℚ) : List (Str × Value) → Option (List (Value × Record))
  | [] => some []
  | (serial, value) :: fields =>
    match coerceRecord now value, coerceRecords now fields with
    | some record, some records => some ((record.map fun r => (.str serial, r)).toList ++ records)
    | _, _ => none

/-- `load_registry` of a file that is there and is JSON. The dictionaries are cleared first, and
stay so when a record raises; nothing is online after a restart. -/
def loadRegistry (now : ℚ) (raw : Value) : Memory :=
  let loaded (devicesRaw : List (Str × Value)) (groups : List (Str × List Value)) : Memory :=
    match coerceRecords now devicesRaw with
    | some registry => { registry, groups }
    | none => {}
  match raw with
  | .obj fields =>
    match raw.get (ofString "devices") with
    | .obj devices => loaded devices (coerceGroups (raw.get (ofString "groups")))
    | _ => loaded fields []
  | _ => {}

end StylyMdm.Registry
