import StylyMdm.Registry.Records

/-!
# Messages that change the registry

The registration, battery, result and disconnect paths of `device_ws_handler` and the label, group
and startup-app handlers of the admin channel, as far as they read and write `device_registry`,
`device_groups` and `devices`. A handler runs without an `await` from its checks to its
`save_registry`, so each is one step; `SET_STARTUP_APP` and `CLEAR_STARTUP_APP` await between the
devices of their fan-out, so each device is a step of its own and the save another one.

A field of a message is any JSON value, or missing. A handler that raises leaves the memory as it
was: every exception but the one of `save_registry` comes before the first change. The texts that
`json.loads` makes of a message may have lone surrogates, and a number may become a key: the
handlers of labels and groups do not check that a device id is a string.

Each handler answers with the new memory, whether it goes on to `save_registry`, and what the sender
is told. `State.step` adds the file: a save that raises leaves the file as it was, and a restart
reads it back. Messages of a device are those of the socket that owns it; the models of the
connections say when that is so.
-/

namespace StylyMdm.Registry

open Text Py

/-! ### Replies -/

/-- What the sender is told, or the exception that ends its connection. -/
inductive Reply
  | silent
  | raised (exception : String)
  | error (message : String)
  | labelTaken (label : Str) (owner : Value)
  | groupExists (name : Str)
  | groupMissing (name : Str)
  | unknownGroups (names : List Str)
  | labelSet (deviceId : Value) (label : Str)
  | deviceForgotten (deviceId : Value)
  | groupCreated (name : Str)
  | groupRenamed (name newName : Str)
  | groupDeleted (name : Str)
  | deviceGroupsSet (deviceId : Value) (groups : List Str)
  | groupMembersSet (name : Str) (members : List Value)

/-- What a handler does: the new memory, whether it calls `save_registry`, and its reply. -/
structure Outcome where
  memory : Memory
  saves : Bool := false
  reply : Reply := .silent

/-- A handler that changes nothing. -/
def refuse (m : Memory) (reply : Reply) : Outcome := { memory := m, reply }

/-! ### Registration -/

/-- The fields of a `REGISTER` that are read here. -/
structure RegisterData where
  identityScheme : Value := .null
  deviceId : Value := .null
  model : Value := .null
  ip : Value := .null
  versionName : Value := .null
  versionCode : Value := .null
  startupApp : Value := .null
  identity : Value := .null

/-- What `_parse_registration` makes of it. -/
inductive Registration
  | raised
  | refused (message : String)
  | provisional
  | device (kind : IdentityKind) (deviceId model ip versionName : Str) (versionCode : Option Int)
      (startupApp : Value)

/-- `_bounded_registration_text`. -/
def boundedRegistrationText (value : Value) (fallback : Str) (limit : Nat) : Str :=
  match value with
  | .str s => s.take limit
  | _ => fallback.take limit

/-- A hexadecimal digit in lower case. -/
def isLowerHex (c : Point) : Bool := (48 ≤ c.val && c.val ≤ 57) || (97 ≤ c.val && c.val ≤ 102)

/-- `CANONICAL_DEVICE_ID_RE`. -/
def isCanonicalDeviceId (s : Str) : Bool :=
  match s.splitOn ⟨45, by decide⟩ with
  | [a, b, c, d, e] =>
    [a, b, c, d, e].all (·.all isLowerHex) && a.length = 8 && b.length = 4 && c.length = 4 &&
      d.length = 4 && e.length = 12
  | _ => false

/-- `PROVISIONAL_STATUSES`. -/
def provisionalStatuses : List Str :=
  [ofString "resolving", ofString "access_denied", ofString "io_error", ofString "unsupported_api"]

/-- The provisional branch of `_parse_registration`, for a null `device_id`. -/
def parseProvisional (identity : Value) : Registration :=
  if !identity.isObj || !(identity.get (ofString "state")).same (.str (ofString "provisional")) then
    .refused "A null device_id requires a provisional identity object"
  else if !(identity.get (ofString "status")).hashable then .raised
  else if !((identity.get (ofString "status")).asStr.any (· ∈ provisionalStatuses)) then
    .refused "Unsupported provisional identity status"
  else if (((identity.get? (ofString "diagnostic")).getD (.str [])).asStr).isNone then
    .refused "Provisional diagnostic must be a string"
  else
    match identity.get (ofString "mint_attempted") with
    | .bool _ => .provisional
    | _ => .refused "Provisional mint_attempted must be a boolean"

/-- `_parse_registration`. -/
def parseRegistration (data : RegisterData) (remote : Option Str) : Registration :=
  let model := boundedRegistrationText data.model (ofString "unknown") maxDeviceModelLen
  let fallback := match remote with
    | some address => if address = [] then ofString "unknown" else address
    | none => ofString "unknown"
  let ip := boundedRegistrationText data.ip fallback maxDeviceIpLen
  let versionName := boundedRegistrationText data.versionName [] maxVersionNameLen
  let versionCode := match data.versionCode with
    | .int n => some n
    | _ => none
  match data.identityScheme with
  | .null =>
    match data.deviceId with
    | .str deviceId =>
      if deviceId = [] ∨ 128 < deviceId.length then
        .refused "Legacy REGISTER requires a bounded non-empty device_id"
      else .device .legacy deviceId model ip versionName versionCode data.startupApp
    | _ => .refused "Legacy REGISTER requires a bounded non-empty device_id"
  | .str scheme =>
    if scheme ≠ ofString "styly_device_id_v1" then .refused "Unsupported identity_scheme"
    else
      match data.deviceId with
      | .str deviceId =>
        if isCanonicalDeviceId deviceId then
          .device .canonical deviceId model ip versionName versionCode data.startupApp
        else .refused "device_id must be a canonical lowercase GUID"
      | .null => parseProvisional data.identity
      | _ => .refused "device_id must be a canonical lowercase GUID or null"
  | _ => .refused "Unsupported identity_scheme"

/-- The record of a device. -/
def Memory.record (m : Memory) (serial : Value) : Option Record :=
  getItem Value.same serial m.registry

/-- `device_registry[serial] = record`. -/
def Memory.setRecord (m : Memory) (serial : Value) (record : Record) : Memory :=
  { m with registry := setItem Value.same serial record m.registry }

/-- Changes the record of a device, if there is one. -/
def Memory.updateRecord (m : Memory) (serial : Value) (f : Record → Record) : Memory :=
  match m.record serial with
  | some record => m.setRecord serial (f record)
  | none => m

/-- The first `REGISTER` of a socket, up to its `save_registry`. -/
def handleRegister (m : Memory) (now : ℚ) (data : RegisterData) (remote : Option Str) : Outcome :=
  match parseRegistration data remote with
  | .raised => refuse m (.raised "TypeError")
  | .refused message => refuse m (.error message)
  | .provisional => refuse m .silent
  | .device kind deviceId model ip versionName versionCode startupApp =>
    let prev := (m.record (.str deviceId)).getD {}
    { memory :=
        { m.setRecord (.str deviceId)
            { label := prev.label
              model
              ip
              lastSeen := .float (.finite now)
              startupApp
              battery := some (prev.battery.getD none)
              versionCode := some versionCode
              versionName := some versionName
              identityKind := some kind } with
          online := setItem (fun k k' => k = k') deviceId startupApp m.online }
      saves := true }

/-! ### Device messages -/

/-- `BATTERY_UPDATE` of the socket that owns the device. -/
def handleBatteryUpdate (m : Memory) (now : ℚ) (deviceId : Str) (level charging timestamp : Value) :
    Outcome :=
  match coerceBattery now (.obj [(ofString "level", level), (ofString "charging", charging),
      (ofString "last_seen", timestamp)]) with
  | none => refuse m (.raised "ValueError")
  | some none => refuse m .silent
  | some (some battery) =>
    { memory := m.updateRecord (.str deviceId) fun record =>
        { record with
          battery := some (some { battery with lastSeen := .float (.finite now) })
          lastSeen := .float (.finite now) }
      saves := true }

/-- The end of the socket that owns the device. -/
def handleDisconnect (m : Memory) (now : ℚ) (deviceId : Str) : Outcome :=
  { memory :=
      { m.updateRecord (.str deviceId) fun record =>
          { record with lastSeen := .float (.finite now) } with
        online := popItem (fun k k' => k = k') deviceId m.online }
    saves := (m.record (.str deviceId)).isSome }

/-- The success branch of `_retire_timeout`. -/
def handleRetired (m : Memory) (deviceId : Str) : Outcome :=
  { memory := m.updateRecord (.str deviceId) fun record => { record with retired := some true }
    saves := (m.record (.str deviceId)).isSome }

/-- The startup app that `_startup_app_is` looks at. -/
def startupAppOf (m : Memory) (deviceId : Str) : Value :=
  match getItem (fun k k' => k = k') deviceId m.online with
  | some startupApp => startupApp
  | none => ((m.record (.str deviceId)).map Record.startupApp).getD .null

/-- `_startup_app_is`. -/
def startupAppIs (m : Memory) (deviceId : Str) (packageName : Value) : Bool :=
  packageName.truthy && (startupAppOf m deviceId).isObj &&
    ((startupAppOf m deviceId).get (ofString "package_name")).same packageName

/-- Writes a startup app to the record of a device, and to its entry if it is the `current` one. -/
def Memory.setStartupApp (m : Memory) (deviceId : Str) (startupApp : Value) (current : Bool) :
    Memory :=
  { m.updateRecord (.str deviceId) fun record => { record with startupApp } with
    online := m.online.map fun entry =>
      if current ∧ entry.1 = deviceId then (entry.1, startupApp) else entry }

/-- `DELETE_APP_RESULT`, after the `await` of `forward_to_admins`: the socket need not own the
device any more. -/
def handleDeleteAppResult (m : Memory) (deviceId : Str) (status packageName : Value) : Outcome :=
  if status.same (.str (ofString "success")) && startupAppIs m deviceId packageName then
    { memory := m.setStartupApp deviceId .null true, saves := true }
  else refuse m .silent

/-! ### Labels -/

/-- `(data.get(key) or "").strip()`: the text of a field, or `none` when `strip` raises. -/
def strippedField (value : Option Value) : Option Str :=
  match value.getD .null with
  | .str s => some (strip isSpace s)
  | v => if v.truthy then none else some []

/-- The owner of a label other than the device itself. -/
def labelOwner (m : Memory) (serial : Value) (label : Str) : Option Value :=
  (m.registry.find? fun entry => entry.2.label = label && entry.1.differs serial).map Prod.fst

/-- `handle_set_device_label`. -/
def handleSetDeviceLabel (m : Memory) (deviceId label : Option Value) : Outcome :=
  let serial := deviceId.getD (.str [])
  match strippedField label with
  | none => refuse m (.raised "AttributeError")
  | some text =>
    let label := text.take maxLabelLen
    if !serial.truthy then refuse m (.error "device_id is required")
    else
      match if label = [] then none else labelOwner m serial label with
      | some owner => refuse m (.labelTaken label owner)
      | none =>
        if !serial.hashable then refuse m (.raised "TypeError")
        else
          { memory := m.setRecord serial { (m.record serial).getD {} with label }
            saves := true
            reply := .labelSet serial label }

/-- `handle_forget_device`. -/
def handleForgetDevice (m : Memory) (deviceId : Option Value) : Outcome :=
  let serial := deviceId.getD (.str [])
  if !serial.truthy then refuse m (.error "device_id is required")
  else if !serial.hashable then refuse m (.raised "TypeError")
  else if m.online.any fun entry => (Value.str entry.1).same serial then
    refuse m (.error "Cannot forget an online device; disconnect it first")
  else
    { memory :=
        { m with
          registry := popItem Value.same serial m.registry
          groups := m.groups.map fun entry => (entry.1, entry.2.eraseP (Value.same · serial)) }
      saves := (m.record serial).isSome ||
        m.groups.any fun entry => entry.2.any (Value.same · serial)
      reply := .deviceForgotten serial }

/-! ### Groups -/

/-- The name of a group in a message. -/
def nameField (value : Option Value) : Option Str :=
  (strippedField value).map (·.take maxGroupNameLen)

/-- Is there a group of this name?. -/
def Memory.hasGroup (m : Memory) (name : Str) : Bool := m.groups.any (·.1 = name)

/-- `handle_create_group`. -/
def handleCreateGroup (m : Memory) (name : Option Value) : Outcome :=
  match nameField name with
  | none => refuse m (.raised "AttributeError")
  | some name =>
    if name = [] then refuse m (.error "Group name is required")
    else if m.hasGroup name then refuse m (.groupExists name)
    else
      { memory := { m with groups := setItem (fun k k' => k = k') name [] m.groups }
        saves := true
        reply := .groupCreated name }

/-- `handle_rename_group`. -/
def handleRenameGroup (m : Memory) (name newName : Option Value) : Outcome :=
  match nameField name, nameField newName with
  | some name, some newName =>
    if name = [] ∨ newName = [] then refuse m (.error "Both name and new_name are required")
    else
      match getItem (fun k k' => k = k') name m.groups with
      | none => refuse m (.groupMissing name)
      | some members =>
        if newName ≠ name ∧ m.hasGroup newName then refuse m (.groupExists newName)
        else
          { memory := { m with
              groups := setItem (fun k k' => k = k') newName members
                (popItem (fun k k' => k = k') name m.groups) }
            saves := true
            reply := .groupRenamed name newName }
  | _, _ => refuse m (.raised "AttributeError")

/-- `handle_delete_group`. -/
def handleDeleteGroup (m : Memory) (name : Option Value) : Outcome :=
  match nameField name with
  | none => refuse m (.raised "AttributeError")
  | some name =>
    if name = [] then refuse m (.error "Group name is required")
    else
      { memory := { m with groups := popItem (fun k k' => k = k') name m.groups }
        saves := m.hasGroup name
        reply := .groupDeleted name }

/-- The `target_names` of `handle_set_device_groups`. -/
def targetNames (requested : List Value) : List Str :=
  requested.foldl (fun names v =>
    match v with
    | .str raw =>
      if cleanName raw ≠ [] ∧ cleanName raw ∉ names then names ++ [cleanName raw] else names
    | _ => names) []

/-- The members of one group when the device is put into exactly the named groups. -/
def memberships (serial : Value) (names : List Str) (entry : Str × List Value) :
    Str × List Value :=
  (entry.1,
    if entry.1 ∈ names ∧ !entry.2.any (Value.same · serial) then entry.2 ++ [serial]
    else if entry.1 ∉ names ∧ entry.2.any (Value.same · serial) then
      entry.2.eraseP (Value.same · serial)
    else entry.2)

/-- `handle_set_device_groups`. -/
def handleSetDeviceGroups (m : Memory) (deviceId groups : Option Value) : Outcome :=
  let serial := deviceId.getD (.str [])
  if !serial.truthy then refuse m (.error "device_id is required")
  else
    match groups.getD (.arr []) with
    | .arr requested =>
      let names := targetNames requested
      if names.any fun name => !m.hasGroup name then
        refuse m (.unknownGroups (names.filter fun name => !m.hasGroup name))
      else
        { memory := { m with groups := m.groups.map (memberships serial names) }
          saves := true
          reply := .deviceGroupsSet serial names }
    | _ => refuse m (.error "groups must be a list of group names")

/-- `handle_set_group_members`. -/
def handleSetGroupMembers (m : Memory) (name members : Option Value) : Outcome :=
  match nameField name with
  | none => refuse m (.raised "AttributeError")
  | some name =>
    if name = [] then refuse m (.error "Group name is required")
    else if !m.hasGroup name then refuse m (.groupMissing name)
    else
      match members.getD (.arr []) with
      | .arr requested =>
        { memory := { m with
            groups := setItem (fun k k' => k = k') name (cleanMembers requested) m.groups }
          saves := true
          reply := .groupMembersSet name (cleanMembers requested) }
      | _ => refuse m (.error "members must be a list of serials")

/-! ### Runs -/

/-- The messages and other events that reach the registry. `setStartupApp` and `clearStartupApp` are
what is done for one device after the `await` of its `send_str`; the entry that was looked up before
it is `current` if `devices` has it still. -/
inductive Event
  | register (data : RegisterData) (remote : Option Str)
  | batteryUpdate (deviceId : Str) (level charging timestamp : Value)
  | disconnect (deviceId : Str)
  | retired (deviceId : Str)
  | deleteAppResult (deviceId : Str) (status packageName : Value)
  | setStartupApp (deviceId : Str) (packageName extra : Value) (current : Bool)
  | clearStartupApp (deviceId : Str) (current : Bool)
  | save
  | setDeviceLabel (deviceId label : Option Value)
  | forgetDevice (deviceId : Option Value)
  | createGroup (name : Option Value)
  | renameGroup (name newName : Option Value)
  | deleteGroup (name : Option Value)
  | setDeviceGroups (deviceId groups : Option Value)
  | setGroupMembers (name members : Option Value)
  | restart

/-- The memory and the file. -/
structure State where
  memory : Memory := {}
  file : Option Value := none

/-- Is the device connected? -/
def Memory.isOnline (m : Memory) (deviceId : Str) : Bool := m.online.any (·.1 = deviceId)

/-- What the handler of an event does. A message of a device comes from the socket that owns it,
where the handler has not awaited anything since it checked that. -/
def handle (m : Memory) (now : ℚ) : Event → Outcome
  | .register data remote => handleRegister m now data remote
  | .batteryUpdate deviceId level charging timestamp =>
    if m.isOnline deviceId then handleBatteryUpdate m now deviceId level charging timestamp
    else refuse m .silent
  | .disconnect deviceId =>
    if m.isOnline deviceId then handleDisconnect m now deviceId else refuse m .silent
  | .retired deviceId =>
    if m.isOnline deviceId then refuse m .silent else handleRetired m deviceId
  | .deleteAppResult deviceId status packageName =>
    handleDeleteAppResult m deviceId status packageName
  | .setStartupApp deviceId packageName extra current =>
    if packageName.truthy then
      { memory := m.setStartupApp deviceId (.obj
          [(ofString "package_name", packageName), (ofString "extra", extra)]) current }
    else refuse m (.error "package_name is required for SET_STARTUP_APP")
  | .clearStartupApp deviceId current => { memory := m.setStartupApp deviceId .null current }
  | .save => { memory := m, saves := true }
  | .setDeviceLabel deviceId label => handleSetDeviceLabel m deviceId label
  | .forgetDevice deviceId => handleForgetDevice m deviceId
  | .createGroup name => handleCreateGroup m name
  | .renameGroup name newName => handleRenameGroup m name newName
  | .deleteGroup name => handleDeleteGroup m name
  | .setDeviceGroups deviceId groups => handleSetDeviceGroups m deviceId groups
  | .setGroupMembers name members => handleSetGroupMembers m name members
  | .restart => refuse m .silent

section Step

variable (floatRepr : ℚ → Str) (depthLimit : Nat)

/-- One event, at the time `now`. A save that raises leaves the file alone; a restart loads it. -/
def State.step (s : State) (event : ℚ × Event) : State :=
  match event.2 with
  | .restart => { s with memory := (s.file.map (loadRegistry event.1)).getD {} }
  | _ =>
    let outcome := handle s.memory event.1 event.2
    { memory := outcome.memory
      file :=
        if outcome.saves then (saveRegistry floatRepr depthLimit outcome.memory).or s.file
        else s.file }

end Step

end StylyMdm.Registry
