import StylyMdm.Client.DeviceIdentity

/-!
# The frames between a device and the server

What a device and the server say to each other about its registration and about commands. A command
keeps in mind to whom the server has addressed it, and a result which command it answers; no
function reads this. Frames of the push protocol are commands here, without their payload.

`claim_of_ready` and `claim_of_provisional` say that the server takes a `REGISTER` of the client for
what it is.

**Two kinds of registration.** A client that knows its identity claims a device by its canonical id.
One that does not registers provisionally, with the reason for it, and is given the id of a
provisional connection; it may be rebooted or powered off, and nothing else. The frames name the
kind they are for: `REGISTERED`, and `REGISTERED_PROVISIONAL` with the id.

**Reading.** The server reads fields that any client may have filled with anything, so `claim` is
total: a registration is a claim of a device, a provisional one, or refused, or reading it raises.
The facts that a registration carries without anyone deciding by them (`Facts`) stay uninterpreted.
-/

namespace StylyMdm.Handshake

open Text Py Registry Client.Identity

/-- The identity of a device. -/
abbrev DeviceId := Str

/-! ### From the server -/

/-- The type of a command, which is one of those that some function tells from the others. -/
inductive CommandType
  | reboot
  | powerOff
  | install
  | pushFiles
  | resultAck
  | reconcileRequest
  | other (name : Str)
deriving DecidableEq, Repr

/-- `PROVISIONAL_POWER_COMMANDS`. -/
def CommandType.isPower : CommandType → Bool
  | .reboot | .powerOff => true
  | _ => false

/-- Does `handleServerMessage` take it? -/
def CommandType.isPush : CommandType → Bool
  | .pushFiles | .resultAck | .reconcileRequest => true
  | _ => false

/-- To whom a command is addressed. -/
inductive Target
  | device (deviceId : DeviceId)
  | connection (connectionId : Str)
deriving DecidableEq, Repr

/-- A command the server sends: its type, the provisional connection its payload names, and the
target it was meant for. -/
structure Command where
  type : CommandType
  connectionId : Option Str
  target : Target
deriving DecidableEq, Repr

/-- The frames the server sends. -/
inductive Down
  | registered
  | registeredProvisional (connectionId : Str)
  | error
  | command (command : Command)
deriving DecidableEq, Repr

/-! ### From a device -/

/-- The types of a result. -/
inductive ResultType
  | reboot
  | powerOff
  | other (name : Str)
deriving DecidableEq, Repr

/-- `PROVISIONAL_RESULT_COMMANDS`. -/
def ResultType.command : ResultType → Option CommandType
  | .reboot => some .reboot
  | .powerOff => some .powerOff
  | .other _ => none

/-- A result. The result of a command to reboot or to power off is for its target. -/
structure Result where
  type : ResultType
  connectionId : Option Value
  answers : Option Target := none

/-- The frames the client sends. -/
inductive Up
  | register (data : RegisterData) (capabilities : Value)
  | result (result : Result)
  | other

/-- What the client says about itself whatever its identity. -/
structure Facts where
  model : Str
  ip : Str
  versionName : Str
  versionCode : Int
  startupApp : Value

/-- A string on the wire: what UTF-8 cannot encode becomes a question mark. -/
def onWire (s : Str) : Str := s.map fun c => if isSurrogate c then 63 else c

/-- The object that `provisionalIdentity` builds. -/
def identityObject (status diagnostic : Str) (mintAttempted : Bool) : Value :=
  .obj
    [(ofString "state", .str (ofString "provisional")), (ofString "status", .str status),
      (ofString "diagnostic", .str (onWire diagnostic)),
      (ofString "mint_attempted", .bool mintAttempted)]

/-- The `identity` of a provisional registration. -/
def provisionalIdentity : DeviceIdentityState → Value
  | .unavailable status diagnostic mintAttempted =>
    identityObject status.protocolValue diagnostic mintAttempted
  | _ => identityObject (ofString "resolving") [] false

/-- `PROVISIONAL_POWER_CONTROL_CAPABILITY`. -/
def provisionalPowerCapability : Str := ofString "provisional_power_control_v1"

/-- The `REGISTER` of the client. -/
def registration (facts : Facts) : DeviceIdentityState → Up
  | .ready deviceId =>
    .register
      { identityScheme := .str (ofString "styly_device_id_v1")
        deviceId := .str deviceId
        model := .str facts.model
        ip := .str facts.ip
        versionName := .str facts.versionName
        versionCode := .int facts.versionCode
        startupApp := facts.startupApp }
      (.arr [.str (ofString "push_job_id_v1")])
  | state =>
    .register
      { identityScheme := .str (ofString "styly_device_id_v1")
        deviceId := .null
        model := .str facts.model
        ip := .str facts.ip
        versionName := .str facts.versionName
        versionCode := .int facts.versionCode
        identity := provisionalIdentity state }
      (.arr [.str provisionalPowerCapability])

/-! ### What the server reads -/

/-- `MAX_CAPABILITIES`. -/
def maxCapabilities : Nat := 32

/-- `parse_capabilities`: all of them, or none if anything is malformed. -/
def parseCapabilities : Value → List Str
  | .arr items =>
    if maxCapabilities < items.length then []
    else
      (items.mapM fun item : Value =>
        item.asStr.filter fun s => s ≠ [] && s.length ≤ 128).getD []
  | _ => []

/-- What a provisional entry has from the message. -/
structure ProvisionalIdentity where
  identityStatus : Str
  diagnostic : Str
  mintAttempted : Bool
deriving DecidableEq, Repr

/-- The diagnostic, as `_parse_registration` bounds it. -/
def boundedDiagnostic (diagnostic : Str) : Str :=
  (strip isSpace (joinLines false diagnostic)).take maxDiagnosticLength

/-- What `_parse_registration` takes from a provisional identity that it accepts. -/
def readProvisional (identity : Value) : ProvisionalIdentity where
  identityStatus := (identity.get (ofString "status")).asStr.getD []
  diagnostic :=
    boundedDiagnostic (((identity.get? (ofString "diagnostic")).getD (.str [])).asStr.getD [])
  mintAttempted :=
    match identity.get (ofString "mint_attempted") with
    | .bool mintAttempted => mintAttempted
    | _ => false

/-- What the server is to know of a client without an identity. -/
def ProvisionalIdentity.of (state : DeviceIdentityState) : ProvisionalIdentity :=
  match state with
  | .unavailable status diagnostic mintAttempted =>
    ⟨status.protocolValue, boundedDiagnostic (onWire diagnostic), mintAttempted⟩
  | _ => ⟨ofString "resolving", boundedDiagnostic [], false⟩

/-- What a `REGISTER` claims to come from. -/
inductive Claim
  | raised
  | refused
  | provisional
  | device (kind : IdentityKind) (deviceId : DeviceId)
deriving DecidableEq

/-- The identity that `_parse_registration` finds. -/
def claim (data : RegisterData) (remote : Option Str) : Claim :=
  match parseRegistration data remote with
  | .raised => .raised
  | .refused _ => .refused
  | .provisional => .provisional
  | .device kind deviceId _ _ _ _ _ => .device kind deviceId

/-! ### The order of registrations -/

namespace Up

/-- Is the frame a `REGISTER`?. -/
def isRegister : Up → Bool
  | .register _ _ => true
  | _ => false

/-- The `REGISTER` of a client with an identity, after which it sends no other. -/
def isFinal : Up → Bool
  | .register data _ => data.deviceId.asStr.isSome
  | _ => false

/-- A final registration is a `REGISTER`. -/
theorem isRegister_of_isFinal {frame : Up} (h : frame.isFinal = true) :
    frame.isRegister = true := by
  cases frame with
  | register data capabilities => rfl
  | result result => cases h
  | other => cases h

end Up

/-- So is every registration. -/
@[simp] theorem isRegister_registration (facts : Facts) (state : DeviceIdentityState) :
    (registration facts state).isRegister = true := by
  cases state <;> rfl

/-- The final one is that of a ready identity. -/
theorem isFinal_registration {facts : Facts} {state : DeviceIdentityState} :
    (registration facts state).isFinal = true ↔ ∃ deviceId, state = .ready deviceId := by
  cases state with
  | ready deviceId => exact iff_of_true rfl ⟨deviceId, rfl⟩
  | resolving => exact iff_of_false Bool.false_ne_true (by simp)
  | unavailable status diagnostic mintAttempted => exact iff_of_false Bool.false_ne_true (by simp)

/-! ### What a registration is taken for -/

section Registration

variable {facts : Facts} {state : DeviceIdentityState} {data : RegisterData} {capabilities : Value}
  {remote : Option Str}

/-- A client with an identity is taken for the device of this identity. -/
theorem claim_of_ready {deviceId : DeviceId} (hcanonical : isCanonicalDeviceId deviceId = true)
    (h : registration facts (.ready deviceId) = .register data capabilities) :
    claim data remote = .device .canonical deviceId := by
  cases h
  simp only [claim, parseRegistration, ne_eq, not_true_eq_false, if_false, hcanonical, if_true]

/-- The server knows every status that the client sends. -/
theorem protocolValue_mem (status : DeviceIdentityStatus) :
    status.protocolValue ∈ provisionalStatuses := by
  cases status <;> decide

/-- It takes the identity that the client builds for a provisional one. -/
theorem parseProvisional_identityObject {status diagnostic : Str} {mintAttempted : Bool}
    (hstatus : status ∈ provisionalStatuses) :
    parseProvisional (identityObject status diagnostic mintAttempted) = .provisional := by
  have hstate : (identityObject status diagnostic mintAttempted).get (ofString "state") =
      .str (ofString "provisional") := rfl
  have hget : (identityObject status diagnostic mintAttempted).get (ofString "status") =
      .str status := by
    simp [identityObject, Value.get, Value.get?, List.lookup]
  have hdiagnostic : (identityObject status diagnostic mintAttempted).get?
      (ofString "diagnostic") = some (.str (onWire diagnostic)) := by
    simp [identityObject, Value.get?, List.lookup]
  have hminted : (identityObject status diagnostic mintAttempted).get
      (ofString "mint_attempted") = .bool mintAttempted := by
    simp [identityObject, Value.get, Value.get?, List.lookup]
  rw [parseProvisional, hstate, hget, hdiagnostic, hminted]
  simp [identityObject, Value.isObj, Value.same, Value.hashable, Value.asStr, hstatus]

/-- A client without an identity is taken for one, with the reasons it gives. -/
theorem claim_of_provisional (remote : Option Str) (hstate : ∀ deviceId, state ≠ .ready deviceId)
    (h : registration facts state = .register data capabilities) :
    claim data remote = .provisional ∧ readProvisional data.identity = .of state ∧
      parseCapabilities capabilities = [provisionalPowerCapability] := by
  have hresolving : ofString "resolving" ∈ provisionalStatuses := by decide
  have hparse : ∀ status diagnostic mintAttempted, status ∈ provisionalStatuses →
      claim
        { identityScheme := .str (ofString "styly_device_id_v1")
          deviceId := .null
          model := .str facts.model
          ip := .str facts.ip
          versionName := .str facts.versionName
          versionCode := .int facts.versionCode
          identity := identityObject status diagnostic mintAttempted } remote = .provisional := by
    intro status diagnostic mintAttempted hstatus
    simp only [claim, parseRegistration, ne_eq, not_true_eq_false, if_false,
      parseProvisional_identityObject hstatus]
  have hread : ∀ status diagnostic mintAttempted,
      readProvisional (identityObject status diagnostic mintAttempted) =
        ⟨status, boundedDiagnostic (onWire diagnostic), mintAttempted⟩ := by
    intro status diagnostic mintAttempted
    simp [readProvisional, identityObject, Value.get, Value.get?, List.lookup, Value.asStr]
  cases state with
  | ready deviceId => exact absurd rfl (hstate deviceId)
  | resolving =>
    cases h
    exact ⟨hparse _ _ _ hresolving, hread _ _ _, by decide⟩
  | unavailable status diagnostic mintAttempted =>
    cases h
    exact ⟨hparse _ _ _ (protocolValue_mem status), hread _ _ _, by decide⟩

end Registration

end StylyMdm.Handshake
