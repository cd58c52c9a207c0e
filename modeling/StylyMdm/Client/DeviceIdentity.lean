import StylyMdm.Library.Run
import StylyMdm.Library.Text
import StylyMdm.Registry.Handlers

/-!
# The identity of the device

`DeviceIdentityResolver`, the owner of the lookup that finds or makes the identity of the device in
its media store. The lookup itself belongs to another library: it is under way until it completes,
with anything it may complete with. Its completion is posted to the main looper, which publishes it.

A string is the list of its code points, lone surrogates included; `takeUnits` counts them as
Kotlin does.

**Results.** An identity is taken over only when it is canonical; everything else is unavailable,
with the status that the protocol has for it and a diagnostic of one line and bounded length.
`canonical_mapResult` says so for any answer of the library, exceptions included.

**Single flight.** At most one lookup is under way, and while one is, a retry does nothing. A result
is published once, to the listeners that are there then, and an identity that is ready stays as it
is (`singleFlight_after`, `ready_step`). The handshake of the connection uses these facts about
whatever the resolver tells its listeners (`told_step`).
-/

namespace StylyMdm.Client.Identity

open Text Registry

/-! ### States -/

/-- `DeviceIdentityStatus`: why the device has no identity. -/
inductive DeviceIdentityStatus
  | accessDenied
  | ioError
  | unsupportedApi
deriving DecidableEq, Repr

/-- The `protocolValue` of a status. -/
def DeviceIdentityStatus.protocolValue : DeviceIdentityStatus → Str
  | .accessDenied => ofString "access_denied"
  | .ioError => ofString "io_error"
  | .unsupportedApi => ofString "unsupported_api"

/-- `DeviceIdentityState`. -/
inductive DeviceIdentityState
  | resolving
  | ready (deviceId : Str)
  | unavailable (status : DeviceIdentityStatus) (diagnostic : Str) (mintAttempted : Bool)
deriving DecidableEq, Repr

/-- `DeviceIdStatus`, of the library. -/
inductive DeviceIdStatus
  | success
  | accessDenied
  | unsupportedApi
  | ioError
  | notFound
deriving DecidableEq, Repr

/-- `DeviceIdentityLookupResult`. -/
structure DeviceIdentityLookupResult where
  status : DeviceIdStatus
  deviceId : Option Str
  mintAttempted : Bool
  diagnostic : Str
deriving DecidableEq, Repr

/-- What a `Throwable` says: its class, message and cause. -/
inductive Throwable
  | mk (simpleName : Str) (message : Option Str) (cause : Option Throwable)

namespace Throwable

/-- The `simpleName` of the class of a `Throwable`. -/
def simpleName : Throwable → Str
  | mk simpleName _ _ => simpleName

/-- The `message` of a `Throwable`. -/
def message : Throwable → Option Str
  | mk _ message _ => message

/-- The `cause` of a `Throwable`. -/
def cause : Throwable → Option Throwable
  | mk _ _ cause => cause

end Throwable

/-! ### Diagnostics -/

/-- What the regular expression `[\r\n]` matches. -/
def isNewline (c : Point) : Bool := c.val = 13 || c.val = 10

/-- Every run of line ends becomes a blank. `inRun` says whether one has just begun. -/
def joinLines (inRun : Bool) : Str → Str
  | [] => []
  | c :: rest =>
    if isNewline c then if inRun then joinLines true rest else 32 :: joinLines true rest
    else c :: joinLines false rest

/-- `take` for as many UTF-16 units. Of a character with two units only the first may be left. -/
def takeUnits : Nat → Str → Str
  | 0, _ => []
  | _, [] => []
  | n + 1, c :: rest =>
    if c.val < 0x10000 then c :: takeUnits n rest
    else
      match n with
      | 0 => [⟨0xd800 + (c.val - 0x10000) / 0x400, by omega⟩]
      | n + 1 => c :: takeUnits n rest

/-- `MAX_DIAGNOSTIC_LENGTH`. -/
def maxDiagnosticLength : Nat := 256

/-- `sanitizeDiagnostic`: one line, without outer white space, cut to its bound. -/
def sanitizeDiagnostic (value : Str) : Str :=
  takeUnits maxDiagnosticLength (strip isWhitespace (joinLines false value))

/-! ### Results -/

/-- `unavailable`. -/
def unavailable (error : Throwable) : DeviceIdentityState :=
  let failure :=
    if error.simpleName = ofString "CompletionException" then error.cause.getD error else error
  let detail := failure.message.getD failure.simpleName
  let cause := match failure.cause with
    | some cause => ofString ": " ++ cause.simpleName ++ ofString ": " ++ cause.message.getD []
    | none => []
  let diagnostic :=
    -- the lookup is still under way after a timeout
    if failure.simpleName = ofString "TimeoutException" then
      ofString "TimeoutException: " ++ detail ++ cause ++
        ofString "; in-flight lookup may still create an ID"
    else detail ++ cause
  .unavailable .ioError (sanitizeDiagnostic diagnostic) false

/-- The status of a lookup without success. -/
def DeviceIdStatus.failure : DeviceIdStatus → DeviceIdentityStatus
  | .accessDenied => .accessDenied
  | .unsupportedApi => .unsupportedApi
  | .ioError | .notFound | .success => .ioError

/-- `mapResult`. -/
def mapResult (result : DeviceIdentityLookupResult) : DeviceIdentityState :=
  if result.status = .success then
    match result.deviceId.map (List.map lower) with
    | some canonical =>
      if isCanonicalDeviceId canonical then .ready canonical
      else
        .unavailable .ioError (ofString "Device ID provider returned an invalid canonical GUID")
          result.mintAttempted
    | none =>
      .unavailable .ioError (ofString "Device ID provider returned an invalid canonical GUID")
        result.mintAttempted
  else
    .unavailable result.status.failure (sanitizeDiagnostic result.diagnostic) result.mintAttempted

/-- How a lookup ends. -/
inductive Completion
  | failed (error : Throwable)
  | empty
  | found (result : DeviceIdentityLookupResult)

/-- The state that `complete` publishes. -/
def Completion.next : Completion → DeviceIdentityState
  | .failed error => unavailable error
  | .empty =>
    .unavailable .ioError (ofString "Device ID provider completed without a result") false
  | .found result => mapResult result

/-- An identity that was resolved is a canonical one. -/
def DeviceIdentityState.Canonical : DeviceIdentityState → Prop
  | .ready deviceId => isCanonicalDeviceId deviceId = true
  | _ => True

/-- The result of a lookup is a state that stays, or one that a permission may change. -/
theorem canonical_mapResult (result : DeviceIdentityLookupResult) :
    (mapResult result).Canonical := by
  rw [mapResult]
  split_ifs
  · cases result.deviceId with
    | none => trivial
    | some deviceId =>
      dsimp only [Option.map_some]
      split_ifs with hcanonical
      · exact hcanonical
      · trivial
  · trivial

/-- So is whatever a lookup completes with. -/
theorem Completion.canonical_next (completion : Completion) : completion.next.Canonical := by
  cases completion with
  | failed error => trivial
  | empty => trivial
  | found result => exact canonical_mapResult result

/-- A completed lookup is not resolving. -/
theorem Completion.next_ne_resolving (completion : Completion) :
    completion.next ≠ .resolving := by
  cases completion with
  | failed error => exact DeviceIdentityState.noConfusion
  | empty => exact DeviceIdentityState.noConfusion
  | found result =>
    rw [next, mapResult]
    split_ifs
    · split
      · split_ifs <;> exact DeviceIdentityState.noConfusion
      · exact DeviceIdentityState.noConfusion
    · exact DeviceIdentityState.noConfusion

/-! ### The resolver -/

/-- `inFlight` lookups are under way, and `completed` waits to be published. -/
structure DeviceIdentityResolver where
  visibleState : DeviceIdentityState := .resolving
  lookupStarted : Bool := false
  inFlight : Nat := 0
  completed : List DeviceIdentityState := []
deriving DecidableEq, Repr

/-- What the listeners are told, if anything. -/
abbrev Told := Option DeviceIdentityState

namespace DeviceIdentityResolver

variable (r : DeviceIdentityResolver)

/-- A lookup is handed to the executor. -/
def runLookup : DeviceIdentityResolver := { r with inFlight := r.inFlight + 1 }

/-- `startInitialLookup`: the first lookup runs once. -/
def startInitialLookup : DeviceIdentityResolver × Told :=
  if r.lookupStarted then (r, none) else ({ r with lookupStarted := true }.runLookup, none)

/-- `retryAfterPermissionGranted`: after a denied access that made no id, the lookup runs again. -/
def retryAfterPermissionGranted : DeviceIdentityResolver × Told :=
  match r.visibleState with
  | .unavailable status _ mintAttempted =>
    -- a lookup that may have made an id is not repeated
    if status ≠ .accessDenied ∨ mintAttempted then (r, none)
    else ({ r with visibleState := .resolving }.runLookup, some .resolving)
  | _ => (r, none)

/-- `complete` posts what it publishes. -/
def complete (completion : Completion) : DeviceIdentityResolver × Told :=
  if r.inFlight = 0 then (r, none)
  else
    ({ r with
        inFlight := r.inFlight - 1
        completed := r.completed ++ [completion.next] }, none)

/-- `publish`, of what has completed first. -/
def publish : DeviceIdentityResolver × Told :=
  match r.completed with
  | [] => (r, none)
  | next :: completed => ({ r with visibleState := next, completed := completed }, some next)

/-- What can happen to the resolver. -/
inductive Event
  | startInitialLookup
  | retryAfterPermissionGranted
  | complete (completion : Completion)
  | publish

/-- One step. -/
def step : Event → DeviceIdentityResolver × Told
  | .startInitialLookup => r.startInitialLookup
  | .retryAfterPermissionGranted => r.retryAfterPermissionGranted
  | .complete completion => r.complete completion
  | .publish => r.publish

/-- The resolver after some events. -/
def after (events : List Event) : DeviceIdentityResolver :=
  Run.exec (fun r event => (step r event).1) {} events

end DeviceIdentityResolver

/-! ### Single flight -/

/-- One lookup at most is under way or waits to be published, and only while the state is
resolving; what is published is a canonical identity or a failure. -/
structure SingleFlight (r : DeviceIdentityResolver) : Prop where
  flight : r.inFlight + r.completed.length =
    if r.visibleState = .resolving ∧ r.lookupStarted = true then 1 else 0
  waiting : r.lookupStarted = false → r.visibleState = .resolving
  completed : ∀ next ∈ r.completed, next ≠ .resolving ∧ next.Canonical
  visible : r.visibleState.Canonical

namespace SingleFlight

variable {r : DeviceIdentityResolver}

/-- No lookup at the start. -/
theorem initial : SingleFlight {} := ⟨rfl, fun _ => rfl, by simp, trivial⟩

/-- Nothing is under way when there is a result. -/
theorem settled (h : SingleFlight r) (hvisible : r.visibleState ≠ .resolving) :
    r.inFlight = 0 ∧ r.completed = [] := by
  have hflight := h.flight
  rw [if_neg fun hand => hvisible hand.1] at hflight
  exact ⟨by omega, List.eq_nil_of_length_eq_zero (by omega)⟩

/-- The first lookup is the only one. -/
theorem startInitialLookup (h : SingleFlight r) : SingleFlight r.startInitialLookup.1 := by
  rw [DeviceIdentityResolver.startInitialLookup]
  split_ifs with hstarted
  · exact h
  · have hnot := Bool.not_eq_true _ ▸ hstarted
    have hflight := h.flight
    rw [if_neg fun hand => hstarted hand.2] at hflight
    refine ⟨?_, fun hfalse => absurd (show true = false from hfalse) (by decide), h.completed,
      h.visible⟩
    simp only [DeviceIdentityResolver.runLookup, h.waiting hnot, and_self, if_true]
    omega

/-- A retry starts when none is in flight. -/
theorem retryAfterPermissionGranted (h : SingleFlight r) :
    SingleFlight r.retryAfterPermissionGranted.1 := by
  rw [DeviceIdentityResolver.retryAfterPermissionGranted]
  split
  · rename_i hvisible
    split_ifs
    · exact h
    · -- a failure is the result of a lookup, so one has been started
      have hne : r.visibleState ≠ .resolving := hvisible ▸ DeviceIdentityState.noConfusion
      have hstarted : r.lookupStarted = true := by
        by_contra hfalse
        exact hne (h.waiting (Bool.not_eq_true _ ▸ hfalse))
      obtain ⟨hnone, hnil⟩ := h.settled hne
      refine ⟨?_, fun _ => rfl, h.completed, trivial⟩
      simp [DeviceIdentityResolver.runLookup, hstarted, hnone, hnil]
  · exact h

/-- A lookup ends. -/
theorem complete (h : SingleFlight r) (completion : Completion) :
    SingleFlight (r.complete completion).1 := by
  rw [DeviceIdentityResolver.complete]
  split_ifs
  · exact h
  · refine ⟨?_, h.waiting, fun next hnext => ?_, h.visible⟩
    · have hflight := h.flight
      rw [List.length_append, List.length_singleton]
      dsimp only
      omega
    · rcases List.mem_append.mp hnext with hnext | hnext
      · exact h.completed next hnext
      · rw [List.mem_singleton.mp hnext]
        exact ⟨completion.next_ne_resolving, completion.canonical_next⟩

/-- A state is published. -/
theorem publish (h : SingleFlight r) : SingleFlight r.publish.1 := by
  rw [DeviceIdentityResolver.publish]
  split
  · exact h
  · rename_i next completed heq
    have hflight := h.flight
    rw [heq, List.length_cons] at hflight
    obtain ⟨hne, hcanonical⟩ := h.completed next (heq ▸ List.mem_cons_self)
    have hresolving : r.visibleState = .resolving ∧ r.lookupStarted = true := by
      by_contra hnot
      rw [if_neg hnot] at hflight
      omega
    refine ⟨?_, fun hfalse => ?_, fun later hlater => h.completed later ?_, hcanonical⟩
    · rw [if_pos hresolving] at hflight
      rw [if_neg fun hand => hne hand.1]
      dsimp only
      omega
    · exact absurd (hresolving.2.symm.trans hfalse) (by decide)
    · exact heq ▸ List.mem_cons_of_mem _ hlater

/-- An event keeps the invariant. -/
theorem step (h : SingleFlight r) (event : DeviceIdentityResolver.Event) :
    SingleFlight (r.step event).1 := by
  cases event with
  | startInitialLookup => exact h.startInitialLookup
  | retryAfterPermissionGranted => exact h.retryAfterPermissionGranted
  | complete completion => exact h.complete completion
  | publish => exact h.publish

end SingleFlight

/-- And so do all events of a run. -/
theorem singleFlight_after (events : List DeviceIdentityResolver.Event) :
    SingleFlight (.after events) :=
  Run.exec_invariant (I := SingleFlight) (fun _ event h => h.step event) .initial events

/-- The listeners are told of each change. -/
theorem told_step (r : DeviceIdentityResolver) (event : DeviceIdentityResolver.Event) :
    (r.step event).1.visibleState = (r.step event).2.getD r.visibleState := by
  cases event with
  | startInitialLookup =>
    rw [DeviceIdentityResolver.step, DeviceIdentityResolver.startInitialLookup]
    split_ifs <;> rfl
  | retryAfterPermissionGranted =>
    rw [DeviceIdentityResolver.step, DeviceIdentityResolver.retryAfterPermissionGranted]
    split
    · split_ifs <;> rfl
    · rfl
  | complete completion =>
    rw [DeviceIdentityResolver.step, DeviceIdentityResolver.complete]
    split_ifs <;> rfl
  | publish =>
    rw [DeviceIdentityResolver.step, DeviceIdentityResolver.publish]
    split <;> rfl

/-- An identity that was found is never given up. -/
theorem ready_step {r : DeviceIdentityResolver} {deviceId : Str} (h : SingleFlight r)
    (hready : r.visibleState = .ready deviceId) (event : DeviceIdentityResolver.Event) :
    (r.step event).1.visibleState = .ready deviceId ∧ (r.step event).2 = none := by
  obtain ⟨hnone, hnil⟩ := h.settled (hready ▸ DeviceIdentityState.noConfusion)
  cases event with
  | startInitialLookup =>
    rw [DeviceIdentityResolver.step, DeviceIdentityResolver.startInitialLookup]
    split_ifs <;> exact ⟨hready, rfl⟩
  | retryAfterPermissionGranted =>
    rw [DeviceIdentityResolver.step, DeviceIdentityResolver.retryAfterPermissionGranted, hready]
    exact ⟨hready, rfl⟩
  | complete completion =>
    rw [DeviceIdentityResolver.step, DeviceIdentityResolver.complete, if_pos hnone]
    exact ⟨hready, rfl⟩
  | publish =>
    rw [DeviceIdentityResolver.step, DeviceIdentityResolver.publish, hnil]
    exact ⟨hready, rfl⟩

end StylyMdm.Client.Identity
