import Mathlib

/-!
# Push job domain

The vocabulary of `push_jobs.py`: protocol and transfer modes, job and device states, the two
transition tables with their validation functions, the per-state counters of a job's device
rows, and the derivation of a dispatched job's state from its device rows.

The states are `StrEnum`s in the source and enumerations here; `value` gives back the text
that is stored and sent.

A job goes from its creation through the upload to a dispatch that somebody enables; from there on
its state is derived from its rows. The facts about the tables are the ones that later modules use:
a terminal state has no way out, a row becomes active by a claim only
(`claim_edge_of_validDeviceTransition`), and the derived state is terminal exactly when all rows are
(`isTerminal_derive_iff`). They are finite checks, so they are decided here and cited elsewhere.
-/

namespace StylyMdm.PushJobs

/-- `PushMode`: copy files, or mirror a folder. -/
inductive PushMode
  | push
  | sync
deriving DecidableEq, Repr

/-- `ProtocolMode`: the job protocol, or the identity-less one it replaces. -/
inductive ProtocolMode
  | jobV1
  | legacy
deriving DecidableEq, Repr

/-- `JobState`. -/
inductive JobState
  | created
  | uploading
  | packaging
  | ready
  | running
  | reconciling
  | succeeded
  | completedWithErrors
  | failed
  | interrupted
deriving DecidableEq, Repr

/-- `DeviceState`: the state of one assignment of a job to a device. -/
inductive DeviceState
  | queued
  | waitingTransfer
  | dispatching
  | downloading
  | validating
  | applying
  | reconciling
  | succeeded
  | failed
  | interrupted
  | unconfirmed
deriving DecidableEq, Repr

/-- The stored text of a job state. -/
def JobState.value : JobState → String
  | .created => "created"
  | .uploading => "uploading"
  | .packaging => "packaging"
  | .ready => "ready"
  | .running => "running"
  | .reconciling => "reconciling"
  | .succeeded => "succeeded"
  | .completedWithErrors => "completed_with_errors"
  | .failed => "failed"
  | .interrupted => "interrupted"

/-- The stored text of a device state. -/
def DeviceState.value : DeviceState → String
  | .queued => "queued"
  | .waitingTransfer => "waiting_transfer"
  | .dispatching => "dispatching"
  | .downloading => "downloading"
  | .validating => "validating"
  | .applying => "applying"
  | .reconciling => "reconciling"
  | .succeeded => "succeeded"
  | .failed => "failed"
  | .interrupted => "interrupted"
  | .unconfirmed => "unconfirmed"

/-- Membership in `TERMINAL_JOB_STATES`. -/
def JobState.isTerminal (state : JobState) : Bool :=
  state ∈ [JobState.succeeded, .completedWithErrors, .failed, .interrupted]

/-- Membership in `TERMINAL_DEVICE_STATES`. -/
def DeviceState.isTerminal (state : DeviceState) : Bool :=
  state ∈ [DeviceState.succeeded, .failed, .interrupted, .unconfirmed]

/-- Membership in `ACTIVE_DEVICE_STATES`. -/
def DeviceState.isActive (state : DeviceState) : Bool :=
  state ∈ [DeviceState.waitingTransfer, .dispatching, .downloading, .validating, .applying,
    .reconciling]

/-- `JOB_TRANSITIONS`. -/
def jobTransitions : JobState → List JobState
  | .created => [.uploading, .interrupted, .failed]
  | .uploading => [.packaging, .interrupted, .failed]
  | .packaging => [.ready, .interrupted, .failed]
  | .ready => [.running, .failed]
  | .running => [.reconciling, .succeeded, .completedWithErrors, .failed]
  | .reconciling => [.running, .succeeded, .completedWithErrors, .failed]
  | _ => []

/-- `DEVICE_TRANSITIONS`. -/
def deviceTransitions : DeviceState → List DeviceState
  | .queued => [.waitingTransfer, .failed, .interrupted]
  | .waitingTransfer => [.queued, .dispatching, .failed, .interrupted]
  | .dispatching => [.queued, .downloading, .reconciling, .failed]
  | .downloading => [.validating, .reconciling, .failed]
  | .validating => [.applying, .reconciling, .failed]
  | .applying => [.succeeded, .reconciling, .failed]
  | .reconciling => [.downloading, .validating, .applying, .queued, .succeeded, .failed,
      .interrupted, .unconfirmed]
  | _ => []

/-- `validate_job_transition` accepts `src → dst`: staying put, or an edge of the table out of
a state that is not terminal. -/
def validJobTransition (src dst : JobState) : Bool :=
  src = dst || (!src.isTerminal && dst ∈ jobTransitions src)

/-- `validate_device_transition` accepts `src → dst`. -/
def validDeviceTransition (src dst : DeviceState) : Bool :=
  src = dst || (!src.isTerminal && dst ∈ deviceTransitions src)

/-- The states of `DeviceState` in declaration order, the keys of the aggregate. -/
def DeviceState.all : List DeviceState :=
  [.queued, .waitingTransfer, .dispatching, .downloading, .validating, .applying, .reconciling,
    .succeeded, .failed, .interrupted, .unconfirmed]

/-- `aggregate_device_states`: how many rows are in each state, and their total. -/
def aggregateDeviceStates (states : List DeviceState) : List (DeviceState × Nat) × Nat :=
  (DeviceState.all.map fun state => (state, states.count state), states.length)

/-- The states in which a dispatched row still has work before it and no evidence is missing. -/
def DeviceState.isInProgress (state : DeviceState) : Bool :=
  state ∈ [DeviceState.queued, .waitingTransfer, .dispatching, .downloading, .validating,
    .applying]

/-- `derive_dispatched_job_state`. The source raises `PushJobError` on a job without device
rows; here the result is `none`. -/
def deriveDispatchedJobState (states : List DeviceState) : Option JobState :=
  if states = [] then none
  else if states.any (· = .reconciling) then some .reconciling
  else if states.any (·.isInProgress) then some .running
  else if states.all (· = .succeeded) then some .succeeded
  else if states.any (· = .unconfirmed) then some .completedWithErrors
  else if states.any (· = .succeeded) then some .completedWithErrors
  else some .failed

/-- `CanonicalSource`. -/
structure CanonicalSource where
  displayName : String
  declaredFileCount : Nat
  declaredTotalBytes : Nat
deriving DecidableEq, Repr

/-- `CanonicalCreateRequest`: what `canonicalize_create_request` accepts. It rejects an empty
target list and duplicate targets and sorts the rest, so the targets are strictly increasing. -/
structure CanonicalCreateRequest where
  clientRequestId : String
  targetDevices : List String
  mode : PushMode
  destPath : String
  source : CanonicalSource
  fingerprint : String
  targets_ne_nil : targetDevices ≠ []
  targets_sorted : targetDevices.Pairwise (· < ·)
deriving DecidableEq

/-! ### Facts about the tables -/

/-- A state is exactly one of queued, active and terminal. -/
theorem DeviceState.queued_or_active_or_terminal (state : DeviceState) :
    state = .queued ∨ state.isActive = true ∨ state.isTerminal = true := by
  cases state <;> decide

theorem DeviceState.not_active_of_terminal {state : DeviceState} (h : state.isTerminal) :
    state.isActive = false := by
  cases state <;> first | rfl | exact absurd h (by decide)

theorem DeviceState.ne_queued_of_terminal {state : DeviceState} (h : state.isTerminal) :
    state ≠ .queued := by
  rintro rfl
  exact absurd h (by decide)

/-- Nothing but its own state can be reached from a terminal device state. -/
theorem eq_of_validDeviceTransition_terminal {src dst : DeviceState}
    (h : validDeviceTransition src dst) (hsrc : src.isTerminal) : dst = src := by
  revert h hsrc
  cases src <;> cases dst <;> decide

/-- The only edge from a state that is not active into an active one is the claim. -/
theorem claim_edge_of_validDeviceTransition {src dst : DeviceState}
    (h : validDeviceTransition src dst) (hsrc : src.isActive = false) (hdst : dst.isActive) :
    src = .queued ∧ dst = .waitingTransfer := by
  revert h hsrc hdst
  cases src <;> cases dst <;> decide

/-! ### Facts about the derived job state -/

/-- The states a dispatched job can have: the values of `derive_dispatched_job_state`. -/
def JobState.isDerived (state : JobState) : Bool :=
  state ∈ [JobState.running, .reconciling, .succeeded, .completedWithErrors, .failed]

theorem deriveDispatchedJobState_isDerived {states : List DeviceState} {state : JobState}
    (h : deriveDispatchedJobState states = some state) : state.isDerived := by
  unfold deriveDispatchedJobState at h
  split_ifs at h <;> (cases h; rfl)

theorem deriveDispatchedJobState_isSome {states : List DeviceState} (h : states ≠ []) :
    ∃ state, deriveDispatchedJobState states = some state := by
  unfold deriveDispatchedJobState
  split_ifs <;> first | exact absurd ‹_› h | exact ⟨_, rfl⟩

/-- A derived job state is terminal exactly when every device row is. -/
theorem isTerminal_derive_iff {states : List DeviceState} {state : JobState}
    (h : deriveDispatchedJobState states = some state) :
    state.isTerminal = true ↔ ∀ device ∈ states, device.isTerminal := by
  have hsplit : ∀ device : DeviceState, device ≠ .reconciling → device.isInProgress = false →
      device.isTerminal = true := by
    intro device
    cases device <;> decide
  unfold deriveDispatchedJobState at h
  split_ifs at h with hnil hrec hrun hsucc hunc hsome
  · simp only [List.any_eq_true, decide_eq_true_eq] at hrec
    obtain ⟨device, hmem, rfl⟩ := hrec
    cases h
    exact ⟨fun h => absurd h (by decide), fun hall => absurd (hall _ hmem) (by decide)⟩
  · simp only [List.any_eq_true] at hrun
    obtain ⟨device, hmem, hprog⟩ := hrun
    cases h
    refine ⟨fun h => absurd h (by decide), fun hall => ?_⟩
    have hterm := hall _ hmem
    revert hprog hterm
    cases device <;> decide
  all_goals
    cases h
    refine ⟨fun _ device hmem => ?_, fun _ => rfl⟩
    simp only [List.any_eq_true, not_exists, not_and, decide_eq_true_eq, Bool.not_eq_true]
      at hrec hrun
    exact hsplit device (hrec device hmem) (hrun device hmem)

/-- Rows that are all queued or terminal, with one still queued, derive to `running`. -/
theorem derive_eq_running {states : List DeviceState} (hq : DeviceState.queued ∈ states)
    (hall : ∀ device ∈ states, device = .queued ∨ device.isTerminal) :
    deriveDispatchedJobState states = some .running := by
  have hnil : states ≠ [] := List.ne_nil_of_mem hq
  have hrec : ¬ states.any (· = .reconciling) := by
    simp only [List.any_eq_true, decide_eq_true_eq, not_exists, not_and]
    rintro device hmem rfl
    rcases hall _ hmem with h | h
    · exact DeviceState.noConfusion h
    · exact absurd h (by decide)
  have hrun : states.any (·.isInProgress) := List.any_eq_true.mpr ⟨_, hq, rfl⟩
  rw [deriveDispatchedJobState, if_neg hnil, if_neg hrec, if_pos hrun]

/-- The derived state depends on which device states occur, not on how often or where. -/
theorem derive_congr {states states' : List DeviceState}
    (h : ∀ state, state ∈ states ↔ state ∈ states') :
    deriveDispatchedJobState states = deriveDispatchedJobState states' := by
  have hnil : states = [] ↔ states' = [] := by
    rw [List.eq_nil_iff_forall_not_mem, List.eq_nil_iff_forall_not_mem]
    exact forall_congr' fun state => not_congr (h state)
  have hany : ∀ p : DeviceState → Bool, states.any p = states'.any p := by
    intro p
    rw [Bool.eq_iff_iff, List.any_eq_true, List.any_eq_true]
    exact exists_congr fun state => and_congr_left fun _ => h state
  have hall : ∀ p : DeviceState → Bool, states.all p = states'.all p := by
    intro p
    rw [Bool.eq_iff_iff, List.all_eq_true, List.all_eq_true]
    exact forall_congr' fun state => imp_congr_left (h state)
  simp only [deriveDispatchedJobState, hnil, hany, hall]

end StylyMdm.PushJobs
