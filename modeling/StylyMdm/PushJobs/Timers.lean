import StylyMdm.PushJobs.Exclusivity
import StylyMdm.PushJobs.Queries

/-!
# The timers of uncertain rows

The sweeps and the restart look at a few columns only: a `reconciling` row is given up at its
`reconciliation_deadline`, a `dispatching` one is asked about after its `accept_deadline`, and
`accepted_at` decides whether a row gets the short or the long window. Every transition chooses
the columns it writes, so that these columns fit the state is an invariant of the calls
(`DeviceRow.Timed`) and not of the table.

Three of the transitions do not keep it. `_handle_phase` moves a `reconciling` row to `applying`
without an `accepted_at`, where an `active` report sets one; `_handle_busy` moves a `reconciling`
row to `downloading` and leaves the columns of the reconciliation, where `_await_acceptance`
clears them; and a row that is put back behind another job keeps its `accepted_at`.

So for each transition there is an exact condition on the row it finds (`TransitionSite.Complete`,
`timed_transitioned_iff`), and `TimerSafe` asks it of every call of a run. Along such a run the
timers cover every uncertain row (`timers_covered`), which is what makes the sweeps find a row once
its time has come (`TimersCovered.mem_expiredReconciliations`,
`TimersCovered.mem_expiredAcceptances`).
-/

namespace StylyMdm.PushJobs

/-- The columns of a row fit its state. -/
def DeviceRow.Timed (row : DeviceRow) : Prop :=
  match row.state with
  | .queued | .waitingTransfer => row.acceptedAt = none
  | .dispatching =>
    row.acceptedAt = none ∧ (row.protocolMode = .jobV1 → row.acceptDeadline ≠ none)
  | .downloading | .validating | .applying =>
    row.acceptedAt ≠ none ∧ row.reconciliationReason = none ∧ row.reconciliationDeadline = none
  | .reconciling => row.reconciliationReason ≠ none ∧ row.reconciliationDeadline ≠ none
  | _ => True

theorem DeviceRow.Timed.unaccepted {row : DeviceRow} (h : row.Timed)
    (hstate : row.state ∈ [DeviceState.queued, .waitingTransfer, .dispatching]) :
    row.acceptedAt = none := by
  simp only [List.mem_cons, List.not_mem_nil, or_false] at hstate
  obtain hstate | hstate | hstate := hstate <;> simp only [DeviceRow.Timed, hstate] at h
  · exact h
  · exact h
  · exact h.1

theorem DeviceRow.Timed.accepted {row : DeviceRow} (h : row.Timed)
    (hstate : row.state ∈ [DeviceState.downloading, .validating, .applying]) :
    row.acceptedAt ≠ none ∧ row.reconciliationReason = none ∧
      row.reconciliationDeadline = none := by
  simp only [List.mem_cons, List.not_mem_nil, or_false] at hstate
  obtain hstate | hstate | hstate := hstate <;> simp only [DeviceRow.Timed, hstate] at h <;> exact h

/-- `_dispatch_assignment_inner` computes a deadline for `PUSH_JOB_ACCEPTED` unless the device
speaks the legacy protocol. -/
def RuntimeCall.SetsDeadline : RuntimeCall → Prop
  | .prepare _ _ protocolMode _ acceptDeadline => acceptDeadline = none ↔ protocolMode = .legacy
  | _ => True

/-- The site writes all the columns that have to change with the state of this row. -/
def TransitionSite.Complete (row : DeviceRow) : TransitionSite → Prop
  | .applying _ => row.acceptedAt ≠ none
  | .busySame _ | .legacySent _ =>
    row.reconciliationReason = none ∧ row.reconciliationDeadline = none
  | .busyRequeue => row.acceptedAt = none
  | _ => True

namespace Store

/-- A transition that commits writes all the columns that have to change. -/
def TimerSafe (s : Store) (call : Millis × RuntimeCall) : Prop :=
  ∀ site jobId deviceId row, call.2 = .transition site jobId deviceId →
    s.device? jobId deviceId = some row → row.state ∈ site.expected → site.Complete row

/-! ### One row -/

section Rows

variable {now : Millis} {s s' : Store} {call : RuntimeCall} {row row' : DeviceRow}

theorem transition_of_op {jobId : JobId} {deviceId : DeviceId}
    {expected : Option (List DeviceState)} {target : DeviceState} {fields : DeviceFields}
    {idempotent : Bool}
    (h : call.op = .transitionDevice jobId deviceId expected target fields idempotent) :
    ∃ site, call = .transition site jobId deviceId ∧ expected = some site.expected ∧
      target = site.target ∧ fields = site.fields := by
  cases call with
  | transition site jobId' deviceId' =>
    rw [RuntimeCall.op, TransitionSite.op, Op.transitionDevice.injEq] at h
    obtain ⟨rfl, rfl, rfl, rfl, rfl, -⟩ := h
    exact ⟨site, rfl, rfl, rfl, rfl⟩
  | _ => exact absurd h Op.noConfusion

/-- The columns of the written row fit its new state exactly when the site is complete. -/
theorem timed_transitioned_iff (site : TransitionSite) (htimed : row.Timed)
    (hstate : row.state ∈ site.expected) :
    (transitionedRow now site.target site.fields row).Timed ↔ site.Complete row := by
  constructor
  · intro hwritten
    cases site with
    | applying time => exact hwritten.1
    | legacySent time => exact hwritten.2
    | busySame time => exact hwritten.2
    | busyRequeue => exact hwritten
    | _ => exact trivial
  intro hcomplete
  cases site with
  | connectionLost | dispatchRecovery error =>
    exact htimed.unaccepted (by simp [List.mem_singleton.1 hstate])
  | artifactMismatch current => exact trivial
  | failCurrent scope code detail => exact trivial
  | legacyDownloadComplete time =>
    exact htimed.accepted (by simp [List.mem_singleton.1 hstate])
  | validationComplete time =>
    exact htimed.accepted (by simp [List.mem_singleton.1 hstate])
  | transferComplete time =>
    have haccepted := htimed.accepted (by simp [List.mem_singleton.1 hstate])
    exact ⟨haccepted.1, rfl, rfl⟩
  | applying time => exact ⟨hcomplete, rfl, rfl⟩
  | legacySent time => exact ⟨Option.some_ne_none _, hcomplete⟩
  | busySame time => exact ⟨Option.some_ne_none _, hcomplete⟩
  | accepted time => exact ⟨Option.some_ne_none _, rfl, rfl⟩
  | busyRequeue => exact hcomplete
  | sendRace detail => exact htimed.unaccepted (by simp [List.mem_singleton.1 hstate])

theorem prepare_of_op {jobId : JobId} {deviceId : DeviceId} {protocol : ProtocolMode}
    {capabilities : List String} {deadline : Option Millis}
    (h : call.op = .prepareDispatch jobId deviceId protocol capabilities deadline) :
    call = .prepare jobId deviceId protocol capabilities deadline := by
  cases call with
  | prepare jobId' deviceId' protocol' capabilities' deadline' =>
    rw [RuntimeCall.op, Op.prepareDispatch.injEq] at h
    obtain ⟨rfl, rfl, rfl, rfl, rfl⟩ := h
    rfl
  | transition site jobId' deviceId' => exact absurd h Op.noConfusion
  | _ => exact absurd h Op.noConfusion

theorem RowChange.timed (h : RowChange now s row call.op row') (htimed : row.Timed)
    (hdeadline : call.SetsDeadline)
    (hcomplete : ∀ site, call = .transition site row.jobId row.deviceId →
      row.state ∈ site.expected → site.Complete row) : row'.Timed := by
  generalize hop : call.op = op at h
  cases h with
  | same => exact htimed
  | edit edit =>
    cases edit with
    | transition hexpected hvalid =>
      obtain ⟨site, rfl, rfl, rfl, rfl⟩ := transition_of_op hop
      have hstate := hexpected _ rfl
      exact (timed_transitioned_iff site htimed hstate).2 (hcomplete site rfl hstate)
    | markReconciling hexpected hvalid =>
      simp [DeviceRow.Timed, transitionedRow, reconcilingFields, DeviceFields.apply]
    | settle hallowed =>
      rename_i result
      rcases hsuccess : result.success <;>
        simp [DeviceRow.Timed, settledRow, TerminalResult.target, hsuccess]
    | claim hclaim =>
      exact htimed.unaccepted (by simp [(claimable_of_candidate hclaim).queued])
    | prepare hstate =>
      obtain rfl := prepare_of_op hop
      refine ⟨htimed.unaccepted (by simp [hstate]), fun hprotocol hnone => ?_⟩
      exact absurd ((hdeadline.1 hnone).symm.trans hprotocol) (by decide)
    | acceptanceExpired hstate haccepted hacc => simp [DeviceRow.Timed, acceptanceExpiredRow]
    | reportActive hstate hphase =>
      rename_i phase detail target
      have htarget : target = .downloading ∨ target = .validating ∨ target = .applying := by
        unfold phaseTarget at hphase
        split at hphase <;> simp_all
      rcases htarget with rfl | rfl | rfl <;> simp [DeviceRow.Timed, activeRow]
    | reportRequeued hstate hjob hreplay =>
      simp only [replayable, Bool.and_eq_true, Option.isNone_iff_eq_none] at hreplay
      exact hreplay.1.1.1.2
    | reportInterrupted h hstatus hreplay => exact trivial
  | unconfirmed h => exact trivial
  | recovered =>
    rename_i acceptTimeout timeout
    rcases hstate : row.state
    case waitingTransfer =>
      have hnone := htimed.unaccepted (by simp [hstate])
      simpa [recoverRow, hstate, DeviceRow.Timed] using hnone
    case reconciling =>
      by_cases haccepted : row.acceptedAt.isNone <;>
        simp [recoverRow, hstate, haccepted, restartReconciling, DeviceRow.Timed]
    case dispatching | downloading | validating | applying =>
      simp [recoverRow, hstate, restartReconciling, DeviceRow.Timed]
    all_goals simpa [recoverRow, hstate] using htimed
  | artifactMissing hfound hdispatched hneeds => exact trivial

end Rows

/-! ### Runs -/

/-- What the sweeps and the restart rely on. -/
structure TimersCovered (s : Store) : Prop where
  reconciling : ∀ k d row, s.device? k d = some row → row.state = .reconciling →
    row.reconciliationDeadline ≠ none ∧ row.reconciliationReason ≠ none
  dispatching : ∀ k d row, s.device? k d = some row → row.protocolMode = .jobV1 →
    row.state = .dispatching → row.acceptedAt = none ∧ row.acceptDeadline ≠ none
  accepted : ∀ k d row, s.device? k d = some row →
    row.state ∈ [DeviceState.downloading, .validating, .applying] →
    row.acceptedAt ≠ none ∧ row.reconciliationReason = none ∧ row.reconciliationDeadline = none
  queued : ∀ k d row, s.device? k d = some row → row.state = .queued → row.acceptedAt = none

/-- The rows of a store are timed. -/
def Timed (s : Store) : Prop := ∀ k d row, s.device? k d = some row → row.Timed

section Runs

variable {indexed : Bool} {s : Store} {call : Millis × RuntimeCall}

theorem Timed.initial : Timed initial := fun k d row h =>
  absurd h (by simp [device?, Store.initial])

theorem Timed.covered (h : Timed s) : TimersCovered s where
  reconciling k d row hrow hstate := by
    have htimed := h k d row hrow
    simp only [DeviceRow.Timed, hstate] at htimed
    exact htimed.symm
  dispatching k d row hrow hprotocol hstate := by
    have htimed := h k d row hrow
    simp only [DeviceRow.Timed, hstate] at htimed
    exact ⟨htimed.1, htimed.2 hprotocol⟩
  accepted k d row hrow hstate := (h k d row hrow).accepted hstate
  queued k d row hrow hstate := (h k d row hrow).unaccepted (by simp [hstate])

/-- **One call.** -/
theorem Timed.step (h : Timed s) (hdeadline : call.2.SetsDeadline) (hsafe : TimerSafe s call) :
    Timed (s.runtimeStep indexed call) := by
  intro k d row' hrow'
  obtain ⟨row, hrow, hchange⟩ | ⟨-, -, -, -, -, -, i, protocol, capabilities, -, rfl⟩ :=
    (runtimeStep_effect indexed s call).row_cases hrow'
  · obtain ⟨rfl, rfl⟩ := key_of_device? hrow
    exact hchange.timed (h _ _ row hrow) hdeadline fun site hcall hstate =>
      hsafe site _ _ row hcall hrow hstate
  · exact rfl

/-- The sweep finds every `reconciling` row once its deadline has passed. -/
theorem TimersCovered.mem_expiredReconciliations (h : TimersCovered s) {k : JobId} {d : DeviceId}
    {row : DeviceRow} (hrow : s.device? k d = some row) (hstate : row.state = .reconciling) :
    ∃ deadline, row.reconciliationDeadline = some deadline ∧
      ∀ now, deadline ≤ now → ⟨k, d, deadline⟩ ∈ s.expiredReconciliations now := by
  obtain ⟨deadline, hdeadline⟩ :=
    Option.ne_none_iff_exists'.1 (h.reconciling k d row hrow hstate).1
  obtain ⟨rfl, rfl⟩ := key_of_device? hrow
  refine ⟨deadline, hdeadline, fun now hnow => List.mem_map.2 ⟨row, ?_, by rw [hdeadline]; rfl⟩⟩
  rw [List.mem_insertionSort, List.mem_filter, mem_devices]
  exact ⟨hrow, by simpa [hstate, hdeadline] using hnow⟩

/-- The sweep finds every command whose acceptance is overdue. -/
theorem TimersCovered.mem_expiredAcceptances (h : TimersCovered s) {k : JobId} {d : DeviceId}
    {row : DeviceRow} (hrow : s.device? k d = some row) (hprotocol : row.protocolMode = .jobV1)
    (hstate : row.state = .dispatching) :
    ∃ deadline, row.acceptDeadline = some deadline ∧
      ∀ now, deadline ≤ now → ⟨k, d, deadline⟩ ∈ s.expiredAcceptances now := by
  obtain ⟨haccepted, hne⟩ := h.dispatching k d row hrow hprotocol hstate
  obtain ⟨deadline, hdeadline⟩ := Option.ne_none_iff_exists'.1 hne
  obtain ⟨rfl, rfl⟩ := key_of_device? hrow
  refine ⟨deadline, hdeadline, fun now hnow => List.mem_map.2 ⟨row, ?_, by rw [hdeadline]; rfl⟩⟩
  rw [List.mem_insertionSort, List.mem_filter, mem_devices]
  exact ⟨hrow, by simpa [hstate, haccepted, hdeadline] using hnow⟩

/-- The calls are issued as the runtime issues them. -/
abbrev TimedRun (indexed : Bool) (calls : List (Millis × RuntimeCall)) : Prop :=
  Run.Along (runtimeStep indexed) (fun s call => call.2.Issued s ∧ call.2.SetsDeadline) initial
    calls

/-- **Timers cover every uncertain row** in every run whose transitions are complete. -/
theorem timers_covered (calls : List (Millis × RuntimeCall)) (hrun : TimedRun indexed calls)
    (hsafe : Run.Along (runtimeStep indexed) TimerSafe initial calls) :
    TimersCovered (runtimeExec indexed initial calls) := by
  have htimed := (hrun.and hsafe).invariant (I := Timed)
    (fun s call h hcall => h.step hcall.1.2 hcall.2) .initial
  exact htimed.covered

/-- A run without `transition_device` is safe. -/
theorem along_timerSafe {calls : List (Millis × RuntimeCall)}
    (h : ∀ call ∈ calls, ∀ site k d, call.2 ≠ .transition site k d) :
    Run.Along (runtimeStep indexed) TimerSafe s calls :=
  Run.along_of_prefix fun l₁ call l₂ hl site k d _ hcall =>
    absurd hcall (h call (hl ▸ by simp) site k d)

/-- A published job whose device is lost before it has accepted the command. -/
def dispatchedJob : List (Millis × RuntimeCall) :=
  publishedJob ++
    [(50, .pushFiles "job-1"), (60, .claim ["quest-1"]),
     (70, .prepare "job-1" "quest-1" .jobV1 [] (some 30070)),
     (80, .reconciling .disconnectBeforeAccept "job-1" "quest-1" .dispatching 60080)]

private theorem timedRun_dispatchedJob {later : List (Millis × RuntimeCall)}
    (hlater : ∀ call ∈ later, (∀ s, call.2.Issued s) ∧ call.2.SetsDeadline) :
    TimedRun true (dispatchedJob ++ later) := by
  refine Run.along_append.2 ⟨?_, Run.along_of_prefix fun l₁ call l₂ hl => ?_⟩
  · have hcurrent : DeviceState.dispatching ∈
        [DeviceState.dispatching, .downloading, .validating, .applying] := by decide
    exact ⟨⟨trivial, trivial⟩, ⟨trivial, trivial⟩, ⟨trivial, trivial⟩, ⟨trivial, trivial⟩,
      ⟨trivial, trivial⟩, ⟨trivial, trivial⟩, ⟨trivial, by simp [RuntimeCall.SetsDeadline]⟩,
      ⟨hcurrent, trivial⟩, trivial⟩
  · obtain ⟨hissued, hdeadline⟩ := hlater call (hl ▸ by simp)
    exact ⟨hissued _, hdeadline⟩

/-- The device comes back and accepts late. -/
theorem timers_covered_late : TimersCovered (runtimeExec true initial (dispatchedJob ++
    [(90, .reportedActive "job-1" "quest-1" (some "downloading") none)])) := by
  refine @timers_covered true _ (timedRun_dispatchedJob ?_) ?_
  · simp [RuntimeCall.Issued, RuntimeCall.SetsDeadline]
  · refine along_timerSafe fun call hcall site k d => ?_
    simp only [dispatchedJob, publishedJob, List.cons_append, List.nil_append, List.mem_cons,
      List.not_mem_nil, or_false] at hcall
    rcases hcall with rfl | rfl | rfl | rfl | rfl | rfl | rfl | rfl | rfl <;>
      exact RuntimeCall.noConfusion

/-- The device comes back and sends `PUSH_PHASE` without a `PUSH_JOB_ACCEPTED`. -/
theorem applying_unaccepted : ¬∀ calls, TimedRun true calls →
    TimersCovered (runtimeExec true initial calls) := by
  intro h
  let calls := dispatchedJob ++ [(90, .transition (.applying 90) "job-1" "quest-1")]
  have hrun : TimedRun true calls :=
    timedRun_dispatchedJob (by simp [RuntimeCall.Issued, RuntimeCall.SetsDeadline])
  have hrow : ((runtimeExec true initial calls).device? "job-1" "quest-1").map
      (fun row => (row.state, row.acceptedAt)) = some (.applying, none) := by decide +kernel
  obtain ⟨row, hfound, hcolumns⟩ := Option.map_eq_some_iff.1 hrow
  have hstate : row.state = .applying := congrArg Prod.fst hcolumns
  have haccepted : row.acceptedAt = none := congrArg Prod.snd hcolumns
  exact ((h calls hrun).accepted _ _ row hfound (by simp [hstate])).1 haccepted

end Runs

end Store

end StylyMdm.PushJobs
