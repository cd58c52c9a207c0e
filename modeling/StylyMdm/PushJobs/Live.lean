import StylyMdm.PushJobs.Recovery
import StylyMdm.PushJobs.Timers

/-!
# Rows that somebody must look after

A live row waits for its turn or is in the hands of its device. Only a few calls of the runtime can
make a row live or move it from one live state to another, and each of them names the devices it may
do that for (`RuntimeCall.revives`). Every other call leaves a device frozen: a row that is live
afterwards was in the same state before. So a device that is settled, without live rows, stays
settled. A restart settles every device.

This is what the model of the running server needs to know of the store. A coroutine may issue a
call that revives nothing at any time; for the others it has to have the session of the device
(`Runtime.Custody`). The last section has the other direction: that the calls which settle a device
succeed on the rows they are meant for.
-/

namespace StylyMdm.PushJobs

/-- The active states but `reconciling`. -/
def DeviceState.isLive (state : DeviceState) : Bool :=
  state ∈ [DeviceState.waitingTransfer, .dispatching, .downloading, .validating, .applying]

theorem DeviceState.isActive_of_isLive {state : DeviceState} (h : state.isLive) :
    state.isActive := by
  revert h
  cases state <;> decide

theorem DeviceState.eq_reconciling {state : DeviceState} (hactive : state.isActive)
    (hlive : state.isLive = false) : state = .reconciling := by
  revert hactive hlive
  cases state <;> decide

/-- The devices for which a call may make a row live or change its live state. -/
def RuntimeCall.revives : RuntimeCall → List DeviceId
  | .claim online => online
  | .prepare _ deviceId _ _ _ => [deviceId]
  | .transition site _ deviceId => if site.target.isLive then [deviceId] else []
  | .reportedActive _ deviceId _ _ => [deviceId]
  | _ => []

namespace Store

/-- No row of the device is live. -/
def Settled (s : Store) (deviceId : DeviceId) : Prop :=
  ∀ k row, s.device? k deviceId = some row → row.state.isLive = false

/-- A row of the device that is live in `s'` was in the same state in `s`. -/
def Frozen (deviceId : DeviceId) (s s' : Store) : Prop :=
  ∀ k row', s'.device? k deviceId = some row' → row'.state.isLive →
    ∃ row, s.device? k deviceId = some row ∧ row.state = row'.state

section Frozen

variable {s s' s'' : Store} {d : DeviceId}

theorem Frozen.refl (d : DeviceId) (s : Store) : Frozen d s s :=
  fun _ row hrow _ => ⟨row, hrow, rfl⟩

theorem Frozen.trans (h : Frozen d s s') (h' : Frozen d s' s'') : Frozen d s s'' := by
  intro k row'' hrow'' hlive
  obtain ⟨row', hrow', hstate'⟩ := h' k row'' hrow'' hlive
  obtain ⟨row, hrow, hstate⟩ := h k row' hrow' (by rwa [hstate'])
  exact ⟨row, hrow, hstate.trans hstate'⟩

theorem Frozen.settled (h : Frozen d s s') (hs : s.Settled d) : s'.Settled d := by
  intro k row' hrow'
  by_contra hlive
  obtain ⟨row, hrow, hstate⟩ := h k row' hrow' (by simpa using hlive)
  have hnot := hs k row hrow
  rw [hstate] at hnot
  exact hlive hnot

end Frozen

/-! ### What a call can do to a row -/

section Rows

variable {now : Millis} {s : Store} {call : RuntimeCall} {row row' : DeviceRow}

theorem claim_of_op {online : List DeviceId} (h : call.op = .claimNext online) :
    call = .claim online := by
  cases call with
  | claim online' =>
    rw [RuntimeCall.op, Op.claimNext.injEq] at h
    rw [h]
  | transition site jobId deviceId => exact absurd h Op.noConfusion
  | _ => exact absurd h Op.noConfusion

theorem reportedActive_of_op {jobId : JobId} {deviceId : DeviceId} {attempt : Nat}
    {phase detail : Option String}
    (h : call.op = .reconcileReport jobId deviceId attempt .active phase detail) :
    call = .reportedActive jobId deviceId phase detail := by
  cases call with
  | reportedActive jobId' deviceId' phase' detail' =>
    rw [RuntimeCall.op, Op.reconcileReport.injEq] at h
    obtain ⟨rfl, rfl, -, -, rfl, rfl⟩ := h
    rfl
  | reportedGone jobId' deviceId' status phase' detail' =>
    rw [RuntimeCall.op, Op.reconcileReport.injEq] at h
    cases status <;> exact absurd h.2.2.2.1 (by decide)
  | transition site jobId' deviceId' => exact absurd h Op.noConfusion
  | _ => exact absurd h Op.noConfusion

/-- A restart leaves no row live. -/
theorem isLive_recoverRow (now : Millis) (acceptTimeout timeout : Nat) (row : DeviceRow) :
    ((recoverRow now acceptTimeout timeout row).getD row).state.isLive = false := by
  rcases hstate : row.state
  case reconciling =>
    by_cases haccepted : row.acceptedAt.isNone <;>
      simp [recoverRow, hstate, haccepted, restartReconciling, DeviceState.isLive]
  all_goals simp [recoverRow, hstate, restartReconciling, DeviceState.isLive]

/-- **What can make a row live.** A call that is not entitled to it leaves a row that is live
afterwards in the state it was in. -/
theorem RowChange.live (h : RowChange now s row call.op row') (hlive : row'.state.isLive)
    (hnot : row.deviceId ∉ call.revives) : row.state = row'.state := by
  generalize hop : call.op = op at h
  cases h with
  | same => rfl
  | edit edit =>
    cases edit with
    | transition hexpected hvalid =>
      obtain ⟨site, rfl, -, rfl, rfl⟩ := transition_of_op hop
      have htarget : site.target.isLive := hlive
      rw [RuntimeCall.revives, if_pos htarget] at hnot
      exact absurd (List.mem_singleton_self _) hnot
    | markReconciling hexpected hvalid => exact (Bool.false_ne_true hlive).elim
    | settle hallowed =>
      rename_i result
      revert hlive
      rcases hsuccess : result.success <;>
        simp [settledRow, TerminalResult.target, hsuccess, DeviceState.isLive]
    | claim hclaim =>
      obtain rfl := claim_of_op hop
      exact absurd (claimable_of_candidate hclaim).isOnline hnot
    | prepare hstate =>
      obtain rfl := prepare_of_op hop
      exact absurd (List.mem_singleton_self _) hnot
    | acceptanceExpired hstate haccepted hdeadline => exact (Bool.false_ne_true hlive).elim
    | reportActive hstate hphase =>
      obtain rfl := reportedActive_of_op hop
      exact absurd (List.mem_singleton_self _) hnot
    | reportRequeued hstate hjob hreplay => exact (Bool.false_ne_true hlive).elim
    | reportInterrupted hstate hstatus hreplay => exact (Bool.false_ne_true hlive).elim
  | unconfirmed hstate => exact (Bool.false_ne_true hlive).elim
  | recovered =>
    rw [isLive_recoverRow] at hlive
    exact (Bool.false_ne_true hlive).elim
  | artifactMissing hjob hdispatched hneeds => exact (Bool.false_ne_true hlive).elim

/-- A reconciling row has a deadline, whoever made it reconciling. -/
theorem RowChange.deadlined (h : RowChange now s row call.op row')
    (hrow : row.state = .reconciling → row.reconciliationDeadline ≠ none)
    (hstate' : row'.state = .reconciling) : row'.reconciliationDeadline ≠ none := by
  generalize hop : call.op = op at h
  cases h with
  | same => exact hrow hstate'
  | edit edit =>
    cases edit with
    | transition hexpected hvalid =>
      obtain ⟨site, rfl, -, rfl, rfl⟩ := transition_of_op hop
      have htarget : site.target = .reconciling := hstate'
      cases site <;> exact absurd htarget DeviceState.noConfusion
    | markReconciling hexpected hvalid => exact Option.some_ne_none _
    | settle hallowed =>
      rename_i result
      revert hstate'
      rcases hsuccess : result.success <;> simp [settledRow, TerminalResult.target, hsuccess]
    | claim hclaim => exact absurd hstate' DeviceState.noConfusion
    | prepare hstate => exact absurd hstate' DeviceState.noConfusion
    | acceptanceExpired hstate haccepted hdeadline => exact Option.some_ne_none _
    | reportActive hstate hphase =>
      rename_i phase detail target
      have htarget : target = .reconciling := hstate'
      unfold phaseTarget at hphase
      split at hphase <;> simp_all
    | reportRequeued hstate hjob hreplay => exact absurd hstate' DeviceState.noConfusion
    | reportInterrupted hstate hstatus hreplay => exact absurd hstate' DeviceState.noConfusion
  | unconfirmed hstate => exact absurd hstate' DeviceState.noConfusion
  | recovered =>
    rename_i acceptTimeout timeout
    rcases hstate : row.state
    case reconciling =>
      by_cases haccepted : row.acceptedAt.isNone <;>
        simp [recoverRow, hstate, haccepted, restartReconciling]
    case dispatching | downloading | validating | applying =>
      simp [recoverRow, hstate, restartReconciling]
    all_goals
      revert hstate'
      simp [recoverRow, hstate]
  | artifactMissing hjob hdispatched hneeds => exact absurd hstate' DeviceState.noConfusion

end Rows

/-! ### What holds of every store of the runtime -/

/-- The facts about a store that every call of the runtime keeps. -/
structure Sound (s : Store) : Prop where
  wellFormed : WellFormed s
  exclusive : Exclusive s
  deadlined : ∀ k d row, s.device? k d = some row → row.state = .reconciling →
    row.reconciliationDeadline ≠ none

section Steps

variable {indexed : Bool} {s : Store} {call : Millis × RuntimeCall} {d : DeviceId}

theorem Sound.initial : Sound initial where
  wellFormed := .initial
  exclusive := .initial
  deadlined k d row h := absurd h (by simp [device?, Store.initial])

theorem Sound.runtimeStep (h : Sound s) : Sound (s.runtimeStep indexed call) where
  wellFormed := h.wellFormed.step indexed _
  exclusive := h.exclusive.runtimeStep indexed call
  deadlined k d row' hrow' hstate := by
    obtain ⟨row, hrow, hchange⟩ | ⟨-, -, -, -, -, -, i, protocol, capabilities, -, rfl⟩ :=
      (runtimeStep_effect indexed s call).row_cases hrow'
    · exact hchange.deadlined (h.deadlined k d row hrow) hstate
    · exact absurd hstate DeviceState.noConfusion

/-- A call freezes the devices it is not entitled to. -/
theorem frozen_runtimeStep (call : Millis × RuntimeCall) (hnot : d ∉ call.2.revives) :
    Frozen d s (s.runtimeStep indexed call) := by
  intro k row' hrow' hlive
  obtain ⟨row, hrow, hchange⟩ | ⟨-, -, -, -, -, -, i, protocol, capabilities, -, rfl⟩ :=
    (runtimeStep_effect indexed s call).row_cases hrow'
  · have hd := (key_of_device? hrow).2
    exact ⟨row, hrow, hchange.live hlive (by rwa [hd])⟩
  · exact (Bool.false_ne_true hlive).elim

/-- A call that commits. -/
theorem runtimeStep_of_run {r : Store × Reply}
    (h : call.2.op.run indexed call.1 s = .ok r) : s.runtimeStep indexed call = r.1 := by
  rw [Store.runtimeStep, step, h]

/-- A transition whose row is in none of the states the caller expects changes nothing. -/
theorem runtimeStep_transition_of_not {site : TransitionSite} {now : Millis} {k : JobId}
    (h : ∀ row, s.device? k d = some row → row.state ∉ site.expected) :
    s.runtimeStep indexed (now, .transition site k d) = s := by
  have hrun : ∃ error, s.transitionDevice indexed now k d (some site.expected) site.target
      site.fields = .error error := by
    rw [transitionDevice]
    rcases hrow : s.device? k d with _ | row
    · exact ⟨_, rfl⟩
    · simp only [Bool.false_eq_true, and_false, if_false, Option.any_some, h row hrow,
        not_false_eq_true, decide_true, if_true]
      exact ⟨_, rfl⟩
  obtain ⟨error, herror⟩ := hrun
  have hop : (site.op k d).run indexed now s = .error error := by
    rw [TransitionSite.op, Op.run, herror]
    rfl
  rw [Store.runtimeStep, step]
  simp only [RuntimeCall.op, hop]

end Steps

/-! ### Transitions that succeed -/

section Success

variable {s : Store} {now : Millis} {k : JobId} {d : DeviceId} {row : DeviceRow}

/-- The index does not stand in the way of a row that is active already. -/
theorem Exclusive.activeIndexConflict (hex : Exclusive s) (hrow : s.device? k d = some row)
    (hactive : row.state.isActive) (target : DeviceState) :
    s.activeIndexConflict k d target = false := by
  rw [Store.activeIndexConflict, Bool.and_eq_false_iff, List.any_eq_false]
  refine .inr fun other hother => ?_
  have hlook := mem_devices.mp hother
  by_cases hd : other.deviceId = d
  · rw [hd] at hlook
    by_cases hother' : other.state.isActive
    · have hk := hex.activeUnique hlook hrow hother' hactive
      simp [DeviceRow.key, hd, hk]
    · simp [hother']
  · simp [hd]

/-- `transition_device` on a row that is active and in a state the caller expects. -/
theorem transitionDevice_isOk (now : Millis) (fields : DeviceFields) (hs : Sound s)
    (hrow : s.device? k d = some row) (hactive : row.state.isActive)
    {expected : List DeviceState} {target : DeviceState} (hexpected : row.state ∈ expected)
    (hvalid : validDeviceTransition row.state target) :
    ∃ s' shown row',
      s.transitionDevice true now k d (some expected) target fields = .ok (s', shown) ∧
        s'.device? k d = some row' ∧ row'.state = target := by
  obtain ⟨job, hjob⟩ := hs.wellFormed.jobOfRow hrow
  let t := s.updateDevice k d (transitionedRow now target fields)
  have hlook : t.device? k d = some (transitionedRow now target fields row) := by
    change (s.updateDevice k d (transitionedRow now target fields)).device? k d = _
    rw [device?_updateDevice, hrow, Option.map_some, if_pos rfl]
  have hrows : t.jobRows k ≠ [] := by
    have hd := (key_of_device? hlook).2
    exact List.ne_nil_of_mem (mem_jobRows.mpr (by rw [hd]; exact hlook))
  obtain ⟨shown, htouch⟩ := touchJob_isOk (s := t) now hjob hrows
  refine ⟨t.touched k now, shown, transitionedRow now target fields row, ?_, ?_, rfl⟩
  · rw [transitionDevice, hrow]
    simp only [Bool.false_eq_true, and_false, if_false, Option.any_some, hexpected,
      not_true_eq_false, decide_false, hvalid, Bool.not_true, Bool.true_and,
      hs.exclusive.activeIndexConflict hrow hactive target]
    exact htouch
  · rw [touched, device?_updateJob]
    exact hlook

theorem runtimeStep_transition (now : Millis) (site : TransitionSite) (hs : Sound s)
    (hrow : s.device? k d = some row) (hactive : row.state.isActive)
    (hexpected : row.state ∈ site.expected)
    (hvalid : validDeviceTransition row.state site.target) :
    ∃ row', (s.runtimeStep true (now, .transition site k d)).device? k d = some row' ∧
      row'.state = site.target := by
  obtain ⟨s', shown, row', hrun, hrow', hstate'⟩ :=
    transitionDevice_isOk now site.fields hs hrow hactive hexpected hvalid
  refine ⟨row', ?_, hstate'⟩
  have hstep : s.runtimeStep true (now, .transition site k d) = s' := by
    refine runtimeStep_of_run (r := (s', .done)) ?_
    change (site.op k d).run true now s = _
    rw [TransitionSite.op, Op.run, hrun]
    rfl
  rw [hstep]
  exact hrow'

theorem runtimeStep_reconciling (now : Millis) (hs : Sound s) (hrow : s.device? k d = some row)
    (hactive : row.state.isActive) {reason : ReconcilingReason} {deadline : Millis}
    (hvalid : validDeviceTransition row.state .reconciling) :
    ∃ row', (s.runtimeStep true (now, .reconciling reason k d row.state deadline)).device? k d =
      some row' ∧ row'.state = .reconciling := by
  obtain ⟨s', shown, row', hrun, hrow', hstate'⟩ :=
    transitionDevice_isOk now (reconcilingFields reason.text deadline) hs hrow hactive
      (List.mem_singleton_self row.state) hvalid
  refine ⟨row', ?_, hstate'⟩
  have hstep : s.runtimeStep true (now, .reconciling reason k d row.state deadline) = s' := by
    refine runtimeStep_of_run (r := (s', .done)) ?_
    rw [RuntimeCall.op, Op.run, markReconciling]
    rw [reconcilingFields] at hrun
    rw [hrun]
    rfl
  rw [hstep]
  exact hrow'

/-- A device whose active row is not live is settled. -/
theorem Sound.settled_of_active (hs : Sound s) (hrow : s.device? k d = some row)
    (hactive : row.state.isActive) (hlive : row.state.isLive = false) : s.Settled d := by
  intro k' row' hrow'
  by_contra hlive'
  have hlive' : row'.state.isLive := by simpa using hlive'
  obtain rfl := hs.exclusive.activeUnique hrow' hrow (DeviceState.isActive_of_isLive hlive') hactive
  rw [hrow, Option.some.injEq] at hrow'
  subst hrow'
  rw [hlive] at hlive'
  exact Bool.false_ne_true hlive'

/-- A call settles a device if it deals with the row that was the active one some time ago, provided
no other row has become live since. -/
theorem settled_runtimeStep {s₀ : Store} {call : RuntimeCall} (hs₀ : Sound s₀)
    (hrow : s₀.device? k d = some row) (hactive : row.state.isActive) (hfrozen : Frozen d s₀ s)
    (hcall : d ∉ call.revives)
    (hdeal : ∀ row', s.device? k d = some row' → row'.state = row.state → row.state.isLive →
      ∃ row'', (s.runtimeStep true (now, call)).device? k d = some row'' ∧
        row''.state.isLive = false) :
    (s.runtimeStep true (now, call)).Settled d := by
  intro k' row₂ hrow₂
  by_contra hlive
  have hlive : row₂.state.isLive := by simpa using hlive
  obtain ⟨row₁, hrow₁, hstate₁⟩ := frozen_runtimeStep (now, call) hcall k' row₂ hrow₂ hlive
  obtain ⟨row₀, hrow₀, hstate₀⟩ := hfrozen k' row₁ hrow₁ (by rwa [hstate₁])
  -- the live row is the one that was active
  have hlive₀ : row₀.state.isLive := by rwa [hstate₀, hstate₁]
  obtain rfl := hs₀.exclusive.activeUnique hrow₀ hrow
    (DeviceState.isActive_of_isLive hlive₀) hactive
  rw [hrow, Option.some.injEq] at hrow₀
  subst hrow₀
  obtain ⟨row'', hrow'', hnot⟩ := hdeal row₁ hrow₁ hstate₀.symm hlive₀
  rw [hrow₂, Option.some.injEq] at hrow''
  subst hrow''
  rw [hlive] at hnot
  exact Bool.false_ne_true hnot.symm

/-- A restart settles every device. -/
theorem settled_runtimeStep_restart (hs : Sound s) (acceptTimeout timeout : Nat) (d : DeviceId) :
    (s.runtimeStep true (now, .restart acceptTimeout timeout)).Settled d := by
  obtain ⟨shown, cleanup, hrun⟩ :=
    recoverStartupSync_isOk hs.wellFormed now acceptTimeout timeout
  have hstep : s.runtimeStep true (now, .restart acceptTimeout timeout) =
      s.recovered now acceptTimeout timeout := by
    refine runtimeStep_of_run (r := (_, .done)) ?_
    rw [RuntimeCall.op, Op.run, hrun]
    rfl
  intro k row' hrow'
  rw [hstep, device?_recovered] at hrow'
  obtain ⟨row, -, rfl⟩ := Option.map_eq_some_iff.mp hrow'
  exact isLive_recoverRow now acceptTimeout timeout row

end Success

end Store

end StylyMdm.PushJobs
