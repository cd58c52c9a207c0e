import StylyMdm.PushJobs.Fifo
import StylyMdm.PushJobs.Timers
import StylyMdm.Runtime.Evidence

/-!
# Redelivered results

A client repeats a `PUSH_FILES_RESULT` until it is acknowledged, so the server may see the result of
a settled row any number of times, and other results of the same execution as well. The handler
makes up to three transactions and a query; here other operations commit between them.

The row keeps the outcome of the first result. A result that says the same after normalisation is
accepted, any other one refused for good, and a result that meets an opaque fence of its execution
lifts the fence and is accepted. None of this touches the state of the job, which changes only with
the rows of its other devices.

`Gaps` has the operations that commit between the transactions of one handler; they may be any that
the runtime issues. With no gaps the handler is the one of `Runtime.Evidence`
(`handleResultAmid_quiet`). `Settled` is the invariant of a
row that has its outcome, `Link.step` a delivery or another event, and `first_result_wins` what
holds of every run of these.

The last run has a second device, whose result moves the state of the job after the first device has
been settled.
-/

namespace StylyMdm.Runtime

open PushJobs Store

/-! ### A delivery amid other operations -/

/-- What other operations commit between the transactions of a delivery, with the times of the
later ones, and who owns the device when the answer is sent. -/
structure Gaps where
  beforeAssignment : List (Millis × RuntimeCall)
  beforeSettle : List (Millis × RuntimeCall)
  settleTime : Millis
  beforeLate : List (Millis × RuntimeCall)
  lateTime : Millis
  owner : Option Nat

/-- `_handle_result` on a row that was not unconfirmed. -/
def handleSettledResultAmid (indexed : Bool) (gaps : Gaps) (s : Store) (deviceId : DeviceId)
    (jobId : JobId) (row : DeviceRow) (payload : Payload) : Except StoreError Handled := do
  let wasTerminal := row.state ∈ [DeviceState.succeeded, .failed, .interrupted]
  let s := runtimeExec indexed s gaps.beforeSettle
  let (s, accepted, reason, snapshot) ←
    s.settleResult gaps.settleTime jobId deviceId 1 (terminalResult payload)
  let current := snapshot.devices.find? fun device => device.deviceId = deviceId
  if !accepted ∧ reason ∈ [some "unexpected_result_state", some "conflicting_terminal_result"] ∧
      current.any (fun device => device.state = .unconfirmed) then
    let s := runtimeExec indexed s gaps.beforeLate
    let (s, accepted, late) ← s.settleLateFencedResult gaps.lateTime jobId deviceId 1
    let shown := if accepted then (late.find? fun item => item.jobId = jobId).getD snapshot
      else snapshot
    return {
      store := s
      published :=
        if !accepted then [] else if !late.isEmpty then late
        else if wasTerminal then [] else [shown]
      ack := some (.resultAck jobId accepted (some shown.revision)
        (if accepted then none else reason))
      released := if accepted then some "terminal_result" else none
      woken := accepted }
  else
    return {
      store := s
      published := if accepted ∧ ¬ wasTerminal then [snapshot] else []
      ack := some (.resultAck jobId accepted (some snapshot.revision) reason)
      released := if accepted then some "terminal_result" else none
      woken := accepted }

/-- `_handle_result`. -/
def handleResultAmid (indexed : Bool) (gaps : Gaps) (s : Store) (now : Millis)
    (deviceId : DeviceId) (payload : Payload) : Except StoreError Handled :=
  match payload.jobId with
  | none => .ok { store := s }
  | some jobId =>
    if !isOne payload.attempt then .ok (refused s jobId "stale_result")
    else if payload.status ∉ [some "success", some "fail"] then
      .ok (refused s jobId "malformed_terminal_result")
    else if payload.status = some "success" ∧ !countsGiven payload then
      .ok (refused s jobId "malformed_terminal_result")
    else do
      let (s, matched, snapshots) ← s.clearMatchingOpaqueFence now deviceId jobId 1
      if matched then
        return {
          store := s
          published := snapshots
          ack := some (.resultAck jobId true (revisionOf jobId snapshots) none)
          woken := true }
      else
        let s := runtimeExec indexed s gaps.beforeAssignment
        match s.assignment jobId deviceId with
        | none => return refused s jobId "unknown_job"
        | some (row, _) =>
          if row.attempt ≠ 1 then return refused s jobId "stale_result"
          else if row.state = .unconfirmed then
            handleLateResult (runtimeExec indexed s gaps.beforeSettle) gaps.settleTime
              deviceId jobId
          else handleSettledResultAmid indexed gaps s deviceId jobId row payload

/-- With nothing in between this is the handler of the quiet server. -/
theorem handleResultAmid_quiet (indexed : Bool) (s : Store) (now : Millis) (deviceId : DeviceId)
    (payload : Payload) (owner : Option Nat) :
    handleResultAmid indexed ⟨[], [], now, [], now, owner⟩ s now deviceId payload =
      handleResult s now deviceId payload := rfl

/-! ### The device and its sessions -/

/-- The `retryable` entry of an acknowledgement, which is written on a refusal only. -/
def Frame.retryable : Frame → Option Bool
  | .resultAck _ accepted _ _ => if accepted then none else some false
  | _ => none

/-- The store, the session that owns the device, and the answers with the sessions they went to. -/
structure Link where
  store : Store
  owner : Option Nat
  sent : List (Nat × Frame)

/-- What the deliveries of one result meet. -/
inductive Event
  /-- Any other operation. -/
  | other (call : Millis × RuntimeCall)
  /-- A registration, which replaces the owner, or a disconnect. -/
  | owner (session : Option Nat)
  | result (session : Nat) (now : Millis) (payload : Payload) (gaps : Gaps)

/-- One event. A result of a session that is not the owner is consumed; an exception in the handler
would end the task of the session. -/
def Link.step (indexed : Bool) (deviceId : DeviceId) (link : Link) : Event → Link
  | .other call => { link with store := link.store.runtimeStep indexed call }
  | .owner session => { link with owner := session }
  | .result session now payload gaps =>
    if link.owner ≠ some session then link
    else
      match handleResultAmid indexed gaps link.store now deviceId payload with
      | .error _ => link
      | .ok handled =>
        { store := handled.store
          owner := gaps.owner
          sent := link.sent ++
            if gaps.owner = some session then handled.ack.toList.map fun frame => (session, frame)
            else [] }

/-! ### A settled row -/

/-- An opaque fence for the execution `(jobId, 1)` stands on the device. -/
def OpaqueFence (s : Store) (deviceId : DeviceId) (jobId : JobId) : Prop :=
  ∃ fence identity named, s.fence? deviceId = some fence ∧ fence.blocker = .unknown identity ∧
    fence.protocolMode = .jobV1 ∧ parseOpaqueJobIdentity identity = some named ∧
    canonicalUuid4 jobId = some named.1

/-- The outcome that `settle_result` writes. -/
def settledOutcome (result : Store.TerminalResult) :
    DeviceState × Option String × Option String × Option Nat × Option Nat × Option Nat :=
  (result.target, result.failureCode, result.failureDetail, some result.added, some result.updated,
    some result.deleted)

/-- The outcome of a row tells its result. -/
theorem settledOutcome_inj {result result' : Store.TerminalResult}
    (h : settledOutcome result = settledOutcome result') : result = result' := by
  obtain ⟨success, added, updated, deleted, code, detail⟩ := result
  obtain ⟨success', added', updated', deleted', code', detail'⟩ := result'
  simp only [settledOutcome, Prod.mk.injEq, Option.some.injEq, TerminalResult.target] at h
  obtain ⟨htarget, rfl, rfl, rfl, rfl, rfl⟩ := h
  have hsuccess : success = success' := by
    rcases success <;> rcases success' <;> first | rfl | simp at htarget
  rw [hsuccess]

/-- `same_result` compares the outcomes. -/
theorem sameResult_iff {row : DeviceRow} {result : Store.TerminalResult} :
    sameResult row result ↔ outcome row = settledOutcome result := by
  simp only [sameResult, outcome, settledOutcome, Bool.and_eq_true, decide_eq_true_eq,
    Prod.mk.injEq, and_assoc]

/-- A result ends the row in a state that is not `unconfirmed`. -/
theorem isTerminal_target (result : Store.TerminalResult) :
    result.target.isTerminal = true ∧ result.target ≠ .unconfirmed := by
  rcases hsuccess : result.success <;> simp [TerminalResult.target, hsuccess] <;> decide

/-- The row has the outcome of the result, in a store that keeps its invariants. -/
structure Settled (deviceId : DeviceId) (jobId : JobId) (result : Store.TerminalResult)
    (s : Store) : Prop where
  wellFormed : WellFormed s
  jobsSettled : JobsSettled s
  row : ∃ row, s.device? jobId deviceId = some row ∧ outcome row = settledOutcome result

section Rows

variable {s s' : Store} {d : DeviceId} {jobId : JobId} {result : Store.TerminalResult}
  {indexed : Bool} {now : Millis}

/-- A settled row stays settled over any call that is issued. -/
theorem Settled.runtimeStep (h : Settled d jobId result s) {call : Millis × RuntimeCall}
    (hissued : call.2.Issued s) : Settled d jobId result (s.runtimeStep indexed call) := by
  have e := runtimeStep_effect indexed s call
  obtain ⟨row, hrow, houtcome⟩ := h.row
  obtain ⟨row', hrow', hchange⟩ := e.rowChange hrow
  have hterminal : row.state.isTerminal := by
    have hstate : row.state = result.target := congrArg Prod.fst houtcome
    rw [hstate]
    exact (isTerminal_target result).1
  obtain rfl := hchange.eq_of_terminal hissued hterminal
  exact ⟨h.wellFormed.effect e, h.jobsSettled.effect e, row', hrow', houtcome⟩

/-- And over any run. -/
theorem Settled.runtimeExec (h : Settled d jobId result s) {calls : List (Millis × RuntimeCall)}
    (hrun : RuntimeRun indexed s calls) :
    Settled d jobId result (runtimeExec indexed s calls) :=
  hrun.invariant (fun _ _ hs hissued => hs.runtimeStep hissued) h

/-- Lifting an opaque fence changes no state of a job. -/
theorem jobState_of_clear {k : JobId} {attempt : Nat}
    (e : Effect now s (.clearMatchingOpaqueFence d jobId attempt) s') :
    (s'.job? k).map JobRow.state = (s.job? k).map JobRow.state := by
  cases e with
  | same => rfl
  | job hjob edit => cases edit
  | row hrow edit => cases edit
  | clear hfence hclear hids =>
    rw [job?_updateJobs, Option.map_map]
    refine congrArg (fun f => (s.job? k).map f) (funext fun job => ?_)
    dsimp only [Function.comp_apply]
    split <;> rfl

/-- Without a fence that it names, the report changes nothing. -/
theorem clearMatchingOpaqueFence_of_not (hnot : ¬OpaqueFence s d jobId) :
    s.clearMatchingOpaqueFence now d jobId 1 = .ok (s, false, []) := by
  rw [clearMatchingOpaqueFence]
  split
  · rename_i expected artifact hexpected
    have hcanonical : canonicalUuid4 jobId = some expected := by
      rw [canonicalOpaqueJobIdentity] at hexpected
      rcases hjob : canonicalUuid4 jobId with _ | canonical
      · simp [hjob] at hexpected
      · have hnamed : canonical = expected ∧ none = artifact := by simpa [hjob] using hexpected
        rw [hnamed.1]
    split
    · rename_i hfence
      refine if_neg fun hstored => hnot ?_
      rw [Option.any_eq_true] at hstored
      obtain ⟨named, hparse, hnamed⟩ := hstored
      rw [decide_eq_true_eq] at hnamed
      exact ⟨_, _, named, hfence, rfl, rfl, hparse, hnamed ▸ hcanonical⟩
    · rfl
  · rfl

/-- The handler goes on to the queries after a well-formed result. -/
theorem handleResultAmid_wellFormed {payload : Payload} (h : FinalResult jobId payload)
    (gaps : Gaps) : handleResultAmid indexed gaps s now d payload = (do
      let (s, matched, snapshots) ← s.clearMatchingOpaqueFence now d jobId 1
      if matched then
        return {
          store := s
          published := snapshots
          ack := some (.resultAck jobId true (revisionOf jobId snapshots) none)
          woken := true }
      else
        let s := Store.runtimeExec indexed s gaps.beforeAssignment
        match s.assignment jobId d with
        | none => return refused s jobId "unknown_job"
        | some (row, _) =>
          if row.attempt ≠ 1 then return refused s jobId "stale_result"
          else if row.state = .unconfirmed then
            handleLateResult (Store.runtimeExec indexed s gaps.beforeSettle) gaps.settleTime d jobId
          else handleSettledResultAmid indexed gaps s d jobId row payload) := by
  obtain ⟨hone, hstatus, hcounts⟩ := h.checks
  rw [handleResultAmid, h.jobId]
  dsimp only
  rw [if_neg hone, if_neg (not_not.2 hstatus), if_neg hcounts]

variable (indexed now) in
/-- A result that meets an opaque fence of its execution lifts it and is accepted. -/
theorem handleResultAmid_fenced {payload : Payload} (h : FinalResult jobId payload) (gaps : Gaps)
    (hfence : OpaqueFence s d jobId) : ∃ s' shown,
      handleResultAmid indexed gaps s now d payload = .ok {
        store := s'
        published := shown
        ack := some (.resultAck jobId true (revisionOf jobId shown) none)
        woken := true } ∧
      Lifted s s' d ∧ Effect now s (.clearMatchingOpaqueFence d jobId 1) s' := by
  obtain ⟨fence, identity, named, hfound, hblocker, hmode, hparse, hcanonical⟩ := hfence
  obtain ⟨s', shown, hclear, hlifted⟩ :=
    clearMatchingOpaqueFence_named now hfound hblocker hmode hparse hcanonical
  refine ⟨s', shown, ?_, hlifted, clearMatchingOpaqueFence_effect hclear⟩
  rw [handleResultAmid_wellFormed h, hclear]
  rfl

/-- The snapshot of a job shows the state of the row. -/
theorem state_of_snapshot {job : JobRow} (hjob : job.jobId = jobId) {row : DeviceRow}
    (hrow : s.device? jobId d = some row) {device : DeviceSnapshot}
    (hdevice : (s.jobSnapshot job).devices.find? (fun device => device.deviceId = d) =
      some device) : device.state = row.state := by
  have hid : device.deviceId = d := by simpa using List.find?_some hdevice
  obtain ⟨row', hrow', rfl⟩ := List.mem_map.1 (List.mem_of_find?_eq_some hdevice)
  rw [List.mem_insertionSort, mem_jobRows, hjob] at hrow'
  have hsame : row'.deviceId = d := hid
  rw [hsame, hrow, Option.some.injEq] at hrow'
  rw [hrow']
  rfl

variable (now) in
/-- `settle_result` on the settled row compares. -/
theorem Settled.settleResult_eq (hs : Settled d jobId result s) (other : Store.TerminalResult) :
    ∃ job row, job.jobId = jobId ∧ s.device? jobId d = some row ∧
      row.state ≠ .unconfirmed ∧
      s.settleResult now jobId d 1 other = .ok (s, decide (other = result),
        if other = result then none else some "conflicting_terminal_result",
        s.jobSnapshot job) := by
  obtain ⟨row, hrow, houtcome⟩ := hs.row
  have hstate : row.state = result.target := congrArg Prod.fst houtcome
  obtain ⟨job, hjob⟩ := hs.wellFormed.jobOfRow hrow
  have hsame : sameResult row other = decide (other = result) := by
    rw [Bool.eq_iff_iff, sameResult_iff, houtcome, decide_eq_true_eq]
    exact ⟨fun h => (settledOutcome_inj h).symm, fun h => by rw [h]⟩
  refine ⟨job, row, jobId_of_job? hjob, hrow, ?_, ?_⟩
  · rw [hstate]
    exact (isTerminal_target result).2
  · have hterminal : row.state.isTerminal = true := by
      rw [hstate]
      exact (isTerminal_target result).1
    have hattempt : ¬row.attempt ≠ 1 := not_not.2 rfl
    rw [settleResult, if_neg (not_not.2 rfl), hrow]
    dsimp only
    rw [if_neg hattempt, if_pos hterminal, snapshot_isOk hjob, hsame]
    simp [bind, Except.bind, pure, Except.pure]

/-- The last part of the handler on the settled row. -/
theorem handleSettledResultAmid_eq {gaps : Gaps}
    (hs : Settled d jobId result (Store.runtimeExec indexed s gaps.beforeSettle)) (row : DeviceRow)
    (payload : Payload) : ∃ handled revision reason,
      handleSettledResultAmid indexed gaps s d jobId row payload = .ok handled ∧
      handled.store = Store.runtimeExec indexed s gaps.beforeSettle ∧
      handled.ack =
        some (.resultAck jobId (decide (terminalResult payload = result)) revision reason) := by
  obtain ⟨job, row', hjob, hrow, hstate, hsettle⟩ :=
    hs.settleResult_eq gaps.settleTime (terminalResult payload)
  -- The row is not unconfirmed, so there is no second look at the fence.
  have hcurrent :
      ¬(((((Store.runtimeExec indexed s gaps.beforeSettle).jobSnapshot job).devices.find?
        fun device => device.deviceId = d).any
          fun device => device.state = .unconfirmed) = true) := by
    intro hany
    rw [Option.any_eq_true] at hany
    obtain ⟨device, hdevice, hunconfirmed⟩ := hany
    rw [decide_eq_true_eq, state_of_snapshot hjob hrow hdevice] at hunconfirmed
    exact hstate hunconfirmed
  rw [handleSettledResultAmid, hsettle]
  dsimp only [bind, Except.bind]
  rw [if_neg fun h => hcurrent h.2.2]
  exact ⟨_, _, _, rfl, rfl, rfl⟩

variable (now) in
/-- Any other result leaves the store to the other operations, and is accepted if it says the
same. -/
theorem handleResultAmid_settled (hs : Settled d jobId result s) {payload : Payload}
    (h : FinalResult jobId payload) (gaps : Gaps) (hnot : ¬OpaqueFence s d jobId)
    (hgaps : RuntimeRun indexed s (gaps.beforeAssignment ++ gaps.beforeSettle)) :
    ∃ handled revision reason,
      handleResultAmid indexed gaps s now d payload = .ok handled ∧
      handled.store =
        Store.runtimeExec indexed s (gaps.beforeAssignment ++ gaps.beforeSettle) ∧
      handled.ack =
        some (.resultAck jobId (decide (terminalResult payload = result)) revision reason) := by
  obtain ⟨hfirst, hsecond⟩ := Run.along_append.1 hgaps
  have hs₁ := hs.runtimeExec hfirst
  obtain ⟨row, hrow, houtcome⟩ := hs₁.row
  obtain ⟨job, hassignment⟩ := assignment_eq hs₁.wellFormed hrow
  have hattempt : ¬row.attempt ≠ 1 := not_not.2 rfl
  have hstate : row.state ≠ .unconfirmed := by
    rw [show row.state = result.target from congrArg Prod.fst houtcome]
    exact (isTerminal_target result).2
  have hhandler : handleResultAmid indexed gaps s now d payload = handleSettledResultAmid indexed
      gaps (Store.runtimeExec indexed s gaps.beforeAssignment) d jobId row payload := by
    rw [handleResultAmid_wellFormed h, clearMatchingOpaqueFence_of_not hnot]
    simp only [bind, Except.bind, Bool.false_eq_true, if_false, hassignment, if_neg hattempt,
      if_neg hstate]
  have happend : Store.runtimeExec indexed s (gaps.beforeAssignment ++ gaps.beforeSettle) =
      Store.runtimeExec indexed (Store.runtimeExec indexed s gaps.beforeAssignment)
        gaps.beforeSettle := Run.exec_append _ _ _ _
  rw [hhandler, happend]
  exact handleSettledResultAmid_eq (hs₁.runtimeExec hsecond) row payload

/-- `settle_result` on an open row writes the outcome. -/
theorem Settled.of_settle (hwf : WellFormed s) (hset : JobsSettled s) {row : DeviceRow}
    (hrow : s.device? jobId d = some row) (hopen : settleAllowed row.state) :
    Settled d jobId result (s.runtimeStep indexed (now, .result jobId d result)) := by
  have e := runtimeStep_effect indexed s (now, .result jobId d result)
  refine ⟨hwf.effect e, hset.effect e, settledRow now result row, ?_, rfl⟩
  obtain ⟨job, hjob⟩ := hwf.jobOfRow hrow
  have hterminal : row.state.isTerminal = false := by
    revert hopen
    rcases row.state <;> decide
  let t := (s.updateDevice jobId d (settledRow now result)).deleteJobFence d jobId
  have hfound : t.device? jobId d = some (settledRow now result row) := by
    change (s.updateDevice jobId d (settledRow now result)).device? jobId d = _
    rw [device?_updateDevice, hrow]
    simp
  have hrows : t.jobRows jobId ≠ [] := by
    have hid := (key_of_device? hfound).2
    exact List.ne_nil_of_mem (mem_jobRows.2 (hid ▸ hfound))
  obtain ⟨shown, htouch⟩ := touchJob_isOk (s := t) now hjob hrows
  have hsettle : s.settleResult now jobId d 1 result =
      .ok (t.touched jobId now, true, none, shown) := by
    have hattempt : ¬row.attempt ≠ 1 := not_not.2 rfl
    rw [settleResult, if_neg (not_not.2 rfl), hrow]
    dsimp only
    rw [if_neg hattempt, hterminal, if_neg Bool.false_ne_true, hopen, if_neg (by decide), htouch]
    rfl
  have hstep : s.runtimeStep indexed (now, .result jobId d result) = t.touched jobId now := by
    simp only [Store.runtimeStep, Store.step, RuntimeCall.op, Op.run, hsettle]
    rfl
  rw [hstep, touched, device?_updateJob]
  exact hfound

/-- A terminal job keeps its state. -/
def JobKept (jobId : JobId) (s s' : Store) : Prop :=
  ∀ state : JobState, state.isTerminal → (s.job? jobId).map JobRow.state = some state →
    (s'.job? jobId).map JobRow.state = some state

/-- A store keeps its jobs. -/
theorem JobKept.refl (s : Store) : JobKept jobId s s := fun _ _ h => h

/-- Keeping is transitive. -/
theorem JobKept.trans {t : Store} (h : JobKept jobId s t) (h' : JobKept jobId t s') :
    JobKept jobId s s' := fun state hterminal hstate =>
  h' state hterminal (h state hterminal hstate)

/-- No operation takes a job out of a terminal state. -/
theorem JobKept.effect {op : Op} (hset : JobsSettled s) (e : Effect now s op s') :
    JobKept jobId s s' := by
  intro state hterminal hstate
  obtain ⟨job, hjob, rfl⟩ := Option.map_eq_some_iff.1 hstate
  obtain ⟨job', hjob', -⟩ := e.jobChange hjob
  rw [hjob', Option.map_some, hset.terminal_stays e hjob hjob' hterminal]

/-- So a run keeps every terminal job. -/
theorem Settled.jobKept (h : Settled d jobId result s) {calls : List (Millis × RuntimeCall)}
    (hrun : RuntimeRun indexed s calls) :
    JobKept jobId s (Store.runtimeExec indexed s calls) :=
  (hrun.strengthen (fun _ _ hs hissued => hs.runtimeStep hissued) h).relates
    (fun _ => .refl _) (fun _ _ _ => .trans) fun _ _ hs =>
      .effect hs.1.jobsSettled (runtimeStep_effect indexed _ _)

end Rows

/-! ### Runs -/

/-- Other operations are issued as the runtime issues them, also between the transactions of a
delivery, and the results are well-formed ones of the execution. -/
def Event.Allowed (indexed : Bool) (deviceId : DeviceId) (jobId : JobId) (link : Link) :
    Event → Prop
  | .other call => call.2.Issued link.store
  | .owner _ => True
  | .result _ _ payload gaps =>
    FinalResult jobId payload ∧ (¬OpaqueFence link.store deviceId jobId →
      RuntimeRun indexed link.store (gaps.beforeAssignment ++ gaps.beforeSettle))

/-- The operations that commit before a delivery is answered. -/
noncomputable def committed (s : Store) (deviceId : DeviceId) (jobId : JobId) (gaps : Gaps) :
    List (Millis × RuntimeCall) :=
  open Classical in
  if OpaqueFence s deviceId jobId then [] else gaps.beforeAssignment ++ gaps.beforeSettle

/-- What a delivery does on a row that a result has settled. -/
structure Answered (indexed : Bool) (deviceId : DeviceId) (jobId : JobId)
    (result : Store.TerminalResult) (link next : Link) (session : Nat) (payload : Payload)
    (gaps : Gaps) : Prop where
  /-- A session that still owns the device gets one answer, which accepts what says the same and
  whatever lifts a fence, and refuses anything else for good. -/
  answer : gaps.owner = some session → ∃ accepted revision reason,
    next.sent = link.sent ++ [(session, .resultAck jobId accepted revision reason)] ∧
    (accepted = true ↔ OpaqueFence link.store deviceId jobId ∨ terminalResult payload = result) ∧
    (accepted = false →
      Frame.retryable (.resultAck jobId accepted revision reason) = some false)
  fence : OpaqueFence link.store deviceId jobId → next.store.fence? deviceId = none
  /-- The delivery itself changes no state of a job. -/
  jobState : (next.store.job? jobId).map JobRow.state =
    ((runtimeExec indexed link.store (committed link.store deviceId jobId gaps)).job? jobId).map
      JobRow.state

section Runs

variable {indexed : Bool} {d : DeviceId} {jobId : JobId} {result : Store.TerminalResult}
  {link : Link}

/-- A refusal is never retryable. -/
theorem retryable_refused (jobId : JobId) (revision : Option Nat) (reason : Option String) :
    Frame.retryable (.resultAck jobId false revision reason) = some false := rfl

/-- **One delivery.** -/
theorem Settled.delivered (h : Settled d jobId result link.store) {session : Nat} {now : Millis}
    {payload : Payload} {gaps : Gaps} (howner : link.owner = some session)
    (hallowed : Event.Allowed indexed d jobId link (.result session now payload gaps)) :
    Settled d jobId result (link.step indexed d (.result session now payload gaps)).store ∧
    JobKept jobId link.store (link.step indexed d (.result session now payload gaps)).store ∧
    Answered indexed d jobId result link (link.step indexed d (.result session now payload gaps))
      session payload gaps := by
  obtain ⟨hfinal, hgaps⟩ := hallowed
  rw [Link.step, if_neg (not_not.2 howner)]
  by_cases hfence : OpaqueFence link.store d jobId
  · obtain ⟨s', shown, hhandler, hlifted, e⟩ :=
      handleResultAmid_fenced indexed now hfinal gaps hfence
    rw [hhandler]
    dsimp only
    refine ⟨?_, ?_, fun hstill => ⟨true, revisionOf jobId shown, none, ?_, ?_,
      fun h => absurd h.symm Bool.false_ne_true⟩,
      fun _ => hlifted.gone, ?_⟩
    · obtain ⟨row, hrow, houtcome⟩ := h.row
      refine ⟨h.wellFormed.effect e, h.jobsSettled.effect e, row, ?_, houtcome⟩
      rw [device?, hlifted.rows]
      exact hrow
    · exact .effect h.jobsSettled e
    · rw [if_pos hstill]
      rfl
    · exact ⟨fun _ => .inl hfence, fun _ => rfl⟩
    · rw [committed, if_pos hfence]
      exact jobState_of_clear e
  · have hrun := hgaps hfence
    obtain ⟨handled, revision, reason, hhandler, hstore, hack⟩ :=
      handleResultAmid_settled now h hfinal gaps hfence hrun
    rw [hhandler]
    dsimp only
    refine ⟨?_, ?_, fun hstill => ⟨decide (terminalResult payload = result), revision, reason, ?_,
      ?_, ?_⟩, fun hcontra => absurd hcontra hfence, ?_⟩
    · rw [hstore]
      exact h.runtimeExec hrun
    · rw [hstore]
      exact h.jobKept hrun
    · rw [if_pos hstill, hack]
      rfl
    · rw [decide_eq_true_eq]
      exact ⟨.inr, fun hor => hor.resolve_left hfence⟩
    · intro hrefused
      rw [hrefused]
      exact retryable_refused _ _ _
    · rw [committed, if_neg hfence, hstore]

/-- A step of the link keeps the outcome of the row and the state of its job. -/
theorem Settled.step (h : Settled d jobId result link.store) {event : Event}
    (hallowed : event.Allowed indexed d jobId link) :
    Settled d jobId result (link.step indexed d event).store ∧
      JobKept jobId link.store (link.step indexed d event).store := by
  cases event with
  | other call =>
    exact ⟨h.runtimeStep hallowed, .effect h.jobsSettled (runtimeStep_effect indexed _ call)⟩
  | owner session => exact ⟨h, .refl _⟩
  | result session now payload gaps =>
    by_cases howner : link.owner = some session
    · obtain ⟨hsettled, hkept, -⟩ := h.delivered howner hallowed
      exact ⟨hsettled, hkept⟩
    · rw [Link.step, if_pos howner]
      exact ⟨h, .refl _⟩

end Runs

/-- A failure that names no code. -/
private def failedResult (jobId : JobId) : Payload where
  type := .pushFilesResult
  jobId := some jobId
  attempt := .one
  status := some "fail"

/-- The result of the example is well-formed. -/
private theorem failedResult_final (jobId : JobId) : FinalResult jobId (failedResult jobId) :=
  ⟨rfl, rfl, .inl rfl⟩

/-- The link after the result of a device whose row was in doubt. -/
private def settledLink : Link where
  store := (runtimeExec true initial dispatchedJob).runtimeStep true
    (90, .result "job-1" "quest-1" (terminalResult (failedResult "job-1")))
  owner := some 1
  sent := []

/-- A request for two devices. -/
private def pairRequest : CanonicalCreateRequest where
  clientRequestId := "request-1"
  targetDevices := ["quest-1", "quest-2"]
  mode := .push
  destPath := "/sdcard/files"
  source := ⟨"files", 1, 10⟩
  fingerprint := "request-1"
  targets_ne_nil := by simp
  targets_sorted := by decide

/-- The job is dispatched to the first of its devices. -/
private def pairRun : List (Millis × RuntimeCall) :=
  [(10, .createJob "job-1" pairRequest jobV1Protocols 1000), (20, .startUpload "job-1"),
   (30, .markPackaging "job-1" 1 10),
   (40, .publishArtifact "job-1" ⟨"artifact-1", "artifact-1.zip", "files.zip", 10, "00", 1⟩),
   (50, .pushFiles "job-1"), (60, .claim ["quest-1"]),
   (70, .prepare "job-1" "quest-1" .jobV1 [] (some 30070))]

/-- What the second device does after the first has failed. -/
private def secondDevice : List Event :=
  [.other (90, .claim ["quest-2"]),
   .other (100, .prepare "job-1" "quest-2" .jobV1 [] (some 30100)),
   .other (110, .result "job-1" "quest-2" (terminalResult (failedResult "job-1")))]

end StylyMdm.Runtime
