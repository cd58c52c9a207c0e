import StylyMdm.Runtime.Steady

/-!
# The coroutines keep the discipline

One lemma for each coroutine. Those that do not hold the lock revive nothing, except that a dispatch
is prepared, and a legacy command reported as sent, in a step that has just seen the session. The
handlers of messages run under the lock of a device that has a session, so they may revive its rows.

The proofs follow the programs: a bind is one application of the rule, a branch a case split, a call
of another coroutine its lemma. Where a proof has more to say, a comment says which of the contexts
the coroutine relies on. Nothing in them depends on what the store answers, since the discipline
speaks of the calls that are made and not of their results.

The two exceptions are `wp_afterSend` and the dispatch that follows `dispatchSession`: there the
session is read and the row is changed with no await between, which is what makes the call safe
without the lock.
-/

namespace StylyMdm.Runtime

open PushJobs Coop

section Coroutines

variable {cfg : Config} {i : Nat} {c : Context}

/-! ### Transitions and requests -/

/-- Failing a row revives nothing, so it may be done in any context. -/
theorem steady_failCurrent (jobId : JobId) (deviceId : DeviceId) (scope : FailScope)
    (code detail : String) : Steady cfg i c (failCurrent jobId deviceId scope code detail) := by
  unfold failCurrent
  refine (steady_call (.of_nil rfl)).bind fun result => ?_
  split
  all_goals exact steady_wake.bind fun _ => .pure _

/-- A command that could not be sent goes back to the queue; no row is revived. -/
theorem steady_requeueAfterSendRace (jobId : JobId) (deviceId : DeviceId) (detail : String) :
    Steady cfg i c (requeueAfterSendRace jobId deviceId detail) := by
  unfold requeueAfterSendRace
  refine (steady_call (.of_nil rfl)).bind fun result => ?_
  split
  · exact steady_wake.bind fun _ => .pure _
  · exact steady_wake.bind fun _ => .pure _
  · exact .pure _

/-- A busy device sends its row back to the queue; no row is revived. -/
theorem steady_busyRequeue (jobId : JobId) (deviceId : DeviceId) :
    Steady cfg i c (busyRequeue jobId deviceId) := by
  unfold busyRequeue
  refine (steady_call (.of_nil rfl)).bind fun result => ?_
  split <;> exact .pure _

/-- Of the responses to a command only an acceptance revives a row. -/
theorem steady_commandResponse (jobId : JobId) (deviceId : DeviceId) (outcome : CommandOutcome)
    (payload : Payload) : Steady cfg i c (commandResponse jobId deviceId outcome payload) := by
  unfold commandResponse
  refine steady_memory.bind fun m => ?_
  split
  · exact .pure _
  · split
    · exact .pure _
    · refine (steady_setMemory ?_).bind fun _ => .pure _
      exact fun _ => ⟨rfl, rfl⟩

/-- The answer of a legacy device that it is busy leaves its fence, and keeps the context. -/
theorem steady_handleBusyLegacy (jobId : JobId) (deviceId : DeviceId) (active : ActiveReport) :
    Steady cfg i c (handleBusyLegacy jobId deviceId active) := by
  unfold handleBusyLegacy
  split
  · exact .pure _
  · refine (steady_query _).bind fun row => ?_
    split
    · exact .pure _
    · split
      · exact .pure _
      · refine (steady_busyRequeue _ _).bind fun result => ?_
        split
        · exact .pure _
        · dsimp only
          split
          · exact steady_wake.bind fun _ => .pure _
          · exact .pure _

variable [c.Open]

/-- A request takes the lock, unless its caller has it. -/
theorem steady_sendExactReconcile (deviceId : DeviceId) (session : LiveSession) (jobId : JobId)
    (artifactId : Option String) (ownerLockHeld : Bool) (hc : ownerLockHeld = false → c = .free) :
    Steady cfg i c (sendExactReconcile i deviceId session jobId artifactId ownerLockHeld) := by
  unfold sendExactReconcile
  rcases ownerLockHeld with _ | _
  · obtain rfl := hc rfl
    simp only [Bool.not_false, if_true]
    refine (leads_acquire deviceId).bind fun _ => steady_memory.bind fun m => ?_
    split
    · refine (Leads.pure _).bind fun failure => ?_
      exact (leads_release deviceId).bind fun _ => .pure _
    · refine (steady_sendStr _ _ _).bind fun failure => ?_
      exact (leads_release deviceId).bind fun _ => .pure _
  · simp only [Bool.not_true, Bool.false_eq_true, if_false]
    refine steady_memory.bind fun m => ?_
    split
    · exact (Leads.pure _).bind fun failure => .pure _
    · exact (steady_sendStr _ _ _).bind fun failure => .pure _

/-- A request of one row reads the session once more before it is sent. -/
theorem steady_sendReconcile (deviceId : DeviceId) (session : LiveSession) (store : Store)
    (jobId : JobId) : Steady cfg i .free (sendReconcile i deviceId session store jobId) :=
  steady_sendExactReconcile _ _ _ _ false fun _ => rfl

/-- The requests for all reconciling rows, sent without the lock of the device. -/
theorem steady_requestReconcile (deviceId : DeviceId) :
    Steady cfg i .free (requestReconcile i deviceId) := by
  unfold requestReconcile
  refine steady_memory.bind fun m => ?_
  split
  · exact .pure _
  · refine (steady_query _).bind fun active => ?_
    split
    · refine (steady_query _).bind fun store => ?_
      refine (steady_sendReconcile _ _ _ _).bind fun failure => ?_
      split <;> exact .pure _
    · refine (steady_query _).bind fun fence => ?_
      split
      · refine (steady_sendExactReconcile _ _ _ _ false fun _ => rfl).bind fun failure => ?_
        split <;> exact .pure _
      · refine (steady_query _).bind fun target => ?_
        split
        · exact .pure _
        · refine (steady_sendExactReconcile _ _ _ _ false fun _ => rfl).bind fun failure => ?_
          split <;> exact .pure _

/-! ### Answers to a command -/

/-- With the lock of the owner held the report is handled in any context; without it the device is
asked again, which takes the free one. -/
theorem steady_handleBusyKnown (jobId : JobId) (deviceId : DeviceId) (active : ActiveReport)
    (ownerLockHeld : Bool) (hc : ownerLockHeld = false → c = .free) :
    Steady cfg i c (handleBusyKnown i jobId deviceId active ownerLockHeld) := by
  have hend : Steady cfg i c (wake >>= fun _ =>
      (pure (.ok (some false)) : Program (Except Raised (Option Bool)))) :=
    steady_wake.bind fun _ => .pure _
  unfold handleBusyKnown
  split
  · exact .pure _
  · split
    · exact .pure _
    · split
      · refine steady_nowMs.bind fun time => ?_
        refine (steady_call (.of_acceptance rfl rfl)).bind fun result => ?_
        split <;> exact .pure _
      · refine (steady_query _).bind fun assignment => ?_
        split
        · exact .pure _
        · refine (steady_query _).bind fun fence => ?_
          dsimp only
          split
          · refine (steady_busyRequeue _ _).bind fun requeued => ?_
            split
            · exact .pure _
            · exact .pure _
            · refine steady_memory.bind fun m => ?_
              split
              · split
                · refine (steady_sendExactReconcile _ _ _ _ _ hc).bind fun failure => ?_
                  split
                  · exact .pure _
                  · exact hend
                · refine (Leads.pure _).bind fun failure => ?_
                  split
                  · exact .pure _
                  · exact hend
              · refine (Leads.pure _).bind fun failure => ?_
                split
                · exact .pure _
                · exact hend
          · exact .pure _

/-- A busy answer, of a legacy device or with the identity it is busy with. -/
theorem steady_handleBusy (jobId : JobId) (deviceId : DeviceId) (payload : Payload)
    (ownerLockHeld : Bool) (hc : ownerLockHeld = false → c = .free) :
    Steady cfg i c (handleBusy i jobId deviceId payload ownerLockHeld) := by
  unfold handleBusy
  refine (steady_handleBusyLegacy _ _ _).bind fun legacy => ?_
  split
  · exact .pure _
  · exact .pure _
  · refine (steady_handleBusyKnown _ _ _ _ hc).bind fun known => ?_
    split
    · exact .pure _
    · exact .pure _
    · refine steady_memory.bind fun m => (steady_call (.of_nil rfl)).bind fun fenced => ?_
      split
      · exact .pure _
      · refine (steady_failCurrent _ _ _ _ _).bind fun failed => ?_
        split <;> exact .pure _

/-- A response that no coroutine awaits any more. -/
theorem steady_handleLateCommandResponse (jobId : JobId) (deviceId : DeviceId)
    (outcome : CommandOutcome) (payload : Payload) :
    Steady cfg i c (handleLateCommandResponse i jobId deviceId outcome payload) := by
  unfold handleLateCommandResponse
  refine (steady_query _).bind fun assignment => ?_
  split
  · exact .pure _
  · split
    · exact .pure _
    · split
      · refine (steady_query _).bind fun _ => ?_
        refine (steady_handleBusy _ _ _ true (by simp)).bind fun keep => ?_
        split
        · exact .pure _
        · dsimp only
          split
          · exact (steady_releaseExact _ _ _).bind fun _ => .pure _
          · exact .pure _
      · exact (steady_releaseExact _ _ _).bind fun _ => steady_failCurrent _ _ _ _ _

/-- The wait for the acceptance ends with a response, a disconnect or the deadline; what follows is
steady in each case. -/
theorem steady_awaitAcceptance (deviceId : DeviceId) (session : LiveSession) (jobId : JobId)
    (acceptFuture : Nat) (acceptDeadline : Millis) :
    Steady cfg i .free
      (awaitAcceptance cfg i deviceId session jobId acceptFuture acceptDeadline) := by
  unfold awaitAcceptance
  refine (steady_waitAccept _).bind fun answer => ?_
  split
  · refine (steady_setMemory ?_).bind fun _ => steady_nowMs.bind fun time => ?_
    · exact fun _ => ⟨rfl, rfl⟩
    refine (steady_call (.of_nil rfl)).bind fun result => ?_
    split
    · exact .pure _
    · exact .pure _
    · refine (steady_sendReconcile _ _ _ _).bind fun failure => ?_
      split
      · exact .pure _
      · split <;> exact .pure _
  · refine steady_nowMs.bind fun time => ?_
    refine (steady_call (.of_acceptance rfl rfl)).bind fun result => ?_
    split <;> exact .pure _
  · refine (steady_handleBusy _ _ _ false fun _ => rfl).bind fun keep => ?_
    split
    · exact .pure _
    · exact .pure _
    · exact (steady_releaseExact _ _ _).bind fun _ => .pure _
  · refine (steady_releaseExact _ _ _).bind fun _ => ?_
    refine (steady_failCurrent _ _ _ _ _).bind fun failed => ?_
    split <;> exact .pure _

/-! ### Dispatching -/

/-- The wait for the transfer, and what a timeout does. -/
theorem steady_awaitTransfer (jobId : JobId) (deviceId : DeviceId) (transferFuture : Nat) :
    Steady cfg i .free (awaitTransfer cfg i jobId deviceId transferFuture) := by
  unfold awaitTransfer
  refine (steady_waitTransfer _).bind fun answer => ?_
  split
  · exact .pure _
  · refine (steady_setMemory ?_).bind fun _ => (steady_query _).bind fun active => ?_
    · exact fun _ => ⟨rfl, rfl⟩
    split
    · exact .pure _
    · split
      · exact .pure _
      · refine steady_nowMs.bind fun time => (steady_call (.of_nil rfl)).bind fun result => ?_
        split
        · exact .pure _
        · exact .pure _
        · refine steady_memory.bind fun m => ?_
          split
          · exact .pure _
          · refine (steady_sendReconcile _ _ _ _).bind fun failure => ?_
            split
            · exact .pure _
            · split <;> exact .pure _

/-- The rest of a dispatch starts in the step in which the lock is given back, so the device still
has the session that was there under the lock. -/
theorem wp_afterSend {jobId : JobId} {deviceId : DeviceId} {session : LiveSession}
    {waiter : DispatchWaiter} {acceptDeadline : Millis} {s : Server}
    (hs : Context.free.Holds s) (hsession : s.memory.sessions deviceId ≠ none) :
    wp (system cfg) custody i (afterSend cfg i jobId deviceId session waiter acceptDeadline)
      (fun _ s' g => g = none ∧ Context.free.Holds s') s none := by
  have hclear : ∀ ended : Except Raised Unit, Steady cfg i .free
      (clearDispatchWaiters waiter >>= fun _ => pure ended) :=
    fun ended => (steady_clearDispatchWaiters _).bind fun _ => .pure _
  have htransfer : Steady cfg i .free
      (awaitTransfer cfg i jobId deviceId waiter.transferFuture >>= fun ended =>
        clearDispatchWaiters waiter >>= fun _ => pure ended) :=
    (steady_awaitTransfer _ _ _).bind hclear
  unfold afterSend
  split
  · refine wp_nowMs (wp_then (c := .free) (e := .free) (wp_issue hs ?_) fun result => ?_)
    · intro d hd
      obtain rfl : d = deviceId := List.mem_singleton.mp hd
      exact .inl hsession
    · split
      all_goals
        refine (Leads.pure _).bind fun goesOn => ?_
        dsimp only
        split
        · exact hclear _
        · exact hclear _
        · exact htransfer
  · dsimp only
    refine wp_then (c := .free) (e := .free) (steady_awaitAcceptance _ _ _ _ _ s hs)
      fun goesOn => ?_
    split
    · exact hclear _
    · exact hclear _
    · exact htransfer

/-- A device that a command may be sent to has a session. -/
theorem Memory.session_of_dispatchSession {m : Memory} {deviceId : DeviceId} {session : LiveSession}
    (h : m.dispatchSession deviceId = some session) : m.sessions deviceId ≠ none := by
  rw [Memory.dispatchSession, Option.filter_eq_some_iff] at h
  rw [h.1]
  exact Option.some_ne_none _

/-- Sending the command, then awaiting its acceptance and its transfer. -/
theorem steady_sendCommand (jobId : JobId) (deviceId : DeviceId) (session : LiveSession)
    (waiter : DispatchWaiter) (acceptDeadline : Millis) (command : ExecuteCommand) :
    Steady cfg i .free
      (sendCommand cfg i jobId deviceId session waiter acceptDeadline command) := by
  unfold sendCommand
  refine (leads_acquire deviceId).bind fun _ s hs => wp_memory ?_
  split
  · refine ((leads_release deviceId).bind fun _ => ?_) s hs
    exact (steady_releaseExact _ _ _).bind fun _ =>
      (steady_clearDispatchWaiters _).bind fun _ => steady_requeueAfterSendRace _ _ _
  · rename_i hsession
    have hserved : (Context.served deviceId).Holds s :=
      Context.holds_served hs.sound
        (Memory.session_of_dispatchSession (not_not.mp hsession))
    rw [wp_bind]
    refine wp_mono (steady_sendStr (c := .served deviceId) _ _ _ s hserved) ?_
    intro answer s' g hpost
    obtain ⟨rfl, hs'⟩ := hpost
    split
    · refine (((leads_release deviceId).of_locked).bind fun _ => ?_) s' hs'
      exact (steady_releaseExact _ _ _).bind fun _ =>
        (steady_clearDispatchWaiters _).bind fun _ => steady_failCurrent _ _ _ _ _
    · rw [wp_bind]
      refine wp_release (fun h => absurd h (by decide)) fun s'' hstore hsessions => ?_
      refine wp_afterSend (Context.holds_free (by rw [hstore]; exact hs'.sound)) ?_
      rw [hsessions]
      exact hs'.session deviceId rfl

/-- Registering the waiters changes neither the store nor the sessions. -/
theorem wp_registerWaiters {jobId : JobId} {deviceId : DeviceId} {protocol : ProtocolMode}
    {s : Server} {g : Stage} {Q : Option (Nat × Option Nat) → Server → Stage → Prop}
    (hQ : ∀ waiters s', Custody.Quiet s s' → Q waiters s' g) :
    wp (system cfg) custody i (registerWaiters i jobId deviceId protocol) Q s g := by
  unfold registerWaiters
  refine wp_memory ?_
  dsimp only
  split
  · exact hQ _ s (.refl s)
  · rw [wp_bind]
    have hquiet : ∀ f : Memory → Memory, (f s.memory).sessions = s.memory.sessions →
        (f s.memory).deviceLocks = s.memory.deviceLocks → Custody.Quiet s (s.withMemory f) :=
      fun f hsessions hlocks => ⟨List.prefix_refl _, rfl, hsessions, hlocks⟩
    exact wp_quiet (hquiet _ rfl rfl) (hQ _ _ (hquiet _ rfl rfl))

/-- The body of `_dispatch_assignment`. -/
theorem steady_dispatchAssignmentInner (jobId : JobId) (deviceId : DeviceId) :
    Steady cfg i .free (dispatchAssignmentInner cfg i jobId deviceId) := by
  unfold dispatchAssignmentInner
  refine Leads.bind (.await fun _ => .pure _) fun _ s hs => wp_memory ?_
  split
  · exact steady_failCurrent _ _ _ _ _ s hs
  · rename_i session hsession
    split
    · exact steady_failCurrent _ _ _ _ _ s hs
    · rw [wp_bind]
      refine wp_registerWaiters fun waiters s' hquiet => ?_
      split
      · exact ⟨rfl, hs.quiet hquiet⟩
      · refine wp_nowMs ?_
        -- `prepare_dispatch` is issued in the step that has seen the session
        refine wp_then (c := .free) (e := .free) (wp_issue (hs.quiet hquiet) ?_) fun result => ?_
        · intro d hd
          obtain rfl : d = deviceId := List.mem_singleton.mp hd
          rw [hquiet.sessions]
          exact .inl (Memory.session_of_dispatchSession hsession)
        · split
          · exact (steady_clearDispatchWaiters _).bind fun _ => .pure _
          · split
            · exact .pure _
            · exact steady_sendCommand _ _ _ _ _ _

/-! ### Recovery -/

/-- A row that was being reconciled is asked for again. -/
theorem steady_recoverReconcile (jobId : JobId) (deviceId : DeviceId) (row : DeviceRow)
    (store : Store) : Steady cfg i .free (recoverReconcile i jobId deviceId row store) := by
  unfold recoverReconcile
  refine steady_memory.bind fun m => ?_
  split
  · exact .pure _
  · split
    · exact .pure _
    · refine (steady_sendReconcile _ _ _ _).bind fun failure => ?_
      split <;> exact .pure _

/-- One round of the recovery of a dispatch that has failed. -/
theorem steady_recoverRound (jobId : JobId) (deviceId : DeviceId) (error : String) :
    Steady cfg i .free (recoverRound cfg i jobId deviceId error) := by
  unfold recoverRound
  refine (steady_query _).bind fun assignment => ?_
  split
  · exact .pure _
  · split
    · refine (steady_call (.of_nil rfl)).bind fun result => ?_
      split <;> exact .pure _
    · refine steady_nowMs.bind fun time => (steady_call (.of_nil rfl)).bind fun result => ?_
      split
      · exact steady_recoverReconcile _ _ _ _
      · exact .pure _
    · refine steady_nowMs.bind fun time => (steady_call (.of_nil rfl)).bind fun result => ?_
      split
      · exact steady_recoverReconcile _ _ _ _
      · exact .pure _
    · refine steady_nowMs.bind fun time => (steady_call (.of_nil rfl)).bind fun result => ?_
      split
      · exact steady_recoverReconcile _ _ _ _
      · exact .pure _
    · refine steady_nowMs.bind fun time => (steady_call (.of_nil rfl)).bind fun result => ?_
      split
      · exact steady_recoverReconcile _ _ _ _
      · exact .pure _
    · exact (steady_query _).bind fun store => steady_recoverReconcile _ _ _ _
    · exact .pure _

end Coroutines
end StylyMdm.Runtime

namespace StylyMdm.Runtime.PushRuntime

open PushJobs Coop

section Handlers

variable {cfg : Config} {i : Nat} {c : Context} [c.Open] {d : DeviceId}

/-- The device that served the message has a session, so its row may be revived. -/
theorem steady_handleTransferComplete (payload : Payload) :
    Steady cfg i (.served d) (handleTransferComplete d payload) := by
  unfold handleTransferComplete
  split
  · exact .pure _
  · split
    · exact .pure _
    · refine (steady_query _).bind fun snapshot => ?_
      split
      · exact .pure _
      · exact .pure _
      · split
        · split
          · exact .pure _
          · refine steady_nowMs.bind fun time => ?_
            refine (steady_call (.served (List.Subset.refl _))).bind fun result => ?_
            split
            · exact (steady_releaseExact _ _ _).bind fun _ => .pure _
            · exact .pure _
            · exact .pure _
        · exact .pure _

/-- So may it by the completed validation. -/
theorem steady_handleValidationComplete (payload : Payload) :
    Steady cfg i (.served d) (handleValidationComplete d payload) := by
  unfold handleValidationComplete
  split
  · exact .pure _
  · split
    · exact .pure _
    · refine (steady_query _).bind fun snapshot => ?_
      split
      · exact .pure _
      · exact .pure _
      · refine (steady_query _).bind fun assignment => ?_
        split
        · split
          · exact .pure _
          · refine steady_nowMs.bind fun time => ?_
            refine (steady_call (.served (List.Subset.refl _))).bind fun result => ?_
            split <;> exact .pure _
        · exact .pure _

/-- And by a phase. -/
theorem steady_handlePhase (payload : Payload) :
    Steady cfg i (.served d) (handlePhase d payload) := by
  unfold handlePhase
  split
  · exact .pure _
  · split
    · exact .pure _
    · refine steady_nowMs.bind fun time => ?_
      refine (steady_call (.served (List.Subset.refl _))).bind fun result => ?_
      split <;> exact .pure _

/-- An acknowledgement is written without a change of the store. -/
theorem steady_sendResultAck (session : LiveSession) (jobId : JobId) (accepted : Bool)
    (revision : Option Nat) (reason : Option String) :
    Steady cfg i c (sendResultAck d session jobId accepted revision reason) := by
  unfold sendResultAck
  refine steady_memory.bind fun m => ?_
  split
  · exact .pure _
  · refine (steady_sendStr _ _ _).bind fun failure => ?_
    split
    · exact .pure _
    · split <;> exact .pure _

/-- So is the acknowledgement with the revision of the row. -/
theorem steady_acknowledgeResult (session : LiveSession) (jobId : JobId) (accepted : Bool)
    (revision : Option Nat) (reason : Option String) :
    Steady cfg i c (acknowledgeResult d session jobId accepted revision reason) := by
  unfold acknowledgeResult
  refine (steady_sendResultAck _ _ _ _ _).bind fun result => ?_
  split
  · exact .pure _
  · dsimp only
    split
    · exact steady_wake.bind fun _ => .pure _
    · exact .pure _

/-- The result of a job that is no longer known is refused. -/
theorem steady_handleLateResult (session : LiveSession) (jobId : JobId) :
    Steady cfg i c (handleLateResult d session jobId) := by
  unfold handleLateResult
  refine (steady_issue (.of_nil rfl) _).bind fun result => ?_
  split
  · exact .pure _
  · dsimp only
    split
    · exact (steady_releaseExact _ _ _).bind fun _ => steady_acknowledgeResult _ _ _ _ _
    · exact steady_acknowledgeResult _ _ _ _ _

/-- The result of a row that has already ended is compared, and nothing is revived. -/
theorem steady_handleSettledResult (session : LiveSession) (jobId : JobId) (payload : Payload) :
    Steady cfg i c (handleSettledResult d session jobId payload) := by
  unfold handleSettledResult
  refine (steady_issue (.of_nil rfl) _).bind fun result => ?_
  split
  · exact .pure _
  · dsimp only
    split
    · refine (steady_issue (.of_nil rfl) _).bind fun late => ?_
      split
      · exact .pure _
      · split
        · exact (steady_releaseExact _ _ _).bind fun _ => steady_acknowledgeResult _ _ _ _ _
        · exact steady_acknowledgeResult _ _ _ _ _
    · split
      · exact (steady_releaseExact _ _ _).bind fun _ => steady_acknowledgeResult _ _ _ _ _
      · exact steady_acknowledgeResult _ _ _ _ _

/-- `_handle_result`, of every row and payload. -/
theorem steady_handleResult (session : LiveSession) (payload : Payload) :
    Steady cfg i c (handleResult d session payload) := by
  unfold handleResult
  split
  · exact .pure _
  · split
    · exact steady_sendResultAck _ _ _ _ _
    · split
      · exact steady_sendResultAck _ _ _ _ _
      · refine (steady_issue (.of_nil rfl) _).bind fun result => ?_
        split
        · exact .pure _
        · exact steady_acknowledgeResult _ _ _ _ _
        · refine (steady_query _).bind fun assignment => ?_
          split
          · exact steady_sendResultAck _ _ _ _ _
          · split
            · exact steady_sendResultAck _ _ _ _ _
            · split
              · exact steady_handleLateResult _ _
              · exact steady_handleSettledResult _ _ _

/-- A report about a reconciling row, of any status. -/
theorem steady_handleReconciling (jobId : JobId) (status : Store.ReportStatus) (payload : Payload) :
    Steady cfg i (.served d) (handleReconciling d jobId status payload) := by
  unfold handleReconciling
  refine (steady_call ?_).bind fun result => ?_
  · cases status
    · exact .served (List.Subset.refl _)
    all_goals exact .of_nil rfl
  split
  · exact .pure _
  · exact .pure _
  · exact .pure _
  · split
    · exact (steady_releaseExact _ _ _).bind fun _ => steady_wake.bind fun _ => .pure _
    · exact (steady_releaseExact _ _ _).bind fun _ => steady_wake.bind fun _ => .pure _
    · split
      · exact (steady_releaseExact _ _ _).bind fun _ => steady_wake.bind fun _ => .pure _
      · exact steady_wake.bind fun _ => .pure _
    · exact steady_wake.bind fun _ => .pure _

/-- `_handle_reconcile_report`. -/
theorem steady_handleReconcileReport (payload : Payload) :
    Steady cfg i (.served d) (handleReconcileReport d payload) := by
  unfold handleReconcileReport
  split
  · split
    · exact .pure _
    · dsimp only
      refine (steady_query _).bind fun assignment => ?_
      split
      · split
        · exact .pure _
        · refine (steady_call (.of_nil rfl)).bind fun result => ?_
          split
          · exact .pure _
          · split
            · exact steady_wake.bind fun _ => .pure _
            · exact .pure _
      · split
        · refine (steady_issue (.of_nil rfl) _).bind fun result => ?_
          split
          · exact .pure _
          · split
            · exact steady_wake.bind fun _ => .pure _
            · exact .pure _
        · split
          · exact .pure _
          · exact steady_handleReconciling _ _ _
  · exact .pure _

/-- An acceptance, in time or late. -/
theorem steady_handleAccepted (jobId : JobId) (payload : Payload) :
    Steady cfg i (.served d) (handleAccepted d jobId payload) := by
  unfold handleAccepted
  split
  · exact .pure _
  · refine (steady_commandResponse _ _ _ _).bind fun delivered => ?_
    split
    · exact .pure _
    · refine (steady_query _).bind fun assignment => ?_
      split
      · exact .pure _
      · split
        · exact .pure _
        · refine (steady_call (.served (List.Subset.refl _))).bind fun result => ?_
          split
          · exact .pure _
          · exact .pure _
          · exact .pure _
          · split
            · exact (steady_releaseExact _ _ _).bind fun _ => .pure _
            · exact .pure _

/-- A rejection ends the row or sends it back to the queue. -/
theorem steady_handleRejected (jobId : JobId) (payload : Payload) :
    Steady cfg i c (handleRejected i d jobId payload) := by
  unfold handleRejected
  split
  · exact .pure _
  · refine (steady_commandResponse _ _ _ _).bind fun delivered => ?_
    split
    · exact .pure _
    · exact steady_handleLateCommandResponse _ _ _ _

/-- The messages of a job_v1 device. -/
theorem steady_handleOwnedJobV1Message (session : LiveSession) (payload : Payload) :
    Steady cfg i (.served d) (handleOwnedJobV1Message i session d payload) := by
  unfold handleOwnedJobV1Message
  split
  · exact steady_handleAccepted _ _
  · exact steady_handleRejected _ _
  · exact steady_handleTransferComplete _
  · exact steady_handleValidationComplete _
  · exact steady_handlePhase _
  · exact steady_handleResult _ _
  · exact steady_handleReconcileReport _
  · exact .pure _

/-- The messages of a legacy device. -/
theorem steady_handleOwnedLegacyMessage (session : LiveSession) (payload : Payload) :
    Steady cfg i (.served d) (handleOwnedLegacyMessage session d payload) := by
  unfold handleOwnedLegacyMessage
  refine (steady_query _).bind fun active => ?_
  split
  · exact .pure _
  · split
    · exact .pure _
    · split
      · refine (steady_releaseExact _ _ _).bind fun _ => steady_nowMs.bind fun time => ?_
        refine (steady_call (.served (List.Subset.refl _))).bind fun result => ?_
        split <;> exact .pure _
      · exact steady_handleResult _ _

/-- A message is handled under the lock, and only for the WebSocket that has the session. -/
theorem steady_handleDeviceMessage (payload : Payload) :
    Steady cfg i .free (handleDeviceMessage i d payload) := by
  have hend : ∀ result : Except Raised Unit, Leads cfg i (.locked d) (do
      release d
      return result) .free :=
    fun result => (leads_release d).bind fun _ => .pure _
  unfold handleDeviceMessage
  split
  · exact .pure _
  · refine (leads_acquire d).bind fun _ s hs => wp_memory ?_
    dsimp only
    split
    · exact (Leads.bind (e := .locked d) (.pure _) fun result => hend result) s hs
    · rename_i session hsession
      have hserved : (Context.served d).Holds s :=
        Context.holds_served hs.sound (by rw [hsession]; exact Option.some_ne_none _)
      split
      · exact (Leads.bind (e := .locked d) (.pure _) fun result => hend result) s hs
      · split
        · exact ((steady_handleOwnedJobV1Message _ _).bind fun result => (hend result).of_locked)
            s hserved
        · exact ((steady_handleOwnedLegacyMessage _ _).bind fun result => (hend result).of_locked)
            s hserved

end Handlers

end StylyMdm.Runtime.PushRuntime
