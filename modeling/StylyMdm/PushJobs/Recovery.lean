import StylyMdm.PushJobs.Fifo

/-!
# Crash recovery

What `recover_startup_sync` makes of any store a crash can leave behind. It always succeeds, and
the store it commits is safe: nothing is uploading or in flight, every row in doubt is reconciling
with a deadline, every dispatched job is paused, nothing can be claimed until an operator opens the
gate again, and an `absent` report cannot put a row back into the queue.

One thing depends on the history. The reason a row gets is chosen by its state in the first
restart, and by `accepted_at` in the next one. The two agree when the rows that a device has
accepted are exactly those with `accepted_at` set; `AcceptanceRecorded` says so.

The recovery is a map over all rows and jobs (`recovered`), so what it makes of one row is said by
one function (`recoverRow`, `RestartRow`), and what it makes of a job by that function and the
derivation. A second recovery finds no row in flight any more. It changes nothing but times and
revisions exactly when `AcceptanceRecorded` holds before the first one
(`quietRestart_recovered_iff`), and the last part of `crash_recovery` follows from this.
-/

namespace StylyMdm.PushJobs

namespace Store

/-! ### The recovered store -/

section Closed

variable {s : Store} {k : JobId} (timestamp : Millis)

theorem rederiveJob_isOk {job : JobRow} (hjob : s.job? k = some job) (hrows : s.jobRows k ≠ []) :
    ∃ s', s.rederiveJob k timestamp = .ok s' := by
  have hstates : (s.jobRows k).map DeviceRow.state ≠ [] := by simpa using hrows
  obtain ⟨derived, hderived⟩ := deriveDispatchedJobState_isSome hstates
  simp only [rederiveJob, hjob, hderived]
  split
  · exact ⟨_, rfl⟩
  · split <;> exact ⟨_, rfl⟩

theorem snapshot_isOk {job : JobRow} (hjob : s.job? k = some job) :
    s.snapshot k = .ok (s.jobSnapshot job) := by
  rw [snapshot, hjob]

/-- The closing lines of a row transaction succeed on a job with rows. -/
theorem touchJob_isOk {job : JobRow} (hjob : s.job? k = some job) (hrows : s.jobRows k ≠ []) :
    ∃ shown, s.touchJob k timestamp = .ok (s.touched k timestamp, shown) := by
  have hbumped : (s.incrementRevision k timestamp).job? k = some (bumpedJob timestamp job) := by
    rw [incrementRevision, job?_updateJob_self, hjob]
    rfl
  obtain ⟨t, ht⟩ := rederiveJob_isOk timestamp hbumped hrows
  obtain rfl := rederiveJob_incrementRevision_eq ht
  have htouched : (s.touched k timestamp).job? k = some (s.touchedJob timestamp job) := by
    rw [touched, job?_updateJob_self, hjob]
    rfl
  refine ⟨(s.touched k timestamp).jobSnapshot (s.touchedJob timestamp job), ?_⟩
  rw [touchJob, ht]
  simp only [bind, Except.bind, pure, Except.pure, snapshot_isOk htouched]

/-- The loop of `recover_startup_sync` over the touched jobs succeeds. -/
theorem rederiveJobs_isOk {ids : List JobId}
    (h : ∀ k ∈ ids, (∃ job, s.job? k = some job) ∧ s.jobRows k ≠ []) :
    ∃ s', s.rederiveJobs ids timestamp = .ok s' := by
  induction ids generalizing s with
  | nil => exact ⟨s, rfl⟩
  | cons k ids ih =>
    obtain ⟨⟨job, hjob⟩, hrows⟩ := h k List.mem_cons_self
    obtain ⟨t, ht⟩ := rederiveJob_isOk timestamp hjob hrows
    have hteq := rederiveJob_eq ht
    have hrest : ∀ k' ∈ ids, (∃ job, t.job? k' = some job) ∧ t.jobRows k' ≠ [] := by
      intro k' hk'
      obtain ⟨⟨job', hjob'⟩, hrows'⟩ := h k' (List.mem_cons_of_mem _ hk')
      rw [hteq]
      exact ⟨⟨_, by rw [job?_updateJob, hjob']; rfl⟩, hrows'⟩
    obtain ⟨s', hs'⟩ := ih hrest
    refine ⟨s', ?_⟩
    rw [rederiveJobs, List.foldlM_cons, ht]
    exact hs'

theorem snapshots_isOk {ids : List JobId} (h : ∀ k ∈ ids, ∃ job, s.job? k = some job) :
    ∃ shown, s.snapshots ids = .ok shown := by
  induction ids with
  | nil => exact ⟨[], rfl⟩
  | cons k ids ih =>
    obtain ⟨job, hjob⟩ := h k List.mem_cons_self
    obtain ⟨shown, hshown⟩ := ih fun k' hk' => h k' (List.mem_cons_of_mem _ hk')
    refine ⟨s.jobSnapshot job :: shown, ?_⟩
    rw [snapshots] at hshown ⊢
    rw [List.mapM_cons, snapshot_isOk hjob, hshown]
    rfl

end Closed

/-- The store `recover_startup_sync` commits. -/
def recovered (s : Store) (now : Millis) (acceptTimeout timeout : Nat) : Store :=
  (s.recoverRows now acceptTimeout timeout).updateJobs (s.recoveryTouched now acceptTimeout timeout)
    ((s.recoverRows now acceptTimeout timeout).rederived now)
    ((s.recoverRows now acceptTimeout timeout).rederived_jobId now)

section Recovered

variable {s : Store} {now : Millis} {acceptTimeout timeout : Nat} {k : JobId} {d : DeviceId}
  {job job' : JobRow} {row row' : DeviceRow}

theorem device?_recovered :
    (s.recovered now acceptTimeout timeout).device? k d =
      (s.device? k d).map fun row => (recoverRow now acceptTimeout timeout row).getD row :=
  device?_recoverRows

theorem recovered_effect : Effect now s (.recoverStartupSync acceptTimeout timeout)
    (s.recovered now acceptTimeout timeout) := .recover rfl

/-- **Recovery succeeds** on every well-formed store. -/
theorem recoverStartupSync_isOk (hwf : WellFormed s) (now : Millis) (acceptTimeout timeout : Nat) :
    ∃ shown cleanup, s.recoverStartupSync now acceptTimeout timeout =
      .ok (s.recovered now acceptTimeout timeout, shown, cleanup) := by
  -- a touched job exists, and so do its rows
  have htouched : ∀ k ∈ s.recoveryTouched now acceptTimeout timeout,
      (∃ job, (s.recoverRows now acceptTimeout timeout).job? k = some job) ∧
        (s.recoverRows now acceptTimeout timeout).jobRows k ≠ [] := by
    intro k hk
    have hjob : ∃ job, s.job? k = some job := by
      rcases mem_recoveryTouched.mp hk with ⟨job, hjob, -⟩ | ⟨d, row, hrow, -⟩
      · exact ⟨job, hjob⟩
      · exact hwf.jobOfRow hrow
    obtain ⟨job, hjob⟩ := hjob
    obtain ⟨d, row, hrow⟩ := hwf.rowOfJob hjob
    obtain ⟨rfl, rfl⟩ := key_of_device? hrow
    refine ⟨⟨_, by rw [job?_recoverRows, hjob]; rfl⟩, ?_⟩
    rw [jobRows_recoverRows, Ne, List.map_eq_nil_iff]
    exact List.ne_nil_of_mem (mem_jobRows.mpr hrow)
  obtain ⟨t, ht⟩ := rederiveJobs_isOk now htouched
  have hteq : t = s.recovered now acceptTimeout timeout := rederiveJobs_eq (List.nodup_dedup _) ht
  have hshown : ∀ k ∈ (s.recoveryTouched now acceptTimeout timeout).insertionSort (· ≤ ·),
      ∃ job, t.job? k = some job := by
    intro k hk
    obtain ⟨⟨job, hjob⟩, -⟩ := htouched k ((List.mem_insertionSort _).mp hk)
    rw [hteq, recovered, job?_updateJobs, hjob]
    exact ⟨_, rfl⟩
  obtain ⟨shown, hs⟩ := snapshots_isOk hshown
  rw [recoverStartupSync]
  simp only [ht, hs, bind, Except.bind, pure, Except.pure]
  exact ⟨_, _, by rw [hteq]⟩

/-- The job rows of the recovered store: a job that nothing was done to, or a rederived one. -/
theorem recovered_job_cases (now : Millis) (acceptTimeout timeout : Nat)
    (hjob : s.job? k = some job) :
    (s.recovered now acceptTimeout timeout).job? k = some job ∧ recoverJob now job = none ∨
      (s.recovered now acceptTimeout timeout).job? k = some
        ((s.recovered now acceptTimeout timeout).rederived now
          ((recoverJob now job).getD job)) := by
  have ht : (s.recoverRows now acceptTimeout timeout).job? k =
      some ((recoverJob now job).getD job) := by
    rw [job?_recoverRows, hjob]
    rfl
  by_cases h : k ∈ s.recoveryTouched now acceptTimeout timeout
  · refine .inr ?_
    rw [recovered, job?_updateJobs_of_mem ht h]
    rfl
  · have hnone : recoverJob now job = none := by
      by_contra hsome
      exact h (mem_recoveryTouched.mpr
        (.inl ⟨job, hjob, Option.isSome_iff_ne_none.mpr hsome⟩))
    refine .inl ⟨?_, hnone⟩
    rw [recovered, job?_updateJobs_of_notMem h, ht, hnone]
    rfl

/-- A job of the recovered store comes from one of the old store. -/
theorem job_of_recovered (hjob' : (s.recovered now acceptTimeout timeout).job? k = some job') :
    ∃ job, s.job? k = some job ∧ (job' = job ∧ recoverJob now job = none ∨
      job' = (s.recovered now acceptTimeout timeout).rederived now
        ((recoverJob now job).getD job)) := by
  rcases hjob : s.job? k with _ | job
  · obtain ⟨_, _, _, hop, -⟩ := recovered_effect.job_of_new hjob hjob'
    exact absurd hop (by simp)
  · refine ⟨job, rfl, ?_⟩
    rcases recovered_job_cases now acceptTimeout timeout hjob with
      ⟨h, hnone⟩ | h
    · rw [hjob', Option.some.injEq] at h
      exact .inl ⟨h, hnone⟩
    · rw [hjob', Option.some.injEq] at h
      exact .inr h

theorem row_of_recovered
    (hrow' : (s.recovered now acceptTimeout timeout).device? k d = some row') :
    ∃ row, s.device? k d = some row ∧
      row' = (recoverRow now acceptTimeout timeout row).getD row := by
  rw [device?_recovered, Option.map_eq_some_iff] at hrow'
  obtain ⟨row, hrow, rfl⟩ := hrow'
  exact ⟨row, hrow, rfl⟩

end Recovered

/-! ### Rows and jobs after a restart -/

/-- What a restart leaves of a row: queued, terminal, or in doubt with a deadline and one of the
two restart reasons. -/
inductive RestartRow (row : DeviceRow) : Prop
  | queued (hstate : row.state = .queued)
  | terminal (hstate : row.state.isTerminal)
  | doubtful (hstate : row.state = .reconciling) (hdeadline : row.reconciliationDeadline ≠ none)
      (haccept : row.acceptDeadline = none)
      (hreason : row.reconciliationReason = some "server_restart_before_accept" ∨
        row.reconciliationReason = some "server_restart_after_accept")

theorem restartRow_recoverRow (now : Millis) (acceptTimeout timeout : Nat) (row : DeviceRow) :
    RestartRow ((recoverRow now acceptTimeout timeout row).getD row) := by
  rcases hstate : row.state
  case queued => exact .queued (by simp [recoverRow, hstate])
  case waitingTransfer => exact .queued (by simp [recoverRow, hstate])
  case reconciling =>
    by_cases haccepted : row.acceptedAt.isNone
    · exact .doubtful (by simp [recoverRow, hstate, haccepted, restartReconciling])
        (by simp [recoverRow, hstate, haccepted, restartReconciling])
        (by simp [recoverRow, hstate, haccepted, restartReconciling])
        (.inl (by simp [recoverRow, hstate, haccepted, restartReconciling]))
    · exact .doubtful (by simp [recoverRow, hstate, haccepted, restartReconciling])
        (by simp [recoverRow, hstate, haccepted, restartReconciling])
        (by simp [recoverRow, hstate, haccepted, restartReconciling])
        (.inr (by simp [recoverRow, hstate, haccepted, restartReconciling]))
  case succeeded | failed | interrupted | unconfirmed =>
    exact .terminal (by simp [recoverRow, hstate, DeviceState.isTerminal])
  all_goals
    refine .doubtful ?_ ?_ ?_ ?_
    all_goals simp [recoverRow, hstate, restartReconciling]

/-- A terminal row is not written. -/
theorem recoverRow_of_terminal {now : Millis} {acceptTimeout timeout : Nat} {row : DeviceRow}
    (h : row.state.isTerminal) : recoverRow now acceptTimeout timeout row = none := by
  rcases hstate : row.state
  case succeeded | failed | interrupted | unconfirmed => simp [recoverRow, hstate]
  all_goals exact absurd h (by rw [hstate]; decide)

theorem recoverJob_of_terminal {now : Millis} {job : JobRow} (h : job.state.isTerminal) :
    recoverJob now job = none := by
  rcases hstate : job.state
  case succeeded | completedWithErrors | failed | interrupted => simp [recoverJob, hstate]
  all_goals exact absurd h (by rw [hstate]; decide)

/-- A rederivation does nothing to a job whose state it skips. -/
theorem rederived_of_skips {s : Store} {timestamp : Millis} {job : JobRow}
    (h : rederiveSkips job.state) : s.rederived timestamp job = job := by
  simp [rederived, rederivedJob, h]

/-- A rederivation does nothing to a job that has the derived state. -/
theorem rederived_of_derived {s : Store} {timestamp : Millis} {job : JobRow}
    (h : deriveDispatchedJobState (s.jobStates job.jobId) = some job.state) :
    s.rederived timestamp job = job := by
  simp [rederived, rederivedJob, h]

section Facts

variable {s : Store} {now : Millis} {acceptTimeout timeout : Nat} {k : JobId} {d : DeviceId}
  {job job' : JobRow} {row row' : DeviceRow}

/-- A dispatched job of the recovered store was dispatched before, and has been paused. -/
theorem recovered_open (hset : JobsSettled s)
    (hjob' : (s.recovered now acceptTimeout timeout).job? k = some job')
    (hopen : job'.state = .running ∨ job'.state = .reconciling) :
    ∃ job, s.job? k = some job ∧ (job.state = .running ∨ job.state = .reconciling) ∧
      job' = (s.recovered now acceptTimeout timeout).rederived now (dispatchPaused now job) := by
  obtain ⟨job, hjob, hcases⟩ := job_of_recovered hjob'
  by_cases hwas : job.state = .running ∨ job.state = .reconciling
  · have hrec : recoverJob now job = some (dispatchPaused now job) := by
      rcases hwas with h | h <;> simp [recoverJob, h]
    rw [hrec] at hcases
    exact ⟨job, hjob, hwas, hcases.elim (fun h => absurd h.2 (by simp)) id⟩
  · exfalso
    -- a terminal job stays terminal, and the others are not rederived
    have hopen_of_eq : job'.state ≠ job.state := fun heq => hwas (by rwa [heq] at hopen)
    rcases hcases with ⟨rfl, -⟩ | rfl
    · exact hopen_of_eq rfl
    · by_cases hterminal : job.state.isTerminal
      · exact hopen_of_eq (hset.terminal_stays recovered_effect hjob hjob' hterminal)
      · have hskip : rederiveSkips ((recoverJob now job).getD job).state := by
          rcases recoverJob_cases now job with hrec | ⟨hint, -⟩ | ⟨-, hrun⟩
          · rw [hrec]
            revert hwas hterminal
            rcases job.state <;> decide
          · rw [hint]
            rfl
          · exact absurd hrun hwas
        rw [rederived_state, if_pos hskip] at hopen
        revert hskip
        rcases hopen with h | h <;> (rw [h]; decide)

/-- Terminal jobs are left alone. -/
theorem recovered_terminal_job (hset : JobsSettled s) (hjob : s.job? k = some job)
    (hterminal : job.state.isTerminal) :
    (s.recovered now acceptTimeout timeout).job? k = some job := by
  rcases recovered_job_cases now acceptTimeout timeout hjob with ⟨h, -⟩ | h
  · exact h
  · rw [h, recoverJob_of_terminal hterminal, Option.getD_none, Option.some.injEq]
    by_cases hskip : rederiveSkips job.state
    · exact rederived_of_skips hskip
    · have hstate : job.state = .succeeded ∨ job.state = .completedWithErrors := by
        revert hterminal hskip
        rcases job.state <;> decide
      obtain rfl := jobId_of_job? hjob
      refine rederived_of_derived ?_
      rw [derive_of_terminal recovered_effect hjob (hset.row_terminal hjob hstate),
        hset _ _ hjob hstate]

theorem recovered_terminal_row (hrow : s.device? k d = some row)
    (hterminal : row.state.isTerminal) :
    (s.recovered now acceptTimeout timeout).device? k d = some row := by
  rw [device?_recovered, hrow, Option.map_some, recoverRow_of_terminal hterminal]
  rfl

/-- No upload survives a restart. -/
theorem recovered_job_state
    (hjob' : (s.recovered now acceptTimeout timeout).job? k = some job') :
    job'.state ≠ .uploading ∧ job'.state ≠ .packaging := by
  obtain ⟨job, hjob, ⟨rfl, hnone⟩ | rfl⟩ := job_of_recovered hjob'
  · constructor <;> (intro h; simp [recoverJob, h] at hnone)
  · have hstart : ((recoverJob now job).getD job).state ≠ .uploading ∧
        ((recoverJob now job).getD job).state ≠ .packaging := by
      rcases hstate : job.state
      case created =>
        by_cases hnow : job.createExpiresAt ≤ now <;>
          simp [recoverJob, hstate, hnow, uploadNotStarted]
      all_goals simp [recoverJob, hstate, uploadCutShort, dispatchPaused]
    rcases rederived_state_cases (s.recovered now acceptTimeout timeout) now
        ((recoverJob now job).getD job) with heq | ⟨-, hderived⟩
    · rw [heq]
      exact hstart
    · have hisDerived := deriveDispatchedJobState_isDerived hderived
      constructor <;> (intro h; rw [h] at hisDerived; exact absurd hisDerived (by decide))

end Facts

/-! ### The dispatch gate -/

/-- The states behind `enable_dispatch`. -/
def isLaunched (state : JobState) : Bool :=
  state ∉ [JobState.created, .uploading, .packaging, .ready]

theorem isLaunched_of_isDerived {state : JobState} (h : state.isDerived) : isLaunched state := by
  revert h
  cases state <;> decide

section Gate

variable {now : Millis} {s s' : Store} {op : Op} {k : JobId} {job job' : JobRow}

/-- Only `enable_dispatch` opens the gate. -/
theorem JobChange.dispatchEnabled_cases (h : JobChange now s s' job op job')
    (henabled : job'.dispatchEnabled = true) :
    job.dispatchEnabled = true ∨ (op = .enableDispatch job.jobId ∧ isLaunched job'.state) := by
  cases h with
  | edit hrows edit =>
    cases edit with
    | gateOpened hstate hclosed =>
      refine .inr ⟨rfl, ?_⟩
      rcases hstate with h | h | h <;> simp [gateOpened, h, isLaunched]
    | _ => exact .inl henabled
  | touched => exact .inl ((rederivedJob_dispatchEnabled _ _ (bumpedJob _ job)).symm.trans henabled)
  | recovered =>
    refine .inl ?_
    have hrec : ((recoverJob now job).getD job).dispatchEnabled = true :=
      (rederivedJob_dispatchEnabled _ _ _).symm.trans henabled
    rcases recoverJob_cases now job with h | ⟨-, h, -⟩ | ⟨h, -⟩
    · rwa [h] at hrec
    · rwa [h] at hrec
    · rw [h] at hrec
      exact Bool.noConfusion hrec
  | artifactMissing hrows hstate => exact Bool.noConfusion henabled
  | _ => exact .inl henabled

/-- A job does not go back before `enable_dispatch`. -/
theorem JobChange.isLaunched_of (h : JobChange now s s' job op job')
    (hlaunched : isLaunched job.state) : isLaunched job'.state := by
  have hne : ∀ {state : JobState}, job.state = state → isLaunched state = false → False := by
    intro state heq hfalse
    rw [heq, hfalse] at hlaunched
    exact Bool.noConfusion hlaunched
  have hrederived : ∀ {timestamp : Millis} {job₀ : JobRow}, isLaunched job₀.state →
      isLaunched (s'.rederived timestamp job₀).state := by
    intro timestamp job₀ hlaunched₀
    rcases rederived_state_cases s' timestamp job₀ with heq | ⟨-, hderived⟩
    · rw [heq]
      exact hlaunched₀
    · exact isLaunched_of_isDerived (deriveDispatchedJobState_isDerived hderived)
  cases h with
  | same hrows => exact hlaunched
  | bumped hrows => exact hlaunched
  | edit hrows edit =>
    cases edit with
    | preDispatchFailed hfailed hvalid => rcases hfailed with rfl | rfl <;> rfl
    | gateOpened hstate hclosed =>
      rcases hstate with h | h | h
      · exact (hne h rfl).elim
      · simp [gateOpened, h, isLaunched]
      · simp [gateOpened, h, isLaunched]
    | uploadStarted h hnow => exact (hne h rfl).elim
    | uploadNotStarted h hnow => rfl
    | expired h hnow => rfl
    | packagingStarted h => exact (hne h rfl).elim
  | published hrows h => exact (hne h rfl).elim
  | touched => exact hrederived hlaunched
  | recovered =>
    rcases recoverJob_cases now job with h | ⟨h, -, -⟩ | ⟨h, hopen⟩
    · rw [h]
      exact hrederived hlaunched
    · exact hrederived (by rw [h]; rfl)
    · rw [h]
      exact hrederived hlaunched
  | artifactMissing hrows h => exact (hne h rfl).elim

/-- An open gate belongs to a job that has been dispatched. -/
def EnabledLaunched (s : Store) : Prop :=
  ∀ k job, s.job? k = some job → job.dispatchEnabled = true → isLaunched job.state

theorem EnabledLaunched.initial : EnabledLaunched initial := by
  intro k job hjob
  exact absurd hjob (by simp [job?, Store.initial])

theorem EnabledLaunched.effect (h : EnabledLaunched s) (e : Effect now s op s') :
    EnabledLaunched s' := by
  intro k job' hjob' henabled
  rcases e.job_cases hjob' with ⟨job, hjob, hchange⟩ | ⟨_, _, _, -, rfl⟩
  · rcases hchange.dispatchEnabled_cases henabled with hwas | ⟨-, hlaunched⟩
    · exact hchange.isLaunched_of (h k job hjob hwas)
    · exact hlaunched
  · exact Bool.noConfusion henabled

theorem Reachable.enabledLaunched {indexed : Bool} (h : Reachable indexed s) :
    EnabledLaunched s := by
  obtain ⟨calls, rfl⟩ := h
  exact Run.exec_invariant
    (fun s call hs => EnabledLaunched.effect hs (step_effect indexed s call))
    EnabledLaunched.initial calls

/-- The job has its gate closed, or is terminal. -/
def GateClosed (k : JobId) (s : Store) : Prop :=
  ∀ job, s.job? k = some job → job.dispatchEnabled = false ∨ job.state.isTerminal

/-- Without `enable_dispatch` a closed gate stays closed. -/
theorem GateClosed.effect (hset : JobsSettled s) (h : GateClosed k s) (e : Effect now s op s')
    (hop : op ≠ .enableDispatch k) : GateClosed k s' := by
  intro job' hjob'
  rcases e.job_cases hjob' with ⟨job, hjob, hchange⟩ | ⟨_, _, _, -, rfl⟩
  · rcases h job hjob with hclosed | hterminal
    · left
      by_contra henabled
      rcases hchange.dispatchEnabled_cases (by simpa using henabled) with hwas | ⟨rfl, -⟩
      · rw [hclosed] at hwas
        exact Bool.noConfusion hwas
      · exact hop (by rw [jobId_of_job? hjob])
    · right
      rw [hset.terminal_stays e hjob hjob' hterminal]
      exact hterminal
  · exact .inl rfl

/-- Nothing is claimed behind a closed gate. -/
theorem GateClosed.not_claimed {online : List DeviceId} {row : DeviceRow} (h : GateClosed k s)
    (hclaim : s.claimCandidate online = some row) : row.jobId ≠ k := by
  rintro rfl
  obtain ⟨job, hjob, henabled, hstate⟩ := (claimable_of_candidate hclaim).gateOpen
  rcases h job hjob with hclosed | hterminal
  · rw [hclosed] at henabled
    exact Bool.noConfusion henabled
  · rcases hstate with h | h <;> exact absurd hterminal (by rw [h]; decide)

end Gate

/-- After a restart every gate is closed. -/
theorem gateClosed_recovered {s : Store} {now : Millis} {acceptTimeout timeout : Nat}
    (hset : JobsSettled s) (hlaunched : EnabledLaunched s) (k : JobId) :
    GateClosed k (s.recovered now acceptTimeout timeout) := by
  intro job' hjob'
  by_cases henabled : job'.dispatchEnabled = true
  · right
    have hstate := EnabledLaunched.effect hlaunched recovered_effect k job' hjob' henabled
    by_cases hopen : job'.state = .running ∨ job'.state = .reconciling
    · obtain ⟨job, -, -, rfl⟩ := recovered_open hset hjob' hopen
      exact absurd ((rederivedJob_dispatchEnabled _ _ _).symm.trans henabled)
        (by simp [dispatchPaused])
    · revert hstate hopen
      rcases job'.state <;> decide
  · exact .inl (by simpa using henabled)

/-! ### A second restart -/

/-- Two versions of a job row that differ in their revision and `updated_at` only. -/
def SameJobButTimes (job job' : JobRow) : Prop :=
  job' = { job with revision := job'.revision, updatedAt := job'.updatedAt }

/-- Two versions of a device row that differ in their deadline and `updated_at` only. -/
def SameRowButTimes (row row' : DeviceRow) : Prop :=
  row' = { row with
    reconciliationDeadline := row'.reconciliationDeadline, updatedAt := row'.updatedAt }

/-- A restart at `now` changes nothing but timestamps, deadlines, revisions and created jobs that
have expired. -/
structure QuietRestart (now : Millis) (s s' : Store) : Prop where
  job : ∀ {k job}, s.job? k = some job → ∃ job', s'.job? k = some job' ∧
    (SameJobButTimes job job' ∨
      (job.state = .created ∧ job.createExpiresAt ≤ now ∧ job' = uploadNotStarted now job))
  row : ∀ {k d row}, s.device? k d = some row → ∃ row', s'.device? k d = some row' ∧
    SameRowButTimes row row'
  noJob : ∀ {k}, s.job? k = none → s'.job? k = none
  noRow : ∀ {k d}, s.device? k d = none → s'.device? k d = none
  fences : s'.fences = s.fences
  artifacts : s'.artifacts = s.artifacts
  nextEnqueueSeq : s'.nextEnqueueSeq = s.nextEnqueueSeq

/-- `accepted_at` is set exactly if the device has accepted the command, as far as the state of
the row tells: not while it is being dispatched, but from the download on. -/
def RowRecorded (row : DeviceRow) : Prop :=
  (row.state = .dispatching → row.acceptedAt = none) ∧
    (row.state = .downloading ∨ row.state = .validating ∨ row.state = .applying →
      row.acceptedAt ≠ none)

/-- Every row of the store has recorded what its state says was accepted. -/
def AcceptanceRecorded (s : Store) : Prop :=
  ∀ k d row, s.device? k d = some row → RowRecorded row

/-- The reason of a row in doubt is chosen by its state in the first restart, by `accepted_at` in
the second. -/
theorem sameRowButTimes_recoverRow_iff (now now' : Millis)
    (acceptTimeout timeout acceptTimeout' timeout' : Nat) (row : DeviceRow) :
    SameRowButTimes ((recoverRow now acceptTimeout timeout row).getD row)
      ((recoverRow now' acceptTimeout' timeout'
        ((recoverRow now acceptTimeout timeout row).getD row)).getD
          ((recoverRow now acceptTimeout timeout row).getD row)) ↔ RowRecorded row := by
  rcases row with ⟨_, _, _, _, _, _, _, state, _, _, _, _, acceptedAt⟩
  rcases state <;> rcases acceptedAt <;>
    simp [recoverRow, restartReconciling, SameRowButTimes, RowRecorded]

/-- A second restart does not change the state of a row. -/
theorem recoverRow_state_of_restartRow {now : Millis} {acceptTimeout timeout : Nat}
    {row : DeviceRow} (h : RestartRow row) :
    ((recoverRow now acceptTimeout timeout row).getD row).state = row.state := by
  cases h with
  | queued hstate => simp [recoverRow, hstate]
  | terminal hstate => rw [recoverRow_of_terminal hstate, Option.getD_none]
  | doubtful hstate hdeadline haccept hreason =>
    by_cases haccepted : row.acceptedAt.isNone <;>
      simp [recoverRow, hstate, haccepted, restartReconciling]

section Again

variable {s : Store} {now now' : Millis} {acceptTimeout timeout acceptTimeout' timeout' : Nat}
  {k : JobId} {job : JobRow}

theorem jobStates_recovered_of_restartRow (h : ∀ row ∈ s.jobRows k, RestartRow row) :
    (s.recovered now acceptTimeout timeout).jobStates k = s.jobStates k := by
  have hrows : (s.recovered now acceptTimeout timeout).jobRows k =
      (s.jobRows k).map fun row => (recoverRow now acceptTimeout timeout row).getD row :=
    jobRows_recoverRows
  rw [jobStates, jobStates, hrows, List.map_map]
  exact List.map_congr_left fun row hrow => recoverRow_state_of_restartRow (h row hrow)

/-- The state of a dispatched job is the derived one after a restart, whatever it was before. -/
theorem recovered_derived (hwf : WellFormed s) (hset : JobsSettled s)
    (hjob : (s.recovered now acceptTimeout timeout).job? k = some job)
    (hopen : job.state = .running ∨ job.state = .reconciling) :
    deriveDispatchedJobState ((s.recovered now acceptTimeout timeout).jobStates k) =
      some job.state := by
  obtain ⟨derived, hderived⟩ := (hwf.effect recovered_effect).derive_isSome hjob
  obtain ⟨old, hold, hwas, hnew⟩ := recovered_open hset hjob hopen
  have hskip : ¬ rederiveSkips (dispatchPaused now old).state := by
    change ¬ rederiveSkips old.state
    rcases hwas with h | h <;> (rw [h]; decide)
  have hid : old.jobId = k := jobId_of_job? hold
  rw [hnew, rederived_state, if_neg hskip, show (dispatchPaused now old).jobId = k from hid,
    hderived, Option.getD_some]

/-- A paused job is paused once. -/
theorem recovered_paused (hset : JobsSettled s)
    (hjob : (s.recovered now acceptTimeout timeout).job? k = some job)
    (hopen : job.state = .running ∨ job.state = .reconciling) :
    job.dispatchEnabled = false ∧ job.dispatchPausedReason = some "server_restart" := by
  obtain ⟨old, -, -, rfl⟩ := recovered_open hset hjob hopen
  unfold rederived rederivedJob
  split
  · exact ⟨rfl, rfl⟩
  · split
    · exact ⟨rfl, rfl⟩
    · split <;> exact ⟨rfl, rfl⟩

theorem sameJobButTimes_dispatchPaused (henabled : job.dispatchEnabled = false)
    (hreason : job.dispatchPausedReason = some "server_restart") :
    SameJobButTimes job (dispatchPaused now job) := by
  cases job
  simp only at henabled hreason
  subst henabled hreason
  rfl

/-- What a second restart makes of a job. -/
theorem recovered_again_job (hwf : WellFormed s) (hset : JobsSettled s)
    (hjob : (s.recovered now acceptTimeout timeout).job? k = some job) :
    ∃ job', ((s.recovered now acceptTimeout timeout).recovered now' acceptTimeout'
        timeout').job? k = some job' ∧
      (SameJobButTimes job job' ∨
        (job.state = .created ∧ job.createExpiresAt ≤ now' ∧
          job' = uploadNotStarted now' job)) := by
  have hset' : JobsSettled (s.recovered now acceptTimeout timeout) := hset.effect recovered_effect
  by_cases hterminal : job.state.isTerminal
  · exact ⟨job, recovered_terminal_job hset' hjob hterminal, .inl rfl⟩
  · rcases recovered_job_cases now' acceptTimeout' timeout' hjob with ⟨h, -⟩ | h
    · exact ⟨job, h, .inl rfl⟩
    · refine ⟨_, h, ?_⟩
      by_cases hopen : job.state = .running ∨ job.state = .reconciling
      · -- the job is paused again, and still has the derived state
        have hrec : recoverJob now' job = some (dispatchPaused now' job) := by
          rcases hopen with h | h <;> simp [recoverJob, h]
        have hstates : ((s.recovered now acceptTimeout timeout).recovered now' acceptTimeout'
            timeout').jobStates k = (s.recovered now acceptTimeout timeout).jobStates k := by
          refine jobStates_recovered_of_restartRow fun row hrow => ?_
          obtain ⟨old, -, rfl⟩ := row_of_recovered (mem_jobRows.mp hrow)
          exact restartRow_recoverRow _ _ _ _
        have hid : job.jobId = k := jobId_of_job? hjob
        have hderived := recovered_derived hwf hset hjob hopen
        obtain ⟨henabled, hreason⟩ := recovered_paused hset hjob hopen
        rw [hrec, Option.getD_some, rederived_of_derived (by
          rw [show (dispatchPaused now' job).jobId = k from hid, hstates]
          exact hderived)]
        exact .inl (sameJobButTimes_dispatchPaused henabled hreason)
      · obtain ⟨hupload, hpackaging⟩ := recovered_job_state hjob
        have hpre : job.state = .created ∨ job.state = .ready := by
          revert hterminal hopen hupload hpackaging
          rcases job.state <;> decide
        rcases hpre with hcreated | hready
        · by_cases hnow : job.createExpiresAt ≤ now'
          · refine .inr ⟨hcreated, hnow, ?_⟩
            rw [show recoverJob now' job = some (uploadNotStarted now' job) by
              simp [recoverJob, hcreated, hnow], Option.getD_some, rederived_of_skips rfl]
          · rw [show recoverJob now' job = none by simp [recoverJob, hcreated, hnow],
              Option.getD_none, rederived_of_skips (by rw [hcreated]; rfl)]
            exact .inl rfl
        · rw [show recoverJob now' job = none by simp [recoverJob, hready], Option.getD_none,
            rederived_of_skips (by rw [hready]; rfl)]
          exact .inl rfl

/-- **A second restart is quiet exactly if acceptances were recorded before the first.** -/
theorem quietRestart_recovered_iff (hwf : WellFormed s) (hset : JobsSettled s) :
    QuietRestart now' (s.recovered now acceptTimeout timeout)
      ((s.recovered now acceptTimeout timeout).recovered now' acceptTimeout' timeout') ↔
      AcceptanceRecorded s := by
  constructor
  · intro hquiet k d row hrow
    obtain ⟨row', hrow', hsame⟩ := hquiet.row
      (k := k) (d := d) (by rw [device?_recovered, hrow, Option.map_some])
    rw [device?_recovered, device?_recovered, hrow, Option.map_some, Option.map_some,
      Option.some.injEq] at hrow'
    subst hrow'
    exact (sameRowButTimes_recoverRow_iff _ _ _ _ _ _ row).mp hsame
  · intro hrecorded
    refine ⟨fun hjob => recovered_again_job hwf hset hjob, ?_, ?_, ?_, rfl, rfl, rfl⟩
    · intro k d row hrow
      obtain ⟨old, hold, rfl⟩ := row_of_recovered hrow
      refine ⟨_, by rw [device?_recovered, hrow, Option.map_some], ?_⟩
      exact (sameRowButTimes_recoverRow_iff _ _ _ _ _ _ old).mpr (hrecorded k d old hold)
    · intro k hnone
      by_contra hne
      obtain ⟨job, hjob⟩ := Option.ne_none_iff_exists'.mp hne
      obtain ⟨old, hold, -⟩ := job_of_recovered hjob
      exact absurd (hnone.symm.trans hold) (by simp)
    · intro k d hnone
      rw [device?_recovered, hnone]
      rfl

end Again

/-! ### The claims about the recovered store -/

/-- An `absent` report interrupts a row whose reason is not one of the two that allow a replay. -/
theorem reconcileReport_absent {s : Store} (hwf : WellFormed s) {k : JobId} {d : DeviceId}
    {row : DeviceRow} (hrow : s.device? k d = some row) (hstate : row.state = .reconciling)
    (hreason : replayReason row.reconciliationReason = false) (now : Millis)
    (phase detail : Option String) :
    ∃ s' shown, s.reconcileReport now k d 1 .absent phase detail = .ok (s', .interrupted, shown) ∧
      s'.device? k d = some (interruptedRow now .absent detail row) := by
  obtain ⟨job, hjob⟩ := hwf.jobOfRow hrow
  let t := s.updateDevice k d (interruptedRow now .absent detail)
  have hrow' : t.device? k d = some (interruptedRow now .absent detail row) := by
    rw [device?_updateDevice, hrow, Option.map_some, if_pos rfl]
  have hrows : t.jobRows k ≠ [] := by
    obtain ⟨-, rfl⟩ := key_of_device? hrow
    have hmem : interruptedRow now .absent detail row ∈ t.jobRows k := mem_jobRows.mpr hrow'
    exact List.ne_nil_of_mem hmem
  obtain ⟨shown, hshown⟩ := touchJob_isOk now (s := t) hjob hrows
  refine ⟨t.touched k now, [shown], ?_, ?_⟩
  · have hreplay : replayable job.dispatchEnabled .absent row = false := by
      simp [replayable, hreason]
    simp only [reconcileReport, hrow, hjob, hstate, hreplay, applyReport, DeviceRow.attempt]
    simp only [t] at hshown
    simp [hshown, bind, Except.bind, pure, Except.pure, t]
  · rw [touched, device?_updateJob]
    exact hrow'

/-- The store that a restart leaves, apart from what a second restart would do to it. -/
structure Recovered (s s' : Store) : Prop where
  noUpload : ∀ {k job}, s'.job? k = some job → job.state ≠ .uploading ∧ job.state ≠ .packaging
  noneInFlight : ∀ {k d row}, s'.device? k d = some row →
    row.state ∉ [DeviceState.waitingTransfer, .dispatching, .downloading, .validating, .applying]
  doubtful : ∀ {k d row}, s'.device? k d = some row → row.state = .reconciling →
    row.reconciliationDeadline ≠ none ∧
      ∃ reason, row.reconciliationReason = some reason ∧ "server_restart".toList <+: reason.toList
  paused : ∀ {k job}, s'.job? k = some job → job.state = .running ∨ job.state = .reconciling →
    job.dispatchEnabled = false
  jobKept : ∀ {k job}, s.job? k = some job → job.state.isTerminal → s'.job? k = some job
  rowKept : ∀ {k d row}, s.device? k d = some row → row.state.isTerminal →
    s'.device? k d = some row
  derived : ∀ {k job}, s'.job? k = some job → job.state = .running ∨ job.state = .reconciling →
    deriveDispatchedJobState (s'.jobStates k) = some job.state
  noClaim : ∀ indexed now online, s'.claimNext indexed now online = .ok (s', none)
  /-- Whatever happens next, nothing of a job is claimed before its gate is opened. -/
  closed : ∀ {indexed calls k}, (∀ call ∈ calls, call.2 ≠ .enableDispatch k) →
    ∀ {now online s'' row shown},
      (exec indexed s' calls).claimNext indexed now online = .ok (s'', some (row, shown)) →
      row.jobId ≠ k
  absent : ∀ {k d row}, s'.device? k d = some row → row.state = .reconciling →
    ∀ now phase detail, ∃ s'' shown row'',
      s'.reconcileReport now k d 1 .absent phase detail = .ok (s'', .interrupted, shown) ∧
      s''.device? k d = some row'' ∧ row''.state = .interrupted

/-- A safe restart: the store it leaves is as above, and a second restart at any time succeeds and
is quiet. -/
structure CrashSafe (s s' : Store) : Prop extends Recovered s s' where
  again : ∀ now acceptTimeout timeout, ∃ s'' shown cleanup,
    s'.recoverStartupSync now acceptTimeout timeout = .ok (s'', shown, cleanup) ∧
      QuietRestart now s' s''

section Claims

variable {s : Store} {now : Millis} {acceptTimeout timeout : Nat}

/-- Closed gates stay closed along a run that does not open them. -/
theorem GateClosed.exec {indexed : Bool} {k : JobId} {calls : List (Millis × Op)}
    (hset : JobsSettled s) (h : GateClosed k s)
    (hcalls : ∀ call ∈ calls, call.2 ≠ .enableDispatch k) :
    GateClosed k (exec indexed s calls) := by
  induction calls generalizing s with
  | nil => exact h
  | cons call calls ih =>
    have e := step_effect indexed s call
    exact ih (hset.effect e) (h.effect hset e (hcalls call List.mem_cons_self))
      fun call' hmem => hcalls call' (List.mem_cons_of_mem _ hmem)

/-- What every restart achieves. -/
theorem recovered_spec (hwf : WellFormed s) (hset : JobsSettled s)
    (hlaunched : EnabledLaunched s) : Recovered s (s.recovered now acceptTimeout timeout) := by
  have hrestart : ∀ {k d row}, (s.recovered now acceptTimeout timeout).device? k d = some row →
      RestartRow row := by
    intro k d row hrow
    obtain ⟨old, -, rfl⟩ := row_of_recovered hrow
    exact restartRow_recoverRow _ _ _ _
  have hclosed : ∀ k, GateClosed k (s.recovered now acceptTimeout timeout) :=
    fun k => gateClosed_recovered hset hlaunched k
  have hset' : JobsSettled (s.recovered now acceptTimeout timeout) := hset.effect recovered_effect
  refine
    { noUpload := recovered_job_state
      paused := fun hjob hopen => (recovered_paused hset hjob hopen).1
      jobKept := recovered_terminal_job hset
      rowKept := recovered_terminal_row
      derived := recovered_derived hwf hset
      noneInFlight := ?_
      doubtful := ?_
      noClaim := ?_
      closed := ?_
      absent := ?_ }
  · intro k d row hrow
    cases hrestart hrow with
    | queued hstate => simp [hstate]
    | terminal hstate =>
      revert hstate
      rcases row.state <;> decide
    | doubtful hstate hdeadline haccept hreason => simp [hstate]
  · intro k d row hrow hdoubt
    cases hrestart hrow with
    | queued hstate => exact absurd (hstate.symm.trans hdoubt) (by decide)
    | terminal hstate => exact absurd hstate (by rw [hdoubt]; decide)
    | doubtful hstate hdeadline haccept hreason =>
      refine ⟨hdeadline, ?_⟩
      rcases hreason with h | h
      · exact ⟨_, h, "_before_accept".toList, by decide⟩
      · exact ⟨_, h, "_after_accept".toList, by decide⟩
  · intro indexed now' online
    rcases hclaim : (s.recovered now acceptTimeout timeout).claimCandidate online with _ | row
    · rw [claimNext, hclaim]
    · exact absurd rfl ((hclosed row.jobId).not_claimed hclaim)
  · intro indexed calls k hcalls now' online s'' row shown hclaim
    obtain ⟨old, hcandidate, rfl⟩ := claimNext_eq_some hclaim
    have hother : old.jobId ≠ k := ((hclosed k).exec hset' hcalls).not_claimed hcandidate
    exact hother
  · intro k d row hrow hdoubt now' phase detail
    have hreason : replayReason row.reconciliationReason = false := by
      cases hrestart hrow with
      | queued hstate => exact absurd (hstate.symm.trans hdoubt) (by decide)
      | terminal hstate => exact absurd hstate (by rw [hdoubt]; decide)
      | doubtful hstate hdeadline haccept hreason =>
        rcases hreason with h | h <;> (rw [h]; decide)
    obtain ⟨s'', shown, hreport, hrow''⟩ := reconcileReport_absent (hwf.effect recovered_effect)
      hrow hdoubt hreason now' phase detail
    exact ⟨s'', shown, _, hreport, hrow'', rfl⟩

/-- A restart is safe exactly if acceptances were recorded. -/
theorem crashSafe_recovered_iff (hwf : WellFormed s) (hset : JobsSettled s)
    (hlaunched : EnabledLaunched s) :
    CrashSafe s (s.recovered now acceptTimeout timeout) ↔ AcceptanceRecorded s := by
  have hwf' : WellFormed (s.recovered now acceptTimeout timeout) := hwf.effect recovered_effect
  constructor
  · intro hsafe
    obtain ⟨s'', shown, cleanup, hrecover, hquiet⟩ := hsafe.again 0 0 0
    obtain ⟨shown', cleanup', hrecover'⟩ := recoverStartupSync_isOk hwf' 0 0 0
    rw [hrecover, Except.ok.injEq, Prod.mk.injEq] at hrecover'
    rw [hrecover'.1] at hquiet
    exact (quietRestart_recovered_iff hwf hset).mp hquiet
  · intro hrecorded
    refine ⟨recovered_spec hwf hset hlaunched, fun now' acceptTimeout' timeout' => ?_⟩
    obtain ⟨shown, cleanup, hrecover⟩ := recoverStartupSync_isOk hwf' now' acceptTimeout' timeout'
    exact ⟨_, shown, cleanup, hrecover, (quietRestart_recovered_iff hwf hset).mpr hrecorded⟩

end Claims

/-- **Crash recovery.** From every reachable store, at any time and with any timeouts,
`recover_startup_sync` succeeds. The store it commits has nothing uploading or in flight, every
row in doubt reconciling with a deadline and a restart reason, every dispatched job paused and in
its derived state, and terminal jobs and rows unchanged; nothing can be claimed, and nothing of a
job until its gate is opened; an `absent` report interrupts the row. A second restart is quiet as
well, and the restart is safe in all these ways, exactly if before it `accepted_at` was NULL on
the rows being dispatched and set on the rows downloading, validating or applying. -/
theorem crash_recovery {indexed : Bool} {s : Store} (h : Reachable indexed s) (now : Millis)
    (acceptTimeout timeout : Nat) :
    ∃ s' shown cleanup,
      s.recoverStartupSync now acceptTimeout timeout = .ok (s', shown, cleanup) ∧
      Recovered s s' ∧ (CrashSafe s s' ↔ AcceptanceRecorded s) := by
  obtain ⟨shown, cleanup, hrecover⟩ :=
    recoverStartupSync_isOk h.wellFormed now acceptTimeout timeout
  exact ⟨_, shown, cleanup, hrecover, recovered_spec h.wellFormed h.jobsSettled h.enabledLaunched,
    crashSafe_recovered_iff h.wellFormed h.jobsSettled h.enabledLaunched⟩

/-- A published job that is being dispatched to its device. -/
private def dispatchedBefore : List (Millis × RuntimeCall) :=
  publishedJob ++ [(50, .pushFiles "job-1"), (60, .claim ["quest-1"]),
    (70, .prepare "job-1" "quest-1" .jobV1 ["push_job_v1"] (some 100))]

theorem crash_recovery_dispatching :
    Reachable true (runtimeExec true initial dispatchedBefore) ∧
    ∃ s' shown cleanup, (runtimeExec true initial dispatchedBefore).recoverStartupSync 80 500 1000 =
      .ok (s', shown, cleanup) ∧ Recovered (runtimeExec true initial dispatchedBefore) s' := by
  have hreach : Reachable true (runtimeExec true initial dispatchedBefore) :=
    reachable_runtimeExec true dispatchedBefore
  obtain ⟨s', shown, cleanup, hrecover, hspec, -⟩ := crash_recovery hreach 80 500 1000
  exact ⟨hreach, s', shown, cleanup, hrecover, hspec⟩

/-- The command times out, and then the device reports that it applies the files: the row is
applying with `accepted_at` NULL. The first restart calls it accepted, the second one does not. -/
theorem crash_recovery_unrecorded :
    ¬ ∀ s, Reachable true s → ∀ now acceptTimeout timeout s' shown cleanup,
      s.recoverStartupSync now acceptTimeout timeout = .ok (s', shown, cleanup) →
      CrashSafe s s' := by
  intro h
  let calls := dispatchedBefore ++ [(110, .acceptanceExpired "job-1" "quest-1" 100 600),
    (120, .transition (.applying 120) "job-1" "quest-1")]
  have hreach : Reachable true (runtimeExec true initial calls) := reachable_runtimeExec true calls
  obtain ⟨shown, cleanup, hrecover⟩ := recoverStartupSync_isOk hreach.wellFormed 130 500 1000
  have hrecorded := (crashSafe_recovered_iff hreach.wellFormed hreach.jobsSettled
    hreach.enabledLaunched).mp (h _ hreach 130 500 1000 _ _ _ hrecover)
  have hrow : ((runtimeExec true initial calls).device? "job-1" "quest-1").map
      (fun row => (row.state, row.acceptedAt)) = some (.applying, none) := by decide +kernel
  obtain ⟨row, hfound, hfields⟩ := Option.map_eq_some_iff.mp hrow
  rw [Prod.mk.injEq] at hfields
  exact (hrecorded _ _ _ hfound).2 (.inr (.inr hfields.1)) hfields.2

end Store

end StylyMdm.PushJobs
