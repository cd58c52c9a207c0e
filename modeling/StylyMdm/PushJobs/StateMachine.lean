import StylyMdm.PushJobs.Exclusivity

/-!
# Job states and device states

The state of a dispatched job is a cache of an aggregate over its device rows. This module shows
that the operations keep the cache right as the runtime issues them, that every change of a state
is an edge of its transition table, and that terminal jobs and rows are final.

One step can go wrong: a registration that reports the wrong artifact fails a queued row of a job
that is not dispatched yet, without rederiving the job, and `enable_dispatch` then sets the state
to `running` without looking at the rows. `GateSafe` is the condition that excludes it.

`Consistent` is the invariant: the state of a job that is dispatched is the derived one, and a job
that is not dispatched has a closed gate and rows that are queued or failed. A result can arrive
before the acceptance does, so `settle_result` lets a row succeed from states without that edge;
this shortcut is the one exception to the edges (`LawfulStep`). `state_consistency` puts the parts
side by side, at every moment of a run. It is followed by a run in which the gate is opened in time
and one that breaks the condition.
-/

namespace StylyMdm.PushJobs

namespace Store

/-! ### The device states of a job -/

theorem mem_jobStates {s : Store} {k : JobId} {state : DeviceState} :
    state ∈ s.jobStates k ↔ ∃ d row, s.device? k d = some row ∧ row.state = state := by
  rw [jobStates, List.mem_map]
  constructor
  · rintro ⟨row, hrow, rfl⟩
    exact ⟨row.deviceId, row, mem_jobRows.mp hrow, rfl⟩
  · rintro ⟨d, row, hrow, rfl⟩
    obtain ⟨-, rfl⟩ := key_of_device? hrow
    exact ⟨row, mem_jobRows.mpr hrow, rfl⟩

theorem jobStates_eq_of_rows {s s' : Store} {k : JobId} (h : s'.jobRows k = s.jobRows k) :
    s'.jobStates k = s.jobStates k := by
  rw [jobStates, jobStates, h]

/-- A well-formed job with rows derives to some state. -/
theorem WellFormed.derive_isSome {s : Store} (hwf : WellFormed s) {k : JobId} {job : JobRow}
    (hjob : s.job? k = some job) :
    ∃ state, deriveDispatchedJobState (s.jobStates k) = some state := by
  obtain ⟨d, row, hrow⟩ := hwf.rowOfJob hjob
  exact deriveDispatchedJobState_isSome (List.ne_nil_of_mem (mem_jobStates.mpr ⟨d, row, hrow, rfl⟩))

section Rows

variable {now : Millis} {s s' : Store} {call : RuntimeCall} {row row' : DeviceRow}

/-- No call site of `transition_device` expects a terminal state. -/
theorem not_isTerminal_of_expected {site : TransitionSite} {jobId : JobId} {deviceId : DeviceId}
    (hissued : RuntimeCall.Issued s (.transition site jobId deviceId)) {state : DeviceState}
    (hmem : state ∈ site.expected) : state.isTerminal = false := by
  suffices hall : ∀ state ∈ site.expected, state.isTerminal = false from hall state hmem
  cases site with
  | artifactMismatch current =>
    intro state hstate
    rw [TransitionSite.expected, List.mem_singleton] at hstate
    exact hstate ▸ hissued
  | failCurrent scope code detail =>
    cases scope <;> simp [TransitionSite.expected, FailScope.expected, DeviceState.isTerminal]
  | _ => simp [TransitionSite.expected, DeviceState.isTerminal]

/-- **Terminal rows are final.** No call of the runtime writes one. -/
theorem RowChange.eq_of_terminal (h : RowChange now s row call.op row') (hissued : call.Issued s)
    (hterminal : row.state.isTerminal) : row' = row := by
  rcases h.terminal_cases hterminal with rfl | ⟨expected, fields, idempotent, hop, hexpected, -⟩
  · rfl
  · cases call with
    | transition site jobId deviceId =>
      rw [RuntimeCall.op, TransitionSite.op, Op.transitionDevice.injEq] at hop
      obtain ⟨-, -, rfl, -⟩ := hop
      have hfalse := not_isTerminal_of_expected hissued (hexpected _ rfl)
      rw [hfalse] at hterminal
      exact Bool.noConfusion hterminal
    | _ => cases hop

/-- Before its job is dispatched a row is `queued` or `failed`, and stays so. -/
theorem RowChange.preDispatch (h : RowChange now s row call.op row') (hissued : call.Issued s)
    (hrow : row.state = .queued ∨ row.state = .failed)
    (hjob : ∀ job, s.job? row.jobId = some job → job.state ≠ .running ∧ job.state ≠ .reconciling) :
    row'.state = .queued ∨ row'.state = .failed := by
  rcases hrow with hqueued | hfailed
  · have hne : ∀ {state : DeviceState}, row.state = state → state ≠ .queued → False :=
      fun heq hne => hne (heq.symm.trans hqueued)
    generalize hop : call.op = op at h
    cases h with
    | same => exact .inl hqueued
    | edit edit =>
      cases edit with
      | transition hexpected hedge =>
        -- the only call site that takes a queued row fails it
        cases call with
        | transition site jobId deviceId =>
          rw [RuntimeCall.op, TransitionSite.op, Op.transitionDevice.injEq] at hop
          obtain ⟨-, -, rfl, rfl, -⟩ := hop
          have hmem := hexpected _ rfl
          rw [hqueued] at hmem
          cases site with
          | artifactMismatch current => exact .inr rfl
          | failCurrent scope code detail => exact .inr rfl
          | _ => exact absurd hmem (by simp [TransitionSite.expected])
        | _ => cases hop
      | markReconciling hexpected hedge =>
        rw [hqueued] at hedge
        exact absurd hedge (by decide)
      | settle hallowed =>
        rw [hqueued] at hallowed
        exact absurd hallowed (by decide)
      | claim hclaim =>
        obtain ⟨job, hfound, -, hstate⟩ := (claimable_of_candidate hclaim).gateOpen
        exact absurd hstate (not_or.mpr (hjob job hfound))
      | prepare h => exact (hne h (by decide)).elim
      | acceptanceExpired h haccepted hdeadline => exact (hne h (by decide)).elim
      | reportActive h hphase => exact (hne h (by decide)).elim
      | reportRequeued h hjob hreplay => exact .inl rfl
      | reportInterrupted h hstatus hreplay => exact (hne h (by decide)).elim
    | unconfirmed h => exact (hne h (by decide)).elim
    | recovered =>
      rw [recoverRow, hqueued]
      exact .inl hqueued
    | artifactMissing hfound hdispatched hneeds => exact .inr rfl
  · rw [h.eq_of_terminal hissued (by rw [hfailed]; rfl)]
    exact .inr hfailed

end Rows

/-! ### Jobs and their rows -/

/-- The states of a job that has not been dispatched. -/
def isPreDispatch (state : JobState) : Bool :=
  state ∈ [JobState.created, .uploading, .packaging, .ready, .failed, .interrupted]

/-- The invariant: before `enable_dispatch` has opened the gate for the first time, no row of the
job has left `queued` but to fail; afterwards the job state is the derived one. -/
structure Consistent (s : Store) : Prop where
  pre : ∀ {k job}, s.job? k = some job → job.dispatchStartedAt = none →
    isPreDispatch job.state ∧ job.dispatchEnabled = false ∧
      ∀ {d row}, s.device? k d = some row → row.state = .queued ∨ row.state = .failed
  post : ∀ {k job}, s.job? k = some job → job.dispatchStartedAt ≠ none →
    deriveDispatchedJobState (s.jobStates k) = some job.state

theorem Consistent.initial : Consistent initial where
  pre h := absurd h (by simp [job?, Store.initial])
  post h := absurd h (by simp [job?, Store.initial])

/-- Opening the gate of a `ready` job finds a row that can still be dispatched. -/
def GateSafe (s : Store) (call : Millis × RuntimeCall) : Prop :=
  match call.2 with
  | .pushFiles jobId => ∀ job, s.job? jobId = some job → job.state = .ready →
      ∃ d row, s.device? jobId d = some row ∧ row.state.isTerminal = false
  | _ => True

section Jobs

variable {now : Millis} {s s' : Store} {call : RuntimeCall} {op : Op} {k : JobId}
  {job job' : JobRow}

/-- A dispatched job has a derived state. -/
theorem Consistent.isDerived (hc : Consistent s) (hjob : s.job? k = some job)
    (hstarted : job.dispatchStartedAt ≠ none) : job.state.isDerived :=
  deriveDispatchedJobState_isDerived (hc.post hjob hstarted)

/-- The rows of a job keep the states that occur among them when all of them are terminal. -/
theorem jobStates_of_terminal (e : Effect now s call.op s') (hissued : call.Issued s)
    (hjob : s.job? k = some job) (hall : ∀ state ∈ s.jobStates k, state.isTerminal) :
    deriveDispatchedJobState (s'.jobStates k) = deriveDispatchedJobState (s.jobStates k) := by
  refine derive_congr fun state => ?_
  rw [mem_jobStates, mem_jobStates]
  have hterminal : ∀ {d row}, s.device? k d = some row → row.state.isTerminal := fun hrow =>
    hall _ (mem_jobStates.mpr ⟨_, _, hrow, rfl⟩)
  constructor
  · rintro ⟨d, row', hrow', rfl⟩
    rcases e.row_cases hrow' with ⟨row, hrow, hchange⟩ | ⟨_, _, _, _, hnone, _⟩
    · refine ⟨d, row, hrow, ?_⟩
      rw [hchange.eq_of_terminal hissued (hterminal hrow)]
    · exact absurd (hnone.symm.trans hjob) (by simp)
  · rintro ⟨d, row, hrow, rfl⟩
    obtain ⟨row', hrow', hchange⟩ := e.rowChange hrow
    refine ⟨d, row', hrow', ?_⟩
    rw [hchange.eq_of_terminal hissued (hterminal hrow)]

/-- `dispatch_started_at` is set once, by the opening of the gate. -/
theorem JobChange.dispatchStartedAt_eq (h : JobChange now s s' job op job') :
    job'.dispatchStartedAt = job.dispatchStartedAt ∨
      (op = .enableDispatch job.jobId ∧ job' = gateOpened now job ∧
        (job.state = .ready ∨ job.state = .running ∨ job.state = .reconciling)) := by
  cases h with
  | edit hrows edit =>
    cases edit with
    | gateOpened hstate hclosed => exact .inr ⟨rfl, rfl, hstate⟩
    | _ => exact .inl rfl
  | touched => exact .inl (rederivedJob_dispatchStartedAt _ _ _)
  | recovered =>
    refine .inl ((rederivedJob_dispatchStartedAt _ _ _).trans ?_)
    unfold recoverJob
    split
    · split <;> rfl
    all_goals rfl
  | _ => exact .inl rfl

/-- What a restart makes of a job row before it is rederived. -/
theorem recoverJob_cases (now : Millis) (job : JobRow) :
    (recoverJob now job).getD job = job ∨
    (((recoverJob now job).getD job).state = .interrupted ∧
      ((recoverJob now job).getD job).dispatchEnabled = job.dispatchEnabled ∧
      (job.state = .created ∨ job.state = .uploading ∨ job.state = .packaging)) ∨
    ((recoverJob now job).getD job = dispatchPaused now job ∧
      (job.state = .running ∨ job.state = .reconciling)) := by
  rcases hstate : job.state
  case created =>
    by_cases hnow : job.createExpiresAt ≤ now
    · exact .inr (.inl (by simp [recoverJob, hstate, hnow, uploadNotStarted]))
    · exact .inl (by simp [recoverJob, hstate, hnow])
  case uploading => exact .inr (.inl (by simp [recoverJob, hstate, uploadCutShort]))
  case packaging => exact .inr (.inl (by simp [recoverJob, hstate, uploadCutShort]))
  case running => exact .inr (.inr (by simp [recoverJob, hstate]))
  case reconciling => exact .inr (.inr (by simp [recoverJob, hstate]))
  all_goals exact .inl (by simp [recoverJob, hstate])

theorem rederived_state {timestamp : Millis} :
    (s.rederived timestamp job).state = if rederiveSkips job.state then job.state
      else (deriveDispatchedJobState (s.jobStates job.jobId)).getD job.state :=
  rederivedJob_state _ _ _

/-- A job that is not dispatched is left alone by a rederivation. -/
private theorem rederived_preDispatch {timestamp : Millis} (job : JobRow)
    (h : isPreDispatch job.state) :
    s.rederived timestamp job = job := by
  have hskip : rederiveSkips job.state := by
    revert h
    rcases job.state <;> decide
  simp [rederived, rederivedJob, hskip]

/-- The part of the invariant about jobs that are not dispatched. -/
private theorem Consistent.pre_change (hc : Consistent s) (hjob : s.job? k = some job)
    (h : JobChange now s s' job op job') (hnone : job'.dispatchStartedAt = none) :
    job.dispatchStartedAt = none ∧ isPreDispatch job'.state ∧ job'.dispatchEnabled = false := by
  rcases h.dispatchStartedAt_eq with heq | ⟨-, rfl, -⟩
  · have hstart : job.dispatchStartedAt = none := heq.symm.trans hnone
    obtain ⟨hstate, hclosed, -⟩ := hc.pre hjob hstart
    refine ⟨hstart, ?_⟩
    cases h with
    | same hrows => exact ⟨hstate, hclosed⟩
    | edit hrows edit =>
      cases edit with
      | gateOpened h hc' =>
        refine absurd hnone ?_
        simp [gateOpened, hstart]
      | preDispatchFailed hfailed hvalid =>
        refine ⟨?_, hclosed⟩
        rcases hfailed with rfl | rfl <;> rfl
      | _ => exact ⟨rfl, hclosed⟩
    | published hrows hp => exact ⟨rfl, hclosed⟩
    | touched =>
      rw [touchedJob, rederived_preDispatch (bumpedJob _ job) hstate]
      exact ⟨hstate, hclosed⟩
    | bumped hrows => exact ⟨hstate, hclosed⟩
    | recovered =>
      rcases recoverJob_cases now job with hrec | ⟨hint, hen, -⟩ | ⟨-, hrun⟩
      · rw [hrec, rederived_preDispatch job hstate]
        exact ⟨hstate, hclosed⟩
      · rw [rederived_preDispatch _ (by rw [hint]; rfl), hint, hen]
        exact ⟨rfl, hclosed⟩
      · rcases hrun with hrun | hrun <;>
          exact absurd hstate (by rw [hrun]; decide)
    | artifactMissing hrows hready => exact ⟨rfl, rfl⟩
  · refine absurd hnone ?_
    rcases hd : job.dispatchStartedAt <;> simp [gateOpened, hd]

/-- The part of the invariant about dispatched jobs. -/
private theorem Consistent.post_change (hwf' : WellFormed s')
    (hc : Consistent s) (e : Effect now s call.op s') (hjob : s.job? k = some job)
    (hjob' : s'.job? k = some job') (hissued : call.Issued s) (hgate : GateSafe s (now, call))
    (hop : call.op = op) (h : JobChange now s s' job op job')
      (hstarted : job'.dispatchStartedAt ≠ none) :
    deriveDispatchedJobState (s'.jobStates k) = some job'.state := by
  obtain rfl := jobId_of_job? hjob
  by_cases hstart : job.dispatchStartedAt = none
  · -- the gate has just been opened
    rcases h.dispatchStartedAt_eq with heq | ⟨rfl, rfl, hstate⟩
    · exact absurd (heq.trans hstart) hstarted
    · obtain ⟨hpre, -, hrows⟩ := hc.pre hjob hstart
      have hready : job.state = .ready := by
        rcases hstate with h | h | h
        · exact h
        · rw [h] at hpre
          exact absurd hpre (by decide)
        · rw [h] at hpre
          exact absurd hpre (by decide)
      have hsame : s'.jobRows job.jobId = s.jobRows job.jobId := by
        generalize hj : gateOpened now job = job'' at h
        cases h with
        | touched =>
          have hstate := congrArg JobRow.state hj
          rw [touchedJob, rederived_preDispatch (bumpedJob _ job) (by exact hpre)] at hstate
          simp [gateOpened, hready, bumpedJob] at hstate
        | same hrows => exact hrows
        | edit hrows edit => exact hrows
        | bumped hrows => exact hrows
      cases call with
      | pushFiles jobId =>
        cases hop
        obtain ⟨d, row, hrow, hlive⟩ := hgate job hjob hready
        have hqueued : row.state = .queued := by
          rcases hrows hrow with h | h
          · exact h
          · rw [h] at hlive
            exact absurd hlive (by decide)
        rw [jobStates_eq_of_rows hsame, gateOpened, hready]
        refine derive_eq_running (mem_jobStates.mpr ⟨d, row, hrow, hqueued⟩) ?_
        intro state hmem
        obtain ⟨d', row', hrow', rfl⟩ := mem_jobStates.mp hmem
        rcases hrows hrow' with h | h
        · exact .inl h
        · exact .inr (by rw [h]; rfl)
      | transition site jobId deviceId =>
        exact absurd hop (by simp [RuntimeCall.op, TransitionSite.op])
      | _ => exact absurd hop (by simp [RuntimeCall.op])
  · have hpost := hc.post hjob hstart
    have hderived := hc.isDerived hjob hstart
    have hnot : ∀ {state : JobState}, job.state = state → state.isDerived = false → False := by
      intro state heq hfalse
      rw [heq, hfalse] at hderived
      exact Bool.noConfusion hderived
    obtain ⟨derived, hsome⟩ := hwf'.derive_isSome hjob'
    -- a rederivation writes the derived state, or leaves a failed job failed
    have hrederive : ∀ {job₀ : JobRow} {timestamp : Millis}, job₀.jobId = job.jobId →
        job₀.state = job.state →
        deriveDispatchedJobState (s'.jobStates job.jobId) =
          some (s'.rederived timestamp job₀).state := by
      intro job₀ timestamp hid hstate
      rw [rederived_state, hid, hstate]
      by_cases hskip : rederiveSkips job.state
      · rw [if_pos hskip]
        have hterminal : job.state.isTerminal := by
          revert hskip hderived
          rcases job.state <;> decide
        rw [jobStates_of_terminal e hissued hjob
          ((isTerminal_derive_iff hpost).mp hterminal), hpost]
      · rw [if_neg hskip, hsome]
        rfl
    cases h with
    | same hrows => rw [jobStates_eq_of_rows hrows, hpost]
    | edit hrows edit =>
      rw [jobStates_eq_of_rows hrows, hpost]
      cases edit with
      | uploadStarted h hnow => exact (hnot h rfl).elim
      | uploadNotStarted h hnow => exact (hnot h rfl).elim
      | expired h hnow => exact (hnot h rfl).elim
      | packagingStarted h => exact (hnot h rfl).elim
      | preDispatchFailed hfailed hvalid =>
        cases call with
        | uploadFailed jobId packaging code detail =>
          cases hop
          rcases hissued job hjob with h | h <;> exact (hnot h rfl).elim
        | transition site jobId deviceId =>
          exact absurd hop (by simp [RuntimeCall.op, TransitionSite.op])
        | _ => exact absurd hop (by simp [RuntimeCall.op])
      | gateOpened h hclosed =>
        have hne : job.state ≠ .ready := fun heq => hnot heq rfl
        simp [gateOpened, hne]
    | published hrows hp => exact (hnot hp rfl).elim
    | touched => exact hrederive rfl rfl
    | bumped hrows => rw [jobStates_eq_of_rows hrows, hpost]; rfl
    | recovered =>
      rcases recoverJob_cases now job with hrec | ⟨-, -, hpre⟩ | ⟨hrec, -⟩
      · rw [hrec]
        exact hrederive rfl rfl
      · rcases hpre with h | h | h <;> exact (hnot h rfl).elim
      · rw [hrec]
        exact hrederive rfl rfl
    | artifactMissing hrows hready => exact (hnot hready rfl).elim

/-- Every call that is issued as the runtime issues it and meets `GateSafe` keeps jobs and rows
consistent. -/
theorem Consistent.effect (hwf : WellFormed s) (hc : Consistent s) (e : Effect now s call.op s')
    (hissued : call.Issued s) (hgate : GateSafe s (now, call)) : Consistent s' where
  pre := by
    intro k job' hjob' hnone
    rcases hjob : s.job? k with _ | job
    · obtain ⟨request, protocols, timeout, -, rfl⟩ := e.job_of_new hjob hjob'
      refine ⟨rfl, rfl, fun {d row'} hrow' => ?_⟩
      rcases e.row_cases hrow' with ⟨row, hrow, -⟩ | ⟨_, _, _, _, _, _, _, _, _, _, rfl⟩
      · -- rows belong to jobs
        obtain ⟨job, hold⟩ := hwf.jobOfRow hrow
        exact absurd (hjob.symm.trans hold) (by simp)
      · exact .inl rfl
    · obtain ⟨job'', hjob'', hchange⟩ := e.jobChange hjob
      rw [hjob', Option.some.injEq] at hjob''
      subst hjob''
      obtain ⟨hstart, hstate, hclosed⟩ := hc.pre_change hjob hchange hnone
      obtain ⟨hpre, -, hrows⟩ := hc.pre hjob hstart
      refine ⟨hstate, hclosed, fun {d row'} hrow' => ?_⟩
      rcases e.row_cases hrow' with ⟨row, hrow, hrowChange⟩ | ⟨_, _, _, _, hnew, _⟩
      · refine hrowChange.preDispatch hissued (hrows hrow) fun job₀ hjob₀ => ?_
        rw [(key_of_device? hrow).1, hjob, Option.some.injEq] at hjob₀
        subst hjob₀
        revert hpre
        rcases job.state <;> decide
      · exact absurd (hnew.symm.trans hjob) (by simp)
  post := by
    intro k job' hjob' hstarted
    rcases e.job_cases hjob' with ⟨job, hjob, hchange⟩ | ⟨request, protocols, timeout, hop, rfl⟩
    · exact hc.post_change (hwf.effect e) e hjob hjob' hissued hgate rfl hchange hstarted
    · exact absurd rfl hstarted

/-! ### Edges -/

/-- A rederived job that was running or reconciling moves along an edge, or not at all. -/
private theorem edge_of_isDerived {src dst : JobState} (hsrc : src = .running ∨ src = .reconciling)
    (hdst : dst.isDerived) (hne : dst ≠ src) : dst ∈ jobTransitions src := by
  revert hdst hne
  rcases hsrc with rfl | rfl <;> cases dst <;> decide

/-- A job state that a rederivation would overwrite is one of a dispatched job. -/
private theorem Consistent.started_of_not_skips (hc : Consistent s) (hjob : s.job? k = some job)
    (hskip : rederiveSkips job.state = false) : job.dispatchStartedAt ≠ none := by
  intro hnone
  have hpre := (hc.pre hjob hnone).1
  revert hpre hskip
  rcases job.state <;> decide

/-- A rederivation moves a job along an edge, although it does not validate the edge. -/
private theorem Consistent.rederived_edge {timestamp : Millis} {job₀ : JobRow} (hc : Consistent s)
    (e : Effect now s call.op s') (hissued : call.Issued s) (hjob : s.job? k = some job)
    (hid : job₀.jobId = k) (hstate : job₀.state = job.state)
    (hne : (s'.rederived timestamp job₀).state ≠ job.state) :
    (s'.rederived timestamp job₀).state ∈ jobTransitions job.state := by
  rw [rederived_state, hid, hstate] at hne ⊢
  by_cases hskip : rederiveSkips job.state
  · rw [if_pos hskip] at hne
    exact absurd rfl hne
  · rw [if_neg hskip] at hne ⊢
    have hpost := hc.post hjob (hc.started_of_not_skips hjob (by simpa using hskip))
    rcases hderived : deriveDispatchedJobState (s'.jobStates k) with _ | derived
    · rw [hderived] at hne
      exact absurd rfl hne
    · rw [hderived, Option.getD_some] at hne
      rw [Option.getD_some]
      by_cases hterminal : job.state.isTerminal
      · -- the rows of a finished job do not change any more
        have hkeep := jobStates_of_terminal e hissued hjob
          ((isTerminal_derive_iff hpost).mp hterminal)
        rw [hderived, hpost, Option.some.injEq] at hkeep
        exact absurd hkeep hne
      · refine edge_of_isDerived ?_ (deriveDispatchedJobState_isDerived hderived) hne
        have hjobDerived := deriveDispatchedJobState_isDerived hpost
        revert hterminal hjobDerived
        rcases job.state <;> decide

/-- **Every change of a job state is an edge of `JOB_TRANSITIONS`.** -/
theorem Consistent.job_edge (hc : Consistent s) (e : Effect now s call.op s')
    (hissued : call.Issued s) (hjob : s.job? k = some job) (hjob' : s'.job? k = some job')
    (hne : job'.state ≠ job.state) : job'.state ∈ jobTransitions job.state := by
  obtain ⟨job'', hjob'', h⟩ := e.jobChange hjob
  rw [hjob', Option.some.injEq] at hjob''
  subst hjob''
  obtain rfl := jobId_of_job? hjob
  generalize hop : call.op = op at h
  cases h with
  | same hrows => exact absurd rfl hne
  | edit hrows edit =>
    cases edit with
    | preDispatchFailed hfailed hvalid =>
      rw [validJobTransition, Bool.or_eq_true, Bool.and_eq_true, decide_eq_true_eq,
        decide_eq_true_eq] at hvalid
      exact hvalid.elim (fun heq => absurd heq.symm hne) And.right
    | gateOpened h hclosed =>
      by_cases hready : job.state = .ready
      · simp [gateOpened, hready, jobTransitions]
      · simp [gateOpened, hready] at hne
    | uploadStarted h hnow => simp [uploadStarted, h, jobTransitions]
    | uploadNotStarted h hnow => simp [uploadNotStarted, h, jobTransitions]
    | expired h hnow => simp [uploadNotStarted, h, jobTransitions]
    | packagingStarted h => simp [packagingStarted, h, jobTransitions]
  | published hrows h => simp [artifactReady, h, jobTransitions]
  | touched => exact hc.rederived_edge e hissued hjob rfl rfl hne
  | bumped hrows => exact absurd rfl hne
  | recovered =>
    rcases recoverJob_cases now job with hrec | ⟨hint, -, hpre⟩ | ⟨hrec, -⟩
    · rw [hrec] at hne ⊢
      exact hc.rederived_edge e hissued hjob rfl rfl hne
    · rw [rederived_preDispatch _ (by rw [hint]; rfl), hint]
      rcases hpre with h | h | h <;> simp [h, jobTransitions]
    · rw [hrec] at hne ⊢
      exact hc.rederived_edge e hissued hjob rfl rfl hne
  | artifactMissing hrows h => simp [artifactMissingJob, h, jobTransitions]

/-- Terminal states have no way out. -/
theorem jobTransitions_of_isTerminal {state : JobState} (h : state.isTerminal) :
    jobTransitions state = [] := by
  revert h
  cases state <;> decide

/-- The step of `settle_result` that is not in `DEVICE_TRANSITIONS`: a success of a row that has
not been seen applying. -/
def SettleShortcut (call : RuntimeCall) (row row' : DeviceRow) : Prop :=
  (∃ settled, call = .result row.jobId row.deviceId settled) ∧
    (row.state = .dispatching ∨ row.state = .downloading ∨ row.state = .validating) ∧
    row'.state = .succeeded

/-- **Every change of a row's state is an edge of `DEVICE_TRANSITIONS`**, or the shortcut. -/
theorem RowChange.edge {row row' : DeviceRow} (h : RowChange now s row call.op row')
    (hne : row'.state ≠ row.state) :
    row'.state ∈ deviceTransitions row.state ∨ SettleShortcut call row row' := by
  have hvalid : ∀ {dst : DeviceState}, validDeviceTransition row.state dst → dst ≠ row.state →
      dst ∈ deviceTransitions row.state := by
    intro dst hvalid hne
    rw [validDeviceTransition, Bool.or_eq_true, Bool.and_eq_true, decide_eq_true_eq,
      decide_eq_true_eq] at hvalid
    exact hvalid.elim (fun heq => absurd heq.symm hne) And.right
  generalize hop : call.op = op at h
  cases h with
  | same => exact absurd rfl hne
  | edit edit =>
    cases edit with
    | transition hexpected hedge => exact .inl (hvalid hedge hne)
    | markReconciling hexpected hedge => exact .inl (hvalid hedge hne)
    | settle hallowed =>
      rename_i result
      have hcall : ∃ settled, call = .result row.jobId row.deviceId settled := by
        cases call with
        | result jobId deviceId settled =>
          cases hop
          exact ⟨_, rfl⟩
        | transition site jobId deviceId => cases site <;> cases hop
        | _ => cases hop
      change result.target ≠ row.state at hne
      change result.target ∈ deviceTransitions row.state ∨ _
      rcases hsuccess : result.success
      · left
        revert hallowed
        rcases hstate : row.state <;> simp [TerminalResult.target, hsuccess, deviceTransitions,
          settleAllowed]
      · by_cases hdirect : row.state = .applying ∨ row.state = .reconciling
        · left
          rcases hdirect with h | h <;> simp [TerminalResult.target, hsuccess, h, deviceTransitions]
        · refine .inr ⟨hcall, ?_, by simp [settledRow, TerminalResult.target, hsuccess]⟩
          revert hallowed hdirect
          rcases row.state <;> decide
    | claim hclaim =>
      rw [(claimable_of_candidate hclaim).queued]
      exact .inl (by simp [claimedRow, deviceTransitions])
    | prepare h => exact .inl (by simp [h, preparedRow, deviceTransitions])
    | acceptanceExpired h haccepted hdeadline =>
      exact .inl (by simp [h, acceptanceExpiredRow, deviceTransitions])
    | reportActive h hphase =>
      rename_i phase detail target
      left
      have htarget : target = .downloading ∨ target = .validating ∨ target = .applying := by
        unfold phaseTarget at hphase
        split at hphase <;> simp_all
      rcases htarget with rfl | rfl | rfl <;> simp [h, activeRow, deviceTransitions]
    | reportRequeued h hjob hreplay => exact .inl (by simp [h, requeuedRow, deviceTransitions])
    | reportInterrupted h hstatus hreplay =>
      exact .inl (by simp [h, interruptedRow, deviceTransitions])
  | unconfirmed h => exact .inl (by simp [h, unconfirmedRow, deviceTransitions])
  | recovered =>
    left
    revert hne
    rcases hstate : row.state
    case reconciling =>
      intro hne
      refine absurd ?_ hne
      by_cases haccepted : row.acceptedAt.isNone <;>
        simp [recoverRow, hstate, haccepted, restartReconciling]
    all_goals simp [recoverRow, hstate, restartReconciling, deviceTransitions]
  | artifactMissing hfound hdispatched hneeds =>
    left
    revert hneeds
    rcases hstate : row.state <;>
      simp [needsArtifact, artifactMissingRow, deviceTransitions]

end Jobs

/-! ### Runs of the runtime -/

/-- A job that has been dispatched: a `failed` one is if its gate has been opened before. -/
def IsDispatched (job : JobRow) : Prop :=
  job.state ∈ [JobState.running, .reconciling, .succeeded, .completedWithErrors] ∨
    (job.state = .failed ∧ job.dispatchStartedAt ≠ none)

/-- The state of every dispatched job is the one its device rows derive to. -/
def DerivedStates (s : Store) : Prop :=
  ∀ k job, s.job? k = some job → IsDispatched job →
    deriveDispatchedJobState (s.jobStates k) = some job.state

theorem Consistent.derivedStates {s : Store} (hc : Consistent s) : DerivedStates s := by
  intro k job hjob hdispatched
  refine hc.post hjob fun hnone => ?_
  rcases hdispatched with hstate | ⟨-, hstarted⟩
  · have hpre := (hc.pre hjob hnone).1
    revert hpre hstate
    rcases job.state <;> decide
  · exact hstarted hnone

/-- A call changes states along the edges of the two tables. -/
structure LawfulStep (indexed : Bool) (s : Store) (call : Millis × RuntimeCall) : Prop where
  job : ∀ {k job job'}, s.job? k = some job → (s.runtimeStep indexed call).job? k = some job' →
    job'.state ≠ job.state → job'.state ∈ jobTransitions job.state
  row : ∀ {k d row row'}, s.device? k d = some row →
    (s.runtimeStep indexed call).device? k d = some row' → row'.state ≠ row.state →
    row'.state ∈ deviceTransitions row.state ∨ SettleShortcut call.2 row row'

/-- Terminal jobs keep their state and terminal rows stay as they are. -/
structure TerminalKept (s s' : Store) : Prop where
  job : ∀ {k job}, s.job? k = some job → job.state.isTerminal →
    ∃ job', s'.job? k = some job' ∧ job'.state = job.state
  row : ∀ {k d row}, s.device? k d = some row → row.state.isTerminal → s'.device? k d = some row

theorem TerminalKept.refl (s : Store) : TerminalKept s s :=
  ⟨fun hjob _ => ⟨_, hjob, rfl⟩, fun hrow _ => hrow⟩

theorem TerminalKept.trans {s t u : Store} (h : TerminalKept s t) (h' : TerminalKept t u) :
    TerminalKept s u where
  job hjob hterminal := by
    obtain ⟨job', hjob', hstate⟩ := h.job hjob hterminal
    obtain ⟨job'', hjob'', hstate'⟩ := h'.job hjob' (hstate ▸ hterminal)
    exact ⟨job'', hjob'', hstate'.trans hstate⟩
  row hrow hterminal := h'.row (h.row hrow hterminal) hterminal

section Runs

variable {indexed : Bool} {s : Store} {call : Millis × RuntimeCall}

/-- One step of a consistent store. -/
theorem Consistent.lawfulStep (hc : Consistent s) (hissued : call.2.Issued s) :
    LawfulStep indexed s call where
  job hjob hjob' hne := hc.job_edge (runtimeStep_effect indexed s call) hissued hjob hjob' hne
  row hrow hrow' hne := by
    obtain ⟨row'', hrow'', hchange⟩ := (runtimeStep_effect indexed s call).rowChange hrow
    rw [hrow', Option.some.injEq] at hrow''
    subst hrow''
    exact hchange.edge hne

/-- Terminal states have no edge out, and terminal rows are not written. -/
theorem LawfulStep.terminalKept (h : LawfulStep indexed s call) (hissued : call.2.Issued s) :
    TerminalKept s (s.runtimeStep indexed call) where
  job {k job} hjob hterminal := by
    obtain ⟨job', hjob', -⟩ := (runtimeStep_effect indexed s call).jobChange hjob
    refine ⟨job', hjob', ?_⟩
    by_contra hne
    have hedge := h.job hjob hjob' hne
    rw [jobTransitions_of_isTerminal hterminal] at hedge
    exact List.not_mem_nil hedge
  row {k d row} hrow hterminal := by
    obtain ⟨row', hrow', hchange⟩ := (runtimeStep_effect indexed s call).rowChange hrow
    rw [hrow', hchange.eq_of_terminal hissued hterminal]

/-- The invariant a run carries, and the condition on its steps. -/
private theorem consistent_runtimeStep (hinv : WellFormed s ∧ Consistent s)
    (hcall : call.2.Issued s ∧ GateSafe s call) :
    WellFormed (s.runtimeStep indexed call) ∧ Consistent (s.runtimeStep indexed call) :=
  have e := runtimeStep_effect indexed s call
  ⟨hinv.1.effect e, hinv.2.effect hinv.1 e hcall.1 hcall.2⟩

/-- **Job and device states over whole runs.** In every run of the runtime's calls from the empty
store that opens the gate of a `ready` job only while one of its rows can still be dispatched, at
every moment of the run: every dispatched job has the state its device rows derive to; from then
on terminal jobs keep their state and terminal rows are not written; and every later step changes
job and device states along the edges of the tables only, but for the shortcut of
`settle_result`. -/
theorem state_consistency (earlier later : List (Millis × RuntimeCall))
    (hrun : RuntimeRun indexed initial (earlier ++ later))
    (hgate : Run.Along (runtimeStep indexed) GateSafe initial (earlier ++ later)) :
    DerivedStates (runtimeExec indexed initial earlier) ∧
    TerminalKept (runtimeExec indexed initial earlier)
      (runtimeExec indexed initial (earlier ++ later)) ∧
    Run.Along (runtimeStep indexed) (LawfulStep indexed)
      (runtimeExec indexed initial earlier) later := by
  obtain ⟨hearlier, hlater⟩ := Run.along_append.mp (hrun.and hgate)
  have hinv := hearlier.invariant (fun _ _ => consistent_runtimeStep) ⟨.initial, .initial⟩
  have hsteps := (hlater.strengthen (fun _ _ => consistent_runtimeStep) hinv).mono
    (Q := fun s call => call.2.Issued s ∧ LawfulStep indexed s call)
    fun _ _ h => ⟨h.2.1, h.1.2.lawfulStep h.2.1⟩
  refine ⟨hinv.2.derivedStates, ?_, hsteps.mono fun _ _ h => h.2⟩
  rw [runtimeExec, runtimeExec, Run.exec_append]
  exact hsteps.relates .refl (fun _ _ _ => .trans) fun _ _ h => h.2.terminalKept h.1

end Runs

private theorem publishedJob_issued (later : List (Millis × RuntimeCall))
    (hlater : RuntimeRun true (runtimeExec true initial publishedJob) later) :
    RuntimeRun true initial (publishedJob ++ later) :=
  Run.along_append.mpr ⟨⟨trivial, trivial, trivial, trivial, trivial⟩, hlater⟩

/-- The gate of a published job is opened while its row is queued. -/
theorem state_consistency_published :
    RuntimeRun true initial (publishedJob ++ [(50, .pushFiles "job-1")]) ∧
    DerivedStates (runtimeExec true initial (publishedJob ++ [(50, .pushFiles "job-1")])) := by
  have hrun := publishedJob_issued [(50, .pushFiles "job-1")] ⟨trivial, trivial⟩
  have hrow : ((runtimeExec true initial publishedJob).device? "job-1" "quest-1").map
      DeviceRow.state = some .queued := by decide +kernel
  have hgate : Run.Along (runtimeStep true) GateSafe initial
      (publishedJob ++ [(50, .pushFiles "job-1")]) := by
    refine Run.along_append.mpr ⟨⟨trivial, trivial, trivial, trivial, trivial⟩, ?_, trivial⟩
    intro job _ _
    obtain ⟨row, hfound, hstate⟩ := Option.map_eq_some_iff.mp hrow
    exact ⟨"quest-1", row, hfound, by rw [hstate]; rfl⟩
  refine ⟨hrun, ?_⟩
  have h := state_consistency (publishedJob ++ [(50, .pushFiles "job-1")]) []
    (by simpa using hrun) (by simpa using hgate)
  exact h.1

/-- The device registers with the wrong artifact before the gate of the job is opened: its row
fails, and opening the gate makes the job `running` with nothing left to run. -/
theorem running_without_rows :
    ¬ ∀ calls, RuntimeRun true initial calls → DerivedStates (runtimeExec true initial calls) := by
  intro h
  let later : List (Millis × RuntimeCall) :=
    [(50, .unknownActive "quest-1" ⟨some "job-1", .one, some (some "artifact-2"),
        some "downloading", false⟩ .jobV1 (some "process-1")
        "REGISTER active state conflicted with the canonical artifact"),
     (60, .transition (.artifactMismatch .queued) "job-1" "quest-1"),
     (70, .pushFiles "job-1")]
  have hderived := h (publishedJob ++ later)
    (publishedJob_issued later ⟨trivial, rfl, trivial, trivial⟩)
  have hjob : ((runtimeExec true initial (publishedJob ++ later)).job? "job-1").map JobRow.state =
      some .running := by decide +kernel
  obtain ⟨job, hfound, hstate⟩ := Option.map_eq_some_iff.mp hjob
  have hmust := hderived "job-1" job hfound (.inl (by rw [hstate]; decide))
  rw [hstate] at hmust
  exact absurd hmust (by decide +kernel)

end Store

end StylyMdm.PushJobs
