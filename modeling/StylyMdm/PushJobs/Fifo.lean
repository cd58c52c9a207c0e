import StylyMdm.PushJobs.StateMachine

/-!
# First in, first out on every device

The rows of a device are claimed in the order of their `enqueue_seq`. The results here hold for
every sequence of store operations, with any arguments: they need neither the order in which the
runtime calls them nor the unique index.

A claim looks at the whole queue of the device, so when it takes a row, every older row is done
with: it is terminal, or its job is. Both are final, and rows that are created later get larger
numbers, so no later claim can go back behind it.

`Done` is a row that will not be claimed any more, `Passed n` that all rows of the device below the
number `n` are done. A claim of the row `n` leaves `Passed n` (`passed_of_claimed`), every operation
keeps it (`Passed.effect`), and a row that is claimed is not done before (`not_done_of_claimed`). So
the numbers that are claimed for one device never decrease along the run (`pairwise_claimedSeqs`).
-/

namespace StylyMdm.PushJobs

namespace Store

/-! ### Terminal jobs -/

/-- A job that has succeeded or completed with errors still has the state its rows derive to. -/
def JobsSettled (s : Store) : Prop :=
  ∀ k job, s.job? k = some job →
    job.state = .succeeded ∨ job.state = .completedWithErrors →
    deriveDispatchedJobState (s.jobStates k) = some job.state

theorem JobsSettled.initial : JobsSettled initial := by
  intro k job hjob
  exact absurd hjob (by simp [job?, Store.initial])

section Step

variable {now : Millis} {s s' : Store} {op : Op} {k : JobId} {job job' : JobRow}

/-- The rows of such a job are terminal. -/
theorem JobsSettled.row_terminal (hset : JobsSettled s) (hjob : s.job? k = some job)
    (hstate : job.state = .succeeded ∨ job.state = .completedWithErrors) {d : DeviceId}
    {row : DeviceRow} (hrow : s.device? k d = some row) : row.state.isTerminal := by
  refine (isTerminal_derive_iff (hset _ _ hjob hstate)).mp ?_ _
    (mem_jobStates.mpr ⟨d, row, hrow, rfl⟩)
  rcases hstate with h | h <;> (rw [h]; rfl)

/-- The rows of a job whose rows are all terminal keep their states. -/
theorem derive_of_terminal (e : Effect now s op s') (hjob : s.job? k = some job)
    (hall : ∀ {d row}, s.device? k d = some row → row.state.isTerminal) :
    deriveDispatchedJobState (s'.jobStates k) = deriveDispatchedJobState (s.jobStates k) := by
  refine derive_congr fun state => ?_
  rw [mem_jobStates, mem_jobStates]
  constructor
  · rintro ⟨d, row', hrow', rfl⟩
    rcases e.row_cases hrow' with ⟨row, hrow, hchange⟩ | ⟨_, _, _, _, hnone, _⟩
    · exact ⟨d, row, hrow, (hchange.terminal_stays (hall hrow)).symm⟩
    · exact absurd (hnone.symm.trans hjob) (by simp)
  · rintro ⟨d, row, hrow, rfl⟩
    obtain ⟨row', hrow', hchange⟩ := e.rowChange hrow
    exact ⟨d, row', hrow', hchange.terminal_stays (hall hrow)⟩

/-- A rederivation leaves the state alone or writes the derived one. -/
theorem rederived_state_cases (s : Store) (timestamp : Millis) (job : JobRow) :
    (s.rederived timestamp job).state = job.state ∨ (rederiveSkips job.state = false ∧
      deriveDispatchedJobState (s.jobStates job.jobId) =
        some (s.rederived timestamp job).state) := by
  rw [rederived_state]
  by_cases hskip : rederiveSkips job.state
  · exact .inl (if_pos hskip)
  · rw [if_neg hskip]
    rcases deriveDispatchedJobState (s.jobStates job.jobId) with _ | derived
    · exact .inl rfl
    · exact .inr ⟨by simpa using hskip, rfl⟩

/-- How the state of a job changes: not at all, from a state that is not terminal to one that no
rows are derived to, or to the derived one. -/
theorem JobChange.state_cases (h : JobChange now s s' job op job') :
    job'.state = job.state ∨
    (job.state.isTerminal = false ∧ job'.state ≠ .succeeded ∧
      job'.state ≠ .completedWithErrors) ∨
    (rederiveSkips job.state = false ∧
      deriveDispatchedJobState (s'.jobStates job.jobId) = some job'.state) := by
  cases h with
  | same hrows => exact .inl rfl
  | bumped hrows => exact .inl rfl
  | touched =>
    exact (rederived_state_cases _ _ (bumpedJob _ job)).imp_right .inr
  | published hrows h => exact .inr (.inl ⟨by rw [h]; rfl, by simp [artifactReady]⟩)
  | artifactMissing hrows h => exact .inr (.inl ⟨by rw [h]; rfl, by simp [artifactMissingJob]⟩)
  | recovered =>
    rcases recoverJob_cases now job with hrec | ⟨hint, -, hpre⟩ | ⟨hrec, -⟩
    · rw [hrec]
      exact (rederived_state_cases _ _ job).imp_right .inr
    · -- an interrupted job is not rederived
      have hskip : rederiveSkips ((recoverJob now job).getD job).state := by
        rw [hint]
        rfl
      refine .inr (.inl ?_)
      rw [rederived_state, if_pos hskip, hint]
      rcases hpre with h | h | h <;> simp [h, JobState.isTerminal]
    · rw [hrec]
      exact (rederived_state_cases _ _ (dispatchPaused now job)).imp_right .inr
  | edit hrows edit =>
    cases edit with
    | preDispatchFailed hfailed hvalid =>
      rename_i state code detail
      change state = job.state ∨ _ ∧ state ≠ _ ∧ state ≠ _ ∨ _
      rw [validJobTransition, Bool.or_eq_true, Bool.and_eq_true, decide_eq_true_eq] at hvalid
      rcases hvalid with heq | ⟨hopen, -⟩
      · exact .inl heq.symm
      · refine .inr (.inl ⟨by simpa using hopen, ?_⟩)
        rcases hfailed with rfl | rfl <;> decide
    | gateOpened h hclosed =>
      by_cases hready : job.state = .ready
      · exact .inr (.inl (by simp [gateOpened, hready, JobState.isTerminal]))
      · exact .inl (by simp [gateOpened, hready])
    | uploadStarted h hnow => exact .inr (.inl ⟨by rw [h]; rfl, by simp [uploadStarted]⟩)
    | uploadNotStarted h hnow => exact .inr (.inl ⟨by rw [h]; rfl, by simp [uploadNotStarted]⟩)
    | expired h hnow => exact .inr (.inl ⟨by rw [h]; rfl, by simp [uploadNotStarted]⟩)
    | packagingStarted h => exact .inr (.inl ⟨by rw [h]; rfl, by simp [packagingStarted]⟩)

/-- **Terminal jobs are final**, whatever operations are called. -/
theorem JobsSettled.terminal_stays (hset : JobsSettled s) (e : Effect now s op s')
    (hjob : s.job? k = some job) (hjob' : s'.job? k = some job')
    (hterminal : job.state.isTerminal) : job'.state = job.state := by
  obtain ⟨job'', hjob'', hchange⟩ := e.jobChange hjob
  rw [hjob', Option.some.injEq] at hjob''
  subst hjob''
  obtain rfl := jobId_of_job? hjob
  rcases hchange.state_cases with heq | ⟨hopen, -⟩ | ⟨hskip, hderived⟩
  · exact heq
  · rw [hopen] at hterminal
    exact Bool.noConfusion hterminal
  · have hstate : job.state = .succeeded ∨ job.state = .completedWithErrors := by
      revert hterminal hskip
      rcases job.state <;> decide
    rw [derive_of_terminal e hjob (hset.row_terminal hjob hstate), hset _ _ hjob hstate,
      Option.some.injEq] at hderived
    exact hderived.symm

/-- Every operation keeps the settled jobs settled. -/
theorem JobsSettled.effect (hset : JobsSettled s) (e : Effect now s op s') : JobsSettled s' := by
  intro k job' hjob' hstate'
  rcases e.job_cases hjob' with ⟨job, hjob, hchange⟩ | ⟨_, _, _, -, rfl⟩
  · obtain rfl := jobId_of_job? hjob
    rcases hchange.state_cases with heq | ⟨-, hsucc, herr⟩ | ⟨-, hderived⟩
    · rw [heq] at hstate' ⊢
      rw [derive_of_terminal e hjob (hset.row_terminal hjob hstate'), hset _ _ hjob hstate']
    · exact absurd hstate' (not_or.mpr ⟨hsucc, herr⟩)
    · exact hderived
  · exact absurd hstate' (by simp [newJobRow])

end Step

/-! ### Rows that are done with -/

/-- The row is terminal or belongs to a terminal job. -/
def Done (s : Store) (k : JobId) (row : DeviceRow) : Prop :=
  row.state.isTerminal ∨ ∃ job, s.job? k = some job ∧ job.state.isTerminal

/-- Every row of the device below `seq` is done with, and `seq` has been given out. -/
structure Passed (s : Store) (d : DeviceId) (seq : Nat) : Prop where
  done : ∀ {k row}, s.device? k d = some row → row.enqueueSeq < seq → Done s k row
  given : seq ≤ s.nextEnqueueSeq

section Queue

variable {now : Millis} {s s' : Store} {op : Op} {online : List DeviceId} {row : DeviceRow}

/-- When a row is claimed, every older row of its device is done with. -/
theorem done_of_claimed (hwf : WellFormed s) (hclaim : s.claimCandidate online = some row)
    {k : JobId} {other : DeviceRow} (hother : s.device? k row.deviceId = some other)
    (hlt : other.enqueueSeq < row.enqueueSeq) : Done s k other := by
  have hspec := claimable_of_candidate hclaim
  rcases other.state.queued_or_active_or_terminal with hqueued | hactive | hterminal
  · obtain ⟨job, hjob⟩ := hwf.jobOfRow hother
    refine .inr ⟨job, hjob, ?_⟩
    by_contra hopen
    -- a queued row of an open job would have been chosen before this one
    have hnonterminal : isNonTerminalValue job.state := by
      revert hopen
      rcases job.state <;> decide
    have hle := hspec.oldest k other hother hqueued ⟨job, hjob, hnonterminal⟩
    omega
  · rw [hspec.noActive k other hother] at hactive
    exact Bool.noConfusion hactive
  · exact .inl hterminal

theorem passed_of_claimed (hwf : WellFormed s) (hclaim : s.claimCandidate online = some row) :
    Passed s row.deviceId row.enqueueSeq where
  done hother hlt := done_of_claimed hwf hclaim hother hlt
  given := (hwf.seqLt (claimable_of_candidate hclaim).found).le

/-- A row that can be claimed is not done with. -/
theorem not_done_of_claimed (hclaim : s.claimCandidate online = some row) :
    ¬ Done s row.jobId row := by
  have hspec := claimable_of_candidate hclaim
  rintro (hterminal | ⟨job, hjob, hterminal⟩)
  · exact DeviceState.ne_queued_of_terminal hterminal hspec.queued
  · obtain ⟨job', hjob', -, hstate⟩ := hspec.gateOpen
    rw [hjob, Option.some.injEq] at hjob'
    subst hjob'
    rcases hstate with h | h <;> exact absurd hterminal (by rw [h]; decide)

/-- No operation brings back a row that is done with. -/
theorem Done.effect {k : JobId} {row' : DeviceRow} (hset : JobsSettled s)
    (e : Effect now s op s') (h : Done s k row) (hchange : RowChange now s row op row') :
    Done s' k row' := by
  rcases h with hterminal | ⟨job, hjob, hterminal⟩
  · refine .inl ?_
    rw [hchange.terminal_stays hterminal]
    exact hterminal
  · obtain ⟨job', hjob', -⟩ := e.jobChange hjob
    refine .inr ⟨job', hjob', ?_⟩
    rw [hset.terminal_stays e hjob hjob' hterminal]
    exact hterminal

/-- No operation puts a row behind a number that has been passed. -/
theorem Passed.effect {d : DeviceId} {seq : Nat} (hset : JobsSettled s) (e : Effect now s op s')
    (h : Passed s d seq) : Passed s' d seq where
  done {k row'} hrow' hlt := by
    rcases e.row_cases hrow' with ⟨row, hrow, hchange⟩ |
      ⟨_, _, _, _, _, _, i, protocol, capabilities, _, rfl⟩
    · rw [hchange.enqueueSeq_eq] at hlt
      exact (h.done hrow hlt).effect hset e hchange
    · -- a new row gets a number that was not given out before
      have hge : s.nextEnqueueSeq + i < seq := hlt
      have hgiven := h.given
      omega
  given := h.given.trans e.nextEnqueueSeq_le

end Queue

/-! ### The claims of a run -/

/-- The `enqueue_seq` of the row of device `d` that a call claims, if it claims one. -/
def claimedSeq (indexed : Bool) (d : DeviceId) (s : Store) (call : Millis × Op) : Option Nat :=
  match call.2.run indexed call.1 s with
  | .ok (_, .claimed (some row)) => if row.deviceId = d then some row.enqueueSeq else none
  | _ => none

/-- The `enqueue_seq` values of the rows of device `d` that a run claims, in their order. -/
def claimedSeqs (indexed : Bool) (d : DeviceId) : Store → List (Millis × Op) → List Nat
  | _, [] => []
  | s, call :: calls =>
    (claimedSeq indexed d s call).toList ++ claimedSeqs indexed d (s.step indexed call) calls

/-- The row `claim_next` returns is the candidate it selected. -/
theorem claimNext_eq_some {indexed : Bool} {s s' : Store} {now : Millis} {online : List DeviceId}
    {row : DeviceRow} {shown : JobSnapshot}
    (h : s.claimNext indexed now online = .ok (s', some (row, shown))) :
    ∃ old, s.claimCandidate online = some old ∧ row = claimedRow now old := by
  rw [claimNext] at h
  split at h
  · exact absurd h (by simp)
  · rename_i old hclaim
    split at h
    · exact absurd h (by simp)
    · obtain ⟨⟨t, shown'⟩, -, hr⟩ := Except.bind_eq_ok.mp h
      cases hr
      exact ⟨old, hclaim, rfl⟩

theorem claimedSeq_eq_some {indexed : Bool} {d : DeviceId} {s : Store} {call : Millis × Op}
    {seq : Nat} (h : claimedSeq indexed d s call = some seq) :
    ∃ online row, s.claimCandidate online = some row ∧ row.deviceId = d ∧ row.enqueueSeq = seq := by
  unfold claimedSeq at h
  split at h
  · rename_i s' row hrun
    obtain ⟨hd, hseq⟩ := Option.ite_none_right_eq_some.mp h
    obtain ⟨now, op⟩ := call
    cases op
    case claimNext online =>
      rw [Op.run] at hrun
      obtain ⟨⟨t, reply⟩, hr, heq⟩ := Except.map_eq_ok.mp hrun
      rcases reply with _ | ⟨claimed, shown⟩
      · exact absurd (congrArg Prod.snd heq) (by simp)
      · obtain ⟨old, hclaim, rfl⟩ := claimNext_eq_some hr
        cases heq
        exact ⟨online, old, hclaim, hd, Option.some.inj hseq⟩
    all_goals
      rw [Op.run] at hrun
      obtain ⟨r, hr, heq⟩ := Except.map_eq_ok.mp hrun
      exact absurd (congrArg Prod.snd heq) (by simp)
  · exact absurd h (by simp)

section Runs

variable {indexed : Bool} {s : Store} {d : DeviceId} {calls : List (Millis × Op)}

/-- After a number has been passed, no smaller one is claimed. -/
theorem Passed.le_claimed {seq : Nat} (hset : JobsSettled s) (h : Passed s d seq) :
    ∀ seq' ∈ claimedSeqs indexed d s calls, seq ≤ seq' := by
  induction calls generalizing s with
  | nil => simp [claimedSeqs]
  | cons call calls ih =>
    have e := step_effect indexed s call
    intro seq' hmem
    rw [claimedSeqs, List.mem_append, Option.mem_toList] at hmem
    rcases hmem with hhead | hrest
    · obtain ⟨online, row, hclaim, rfl, rfl⟩ := claimedSeq_eq_some hhead
      by_contra hlt
      exact not_done_of_claimed hclaim
        (h.done (claimable_of_candidate hclaim).found (not_le.mp hlt))
    · exact ih (hset.effect e) (h.effect hset e) seq' hrest

/-- The numbers of a device are claimed in ascending order. -/
theorem pairwise_claimedSeqs (hwf : WellFormed s) (hset : JobsSettled s) :
    (claimedSeqs indexed d s calls).Pairwise (· ≤ ·) := by
  induction calls generalizing s with
  | nil => exact .nil
  | cons call calls ih =>
    have e := step_effect indexed s call
    rw [claimedSeqs, List.pairwise_append]
    refine ⟨?_, ih (hwf.effect e) (hset.effect e), ?_⟩
    · rcases claimedSeq indexed d s call <;> simp
    · intro seq hhead seq' hrest
      rw [Option.mem_toList] at hhead
      obtain ⟨online, row, hclaim, rfl, rfl⟩ := claimedSeq_eq_some hhead
      exact ((passed_of_claimed hwf hclaim).effect hset e).le_claimed (hset.effect e) seq' hrest

end Runs

/-- Every reachable store has its settled jobs settled. -/
theorem Reachable.jobsSettled {indexed : Bool} {s : Store} (h : Reachable indexed s) :
    JobsSettled s := by
  obtain ⟨calls, rfl⟩ := h
  exact Run.exec_invariant
    (fun s call hs => JobsSettled.effect hs (step_effect indexed s call)) JobsSettled.initial calls

/-- **Per-device first in, first out.** After any run of store operations: `enqueue_seq` values are
unique, and a row that any next operation creates gets a value above all that exist; the values of
the rows of a device are claimed in ascending order; and at the moment a row is claimed, every row
of its device with a smaller value is terminal or belongs to a terminal job. -/
theorem per_device_fifo (indexed : Bool) (calls : List (Millis × Op)) :
    let s := exec indexed initial calls
    (∀ k d row k' d' row', s.device? k d = some row → s.device? k' d' = some row' →
      row.enqueueSeq = row'.enqueueSeq → k = k' ∧ d = d') ∧
    (∀ call k d row k' d' row', s.device? k d = some row → s.device? k' d' = none →
      (s.step indexed call).device? k' d' = some row' → row.enqueueSeq < row'.enqueueSeq) ∧
    (∀ d, (claimedSeqs indexed d initial calls).Pairwise (· ≤ ·)) ∧
    ∀ now online s' row shown, s.claimNext indexed now online = .ok (s', some (row, shown)) →
      ∀ k other, s.device? k row.deviceId = some other → other.enqueueSeq < row.enqueueSeq →
        other.state.isTerminal ∨ ∃ job, s.job? k = some job ∧ job.state.isTerminal := by
  intro s
  have hwf : WellFormed s := Reachable.wellFormed ⟨calls, rfl⟩
  refine ⟨fun k d row k' d' row' => hwf.seqInj, ?_,
    fun d => pairwise_claimedSeqs .initial JobsSettled.initial, ?_⟩
  · intro call k d row k' d' row' hrow hnone hrow'
    obtain ⟨_, _, _, -, -, -, i, _, _, -, rfl⟩ :=
      (step_effect indexed s call).row_of_new hnone hrow'
    have hlt : row.enqueueSeq < s.nextEnqueueSeq := hwf.seqLt hrow
    change row.enqueueSeq < s.nextEnqueueSeq + i
    omega
  · intro now online s' row shown hclaim k other hother hlt
    obtain ⟨old, hcandidate, rfl⟩ := claimNext_eq_some hclaim
    exact done_of_claimed hwf hcandidate hother hlt

end Store

end StylyMdm.PushJobs
