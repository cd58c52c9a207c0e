import StylyMdm.PushJobs.RuntimeCalls

/-!
# One active assignment per device

The invariant behind the claim rule of the scheduler: a device has at most one active row, and a
fence that names a job stands on an unconfirmed row of that job. Neither uses the partial unique
index `ux_push_job_device_active`: the runs here execute with `indexed := false`, so an
`IntegrityError` could not come to the rescue.

A row becomes active through `claim_next` only, and `claim_next` looks for another active row
first. Every other edge between the active states starts in an active state.

So a row that is active after a step was active before it, or is the one that `claim_next` has taken
(`RowChange.active_cases`). The step lemma compares two active rows of one device by this: if the
claim took one of them, the other would have stood in its way.
-/

namespace StylyMdm.PushJobs

namespace Store

/-! ### What a claim has checked -/

/-- The row `claim_next` selects, and what its `WHERE` clause has established. -/
structure Claimable (s : Store) (online : List DeviceId) (row : DeviceRow) : Prop where
  found : s.device? row.jobId row.deviceId = some row
  queued : row.state = .queued
  isOnline : row.deviceId ∈ online
  gateOpen : ∃ job, s.job? row.jobId = some job ∧ job.dispatchEnabled = true ∧
    (job.state = .running ∨ job.state = .reconciling)
  unfenced : s.fence? row.deviceId = none
  noActive : ∀ k other, s.device? k row.deviceId = some other → other.state.isActive = false
  oldest : ∀ k other, s.device? k row.deviceId = some other → other.state = .queued →
    (∃ job, s.job? k = some job ∧ isNonTerminalValue job.state) →
    row.enqueueSeq ≤ other.enqueueSeq

theorem claimable_of_candidate {s : Store} {online : List DeviceId} {row : DeviceRow}
    (h : s.claimCandidate online = some row) : Claimable s online row := by
  obtain ⟨hmem, hclaim⟩ := List.mem_filter.mp (List.argmin_mem h)
  simp only [claimable, Bool.and_eq_true, decide_eq_true_eq, Bool.not_eq_true',
    Option.isNone_iff_eq_none] at hclaim
  obtain ⟨⟨⟨⟨⟨hqueued, honline⟩, hgate⟩, hfence⟩, hactive⟩, holdest⟩ := hclaim
  refine ⟨mem_devices.mp hmem, hqueued, honline, ?_, hfence, ?_, ?_⟩
  · rw [Option.any_eq_true] at hgate
    obtain ⟨job, hjob, hstate⟩ := hgate
    simp only [Bool.and_eq_true, Bool.or_eq_true, decide_eq_true_eq] at hstate
    exact ⟨job, hjob, hstate⟩
  · intro k other hother
    obtain ⟨rfl, hd⟩ := key_of_device? hother
    rw [← hd] at hother
    rw [List.any_eq_false] at hactive
    simpa [hd] using hactive other (mem_devices.mpr hother)
  · intro k other hother hstate ⟨job, hjob, hnonterminal⟩
    obtain ⟨rfl, hd⟩ := key_of_device? hother
    rw [← hd] at hother
    rw [oldestQueued] at holdest
    refine (List.min?_eq_some_iff.mp holdest).2 _ (List.mem_map_of_mem (List.mem_filter.mpr
      ⟨mem_devices.mpr hother, ?_⟩))
    simp [hd, hstate, hjob, hnonterminal]

/-! ### The invariant -/

/-- At most one active row per device, and every job fence stands on an unconfirmed row. -/
structure Exclusive (s : Store) : Prop where
  activeUnique : ∀ {d k k' row row'}, s.device? k d = some row → s.device? k' d = some row' →
    row.state.isActive → row'.state.isActive → k = k'
  fenceUnconfirmed : ∀ {d fence j}, s.fence? d = some fence → fence.blocker = .job j →
    ∃ row, s.device? j d = some row ∧ row.state = .unconfirmed

theorem Exclusive.initial : Exclusive initial where
  activeUnique h := absurd h (by simp [device?, Store.initial])
  fenceUnconfirmed h := absurd h (by simp [fence?, Store.initial])

section Step

variable {now : Millis} {s : Store} {op : Op} {row row' : DeviceRow}

/-- Only active rows can be settled. -/
theorem isActive_of_settleAllowed {state : DeviceState} (h : settleAllowed state) :
    state.isActive := by
  revert h
  cases state <;> decide

/-- A restart makes no row active that was not. -/
private theorem isActive_recoverRow {acceptTimeout timeout : Nat}
    (h : ((recoverRow now acceptTimeout timeout row).getD row).state.isActive) :
    row.state.isActive := by
  rcases hstate : row.state
  case reconciling => rfl
  all_goals simp_all [recoverRow, DeviceState.isActive]

/-- The operations that do not move a row from `queued` to `waiting_transfer` by name. -/
def NoBareClaim : Op → Prop
  | .transitionDevice _ _ _ target _ _ => target ≠ .waitingTransfer
  | _ => True

theorem noBareClaim_op (call : RuntimeCall) : NoBareClaim call.op := by
  cases call with
  | transition site jobId deviceId =>
    change site.target ≠ .waitingTransfer
    cases site <;> exact DeviceState.noConfusion
  | _ => exact trivial

/-- **The only way into the active states is a claim.** -/
theorem RowChange.active_cases (h : RowChange now s row op row') (hop : NoBareClaim op)
    (hactive : row'.state.isActive) :
    row.state.isActive ∨ ∃ online, op = .claimNext online ∧ s.claimCandidate online = some row := by
  have hvalid : ∀ {target}, validDeviceTransition row.state target → target ≠ .waitingTransfer →
      target.isActive → row.state.isActive := by
    intro target hvalid hne htarget
    by_contra hrow
    exact hne (claim_edge_of_validDeviceTransition hvalid (by simpa using hrow) htarget).2
  cases h with
  | same => exact .inl hactive
  | edit edit =>
    cases edit with
    | transition hexpected hedge => exact .inl (hvalid hedge hop hactive)
    | markReconciling hexpected hedge => exact .inl (hvalid hedge (by decide) rfl)
    | settle hstate => exact .inl (isActive_of_settleAllowed hstate)
    | claim hclaim => exact .inr ⟨_, rfl, hclaim⟩
    | prepare hstate => exact .inl (by rw [hstate]; rfl)
    | acceptanceExpired hstate haccepted hdeadline => exact .inl (by rw [hstate]; rfl)
    | reportActive hstate hphase => exact .inl (by rw [hstate]; rfl)
    | reportRequeued hstate hjob hreplay => exact .inl (by rw [hstate]; rfl)
    | reportInterrupted hstate hstatus hreplay => exact .inl (by rw [hstate]; rfl)
  | unconfirmed hstate => exact .inl (by rw [hstate]; rfl)
  | recovered => exact .inl (isActive_recoverRow hactive)
  | artifactMissing hjob hdispatched hneeds =>
    exact absurd hactive (by simp [artifactMissingRow, DeviceState.isActive])

/-- A terminal row stays as it is, unless `transition_device` is asked to write its fields. -/
theorem RowChange.terminal_cases (h : RowChange now s row op row')
    (hterminal : row.state.isTerminal) :
    row' = row ∨ ∃ expected fields idempotent,
      op = .transitionDevice row.jobId row.deviceId expected row.state fields idempotent ∧
      (∀ states, expected = some states → row.state ∈ states) ∧
      row' = transitionedRow now row.state fields row := by
  have hne : ∀ {state : DeviceState}, row.state = state → state.isTerminal = false → False := by
    intro state heq hfalse
    rw [heq, hfalse] at hterminal
    exact Bool.noConfusion hterminal
  cases h with
  | same => exact .inl rfl
  | edit edit =>
    cases edit with
    | transition hexpected hedge =>
      obtain rfl := eq_of_validDeviceTransition_terminal hedge hterminal
      exact .inr ⟨_, _, _, rfl, hexpected, rfl⟩
    | markReconciling hexpected hedge =>
      exact (hne (eq_of_validDeviceTransition_terminal hedge hterminal).symm rfl).elim
    | settle hallowed =>
      have hactive := isActive_of_settleAllowed hallowed
      rw [DeviceState.not_active_of_terminal hterminal] at hactive
      exact Bool.noConfusion hactive
    | claim hclaim => exact (hne (claimable_of_candidate hclaim).queued rfl).elim
    | prepare h => exact (hne h rfl).elim
    | acceptanceExpired h haccepted hdeadline => exact (hne h rfl).elim
    | reportActive h hphase => exact (hne h rfl).elim
    | reportRequeued h hjob hreplay => exact (hne h rfl).elim
    | reportInterrupted h hstatus hreplay => exact (hne h rfl).elim
  | unconfirmed h => exact (hne h rfl).elim
  | recovered =>
    rename_i acceptTimeout timeout
    have hnone : recoverRow now acceptTimeout timeout row = none := by
      rcases hstate : row.state
      case reconciling => exact (hne hstate rfl).elim
      all_goals first
        | exact (hne hstate rfl).elim
        | simp [recoverRow, hstate]
    rw [hnone]
    exact .inl rfl
  | artifactMissing hjob hdispatched hneeds =>
    revert hneeds
    rcases hstate : row.state
    all_goals first
      | exact (hne hstate rfl).elim
      | exact fun hneeds => absurd hneeds (by decide)

/-- A terminal row keeps its state. -/
theorem RowChange.terminal_stays (h : RowChange now s row op row')
    (hterminal : row.state.isTerminal) : row'.state = row.state := by
  rcases h.terminal_cases hterminal with rfl | ⟨expected, fields, idempotent, -, -, rfl⟩
  · rfl
  · rfl

end Step

/-- Every operation that claims only through `claim_next` keeps the invariant. -/
theorem Exclusive.effect {now : Millis} {s s' : Store} {op : Op} (hex : Exclusive s)
    (hop : NoBareClaim op) (e : Effect now s op s') : Exclusive s' where
  activeUnique := by
    intro d k k' row₁ row₂ hrow₁ hrow₂ hactive₁ hactive₂
    -- a new row is queued
    have hold : ∀ {k row'}, s'.device? k d = some row' → row'.state.isActive →
        ∃ row, s.device? k d = some row ∧ RowChange now s row op row' := by
      intro k row' hrow' hactive
      rcases e.row_cases hrow' with h | ⟨_, _, _, _, _, _, _, _, _, _, rfl⟩
      · exact h
      · exact absurd hactive (by simp [newDeviceRow, DeviceState.isActive])
    obtain ⟨row, hrow, hchange⟩ := hold hrow₁ hactive₁
    obtain ⟨row', hrow', hchange'⟩ := hold hrow₂ hactive₂
    -- the same claim cannot serve two rows, and finds no active row beside its own
    rcases hchange.active_cases hop hactive₁ with h | ⟨online, rfl, hclaim⟩ <;>
      rcases hchange'.active_cases hop hactive₂ with h' | ⟨online', hop', hclaim'⟩
    · exact hex.activeUnique hrow hrow' h h'
    · obtain ⟨-, rfl⟩ := key_of_device? hrow'
      have := (claimable_of_candidate hclaim').noActive k row hrow
      exact absurd h (by rw [this]; decide)
    · obtain ⟨-, rfl⟩ := key_of_device? hrow
      have := (claimable_of_candidate hclaim).noActive k' row' hrow'
      exact absurd h' (by rw [this]; decide)
    · cases hop'
      rw [hclaim, Option.some.injEq] at hclaim'
      subst hclaim'
      exact (key_of_device? hrow).1.symm.trans (key_of_device? hrow').1
  fenceUnconfirmed := by
    intro d fence j hfence hblocker
    have hchange := e.fenceChange d
    rw [hfence] at hchange
    generalize hnew : some fence = new at hchange
    cases hchange with
    | same =>
      obtain ⟨row, hrow, hstate⟩ := hex.fenceUnconfirmed hnew.symm hblocker
      obtain ⟨row', hrow', hrowChange⟩ := e.rowChange hrow
      refine ⟨row', hrow', ?_⟩
      rw [hrowChange.terminal_stays (by rw [hstate]; rfl), hstate]
    | settled h hb hrow hstate => exact absurd hnew (by simp)
    | cleared h hclear => exact absurd hnew (by simp)
    | unconfirmed hrow hstate hrow' hstate' hb hdue =>
      cases hnew
      rw [hb] at hblocker
      cases hblocker
      exact ⟨_, hrow', hstate'⟩
    | unknown hb hmode =>
      cases hnew
      rw [hb] at hblocker
      exact absurd hblocker (by simp)

/-! ### Runs of the runtime -/

/-- Every call of the runtime keeps the invariant, with or without the index. -/
theorem Exclusive.runtimeStep {s : Store} (hex : Exclusive s) (indexed : Bool)
    (call : Millis × RuntimeCall) : Exclusive (s.runtimeStep indexed call) :=
  hex.effect (noBareClaim_op call.2) (runtimeStep_effect indexed s call)

/-- The invariant holds in every state a run of the runtime reaches. -/
theorem Exclusive.runtimeExec {indexed : Bool} (calls : List (Millis × RuntimeCall)) :
    Exclusive (runtimeExec indexed Store.initial calls) :=
  Run.exec_invariant (fun _ call hs => hs.runtimeStep indexed call) .initial calls

/-- No claim would violate the index. -/
theorem activeIndexConflict_of_candidate {s : Store} {online : List DeviceId} {row : DeviceRow}
    (h : s.claimCandidate online = some row) :
    s.activeIndexConflict row.jobId row.deviceId .waitingTransfer = false := by
  have hnone := (claimable_of_candidate h).noActive
  rw [activeIndexConflict, Bool.and_eq_false_iff, List.any_eq_false]
  refine .inr fun other hother => ?_
  by_cases hd : other.deviceId = row.deviceId
  · simp [hnone other.jobId other (hd ▸ mem_devices.mp hother)]
  · simp [hd]

/-- **Device exclusivity and fencing.** In every state that the runtime's calls reach from the
empty store in any order, restarts included and with no help from the unique index: a device has
at most one active row, so that `claim_next` behaves the same with the index and without it; a
fence that names a job stands on an unconfirmed row of that job; and the row `claim_next` returns,
whatever devices are online, was queued on an unfenced device without an active row, under a
running or reconciling job with an open gate. -/
theorem device_exclusivity (calls : List (Millis × RuntimeCall)) :
    let s := runtimeExec false initial calls
    (∀ d k k' row row', s.device? k d = some row → s.device? k' d = some row' →
      row.state.isActive → row'.state.isActive → k = k') ∧
    (∀ now online, s.claimNext true now online = s.claimNext false now online) ∧
    (∀ d fence j, s.fence? d = some fence → fence.blocker = .job j →
      ∃ row, s.device? j d = some row ∧ row.state = .unconfirmed) ∧
    ∀ now online s' row shown, s.claimNext false now online = .ok (s', some (row, shown)) →
      s.fence? row.deviceId = none ∧
      (∀ k other, s.device? k row.deviceId = some other → other.state.isActive = false) ∧
      (∃ old, s.device? row.jobId row.deviceId = some old ∧ old.state = .queued) ∧
      ∃ job, s.job? row.jobId = some job ∧ job.dispatchEnabled = true ∧
        (job.state = .running ∨ job.state = .reconciling) := by
  intro s
  have hex : Exclusive s := Exclusive.runtimeExec calls
  refine ⟨fun d k k' row row' => hex.activeUnique, fun now online => ?_,
    fun d fence j => hex.fenceUnconfirmed, ?_⟩
  · rw [claimNext, claimNext]
    split
    · rfl
    · rename_i row hclaim
      rw [activeIndexConflict_of_candidate hclaim]
      rfl
  · intro now online s' row shown hclaim
    rw [claimNext] at hclaim
    split at hclaim
    · exact absurd hclaim (by simp)
    · rename_i old hcandidate
      rw [Bool.false_and, if_neg Bool.false_ne_true] at hclaim
      obtain ⟨⟨t, shown'⟩, -, hr⟩ := Except.bind_eq_ok.mp hclaim
      cases hr
      have hspec := claimable_of_candidate hcandidate
      exact ⟨hspec.unfenced, hspec.noActive, ⟨old, hspec.found, hspec.queued⟩, hspec.gateOpen⟩

end Store

end StylyMdm.PushJobs
