import StylyMdm.PushJobs.Effect

/-!
# Every operation has a listed effect

One lemma per method of `PushJobStore` and `PushJobManager`: from a successful call to the shape
of its change. They are the only proofs that look inside the operations. `step_effect` collects
them for a step of the store.

The lemmas come in the order of the methods. Those about transitions of a row share
`transitionDevice_cases`, those about fences the description of the jobs that show a fence. Where a
method reads before it writes, the lemma says what it has read in terms of the store before the
call; the guard of the effect is then exactly that.
-/

namespace StylyMdm.PushJobs

namespace Store

section Operations

variable {s s' : Store} {now : Millis} {jobId : JobId} {deviceId : DeviceId}

/-- A snapshot taken at the end of a transaction does not change the store. -/
private theorem eq_of_snapshot {t : Store} {r : Store × JobSnapshot}
    (h : (do let shown ← t.snapshot jobId; return (t, shown)) = Except.ok r) : r.1 = t := by
  obtain ⟨shown, -, hr⟩ := Except.bind_eq_ok.mp h
  cases hr
  rfl

theorem createJob_effect {request : CanonicalCreateRequest}
    {targetProtocols : DeviceId → Option (ProtocolMode × List String)} {timeout : Nat}
    {r : Store × Bool × JobSnapshot}
    (h : s.createJob now jobId request targetProtocols timeout = .ok r) :
    Effect now s (.createJob jobId request targetProtocols timeout) r.1 := by
  rw [createJob] at h
  split at h
  · split at h
    · exact absurd h (by simp)
    · obtain ⟨shown, -, hr⟩ := Except.bind_eq_ok.mp h
      cases hr
      exact .same
  · rename_i hrequest
    split at h
    · exact absurd h (by simp)
    · rename_i jobs hjobs
      obtain ⟨t, ht, h⟩ := Except.bind_eq_ok.mp h
      obtain ⟨shown, -, hr⟩ := Except.bind_eq_ok.mp h
      cases hr
      obtain ⟨hnew, hadd⟩ := Table.insert?_eq_some.mp hjobs
      obtain ⟨rows, hrows, devices, hdev, rfl⟩ := insertTargets_spec ht
      refine .create hnew ?_ hadd hrows hdev
      intro job hjob
      simpa using List.find?_eq_none.mp hrequest job hjob

theorem startUpload_effect {r : Store × UploadStart} (h : s.startUpload now jobId = .ok r) :
    Effect now s (.startUpload jobId) r.1 := by
  rw [startUpload] at h
  split at h
  · exact absurd h (by simp)
  · rename_i job hjob
    obtain rfl := jobId_of_job? hjob
    split at h
    · exact absurd h (by simp)
    · rename_i hstate
      rw [not_not] at hstate
      split at h
      · rename_i hnow
        obtain ⟨shown, -, hr⟩ := Except.bind_eq_ok.mp h
        cases hr
        exact .job hjob (.uploadNotStarted hstate hnow)
      · rename_i hnow
        obtain ⟨shown, -, hr⟩ := Except.bind_eq_ok.mp h
        cases hr
        exact .job hjob (.uploadStarted hstate (not_le.mp hnow))

theorem markPackaging_effect {files bytes : Nat} {r : Store × JobSnapshot}
    (h : s.markPackaging now jobId files bytes = .ok r) :
    Effect now s (.markPackaging jobId files bytes) r.1 := by
  rw [markPackaging] at h
  split at h
  · exact absurd h (by simp)
  · rename_i job hjob
    obtain rfl := jobId_of_job? hjob
    split at h
    · exact absurd h (by simp)
    · rename_i hstate
      rw [not_not] at hstate
      split at h
      · exact absurd h (by simp)
      · rw [eq_of_snapshot h]
        exact .job hjob (.packagingStarted hstate)

theorem publishArtifact_effect {artifact : PublishedArtifact} {r : Store × JobSnapshot}
    (h : s.publishArtifact now jobId artifact = .ok r) :
    Effect now s (.publishArtifact jobId artifact) r.1 := by
  rw [publishArtifact] at h
  split at h
  · exact absurd h (by simp)
  · rename_i job hjob
    obtain rfl := jobId_of_job? hjob
    split at h
    · exact absurd h (by simp)
    · rename_i hstate
      rw [not_not] at hstate
      split at h
      · exact absurd h (by simp)
      · split at h
        · exact absurd h (by simp)
        · rename_i artifacts hinsert
          obtain ⟨hnew, hadd⟩ := Table.insert?_eq_some.mp hinsert
          rw [eq_of_snapshot h]
          exact .publish hjob hstate hnew hadd

theorem failPreDispatch_effect {state : JobState} {code detail : String}
    {r : Store × JobSnapshot} (h : s.failPreDispatch now jobId state code detail = .ok r) :
    Effect now s (.failPreDispatch jobId state code detail) r.1 := by
  rw [failPreDispatch] at h
  split at h
  · exact absurd h (by simp)
  · rename_i hfailed
    have hor : state = .failed ∨ state = .interrupted := by
      by_cases hf : state = .failed
      · exact .inl hf
      · exact .inr (not_not.mp fun hi => hfailed ⟨hf, hi⟩)
    split at h
    · exact absurd h (by simp)
    · rename_i job hjob
      obtain rfl := jobId_of_job? hjob
      split at h
      · exact absurd h (by simp)
      · rename_i hvalid
        rw [eq_of_snapshot h]
        exact .job hjob (.preDispatchFailed hor (by simpa using hvalid))

theorem enableDispatch_effect {r : Store × Bool × JobSnapshot}
    (h : s.enableDispatch now jobId = .ok r) : Effect now s (.enableDispatch jobId) r.1 := by
  rw [enableDispatch] at h
  split at h
  · exact absurd h (by simp)
  · rename_i job hjob
    obtain rfl := jobId_of_job? hjob
    split at h
    · rename_i hstate
      split at h
      · obtain ⟨shown, -, hr⟩ := Except.bind_eq_ok.mp h
        cases hr
        exact .same
      · rename_i hclosed
        obtain ⟨shown, -, hr⟩ := Except.bind_eq_ok.mp h
        cases hr
        exact .job hjob (.gateOpened (by simpa using hstate) (by simpa using hclosed))
    · split at h
      · obtain ⟨shown, -, hr⟩ := Except.bind_eq_ok.mp h
        cases hr
        exact .same
      · exact absurd h (by simp)

theorem expireCreated_effect {deadline : Option Millis} {r : Store × Option JobSnapshot}
    (h : s.expireCreated now jobId deadline = .ok r) :
    Effect now s (.expireCreated jobId deadline) r.1 := by
  rw [expireCreated] at h
  split at h
  · cases h
    exact .same
  · rename_i job hjob
    obtain rfl := jobId_of_job? hjob
    split at h
    · cases h
      exact .same
    · rename_i hstate
      split at h
      · cases h
        exact .same
      · split at h
        · cases h
          exact .same
        · rename_i hnow
          obtain ⟨shown, -, hr⟩ := Except.bind_eq_ok.mp h
          cases hr
          exact .job hjob (.expired (not_not.mp hstate) (not_lt.mp hnow))

/-- An edit of one device row that ends with `touchJob`. -/
private theorem rowEffect {op : Op} {row : DeviceRow} {f : DeviceRow → DeviceRow}
    {hf : ∀ row, (f row).key = row.key} {r : Store × JobSnapshot}
    (hrow : s.device? row.jobId row.deviceId = some row) (edit : RowEdit now s row op f false)
    (h : (s.updateDevice row.jobId row.deviceId f hf).touchJob row.jobId now = .ok r) :
    Effect now s op r.1 := by
  rw [touchJob_eq h]
  exact .row hrow edit

/-- What `transition_device` commits. -/
private theorem transitionDevice_cases {indexed : Bool} {expected : Option (List DeviceState)}
    {target : DeviceState} {fields : DeviceFields} {idempotent : Bool} {r : Store × JobSnapshot}
    (h : s.transitionDevice indexed now jobId deviceId expected target fields idempotent =
      .ok r) :
    (idempotent ∧ r.1 = s) ∨ ∃ row, s.device? jobId deviceId = some row ∧
      (∀ states, expected = some states → row.state ∈ states) ∧
      validDeviceTransition row.state target ∧
      (s.updateDevice jobId deviceId (transitionedRow now target fields)).touchJob jobId now =
        .ok r := by
  rw [transitionDevice] at h
  split at h
  · exact absurd h (by simp)
  · rename_i row hrow
    split at h
    · rename_i hidem
      exact .inl ⟨hidem.2, eq_of_snapshot h⟩
    · split at h
      · exact absurd h (by simp)
      · rename_i hexpected
        split at h
        · exact absurd h (by simp)
        · rename_i hvalid
          split at h
          · exact absurd h (by simp)
          · refine .inr ⟨row, hrow, ?_, by simpa using hvalid, h⟩
            rintro states rfl
            simpa using hexpected

theorem transitionDevice_effect {indexed : Bool} {expected : Option (List DeviceState)}
    {target : DeviceState} {fields : DeviceFields} {idempotent : Bool} {r : Store × JobSnapshot}
    (h : s.transitionDevice indexed now jobId deviceId expected target fields idempotent =
      .ok r) :
    Effect now s (.transitionDevice jobId deviceId expected target fields idempotent) r.1 := by
  rcases transitionDevice_cases h with ⟨-, hr⟩ | ⟨row, hrow, hexpected, hvalid, h⟩
  · rw [hr]
    exact .same
  · obtain ⟨rfl, rfl⟩ := key_of_device? hrow
    exact rowEffect hrow (.transition hexpected hvalid) h

theorem markReconciling_effect {indexed : Bool} {expected : List DeviceState} {reason : String}
    {deadline : Millis} {r : Store × JobSnapshot}
    (h : s.markReconciling indexed now jobId deviceId expected reason deadline = .ok r) :
    Effect now s (.markReconciling jobId deviceId expected reason deadline) r.1 := by
  rcases transitionDevice_cases h with ⟨hidem, -⟩ | ⟨row, hrow, hexpected, hvalid, h⟩
  · exact absurd hidem (by simp)
  · obtain ⟨rfl, rfl⟩ := key_of_device? hrow
    exact rowEffect hrow (.markReconciling (hexpected _ rfl) hvalid) h

theorem settleResult_effect {attempt : Nat} {result : TerminalResult}
    {r : Store × Bool × Option String × JobSnapshot}
    (h : s.settleResult now jobId deviceId attempt result = .ok r) :
    Effect now s (.settleResult jobId deviceId attempt result) r.1 := by
  rw [settleResult] at h
  split at h
  · exact absurd h (by simp)
  · rename_i hattempt
    rw [not_not] at hattempt
    split at h
    · exact absurd h (by simp)
    · rename_i row hrow
      obtain ⟨rfl, rfl⟩ := key_of_device? hrow
      split at h
      · obtain ⟨shown, -, hr⟩ := Except.bind_eq_ok.mp h
        cases hr
        exact .same
      · split at h
        · obtain ⟨shown, -, hr⟩ := Except.bind_eq_ok.mp h
          cases hr
          exact .same
        · split at h
          · obtain ⟨shown, -, hr⟩ := Except.bind_eq_ok.mp h
            cases hr
            exact .same
          · rename_i hallowed
            obtain ⟨⟨t, shown⟩, ht, hr⟩ := Except.bind_eq_ok.mp h
            cases hr
            subst hattempt
            rw [touchJob_eq ht]
            have edit : RowEdit now s row (.settleResult row.jobId row.deviceId 1 result)
                (settledRow now result) true := .settle (by simpa using hallowed)
            exact .row hrow edit

theorem recoverStartupSync_effect {acceptTimeout timeout : Nat}
    {r : Store × List JobSnapshot × List JobId}
    (h : s.recoverStartupSync now acceptTimeout timeout = .ok r) :
    Effect now s (.recoverStartupSync acceptTimeout timeout) r.1 := by
  rw [recoverStartupSync] at h
  obtain ⟨t, ht, h⟩ := Except.bind_eq_ok.mp h
  obtain ⟨shown, -, hr⟩ := Except.bind_eq_ok.mp h
  cases hr
  rw [rederiveJobs_eq (List.nodup_dedup _) ht]
  exact .recover rfl

theorem claimNext_effect {indexed : Bool} {online : List DeviceId}
    {r : Store × Option (DeviceRow × JobSnapshot)}
    (h : s.claimNext indexed now online = .ok r) : Effect now s (.claimNext online) r.1 := by
  rw [claimNext] at h
  split at h
  · cases h
    exact .same
  · rename_i row hclaim
    split at h
    · cases h
      exact .same
    · obtain ⟨⟨t, shown⟩, ht, hr⟩ := Except.bind_eq_ok.mp h
      cases hr
      have hmem : row ∈ s.devices.rows := List.mem_of_mem_filter (List.argmin_mem hclaim)
      exact rowEffect (mem_devices.mp hmem) (.claim hclaim) ht

theorem prepareDispatch_effect {protocol : ProtocolMode} {capabilities : List String}
    {deadline : Option Millis} {r : Store × JobSnapshot}
    (h : s.prepareDispatch now jobId deviceId protocol capabilities deadline = .ok r) :
    Effect now s (.prepareDispatch jobId deviceId protocol capabilities deadline) r.1 := by
  rw [prepareDispatch] at h
  split at h
  · exact absurd h (by simp)
  · rename_i row hrow
    obtain ⟨rfl, rfl⟩ := key_of_device? hrow
    split at h
    · exact absurd h (by simp)
    · split at h
      · exact absurd h (by simp)
      · split at h
        · exact absurd h (by simp)
        · rename_i hstate
          exact rowEffect hrow (.prepare (not_not.mp hstate)) h

theorem markAcceptanceReconciling_effect {acceptDeadline deadline : Millis}
    {r : Store × Bool × JobSnapshot}
    (h : s.markAcceptanceReconciling now jobId deviceId acceptDeadline deadline = .ok r) :
    Effect now s (.markAcceptanceReconciling jobId deviceId acceptDeadline deadline) r.1 := by
  rw [markAcceptanceReconciling] at h
  split at h
  · exact absurd h (by simp)
  · rename_i row hrow
    obtain ⟨rfl, rfl⟩ := key_of_device? hrow
    simp only at h
    split at h
    · obtain ⟨shown, -, hr⟩ := Except.bind_eq_ok.mp h
      cases hr
      exact .same
    · split at h
      · exact absurd h (by simp)
      · rename_i hguard
        simp only [not_or, not_not] at hguard
        obtain ⟨⟨t, shown⟩, ht, hr⟩ := Except.bind_eq_ok.mp h
        cases hr
        exact rowEffect hrow (.acceptanceExpired hguard.1 hguard.2.1 hguard.2.2) ht

theorem markUnconfirmed_effect {pid : Option String} {detail : String}
    {expectedDeadline observedNow : Option Millis} {r : Store × List JobSnapshot}
    (h : s.markUnconfirmed now jobId deviceId pid detail expectedDeadline observedNow = .ok r) :
    Effect now s (.markUnconfirmed jobId deviceId pid detail expectedDeadline observedNow)
      r.1 := by
  rw [markUnconfirmed] at h
  split at h
  · exact absurd h (by simp)
  · rename_i row hrow
    obtain ⟨rfl, rfl⟩ := key_of_device? hrow
    split at h
    · exact absurd h (by simp)
    · split at h
      · exact absurd h (by simp)
      · rename_i hstate
        simp only at h
        split at h
        · exact absurd h (by simp)
        · rename_i hstale
          obtain ⟨t, ht, h⟩ := Except.bind_eq_ok.mp h
          obtain ⟨shown, -, hr⟩ := Except.bind_eq_ok.mp h
          cases hr
          rw [touchJobs_eq (nodup_visibleJobIds _ _ _) ht]
          refine .unconfirm hrow (not_not.mp hstate) rfl fun deadline hdeadline => ?_
          simpa [hdeadline] using hstale

theorem addOpaqueFence_effect {identity : OpaqueIdentity} {protocol : ProtocolMode}
    {pid : Option String} {reason : String} {r : Store × List JobSnapshot}
    (h : s.addOpaqueFence now deviceId identity protocol pid reason = .ok r) :
    Effect now s (.addOpaqueFence deviceId identity protocol pid reason) r.1 := by
  rw [addOpaqueFence] at h
  split at h
  · exact absurd h (by simp)
  · simp only at h
    split at h
    · cases h
      exact .same
    · rename_i hnew
      rw [bumpJobs_eq (nodup_visibleJobIds _ _ _) h]
      refine .fenceUnknown ?_ rfl
      intro fence hfence
      simpa [hfence] using hnew

/-- A job that shows a fence of one of its devices is among the jobs bumped for it. -/
private theorem mem_visibleJobIds_of_shows {fence : FenceRow} {k : JobId} {job : JobRow}
    (hfence : s.fence? fence.deviceId = some fence) (hjob : s.job? k = some job)
    (hshows : s.showsFence k fence) :
    k ∈ s.visibleJobIds fence.deviceId fence.blockingJobId := by
  rw [mem_visibleJobIds]
  rw [showsFence] at hshows
  split at hshows
  · rename_i blocking hblocker
    have : blocking = k := by simpa using hshows
    exact .inr (.inl ⟨by simp [FenceRow.blockingJobId, hblocker, this], by simp [hjob]⟩)
  · rename_i identity hblocker
    refine .inr (.inr ⟨?_, by simpa using hshows⟩)
    simp [isOpaqueFenced, hfence, FenceRow.blockingOpaqueIdentity, hblocker]

theorem clearFenceOnProcessReplacement_effect {pid : Option String} {hasJobV1 : Bool}
    {r : Store × List JobSnapshot}
    (h : s.clearFenceOnProcessReplacement now deviceId pid hasJobV1 = .ok r) :
    Effect now s (.clearFenceOnProcessReplacement deviceId pid hasJobV1) r.1 := by
  rw [clearFenceOnProcessReplacement] at h
  split at h
  · cases h
    exact .same
  · rename_i fence hfence
    obtain rfl := deviceId_of_fence? hfence
    split at h
    · cases h
      exact .same
    · rename_i hguard
      simp only [Bool.or_eq_true, Bool.not_eq_eq_eq_not, Bool.not_true, not_or,
        Bool.not_eq_false] at hguard
      split at h
      · cases h
        exact .same
      · rename_i hother
        rw [bumpJobs_eq (nodup_visibleJobIds _ _ _) h, hguard.1]
        exact .clear hfence (.processReplaced hguard.2 hother)
          fun k job hjob _ hshows => mem_visibleJobIds_of_shows hfence hjob hshows

/-- Deleting the fence of a job. The jobs to bump are computed after the fence is gone, from
the id of the job. -/
private theorem dropJobFence_effect {op : Op} {fence : FenceRow} {r : Store × List JobSnapshot}
    (hfence : s.fence? fence.deviceId = some fence) (hblocker : fence.blocker = .job jobId)
    (hclear : FenceClear s fence op)
    (h : s.dropJobFence now jobId fence.deviceId = .ok r) : Effect now s op r.1 := by
  rw [dropJobFence] at h
  rw [bumpJobs_eq (nodup_visibleJobIds _ _ _) h]
  refine .clear hfence hclear fun k job hjob _ hshows => ?_
  rw [showsFence, hblocker] at hshows
  have hk : jobId = k := by simpa using hshows
  rw [mem_visibleJobIds]
  refine .inr (.inl ⟨by rw [hk], ?_⟩)
  change (s.job? k).isSome
  simp [hjob]

/-- The fence a successful `isFencedFor` test has seen. -/
private theorem fence_of_isFencedFor (h : s.isFencedFor jobId deviceId) :
    ∃ fence, s.fence? fence.deviceId = some fence ∧ fence.deviceId = deviceId ∧
      fence.blocker = .job jobId := by
  rw [isFencedFor, Option.any_eq_true] at h
  obtain ⟨fence, hfence, hblocker⟩ := h
  have hdevice := deviceId_of_fence? hfence
  exact ⟨fence, by rw [hdevice]; exact hfence, hdevice, by simpa using hblocker⟩

theorem clearMatchingFence_effect {attempt : Nat} {r : Store × List JobSnapshot}
    (h : s.clearMatchingFence now jobId deviceId attempt = .ok r) :
    Effect now s (.clearMatchingFence jobId deviceId attempt) r.1 := by
  rw [clearMatchingFence] at h
  split at h
  · cases h
    exact .same
  · rename_i hattempt
    rw [not_not] at hattempt
    subst hattempt
    split at h
    · cases h
      exact .same
    · rename_i hfenced
      obtain ⟨fence, hfence, rfl, hblocker⟩ := fence_of_isFencedFor (by simpa using hfenced)
      exact dropJobFence_effect hfence hblocker (.matching hblocker) h

theorem clearMatchingOpaqueFence_effect {attempt : Nat} {r : Store × Bool × List JobSnapshot}
    (h : s.clearMatchingOpaqueFence now deviceId jobId attempt = .ok r) :
    Effect now s (.clearMatchingOpaqueFence deviceId jobId attempt) r.1 := by
  rw [clearMatchingOpaqueFence] at h
  split at h
  · rename_i expected artifact hexpected
    have hattempt : attempt = 1 := by
      by_contra hne
      simp [canonicalOpaqueJobIdentity, hne] at hexpected
    subst hattempt
    split at h
    · rename_i fenceDevice identity pid reason created updated hfence
      split at h
      · rename_i hnamed
        rw [Option.any_eq_true] at hnamed
        obtain ⟨named, hparse, hnamed⟩ := hnamed
        obtain ⟨⟨t, shown⟩, ht, hr⟩ := Except.bind_eq_ok.mp h
        cases hr
        obtain rfl := deviceId_of_fence? hfence
        rw [bumpJobs_eq (nodup_visibleJobIds _ _ _) ht]
        refine .clear hfence
          (.matchingUnknown rfl rfl hexpected hparse (by simpa using hnamed)) ?_
        exact fun k job hjob _ hshows => mem_visibleJobIds_of_shows hfence hjob hshows
      · cases h
        exact .same
    · cases h
      exact .same
  · cases h
    exact .same

theorem settleLateFencedResult_effect {attempt : Nat} {r : Store × Bool × List JobSnapshot}
    (h : s.settleLateFencedResult now jobId deviceId attempt = .ok r) :
    Effect now s (.settleLateFencedResult jobId deviceId attempt) r.1 := by
  rw [settleLateFencedResult] at h
  split at h
  · cases h
    exact .same
  · rename_i hattempt
    rw [not_not] at hattempt
    subst hattempt
    split at h
    · cases h
      exact .same
    · rename_i row hrow
      split at h
      · cases h
        exact .same
      · rename_i hstate
        split at h
        · obtain ⟨shown, -, hr⟩ := Except.bind_eq_ok.mp h
          cases hr
          exact .same
        · split at h
          · cases h
            exact .same
          · rename_i hfenced
            obtain ⟨fence, hfence, rfl, hblocker⟩ := fence_of_isFencedFor (by simpa using hfenced)
            obtain ⟨⟨t, shown⟩, ht, hr⟩ := Except.bind_eq_ok.mp h
            cases hr
            exact dropJobFence_effect hfence hblocker
              (.lateResult hblocker hrow (not_not.mp hstate)) ht

/-- The row writes of `reconcile_report`. -/
private theorem applyReport_effect {op : Op} {row : DeviceRow} {f : DeviceRow → DeviceRow}
    {hf : ∀ row, (f row).key = row.key} {outcome : ReportOutcome}
    {r : Store × ReportOutcome × List JobSnapshot}
    (hrow : s.device? row.jobId row.deviceId = some row) (edit : RowEdit now s row op f false)
    (h : s.applyReport now row.jobId row.deviceId f outcome hf = .ok r) :
    Effect now s op r.1 := by
  obtain ⟨⟨t, shown⟩, ht, hr⟩ := Except.bind_eq_ok.mp h
  cases hr
  exact rowEffect hrow edit ht

theorem reconcileReport_effect {attempt : Nat} {status : ReportStatus}
    {phase detail : Option String} {r : Store × ReportOutcome × List JobSnapshot}
    (h : s.reconcileReport now jobId deviceId attempt status phase detail = .ok r) :
    Effect now s (.reconcileReport jobId deviceId attempt status phase detail) r.1 := by
  rw [reconcileReport] at h
  split at h
  · exact absurd h (by simp)
  · rename_i hattempt
    rw [not_not] at hattempt
    subst hattempt
    split at h
    · rename_i row job hrow hjob
      obtain ⟨rfl, rfl⟩ := key_of_device? hrow
      split at h
      · exact absurd h (by simp)
      · split at h
        · rename_i hlate
          split at h
          · exact absurd h (by simp)
          · rename_i hfenced
            obtain ⟨fence, hfence, hdevice, hblocker⟩ :=
              fence_of_isFencedFor (by simpa using hfenced)
            obtain ⟨⟨t, shown⟩, ht, hr⟩ := Except.bind_eq_ok.mp h
            cases hr
            rw [← hdevice] at ht hrow ⊢
            exact dropJobFence_effect hfence hblocker
              (.report hblocker hrow hlate.1 hlate.2) ht
        · split at h
          · exact absurd h (by simp)
          · rename_i hstate
            rw [not_not] at hstate
            split at h
            · split at h
              · exact absurd h (by simp)
              · rename_i target htarget
                exact applyReport_effect hrow (.reportActive hstate htarget) h
            · split at h
              · rename_i hreplay
                exact applyReport_effect hrow (.reportRequeued hstate hjob hreplay) h
              · rename_i hreplay
                refine applyReport_effect hrow (.reportInterrupted hstate (.inl rfl) ?_) h
                rintro job' hjob'
                rw [hjob, Option.some.injEq] at hjob'
                exact hjob' ▸ hreplay
            · split at h
              · rename_i hreplay
                exact absurd hreplay (by simp [replayable])
              · rename_i hreplay
                refine applyReport_effect hrow (.reportInterrupted hstate (.inr rfl) ?_) h
                rintro job' hjob'
                rw [hjob, Option.some.injEq] at hjob'
                exact hjob' ▸ hreplay
            · exact absurd h (by simp)
    · exact absurd h (by simp)

/-- The filter of `missingArtifacts` on one job row. -/
private theorem missing_entry {isFile : String → Bool} {job : JobRow} {entry : JobRow × String}
    (h : (if job.state ∈ [JobState.ready, .running, .reconciling] then
      match job.artifactId.bind s.artifacts.find? with
      | some artifact =>
        if isFile artifact.storageName then none else some (job, artifact.storageName)
      | none => none
    else none) = some entry) :
    entry.1 = job ∧ (job.state = .ready ∨ job.state = .running ∨ job.state = .reconciling) := by
  split at h
  · rename_i hstate
    split at h
    · split at h
      · exact absurd h (by simp)
      · cases h
        exact ⟨rfl, by simpa using hstate⟩
    · exact absurd h (by simp)
  · exact absurd h (by simp)

/-- Every entry of `missingArtifacts` is a row of the job table. -/
theorem mem_missingArtifacts {isFile : String → Bool} {entry : JobRow × String}
    (h : entry ∈ s.missingArtifacts isFile) :
    s.job? entry.1.jobId = some entry.1 ∧
      (entry.1.state = .ready ∨ entry.1.state = .running ∨ entry.1.state = .reconciling) := by
  rw [missingArtifacts, List.mem_filterMap] at h
  obtain ⟨job, hmem, hentry⟩ := h
  obtain ⟨rfl, hstate⟩ := missing_entry hentry
  exact ⟨mem_jobs.mp hmem, hstate⟩

theorem nodup_missingArtifacts (s : Store) (isFile : String → Bool) :
    ((s.missingArtifacts isFile).map (·.1.jobId)).Nodup := by
  have hjobs := List.pairwise_map.mp s.jobs.nodup
  rw [List.Nodup, List.pairwise_map, missingArtifacts, List.pairwise_filterMap]
  refine hjobs.imp fun {job job'} hne entry hentry entry' hentry' heq => hne ?_
  rw [← (missing_entry hentry).1, ← (missing_entry hentry').1]
  exact heq

theorem reconcileMissingArtifactsSync_effect {isFile : String → Bool}
    {r : Store × List JobSnapshot} (h : s.reconcileMissingArtifactsSync now isFile = .ok r) :
    Effect now s (.reconcileMissingArtifactsSync isFile) r.1 := by
  rw [reconcileMissingArtifactsSync] at h
  obtain ⟨t, ht, h⟩ := Except.bind_eq_ok.mp h
  obtain ⟨shown, -, hr⟩ := Except.bind_eq_ok.mp h
  cases hr
  exact .artifactsFailed (foldlM_failMissingArtifact_spec (s.nodup_missingArtifacts isFile)
    (fun entry hentry => (mem_missingArtifacts hentry).1) ht)

end Operations

/-- **Every committed operation has one of the listed effects.** -/
theorem effect_of_run {indexed : Bool} {now : Millis} {s : Store} {op : Op} {r : Store × Reply}
    (h : op.run indexed now s = .ok r) : Effect now s op r.1 := by
  cases op
  all_goals
    rw [Op.run] at h
    obtain ⟨a, ha, rfl⟩ := Except.map_eq_ok.mp h
  case createJob => exact createJob_effect ha
  case startUpload => exact startUpload_effect ha
  case markPackaging => exact markPackaging_effect ha
  case publishArtifact => exact publishArtifact_effect ha
  case failPreDispatch => exact failPreDispatch_effect ha
  case enableDispatch => exact enableDispatch_effect ha
  case transitionDevice => exact transitionDevice_effect ha
  case settleResult => exact settleResult_effect ha
  case markReconciling => exact markReconciling_effect ha
  case expireCreated => exact expireCreated_effect ha
  case recoverStartupSync => exact recoverStartupSync_effect ha
  case claimNext => exact claimNext_effect ha
  case prepareDispatch => exact prepareDispatch_effect ha
  case markAcceptanceReconciling => exact markAcceptanceReconciling_effect ha
  case markUnconfirmed => exact markUnconfirmed_effect ha
  case addOpaqueFence => exact addOpaqueFence_effect ha
  case clearFenceOnProcessReplacement => exact clearFenceOnProcessReplacement_effect ha
  case clearMatchingFence => exact clearMatchingFence_effect ha
  case clearMatchingOpaqueFence => exact clearMatchingOpaqueFence_effect ha
  case settleLateFencedResult => exact settleLateFencedResult_effect ha
  case reconcileReport => exact reconcileReport_effect ha
  case reconcileMissingArtifactsSync => exact reconcileMissingArtifactsSync_effect ha

/-- A step has one of the listed effects. -/
theorem step_effect (indexed : Bool) (s : Store) (call : Millis × Op) :
    Effect call.1 s call.2 (s.step indexed call) := by
  rw [step]
  split
  · rename_i h
    exact effect_of_run h
  · exact .same

end Store

end StylyMdm.PushJobs
