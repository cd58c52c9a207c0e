import StylyMdm.PushJobs.OpEffect

/-!
# The changes of single rows

`Effect` says what an operation does to the store as a whole. This module reads it row by row:
what can become of one job row (`JobChange`), of one device row (`RowChange`) and of the fence of
one device (`FenceChange`), and where the rows come from that were not there before. An
invariant about rows is then a case analysis on the change of a row.

No row is ever deleted, so `JobChange` and `RowChange` relate a row before to the one after it. A
fence can come and go, and one can replace another, which is a case of `FenceChange` of its own.
The bulk updates of a restart change every row at once; read row by row they are one more case,
with the pure functions of `PushJobs.StoreOps`.
-/

namespace StylyMdm.PushJobs

namespace Store

/-- What can become of a job row. Unless the job is rederived, its device rows stay as they are;
the rows of the new store decide every derived state. -/
inductive JobChange (now : Millis) (s s' : Store) (job : JobRow) : Op → JobRow → Prop
  | same {op : Op} (hrows : s'.jobRows job.jobId = s.jobRows job.jobId) :
    JobChange now s s' job op job
  | edit {op : Op} {f : JobRow → JobRow} (hrows : s'.jobRows job.jobId = s.jobRows job.jobId)
      (edit : JobEdit now job op f) : JobChange now s s' job op (f job)
  | published {artifact : PublishedArtifact}
      (hrows : s'.jobRows job.jobId = s.jobRows job.jobId) (hstate : job.state = .packaging) :
    JobChange now s s' job (.publishArtifact job.jobId artifact)
      (artifactReady now artifact.artifactId job)
  | touched {op : Op} {timestamp : Millis} : JobChange now s s' job op (s'.touchedJob timestamp job)
  | bumped {op : Op} (hrows : s'.jobRows job.jobId = s.jobRows job.jobId) :
    JobChange now s s' job op (bumpedJob now job)
  | recovered {acceptTimeout timeout : Nat} :
    JobChange now s s' job (.recoverStartupSync acceptTimeout timeout)
      (s'.rederived now ((recoverJob now job).getD job))
  | artifactMissing {isFile : String → Bool} {storageName : String}
      (hrows : s'.jobRows job.jobId = s.jobRows job.jobId) (hstate : job.state = .ready) :
    JobChange now s s' job (.reconcileMissingArtifactsSync isFile)
      (artifactMissingJob now storageName job)

/-- What can become of a device row. -/
inductive RowChange (now : Millis) (s : Store) (row : DeviceRow) : Op → DeviceRow → Prop
  | same {op : Op} : RowChange now s row op row
  | edit {op : Op} {f : DeviceRow → DeviceRow} {drop : Bool} (edit : RowEdit now s row op f drop) :
    RowChange now s row op (f row)
  | unconfirmed {pid : Option String} {detail : String}
      {expectedDeadline observedNow : Option Millis} (hstate : row.state = .reconciling) :
    RowChange now s row
      (.markUnconfirmed row.jobId row.deviceId pid detail expectedDeadline observedNow)
      (unconfirmedRow (observedNow.getD now) detail row)
  | recovered {acceptTimeout timeout : Nat} :
    RowChange now s row (.recoverStartupSync acceptTimeout timeout)
      ((recoverRow now acceptTimeout timeout row).getD row)
  | artifactMissing {isFile : String → Bool} {storageName : String} {job : JobRow}
      (hjob : s.job? row.jobId = some job)
      (hdispatched : job.state = .running ∨ job.state = .reconciling)
      (hneeds : needsArtifact row.state) :
    RowChange now s row (.reconcileMissingArtifactsSync isFile)
      (artifactMissingRow now storageName row)

/-- What can become of the fence of a device. -/
inductive FenceChange (now : Millis) (s s' : Store) (deviceId : DeviceId) :
    Op → Option FenceRow → Prop
  | same {op : Op} : FenceChange now s s' deviceId op (s.fence? deviceId)
  | settled {jobId : JobId} {row : DeviceRow} {fence : FenceRow} {result : TerminalResult}
      (hfence : s.fence? deviceId = some fence) (hblocker : fence.blocker = .job jobId)
      (hrow : s.device? jobId deviceId = some row) (hstate : settleAllowed row.state) :
    FenceChange now s s' deviceId (.settleResult jobId deviceId 1 result) none
  | cleared {op : Op} {fence : FenceRow} (hfence : s.fence? deviceId = some fence)
      (hclear : FenceClear s fence op) : FenceChange now s s' deviceId op none
  | unconfirmed {jobId : JobId} {row row' : DeviceRow} {pid : Option String} {detail : String}
      {expectedDeadline observedNow : Option Millis} {fence : FenceRow}
      (hrow : s.device? jobId deviceId = some row) (hstate : row.state = .reconciling)
      (hrow' : s'.device? jobId deviceId = some row') (hstate' : row'.state = .unconfirmed)
      (hblocker : fence.blocker = .job jobId)
      (hdue : ∀ deadline, expectedDeadline = some deadline →
        row.reconciliationDeadline = some deadline ∧ deadline ≤ observedNow.getD now) :
    FenceChange now s s' deviceId
      (.markUnconfirmed jobId deviceId pid detail expectedDeadline observedNow) (some fence)
  | unknown {identity : OpaqueIdentity} {protocol : ProtocolMode} {pid : Option String}
      {reason : String} {fence : FenceRow} (hblocker : fence.blocker = .unknown identity)
      (hmode : fence.protocolMode = protocol) :
    FenceChange now s s' deviceId (.addOpaqueFence deviceId identity protocol pid reason)
      (some fence)

/-! ### Reading the effect of an operation -/

section Reading

variable {now : Millis} {s s' : Store} {op : Op}

@[simp] theorem job?_dropFenceIf {drop : Bool} {deviceId : DeviceId} {jobId k : JobId} :
    (s.dropFenceIf drop deviceId jobId).job? k = s.job? k := by
  cases drop <;> rfl

@[simp] theorem devices_dropFenceIf {drop : Bool} {deviceId : DeviceId} {jobId : JobId} :
    (s.dropFenceIf drop deviceId jobId).devices = s.devices := by
  cases drop <;> rfl

theorem job?_recoverRows {acceptTimeout timeout : Nat} {k : JobId} :
    (s.recoverRows now acceptTimeout timeout).job? k =
      (s.job? k).map fun job => (recoverJob now job).getD job := by
  rw [job?, recoverRows, Table.find?_update]
  rfl

theorem device?_recoverRows {acceptTimeout timeout : Nat} {k : JobId} {d : DeviceId} :
    (s.recoverRows now acceptTimeout timeout).device? k d =
      (s.device? k d).map fun row => (recoverRow now acceptTimeout timeout row).getD row := by
  rw [device?, recoverRows, Table.find?_update]
  rfl

theorem mem_recoveryTouched {acceptTimeout timeout : Nat} {k : JobId} :
    k ∈ s.recoveryTouched now acceptTimeout timeout ↔
      (∃ job, s.job? k = some job ∧ (recoverJob now job).isSome) ∨
        ∃ d row, s.device? k d = some row ∧ (recoverRow now acceptTimeout timeout row).isSome := by
  rw [recoveryTouched, List.mem_dedup, List.mem_append, List.mem_map, List.mem_map]
  constructor
  · rintro (⟨job, hjob, rfl⟩ | ⟨row, hrow, rfl⟩)
    · rw [List.mem_filter] at hjob
      exact .inl ⟨job, mem_jobs.mp hjob.1, hjob.2⟩
    · rw [List.mem_filter] at hrow
      exact .inr ⟨row.deviceId, row, mem_devices.mp hrow.1, hrow.2⟩
  · rintro (⟨job, hjob, hsome⟩ | ⟨d, row, hrow, hsome⟩)
    · obtain rfl := jobId_of_job? hjob
      exact .inl ⟨job, List.mem_filter.mpr ⟨mem_jobs.mpr hjob, hsome⟩, rfl⟩
    · obtain ⟨rfl, rfl⟩ := key_of_device? hrow
      exact .inr ⟨row, List.mem_filter.mpr ⟨mem_devices.mpr hrow, hsome⟩, rfl⟩

theorem jobRows_recoverRows {acceptTimeout timeout : Nat} {k : JobId} :
    (s.recoverRows now acceptTimeout timeout).jobRows k =
      (s.jobRows k).map fun row => (recoverRow now acceptTimeout timeout row).getD row := by
  have hkey := recoverRow_key now acceptTimeout timeout
  change (s.updateDevices (fun _ => true) _ hkey).jobRows k = _
  rw [jobRows_updateDevices]
  simp

/-- Every job row survives, changed in one of the listed ways. -/
theorem Effect.jobChange (e : Effect now s op s') {k : JobId} {job : JobRow}
    (hk : s.job? k = some job) :
    ∃ job', s'.job? k = some job' ∧ JobChange now s s' job op job' := by
  obtain rfl := jobId_of_job? hk
  cases e with
  | same => exact ⟨job, hk, .same rfl⟩
  | job hjob edit =>
    rename_i job₀ f hf
    by_cases h : job.jobId = job₀.jobId
    · rw [h, hjob, Option.some.injEq] at hk
      subst hk
      exact ⟨_, by rw [job?_updateJob_self, hjob]; rfl, .edit rfl edit⟩
    · exact ⟨job, by rw [job?_updateJob_of_ne h, hk], .same rfl⟩
  | publish hjob hstate hnew hrows =>
    rename_i job₀ artifact artifacts
    by_cases h : job.jobId = job₀.jobId
    · rw [h, hjob, Option.some.injEq] at hk
      subst hk
      exact ⟨_, by rw [job?_updateJob_self]; exact congrArg _ hjob, .published rfl hstate⟩
    · exact ⟨job, by rw [job?_updateJob_of_ne h]; exact hk, .same rfl⟩
  | row hrow edit =>
    rename_i row f drop hf
    by_cases h : job.jobId = row.jobId
    · refine ⟨touchedJob (dropFenceIf (s.updateDevice row.jobId row.deviceId f hf) drop
        row.deviceId row.jobId) now job, ?_, .touched⟩
      rw [h] at hk ⊢
      rw [touched, job?_updateJob_self, job?_dropFenceIf]
      exact congrArg _ hk
    · refine ⟨job, ?_, .same ?_⟩
      · rw [touched, job?_updateJob_of_ne h, job?_dropFenceIf]
        exact hk
      · rw [touched, jobRows_updateJob, jobRows, devices_dropFenceIf]
        exact jobRows_updateDevice_of_ne h
  | unconfirm hrow hstate ht hdue =>
    rename_i row pid detail expectedDeadline observedNow t
    have htk : t.job? job.jobId = some job := ht ▸ hk
    by_cases h : job.jobId ∈ t.visibleJobIds row.deviceId (some row.jobId)
    · exact ⟨t.touchedJob (observedNow.getD now) job, job?_updateJobs_of_mem htk h, .touched⟩
    · refine ⟨job, (job?_updateJobs_of_notMem h).trans htk, .same ?_⟩
      -- the job of the row itself is among the bumped ones
      have hne : job.jobId ≠ row.jobId := by
        intro heq
        exact h (mem_visibleJobIds.mpr (.inr (.inl ⟨by rw [heq], by simp [htk]⟩)))
      have hlook : (s.updateDevice row.jobId row.deviceId
          (unconfirmedRow (observedNow.getD now) detail)).jobRows job.jobId =
          s.jobRows job.jobId := jobRows_updateDevice_of_ne hne
      rw [ht]
      exact hlook
  | fenceUnknown hnew ht =>
    rename_i deviceId identity protocol pid reason t
    have htk : t.job? job.jobId = some job := ht ▸ hk
    have hrows : t.jobRows job.jobId = s.jobRows job.jobId := by
      rw [ht]
      rfl
    by_cases h : job.jobId ∈ t.visibleJobIds deviceId
    · exact ⟨_, job?_updateJobs_of_mem htk h, .bumped hrows⟩
    · exact ⟨job, (job?_updateJobs_of_notMem h).trans htk, .same hrows⟩
  | clear hfence hclear hids =>
    rename_i fence ids
    have htk : (s.deleteFence fence.deviceId).job? job.jobId = some job := hk
    by_cases h : job.jobId ∈ ids
    · exact ⟨_, job?_updateJobs_of_mem htk h, .bumped rfl⟩
    · exact ⟨job, (job?_updateJobs_of_notMem h).trans htk, .same rfl⟩
  | create hnew hrequest hjobs hrows hdevices =>
    rename_i jobId request targetProtocols timeout jobs devices rows
    have hne : job.jobId ≠ jobId := by
      rintro rfl
      rw [hnew] at hk
      exact absurd hk (by simp)
    refine ⟨job, (job?_append hnew hjobs).trans ((if_neg hne).trans hk), .same ?_⟩
    have hnone : rows.filter (fun row => row.jobId = job.jobId) = [] := by
      refine List.filter_eq_nil_iff.mpr fun row hrow => ?_
      obtain ⟨i, d, protocol, capabilities, rfl⟩ := hrows.fresh row hrow
      exact Bool.not_eq_true _ ▸ decide_eq_false (Ne.symm hne)
    simp only [jobRows, hdevices, List.filter_append, hnone, List.append_nil]
  | recover ht =>
    rename_i acceptTimeout timeout t
    have htk : t.job? job.jobId = some ((recoverJob now job).getD job) := by
      rw [ht, job?_recoverRows, hk]
      rfl
    by_cases h : job.jobId ∈ s.recoveryTouched now acceptTimeout timeout
    · exact ⟨t.rederived now _, job?_updateJobs_of_mem htk h, .recovered⟩
    · refine ⟨_, (job?_updateJobs_of_notMem h).trans htk, ?_⟩
      rw [mem_recoveryTouched, not_or] at h
      have hnone : recoverJob now job = none := by
        by_contra hsome
        exact h.1 ⟨job, hk, Option.isSome_iff_ne_none.mpr hsome⟩
      rw [hnone]
      refine .same ?_
      change t.jobRows job.jobId = _
      rw [ht, jobRows_recoverRows]
      refine (List.map_congr_left fun row hrow => ?_).trans (List.map_id _)
      rcases hrec : recoverRow now acceptTimeout timeout row with _ | row'
      · rfl
      · exact absurd ⟨row.deviceId, row, mem_jobRows.mp hrow, by simp [hrec]⟩ h.2
  | artifactsFailed h =>
    rename_i isFile
    by_cases hmem : job.jobId ∈ (s.missingArtifacts isFile).map (·.1.jobId)
    · obtain ⟨⟨job₀, storageName⟩, hentry, hid⟩ := List.mem_map.mp hmem
      simp only at hid
      have hjob := (mem_missingArtifacts hentry).1
      simp only at hjob
      rw [hid, hk, Option.some.injEq] at hjob
      subst hjob
      by_cases hready : job.state = .ready
      · obtain ⟨hjob', hrows⟩ := h.ready _ hentry hready
        exact ⟨_, hjob', .artifactMissing hrows hready⟩
      · exact ⟨_, (h.dispatched _ hentry hready).1, .touched⟩
    · obtain ⟨hjob', hrows⟩ := h.other _ hmem
      exact ⟨job, hjob'.trans hk, .same hrows⟩

/-- A job row that was not there before was created by this operation. -/
theorem Effect.job_of_new (e : Effect now s op s') {k : JobId} {job' : JobRow}
    (hk : s.job? k = none) (hk' : s'.job? k = some job') :
    ∃ request targetProtocols timeout, op = .createJob k request targetProtocols timeout ∧
      job' = newJobRow now k request timeout := by
  have hnone : ∀ {t : Store}, t.job? k = none →
      ∀ ids f hf, (t.updateJobs ids f hf).job? k = none := by
    intro t ht ids f hf
    rw [job?_updateJobs, ht]
    rfl
  have hone : ∀ {t : Store}, t.job? k = none → ∀ j f hf, (t.updateJob j f hf).job? k = none := by
    intro t ht j f hf
    rw [job?_updateJob, ht]
    rfl
  cases e with
  | same => exact absurd (hk.symm.trans hk') (by simp)
  | job hjob edit => exact absurd ((hone hk _ _ _).symm.trans hk') (by simp)
  | publish hjob hstate hnew hrows =>
    exact absurd ((hone (t := { s with artifacts := _ }) hk _ _ _).symm.trans hk') (by simp)
  | row hrow edit =>
    exact absurd ((hone (by rw [job?_dropFenceIf]; exact hk) _ _ _).symm.trans hk') (by simp)
  | unconfirm hrow hstate ht hdue => exact absurd ((hnone (ht ▸ hk) _ _ _).symm.trans hk') (by simp)
  | fenceUnknown hnew ht => exact absurd ((hnone (ht ▸ hk) _ _ _).symm.trans hk') (by simp)
  | clear hfence hclear hids =>
    rename_i fence ids
    exact absurd ((hnone (t := s.deleteFence fence.deviceId) hk _ _ _).symm.trans hk') (by simp)
  | create hnew hrequest hjobs hrows hdevices =>
    rename_i jobId request targetProtocols timeout jobs devices rows
    rw [job?_append (s := s) hnew hjobs, show (newJobRow now jobId request timeout).jobId = jobId
      from rfl] at hk'
    by_cases h : k = jobId
    · subst h
      rw [if_pos rfl, Option.some.injEq] at hk'
      exact ⟨request, targetProtocols, timeout, rfl, hk'.symm⟩
    · rw [if_neg h, hk] at hk'
      exact absurd hk' (by simp)
  | recover ht =>
    refine absurd ((hnone ?_ _ _ _).symm.trans hk') (by simp)
    rw [ht, job?_recoverRows, hk]
    rfl
  | artifactsFailed h =>
    rename_i isFile
    have hmem : k ∉ (s.missingArtifacts isFile).map (·.1.jobId) := by
      intro hmem
      obtain ⟨entry, hentry, rfl⟩ := List.mem_map.mp hmem
      exact absurd (hk.symm.trans (mem_missingArtifacts hentry).1) (by simp)
    exact absurd (hk.symm.trans ((h.other k hmem).1.symm.trans hk')) (by simp)

/-- The device rows of the new store, from those of the old one. -/
theorem Effect.rowChange (e : Effect now s op s') {k : JobId} {d : DeviceId} {row : DeviceRow}
    (hk : s.device? k d = some row) :
    ∃ row', s'.device? k d = some row' ∧ RowChange now s row op row' := by
  cases e with
  | same | job hjob edit | publish hjob hstate hnew hrows | fenceUnknown hnew ht
  | clear hfence hclear hids =>
    exact ⟨row, by first | exact hk | exact ht ▸ hk, .same⟩
  | row hrow edit =>
    rename_i row₀ f drop hf
    have hlook : (((s.updateDevice row₀.jobId row₀.deviceId f hf).dropFenceIf drop row₀.deviceId
        row₀.jobId).touched row₀.jobId now).device? k d =
        (s.updateDevice row₀.jobId row₀.deviceId f hf).device? k d := by
      rw [touched, device?_updateJob, device?, devices_dropFenceIf]
      rfl
    rw [hlook, device?_updateDevice, hk, Option.map_some]
    by_cases h : (k, d) = (row₀.jobId, row₀.deviceId)
    · obtain ⟨rfl, rfl⟩ := Prod.mk.inj h
      rw [hrow, Option.some.injEq] at hk
      subst hk
      exact ⟨_, by rw [if_pos rfl], .edit edit⟩
    · exact ⟨row, by rw [if_neg h], .same⟩
  | unconfirm hrow hstate ht hdue =>
    rename_i row₀ pid detail expectedDeadline observedNow t
    have hlook : t.device? k d = (s.updateDevice row₀.jobId row₀.deviceId
        (unconfirmedRow (observedNow.getD now) detail)).device? k d := by
      rw [ht]
      rfl
    change ∃ row', t.device? k d = some row' ∧ _
    rw [hlook, device?_updateDevice, hk, Option.map_some]
    by_cases h : (k, d) = (row₀.jobId, row₀.deviceId)
    · obtain ⟨rfl, rfl⟩ := Prod.mk.inj h
      rw [hrow, Option.some.injEq] at hk
      subst hk
      exact ⟨_, by rw [if_pos rfl], .unconfirmed hstate⟩
    · exact ⟨row, by rw [if_neg h], .same⟩
  | create hnew hrequest hjobs hrows hdevices =>
    exact ⟨row, (device?_append hdevices).mpr (.inl hk), .same⟩
  | recover ht =>
    rename_i acceptTimeout timeout t
    change ∃ row', t.device? k d = some row' ∧ _
    exact ⟨_, by rw [ht, device?_recoverRows, hk]; rfl, .recovered⟩
  | artifactsFailed h =>
    rename_i isFile
    obtain ⟨rfl, rfl⟩ := key_of_device? hk
    have hmem : row ∈ s.jobRows row.jobId := mem_jobRows.mpr hk
    by_cases hlisted : row.jobId ∈ (s.missingArtifacts isFile).map (·.1.jobId)
    · obtain ⟨⟨job, storageName⟩, hentry, hid⟩ := List.mem_map.mp hlisted
      simp only at hid
      obtain ⟨hjob, hstate⟩ := mem_missingArtifacts hentry
      simp only at hjob hstate
      by_cases hready : job.state = .ready
      · have hrows := (h.ready _ hentry hready).2
        simp only [hid] at hrows
        exact ⟨row, mem_jobRows.mp (hrows ▸ hmem), .same⟩
      · have hrows := (h.dispatched _ hentry hready).2
        simp only [hid] at hrows
        have hmem' := List.mem_map_of_mem
          (f := fun row => if needsArtifact row.state then artifactMissingRow now storageName row
            else row) hmem
        rw [← hrows] at hmem'
        by_cases hneeds : needsArtifact row.state
        · rw [if_pos hneeds] at hmem'
          refine ⟨artifactMissingRow now storageName row, mem_jobRows.mp hmem', ?_⟩
          exact .artifactMissing (hid ▸ hjob) (hstate.resolve_left hready) hneeds
        · rw [if_neg hneeds] at hmem'
          exact ⟨row, mem_jobRows.mp hmem', .same⟩
    · have hrows := (h.other _ hlisted).2
      exact ⟨row, mem_jobRows.mp (hrows ▸ hmem), .same⟩

/-- The new store has no device rows but the old ones and those `create_job` inserted. -/
theorem Effect.row_of_new (e : Effect now s op s') {k : JobId} {d : DeviceId} {row' : DeviceRow}
    (hk : s.device? k d = none) (hk' : s'.device? k d = some row') :
    ∃ request targetProtocols timeout, op = .createJob k request targetProtocols timeout ∧
      s.job? k = none ∧ s'.nextEnqueueSeq = s.nextEnqueueSeq + request.targetDevices.length ∧
      ∃ i protocol capabilities, i < request.targetDevices.length ∧
        row' = newDeviceRow now k s.nextEnqueueSeq i d protocol capabilities := by
  cases e with
  | same | job hjob edit | publish hjob hstate hnew hrows | fenceUnknown hnew ht
  | clear hfence hclear hids =>
    exact absurd (hk.symm.trans (by first | exact hk' | exact ht ▸ hk')) (by simp)
  | row hrow edit =>
    rename_i row₀ f drop hf
    rw [touched, device?_updateJob, device?, devices_dropFenceIf] at hk'
    change (s.updateDevice row₀.jobId row₀.deviceId f hf).device? k d = some row' at hk'
    rw [device?_updateDevice, hk] at hk'
    exact absurd hk' (by simp)
  | unconfirm hrow hstate ht hdue =>
    rename_i row₀ pid detail expectedDeadline observedNow t
    have hlook : t.device? k d = (s.updateDevice row₀.jobId row₀.deviceId
        (unconfirmedRow (observedNow.getD now) detail)).device? k d := by
      rw [ht]
      rfl
    change t.device? k d = some row' at hk'
    rw [hlook, device?_updateDevice, hk] at hk'
    exact absurd hk' (by simp)
  | create hnew hrequest hjobs hrows hdevices =>
    rename_i jobId request targetProtocols timeout jobs devices rows
    rcases (device?_append hdevices).mp hk' with hold | ⟨hmem, hkey⟩
    · exact absurd (hk.symm.trans hold) (by simp)
    · obtain ⟨i, d', protocol, capabilities, rfl⟩ := hrows.fresh row' hmem
      obtain ⟨rfl, rfl⟩ := Prod.mk.inj hkey
      refine ⟨request, targetProtocols, timeout, rfl, hnew, rfl, i, protocol, capabilities, ?_, rfl⟩
      -- the row's `enqueue_seq` is one of the consecutive ones
      have hseq := List.mem_map_of_mem (f := DeviceRow.enqueueSeq) hmem
      rw [hrows.seqs, List.mem_range'_1] at hseq
      change s.nextEnqueueSeq + 0 ≤ s.nextEnqueueSeq + i ∧
        s.nextEnqueueSeq + i < s.nextEnqueueSeq + 0 + request.targetDevices.length at hseq
      omega
  | recover ht =>
    rename_i acceptTimeout timeout t
    change t.device? k d = some row' at hk'
    rw [ht, device?_recoverRows, hk] at hk'
    exact absurd hk' (by simp)
  | artifactsFailed h =>
    -- the layout of the table is kept, so no key is new
    have hplace := congrArg (List.map fun p => (p.1, p.2.1)) h.layout
    rw [List.map_map, List.map_map] at hplace
    have hmem : (k, d) ∈ s'.devices.rows.map ((fun p => (p.1, p.2.1)) ∘ place) := by
      refine List.mem_map.mpr ⟨row', Table.mem_of_find? hk', ?_⟩
      exact Table.key_of_find? hk'
    rw [hplace] at hmem
    obtain ⟨row, hrow, hkey⟩ := List.mem_map.mp hmem
    exact absurd hkey (Table.find?_eq_none.mp hk row hrow)

/-- The fence of a device in the new store. -/
theorem Effect.fenceChange (e : Effect now s op s') (d : DeviceId) :
    FenceChange now s s' d op (s'.fence? d) := by
  cases e with
  | same | job hjob edit | publish hjob hstate hnew hrows
  | create hnew hrequest hjobs hrows hdevices => exact .same
  | row hrow edit =>
    rename_i row₀ f drop hf
    have hlook : (((s.updateDevice row₀.jobId row₀.deviceId f hf).dropFenceIf drop row₀.deviceId
        row₀.jobId).touched row₀.jobId now).fence? d =
        if drop then (s.fence? d).filter fun fence =>
          !(d = row₀.deviceId && fence.blocker = .job row₀.jobId) else s.fence? d := by
      cases drop
      · rfl
      · rw [touched, fence?_updateJob, dropFenceIf, if_pos rfl, fence?_deleteJobFence]
        rfl
    rw [hlook]
    cases edit with
    | settle hstate =>
      rw [if_pos rfl]
      rcases hf : s.fence? d with _ | fence
      · rw [Option.filter_none, ← hf]
        exact .same
      · by_cases hb : d = row₀.deviceId ∧ fence.blocker = .job row₀.jobId
        · obtain ⟨rfl, hb⟩ := hb
          rw [Option.filter_some, if_neg (by simp [hb])]
          exact .settled hf hb hrow hstate
        · rw [Option.filter_some, if_pos (by simpa [imp_iff_not_or] using hb), ← hf]
          exact .same
    | _ =>
      rw [if_neg Bool.false_ne_true]
      exact .same
  | unconfirm hrow hstate ht hdue =>
    rename_i row₀ pid detail expectedDeadline observedNow t
    have hfence : t.fence? d = if d = row₀.deviceId then some ((s.updateDevice row₀.jobId
        row₀.deviceId (unconfirmedRow (observedNow.getD now) detail)).upsertedFence
        (jobFence (observedNow.getD now) row₀.jobId row₀.deviceId row₀.protocolMode pid detail))
        else s.fence? d := by
      rw [ht, fence?_upsertFence]
      rfl
    change FenceChange now s _ d _ (t.fence? d)
    rw [hfence]
    split
    · rename_i hd
      subst hd
      have hlook : t.device? row₀.jobId row₀.deviceId =
          some (unconfirmedRow (observedNow.getD now) detail row₀) := by
        rw [ht]
        change (s.updateDevice row₀.jobId row₀.deviceId
          (unconfirmedRow (observedNow.getD now) detail)).device? row₀.jobId row₀.deviceId = _
        rw [device?_updateDevice, hrow, Option.map_some, if_pos rfl]
      exact .unconfirmed hrow hstate hlook rfl rfl hdue
    · exact .same
  | fenceUnknown hnew ht =>
    rename_i deviceId identity protocol pid reason t
    have hfence : t.fence? d = if d = deviceId then some (s.upsertedFence
        (opaqueFence now deviceId identity protocol pid reason)) else s.fence? d := by
      rw [ht, fence?_upsertFence]
      rfl
    change FenceChange now s _ d _ (t.fence? d)
    rw [hfence]
    split
    · rename_i hd
      obtain rfl : d = deviceId := hd
      exact .unknown rfl rfl
    · exact .same
  | clear hfence hclear hids =>
    rename_i fence ids
    change FenceChange now s _ d op ((s.deleteFence fence.deviceId).fence? d)
    rw [fence?_deleteFence]
    by_cases hd : d = fence.deviceId
    · subst hd
      rw [if_pos rfl]
      exact .cleared hfence hclear
    · rw [if_neg hd]
      exact .same
  | recover ht =>
    rename_i acceptTimeout timeout t
    have hfence : t.fence? d = s.fence? d := by
      rw [ht]
      rfl
    change FenceChange now s _ d _ (t.fence? d)
    rw [hfence]
    exact .same
  | artifactsFailed h =>
    have hfence : s'.fence? d = s.fence? d := by
      rw [fence?, h.fences]
      rfl
    rw [hfence]
    exact .same

end Reading

end Store

end StylyMdm.PushJobs
